import Mathlib.Data.List.TakeWhile
import RegEngine.Library.Url.Quote
import RegEngine.Shared.EpcisLotIdentity

/-
  `normalize_epcis_lot` (`shared/epcis_lot_identity.py`) and
  what becomes of its canonical identifier when it is
  normalised again.

  Main declarations:
    * `EpcisLotIdentity.normalizeEpcisLot`
    * `EpcisLotIdentity.Stable`
    * `EpcisLotIdentity.stable_iff_settled`
-/

--------
-- Normalisation
--------

namespace RegEngine

namespace EpcisLotIdentity

section

/- The start of a text of the pattern `_SGTIN_RE`. -/
def sgtinPrefix : List Char :=
  "urn:epc:id:sgtin:".toList

/- The groups of `_SGTIN_RE`, for such a text. -/
def matchSgtin
    (text : List Char) :
    Option (List Char × List Char × List Char) :=
  matchParts sgtinPrefix text

/- The Digital Link that is rebuilt from a GTIN and a lot. -/
def digitalLink (gtin14 token : List Char) : List Char :=
  dlPrefix ++ gtin14 ++ lotQualifier ++ Url.quote token

/-
  `normalize_epcis_lot`; a value that is no text is nothing.
  `useFull` is `prefer_full`, or `lossless_enabled()`.
-/
def normalizeEpcisLot
    (value : Option (List Char))
    (gtin : Option (List Char))
    (useFull : Bool) : Option LotIdentity :=
  let gtin14 := gtin.bind normalizeGtin14
  match value with
  | none => none
  | some value =>
      match parseClassUri value with
      | some parsed =>
          if useFull then some parsed
          else
            some ⟨parsed.lotToken, parsed.lotToken,
              parsed.gtin.or gtin14, false⟩
      | none =>
          match matchSgtin (Chars.strip value) with
          | some (company, item, serialRaw) =>
              let serial := Url.unquote serialRaw
              some ⟨if useFull then Chars.strip value else serial,
                serial,
                (companyItemToGtin14 company item).or gtin14,
                false⟩
          | none =>
              match lotTokenOnly value with
              | none => none
              | some token =>
                  if token = [] then none
                  else
                    match useFull, gtin14 with
                    | true, some gtin14 =>
                        some ⟨digitalLink gtin14 token, token,
                          some gtin14, true⟩
                    | _, _ => some ⟨token, token, gtin14, false⟩

/-
  The canonical identifier, normalised again, is the same and
  has the same lot token and GTIN; `later` is the GTIN that is
  sent with it.
-/
def Stable
    (later : Option (List Char))
    (identity : LotIdentity) : Prop :=
  ∃ again,
    normalizeEpcisLot (some identity.canonicalId) later true =
        some again ∧
      again.canonicalId = identity.canonicalId ∧
      again.lotToken = identity.lotToken ∧
      again.gtin = identity.gtin

/- The text that `parse_class_uri` takes for a placeholder. -/
def placeholder : List Char :=
  "0000000.000000".toList

/- A lot token that no part of the parser takes for a URI. -/
def IsBareToken (token : List Char) : Prop :=
  Chars.strip token = token ∧
    within "://".toList token = false ∧
    "urn:epc:".toList.isPrefixOf
      (token.flatMap Python.lowerChar) = false

/-
  What a value has to be for its canonical identifier to stand:
  a class URI; or an SGTIN with a GTIN of its own; or a value
  whose lot token has no white space at its ends, and is no
  placeholder when a Digital Link is built from it, or no URI
  when it stands for itself.
-/
def Settled
    (later gtin : Option (List Char))
    (value : List Char) : Prop :=
  match parseClassUri value with
  | some _ => True
  | none =>
      match matchSgtin (Chars.strip value) with
      | some (company, item, _) =>
          (companyItemToGtin14 company item).isSome = true ∨
            later.bind normalizeGtin14 =
              gtin.bind normalizeGtin14
      | none =>
          ∀ token, lotTokenOnly value = some token →
            match gtin.bind normalizeGtin14 with
            | some _ =>
                Chars.strip token = token ∧
                  within placeholder (Url.quote token) = false
            | none =>
                IsBareToken token ∧
                  later.bind normalizeGtin14 = none

--------
-- Texts Within Texts
--------

variable {word text front rest : List Char}

/- A word is within a text that it is a part of. -/
theorem within_iff :
    within word text = true ↔
      ∃ front rest, text = front ++ word ++ rest := by
  simp only [within, List.any_eq_true, List.mem_tails,
    List.isPrefixOf_iff_prefix]
  constructor
  · rintro ⟨tail, ⟨front, hTail⟩, ⟨rest, hRest⟩⟩
    exact ⟨front, rest, by rw [← hTail, ← hRest,
      List.append_assoc]⟩
  · rintro ⟨front, rest, hText⟩
    refine ⟨word ++ rest, ⟨front, ?_⟩, ⟨rest, rfl⟩⟩
    rw [hText, List.append_assoc]

/- The characters of a word are those of the text. -/
theorem mem_of_within
    (hWithin : within word text = true)
    {c : Char}
    (hMem : c ∈ word) :
    c ∈ text := by
  rcases Iff.mp within_iff hWithin with ⟨front, rest, rfl⟩
  simp [hMem]

/- A word without a mark lies on one side of the mark. -/
theorem within_append_cons
    {mark : Char}
    (hMark : mark ∉ word)
    (hWord : word ≠ []) :
    within word (front ++ mark :: rest) =
      (within word front || within word rest) := by
  rw [Bool.eq_iff_iff, Bool.or_eq_true]
  constructor
  · intro hWithin
    rcases Iff.mp within_iff hWithin with ⟨before, after, hText⟩
    rw [List.append_assoc] at hText
    rcases List.append_eq_append_iff.mp hText with
      ⟨gap, rfl, hRest⟩ | ⟨gap, rfl, hRest⟩
    · right
      cases gap with
      | nil =>
        cases word with
        | nil => exact absurd rfl hWord
        | cons c word =>
          rw [List.nil_append, List.cons_append] at hRest
          refine absurd ?_ hMark
          rw [(List.cons.inj hRest).1]
          exact List.mem_cons_self
      | cons c gap =>
        rw [List.cons_append] at hRest
        refine Iff.mpr within_iff ⟨gap, after, ?_⟩
        rw [(List.cons.inj hRest).2, List.append_assoc]
    · left
      rcases List.append_eq_append_iff.mp hRest with
        ⟨later, rfl, -⟩ | ⟨later, rfl, hLater⟩
      · refine Iff.mpr within_iff ⟨before, later, ?_⟩
        rw [List.append_assoc]
      · cases later with
        | nil =>
          refine Iff.mpr within_iff ⟨before, [], ?_⟩
          rw [List.append_nil, List.append_nil]
        | cons c later =>
          rw [List.cons_append] at hLater
          refine absurd ?_ hMark
          rw [(List.cons.inj hLater).1]
          exact List.mem_append_right _ List.mem_cons_self
  · rintro (hFront | hRest)
    · rcases Iff.mp within_iff hFront with ⟨before, after, rfl⟩
      refine Iff.mpr within_iff
        ⟨before, after ++ mark :: rest, ?_⟩
      simp
    · rcases Iff.mp within_iff hRest with ⟨before, after, rfl⟩
      refine Iff.mpr within_iff
        ⟨front ++ mark :: before, after, ?_⟩
      simp

end

--------
-- Words Of Patterns
--------

section

variable {word later text rest : List Char}

/- A word in two parts is matched part after part. -/
theorem dropIgnoringCase_append :
    dropIgnoringCase (word ++ later) text =
      (dropIgnoringCase word text).bind
        (dropIgnoringCase later) := by
  induction word generalizing text with
  | nil => rfl
  | cons p word ih =>
    cases text with
    | nil => rfl
    | cons c text =>
      rw [List.cons_append, dropIgnoringCase, dropIgnoringCase]
      split
      · exact ih
      · rfl

/- A word without capitals is matched by itself. -/
theorem dropIgnoringCase_self
    (hLower : ∀ p ∈ word, p.toLower = p) :
    dropIgnoringCase word (word ++ rest) = some rest := by
  induction word with
  | nil => rfl
  | cons p word ih =>
    have hSame : sameIgnoringCase p p = true := by
      rw [sameIgnoringCase, hLower p List.mem_cons_self]
      simp
    rw [List.cons_append, dropIgnoringCase, if_pos hSame]
    exact ih fun q hMem =>
      hLower q (List.mem_cons_of_mem _ hMem)

variable {p c : Char}

/- Below the letters a character is its own lower case. -/
theorem eq_of_toLower
    (hSign : p.toNat < 97)
    (hLower : c.toLower = p) :
    c = p := by
  have hNat := Chars.toNat_toLower c
  rw [hLower] at hNat
  split at hNat
  · omega
  · exact Char.toNat_inj.mp hNat.symm

/- A sign of a pattern is matched by itself alone. -/
theorem eq_of_sameIgnoringCase
    (hSign : p.toNat < 97)
    (hSame : sameIgnoringCase p c = true) :
    c = p := by
  have hS : p ≠ 's' := by
    rintro rfl
    exact absurd hSign (by decide)
  have hI : p ≠ 'i' := by
    rintro rfl
    exact absurd hSign (by decide)
  simp only [sameIgnoringCase, hS, hI, decide_false,
    Bool.false_and, Bool.or_false, decide_eq_true_eq] at hSame
  exact eq_of_toLower hSign hSame

/- A text that a word of signs was dropped from. -/
theorem eq_append_of_dropIgnoringCase
    (hSigns : ∀ p ∈ word, p.toNat < 97)
    (hDrop : dropIgnoringCase word text = some rest) :
    text = word ++ rest := by
  induction word generalizing text with
  | nil => exact Option.some.inj hDrop
  | cons p word ih =>
    cases text with
    | nil => cases hDrop
    | cons c text =>
      rw [dropIgnoringCase] at hDrop
      split at hDrop
      · rename_i hSame
        rw [eq_of_sameIgnoringCase
            (hSigns p List.mem_cons_self) hSame,
          ih (fun q hMem => hSigns q
            (List.mem_cons_of_mem _ hMem)) hDrop]
        rfl
      · cases hDrop

/-
  A word without the letters that other letters match for is
  the start of the text in lower case.
-/
theorem isPrefixOf_of_dropIgnoringCase
    (hPlain : ∀ p ∈ word,
      p.toNat < 128 ∧ p ≠ 's' ∧ p ≠ 'i')
    (hDrop : dropIgnoringCase word text = some rest) :
    word.isPrefixOf (text.flatMap Python.lowerChar) = true := by
  induction word generalizing text with
  | nil => rfl
  | cons p word ih =>
    cases text with
    | nil => cases hDrop
    | cons c text =>
      rw [dropIgnoringCase] at hDrop
      split at hDrop
      · rename_i hSame
        have hP := hPlain p List.mem_cons_self
        simp only [sameIgnoringCase, hP.2.1, hP.2.2,
          decide_false, Bool.false_and, Bool.or_false,
          decide_eq_true_eq] at hSame
        have hAscii : c.toLower.toNat < 128 := by
          rw [hSame]
          exact hP.1
        rw [List.flatMap_cons, Chars.lowerChar_eq hAscii, hSame,
          List.singleton_append, List.isPrefixOf_cons_cons_self]
        exact ih (fun q hMem => hPlain q
          (List.mem_cons_of_mem _ hMem)) hDrop
      · cases hDrop

end

--------
-- GTINs And Digital Links
--------

section

variable {raw gtin14 token text : List Char}

/- A GTIN in fourteen digits. -/
def IsGtin14 (text : List Char) : Prop :=
  text.length = 14 ∧ ∀ c ∈ text, isDecimal c = true

/- A GTIN is normalised to fourteen digits. -/
theorem isGtin14_of_normalize
    (hGtin : normalizeGtin14 raw = some gtin14) :
    IsGtin14 gtin14 := by
  have hZero : isDecimal '0' = true := by
    decide
  rw [normalizeGtin14] at hGtin
  split at hGtin
  · cases hGtin
  · rename_i hLength
    cases hGtin
    constructor
    · rw [zfill14, List.length_append, List.length_replicate]
      omega
    · intro c hMem
      rcases List.mem_append.mp hMem with hFront | hDigit
      · rw [List.eq_of_mem_replicate hFront]
        exact hZero
      · exact (List.mem_filter.mp hDigit).2

/- Fourteen digits are normalised to themselves. -/
theorem IsGtin14.normalize
    (hGtin : IsGtin14 gtin14) :
    normalizeGtin14 gtin14 = some gtin14 := by
  have hKept : gtin14.filter isDecimal = gtin14 :=
    List.filter_eq_self.mpr hGtin.2
  simp only [normalizeGtin14, hKept, hGtin.1, zfill14,
    Nat.sub_self, List.replicate_zero, List.nil_append]
  rfl

/- No sign below the digits is one of them. -/
theorem IsGtin14.notMem
    {sign : Char}
    (hGtin : IsGtin14 gtin14)
    (hSign : sign.toNat < 48) :
    sign ∉ gtin14 := by
  intro hMem
  rcases Option.isSome_iff_exists.mp (hGtin.2 sign hMem) with
    ⟨value, hValue⟩
  exact Chars.ne_of_isDigit
    (Chars.isDigit_of_decimalValue hValue) hSign rfl

theorem digitalLink_eq :
    digitalLink gtin14 token =
      "https:".toList ++ '/' :: ([] ++ '/' ::
        ("id.gs1.org".toList ++ '/' :: ("01".toList ++
          '/' :: (gtin14 ++ '/' :: ("10".toList ++
            '/' :: Url.quote token))))) := by
  rw [digitalLink, List.append_assoc, List.append_assoc]
  rfl

/- A Digital Link holds the placeholder in its lot only. -/
theorem within_digitalLink
    (hGtin : IsGtin14 gtin14) :
    within placeholder (digitalLink gtin14 token) =
      within placeholder (Url.quote token) := by
  have hSlash : '/' ∉ placeholder := by
    decide
  have hWord : placeholder ≠ [] := by
    decide
  have hDigits : within placeholder gtin14 = false := by
    rw [Bool.eq_false_iff]
    intro hWithin
    have hPoint : '.' ∈ placeholder := by
      decide
    exact hGtin.notMem (by decide)
      (mem_of_within hWithin hPoint)
  have hFixed : ∀ part ∈ ["https:".toList, [],
      "id.gs1.org".toList, "01".toList, "10".toList],
      within placeholder part = false := by
    decide
  simp only [List.forall_mem_cons] at hFixed
  rcases hFixed with ⟨hScheme, hEmpty, hHost, hKey, hLot, -⟩
  rw [digitalLink_eq]
  simp only [within_append_cons hSlash hWord, hDigits, hScheme,
    hEmpty, hHost, hKey, hLot, Bool.false_or]

/- A Digital Link has no white space at its ends. -/
theorem strip_digitalLink
    (hToken : token ≠ []) :
    Chars.strip (digitalLink gtin14 token) =
      digitalLink gtin14 token := by
  apply Chars.strip_eq_self
  · intro c hFirst
    rw [digitalLink_eq] at hFirst
    cases hFirst
    decide
  · intro c hLast
    rw [digitalLink, List.getLast?_append_of_ne_nil _
      (Url.quote_ne_nil hToken)] at hLast
    have hRange :=
      Url.range_of_mem_quote (List.mem_of_mem_getLast? hLast)
    exact Chars.isSpace_of_code hRange.1 (by omega)

theorem matchDlClass_digitalLink
    (hGtin : IsGtin14 gtin14)
    (hToken : token ≠ []) :
    matchDlClass (digitalLink gtin14 token) =
      some (gtin14, Url.quote token) := by
  have hLower : ∀ p ∈ dlPrefix, p.toLower = p :=
    Text.forall_of_all (by decide)
  have hSlash : isDecimal '/' = false := by
    decide
  have hSign : ∀ sign : Char, sign ≠ '%' →
      Url.isUnreserved sign = false →
        sign ∉ Url.quote token := by
    intro sign hMark hPlain hMem
    rcases Url.isUnreserved_of_mem_quote hMem with h | h
    · exact hMark h
    · exact absurd h (by simp [hPlain])
  have hDrop :
      dropIgnoringCase dlPrefix (digitalLink gtin14 token) =
        some (gtin14 ++ (lotQualifier ++ Url.quote token)) := by
    rw [digitalLink, List.append_assoc, List.append_assoc]
    exact dropIgnoringCase_self hLower
  have hRest : lotQualifier ++ Url.quote token =
      '/' :: ("10/".toList ++ Url.quote token) := rfl
  have hTake :
      (gtin14 ++ (lotQualifier ++ Url.quote token)).takeWhile
        isDecimal = gtin14 := by
    rw [List.takeWhile_append_of_pos hGtin.2, hRest,
      List.takeWhile_cons_of_neg (by simp [hSlash]),
      List.append_nil]
  have hLater :
      (gtin14 ++ (lotQualifier ++ Url.quote token)).dropWhile
        isDecimal = lotQualifier ++ Url.quote token := by
    rw [List.dropWhile_append_of_pos hGtin.2, hRest,
      List.dropWhile_cons_of_neg (by simp [hSlash])]
  have hLot :
      lotQualifier.isPrefixOf?
        (lotQualifier ++ Url.quote token) =
          some (Url.quote token) :=
    List.isPrefixOf?_eq_some_iff_append_eq.mpr rfl
  unfold matchDlClass
  simp only [hDrop, hTake, hLater, hLot]
  rw [if_pos ⟨by rw [hGtin.1]; decide, by rw [hGtin.1],
    Url.quote_ne_nil hToken, hSign '/' (by decide) (by decide),
    hSign '?' (by decide) (by decide),
    hSign '#' (by decide) (by decide)⟩]

/- No word that opens with a u matches a Digital Link. -/
theorem dropIgnoringCase_digitalLink
    (word : List Char) :
    dropIgnoringCase ('u' :: word) (digitalLink gtin14 token) =
      none := by
  rw [digitalLink_eq]
  rfl

/-
  A Digital Link is read as its GTIN and its lot, stripped;
  not when the lot holds the placeholder or is white space.
-/
theorem parseClassUri_digitalLink
    (hGtin : IsGtin14 gtin14)
    (hToken : token ≠ []) :
    parseClassUri (digitalLink gtin14 token) =
      if within placeholder (Url.quote token) = true ∨
          Chars.strip token = [] then none
      else
        some ⟨digitalLink gtin14 token, Chars.strip token,
          some gtin14, true⟩ := by
  have hSome : digitalLink gtin14 token ≠ [] := by
    rw [digitalLink_eq]
    exact List.cons_ne_nil _ _
  have hLgtin : matchLgtin (digitalLink gtin14 token) = none := by
    rw [matchLgtin]
    rw [show lgtinPrefix = 'u' :: "rn:epc:class:lgtin:".toList
      from rfl, dropIgnoringCase_digitalLink]
  have hHeld :
      within "0000000.000000".toList (digitalLink gtin14 token) =
        within placeholder (Url.quote token) :=
    within_digitalLink hGtin
  simp only [parseClassUri, strip_digitalLink hToken, hSome,
    false_or, hHeld, hLgtin,
    matchDlClass_digitalLink hGtin hToken, Url.unquote_quote,
    hGtin.normalize, Option.getD_some]
  split
  · rename_i hHolds
    rw [if_pos (Or.inl hHolds)]
  · rename_i hFree
    by_cases hBlank : Chars.strip token = []
    · rw [if_pos hBlank, if_pos (Or.inr hBlank)]
    · rw [if_neg hBlank, if_neg (not_or.mpr ⟨hFree, hBlank⟩)]

/- Nor is it an SGTIN, or a bare token. -/
theorem matchSgtin_digitalLink :
    matchSgtin (digitalLink gtin14 token) = none := by
  rw [matchSgtin, matchParts, show sgtinPrefix =
    'u' :: "rn:epc:id:sgtin:".toList from rfl,
    dropIgnoringCase_digitalLink]

theorem lotTokenOnly_digitalLink
    (hToken : token ≠ [])
    (hParse : parseClassUri (digitalLink gtin14 token) = none) :
    lotTokenOnly (digitalLink gtin14 token) = none := by
  have hScheme :
      within "://".toList (digitalLink gtin14 token) = true := by
    refine Iff.mpr within_iff ⟨"https".toList,
      "id.gs1.org/01/".toList ++ gtin14 ++ lotQualifier ++
        Url.quote token, ?_⟩
    rw [digitalLink]
    rfl
  have hUrn : "urn:epc:".toList.isPrefixOf
      ((digitalLink gtin14 token).flatMap Python.lowerChar) =
        false := by
    rw [digitalLink_eq]
    rfl
  simp only [lotTokenOnly, hParse, strip_digitalLink hToken,
    hUrn, hScheme, Bool.false_and, Bool.true_or, if_true]
  split <;> rfl

end

--------
-- Lot Tokens
--------

section

variable {value token : List Char} {parsed : LotIdentity}

/- White space at the ends of a text is not read. -/
theorem parseClassUri_strip :
    parseClassUri (Chars.strip value) = parseClassUri value := by
  simp only [parseClassUri, Chars.strip_stripped]

/- The rest of a match is shorter than the text. -/
theorem length_lt_of_matchParts
    {word text company item last : List Char}
    (hMatch : matchParts word text = some (company, item, last)) :
    last.length < text.length := by
  rcases exists_matchParts hMatch with ⟨front, rfl⟩
  rw [List.length_append, List.length_cons]
  omega

/- A class URI stands for itself, and its lot is a part of it. -/
theorem of_parseClassUri
    (hParse : parseClassUri value = some parsed) :
    parsed.canonicalId = Chars.strip value ∧
      parsed.lotToken.length < (Chars.strip value).length := by
  unfold parseClassUri at hParse
  dsimp only at hParse
  split at hParse
  · cases hParse
  · split at hParse
    · rename_i company item lotRaw hMatch
      split at hParse
      · cases hParse
      · cases hParse
        exact ⟨rfl, lt_of_le_of_lt (Url.length_unquote_le lotRaw)
          (length_lt_of_matchParts hMatch)⟩
    · split at hParse
      · rename_i gtinRaw lotRaw hMatch
        split at hParse
        · cases hParse
        · cases hParse
          refine ⟨rfl, ?_⟩
          rcases exists_matchDlClass hMatch with ⟨front, hText⟩
          have hPart : lotRaw.length <
              (Chars.strip value).length := by
            rw [hText, List.length_append, List.length_append]
            have hQualifier : 0 < lotQualifier.length := by
              decide
            omega
          exact lt_of_le_of_lt (le_trans
            (Chars.length_strip_le _)
            (Url.length_unquote_le lotRaw)) hPart
      · cases hParse

/- The part past the last point is shorter than the text. -/
theorem length_lastPart_lt
    {text : List Char}
    (hPoint : '.' ∈ text) :
    (text.reverse.takeWhile (· ≠ '.')).reverse.length <
      text.length := by
  rw [List.length_reverse, ← @List.length_reverse _ text]
  refine lt_of_le_of_ne (List.takeWhile_prefix _).length_le ?_
  intro hAll
  have hSame := (List.takeWhile_prefix _).eq_of_length hAll
  have hNone := List.takeWhile_eq_self_iff.mp hSame '.'
    (List.mem_reverse.mpr hPoint)
  exact absurd hNone (by decide)

/- A token that stands for itself is bare. -/
theorem isBareToken_of_lotTokenOnly
    (hParse : parseClassUri token = none)
    (hOnly : lotTokenOnly token = some token) :
    IsBareToken token := by
  unfold lotTokenOnly at hOnly
  simp only [hParse] at hOnly
  split at hOnly
  · cases hOnly
  · split at hOnly
    · split at hOnly
      · rename_i hPart
        have hShort := length_lastPart_lt hPart.1
        have hUnquoted := Url.length_unquote_le
          ((Chars.strip token).reverse.takeWhile
            (· ≠ '.')).reverse
        rw [Option.some.inj hOnly] at hUnquoted
        have hStrip := Chars.length_strip_le token
        omega
      · cases hOnly
    · split at hOnly
      · cases hOnly
      · rename_i hPlain
        have hStrip : Chars.strip token = token :=
          Option.some.inj hOnly
        rw [hStrip, Bool.or_eq_true, not_or,
          Bool.not_eq_true, Bool.not_eq_true] at hPlain
        exact ⟨hStrip, hPlain.1, hPlain.2⟩

/- No word of a URN matches a bare token. -/
theorem IsBareToken.dropUrn
    {rest : List Char}
    (hBare : IsBareToken token) :
    dropIgnoringCase ("urn:epc:".toList ++ rest) token =
      none := by
  rw [dropIgnoringCase_append]
  cases hDrop : dropIgnoringCase "urn:epc:".toList token with
  | none => rfl
  | some rest =>
    have hPrefix := isPrefixOf_of_dropIgnoringCase
      (Text.forall_of_all (by decide)) hDrop
    rw [hBare.2.2] at hPrefix
    cases hPrefix

/- Nor does the start of a Digital Link. -/
theorem IsBareToken.dropDl
    (hBare : IsBareToken token) :
    dropIgnoringCase dlPrefix token = none := by
  have hParts : dlPrefix = "https".toList ++
      ("://".toList ++ "id.gs1.org/01/".toList) := rfl
  rw [hParts, dropIgnoringCase_append]
  cases hScheme : dropIgnoringCase "https".toList token with
  | none => rfl
  | some later =>
    rw [Option.bind_some, dropIgnoringCase_append]
    cases hSigns : dropIgnoringCase "://".toList later with
    | none => rfl
    | some last =>
      rcases exists_dropIgnoringCase hScheme with
        ⟨front, hFront, -⟩
      have hLater :=
        eq_append_of_dropIgnoringCase
          (Text.forall_of_all (by decide)) hSigns
      have hWithin : within "://".toList token = true := by
        refine Iff.mpr within_iff ⟨front, last, ?_⟩
        rw [hFront, hLater, List.append_assoc]
      rw [hBare.2.1] at hWithin
      cases hWithin

/- A bare token is no class URI and no SGTIN. -/
theorem IsBareToken.parse
    (hBare : IsBareToken token) :
    parseClassUri token = none := by
  have hLgtin : matchLgtin token = none := by
    rw [matchLgtin, show lgtinPrefix =
      "urn:epc:".toList ++ "class:lgtin:".toList from rfl,
      hBare.dropUrn]
  have hDl : matchDlClass token = none := by
    rw [matchDlClass, hBare.dropDl]
  simp only [parseClassUri, hBare.1, hLgtin,
    hDl, ite_self]

theorem IsBareToken.sgtin
    (hBare : IsBareToken token) :
    matchSgtin token = none := by
  rw [matchSgtin, matchParts,
    show sgtinPrefix = "urn:epc:".toList ++
      "id:sgtin:".toList from rfl, hBare.dropUrn]

/- A bare token stands for itself. -/
theorem IsBareToken.tokenOnly
    (hBare : IsBareToken token)
    (hSome : token ≠ []) :
    lotTokenOnly token = some token := by
  simp only [lotTokenOnly, hBare.parse,
    hBare.1, hBare.2.1, hBare.2.2, hSome, if_false,
    Bool.false_and, Bool.or_self, Bool.false_eq_true]

end

--------
-- Normalising Again
--------

variable {value token gtin14 company item serialRaw : List Char}
  {gtin later : Option (List Char)}
  {parsed identity : LotIdentity}

def tokenIdentity
    (token : List Char) :
    Option (List Char) → LotIdentity
| some gtin14 =>
    ⟨digitalLink gtin14 token, token, some gtin14, true⟩
| none => ⟨token, token, none, false⟩

/- A class URI is normalised to what it is parsed as. -/
theorem normalizeEpcisLot_of_parse
    (hParse : parseClassUri value = some parsed) :
    normalizeEpcisLot (some value) gtin true = some parsed := by
  simp only [normalizeEpcisLot, hParse, if_true]

/- An SGTIN is normalised to itself and its serial number. -/
theorem normalizeEpcisLot_of_sgtin
    (gtin : Option (List Char))
    (hParse : parseClassUri value = none)
    (hMatch : matchSgtin (Chars.strip value) =
      some (company, item, serialRaw)) :
    normalizeEpcisLot (some value) gtin true =
      some ⟨Chars.strip value, Url.unquote serialRaw,
        (companyItemToGtin14 company item).or
          (gtin.bind normalizeGtin14), false⟩ := by
  simp only [normalizeEpcisLot, hParse, hMatch, if_true]

/- Every other value is normalised by its lot token. -/
theorem normalizeEpcisLot_of_none
    (hParse : parseClassUri value = none)
    (hMatch : matchSgtin (Chars.strip value) = none)
    (hOnly : lotTokenOnly value = none) :
    normalizeEpcisLot (some value) gtin true = none := by
  simp only [normalizeEpcisLot, hParse, hMatch, hOnly]

theorem normalizeEpcisLot_of_token
    (hParse : parseClassUri value = none)
    (hMatch : matchSgtin (Chars.strip value) = none)
    (hOnly : lotTokenOnly value = some token)
    (hSome : token ≠ []) :
    normalizeEpcisLot (some value) gtin true =
      some (tokenIdentity token (gtin.bind normalizeGtin14)) := by
  simp only [normalizeEpcisLot, hParse, hMatch, hOnly,
    if_neg hSome]
  cases gtin.bind normalizeGtin14 <;> rfl

/- The identity of a value that is neither form of URI. -/
theorem eq_of_normalizeEpcisLot
    (hParse : parseClassUri value = none)
    (hMatch : matchSgtin (Chars.strip value) = none)
    (hNormal :
      normalizeEpcisLot (some value) gtin true = some identity) :
    ∃ token, lotTokenOnly value = some token ∧ token ≠ [] ∧
      identity =
        tokenIdentity token (gtin.bind normalizeGtin14) := by
  cases hOnly : lotTokenOnly value with
  | none =>
    rw [normalizeEpcisLot_of_none hParse hMatch hOnly] at hNormal
    cases hNormal
  | some token =>
    by_cases hSome : token = []
    · simp only [normalizeEpcisLot, hParse, hMatch, hOnly,
        if_pos hSome] at hNormal
      cases hNormal
    · rw [normalizeEpcisLot_of_token hParse hMatch hOnly hSome]
        at hNormal
      cases hNormal
      exact ⟨token, rfl, hSome, rfl⟩

/- The identity of a class URI is stable. -/
theorem stable_of_parse
    (hParse : parseClassUri value = some parsed) :
    Stable later parsed := by
  refine ⟨parsed, ?_, rfl, rfl, rfl⟩
  apply normalizeEpcisLot_of_parse
  rw [(of_parseClassUri hParse).1, parseClassUri_strip]
  exact hParse

/- That of an SGTIN is when its GTIN is found again. -/
theorem stable_sgtin_iff
    (hParse : parseClassUri value = none)
    (hMatch : matchSgtin (Chars.strip value) =
      some (company, item, serialRaw)) :
    Stable later ⟨Chars.strip value, Url.unquote serialRaw,
        (companyItemToGtin14 company item).or
          (gtin.bind normalizeGtin14), false⟩ ↔
      (companyItemToGtin14 company item).isSome = true ∨
        later.bind normalizeGtin14 =
          gtin.bind normalizeGtin14 := by
  have hAgain := normalizeEpcisLot_of_sgtin later
    (parseClassUri_strip.trans hParse)
    ((congrArg matchSgtin (Chars.strip_stripped value)).trans
      hMatch)
  rw [Chars.strip_stripped] at hAgain
  unfold Stable
  simp only [hAgain, Option.some.injEq, exists_eq_left',
    true_and]
  cases companyItemToGtin14 company item with
  | none => simp
  | some own => simp

/- That of a rebuilt Digital Link is when its lot is read back. -/
theorem stable_digitalLink_iff
    (hGtin : IsGtin14 gtin14)
    (hToken : token ≠ []) :
    Stable later
        ⟨digitalLink gtin14 token, token, some gtin14, true⟩ ↔
      Chars.strip token = token ∧
        within placeholder (Url.quote token) = false := by
  have hParse := parseClassUri_digitalLink hGtin hToken
  constructor
  · rintro ⟨again, hAgain, -, hLot, -⟩
    split at hParse
    · have hStrip : Chars.strip (digitalLink gtin14 token) =
          digitalLink gtin14 token := strip_digitalLink hToken
      rw [normalizeEpcisLot_of_none hParse
        ((congrArg matchSgtin hStrip).trans matchSgtin_digitalLink)
        (lotTokenOnly_digitalLink hToken hParse)] at hAgain
      cases hAgain
    · rename_i hRead
      rw [normalizeEpcisLot_of_parse hParse] at hAgain
      cases hAgain
      rw [not_or, Bool.not_eq_true] at hRead
      exact ⟨hLot, hRead.1⟩
  · rintro ⟨hStrip, hFree⟩
    rw [hStrip, if_neg (by simp [hFree, hToken])] at hParse
    exact stable_of_parse hParse

/- That of a token alone is when the token is bare. -/
theorem stable_token_iff
    (hToken : token ≠ []) :
    Stable later ⟨token, token, none, false⟩ ↔
      IsBareToken token ∧
        later.bind normalizeGtin14 = none := by
  constructor
  · rintro ⟨again, hAgain, hId, hLot, hGtin⟩
    dsimp only at hId hLot hGtin hAgain
    cases hParse : parseClassUri token with
    | some parsed =>
      rw [normalizeEpcisLot_of_parse hParse] at hAgain
      cases hAgain
      have hShort := (of_parseClassUri hParse).2
      have hStrip := Chars.length_strip_le token
      rw [hLot] at hShort
      omega
    | none =>
      cases hMatch : matchSgtin (Chars.strip token) with
      | some parts =>
        rcases parts with ⟨company, item, serialRaw⟩
        rw [normalizeEpcisLot_of_sgtin _ hParse hMatch] at hAgain
        cases hAgain
        have hShort := length_lt_of_matchParts hMatch
        have hSerial := Url.length_unquote_le serialRaw
        have hStrip := Chars.length_strip_le token
        have hSame : Url.unquote serialRaw = token := hLot
        rw [hSame] at hSerial
        omega
      | none =>
        rcases eq_of_normalizeEpcisLot hParse hMatch hAgain with
          ⟨other, hOnly, -, rfl⟩
        cases hLater : later.bind normalizeGtin14 with
        | some gtin14 =>
          rw [hLater] at hGtin
          cases hGtin
        | none =>
          rw [hLater] at hLot
          cases hLot
          exact ⟨isBareToken_of_lotTokenOnly hParse hOnly, rfl⟩
  · rintro ⟨hBare, hLater⟩
    refine ⟨⟨token, token, none, false⟩, ?_, rfl, rfl, rfl⟩
    have hMatch : matchSgtin (Chars.strip token) = none := by
      rw [hBare.1]
      exact hBare.sgtin
    rw [normalizeEpcisLot_of_token hBare.parse hMatch
      (hBare.tokenOnly hToken) hToken, hLater]
    rfl

/-
  The canonical identifier of an accepted value stands exactly
  when the value is settled.
-/
theorem stable_iff_settled
    (hNormal :
      normalizeEpcisLot (some value) gtin true = some identity) :
    Stable later identity ↔ Settled later gtin value := by
  unfold Settled
  cases hParse : parseClassUri value with
  | some parsed =>
    rw [normalizeEpcisLot_of_parse hParse] at hNormal
    cases hNormal
    exact iff_of_true (stable_of_parse hParse) trivial
  | none =>
    cases hMatch : matchSgtin (Chars.strip value) with
    | some parts =>
      rcases parts with ⟨company, item, serialRaw⟩
      rw [normalizeEpcisLot_of_sgtin _ hParse hMatch] at hNormal
      cases hNormal
      exact stable_sgtin_iff hParse hMatch
    | none =>
      rcases eq_of_normalizeEpcisLot hParse hMatch hNormal with
        ⟨token, hOnly, hToken, rfl⟩
      simp only [hOnly, Option.some.injEq, forall_eq']
      cases hGtin : gtin.bind normalizeGtin14 with
      | some gtin14 =>
        rcases Option.bind_eq_some_iff.mp hGtin with
          ⟨raw, -, hRaw⟩
        exact stable_digitalLink_iff
          (isGtin14_of_normalize hRaw) hToken
      | none => exact stable_token_iff hToken

/- A bare lot code stands. -/
theorem stable_iff_settled_bareLot :
    normalizeEpcisLot (some "LOT-7".toList) none true =
        some (tokenIdentity "LOT-7".toList none) ∧
      (Stable none (tokenIdentity "LOT-7".toList none) ↔
        Settled none none "LOT-7".toList) := by
  have hNormal :
      normalizeEpcisLot (some "LOT-7".toList) none true =
        some (tokenIdentity "LOT-7".toList none) := by
    decide
  exact ⟨hNormal, stable_iff_settled hNormal⟩

/-
  The last part of a class URI without an item number keeps the
  space that its escape stands for, and loses it the second
  time.
-/
theorem not_stable_withoutItem :
    let value := "urn:epc:class:lgtin:0614141.LOT%20".toList
    let identity := tokenIdentity "LOT ".toList none
    normalizeEpcisLot (some value) none true = some identity ∧
      ¬ Stable none identity := by
  have hAgain :
      normalizeEpcisLot (some "LOT ".toList) none true =
        some (tokenIdentity "LOT".toList none) := by
    decide
  refine ⟨by decide +kernel, ?_⟩
  rintro ⟨again, hNormal, hId, -⟩
  cases hAgain.symm.trans hNormal
  exact absurd hId (by decide)

end EpcisLotIdentity

end RegEngine
