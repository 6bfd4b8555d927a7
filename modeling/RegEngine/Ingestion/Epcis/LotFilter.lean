import RegEngine.Library.Pattern
import RegEngine.Library.Url.Encodings
import RegEngine.Shared.EpcisLotIdentity

/-
  The lot filter of the EPCIS export: the SQL predicate that
  selects candidates, and the exact comparison after it
  (`epcis_export.py`).

  Main declarations:
    * `Epcis.lotCodeFilter`
    * `Epcis.CleanUri`
    * `Epcis.selects_of_matches`
-/

--------
-- The Predicate
--------

namespace RegEngine

namespace Epcis

open EpcisLotIdentity

/- A hexadecimal digit of either case. -/
def hexDigit (n : Nat) : RegularExpression Char :=
  let digit := Nat.digitChar n
  if digit.isAlpha then
    Pattern.choice [.char digit.toLower, .char digit.toUpper]
  else .char digit

def encodedByte (byte : UInt8) : RegularExpression Char :=
  Pattern.concat
    [.char '%', hexDigit (byte.toNat / 16),
      hexDigit (byte.toNat % 16)]

/- A character as it is, or the escapes of its bytes. -/
def encodedChar (c : Char) : RegularExpression Char :=
  Pattern.choice
    [.char c,
      Pattern.concat ((Url.utf8Bytes c).map encodedByte)]

/- The white space of ASCII, and what `[[:space:]]` has. -/
def asciiSpaces : List Char :=
  [' ', '\t', '\n', Char.ofNat 11, Char.ofNat 12, '\r']

/-
  What the database does with the predicate: its lower-case
  forms and its white space are those of its locale.
-/
structure Postgres where
  lower : List Char → List Char
  spaces : List Char

/- The white space at the end, as it is or escaped. -/
def trailingSpace (pg : Postgres) : RegularExpression Char :=
  .star (Pattern.choice
    (pg.spaces.map RegularExpression.char ++
      asciiSpaces.map (fun c => encodedByte (Url.byteOf c))))

/- The pattern of a lot token at the end of a class URI. -/
def lotSuffixPattern
    (pg : Postgres)
    (token : List Char) :
    RegularExpression Char :=
  Pattern.concat
    [Pattern.choice [.char '.', Pattern.word "/10/".toList],
      Pattern.concat (token.map encodedChar),
      trailingSpace pg]

/- What the predicate of a lot code compares with. -/
structure LotFilter where
  lotCode : List Char
  lotToken : Option (List Char)
  lotSuffix : Option (List Char)

/- `_lot_code_filter`; `none` is no predicate. -/
def lotCodeFilter (lotCode : List Char) : Option LotFilter :=
  if lotCode = [] then none
  else
    let token := (lotTokenOnly lotCode).filter (· ≠ [])
    some ⟨lotCode, token,
      if isFullClassUri lotCode then none else token⟩

/- The predicate, for a stored lot code. -/
def LotFilter.holds
    (pg : Postgres)
    (filter : LotFilter)
    (stored : List Char) :
    Bool :=
  stored = filter.lotCode ||
    filter.lotToken.any (fun token => stored = token) ||
    filter.lotSuffix.any (fun token =>
      ("https://id.gs1.org/01/".toList.isPrefixOf
          (pg.lower stored) ||
        "urn:epc:class:lgtin:".toList.isPrefixOf
          (pg.lower stored)) &&
        Pattern.searchToEnd (lotSuffixPattern pg token) stored)

/- A stored row is among the candidates of a lot code. -/
def selects
    (pg : Postgres)
    (lotCode stored : List Char) :
    Bool :=
  match lotCodeFilter lotCode with
  | none => true
  | some filter => filter.holds pg stored

/- `_row_matches_lot`, for a stored text. -/
def rowMatchesLot (stored lotCode : List Char) : Bool :=
  if stored = lotCode then true
  else
    match lotTokenOnly lotCode with
    | none => false
    | some wanted =>
        if wanted = [] then false
        else if isFullClassUri lotCode then stored = wanted
        else
          lotTokenOnly stored = some wanted &&
            (stored = wanted || isFullClassUri stored)

--------
-- Clean URIs
--------

/-
  What the database does in every locale with ASCII: capitals
  have their small letters, and white space is white space.
-/
structure Postgres.Ascii (pg : Postgres) : Prop where
  lower : ∀ front rest, (∀ c ∈ front, c.toNat < 128) →
    ∃ rest', pg.lower (front ++ rest) =
      front.map Char.toLower ++ rest'
  spaces : ∀ c ∈ asciiSpaces, c ∈ pg.spaces

/- The lot of a class URI as it is written. -/
def lotRaw (value : List Char) : Option (List Char) :=
  match matchLgtin (Chars.strip value) with
  | some (_, _, lotRaw) => some lotRaw
  | none => (matchDlClass (Chars.strip value)).map Prod.snd

/- A text with white space only at its end, and that of ASCII. -/
structure CleanEnds (text : List Char) : Prop where
  start : ∀ c ∈ text.head?, Python.isSpace c = false
  finish : ∀ c ∈ text.drop (Chars.strip text).length,
    c ∈ asciiSpaces

/-
  A class URI as it is usually written: with the letters of its
  scheme in ASCII, a lot whose escapes are UTF-8, and with no
  white space but that of ASCII, at the end of the URI or of
  the lot of a Digital Link.
-/
structure CleanUri (stored : List Char) : Prop where
  ends : CleanEnds stored
  scheme :
    dlPrefix.isPrefixOf (stored.map Char.toLower) = true ∨
      lgtinPrefix.isPrefixOf (stored.map Char.toLower) = true
  strict : ∀ raw ∈ lotRaw stored, Url.strict raw = true
  lot : matchLgtin (Chars.strip stored) = none →
    ∀ raw ∈ lotRaw stored, CleanEnds (Url.unquote raw)

--------
-- Encoded Tokens
--------

variable {pg : Postgres} {c : Char}

/- A digit is one of those of its value. -/
theorem mem_hexDigit
    {n : Nat}
    (hValue : Url.hexValue c = some n) :
    [c] ∈ (hexDigit n).matches' ∧ n < 16 := by
  have hSmall : c.toNat < 128 := by
    by_contra hLarge
    have hNone : Url.hexValue c = none := by
      have hAbove : ∀ {d : Char}, d.toNat < 128 → ¬ c ≤ d := by
        intro d hD hLe
        exact hLarge (lt_of_le_of_lt hLe hD)
      unfold Url.hexValue
      rw [if_neg (fun h => hAbove (by decide) h.2),
        if_neg (fun h => hAbove (by decide) h.2),
        if_neg (fun h => hAbove (by decide) h.2)]
    rw [hNone] at hValue
    cases hValue
  have hAll : ∀ k < 128, ∀ n ∈ Url.hexValue (Char.ofNat k),
      (hexDigit n).rmatch [Char.ofNat k] = true ∧ n < 16 := by
    decide
  have hChar := hAll c.toNat hSmall n (by
    rw [Char.ofNat_toNat]
    exact hValue)
  rw [Char.ofNat_toNat] at hChar
  exact ⟨(RegularExpression.rmatch_iff_matches' _ _).mp hChar.1,
    hChar.2⟩

/- An escape is one of those of its byte. -/
theorem mem_encodedByte
    {high low : Char}
    {byte : UInt8}
    (hByte : Url.escape '%' high low = some byte) :
    ['%', high, low] ∈ (encodedByte byte).matches' := by
  rw [Url.escape, if_pos rfl] at hByte
  rcases Option.bind_eq_some_iff.mp hByte with
    ⟨tens, hTens, hRest⟩
  rcases Option.bind_eq_some_iff.mp hRest with
    ⟨units, hUnits, hNat⟩
  rcases mem_hexDigit hTens with ⟨hHigh, hTensLt⟩
  rcases mem_hexDigit hUnits with ⟨hLow, hUnitsLt⟩
  have hByteNat : byte.toNat = tens * 16 + units := by
    rw [← Option.some.inj hNat, UInt8.toNat_ofNat']
    omega
  have hFirst : byte.toNat / 16 = tens := by omega
  have hSecond : byte.toNat % 16 = units := by omega
  unfold encodedByte
  rw [hFirst, hSecond]
  exact Pattern.mem_concat
    (.cons (Pattern.mem_char '%')
      (.cons hHigh (.cons hLow .nil)))

/- Escapes are those of their bytes. -/
theorem mem_encodedBytes
    {bytes : List UInt8}
    {raw : List Char}
    (hEscapes : Url.Escapes bytes raw) :
    raw ∈ (Pattern.concat (bytes.map encodedByte)).matches' := by
  induction hEscapes with
  | nil => exact Language.nil_mem_one
  | cons hByte _ ih =>
    exact Language.append_mem_mul (mem_encodedByte hByte) ih

/- An encoding of a token is one of its pattern. -/
theorem mem_encodedWord
    {token raw : List Char}
    (hEncodes : Url.Encodes token raw) :
    raw ∈ (Pattern.concat (token.map encodedChar)).matches' := by
  induction hEncodes with
  | nil => exact Language.nil_mem_one
  | @literal c _ _ _ ih =>
    have hChar : [c] ∈ (encodedChar c).matches' :=
      Pattern.mem_choice List.mem_cons_self
        (Pattern.mem_char c)
    exact Language.append_mem_mul hChar ih
  | @escaped c _ unit _ hUnit _ ih =>
    have hChar : unit ∈ (encodedChar c).matches' :=
      Pattern.mem_choice
        (List.mem_cons_of_mem _ (List.mem_singleton_self _))
        (mem_encodedBytes hUnit)
    exact Language.append_mem_mul hChar ih

theorem utf8Bytes_of_asciiSpaces
    (hSpace : c ∈ asciiSpaces) :
    Url.utf8Bytes c = [Url.byteOf c] := by
  have hSpaces : ∀ d ∈ asciiSpaces,
      Url.utf8Bytes d = [Url.byteOf d] :=
    Text.forall_of_all (by decide)
  exact hSpaces c hSpace

/- White space of ASCII, with some of it escaped. -/
theorem mem_trailingSpace
    (hAscii : pg.Ascii)
    {spaces raw : List Char}
    (hSpaces : ∀ c ∈ spaces, c ∈ asciiSpaces)
    (hEncodes : Url.Encodes spaces raw) :
    raw ∈ (trailingSpace pg).matches' := by
  have hTexts : ∃ texts : List (List Char),
      raw = texts.flatten ∧
        ∀ text ∈ texts, text ∈ (Pattern.choice
          (pg.spaces.map RegularExpression.char ++
            asciiSpaces.map (fun c =>
              encodedByte (Url.byteOf c)))).matches' := by
    induction hEncodes with
    | nil =>
      exact ⟨[], rfl, fun _ hMem => absurd hMem
        List.not_mem_nil⟩
    | @literal c _ _ _ ih =>
      rcases ih (fun d hMem =>
        hSpaces d (List.mem_cons_of_mem _ hMem)) with
        ⟨texts, rfl, hTexts⟩
      refine ⟨[c] :: texts, rfl, ?_⟩
      intro text hText
      rcases List.mem_cons.mp hText with rfl | hText
      · have hSpace := hAscii.spaces c
          (hSpaces c List.mem_cons_self)
        exact Pattern.mem_choice
          (List.mem_append_left _
            (List.mem_map_of_mem hSpace))
          (Pattern.mem_char c)
      · exact hTexts text hText
    | @escaped c _ unit _ hUnit _ ih =>
      rcases ih (fun d hMem =>
        hSpaces d (List.mem_cons_of_mem _ hMem)) with
        ⟨texts, rfl, hTexts⟩
      refine ⟨unit :: texts, rfl, ?_⟩
      intro text hText
      rcases List.mem_cons.mp hText with rfl | hText
      · have hSpace := hSpaces c List.mem_cons_self
        rw [utf8Bytes_of_asciiSpaces hSpace] at hUnit
        cases hUnit with
        | cons hByte hNil =>
          cases hNil
          refine Pattern.mem_choice
            (List.mem_append_right _
              (List.mem_map_of_mem hSpace)) ?_
          exact mem_encodedByte hByte
      · exact hTexts text hText
  rcases hTexts with ⟨texts, rfl, hTexts⟩
  exact Pattern.mem_star hTexts

--------
-- Candidates
--------

/- A text with clean ends, in two parts. -/
theorem CleanEnds.split
    {text : List Char}
    (hEnds : CleanEnds text) :
    ∃ spaces, text = Chars.strip text ++ spaces ∧
      ∀ c ∈ spaces, c ∈ asciiSpaces := by
  have hStart : text.dropWhile Python.isSpace = text := by
    cases text with
    | nil => rfl
    | cons c rest =>
      have hChar := hEnds.start c rfl
      rw [List.dropWhile_cons, hChar]
      rfl
  have hPrefix : Chars.strip text <+: text := by
    rw [Chars.strip, hStart]
    have hSuffix := List.dropWhile_suffix Python.isSpace
      (l := text.reverse)
    rw [← List.reverse_prefix, List.reverse_reverse] at hSuffix
    exact hSuffix
  refine ⟨text.drop (Chars.strip text).length, ?_,
    hEnds.finish⟩
  exact (List.prefix_iff_eq_append.mp hPrefix).symm

/- The scheme of a clean URI is what `LIKE` looks for. -/
theorem isPrefixOf_lower
    (hAscii : pg.Ascii)
    {word stored : List Char}
    (hWord : ∀ c ∈ word, c.toNat < 128)
    (hScheme :
      word.isPrefixOf (stored.map Char.toLower) = true) :
    word.isPrefixOf (pg.lower stored) = true := by
  rw [List.isPrefixOf_iff_prefix] at hScheme ⊢
  rcases hScheme with ⟨rest, hRest⟩
  rcases List.append_eq_map_iff.mp hRest with
    ⟨front, last, rfl, rfl, -⟩
  have hFront : ∀ c ∈ front, c.toNat < 128 := by
    intro c hMem
    have hLower := hWord c.toLower (List.mem_map_of_mem hMem)
    unfold Char.toLower at hLower
    by_cases hCapital : c.val ≥ 'A'.val ∧ c.val ≤ 'Z'.val
    · exact lt_of_le_of_lt hCapital.2 (by decide)
    · rw [dif_neg hCapital] at hLower
      exact hLower
  rcases hAscii.lower front last hFront with ⟨rest', hLower⟩
  rw [hLower]
  exact List.prefix_append _ _

/- The lot of a class URI, where it stands and what it means. -/
theorem exists_lotRaw
    {stored token : List Char}
    (hUri : isFullClassUri stored = true)
    (hToken : lotTokenOnly stored = some token) :
    ∃ front mark raw,
      Chars.strip stored = front ++ (mark ++ raw) ∧
        mark ∈ (Pattern.choice [RegularExpression.char '.',
          Pattern.word "/10/".toList]).matches' ∧
        lotRaw stored = some raw ∧
        (Url.unquote raw = token ∨
          matchLgtin (Chars.strip stored) = none ∧
            Chars.strip (Url.unquote raw) = token) := by
  unfold isFullClassUri at hUri
  unfold lotTokenOnly at hToken
  cases hParse : parseClassUri stored with
  | none =>
    rw [hParse] at hUri
    cases hUri
  | some parsed =>
    rw [hParse] at hToken
    cases hToken
    unfold parseClassUri at hParse
    dsimp only at hParse
    split at hParse
    · cases hParse
    · split at hParse
      · rename_i company item raw hMatch
        rcases exists_matchLgtin hMatch with ⟨front, hText⟩
        split at hParse
        · cases hParse
        · cases hParse
          refine ⟨front, ['.'], raw, hText, ?_, ?_, Or.inl rfl⟩
          · exact Pattern.mem_choice List.mem_cons_self
              (Pattern.mem_char '.')
          · rw [lotRaw, hMatch]
      · rename_i hLgtin
        split at hParse
        · rename_i gtinRaw raw hMatch
          rcases exists_matchDlClass hMatch with ⟨front, hText⟩
          split at hParse
          · cases hParse
          · cases hParse
            refine ⟨front, lotQualifier, raw, hText, ?_, ?_,
              Or.inr ⟨hLgtin, rfl⟩⟩
            · exact Pattern.mem_choice
                (List.mem_cons_of_mem _
                  (List.mem_singleton_self _))
                (Pattern.mem_word _)
            · rw [lotRaw, hLgtin, hMatch]
              rfl
        · cases hParse

/- A clean URI with the token of a lot code is a candidate. -/
theorem found_of_clean
    (hAscii : pg.Ascii)
    {stored token : List Char}
    (hClean : CleanUri stored)
    (hUri : isFullClassUri stored = true)
    (hToken : lotTokenOnly stored = some token) :
    Pattern.searchToEnd (lotSuffixPattern pg token) stored =
      true := by
  rcases exists_lotRaw hUri hToken with
    ⟨front, mark, raw, hText, hMark, hRaw, hMeaning⟩
  rcases hClean.ends.split with ⟨last, hStored, hLast⟩
  -- What the lot means is the token and white space of ASCII.
  have hLot : ∃ spaces, Url.unquote raw = token ++ spaces ∧
      ∀ c ∈ spaces, c ∈ asciiSpaces := by
    rcases hMeaning with rfl | ⟨hLgtin, rfl⟩
    · exact ⟨[], (List.append_nil _).symm,
        fun _ hMem => absurd hMem List.not_mem_nil⟩
    · exact (hClean.lot hLgtin raw hRaw).split
  rcases hLot with ⟨spaces, hUnquote, hSpaces⟩
  have hEncodes := Url.encodes_unquote (hClean.strict raw hRaw)
  rw [hUnquote] at hEncodes
  rcases hEncodes.of_append with
    ⟨first, second, rfl, hFirst, hSecond⟩
  have hTrailing : second ++ last ∈ (trailingSpace pg).matches' := by
    refine mem_trailingSpace hAscii ?_
      (hSecond.append (Url.Encodes.refl last))
    intro c hMem
    rcases List.mem_append.mp hMem with hMem | hMem
    · exact hSpaces c hMem
    · exact hLast c hMem
  have hSuffix : [mark, first, second ++ last].flatten ∈
      (lotSuffixPattern pg token).matches' :=
    Pattern.mem_concat
      (.cons hMark
        (.cons (mem_encodedWord hFirst) (.cons hTrailing .nil)))
  have hSplit : stored =
      front ++ [mark, first, second ++ last].flatten := by
    rw [hStored, hText]
    simp
  rw [hSplit]
  exact Pattern.searchToEnd_append front hSuffix

/-
  A stored lot that the exact comparison keeps was selected by
  the predicate, when a class URI among them that is neither
  the lot code nor its token is written cleanly.
-/
theorem selects_of_matches
    {pg : Postgres}
    (hAscii : pg.Ascii)
    {stored lotCode : List Char}
    (hClean : isFullClassUri stored = true →
      stored ≠ lotCode →
        lotTokenOnly lotCode ≠ some stored → CleanUri stored)
    (hMatches : rowMatchesLot stored lotCode = true) :
    selects pg lotCode stored = true := by
  unfold selects lotCodeFilter
  by_cases hNil : lotCode = []
  · rw [if_pos hNil]
  rw [if_neg hNil]
  dsimp only [LotFilter.holds]
  unfold rowMatchesLot at hMatches
  by_cases hSame : stored = lotCode
  · rw [decide_eq_true hSame]
    rfl
  rw [if_neg hSame] at hMatches
  cases hToken : lotTokenOnly lotCode with
  | none =>
    rw [hToken] at hMatches
    cases hMatches
  | some token =>
    rw [hToken] at hMatches
    dsimp only at hMatches
    by_cases hEmpty : token = []
    · rw [if_pos hEmpty] at hMatches
      cases hMatches
    rw [if_neg hEmpty] at hMatches
    rw [Option.filter_some, decide_eq_true hEmpty, if_pos rfl]
    by_cases hBare : stored = token
    · rw [Option.any_some, decide_eq_true hBare, Bool.or_true,
        Bool.true_or]
    cases hLotUri : isFullClassUri lotCode with
    | true =>
      rw [hLotUri, if_pos rfl, decide_eq_true_eq] at hMatches
      exact absurd hMatches hBare
    | false =>
      rw [hLotUri, if_neg Bool.false_ne_true,
        decide_eq_false hBare, Bool.false_or,
        Bool.and_eq_true, decide_eq_true_eq] at hMatches
      rcases hMatches with ⟨hStored, hUri⟩
      have hNe : lotTokenOnly lotCode ≠ some stored := by
        rw [hToken]
        intro hEq
        exact hBare (Option.some.inj hEq).symm
      have hUriClean := hClean hUri hSame hNe
      have hFound := found_of_clean hAscii hUriClean hUri hStored
      have hDl : ∀ c ∈ dlPrefix, c.toNat < 128 :=
        Text.forall_of_all (by decide)
      have hLgtin : ∀ c ∈ lgtinPrefix, c.toNat < 128 :=
        Text.forall_of_all (by decide)
      have hLike :
          (dlPrefix.isPrefixOf (pg.lower stored) ||
            lgtinPrefix.isPrefixOf (pg.lower stored)) = true := by
        rw [Bool.or_eq_true]
        rcases hUriClean.scheme with hScheme | hScheme
        · exact Or.inl (isPrefixOf_lower hAscii hDl hScheme)
        · exact Or.inr (isPrefixOf_lower hAscii hLgtin hScheme)
      rw [if_neg Bool.false_ne_true, Option.any_some,
        Option.any_some, hFound, Bool.and_true]
      exact Bool.or_eq_true_iff.mpr (Or.inr hLike)

/- The database in the locale that knows ASCII alone. -/
def asciiLocale : Postgres where
  lower := List.map Char.toLower
  spaces := asciiSpaces

theorem ascii_asciiLocale : asciiLocale.Ascii where
  lower := fun _ rest _ => ⟨rest.map Char.toLower, List.map_append⟩
  spaces := fun _ hMem => hMem

/- A Digital Link with one letter of its lot escaped. -/
def escapedLetter : List Char :=
  "https://id.gs1.org/01/12345670/10/%41".toList

/- A Digital Link of a lot with escaped white space in front. -/
def escapedSpace : List Char :=
  "https://id.gs1.org/01/12345670/10/%20A".toList

theorem selects_escapedLetter :
    selects asciiLocale "A".toList escapedLetter = true := by
  have hRaw : lotRaw escapedLetter = some "%41".toList := by
    decide
  refine selects_of_matches ascii_asciiLocale ?_
    (by decide +kernel)
  intro _ _ _
  refine ⟨⟨?_, ?_⟩, Or.inl ?_, ?_, ?_⟩
  · exact Text.forall_of_all_option (by decide)
  · exact Text.forall_of_all (by decide)
  · decide
  · intro raw hMem
    rw [hRaw] at hMem
    cases hMem
    decide
  · intro _ raw hMem
    rw [hRaw] at hMem
    cases hMem
    exact ⟨Text.forall_of_all_option (by decide),
      Text.forall_of_all (by decide)⟩

/-
  White space that was escaped in front of the lot is stripped
  by the comparison, and not expected by the predicate.
-/
theorem not_selects_escapedSpace :
    rowMatchesLot escapedSpace "A".toList = true ∧
      selects asciiLocale "A".toList escapedSpace = false := by
  decide +kernel

end Epcis

end RegEngine
