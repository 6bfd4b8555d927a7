import RegEngine.Library.Chars
import RegEngine.Library.Url

/-
  The identity of a lot in EPCIS: class URIs of the two
  families, and the bare lot token of a text
  (`shared/epcis_lot_identity.py`).

  Main declarations:
    * `EpcisLotIdentity.parseClassUri`
    * `EpcisLotIdentity.lotTokenOnly`
    * `EpcisLotIdentity.exists_classUri`
-/

--------
-- Digits
--------

namespace RegEngine

namespace EpcisLotIdentity

/- A character that the pattern `\d` matches. -/
def isDecimal (c : Char) : Bool :=
  (Chars.decimalValue c).isSome

/- `_gs1_check_digit`. -/
def gs1CheckDigit (digits13 : List Char) : List Char :=
  let total :=
    (digits13.zipIdx.map (fun (c, i) =>
      (Chars.decimalValue c).getD 0 *
        (if i % 2 = 0 then 3 else 1))).sum
  (toString ((10 - total % 10) % 10)).toList

/- `_company_item_to_gtin14`. -/
def companyItemToGtin14
    (company item : List Char) :
    Option (List Char) :=
  match item with
  | [] => none
  | indicator :: itemWithoutIndicator =>
      if company ≠ [] ∧ company.all Chars.isDigit ∧
          item.all Chars.isDigit ∧
          company.length + item.length = 13 then
        let digits13 :=
          indicator :: (company ++ itemWithoutIndicator)
        some (digits13 ++ gs1CheckDigit digits13)
      else none

/- `text.zfill(14)`, for a text of digits. -/
def zfill14 (text : List Char) : List Char :=
  List.replicate (14 - text.length) '0' ++ text

/-
  `normalize_gtin14`: a check digit that is wrong changes
  nothing.
-/
def normalizeGtin14 (raw : List Char) : Option (List Char) :=
  let digits := raw.filter isDecimal
  if digits.length < 8 ∨ 14 < digits.length then none
  else some (zfill14 digits)

--------
-- Class URIs
--------

/-
  A character of a pattern, which has no capitals, matched with
  `re.IGNORECASE`: the long s and two forms of i match too.
-/
def sameIgnoringCase (p c : Char) : Bool :=
  c.toLower = p ||
    (p = 's' && c.toNat = 383) ||
    (p = 'i' && (c.toNat = 304 || c.toNat = 305))

/- What follows a word at the start of a text. -/
def dropIgnoringCase :
    List Char → List Char → Option (List Char)
| [], text => some text
| _ :: _, [] => none
| p :: word, c :: text =>
    if sameIgnoringCase p c then dropIgnoringCase word text
    else none

/- The start of a text of the pattern `_LGTIN_RE`. -/
def lgtinPrefix : List Char :=
  "urn:epc:class:lgtin:".toList

/- The start of a text of the pattern `_DL_CLASS_RE`. -/
def dlPrefix : List Char :=
  "https://id.gs1.org/01/".toList

/- What stands before the lot of a Digital Link. -/
def lotQualifier : List Char :=
  "/10/".toList

/-
  The groups of `_LGTIN_RE`, for a text without white space at
  its end.
-/
def matchLgtin
    (text : List Char) :
    Option (List Char × List Char × List Char) :=
  match dropIgnoringCase lgtinPrefix text with
  | none => none
  | some rest =>
      let company := rest.takeWhile isDecimal
      match rest.dropWhile isDecimal with
      | '.' :: rest =>
          let item := rest.takeWhile isDecimal
          match rest.dropWhile isDecimal with
          | '.' :: lotRaw =>
              if company ≠ [] ∧ item ≠ [] ∧ lotRaw ≠ [] ∧
                  '\n' ∉ lotRaw then
                some (company, item, lotRaw)
              else none
          | _ => none
      | _ => none

/-
  Two numbers and a rest after a word, parted by points, for a
  text without white space at its end.
-/
def matchParts
    (word text : List Char) :
    Option (List Char × List Char × List Char) :=
  match dropIgnoringCase word text with
  | none => none
  | some rest =>
      let company := rest.takeWhile isDecimal
      match rest.dropWhile isDecimal with
      | '.' :: rest =>
          let item := rest.takeWhile isDecimal
          match rest.dropWhile isDecimal with
          | '.' :: last =>
              if company ≠ [] ∧ item ≠ [] ∧ last ≠ [] ∧
                  '\n' ∉ last then
                some (company, item, last)
              else none
          | _ => none
      | _ => none

/- The groups of `_DL_CLASS_RE`, for such a text. -/
def matchDlClass
    (text : List Char) :
    Option (List Char × List Char) :=
  match dropIgnoringCase dlPrefix text with
  | none => none
  | some rest =>
      let gtinRaw := rest.takeWhile isDecimal
      match lotQualifier.isPrefixOf? (rest.dropWhile isDecimal)
      with
      | none => none
      | some lotRaw =>
          if 8 ≤ gtinRaw.length ∧ gtinRaw.length ≤ 14 ∧
              lotRaw ≠ [] ∧ '/' ∉ lotRaw ∧ '?' ∉ lotRaw ∧
              '#' ∉ lotRaw then
            some (gtinRaw, lotRaw)
          else none

/- `LotIdentity`. -/
structure LotIdentity where
  canonicalId : List Char
  lotToken : List Char
  gtin : Option (List Char)
  isFullClassUri : Bool
  deriving DecidableEq

/- `word in text`. -/
def within (word text : List Char) : Bool :=
  text.tails.any (fun rest => word.isPrefixOf rest)

/- `parse_class_uri`. -/
def parseClassUri (value : List Char) : Option LotIdentity :=
  let text := Chars.strip value
  if text = [] ∨ within "0000000.000000".toList text then none
  else
    match matchLgtin text with
    | some (company, item, lotRaw) =>
        let lot := Url.unquote lotRaw
        if lot = [] then none
        else
          some ⟨text, lot, companyItemToGtin14 company item,
            true⟩
    | none =>
        match matchDlClass text with
        | some (gtinRaw, lotRaw) =>
            let lot := Chars.strip (Url.unquote lotRaw)
            if lot = [] then none
            else
              some ⟨text, lot,
                some ((normalizeGtin14 gtinRaw).getD
                  (zfill14 gtinRaw)),
                true⟩
        | none => none

/- `is_full_class_uri`. -/
def isFullClassUri (value : List Char) : Bool :=
  match parseClassUri value with
  | some parsed => parsed.isFullClassUri
  | none => false

/- `lot_token_only`. -/
def lotTokenOnly (value : List Char) : Option (List Char) :=
  match parseClassUri value with
  | some parsed => some parsed.lotToken
  | none =>
      let text := Chars.strip value
      let lowered := text.flatMap Python.lowerChar
      let isUrn := "urn:epc:".toList.isPrefixOf lowered
      if text = [] then none
      else if isUrn && (within "lgtin".toList lowered ||
          within "sgtin".toList lowered) then
        let part := (text.reverse.takeWhile (· ≠ '.')).reverse
        if '.' ∈ text ∧ part ≠ [] then some (Url.unquote part)
        else none
      else if within "://".toList text || isUrn then none
      else some text

--------
-- Lots of Class URIs
--------

variable {word text rest : List Char}

/- A text that a word was dropped from. -/
theorem exists_dropIgnoringCase
    (hDrop : dropIgnoringCase word text = some rest) :
    ∃ front, text = front ++ rest ∧
      front.length = word.length := by
  induction word generalizing text with
  | nil =>
    cases hDrop
    exact ⟨[], rfl, rfl⟩
  | cons p word ih =>
    cases text with
    | nil => cases hDrop
    | cons c text =>
      rw [dropIgnoringCase] at hDrop
      by_cases hSame : sameIgnoringCase p c = true
      · rw [if_pos hSame] at hDrop
        rcases ih hDrop with ⟨front, rfl, hLength⟩
        exact ⟨c :: front, rfl, congrArg Nat.succ hLength⟩
      · rw [if_neg hSame] at hDrop
        cases hDrop

/- The rest of a match follows a point. -/
theorem exists_matchParts
    {company item last : List Char}
    (hMatch : matchParts word text = some (company, item, last)) :
    ∃ front, text = front ++ '.' :: last := by
  unfold matchParts at hMatch
  split at hMatch
  · cases hMatch
  · rename_i rest hDrop
    rcases exists_dropIgnoringCase hDrop with ⟨start, rfl, -⟩
    split at hMatch
    · rename_i later hCompany
      split at hMatch
      · rename_i lot hItem
        dsimp only at hMatch
        split at hMatch
        · cases hMatch
          refine ⟨start ++ (rest.takeWhile isDecimal ++
            '.' :: later.takeWhile isDecimal), ?_⟩
          have hLater :
              later.takeWhile isDecimal ++ '.' :: last =
                later := by
            rw [← hItem]
            exact List.takeWhile_append_dropWhile
          have hRest :
              rest.takeWhile isDecimal ++ '.' :: later =
                rest := by
            rw [← hCompany]
            exact List.takeWhile_append_dropWhile
          rw [List.append_assoc, List.append_assoc,
            List.cons_append, hLater, hRest]
        · cases hMatch
      · cases hMatch
    · cases hMatch

/- The lot of an LGTIN follows a point. -/
theorem exists_matchLgtin
    {company item lotRaw : List Char}
    (hMatch : matchLgtin text = some (company, item, lotRaw)) :
    ∃ front, text = front ++ '.' :: lotRaw :=
  exists_matchParts hMatch

/- The lot of a Digital Link follows its qualifier. -/
theorem exists_matchDlClass
    {gtinRaw lotRaw : List Char}
    (hMatch : matchDlClass text = some (gtinRaw, lotRaw)) :
    ∃ front, text = front ++ (lotQualifier ++ lotRaw) := by
  unfold matchDlClass at hMatch
  split at hMatch
  · cases hMatch
  · rename_i rest hDrop
    rcases exists_dropIgnoringCase hDrop with ⟨start, rfl, -⟩
    split at hMatch
    · cases hMatch
    · rename_i lot hLot
      dsimp only at hMatch
      split at hMatch
      · cases hMatch
        refine ⟨start ++ rest.takeWhile isDecimal, ?_⟩
        have hTail := List.isPrefixOf?_eq_some_iff_append_eq.mp
          hLot
        rw [List.append_assoc, hTail,
          List.takeWhile_append_dropWhile]
      · cases hMatch

end EpcisLotIdentity

end RegEngine
