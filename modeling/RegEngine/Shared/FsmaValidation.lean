import RegEngine.Ingestion.QrDecoder
import RegEngine.Library.CheckDigit
import RegEngine.Shared.EpcisLotIdentity

/-
  GS1 identifiers by their check digits
  (`shared/fsma_validation.py`), beside the two other places
  that compute the digit (`shared/epcis_lot_identity.py`,
  `ingestion/app/qr_decoder.py`).

  Main declarations:
    * `FsmaValidation.gs1CheckDigit`
    * `FsmaValidation.validateGtin`
    * `FsmaValidation.checkDigits_sound`
-/

--------
-- Results
--------

namespace RegEngine

namespace FsmaValidation

/- `IdentifierType`. -/
inductive IdentifierType where
  | tlc
  | gtin
  | gln
  | sscc
  | unknown
  deriving DecidableEq

/- `ValidationSeverity`. -/
inductive ValidationSeverity where
  | error
  | warning
  | info
  deriving DecidableEq

/- `ValidationError`. -/
structure ValidationError where
  field : String
  message : String
  severity : ValidationSeverity := .error
  deriving DecidableEq

/-
  `ValidationResult`. Texts are lists of their characters; a
  value that is no text is not kept.
-/
structure ValidationResult where
  isValid : Bool
  identifierType : IdentifierType := .unknown
  originalValue : Option (List Char) := none
  normalizedValue : Option (List Char) := none
  errors : List ValidationError := []
  warnings : List String := []
  deriving DecidableEq

/- A result that names one error. -/
def failure
    (kind : IdentifierType)
    (original : Option (List Char))
    (field message : String) : ValidationResult where
  isValid := false
  identifierType := kind
  originalValue := original
  errors := [{ field := field, message := message }]

--------
-- Check Digits
--------

open EpcisLotIdentity (isDecimal zfill14)

/- The weights 3, 1, 3, 1, ... of the reversed digits. -/
def rightWeight (place : Nat) : Nat :=
  if place % 2 = 1 then 1 else 3

/-
  `_gs1_check_digit`; nothing when a character has no decimal
  value.
-/
def gs1CheckDigit (digits : List Char) : Option Nat :=
  (digits.mapM Chars.decimalValue).map (fun values =>
    CheckDigit.mod10
      (CheckDigit.weighted rightWeight values.reverse))

/- `_validate_gs1_check`, on characters that are digits. -/
def validateGs1Check
    (clean : List Char)
    (field : String)
    (kind : IdentifierType) : Option ValidationResult :=
  match gs1CheckDigit clean.dropLast,
      clean.getLast?.bind Chars.decimalValue with
  | some expected, some last =>
      if last ≠ expected then
        some (failure kind (some clean) field
          ("Check digit invalid (expected " ++
            toString expected ++ ")"))
      else
        none
  | _, _ => none

/- A check on the digits of a value, of some lengths. -/
def validateDigits
    (kind : IdentifierType)
    (field required wrongLength : String)
    (lengths : List Nat)
    (accept : List Char → List Char → ValidationResult) :
    Option (List Char) → ValidationResult
| none => failure kind none field required
| some [] => failure kind (some []) field required
| some original =>
    let clean := original.filter isDecimal
    if clean.length ∉ lengths then
      failure kind (some original) field wrongLength
    else
      match validateGs1Check clean field kind with
      | some refused =>
          { refused with originalValue := some original }
      | none => accept original clean

/- `validate_gln`. -/
def validateGln : Option (List Char) → ValidationResult :=
  validateDigits .gln "gln" "GLN is required"
    "GLN must be 13 numeric digits" [13]
    (fun original clean =>
      { isValid := true
        identifierType := .gln
        originalValue := some original
        normalizedValue := some clean })

/- `validate_gtin`. -/
def validateGtin : Option (List Char) → ValidationResult :=
  validateDigits .gtin "gtin" "GTIN is required"
    "GTIN must be 8, 12, 13, or 14 numeric digits"
    [8, 12, 13, 14]
    (fun original clean =>
      { isValid := true
        identifierType := .gtin
        originalValue := some original
        normalizedValue := some (zfill14 clean)
        warnings :=
          if clean.length ≠ 14 then
            ["Normalized from GTIN-" ++ toString clean.length ++
              " to GTIN-14"]
          else
            [] })

--------
-- Values of Digits
--------

/- Every character has a decimal value. -/
def IsDigits (text : List Char) : Prop :=
  ∀ c ∈ text, isDecimal c = true

def valueOf (c : Char) : Nat :=
  (Chars.decimalValue c).getD 0

variable {c : Char} {last : Char} {raw : List Char}

theorem decimalValue_eq
    (hDigit : isDecimal c = true) :
    Chars.decimalValue c = some (valueOf c) := by
  rcases Option.isSome_iff_exists.mp hDigit with
    ⟨value, hValue⟩
  rw [valueOf, hValue, Option.getD_some]

theorem valueOf_lt
    (hDigit : isDecimal c = true) :
    valueOf c < 10 :=
  Chars.decimalValue_lt (decimalValue_eq hDigit)

/- The values of a text of digits. -/
theorem mapM_decimalValue
    {text : List Char}
    (hDigits : IsDigits text) :
    text.mapM Chars.decimalValue = some (text.map valueOf) := by
  induction text with
  | nil => rfl
  | cons c rest ih =>
      have hRest : IsDigits rest := fun d hMem =>
        hDigits d (List.mem_cons_of_mem _ hMem)
      rw [List.mapM_cons, ih hRest,
        decimalValue_eq (hDigits c List.mem_cons_self)]
      rfl

theorem gs1CheckDigit_eq
    {digits : List Char}
    (hDigits : IsDigits digits) :
    gs1CheckDigit digits =
      some (CheckDigit.mod10
        (CheckDigit.weighted rightWeight
          (digits.map valueOf).reverse)) := by
  rw [gs1CheckDigit, mapM_decimalValue hDigits,
    Option.map_some]

/- The weights of a text with its check digit. -/
def fullWeight (place : Nat) : Nat :=
  if place % 2 = 1 then 3 else 1

theorem fullWeight_succ (place : Nat) :
    fullWeight (1 + place) = rightWeight place := by
  unfold fullWeight rightWeight
  split <;> split <;> omega

theorem coprime_fullWeight (place : Nat) :
    Nat.Coprime 10 (fullWeight place) := by
  unfold fullWeight
  split <;> decide

/- The sum that a valid text brings to a multiple of ten. -/
def fullTotal (text : List Char) : Nat :=
  CheckDigit.weighted fullWeight (text.map valueOf).reverse

theorem fullTotal_concat
    (body : List Char)
    (last : Char) :
    fullTotal (body ++ [last]) =
      valueOf last +
        CheckDigit.weighted rightWeight
          (body.map valueOf).reverse := by
  have hWeights :
      (fun place => fullWeight (1 + place)) = rightWeight :=
    funext fullWeight_succ
  rw [fullTotal, List.map_append, List.reverse_append,
    List.map_singleton, List.reverse_singleton,
    List.singleton_append, CheckDigit.weighted_cons, hWeights]
  simp [fullWeight]

/- The check passes when the whole sum is a multiple of ten. -/
theorem validateGs1Check_eq_none_iff
    {text : List Char}
    (hDigits : IsDigits text)
    (hNe : text ≠ [])
    (field : String)
    (kind : IdentifierType) :
    validateGs1Check text field kind = none ↔
      fullTotal text % 10 = 0 := by
  rcases List.eq_nil_or_concat text with rfl | ⟨body, last, rfl⟩
  · exact absurd rfl hNe
  · rw [List.concat_eq_append] at hDigits ⊢
    have hBody : IsDigits body := fun c hMem =>
      hDigits c (List.mem_append_left _ hMem)
    have hLast : isDecimal last = true :=
      hDigits last (by simp)
    rw [validateGs1Check, List.dropLast_concat,
      List.getLast?_concat, gs1CheckDigit_eq hBody,
      Option.bind_some, decimalValue_eq hLast,
      fullTotal_concat]
    set total := CheckDigit.weighted rightWeight
      (body.map valueOf).reverse
    have hMod : CheckDigit.mod10 total = valueOf last ↔
        (total + valueOf last) % 10 = 0 :=
      CheckDigit.mod10_eq_iff (valueOf_lt hLast)
    rw [Nat.add_comm, ← hMod]
    simp only [ite_eq_right_iff, reduceCtorEq, imp_false,
      not_not]
    exact eq_comm

--------
-- Three Check Digits
--------

/- The weights 3 and 1 in turn, from a weight on. -/
theorem weightedTotal_eq
    (digits : List Nat)
    (total : Nat) :
    QrDecoder.weightedTotal total 3 digits =
        total + CheckDigit.weighted rightWeight digits ∧
      QrDecoder.weightedTotal total 1 digits =
        total + CheckDigit.weighted fullWeight digits := by
  have hFull :
      (fun place => fullWeight (1 + place)) = rightWeight :=
    funext fullWeight_succ
  have hRight :
      (fun place => rightWeight (1 + place)) = fullWeight := by
    funext place
    unfold fullWeight rightWeight
    split <;> split <;> omega
  induction digits generalizing total with
  | nil => exact ⟨rfl, rfl⟩
  | cons digit rest ih =>
      rw [QrDecoder.weightedTotal, QrDecoder.weightedTotal,
        CheckDigit.weighted_cons, CheckDigit.weighted_cons,
        hFull, hRight]
      refine ⟨?_, ?_⟩
      · rw [if_pos rfl, (ih _).2]
        simp [rightWeight, Nat.add_assoc]
      · rw [if_neg (by omega), (ih _).1]
        simp [fullWeight, Nat.add_assoc]

/-
  The weights from the left are those from the right when the
  number of digits is odd.
-/
theorem weighted_reverse_of_odd
    {digits : List Nat}
    (hOdd : digits.length % 2 = 1) :
    CheckDigit.weighted rightWeight digits.reverse =
      CheckDigit.weighted rightWeight digits := by
  rw [CheckDigit.weighted_reverse]
  apply CheckDigit.weighted_congr
  intro place hPlace
  have hParity : (digits.length - 1 - place) % 2 = place % 2 := by
    omega
  rw [rightWeight, hParity, rightWeight]

variable {body : List Char}

/- The digit that the code of class URIs computes. -/
theorem gs1CheckDigit_epcis
    (hOdd : body.length % 2 = 1) :
    EpcisLotIdentity.gs1CheckDigit body =
      (toString (CheckDigit.mod10
        (CheckDigit.weighted rightWeight
          (body.map valueOf).reverse))).toList := by
  rw [weighted_reverse_of_odd
    (by rw [List.length_map]; exact hOdd),
    CheckDigit.weighted, List.zipIdx_map, List.map_map]
  refine congrArg
    (fun total : Nat =>
      (toString ((10 - total % 10) % 10)).toList)
    (congrArg List.sum (List.map_congr_left ?_))
  rintro ⟨c, place⟩ _
  simp only [Function.comp_apply, Prod.map_apply, id_eq,
    valueOf, rightWeight]
  congr 1
  split <;> split <;> omega

theorem IsDigits.concat
    (hBody : IsDigits body)
    (hLast : isDecimal last = true) :
    IsDigits (body ++ [last]) := by
  intro c hMem
  rcases List.mem_append.mp hMem with hIn | hEnd
  · exact hBody c hIn
  · rw [List.mem_singleton.mp hEnd]
    exact hLast

/- The check of a code that was scanned. -/
theorem isValidGtinCheckDigit_concat
    (hBody : IsDigits body)
    (hLast : isDecimal last = true)
    (hLength : body.length = 13) :
    QrDecoder.isValidGtinCheckDigit (body ++ [last]) = true ↔
      CheckDigit.mod10
        (CheckDigit.weighted rightWeight
          (body.map valueOf).reverse) = valueOf last := by
  rw [QrDecoder.isValidGtinCheckDigit,
    mapM_decimalValue (hBody.concat hLast), List.map_append,
    List.map_singleton]
  dsimp only
  rw [if_neg (by simp [hLength]), List.dropLast_concat,
    List.getLastD_concat, (weightedTotal_eq _ 0).1,
    Nat.zero_add, decide_eq_true_eq]
  rfl

/- Zeros on the left change nothing. -/
theorem fullTotal_zfill14 (text : List Char) :
    fullTotal (zfill14 text) = fullTotal text := by
  have hZero : valueOf '0' = 0 := by decide
  rw [fullTotal, zfill14, List.map_append, List.map_replicate,
    hZero, List.reverse_append, List.reverse_replicate,
    CheckDigit.weighted_append,
    CheckDigit.weighted_replicate_zero, Nat.add_zero]
  rfl

theorem isDigits_zfill14
    {text : List Char}
    (hDigits : IsDigits text) :
    IsDigits (zfill14 text) := by
  intro c hMem
  rcases List.mem_append.mp hMem with hPad | hIn
  · rw [List.eq_of_mem_replicate hPad]
    decide
  · exact hDigits c hIn

/- The check of a text that is padded. -/
theorem validateGs1Check_zfill14_iff
    {text : List Char}
    (hDigits : IsDigits text)
    (hNe : text ≠ [])
    (field : String)
    (kind : IdentifierType) :
    validateGs1Check (zfill14 text) field kind = none ↔
      validateGs1Check text field kind = none := by
  have hPadded : zfill14 text ≠ [] := by
    intro hNil
    exact hNe (List.append_eq_nil_iff.mp hNil).2
  rw [validateGs1Check_eq_none_iff
      (isDigits_zfill14 hDigits) hPadded,
    validateGs1Check_eq_none_iff hDigits hNe,
    fullTotal_zfill14]

--------
-- Agreement
--------

/- A digit that is replaced by another one is found out. -/
theorem validateGs1Check_replace
    {before after : List Char}
    {old new : Char}
    {field : String}
    {kind : IdentifierType}
    (hDigits : IsDigits (before ++ old :: after))
    (hNew : isDecimal new = true)
    (hNe : Chars.decimalValue old ≠ Chars.decimalValue new)
    (hValid :
      validateGs1Check (before ++ old :: after) field kind =
        none) :
    validateGs1Check (before ++ new :: after) field kind ≠
      none := by
  have hOld : isDecimal old = true := hDigits old (by simp)
  have hDigits' : IsDigits (before ++ new :: after) := by
    intro c hMem
    rcases List.mem_append.mp hMem with hIn | hIn
    · exact hDigits c (List.mem_append_left _ hIn)
    · rcases List.mem_cons.mp hIn with rfl | hLater
      · exact hNew
      · exact hDigits c (List.mem_append_right _
          (List.mem_cons_of_mem _ hLater))
  have hValues : valueOf old ≠ valueOf new := by
    intro hSame
    apply hNe
    rw [decimalValue_eq hOld, decimalValue_eq hNew, hSame]
  rw [validateGs1Check_eq_none_iff hDigits (by simp)] at hValid
  rw [Ne, validateGs1Check_eq_none_iff hDigits' (by simp)]
  intro hAlso
  have hTotals : ∀ c : Char,
      fullTotal (before ++ c :: after) =
        CheckDigit.weighted fullWeight
          ((after.map valueOf).reverse ++
            valueOf c :: (before.map valueOf).reverse) := by
    intro c
    rw [fullTotal, List.map_append, List.map_cons,
      List.reverse_append, List.reverse_cons, List.append_assoc,
      List.singleton_append]
  rw [hTotals] at hValid hAlso
  exact CheckDigit.weighted_replace_ne
    (coprime_fullWeight _) (valueOf_lt hOld) (valueOf_lt hNew)
    hValues (hValid.trans hAlso.symm)

/- A GTIN of an accepted length is judged by its check. -/
theorem validateGtin_isValid
    (hLength :
      (raw.filter isDecimal).length ∈ [8, 12, 13, 14]) :
    (validateGtin (some raw)).isValid =
      (validateGs1Check (raw.filter isDecimal) "gtin"
        .gtin).isNone := by
  cases raw with
  | nil => simp at hLength
  | cons c rest =>
      simp only [validateGtin, validateDigits]
      rw [if_neg (not_not.mpr hLength)]
      cases hCheck : validateGs1Check
          ((c :: rest).filter isDecimal) "gtin" .gtin with
      | none => rfl
      | some refused =>
          unfold validateGs1Check at hCheck
          split at hCheck
          · split at hCheck
            · injection hCheck with hEq
              rw [← hEq]
              rfl
            · cases hCheck
          · cases hCheck

/- The padded digits of a GTIN are judged like the GTIN. -/
theorem validateGtin_zfill14
    (hLength :
      (raw.filter isDecimal).length ∈ [8, 12, 13, 14]) :
    (validateGtin (some (zfill14 (raw.filter isDecimal)))).isValid
      = (validateGtin (some raw)).isValid := by
  set clean := raw.filter isDecimal with hClean
  have hDigits : IsDigits clean := fun c hMem =>
    List.of_mem_filter hMem
  have hNe : clean ≠ [] := by
    intro hNil
    rw [hNil] at hLength
    simp at hLength
  have hPadded : (zfill14 clean).filter isDecimal =
      zfill14 clean :=
    List.filter_eq_self.mpr (isDigits_zfill14 hDigits)
  have hFull : (zfill14 clean).length = 14 := by
    have hAtMost : clean.length ≤ 14 := by
      simp only [List.mem_cons, List.not_mem_nil, or_false]
        at hLength
      omega
    rw [zfill14, List.length_append, List.length_replicate]
    omega
  rw [validateGtin_isValid hLength,
    validateGtin_isValid (by rw [hPadded, hFull]; decide),
    hPadded, Bool.eq_iff_iff, Option.isNone_iff_eq_none,
    Option.isNone_iff_eq_none]
  exact validateGs1Check_zfill14_iff hDigits hNe "gtin" .gtin

/-
  On the thirteen digits before a check digit the three places
  compute one digit, and the two that check accept that one
  alone; no digit of a valid text, of any length, can be
  replaced by another one; and zeros on the left, up to
  fourteen digits, change no verdict.
-/
theorem checkDigits_sound :
    (∀ (body : List Char) (last : Char),
      IsDigits body → isDecimal last = true →
        body.length = 13 →
          ∃ digit, gs1CheckDigit body = some digit ∧
            EpcisLotIdentity.gs1CheckDigit body =
              (toString digit).toList ∧
            (QrDecoder.isValidGtinCheckDigit (body ++ [last]) =
                true ↔
              Chars.decimalValue last = some digit) ∧
            (∀ field kind,
              validateGs1Check (body ++ [last]) field kind =
                  none ↔
                Chars.decimalValue last = some digit)) ∧
      (∀ (before after : List Char) (old new : Char)
          (field : String) (kind : IdentifierType),
        IsDigits (before ++ old :: after) →
          isDecimal new = true →
            Chars.decimalValue old ≠ Chars.decimalValue new →
              validateGs1Check (before ++ old :: after) field
                  kind = none →
                validateGs1Check (before ++ new :: after) field
                  kind ≠ none) ∧
      (∀ (text : List Char) (field : String)
          (kind : IdentifierType),
        IsDigits text → text ≠ [] →
          (validateGs1Check (zfill14 text) field kind = none ↔
            validateGs1Check text field kind = none)) ∧
      (∀ raw : List Char,
        (raw.filter isDecimal).length ∈ [8, 12, 13, 14] →
          (validateGtin
              (some (zfill14 (raw.filter isDecimal)))).isValid =
            (validateGtin (some raw)).isValid) := by
  refine ⟨?_, ?_, ?_, ?_⟩
  · intro body last hBody hLast hLength
    refine ⟨_, gs1CheckDigit_eq hBody,
      gs1CheckDigit_epcis (by omega), ?_, ?_⟩
    · rw [isValidGtinCheckDigit_concat hBody hLast hLength,
        decimalValue_eq hLast, Option.some.injEq]
      exact eq_comm
    · intro field kind
      rw [validateGs1Check_eq_none_iff (hBody.concat hLast)
          (by simp),
        fullTotal_concat, Nat.add_comm,
        ← CheckDigit.mod10_eq_iff (valueOf_lt hLast),
        decimalValue_eq hLast, Option.some.injEq]
      exact eq_comm
  · intro before after old new field kind hDigits hNew hNe
    exact validateGs1Check_replace hDigits hNew hNe
  · intro text field kind hDigits hNe
    exact validateGs1Check_zfill14_iff hDigits hNe field kind
  · intro raw hLength
    exact validateGtin_zfill14 hLength

end FsmaValidation

end RegEngine
