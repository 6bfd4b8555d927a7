import RegEngine.Ingestion.Labels.Gs1128
import RegEngine.Library.Chars
import RegEngine.Library.Datetime

/-
  The elements a GS1-128 label accepts and the element string
  it prints (`ingestion/app/labels/gs1_128.py`), with the
  checks of the identifiers (`ingestion/app/gs1_identifiers.py`
  and `shared/fsma_validation.py`). Texts are lists of their
  characters.

  Main declarations:
    * `Gs1Identifiers.validate`
    * `Gs1128.prepare`
    * `Gs1128.elementString`
-/

--------
-- Identifiers
--------

namespace RegEngine

namespace Gs1Identifiers

/- The identifiers that are checked. -/
inductive Kind where
  | gtin
  | gln
  | sscc
  deriving DecidableEq

/- The name of an identifier in messages. -/
def Kind.name : Kind → String
| .gtin => "GTIN"
| .gln => "GLN"
| .sscc => "SSCC"

/- `GTIN_LENGTHS`, `GLN_LENGTHS` and `SSCC_LENGTHS`. -/
def Kind.lengths : Kind → List Nat
| .gtin => [8, 12, 13, 14]
| .gln => [13]
| .sscc => [18]

/- The lengths of an identifier in messages. -/
def Kind.lengthsText : Kind → String
| .gtin => "8, 12, 13 or 14"
| .gln => "13"
| .sscc => "18"

/- A value as it is sent: `None`, a text, or something else. -/
inductive Raw where
  | none
  | text (chars : List Char)
  | other
  deriving DecidableEq

/-
  `calculate_gs1_check_digit`: the digits are weighted 3, 1,
  3, 1, ... from the right.
-/
def checkDigit (digits : List Nat) : Nat :=
  let total :=
    (digits.reverse.zipIdx.map (fun entry =>
      entry.1 * (if entry.2 % 2 = 1 then 1 else 3))).sum
  (10 - total % 10) % 10

/- `int` of an ASCII digit. -/
def digitOf (c : Char) : Nat :=
  c.toNat - 48

/-
  `_validate`: the value without white space at its ends, or
  the message of the first check that fails.
-/
def validate (kind : Kind) : Raw → Except String (List Char)
| .none => .error (emptyMessage kind)
| .other =>
    .error (kind.name ++
      " must be sent as text so leading zeros are kept.")
| .text raw =>
    let clean := Chars.strip raw
    if clean = [] then
      .error (emptyMessage kind)
    else if ¬ clean.all Char.isDigit then
      .error (kind.name ++
        " contains characters other than digits. Use digits " ++
        "only, with no spaces, letters or punctuation.")
    else if clean.length ∉ kind.lengths then
      .error (kind.name ++ " has " ++ toString clean.length ++
        " digits. A " ++ kind.name ++ " must have " ++
        kind.lengthsText ++ " digits.")
    else if (clean.getLast?.map digitOf).getD 0 ≠
        checkDigit (clean.dropLast.map digitOf) then
      .error (kind.name ++
        " check digit does not match. Compare every digit " ++
        "with the source; one is likely mistyped.")
    else
      .ok clean
where
  emptyMessage (kind : Kind) : String :=
    kind.name ++ " is empty. Enter the " ++ kind.name ++
      " exactly as printed or issued."

/- `validate_gtin`, `validate_gln` and `validate_sscc`. -/
def validateGtin : Raw → Except String (List Char) :=
  validate .gtin

def validateGln : Raw → Except String (List Char) :=
  validate .gln

def validateSscc : Raw → Except String (List Char) :=
  validate .sscc

/- A valid identifier is made of digits. -/
theorem all_isDigit_of_validate
    {kind : Kind}
    {raw : Raw}
    {value : List Char}
    (hValid : validate kind raw = .ok value) :
    value.all Char.isDigit = true := by
  cases raw with
  | none => simp [validate] at hValid
  | other => simp [validate] at hValid
  | text raw =>
      simp only [validate] at hValid
      split at hValid
      · exact absurd hValid (by simp)
      split at hValid
      · exact absurd hValid (by simp)
      rename_i hDigits
      split at hValid
      · exact absurd hValid (by simp)
      split at hValid
      · exact absurd hValid (by simp)
      rw [← Except.ok.inj hValid]
      simpa using hDigits

end Gs1Identifiers

end RegEngine

--------
-- Application Identifiers
--------

namespace RegEngine

open Gs1Identifiers (Raw)

namespace Gs1128

/- The application identifiers of `_SPECS`. -/
inductive Ai where
  | sscc
  | gtin
  | content
  | productionDate
  | packDate
  | bestBefore
  | expiry
  | shipTo
  | location
  | lot
  | serial
  | count
  deriving DecidableEq

/- What an application identifier holds. -/
inductive Kind where
  | identifier (kind : Gs1Identifiers.Kind)
  | date
  | text
  | count
  deriving DecidableEq

/- `_Spec`. -/
structure Spec where
  isVariable : Bool
  kind : Kind
  size : Nat

namespace Ai

/- The keys of `_SPECS`. -/
def text : Ai → List Char
| .sscc => ['0', '0']
| .gtin => ['0', '1']
| .content => ['0', '2']
| .productionDate => ['1', '1']
| .packDate => ['1', '3']
| .bestBefore => ['1', '5']
| .expiry => ['1', '7']
| .shipTo => ['4', '1', '0']
| .location => ['4', '1', '4']
| .lot => ['1', '0']
| .serial => ['2', '1']
| .count => ['3', '7']

def all : List Ai :=
  [.sscc, .gtin, .content, .productionDate, .packDate,
    .bestBefore, .expiry, .shipTo, .location, .lot, .serial,
    .count]

/- The values of `_SPECS`. -/
def spec : Ai → Spec
| .sscc => ⟨false, .identifier .sscc, 18⟩
| .gtin => ⟨false, .identifier .gtin, 14⟩
| .content => ⟨false, .identifier .gtin, 14⟩
| .productionDate => ⟨false, .date, 6⟩
| .packDate => ⟨false, .date, 6⟩
| .bestBefore => ⟨false, .date, 6⟩
| .expiry => ⟨false, .date, 6⟩
| .shipTo => ⟨false, .identifier .gln, 13⟩
| .location => ⟨false, .identifier .gln, 13⟩
| .lot => ⟨true, .text, 20⟩
| .serial => ⟨true, .text, 20⟩
| .count => ⟨true, .count, 8⟩

end Ai

/- `Gs1LabelError` with its message, or a `ValueError`. -/
inductive InputError where
  | gs1LabelError (message : String)
  | valueError
  deriving DecidableEq

/- `_canonical_ai`. -/
def canonicalAi : Raw → Except InputError Ai
| .text raw =>
    let ai := Chars.strip raw
    if ai = [] then
      .error (.gs1LabelError "Application identifier is empty.")
    else
      match Ai.all.find? (fun known => known.text = ai) with
      | some known => .ok known
      | none =>
          if ai.all Chars.isDigit ∧ 2 ≤ ai.length ∧
              ai.length ≤ 4 then
            .error (.gs1LabelError
              ("Application identifier " ++ String.ofList ai ++
                " is not supported."))
          else
            .error (.gs1LabelError
              "Unknown application identifier.")
| _ =>
    .error (.gs1LabelError
      "Application identifier must be text.")

--------
-- Values
--------

/- `int(text)`, with its `ValueError`. -/
def intOf (text : List Char) : Except InputError Nat :=
  match Chars.intOfDigits text with
  | some number => .ok number
  | none => .error .valueError

/-
  `_valid_date`. The year is read only when the day is not
  zero.
-/
def validDate (value : List Char) : Except InputError Bool :=
  if value.length ≠ 6 ∨ ¬ value.all Chars.isDigit then
    return false
  else do
    let month ← intOf ((value.drop 2).take 2)
    let day ← intOf ((value.drop 4).take 2)
    if month < 1 ∨ 12 < month then
      return false
    else if day = 0 then
      return true
    else do
      let year ← intOf (value.take 2)
      return decide (1 ≤ day) && decide
        (day ≤ CalendarDate.daysInMonth (2000 + year) month)

/- `_CSET82`. -/
def cset82 : List Char :=
  ("!\"%&'()*+,-./0123456789:;<=>?ABCDEFGHIJKLMNOPQRSTUVWXYZ" ++
    "_abcdefghijklmnopqrstuvwxyz").toList

/- The error of a value, after its application identifier. -/
def valueError (ai : Ai) (detail : String) : InputError :=
  .gs1LabelError ("Application identifier " ++
    String.ofList ai.text ++ " " ++ detail)

/- The checks of `_clean_value` on dates, counts and texts. -/
def checkValue (ai : Ai) (value : List Char) :
    Kind → Except InputError (List Char)
| .date =>
    match validDate value with
    | .error error => .error error
    | .ok false =>
        .error (valueError ai
          "needs a 6 digit date. Day 00 means the whole month.")
    | .ok true => .ok value
| .count =>
    if ¬ value.all Chars.isDigit ∨ value.length < 1 ∨
        ai.spec.size < value.length then
      .error (valueError ai
        ("needs 1 to " ++ toString ai.spec.size ++ " digits."))
    else
      .ok value
| _ =>
    if value.length < 1 ∨ ai.spec.size < value.length ∨
        value.any (fun c => !cset82.contains c) then
      .error (valueError ai
        ("has a character outside the GS1 set or the wrong " ++
          "length."))
    else
      .ok value

/- `_clean_value`. -/
def cleanValue (ai : Ai) (raw : Raw) :
    Except InputError (List Char) :=
  match ai.spec.kind, raw with
  | .identifier kind, raw =>
      match Gs1Identifiers.validate kind raw with
      | .ok value =>
          if value.length ≠ ai.spec.size then
            .error (valueError ai ("rejected. This label needs " ++
              toString ai.spec.size ++ " digits."))
          else
            .ok value
      | .error detail =>
          .error (valueError ai ("rejected. " ++ detail))
  | kind, .text raw =>
      if Chars.strip raw = [] then
        .error (valueError ai "value is empty.")
      else
        checkValue ai (Chars.strip raw) kind
  | _, _ => .error (valueError ai "value must be text.")

--------
-- Element Lists
--------

/- `_Element`; whether it is variable is told by its `ai`. -/
structure Element where
  ai : Ai
  value : List Char
  deriving DecidableEq

def Element.isVariable (element : Element) : Bool :=
  element.ai.spec.isVariable

/- What `_pair` reads of an item. -/
inductive Item where
  | pair (ai value : Raw)
  | malformed
  deriving DecidableEq

/- The argument: nothing or a text, no list, or its items. -/
inductive Elements where
  | nothing
  | notIterable
  | items (items : List Item)
  deriving DecidableEq

/- The loop of `_prepare`. -/
def prepareLoop
    (seen : List Ai)
    (fixed flexible : List Element) :
    List Item → Except InputError (List Element)
| [] => .ok (fixed ++ flexible)
| .malformed :: _ =>
    .error (.gs1LabelError
      ("Each label element needs an application identifier " ++
        "and a value."))
| .pair aiRaw valueRaw :: rest => do
    let ai ← canonicalAi aiRaw
    if ai ∈ seen then
      .error (valueError ai "is repeated.")
    else do
      let value ← cleanValue ai valueRaw
      if ai.spec.isVariable then
        prepareLoop (seen ++ [ai]) fixed
          (flexible ++ [⟨ai, value⟩]) rest
      else
        prepareLoop (seen ++ [ai]) (fixed ++ [⟨ai, value⟩])
          flexible rest

/- `_prepare`. -/
def prepare : Elements → Except InputError (List Element)
| .nothing | .items [] =>
    .error (.gs1LabelError "Label elements are empty.")
| .notIterable =>
    .error (.gs1LabelError
      ("Label elements must be a list of application " ++
        "identifier and value pairs."))
| .items items => prepareLoop [] [] [] items

--------
-- Accepted Values
--------

/- The values an application identifier accepts. -/
def Admits (ai : Ai) (value : List Char) : Prop :=
  match ai.spec.kind with
  | .identifier _ =>
      value.all Char.isDigit = true ∧ value.length = ai.spec.size
  | .date =>
      value.length = 6 ∧ value.all Chars.isDigit = true ∧
        validDate value = .ok true
  | .count =>
      value.all Chars.isDigit = true ∧ value ≠ [] ∧
        value.length ≤ ai.spec.size
  | .text =>
      (∀ c ∈ value, c ∈ cset82) ∧ value ≠ [] ∧
        value.length ≤ ai.spec.size

theorem digits_of_validDate
    {value : List Char}
    (hDate : validDate value = .ok true) :
    value.length = 6 ∧ value.all Chars.isDigit = true := by
  by_cases hShape : value.length ≠ 6 ∨ ¬ value.all Chars.isDigit
  · rw [validDate, if_pos hShape] at hDate
    cases hDate
  · simpa using hShape

variable {ai : Ai} {c : Char}

theorem admits_of_checkValue
    {value checked : List Char}
    (hKind : ∀ kind, ai.spec.kind ≠ .identifier kind)
    (hCheck : checkValue ai value ai.spec.kind = .ok checked) :
    Admits ai checked := by
  cases hEq : ai.spec.kind with
  | identifier kind => exact absurd hEq (hKind kind)
  | date =>
      simp only [hEq, checkValue] at hCheck
      split at hCheck
      · cases hCheck
      · cases hCheck
      · rename_i hDate
        cases hCheck
        have hDigits := digits_of_validDate hDate
        simp only [Admits, hEq]
        exact ⟨hDigits.1, hDigits.2, hDate⟩
  | count =>
      simp only [hEq, checkValue] at hCheck
      split at hCheck
      · cases hCheck
      · rename_i hShape
        cases hCheck
        simp only [not_or, not_not, not_lt] at hShape
        simp only [Admits, hEq]
        exact ⟨hShape.1,
          List.ne_nil_of_length_pos hShape.2.1, hShape.2.2⟩
  | text =>
      simp only [hEq, checkValue] at hCheck
      split at hCheck
      · cases hCheck
      · rename_i hShape
        cases hCheck
        simp only [not_or, not_lt] at hShape
        simp only [Admits, hEq]
        refine ⟨?_, List.ne_nil_of_length_pos hShape.1,
          hShape.2.1⟩
        simpa using hShape.2.2

/- What `_clean_value` returns is accepted. -/
theorem admits_of_cleanValue
    {raw : Raw}
    {value : List Char}
    (hClean : cleanValue ai raw = .ok value) :
    Admits ai value := by
  simp only [cleanValue] at hClean
  split at hClean
  · rename_i kind hKind
    split at hClean
    · rename_i checked hValid
      split at hClean
      · cases hClean
      · rename_i hLength
        cases hClean
        simp only [Admits, hKind]
        exact ⟨Gs1Identifiers.all_isDigit_of_validate hValid,
          by simpa using hLength⟩
    · cases hClean
  · rename_i hKind
    split at hClean
    · cases hClean
    · apply admits_of_checkValue _ hClean
      intro kind hEq
      exact hKind kind hEq
  · cases hClean

/- An accepted value is not empty. -/
theorem Admits.ne_nil
    {value : List Char}
    (hAdmits : Admits ai value) :
    value ≠ [] := by
  cases hKind : ai.spec.kind with
  | identifier kind =>
      simp only [Admits, hKind] at hAdmits
      have hSize : ai.spec.size ≠ 0 := by
        cases ai <;> decide
      intro hNil
      rw [hNil] at hAdmits
      exact hSize hAdmits.2.symm
  | date =>
      simp only [Admits, hKind] at hAdmits
      exact List.ne_nil_of_length_pos (by omega)
  | count =>
      simp only [Admits, hKind] at hAdmits
      exact hAdmits.2.1
  | text =>
      simp only [Admits, hKind] at hAdmits
      exact hAdmits.2.1

/- An ASCII digit is neither white space nor a sign. -/
theorem code_of_isDigit
    (hDigit : c.isDigit = true) :
    48 ≤ c.toNat ∧ c.toNat ≤ 57 := by
  simp only [Char.isDigit, Bool.and_eq_true,
    decide_eq_true_eq] at hDigit
  exact hDigit

/- The characters of a lot code or serial are graphic. -/
theorem code_of_mem_cset82
    (hMem : c ∈ cset82) :
    32 < c.toNat ∧ c.toNat < 128 := by
  have hAll :
      ∀ c ∈ cset82, 32 < c.toNat ∧ c.toNat < 128 := by
    apply Text.forall_of_all
    decide
  exact hAll c hMem

/- An accepted value holds no white space. -/
theorem Admits.isSpace
    {value : List Char}
    (hAdmits : Admits ai value)
    (hMem : c ∈ value) :
    Python.isSpace c = false := by
  cases hKind : ai.spec.kind with
  | identifier kind =>
      simp only [Admits, hKind, List.all_eq_true] at hAdmits
      have hCode := code_of_isDigit (hAdmits.1 c hMem)
      exact Chars.isSpace_of_code (by omega) (by omega)
  | date =>
      simp only [Admits, hKind, List.all_eq_true] at hAdmits
      exact Chars.isSpace_of_isDigit (hAdmits.2.1 c hMem)
  | count =>
      simp only [Admits, hKind, List.all_eq_true] at hAdmits
      exact Chars.isSpace_of_isDigit (hAdmits.1 c hMem)
  | text =>
      simp only [Admits, hKind] at hAdmits
      have hCode := code_of_mem_cset82 (hAdmits.1 c hMem)
      exact Chars.isSpace_of_code hCode.1 hCode.2

/- Only lot codes and serials hold signs. -/
theorem Admits.ne_sign
    {value : List Char}
    (hAdmits : Admits ai value)
    (hKind : ai.spec.kind ≠ .text)
    {c sign : Char}
    (hMem : c ∈ value)
    (hSign : sign.toNat < 48) :
    c ≠ sign := by
  cases hEq : ai.spec.kind with
  | identifier kind =>
      simp only [Admits, hEq, List.all_eq_true] at hAdmits
      have hCode := code_of_isDigit (hAdmits.1 c hMem)
      intro hSame
      rw [hSame] at hCode
      omega
  | date =>
      simp only [Admits, hEq, List.all_eq_true] at hAdmits
      exact Chars.ne_of_isDigit (hAdmits.2.1 c hMem) hSign
  | count =>
      simp only [Admits, hEq, List.all_eq_true] at hAdmits
      exact Chars.ne_of_isDigit (hAdmits.1 c hMem) hSign
  | text => exact absurd hEq hKind

--------
-- Accepted Lists
--------

/-
  What `_prepare` makes sure of: accepted values, no
  application identifier twice, and elements of a fixed length
  before the others.
-/
structure Prepared (elements : List Element) : Prop where
  admits : ∀ element ∈ elements,
    Admits element.ai element.value
  distinct : (elements.map Element.ai).Nodup
  ordered : elements.Pairwise (fun earlier later =>
    earlier.isVariable = true → later.isVariable = true)

theorem Prepared.tail
    {element : Element}
    {rest : List Element}
    (hPrepared : Prepared (element :: rest)) :
    Prepared rest :=
  ⟨fun other hOther =>
      hPrepared.admits other (List.mem_cons_of_mem _ hOther),
    (List.nodup_cons.mp hPrepared.distinct).2,
    (List.pairwise_cons.mp hPrepared.ordered).2⟩

/- The state of the loop of `_prepare`. -/
structure Sorted
    (seen : List Ai)
    (fixed flexible : List Element) : Prop where
  admits : ∀ element ∈ fixed ++ flexible,
    Admits element.ai element.value
  seen : ∀ element ∈ fixed ++ flexible, element.ai ∈ seen
  distinct : ((fixed ++ flexible).map Element.ai).Nodup
  fixed : ∀ element ∈ fixed, element.isVariable = false
  flexible : ∀ element ∈ flexible, element.isVariable = true

variable {fixed flexible : List Element}
variable {elements : List Element} {input : Elements}

theorem Sorted.prepared
    {seen : List Ai}
    (hSorted : Sorted seen fixed flexible) :
    Prepared (fixed ++ flexible) := by
  refine ⟨hSorted.admits, hSorted.distinct, ?_⟩
  rw [List.pairwise_append]
  refine ⟨?_, ?_, ?_⟩
  · apply List.Pairwise.imp_of_mem _
      (List.pairwise_of_forall (fun _ _ => trivial))
    intro earlier later hEarlier _ _ hVariable
    rw [hSorted.fixed earlier hEarlier] at hVariable
    exact absurd hVariable Bool.false_ne_true
  · apply List.Pairwise.imp_of_mem _
      (List.pairwise_of_forall (fun _ _ => trivial))
    intro earlier later _ hLater _ _
    exact hSorted.flexible later hLater
  · intro earlier _ later hLater _
    exact hSorted.flexible later hLater

/- One more element, in the list it belongs to. -/
theorem Sorted.add
    {seen : List Ai}
    (element : Element)
    (hSorted : Sorted seen fixed flexible)
    (hNew : element.ai ∉ seen)
    (hAdmits : Admits element.ai element.value)
    {fixed' flexible' : List Element}
    (hPerm : (fixed' ++ flexible').Perm
      (element :: (fixed ++ flexible)))
    (hFixed : ∀ e ∈ fixed', e.isVariable = false)
    (hFlexible : ∀ e ∈ flexible', e.isVariable = true) :
    Sorted (seen ++ [element.ai]) fixed' flexible' := by
  refine ⟨?_, ?_, ?_, hFixed, hFlexible⟩
  · intro e hMem
    rcases List.mem_cons.mp (hPerm.mem_iff.mp hMem) with
      hHere | hEarlier
    · rw [hHere]
      exact hAdmits
    · exact hSorted.admits e hEarlier
  · intro e hMem
    rw [List.mem_append]
    rcases List.mem_cons.mp (hPerm.mem_iff.mp hMem) with
      hHere | hEarlier
    · exact Or.inr (by simp [hHere])
    · exact Or.inl (hSorted.seen e hEarlier)
  · rw [(hPerm.map Element.ai).nodup_iff, List.map_cons,
      List.nodup_cons]
    refine ⟨?_, hSorted.distinct⟩
    intro hMem
    rcases List.mem_map.mp hMem with ⟨e, hEarlier, hAi⟩
    exact hNew (hAi ▸ hSorted.seen e hEarlier)

theorem prepared_of_prepareLoop
    {items : List Item}
    {seen : List Ai}
    {fixed flexible elements : List Element}
    (hSorted : Sorted seen fixed flexible)
    (hLoop : prepareLoop seen fixed flexible items =
      .ok elements) :
    Prepared elements := by
  induction items generalizing seen fixed flexible with
  | nil =>
      cases hLoop
      exact hSorted.prepared
  | cons item rest ih =>
      cases item with
      | malformed => cases hLoop
      | pair aiRaw valueRaw =>
          simp only [prepareLoop] at hLoop
          cases hAi : canonicalAi aiRaw with
          | error error => simp [hAi, bind, Except.bind] at hLoop
          | ok ai =>
              simp only [hAi, bind, Except.bind] at hLoop
              split at hLoop
              · cases hLoop
              rename_i hNew
              cases hValue : cleanValue ai valueRaw with
              | error error => simp [hValue] at hLoop
              | ok value =>
                  simp only [hValue] at hLoop
                  have hAdmits := admits_of_cleanValue hValue
                  split at hLoop
                  · rename_i hVariable
                    refine ih (Sorted.add ⟨ai, value⟩ hSorted
                      hNew hAdmits ?_ hSorted.fixed ?_) hLoop
                    · rw [← List.append_assoc]
                      exact List.perm_append_singleton _ _
                    · simpa [or_imp, forall_and, Element.isVariable,
                        hVariable] using hSorted.flexible
                  · rename_i hFixed
                    refine ih (Sorted.add ⟨ai, value⟩ hSorted
                      hNew hAdmits ?_ ?_ hSorted.flexible) hLoop
                    · rw [List.append_assoc]
                      exact List.perm_middle
                    · simpa [or_imp, forall_and, Element.isVariable,
                        hFixed] using hSorted.fixed

/- What `_prepare` returns is prepared. -/
theorem prepared_of_prepare
    (hPrepare : prepare input = .ok elements) :
    Prepared elements := by
  cases input with
  | nothing => cases hPrepare
  | notIterable => cases hPrepare
  | items items =>
      cases items with
      | nil => cases hPrepare
      | cons item rest =>
          apply prepared_of_prepareLoop _ hPrepare
          exact ⟨by simp, by simp, by simp, by simp, by simp⟩

--------
-- Element Strings
--------

open Code128 (Atom)

/- The loop of `_atoms`. -/
def atomsLoop (variableCount : Nat) :
    Nat → List Element → List Atom
| _, [] => []
| seen, element :: rest =>
    (element.ai.text ++ element.value).map Atom.char ++
      if element.isVariable then
        (if seen + 1 < variableCount then [Atom.sep] else []) ++
          atomsLoop variableCount (seen + 1) rest
      else
        atomsLoop variableCount seen rest

/- `_atoms`. -/
def atoms (elements : List Element) : List Atom :=
  atomsLoop (elements.countP Element.isVariable) 0 elements

def groupSeparator : Char :=
  Char.ofNat 29

/- `_join_atoms`. -/
def joinAtoms (atoms : List Atom) : List Char :=
  atoms.map (fun atom =>
    match atom with
    | .sep => groupSeparator
    | .char c => c)

/- `element_string`. -/
def elementString (input : Elements) :
    Except InputError (List Char) :=
  (prepare input).map (fun elements =>
    joinAtoms (atoms elements))

def Element.block (element : Element) : List Char :=
  element.ai.text ++ element.value

/- The separator after an element that others follow. -/
def separatorAfter (element : Element) (rest : List Element) :
    List Char :=
  if element.isVariable && rest.any Element.isVariable then
    [groupSeparator]
  else
    []

/- The text of a list of elements. -/
def textOf : List Element → List Char
| [] => []
| element :: rest =>
    element.block ++ (separatorAfter element rest ++ textOf rest)

theorem joinAtoms_map_char
    (text : List Char) :
    joinAtoms (text.map Atom.char) = text := by
  simp [joinAtoms, Function.comp_def]

theorem joinAtoms_append
    (first second : List Atom) :
    joinAtoms (first ++ second) =
      joinAtoms first ++ joinAtoms second := by
  simp [joinAtoms]

theorem joinAtoms_atomsLoop
    (elements : List Element)
    (seen : Nat) :
    joinAtoms (atomsLoop
      (seen + elements.countP Element.isVariable) seen
        elements) = textOf elements := by
  induction elements generalizing seen with
  | nil => rfl
  | cons element rest ih =>
      rw [atomsLoop, joinAtoms_append, joinAtoms_map_char, textOf,
        Element.block, List.append_cancel_left_eq]
      cases hVariable : element.isVariable with
      | false =>
          rw [List.countP_cons_of_neg (by simp [hVariable])]
          simp only [separatorAfter, hVariable, Bool.false_and,
            Bool.false_eq_true, if_false, List.nil_append]
          exact ih seen
      | true =>
          have hCount :
              (element :: rest).countP Element.isVariable =
                rest.countP Element.isVariable + 1 :=
            List.countP_cons_of_pos hVariable
          have hMore :
              seen + 1 < seen + (rest.countP
                Element.isVariable + 1) ↔
                rest.any Element.isVariable = true := by
            rw [List.any_eq_true, ← List.countP_pos_iff]
            omega
          rw [hCount, if_pos rfl, joinAtoms_append]
          rw [show seen + (rest.countP Element.isVariable + 1) =
            seen + 1 + rest.countP Element.isVariable by omega]
            at hMore ⊢
          rw [ih (seen + 1)]
          congr 1
          simp only [separatorAfter, hVariable, Bool.true_and]
          by_cases hAny : rest.any Element.isVariable = true
          · rw [if_pos (hMore.mpr hAny), if_pos hAny]
            rfl
          · rw [if_neg (fun hLess => hAny (hMore.mp hLess)),
              if_neg hAny]
            rfl

/- The element string is the text of the accepted elements. -/
theorem elementString_eq
    (hPrepare : prepare input = .ok elements) :
    elementString input = .ok (textOf elements) := by
  rw [elementString, hPrepare]
  have hLoop := joinAtoms_atomsLoop elements 0
  rw [Nat.zero_add] at hLoop
  exact congrArg Except.ok hLoop

end Gs1128

end RegEngine
