import RegEngine.Library.Python

/-
  Texts that a spreadsheet takes for a formula, and the quote
  that keeps it from doing so (`shared/fda_export/csv_safety.py`).

  Main declarations:
    * `CsvSafety.Dangerous`
    * `CsvSafety.safeCell`
    * `CsvSafety.shown`
-/

namespace RegEngine

namespace CsvSafety

/- `DANGEROUS_PREFIXES`. -/
def dangerousPrefixes : List Char :=
  ['=', '+', '-', '@', '\t', '\r']

/- A text that a spreadsheet may run. -/
def Dangerous (text : List Char) : Prop :=
  ∃ c ∈ text.head?, c ∈ dangerousPrefixes

instance : DecidablePred Dangerous := by
  intro text
  unfold Dangerous
  cases text with
  | nil => exact isFalse (fun ⟨_, hMem, _⟩ => nomatch hMem)
  | cons c rest =>
    exact decidable_of_iff (c ∈ dangerousPrefixes)
      ⟨fun hMem => ⟨c, rfl, hMem⟩,
        fun ⟨_, hHead, hMem⟩ => by cases hHead; exact hMem⟩

/- `safe_cell`, for a text. -/
def safeCell (text : String) : String :=
  if Dangerous text.toList then "'" ++ text else text

/- A text with a harmless first character is safe. -/
theorem not_dangerous_cons
    {c : Char}
    {rest : List Char}
    (hSafe : c ∉ dangerousPrefixes) :
    ¬ Dangerous (c :: rest) := by
  rintro ⟨d, hHead, hMem⟩
  cases hHead
  exact hSafe hMem

/- An empty text is safe. -/
theorem not_dangerous_nil :
    ¬ Dangerous [] := by
  rintro ⟨_, hHead, _⟩
  cases hHead

/- A text that is not dangerous is kept. -/
theorem safeCell_eq_self
    {text : String}
    (hSafe : ¬ Dangerous text.toList) :
    safeCell text = text :=
  if_neg hSafe

theorem not_dangerous_safeCell
    (text : String) :
    ¬ Dangerous (safeCell text).toList := by
  unfold safeCell
  split
  · rw [String.toList_append]
    exact not_dangerous_cons (c := '\'') (by decide)
  · assumption

/- A safe cell is empty for the empty text alone. -/
theorem safeCell_eq_empty_iff
    {text : String} :
    safeCell text = "" ↔ text = "" := by
  unfold safeCell
  constructor
  · intro hEmpty
    split at hEmpty
    · have hList := congrArg String.toList hEmpty
      rw [String.toList_append] at hList
      cases hList
    · exact hEmpty
  · rintro rfl
    exact if_neg not_dangerous_nil

/- The text of a cell, without the quote before a formula. -/
def shown (cell : String) : String :=
  match cell.toList with
  | '\'' :: rest =>
      if Dangerous rest then String.ofList rest else cell
  | _ => cell

/- A text that reads as a formula with the quote before it. -/
def Guarded (text : String) : Prop :=
  ∃ rest, text.toList = '\'' :: rest ∧ Dangerous rest

/- A text with no quote before a formula is shown as it is. -/
theorem shown_eq_self
    {cell : String}
    (hGuarded : ¬ Guarded cell) :
    shown cell = cell := by
  unfold shown
  split
  · rename_i rest hCell
    exact if_neg (fun hDanger => hGuarded ⟨rest, hCell, hDanger⟩)
  · rfl

/- Every text but a guarded one is shown by its safe cell. -/
theorem shown_safeCell_iff
    {text : String} :
    shown (safeCell text) = text ↔ ¬ Guarded text := by
  by_cases hDanger : Dangerous text.toList
  · have hShown : shown (safeCell text) = text := by
      rw [safeCell, if_pos hDanger, shown, String.toList_append]
      change (if Dangerous text.toList then
        String.ofList text.toList else _) = _
      rw [if_pos hDanger, String.ofList_toList]
    refine ⟨fun _ => ?_, fun _ => hShown⟩
    rintro ⟨rest, hText, -⟩
    rw [hText] at hDanger
    exact not_dangerous_cons (by decide) hDanger
  · rw [safeCell_eq_self hDanger]
    refine ⟨fun hShown => ?_, shown_eq_self⟩
    rintro ⟨rest, hText, hRest⟩
    unfold shown at hShown
    rw [hText] at hShown
    simp only [if_pos hRest] at hShown
    have hList := congrArg String.toList hShown
    rw [String.toList_ofList, hText] at hList
    exact List.cons_ne_self _ _ hList.symm

end CsvSafety

end RegEngine
