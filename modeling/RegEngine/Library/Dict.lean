import Mathlib.Data.List.Basic
import RegEngine.Library.Value

/-
  Dictionaries that are written entry by entry: an entry stays
  where its key was first written, with the value that was
  written last.

  Main declarations:
    * `Python.Dict.ofWrites`
    * `Python.Dict.Last`
    * `Python.Dict.get_set`
-/

--------
-- One Write
--------

namespace Python

namespace Dict

/- Every key stands in a dictionary once. -/
def Distinct (d : Dict) : Prop :=
  (d.map Prod.fst).Nodup

theorem keys_set
    (d : Dict)
    (key : String)
    (value : Value) :
    (Dict.set d key value).map Prod.fst =
      if key ∈ d.map Prod.fst then d.map Prod.fst
      else d.map Prod.fst ++ [key] := by
  induction d with
  | nil => rfl
  | cons entry rest ih =>
      rw [Dict.set]
      by_cases hKey : entry.1 = key
      · simp [hKey]
      · rw [if_neg hKey, List.map_cons, ih]
        simp only [List.map_cons, List.mem_cons, Ne.symm hKey,
          false_or]
        split
        · rfl
        · rfl

variable {d : Dict} {key : String}

/- A write keeps every key once. -/
theorem distinct_set
    (hDistinct : Distinct d)
    (key : String)
    (value : Value) :
    Distinct (Dict.set d key value) := by
  unfold Distinct at hDistinct ⊢
  rw [keys_set]
  split
  · exact hDistinct
  · rename_i hNew
    refine List.nodup_append.mpr ⟨hDistinct, by simp, ?_⟩
    intro other hOther last hLast hEq
    rw [hEq, List.mem_singleton.mp hLast] at hOther
    exact hNew hOther

/- The entries after a write. -/
theorem mem_set
    (hDistinct : Distinct d)
    {value : Value}
    {entry : String × Value} :
    entry ∈ Dict.set d key value ↔
      entry = (key, value) ∨ (entry.1 ≠ key ∧ entry ∈ d) := by
  induction d with
  | nil => simp [Dict.set]
  | cons first rest ih =>
      have hRest := List.nodup_cons.mp hDistinct
      rw [Dict.set]
      by_cases hKey : first.1 = key
      · rw [if_pos hKey, List.mem_cons, List.mem_cons]
        constructor
        · rintro (hHead | hTail)
          · exact Or.inl hHead
          · refine Or.inr ⟨?_, Or.inr hTail⟩
            intro hSame
            apply hRest.1
            rw [hKey, ← hSame]
            exact List.mem_map_of_mem hTail
        · rintro (hNew | ⟨hOther, hHead | hTail⟩)
          · exact Or.inl hNew
          · rw [hHead] at hOther
            exact absurd hKey hOther
          · exact Or.inr hTail
      · rw [if_neg hKey, List.mem_cons, List.mem_cons,
          ih hRest.2]
        constructor
        · rintro (hHead | hNew | hOld)
          · refine Or.inr ⟨?_, Or.inl hHead⟩
            rw [hHead]
            exact hKey
          · exact Or.inl hNew
          · exact Or.inr ⟨hOld.1, Or.inr hOld.2⟩
        · rintro (hNew | ⟨hOther, hHead | hTail⟩)
          · exact Or.inr (Or.inl hNew)
          · exact Or.inl hHead
          · exact Or.inr (Or.inr ⟨hOther, hTail⟩)

/- What is read back after a write. -/
theorem get_set
    (d : Dict)
    (key other : String)
    (value : Value) :
    (Dict.set d key value).get other =
      if other = key then value else d.get other := by
  induction d with
  | nil =>
      by_cases hKey : other = key
      · simp [Dict.set, Dict.get, hKey]
      · simp [Dict.set, Dict.get, hKey, Ne.symm hKey]
  | cons first rest ih =>
      rw [Dict.set]
      by_cases hKey : first.1 = key
      · rw [if_pos hKey]
        by_cases hOther : other = key
        · simp [Dict.get, hOther]
        · have hFirst : first.1 ≠ other := by
            rw [hKey]
            exact Ne.symm hOther
          simp [Dict.get, hOther, Ne.symm hOther, hFirst]
      · rw [if_neg hKey]
        by_cases hFirst : first.1 = other
        · have hOther : other ≠ key := by
            rw [← hFirst]
            exact hKey
          simp [Dict.get, hFirst, hOther]
        · have hSkip :
              ∀ tail : Dict,
                Dict.get (first :: tail) other =
                  tail.get other := by
            intro tail
            simp [Dict.get, hFirst]
          rw [hSkip, hSkip, ih]

/- An entry is read back under its key. -/
theorem get_of_mem
    (hDistinct : Distinct d)
    {value : Value}
    (hMem : (key, value) ∈ d) :
    d.get key = value := by
  induction d with
  | nil => simp at hMem
  | cons first rest ih =>
      have hRest := List.nodup_cons.mp hDistinct
      rcases List.mem_cons.mp hMem with hHead | hTail
      · rw [← hHead]
        simp [Dict.get]
      · have hFirst : first.1 ≠ key := by
          intro hSame
          apply hRest.1
          rw [hSame]
          exact List.mem_map_of_mem hTail
        rw [← ih hRest.2 hTail]
        simp [Dict.get, hFirst]

/- A value that is not `None` is that of an entry. -/
theorem mem_of_get
    (hSome : d.get key ≠ .none) :
    (key, d.get key) ∈ d := by
  unfold Dict.get at hSome ⊢
  cases hFind : d.find? (fun entry => entry.1 == key) with
  | none =>
      rw [hFind] at hSome
      exact absurd rfl hSome
  | some entry =>
      have hKey : entry.1 = key := by
        simpa using List.find?_some hFind
      rw [Option.map_some, Option.getD_some, ← hKey]
      exact List.mem_of_find?_eq_some hFind

end Dict

end Python

--------
-- Many Writes
--------

namespace Python

namespace Dict

/- The dictionary of entries written one after another. -/
def ofWrites (writes : List (String × Value)) : Dict :=
  writes.foldl (fun d entry => Dict.set d entry.1 entry.2) []

/- An entry that is the last one of a list with its key. -/
def Last
    (writes : List (String × Value))
    (entry : String × Value) :
    Prop :=
  ∃ front back,
    writes = front ++ entry :: back ∧
      ∀ later ∈ back, later.1 ≠ entry.1

theorem ofWrites_concat
    (writes : List (String × Value))
    (entry : String × Value) :
    ofWrites (writes ++ [entry]) =
      Dict.set (ofWrites writes) entry.1 entry.2 := by
  rw [ofWrites, List.foldl_append]
  rfl

variable {writes : List (String × Value)}

/- The last entries after one more write. -/
theorem last_concat
    {entry other : String × Value} :
    Last (writes ++ [other]) entry ↔
      entry = other ∨ (entry.1 ≠ other.1 ∧ Last writes entry) := by
  constructor
  · rintro ⟨front, back, hSplit, hLater⟩
    rcases List.eq_nil_or_concat back with
      hNil | ⟨init, last, hBack⟩
    · rw [hNil] at hSplit
      have hEnd := (List.append_inj' hSplit rfl).2
      exact Or.inl (List.cons.inj hEnd).1.symm
    · rw [hBack, List.concat_eq_append] at hSplit hLater
      rw [← List.cons_append, ← List.append_assoc] at hSplit
      have hParts := List.append_inj' hSplit rfl
      have hLast : other = last := (List.cons.inj hParts.2).1
      refine Or.inr ⟨?_, front, init, hParts.1, ?_⟩
      · rw [hLast]
        exact Ne.symm (hLater last (by simp))
      · intro later hMem
        exact hLater later (by simp [hMem])
  · rintro (hSame | ⟨hOther, front, back, hSplit, hLater⟩)
    · exact ⟨writes, [], by rw [hSame], by simp⟩
    · refine ⟨front, back ++ [other], by simp [hSplit], ?_⟩
      intro later hMem
      rcases List.mem_append.mp hMem with hBack | hNew
      · exact hLater later hBack
      · rw [List.mem_singleton.mp hNew]
        exact Ne.symm hOther

/- A dictionary written entry by entry. -/
theorem ofWrites_spec
    (writes : List (String × Value)) :
    Distinct (ofWrites writes) ∧
      ∀ entry, entry ∈ ofWrites writes ↔ Last writes entry := by
  induction writes using List.reverseRecOn with
  | nil =>
      refine ⟨List.nodup_nil, ?_⟩
      intro entry
      constructor
      · intro hMem
        simp [ofWrites] at hMem
      · rintro ⟨front, back, hSplit, -⟩
        simp at hSplit
  | append_singleton writes other ih =>
      rw [ofWrites_concat]
      refine ⟨distinct_set ih.1 _ _, ?_⟩
      intro entry
      rw [mem_set ih.1, last_concat, ih.2]

/- The entries are the last writes under their keys. -/
theorem mem_ofWrites
    {entry : String × Value} :
    entry ∈ ofWrites writes ↔ Last writes entry :=
  (ofWrites_spec writes).2 entry

variable {key : String}

/- The last write under a key is read back. -/
theorem get_ofWrites
    {value : Value}
    (hLast : Last writes (key, value)) :
    (ofWrites writes).get key = value :=
  get_of_mem (ofWrites_spec writes).1
    (Iff.mpr mem_ofWrites hLast)

/- What is read back was written last. -/
theorem last_of_get
    (hSome : (ofWrites writes).get key ≠ .none) :
    Last writes (key, (ofWrites writes).get key) :=
  Iff.mp mem_ofWrites (mem_of_get hSome)

/- The last writes of items of which some write nothing. -/
theorem last_filterMap
    {α : Type}
    {f : α → Option (String × Value)}
    {items : List α}
    {entry : String × Value} :
    Last (items.filterMap f) entry ↔
      ∃ front item back,
        items = front ++ item :: back ∧ f item = some entry ∧
          ∀ later ∈ back, ∀ write,
            f later = some write → write.1 ≠ entry.1 := by
  constructor
  · rintro ⟨front, back, hSplit, hLater⟩
    rcases List.filterMap_eq_append_iff.mp hSplit with
      ⟨before, after, hItems, -, hAfter⟩
    rcases List.filterMap_eq_cons_iff.mp hAfter with
      ⟨skipped, item, tail, hTail, hSkipped, hItem, hBack⟩
    refine ⟨before ++ skipped, item, tail, ?_, hItem, ?_⟩
    · rw [hItems, hTail, List.append_assoc]
    · intro later hMem write hWrite
      apply hLater
      rw [← hBack]
      exact List.mem_filterMap.mpr ⟨later, hMem, hWrite⟩
  · rintro ⟨front, item, back, hItems, hItem, hLater⟩
    refine ⟨front.filterMap f, back.filterMap f, ?_, ?_⟩
    · rw [hItems, List.filterMap_append,
        List.filterMap_cons_some hItem]
    · intro write hMem
      rcases List.mem_filterMap.mp hMem with
        ⟨later, hBack, hWrite⟩
      exact hLater later hBack write hWrite

end Dict

end Python
