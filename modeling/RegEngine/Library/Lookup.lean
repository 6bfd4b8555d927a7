import Mathlib.Data.List.Forall2
import Mathlib.Data.List.Nodup

/-
  What is looked up in a list of entries by key.

  Main declarations:
    * `Lookup.eq_some_iff`
    * `Lookup.map_keys`
    * `Lookup.rel`
-/

--------
-- Entries by Key
--------

namespace Lookup

variable {κ α β : Type} [DecidableEq κ]

/- With each key once, an entry is what its key looks up. -/
theorem eq_some_iff
    {entries : List (κ × α)}
    (hNodup : (entries.map Prod.fst).Nodup)
    {key : κ}
    {value : α} :
    entries.lookup key = some value ↔ (key, value) ∈ entries := by
  constructor
  · intro hLookup
    rcases List.lookup_eq_some_iff.mp hLookup with
      ⟨before, after, hSplit, -⟩
    rw [hSplit]
    exact List.mem_append_right _ List.mem_cons_self
  · intro hMem
    rcases List.append_of_mem hMem with ⟨before, after, hSplit⟩
    refine List.lookup_eq_some_iff.mpr
      ⟨before, after, hSplit, ?_⟩
    intro entry hBefore
    rw [hSplit, List.map_append, List.map_cons] at hNodup
    have hNe : key ≠ entry.1 := by
      intro hKey
      exact List.disjoint_of_nodup_append hNodup
        (List.mem_map_of_mem hBefore)
        (hKey ▸ List.mem_cons_self)
    exact bne_iff_ne.mpr hNe

/- Values that change with their key are looked up changed. -/
theorem map_values
    (f : κ → α → β)
    (entries : List (κ × α))
    (key : κ) :
    (entries.map (fun entry =>
        (entry.1, f entry.1 entry.2))).lookup key =
      (entries.lookup key).map (f key) := by
  induction entries with
  | nil => rfl
  | cons entry rest ih =>
    rw [List.map_cons, List.lookup_cons, List.lookup_cons, ih]
    by_cases hKey : key = entry.1
    · rw [hKey, beq_self_eq_true]
      rfl
    · rw [beq_eq_false_iff_ne.mpr hKey]

/- The keys of a list, looked up in it, are its values. -/
theorem map_keys
    {entries : List (κ × α)}
    (hNodup : (entries.map Prod.fst).Nodup)
    (default : α) :
    (entries.map Prod.fst).map (fun key =>
        (entries.lookup key).getD default) =
      entries.map Prod.snd := by
  rw [List.map_map]
  apply List.map_congr_left
  intro entry hMem
  have hLookup : entries.lookup entry.1 = some entry.2 :=
    (eq_some_iff hNodup).mpr hMem
  rw [Function.comp_apply, hLookup]
  rfl

/- Related entries under the same keys are looked up related. -/
theorem rel
    {R : κ → α → β → Prop}
    {entries : List (κ × α)}
    {entries' : List (κ × β)}
    (hEntries :
      List.Forall₂ (fun x y => x.1 = y.1 ∧ R x.1 x.2 y.2)
        entries entries')
    (key : κ) :
    Option.Rel (R key) (entries.lookup key)
      (entries'.lookup key) := by
  induction hEntries with
  | nil => exact Option.Rel.none
  | @cons x y xs ys hHead _ ih =>
    rcases x with ⟨name, value⟩
    rcases y with ⟨_, value'⟩
    rcases hHead with ⟨rfl, hValue⟩
    rw [List.lookup_cons, List.lookup_cons]
    by_cases hKey : key = name
    · rw [hKey, beq_self_eq_true]
      exact Option.Rel.some hValue
    · rw [beq_eq_false_iff_ne.mpr hKey]
      exact ih

end Lookup
