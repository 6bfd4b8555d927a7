import Mathlib.Data.List.Nodup
import Mathlib.Data.List.Perm.Basic
import Mathlib.Data.Multiset.AddSub

/-
  Archives of named members, as a reader of an opened archive
  sees them, and the edits that change one member.

  Main declarations:
    * `Archive`
    * `Archive.read`
    * `Archive.Edited.not_perm`
-/

--------
-- Archives
--------

/- The members of an opened archive, in order. -/
structure Archive where
  members : List (String × List UInt8)
  deriving DecidableEq

namespace Archive

/- `archive.namelist()`. -/
def namelist (archive : Archive) : List String :=
  archive.members.map Prod.fst

/-
  `archive.read(name)`: of several members with one name the
  last is read; `none` is a `KeyError`.
-/
def read
    (archive : Archive)
    (name : String) : Option (List UInt8) :=
  archive.members.reverse.lookup name

variable {archive : Archive} {name : String}

theorem mem_of_read
    {data : List UInt8}
    (hRead : archive.read name = some data) :
    (name, data) ∈ archive.members := by
  rcases List.lookup_eq_some_iff.mp hRead with
    ⟨before, after, hSplit, -⟩
  rw [← List.mem_reverse, hSplit]
  simp

/- With one member to a name, its members are what is read. -/
theorem read_eq_some_iff
    {data : List UInt8}
    (hNodup : archive.namelist.Nodup) :
    archive.read name = some data ↔
      (name, data) ∈ archive.members := by
  constructor
  · exact mem_of_read
  · intro hMem
    cases hRead : archive.read name with
    | none =>
        have hNone := List.lookup_eq_none_iff.mp hRead
        have hNe :=
          hNone (name, data) (List.mem_reverse.mpr hMem)
        simp at hNe
    | some other =>
        have hSame :=
          List.inj_on_of_nodup_map hNodup hMem
            (mem_of_read hRead) rfl
        rw [(Prod.mk.inj hSame).2]

/- The names of the members are the names that are read. -/
theorem mem_namelist_iff
    {name : String} :
    name ∈ archive.namelist ↔
      ∃ data, archive.read name = some data := by
  constructor
  · intro hMem
    rcases List.mem_map.mp hMem with ⟨member, hMember, hName⟩
    apply Option.isSome_iff_exists.mp
    apply List.lookup_isSome_iff.mpr
    exact ⟨member, List.mem_reverse.mpr hMember, by
      simp [hName]⟩
  · rintro ⟨data, hRead⟩
    exact List.mem_map.mpr ⟨_, mem_of_read hRead, rfl⟩

/- Members are told apart where their names are. -/
theorem nodup_members
    (hNodup : archive.namelist.Nodup) :
    archive.members.Nodup :=
  List.Nodup.of_map _ hNodup

end Archive

--------
-- Edits Of One Member
--------

namespace Archive

/-
  One member of an archive changed: its bytes, itself added or
  removed, or its name. The bytes of the member `fixed` are
  left as they are.
-/
inductive Edited
    (fixed : String)
    (archive : Archive) : Archive → Prop where
  | changed
      {front back : List (String × List UInt8)}
      {name : String}
      {data data' : List UInt8}
      (hMembers :
        archive.members = front ++ (name, data) :: back)
      (hOther : name ≠ fixed)
      (hData : data' ≠ data) :
      Edited fixed archive ⟨front ++ (name, data') :: back⟩
  | added
      {front back : List (String × List UInt8)}
      {name : String}
      {data : List UInt8}
      (hMembers : archive.members = front ++ back) :
      Edited fixed archive ⟨front ++ (name, data) :: back⟩
  | removed
      {front back : List (String × List UInt8)}
      {name : String}
      {data : List UInt8}
      (hMembers :
        archive.members = front ++ (name, data) :: back) :
      Edited fixed archive ⟨front ++ back⟩
  | renamed
      {front back : List (String × List UInt8)}
      {name name' : String}
      {data : List UInt8}
      (hMembers :
        archive.members = front ++ (name, data) :: back)
      (hName : name' ≠ name) :
      Edited fixed archive ⟨front ++ (name', data) :: back⟩

/- A list with one element put for another is another list. -/
theorem not_perm_of_ne
    {α : Type}
    {front back : List α}
    {a b : α}
    (hNe : a ≠ b) :
    ¬ (front ++ a :: back).Perm (front ++ b :: back) := by
  intro hPerm
  have hTail := (List.perm_append_left_iff front).mp hPerm
  apply hNe
  have hEq :
      (a ::ₘ (back : Multiset α)) = b ::ₘ (back : Multiset α) := by
    simpa using Multiset.coe_eq_coe.mpr hTail
  exact (Multiset.cons_inj_left _).mp hEq

variable {archive edited : Archive} {fixed : String}

/- An edited archive does not hold the same members. -/
theorem Edited.not_perm
    (hEdited : Edited fixed archive edited) :
    ¬ edited.members.Perm archive.members := by
  cases hEdited with
  | changed hMembers hOther hData =>
      rw [hMembers]
      exact not_perm_of_ne (by simpa using hData)
  | added hMembers =>
      intro hPerm
      have hLength := hPerm.length_eq
      simp [hMembers] at hLength
  | removed hMembers =>
      intro hPerm
      have hLength := hPerm.length_eq
      simp [hMembers] at hLength
  | renamed hMembers hName =>
      rw [hMembers]
      exact not_perm_of_ne (by simpa using hName)

/- A name stands once in a list of members. -/
theorem notMem_of_nodup
    {front back : List (String × List UInt8)}
    {name : String}
    {data : List UInt8}
    (hNodup :
      ((front ++ (name, data) :: back).map Prod.fst).Nodup) :
    name ∉ (front ++ back).map Prod.fst := by
  rw [List.map_append, List.map_cons] at hNodup
  have hPerm := (List.perm_middle.nodup_iff).mp hNodup
  rw [List.map_append]
  exact (List.nodup_cons.mp hPerm).1

/-
  The fixed member of an edited archive is the one it was, if
  there is one of its name at all.
-/
theorem Edited.mem_fixed
    {data : List UInt8}
    (hEdited : Edited fixed archive edited)
    (hNodup : archive.namelist.Nodup)
    (hMem : (fixed, data) ∈ archive.members)
    (hNamed : fixed ∈ edited.namelist) :
    (fixed, data) ∈ edited.members := by
  unfold namelist at hNodup hNamed
  cases hEdited with
  | changed hMembers hOther hData =>
      rw [hMembers] at hMem
      simp only [List.mem_append, List.mem_cons,
        Prod.mk.injEq] at hMem ⊢
      rcases hMem with hFront | ⟨hHere, -⟩ | hBack
      · exact Or.inl hFront
      · exact absurd hHere.symm hOther
      · exact Or.inr (Or.inr hBack)
  | added hMembers =>
      rw [hMembers] at hMem
      simp only [List.mem_append, List.mem_cons] at hMem ⊢
      tauto
  | removed hMembers =>
      rw [hMembers] at hMem hNodup
      have hOnce := notMem_of_nodup hNodup
      simp only [List.mem_append, List.mem_cons,
        Prod.mk.injEq] at hMem ⊢
      rcases hMem with hFront | ⟨hHere, -⟩ | hBack
      · exact Or.inl hFront
      · rw [hHere] at hNamed
        exact absurd hNamed hOnce
      · exact Or.inr hBack
  | renamed hMembers hName =>
      rw [hMembers] at hMem hNodup
      have hOnce := notMem_of_nodup hNodup
      simp only [List.mem_append, List.mem_cons,
        Prod.mk.injEq] at hMem ⊢
      rcases hMem with hFront | ⟨hHere, -⟩ | hBack
      · exact Or.inl hFront
      · rw [hHere, List.map_append, List.map_cons,
          List.mem_append, List.mem_cons] at hNamed
        rw [List.map_append, List.mem_append] at hOnce
        rcases hNamed with hFront | hThere | hBack
        · exact absurd (Or.inl hFront) hOnce
        · exact absurd hThere.symm hName
        · exact absurd (Or.inr hBack) hOnce
      · exact Or.inr (Or.inr hBack)

end Archive
