import Mathlib.Data.List.Chain
import RegEngine.Library.Table

/-
  Hash chains over an arbitrary row type: rows numbered from
  one, each naming the digest of the row before it and
  carrying a digest of its own item and that name.

  Main declarations:
    * `HashChain.Columns`
    * `HashChain.Linked`
    * `HashChain.linked_iff_getElem?`
-/

--------
-- Linked Rows
--------

namespace HashChain

universe u v w

/- The columns of a chain row, and the digest of a link. -/
structure Columns (ρ : Type u) (ε : Type v) (δ : Type w) where
  seq : ρ → Int
  item : ρ → ε
  previous : ρ → Option δ
  digest : ρ → δ
  link : ε → Option δ → δ

variable {ρ : Type u} {ε : Type v} {δ : Type w}
variable (cols : Columns ρ ε δ)

/- Rows that continue a chain from a number and a digest. -/
def Linked : Int → Option δ → List ρ → Prop
| _, _, [] => True
| seq, previous, row :: rest =>
    cols.seq row = seq ∧
      cols.previous row = previous ∧
      cols.digest row = cols.link (cols.item row) previous ∧
      Linked (seq + 1) (some (cols.digest row)) rest

/- The digest at the end of a chain. -/
def lastDigest (previous : Option δ) : List ρ → Option δ
| [] => previous
| row :: rest => lastDigest (some (cols.digest row)) rest

/- The digest at the end is that of the last row. -/
theorem lastDigest_eq
    (previous : Option δ)
    (rows : List ρ) :
    lastDigest cols previous rows =
      (rows.getLast?.map cols.digest).or previous := by
  induction rows generalizing previous with
  | nil => simp [lastDigest]
  | cons row rest ih =>
      rw [lastDigest, ih]
      cases rest with
      | nil => simp
      | cons next tail =>
          rw [List.getLast?_cons_cons,
            List.getLast?_eq_some_getLast (by simp)]
          simp

variable {previous : Option δ} {seq : Int}

/- Two stretches link when the second goes on the first. -/
theorem linked_append
    {rows rows' : List ρ} :
    Linked cols seq previous (rows ++ rows') ↔
      Linked cols seq previous rows ∧
        Linked cols (seq + rows.length)
          (lastDigest cols previous rows) rows' := by
  induction rows generalizing seq previous with
  | nil => simp [Linked, lastDigest]
  | cons row rest ih =>
      have hSeq :
          seq + 1 + (rest.length : Int) =
            seq + ((row :: rest).length : Int) := by
        rw [List.length_cons]
        push_cast
        omega
      simp only [List.cons_append, Linked, lastDigest, ih,
        hSeq, and_assoc]

/- The rows of a whole chain, told by their positions. -/
theorem linked_iff_getElem?
    {rows : List ρ} :
    Linked cols 1 none rows ↔
      ∀ (index : Nat) (row : ρ), rows[index]? = some row →
        cols.seq row = index + 1 ∧
          cols.previous row =
            (if index = 0 then none
              else (rows[index - 1]?).map cols.digest) ∧
          cols.digest row =
            cols.link (cols.item row) (cols.previous row) := by
  -- Rows are read from the end, where the chain grows.
  induction rows using List.reverseRecOn with
  | nil => simp [Linked]
  | append_singleton rows last ih =>
      rw [linked_append, ih]
      constructor
      · rintro ⟨hRows, hSeq, hPrev, hDigest, -⟩ index row hGet
        by_cases hIdx : index < rows.length
        · rw [List.getElem?_append_left hIdx] at hGet
          rcases hRows index row hGet with ⟨hS, hP, hD⟩
          refine ⟨hS, ?_, hD⟩
          rw [hP]
          split
          · rfl
          · rw [List.getElem?_append_left (by omega)]
        · have hLen := (List.getElem?_eq_some_iff.mp hGet).1
          rw [List.length_append, List.length_singleton] at hLen
          have hEq : index = rows.length := by omega
          rw [hEq, List.getElem?_concat_length] at hGet
          rw [← Option.some.inj hGet, hEq]
          refine ⟨by rw [hSeq]; omega, ?_, by rw [hDigest, hPrev]⟩
          rw [hPrev, lastDigest_eq, Option.or_none]
          cases rows with
          | nil => simp
          | cons first rest =>
              rw [if_neg (by simp),
                List.getElem?_append_left (by simp),
                List.getLast?_eq_getElem?]
      · intro hAll
        constructor
        · intro index row hGet
          have hIdx := (List.getElem?_eq_some_iff.mp hGet).1
          rcases hAll index row (by
            rw [List.getElem?_append_left hIdx, hGet]) with
            ⟨hS, hP, hD⟩
          refine ⟨hS, ?_, hD⟩
          rw [hP]
          split
          · rfl
          · rw [List.getElem?_append_left (by omega)]
        · rcases hAll rows.length last (by simp) with
            ⟨hS, hP, hD⟩
          have hPrev :
              cols.previous last =
                lastDigest cols none rows := by
            rw [hP, lastDigest_eq, Option.or_none]
            cases rows with
            | nil => simp
            | cons first rest =>
                rw [if_neg (by simp),
                  List.getElem?_append_left (by simp),
                  List.getLast?_eq_getElem?]
          exact ⟨by rw [hS]; omega, hPrev,
            by rw [hD, hPrev], trivial⟩

/- The row of the highest number is the last one. -/
theorem maxBy_seq
    {rows : List ρ}
    (hLinked : Linked cols seq previous rows) :
    Table.maxBy cols.seq rows = rows.getLast? := by
  have hAbove :
      ∀ (rows : List ρ) (seq : Int) (previous : Option δ),
        Linked cols seq previous rows →
          ∀ row ∈ rows, seq ≤ cols.seq row := by
    intro rows
    induction rows with
    | nil => simp
    | cons first rest ih =>
        intro seq previous hLinked row hMem
        rcases hLinked with ⟨hSeq, -, -, hRest⟩
        rcases List.mem_cons.mp hMem with hHead | hTail
        · rw [hHead, hSeq]
        · have := ih _ _ hRest row hTail
          omega
  induction rows generalizing seq previous with
  | nil => rfl
  | cons first rest ih =>
      rcases hLinked with ⟨hSeq, -, -, hRest⟩
      rw [Table.maxBy_cons, ih hRest]
      cases rest with
      | nil => rfl
      | cons next tail =>
          rw [List.getLast?_cons_cons]
          cases hLast : (next :: tail).getLast? with
          | none => simp at hLast
          | some last =>
              have hMem : last ∈ next :: tail :=
                List.mem_of_getLast? hLast
              have hLe := hAbove _ _ _ hRest last hMem
              simp only
              rw [if_pos (by omega)]

end HashChain

--------
-- Chains with One End
--------

namespace HashChain

universe u v

/-
  When the digest of a row tells the digest of the row before
  it, one of two chains with the same last digest is the end
  of the other one.
-/
theorem suffix_or_suffix
    {ρ : Type u}
    {δ : Type v}
    {digest : ρ → δ}
    {next : ρ → ρ → Prop}
    (hBack :
      ∀ {x x' y y' : ρ}, next x y → next x' y' →
        digest y = digest y' → digest x = digest x')
    {rows rows' : List ρ}
    (hRows : rows.IsChain next)
    (hRows' : rows'.IsChain next)
    (hLast :
      rows.getLast?.map digest = rows'.getLast?.map digest) :
    rows.map digest <:+ rows'.map digest ∨
      rows'.map digest <:+ rows.map digest := by
  induction rows using List.reverseRecOn generalizing rows' with
  | nil => exact Or.inl List.nil_suffix
  | append_singleton front last ih =>
    rcases List.eq_nil_or_concat rows' with
      rfl | ⟨front', last', hEq⟩
    · exact Or.inr List.nil_suffix
    rw [List.concat_eq_append] at hEq
    subst hEq
    have hDigest : digest last = digest last' := by
      simpa using hLast
    rw [List.isChain_append] at hRows hRows'
    have hFront :
        front.map digest <:+ front'.map digest ∨
          front'.map digest <:+ front.map digest := by
      cases hEnd : front.getLast? with
      | none =>
        rw [List.getLast?_eq_none_iff] at hEnd
        subst hEnd
        exact Or.inl List.nil_suffix
      | some before =>
        cases hEnd' : front'.getLast? with
        | none =>
          rw [List.getLast?_eq_none_iff] at hEnd'
          subst hEnd'
          exact Or.inr List.nil_suffix
        | some before' =>
          have hNext :=
            hRows.2.2 before hEnd last (by simp)
          have hNext' :=
            hRows'.2.2 before' hEnd' last' (by simp)
          apply ih hRows.1 hRows'.1
          rw [hEnd, hEnd', Option.map_some, Option.map_some,
            hBack hNext hNext' hDigest]
    rw [List.map_append, List.map_append, List.map_singleton,
      List.map_singleton, hDigest]
    rcases hFront with ⟨more, hMore⟩ | ⟨more, hMore⟩
    · exact Or.inl ⟨more, by rw [← hMore, List.append_assoc]⟩
    · exact Or.inr ⟨more, by rw [← hMore, List.append_assoc]⟩

end HashChain
