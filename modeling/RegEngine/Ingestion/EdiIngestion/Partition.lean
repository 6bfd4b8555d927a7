import Mathlib.Data.List.Basic
import RegEngine.Ingestion.EdiIngestion.Parser

/-
  The slices of an interchange by the places of its segments:
  every body segment of a transaction set stands in the slice
  of that set, once and in its order.

  Main declarations:
    * `EdiIngestion.Within`
    * `EdiIngestion.Partitions`
    * `EdiIngestion.splitTransactionSets_partitions`
-/

--------
-- Places
--------

namespace RegEngine

namespace EdiIngestion

/- The segment at a place has an id. -/
def IdAt
    (segments : List Segment)
    (place : Nat)
    (id : String) : Prop :=
  ∃ segment, segments[place]? = some segment ∧
    segmentId segment = some id

/- A segment of no envelope that neither opens nor closes. -/
def isBody (segment : Segment) : Bool :=
  match segmentId segment with
  | none => false
  | some id =>
      id ≠ "ST" && id ≠ "SE" && !envelopeSegmentIds.contains id

/- The segment at a place is one of a body. -/
def BodyAt (segments : List Segment) (place : Nat) : Prop :=
  ∃ segment, segments[place]? = some segment ∧
    isBody segment = true

/- Between two places no transaction set opens or closes. -/
def Undivided
    (segments : List Segment)
    (first last : Nat) : Prop :=
  ∀ place, first < place → place < last →
    ¬ IdAt segments place "ST" ∧ ¬ IdAt segments place "SE"

/-
  A body segment after an ST, and before its SE or the next
  ST.
-/
structure Within
    (segments : List Segment)
    (opening place : Nat) : Prop where
  opens : IdAt segments opening "ST"
  body : BodyAt segments place
  after : opening < place
  undivided : Undivided segments opening place

/- The SE of the transaction set that an ST opens. -/
structure Closes
    (segments : List Segment)
    (opening place : Nat) : Prop where
  closes : IdAt segments place "SE"
  after : opening < place
  undivided : Undivided segments opening place

/- The places of one transaction set, and of nothing else. -/
def OwnPlaces
    (segments : List Segment)
    (places : List Nat) : Prop :=
  ∃ opening, places.head? = some opening ∧
    IdAt segments opening "ST" ∧
    ∀ place ∈ places,
      place = opening ∨ Within segments opening place ∨
        Closes segments opening place

/- The envelope, and the segments at some places. -/
def sliceAt
    (segments : List Segment)
    (places : List Nat) : List Segment :=
  segments.filter isEnvelope ++
    places.filterMap (fun place => segments[place]?)

/-
  Slices that are a partition: each has the places of one
  transaction set; all stand in their order, and no place is
  in two slices; and every body segment of a transaction set
  stands with its ST.
-/
structure Partitions
    (segments : List Segment)
    (slices : List (List Segment))
    (places : List (List Nat)) : Prop where
  slices_eq : slices = places.map (sliceAt segments)
  ascending : places.flatten.Pairwise (· < ·)
  once :
    ∀ (place i j : Nat) (own other : List Nat),
      places[i]? = some own →
        places[j]? = some other → place ∈ own →
          place ∈ other → i = j
  own : ∀ own ∈ places, OwnPlaces segments own
  all :
    ∀ opening place, Within segments opening place →
      ∃ own ∈ places, own.head? = some opening ∧ place ∈ own

/- Places that ascend are in one list only. -/
theorem eq_of_mem_of_ascending
    {places : List (List Nat)}
    (hAscending : places.flatten.Pairwise (· < ·))
    {place i j : Nat}
    {own other : List Nat}
    (hOwn : places[i]? = some own)
    (hOther : places[j]? = some other)
    (hMem : place ∈ own)
    (hMem' : place ∈ other) :
    i = j := by
  rcases List.getElem?_eq_some_iff.mp hOwn with ⟨hI, rfl⟩
  rcases List.getElem?_eq_some_iff.mp hOther with ⟨hJ, rfl⟩
  have hApart := List.pairwise_iff_getElem.mp
    (List.pairwise_flatten.mp hAscending).2
  rcases Nat.lt_trichotomy i j with hLess | hEq | hMore
  · exact absurd (hApart i j hI hJ hLess place hMem place hMem')
      (Nat.lt_irrefl place)
  · exact hEq
  · exact absurd (hApart j i hJ hI hMore place hMem' place hMem)
      (Nat.lt_irrefl place)

variable {place : Nat} {own : List Nat}

/- A segment with an id is at its place with no other one. -/
theorem idAt_iff
    {segments : List Segment}
    {segment : Segment}
    {id : String}
    (hSegment : segments[place]? = some segment) :
    IdAt segments place id ↔ segmentId segment = some id := by
  simp [IdAt, hSegment]

theorem bodyAt_iff
    {segments : List Segment}
    {segment : Segment}
    (hSegment : segments[place]? = some segment) :
    BodyAt segments place ↔ isBody segment = true := by
  simp [BodyAt, hSegment]

/- A slice with one more place. -/
theorem sliceAt_concat
    {segments : List Segment}
    {segment : Segment}
    {places : List Nat}
    (hSegment : segments[place]? = some segment) :
    sliceAt segments (places ++ [place]) =
      sliceAt segments places ++ [segment] := by
  simp [sliceAt, List.filterMap_append, hSegment]

variable {first last : Nat} {slice : List Segment}

/- A place of nothing that divides is passed over. -/
theorem Undivided.succ
    {segments : List Segment}
    (hUndivided : Undivided segments first last)
    (hOpens : ¬ IdAt segments last "ST")
    (hCloses : ¬ IdAt segments last "SE") :
    Undivided segments first (last + 1) := by
  intro place hFirst hLast
  rcases Nat.lt_succ_iff_lt_or_eq.mp hLast with hLess | rfl
  · exact hUndivided place hFirst hLess
  · exact ⟨hOpens, hCloses⟩

theorem Undivided.pred
    {segments : List Segment}
    (hUndivided : Undivided segments first (last + 1)) :
    Undivided segments first last :=
  fun place hFirst hLast =>
    hUndivided place hFirst (Nat.lt_succ_of_lt hLast)

--------
-- The Scan
--------

variable {segments : List Segment} {segment : Segment} {n : Nat}
variable {scan : Scan} {closed : List (List Nat)}
variable {current : Option (List Nat)}

/-
  The scan before a place: the places of its slices, and the
  transaction set that is open.
-/
structure Standing
    (segments : List Segment)
    (n : Nat)
    (scan : Scan)
    (closed : List (List Nat))
    (current : Option (List Nat)) : Prop where
  closed_eq : scan.closed = closed.map (sliceAt segments)
  current_eq : scan.current = current.map (sliceAt segments)
  ascending :
    (closed ++ current.toList).flatten.Pairwise (· < ·)
  below : ∀ place ∈ (closed ++ current.toList).flatten, place < n
  own : ∀ own ∈ closed ++ current.toList, OwnPlaces segments own
  started :
    ∀ own, current = some own →
      ∃ opening, own.head? = some opening ∧
        Undivided segments opening n
  pending :
    ∀ opening, IdAt segments opening "ST" → opening < n →
      Undivided segments opening n →
        ∃ own, current = some own ∧ own.head? = some opening
  all :
    ∀ opening place, place < n →
      Within segments opening place →
        ∃ own ∈ closed ++ current.toList,
          own.head? = some opening ∧ place ∈ own

theorem standing_empty (segments : List Segment) :
    Standing segments 0 Scan.empty [] none := by
  constructor <;> simp [Scan.empty]

/- No slice takes the segment, and none has to. -/
theorem Standing.idle
    (hStanding : Standing segments n scan closed current)
    (hSegment : segments[n]? = some segment)
    (hOpens : segmentId segment ≠ some "ST")
    (hQuiet :
      current = none ∨
        (segmentId segment ≠ some "SE" ∧
          isBody segment = false)) :
    Standing segments (n + 1) scan closed current := by
  have hNotSt : ¬ IdAt segments n "ST" := fun hAt =>
    hOpens ((idAt_iff hSegment).mp hAt)
  have hNone : ∀ opening, IdAt segments opening "ST" →
      opening < n → Undivided segments opening n →
        current ≠ none := by
    intro opening hAt hBelow hUndivided hCurrent
    rcases hStanding.pending opening hAt hBelow hUndivided with
      ⟨own, hOwn, -⟩
    rw [hCurrent] at hOwn
    cases hOwn
  refine ⟨hStanding.closed_eq, hStanding.current_eq,
    hStanding.ascending, ?_, hStanding.own, ?_, ?_, ?_⟩
  · intro place hMem
    exact Nat.lt_succ_of_lt (hStanding.below place hMem)
  · intro own hOwn
    rcases hStanding.started own hOwn with
      ⟨opening, hHead, hUndivided⟩
    refine ⟨opening, hHead, hUndivided.succ hNotSt ?_⟩
    rcases hQuiet with hCurrent | ⟨hSe, -⟩
    · rw [hCurrent] at hOwn
      cases hOwn
    · exact fun hAt => hSe ((idAt_iff hSegment).mp hAt)
  · intro opening hAt hBelow hUndivided
    rcases Nat.lt_succ_iff_lt_or_eq.mp hBelow with hLess | rfl
    · exact hStanding.pending opening hAt hLess hUndivided.pred
    · exact absurd hAt hNotSt
  · intro opening place hBelow hWithin
    rcases Nat.lt_succ_iff_lt_or_eq.mp hBelow with hLess | rfl
    · exact hStanding.all opening place hLess hWithin
    · exfalso
      rcases hQuiet with hCurrent | ⟨-, hBody⟩
      · exact hNone opening hWithin.opens hWithin.after
          hWithin.undivided hCurrent
      · have hIs := (bodyAt_iff hSegment).mp hWithin.body
        rw [hBody] at hIs
        cases hIs

/- An ST opens a slice of its own. -/
theorem Standing.opened
    (hStanding : Standing segments n scan closed current)
    (hSegment : segments[n]? = some segment)
    (hOpens : segmentId segment = some "ST") :
    Standing segments (n + 1)
      { closed := scan.slices
        current :=
          some (segments.filter isEnvelope ++ [segment]) }
      (closed ++ current.toList) (some [n]) := by
  have hAt : IdAt segments n "ST" :=
    (idAt_iff hSegment).mpr hOpens
  refine ⟨?_, ?_, ?_, ?_, ?_, ?_, ?_, ?_⟩
  · rw [Scan.slices, hStanding.closed_eq, hStanding.current_eq]
    cases current <;> simp
  · simp [sliceAt, hSegment]
  · rw [Option.toList_some, List.flatten_append,
      List.pairwise_append]
    refine ⟨hStanding.ascending, by simp, ?_⟩
    intro place hMem last hLast
    have hEq : last = n := by simpa using hLast
    rw [hEq]
    exact hStanding.below place hMem
  · intro place hMem
    rw [Option.toList_some, List.flatten_append,
      List.mem_append] at hMem
    rcases hMem with hOld | hNew
    · exact Nat.lt_succ_of_lt (hStanding.below place hOld)
    · have hEq : place = n := by simpa using hNew
      omega
  · intro own hOwn
    rcases List.mem_append.mp hOwn with hOld | hNew
    · exact hStanding.own own hOld
    · have hEq : own = [n] := by simpa using hNew
      rw [hEq]
      refine ⟨n, rfl, hAt, fun place hMem => Or.inl ?_⟩
      exact List.mem_singleton.mp hMem
  · intro own hOwn
    injection hOwn with hEq
    refine ⟨n, by rw [← hEq]; rfl, ?_⟩
    intro place hFirst hLast
    omega
  · intro opening hOpening hBelow hUndivided
    rcases Nat.lt_succ_iff_lt_or_eq.mp hBelow with hLess | rfl
    · exact absurd hAt
        (hUndivided n hLess (Nat.lt_succ_self n)).1
    · exact ⟨[opening], rfl, rfl⟩
  · intro opening place hBelow hWithin
    rcases Nat.lt_succ_iff_lt_or_eq.mp hBelow with hLess | rfl
    · rcases hStanding.all opening place hLess hWithin with
        ⟨own, hOwn, hRest⟩
      exact ⟨own, List.mem_append_left _ hOwn, hRest⟩
    · have hBody := (bodyAt_iff hSegment).mp hWithin.body
      simp [isBody, hOpens] at hBody

/- The places when the slice that is open takes one more. -/
theorem flatten_concat
    (closed : List (List Nat))
    (own : List Nat)
    (n : Nat) :
    (closed ++ [own ++ [n]]).flatten =
      (closed ++ [own]).flatten ++ [n] := by
  simp

/- A slice takes a segment of its transaction set. -/
theorem Standing.taken
    {opening : Nat}
    (hStanding : Standing segments n scan closed (some own))
    (hHead : own.head? = some opening)
    (hTaken :
      Within segments opening n ∨ Closes segments opening n) :
    (closed ++ [own ++ [n]]).flatten.Pairwise (· < ·) ∧
      (∀ place ∈ (closed ++ [own ++ [n]]).flatten,
        place < n + 1) ∧
      (∀ other ∈ closed ++ [own ++ [n]],
        OwnPlaces segments other) ∧
      (∀ first place, place < n →
        Within segments first place →
          ∃ other ∈ closed ++ [own ++ [n]],
            other.head? = some first ∧ place ∈ other) := by
  have hNe : own ≠ [] := by
    rintro rfl
    cases hHead
  have hHead' : (own ++ [n]).head? = some opening := by
    rw [List.head?_append_of_ne_nil _ hNe]
    exact hHead
  refine ⟨?_, ?_, ?_, ?_⟩
  · rw [flatten_concat, List.pairwise_append]
    refine ⟨hStanding.ascending, by simp, ?_⟩
    intro place hMem last hLast
    rw [List.mem_singleton.mp hLast]
    exact hStanding.below place hMem
  · intro place hMem
    rw [flatten_concat, List.mem_append] at hMem
    rcases hMem with hOld | hNew
    · exact Nat.lt_succ_of_lt (hStanding.below place hOld)
    · rw [List.mem_singleton.mp hNew]
      exact Nat.lt_succ_self n
  · intro other hOther
    rcases List.mem_append.mp hOther with hOld | hNew
    · exact hStanding.own other (List.mem_append_left _ hOld)
    · rw [List.mem_singleton.mp hNew]
      rcases hStanding.own own (by simp) with
        ⟨first, hFirst, hAt, hPlaces⟩
      rw [hHead] at hFirst
      injection hFirst with hEq
      rw [← hEq] at hAt hPlaces
      refine ⟨opening, hHead', hAt, fun place hMem => ?_⟩
      rcases List.mem_append.mp hMem with hIn | hLast
      · exact hPlaces place hIn
      · rw [List.mem_singleton.mp hLast]
        exact Or.inr hTaken
  · intro first place hBelow hWithin
    rcases hStanding.all first place hBelow hWithin with
      ⟨other, hOther, hFirst, hMem⟩
    rcases List.mem_append.mp hOther with hOld | hNew
    · exact ⟨other, List.mem_append_left _ hOld, hFirst, hMem⟩
    · have hEq : other = own := by simpa using hNew
      rw [hEq] at hFirst hMem
      refine ⟨own ++ [n], by simp, ?_,
        List.mem_append_left _ hMem⟩
      rw [List.head?_append_of_ne_nil _ hNe]
      exact hFirst

/- A body segment goes to the slice that is open. -/
theorem Standing.extended
    (hStanding : Standing segments n scan closed (some own))
    (hCurrent : scan.current = some slice)
    (hSegment : segments[n]? = some segment)
    (hBody : isBody segment = true) :
    Standing segments (n + 1)
      { scan with current := some (slice ++ [segment]) }
      closed (some (own ++ [n])) := by
  rcases hStanding.started own rfl with
    ⟨opening, hHead, hUndivided⟩
  rcases hStanding.own own (by simp) with
    ⟨first, hFirst, hAt, -⟩
  rw [hHead] at hFirst
  injection hFirst with hEq
  rw [← hEq] at hAt
  have hBelow : opening < n := by
    apply hStanding.below
    rw [List.mem_flatten]
    exact ⟨own, by simp, List.mem_of_mem_head? hHead⟩
  have hWithin : Within segments opening n :=
    ⟨hAt, (bodyAt_iff hSegment).mpr hBody, hBelow, hUndivided⟩
  have hIds : ∀ id, segmentId segment = some id →
      id ≠ "ST" ∧ id ≠ "SE" := by
    intro id hId
    simp only [isBody, hId, Bool.and_eq_true,
      decide_eq_true_eq] at hBody
    exact hBody.1
  have hNotSt : ¬ IdAt segments n "ST" := fun hIs =>
    (hIds _ ((idAt_iff hSegment).mp hIs)).1 rfl
  have hNotSe : ¬ IdAt segments n "SE" := fun hIs =>
    (hIds _ ((idAt_iff hSegment).mp hIs)).2 rfl
  rcases hStanding.taken hHead (Or.inl hWithin) with
    ⟨hAscending, hPlaces, hOwn, hAll⟩
  have hNe : own ≠ [] := by
    rintro rfl
    cases hHead
  have hHead' : (own ++ [n]).head? = some opening := by
    rw [List.head?_append_of_ne_nil _ hNe]
    exact hHead
  refine ⟨hStanding.closed_eq, ?_, hAscending, hPlaces, hOwn,
    ?_, ?_, ?_⟩
  · have hSlice : slice = sliceAt segments own := by
      have hOpen := hStanding.current_eq
      rw [hCurrent] at hOpen
      injection hOpen
    rw [Option.map_some, sliceAt_concat hSegment, hSlice]
  · intro other hOther
    injection hOther with hSame
    exact ⟨opening, by rw [← hSame]; exact hHead',
      hUndivided.succ hNotSt hNotSe⟩
  · intro other hOther hLess hPending
    rcases Nat.lt_succ_iff_lt_or_eq.mp hLess with hBefore | rfl
    · rcases hStanding.pending other hOther hBefore
          hPending.pred with ⟨own', hOwn', hHeadOther⟩
      injection hOwn' with hSame
      refine ⟨own ++ [n], rfl, ?_⟩
      rw [List.head?_append_of_ne_nil _ hNe, hSame]
      exact hHeadOther
    · exact absurd hOther hNotSt
  · intro other place hLess hOther
    rcases Nat.lt_succ_iff_lt_or_eq.mp hLess with hBefore | rfl
    · exact hAll other place hBefore hOther
    · refine ⟨own ++ [place], by simp, ?_, by simp⟩
      rcases hStanding.pending other hOther.opens hOther.after
          hOther.undivided with ⟨own', hOwn', hHeadOther⟩
      injection hOwn' with hSame
      rw [List.head?_append_of_ne_nil _ hNe, hSame]
      exact hHeadOther

/- An SE closes the slice that is open. -/
theorem Standing.closedBy
    (hStanding : Standing segments n scan closed (some own))
    (hCurrent : scan.current = some slice)
    (hSegment : segments[n]? = some segment)
    (hCloses : segmentId segment = some "SE") :
    Standing segments (n + 1)
      { closed := scan.closed ++ [slice ++ [segment]]
        current := none }
      (closed ++ [own ++ [n]]) none := by
  rcases hStanding.started own rfl with
    ⟨opening, hHead, hUndivided⟩
  have hBelow : opening < n := by
    apply hStanding.below
    rw [List.mem_flatten]
    exact ⟨own, by simp, List.mem_of_mem_head? hHead⟩
  have hAt : IdAt segments n "SE" :=
    (idAt_iff hSegment).mpr hCloses
  rcases hStanding.taken hHead
      (Or.inr ⟨hAt, hBelow, hUndivided⟩) with
    ⟨hAscending, hPlaces, hOwn, hAll⟩
  refine ⟨?_, rfl, by simpa using hAscending,
    by simpa using hPlaces, by simpa using hOwn, ?_, ?_, ?_⟩
  · have hSlice : slice = sliceAt segments own := by
      have hOpen := hStanding.current_eq
      rw [hCurrent] at hOpen
      injection hOpen
    rw [hStanding.closed_eq, hSlice, List.map_append,
      List.map_singleton, sliceAt_concat hSegment]
  · intro other hOther
    cases hOther
  · intro other hOther hLess hPending
    rcases Nat.lt_succ_iff_lt_or_eq.mp hLess with hBefore | rfl
    · exact absurd hAt
        (hPending n hBefore (Nat.lt_succ_self n)).2
    · have hIs := (idAt_iff hSegment).mp hOther
      rw [hCloses] at hIs
      exact absurd hIs (by decide)
  · intro other place hLess hOther
    rcases Nat.lt_succ_iff_lt_or_eq.mp hLess with hBefore | rfl
    · simpa using hAll other place hBefore hOther
    · have hBody := (bodyAt_iff hSegment).mp hOther.body
      simp [isBody, hCloses] at hBody

/- One round of the loop, for a segment of each kind. -/
theorem standing_step
    (hStanding : Standing segments n scan closed current)
    (hSegment : segments[n]? = some segment) :
    ∃ closed' current',
      Standing segments (n + 1)
        (scan.step (segments.filter isEnvelope) segment)
        closed' current' := by
  unfold Scan.step
  cases hId : segmentId segment with
  | none =>
      refine ⟨closed, current, hStanding.idle hSegment ?_ ?_⟩
      · simp [hId]
      · exact Or.inr ⟨by simp [hId], by simp [isBody, hId]⟩
  | some id =>
      dsimp only
      by_cases hSt : id = "ST"
      · rw [if_pos hSt]
        exact ⟨_, _, hStanding.opened hSegment (hSt ▸ hId)⟩
      · rw [if_neg hSt]
        have hOpens : segmentId segment ≠ some "ST" := by
          rw [hId]
          simpa using hSt
        by_cases hSe : id = "SE"
        · rw [if_pos hSe]
          cases hCurrent : scan.current with
          | none =>
              have hNone : current = none := by
                have hEq := hStanding.current_eq
                rw [hCurrent] at hEq
                exact Option.map_eq_none_iff.mp hEq.symm
              exact ⟨closed, current, hStanding.idle hSegment
                hOpens (Or.inl hNone)⟩
          | some slice =>
              have hEq := hStanding.current_eq
              rw [hCurrent] at hEq
              rcases Option.map_eq_some_iff.mp hEq.symm with
                ⟨own, rfl, -⟩
              exact ⟨_, _, hStanding.closedBy hCurrent hSegment
                (hSe ▸ hId)⟩
        · rw [if_neg hSe]
          have hCloses : segmentId segment ≠ some "SE" := by
            rw [hId]
            simpa using hSe
          by_cases hEnvelope : id ∈ envelopeSegmentIds
          · rw [if_pos hEnvelope]
            refine ⟨closed, current, hStanding.idle hSegment
              hOpens (Or.inr ⟨hCloses, ?_⟩)⟩
            simp [isBody, hId, hEnvelope]
          · rw [if_neg hEnvelope]
            have hBody : isBody segment = true := by
              simp [isBody, hId, hSt, hSe, hEnvelope]
            cases hCurrent : scan.current with
            | none =>
                have hNone : current = none := by
                  have hEq := hStanding.current_eq
                  rw [hCurrent] at hEq
                  exact Option.map_eq_none_iff.mp hEq.symm
                exact ⟨closed, current, hStanding.idle hSegment
                  hOpens (Or.inl hNone)⟩
            | some slice =>
                have hEq := hStanding.current_eq
                rw [hCurrent] at hEq
                rcases Option.map_eq_some_iff.mp hEq.symm with
                  ⟨own, rfl, -⟩
                exact ⟨_, _, hStanding.extended hCurrent hSegment
                  hBody⟩

/- The rounds of the loop over the segments from a place on. -/
theorem standing_foldl
    {rest : List Segment}
    (hRest : segments.drop n = rest)
    (hStanding : Standing segments n scan closed current) :
    ∃ closed' current',
      Standing segments (n + rest.length)
        (rest.foldl (Scan.step (segments.filter isEnvelope))
          scan)
        closed' current' := by
  induction rest generalizing n scan closed current with
  | nil => exact ⟨closed, current, hStanding⟩
  | cons segment rest ih =>
      have hSegment : segments[n]? = some segment := by
        rw [← List.head?_drop, hRest]
        rfl
      have hTail : segments.drop (n + 1) = rest := by
        rw [← List.tail_drop, hRest]
        rfl
      rcases standing_step hStanding hSegment with
        ⟨closed', current', hNext⟩
      have hAll := ih hTail hNext
      rw [List.length_cons, List.foldl_cons]
      rw [Nat.add_assoc, Nat.add_comm 1] at hAll
      exact hAll

theorem splitTransactionSets_partitions
    (segments : List Segment) :
    ∃ places,
      Partitions segments (splitTransactionSets segments)
        places := by
  rcases standing_foldl List.drop_zero
      (standing_empty segments) with
    ⟨closed, current, hStanding⟩
  refine ⟨closed ++ current.toList, ?_, hStanding.ascending, ?_,
    hStanding.own, ?_⟩
  · unfold splitTransactionSets
    rw [Scan.slices, hStanding.closed_eq, hStanding.current_eq]
    cases current <;> simp
  · intro place i j own other hOwn hOther hMem hMem'
    exact eq_of_mem_of_ascending hStanding.ascending hOwn hOther
      hMem hMem'
  · intro opening place hWithin
    apply hStanding.all opening place _ hWithin
    rcases hWithin.body with ⟨segment, hSegment, -⟩
    have hLess := (List.getElem?_eq_some_iff.mp hSegment).1
    omega

end EdiIngestion

end RegEngine
