import RegEngine.Library.Python

/-
  The segments of an X12 interchange and their split into
  transaction sets
  (`services/ingestion/app/edi_ingestion/parser.py`).

  Main declarations:
    * `EdiIngestion.firstSegment`
    * `EdiIngestion.splitTransactionSets`
    * `EdiIngestion.firstSegment_slice`
-/

--------
-- Segments
--------

namespace RegEngine

namespace EdiIngestion

/- A segment: its id and the elements after it. -/
abbrev Segment := List String

/- `segment[0].upper()`, if the segment is not empty. -/
def segmentId : Segment → Option String
| [] => none
| id :: _ => some (Python.upper id)

/- `_first_segment`, for a wanted id in capitals. -/
def firstSegment
    (segments : List Segment)
    (wanted : String) : Option Segment :=
  segments.find? (fun segment =>
    segmentId segment = some wanted)

/- `_ENVELOPE_SEGMENT_IDS`. -/
def envelopeSegmentIds : List String :=
  ["ISA", "GS", "GE", "IEA"]

/- Whether a segment belongs to the envelope. -/
def isEnvelope (segment : Segment) : Bool :=
  envelopeSegmentIds.any (fun id =>
    segmentId segment = some id)

/- The envelope has the first segment of each of its ids. -/
theorem firstSegment_filter
    (segments : List Segment)
    {wanted : String}
    (hWanted : wanted ∈ envelopeSegmentIds) :
    firstSegment (segments.filter isEnvelope) wanted =
      firstSegment segments wanted := by
  unfold firstSegment
  rw [List.find?_filter]
  congr 1
  funext segment
  by_cases hId : segmentId segment = some wanted
  · have hEnvelope : isEnvelope segment = true := by
      rw [isEnvelope, List.any_eq_true]
      exact ⟨wanted, hWanted, by simp [hId]⟩
    simp [hId, hEnvelope]
  · simp [hId]

--------
-- Transaction Sets
--------

/-
  The slices that are closed, and the one that is still
  open for the segments to come.
-/
structure Scan where
  closed : List (List Segment)
  current : Option (List Segment)

namespace Scan

def empty : Scan :=
  { closed := [], current := none }

/- All slices, in the order in which they were opened. -/
def slices (scan : Scan) : List (List Segment) :=
  scan.closed ++ scan.current.toList

/- One round of the loop over the segments. -/
def step
    (envelope : List Segment)
    (scan : Scan)
    (segment : Segment) : Scan :=
  match segmentId segment with
  | none => scan
  | some id =>
      if id = "ST" then
        { closed := scan.slices
          current := some (envelope ++ [segment]) }
      else if id = "SE" then
        match scan.current with
        | some current =>
            { closed := scan.closed ++ [current ++ [segment]]
              current := none }
        | none => scan
      else if id ∈ envelopeSegmentIds then
        scan
      else
        match scan.current with
        | some current =>
            { scan with current := some (current ++ [segment]) }
        | none => scan

end Scan

/- `_split_transaction_sets`. -/
def splitTransactionSets
    (segments : List Segment) : List (List Segment) :=
  let envelope := segments.filter isEnvelope
  (segments.foldl (Scan.step envelope) Scan.empty).slices

/-
  For each transaction set the functional group it stands
  in: the GS before it that no GE has closed.
-/
def enclosingGroupsFrom
    (group : Option Segment) :
    List Segment → List (Option Segment)
| [] => []
| segment :: rest =>
    if segmentId segment = some "ST" then
      group :: enclosingGroupsFrom group rest
    else if segmentId segment = some "GS" then
      enclosingGroupsFrom (some segment) rest
    else if segmentId segment = some "GE" then
      enclosingGroupsFrom none rest
    else
      enclosingGroupsFrom group rest

/- The groups of the transaction sets of an interchange. -/
def enclosingGroups
    (segments : List Segment) : List (Option Segment) :=
  enclosingGroupsFrom none segments

--------
-- The Slices
--------

section

namespace Scan

variable {envelope : List Segment} {scan : Scan}

/- A round opens a slice at an ST and at no other segment. -/
theorem length_slices_step
    (envelope : List Segment)
    (scan : Scan)
    (segment : Segment) :
    (scan.step envelope segment).slices.length =
      scan.slices.length +
        if segmentId segment = some "ST" then 1 else 0 := by
  unfold step
  cases hId : segmentId segment with
  | none => simp
  | some id =>
      by_cases hSt : id = "ST"
      · simp [hSt, slices, Nat.add_assoc]
      · simp only [hSt, if_false, Option.some.injEq, Nat.add_zero]
        split
        · cases hCurrent : scan.current with
          | none => rfl
          | some current => simp [slices, hCurrent]
        · split
          · rfl
          · cases hCurrent : scan.current with
            | none => rfl
            | some current => simp [slices, hCurrent]

/- A slice: the envelope and then no segment of it again. -/
def Enveloped
    (envelope slice : List Segment) : Prop :=
  ∃ body, slice = envelope ++ body ∧
    ∀ segment ∈ body, isEnvelope segment = false

/- A slice that takes another segment of no envelope. -/
theorem Enveloped.append
    {slice : List Segment}
    {segment : Segment}
    (hSlice : Enveloped envelope slice)
    (hSegment : isEnvelope segment = false) :
    Enveloped envelope (slice ++ [segment]) := by
  rcases hSlice with ⟨body, rfl, hBody⟩
  refine ⟨body ++ [segment], by simp, ?_⟩
  intro other hOther
  rcases List.mem_append.mp hOther with hHere | hLast
  · exact hBody other hHere
  · rw [List.mem_singleton.mp hLast]
    exact hSegment

/- A round keeps every slice enveloped. -/
theorem enveloped_step
    (segment : Segment)
    (hSlices :
      ∀ slice ∈ scan.slices, Enveloped envelope slice) :
    ∀ slice ∈ (scan.step envelope segment).slices,
      Enveloped envelope slice := by
  have hCurrentOf :
      ∀ current, scan.current = some current →
        Enveloped envelope current := by
    intro current hCurrent
    apply hSlices
    simp [slices, hCurrent]
  have hClosed :
      ∀ slice ∈ scan.closed, Enveloped envelope slice := by
    intro slice hSlice
    apply hSlices
    simp [slices, hSlice]
  intro slice hSlice
  unfold step at hSlice
  cases hId : segmentId segment with
  | none =>
      rw [hId] at hSlice
      exact hSlices slice hSlice
  | some id =>
      have hOutside :
          id ∉ envelopeSegmentIds →
            isEnvelope segment = false := by
        intro hNot
        simpa [isEnvelope, hId, envelopeSegmentIds]
          using hNot
      simp only [hId] at hSlice
      split at hSlice
      · rename_i hSt
        simp only [slices, Option.toList_some,
          List.mem_append, List.mem_singleton] at hSlice
        rcases hSlice with hSlice | rfl
        · apply hSlices
          simpa [slices] using hSlice
        · refine ⟨[segment], rfl, ?_⟩
          intro other hOther
          rw [List.mem_singleton.mp hOther]
          exact hOutside (by rw [hSt]; decide)
      · split at hSlice
        · rename_i hSe
          cases hCurrent : scan.current with
          | none =>
              rw [hCurrent] at hSlice
              exact hSlices slice hSlice
          | some current =>
              simp only [hCurrent, slices, Option.toList_none,
                List.append_nil, List.mem_append,
                List.mem_singleton] at hSlice
              rcases hSlice with hSlice | rfl
              · exact hClosed slice hSlice
              · exact (hCurrentOf current hCurrent).append
                  (hOutside (by rw [hSe]; decide))
        · split at hSlice
          · exact hSlices slice hSlice
          · rename_i hNot
            cases hCurrent : scan.current with
            | none =>
                rw [hCurrent] at hSlice
                exact hSlices slice hSlice
            | some current =>
                simp only [hCurrent, slices,
                  Option.toList_some, List.mem_append,
                  List.mem_singleton] at hSlice
                rcases hSlice with hSlice | rfl
                · exact hClosed slice hSlice
                · exact (hCurrentOf current hCurrent).append
                    (hOutside hNot)

end Scan

/- The loop yields one slice more for each ST it meets. -/
theorem length_foldl_step
    (envelope : List Segment)
    (group : Option Segment)
    (segments : List Segment)
    (scan : Scan) :
    (segments.foldl (Scan.step envelope) scan).slices.length =
      scan.slices.length +
        (enclosingGroupsFrom group segments).length := by
  induction segments generalizing scan group with
  | nil => simp [enclosingGroupsFrom]
  | cons segment rest ih =>
      rw [List.foldl_cons, enclosingGroupsFrom]
      have hStep :=
        Scan.length_slices_step envelope scan segment
      split
      · rename_i hSt
        rw [ih group, hStep, if_pos hSt, List.length_cons]
        omega
      · rename_i hSt
        rw [if_neg hSt, Nat.add_zero] at hStep
        split
        · rw [ih (some segment), hStep]
        · split
          · rw [ih none, hStep]
          · rw [ih group, hStep]

theorem length_splitTransactionSets
    (segments : List Segment) :
    (splitTransactionSets segments).length =
      (enclosingGroups segments).length := by
  unfold splitTransactionSets enclosingGroups
  rw [length_foldl_step _ none]
  simp [Scan.slices, Scan.empty]

/- Every slice starts with the envelope of the whole. -/
theorem enveloped_of_mem_split
    {segments slice : List Segment}
    (hSlice : slice ∈ splitTransactionSets segments) :
    Scan.Enveloped (segments.filter isEnvelope) slice := by
  have hLoop :
      ∀ (rest : List Segment) (scan : Scan),
        (∀ slice ∈ scan.slices,
          Scan.Enveloped (segments.filter isEnvelope) slice) →
        ∀ slice ∈ (rest.foldl
            (Scan.step (segments.filter isEnvelope))
            scan).slices,
          Scan.Enveloped (segments.filter isEnvelope)
            slice := by
    intro rest
    induction rest with
    | nil => intro scan hScan; exact hScan
    | cons segment rest ih =>
        intro scan hScan
        exact ih _ (Scan.enveloped_step segment hScan)
  apply hLoop segments Scan.empty _ slice hSlice
  simp [Scan.slices, Scan.empty]

/-
  The first segment of an envelope id in a slice is the
  first one of the whole interchange.
-/
theorem firstSegment_slice
    {segments slice : List Segment}
    {wanted : String}
    (hWanted : wanted ∈ envelopeSegmentIds)
    (hSlice : slice ∈ splitTransactionSets segments) :
    firstSegment slice wanted =
      firstSegment segments wanted := by
  rcases enveloped_of_mem_split hSlice with
    ⟨body, rfl, hBody⟩
  have hNone : firstSegment body wanted = none := by
    rw [firstSegment, List.find?_eq_none]
    intro segment hSegment hId
    have hOutside := hBody segment hSegment
    rw [isEnvelope, List.any_eq_false] at hOutside
    exact hOutside wanted hWanted hId
  rw [← firstSegment_filter segments hWanted]
  unfold firstSegment at hNone ⊢
  rw [List.find?_append, hNone, Option.or_none]

end

--------
-- Well-Formed Interchanges
--------

/- The ids that delimit the parts of an interchange. -/
def controlIds : List String :=
  ["ST", "SE", "GS", "GE", "ISA", "IEA"]

/- A transaction set from its ST to its SE. -/
structure TransactionSet where
  st : Segment
  body : List Segment
  se : Segment
  st_id : segmentId st = some "ST"
  se_id : segmentId se = some "SE"
  body_ids :
    ∀ segment ∈ body, ∀ id ∈ controlIds,
      segmentId segment ≠ some id

/- A functional group from its GS to its GE. -/
structure FunctionalGroup where
  gs : Segment
  sets : List TransactionSet
  ge : Segment
  gs_id : segmentId gs = some "GS"
  ge_id : segmentId ge = some "GE"

/- An interchange from its ISA to its IEA. -/
structure Interchange where
  isa : Segment
  groups : List FunctionalGroup
  iea : Segment
  isa_id : segmentId isa = some "ISA"
  iea_id : segmentId iea = some "IEA"

def TransactionSet.segments
    (set : TransactionSet) : List Segment :=
  set.st :: set.body ++ [set.se]

def FunctionalGroup.segments
    (group : FunctionalGroup) : List Segment :=
  group.gs ::
    group.sets.flatMap TransactionSet.segments ++ [group.ge]

def Interchange.segments
    (interchange : Interchange) : List Segment :=
  interchange.isa ::
    interchange.groups.flatMap FunctionalGroup.segments ++
      [interchange.iea]

/- A segment that delimits no group and opens no set. -/
theorem enclosingGroupsFrom_cons_other
    {group : Option Segment}
    {segment : Segment}
    (rest : List Segment)
    (hSt : segmentId segment ≠ some "ST")
    (hGs : segmentId segment ≠ some "GS")
    (hGe : segmentId segment ≠ some "GE") :
    enclosingGroupsFrom group (segment :: rest) =
      enclosingGroupsFrom group rest := by
  rw [enclosingGroupsFrom, if_neg hSt, if_neg hGs, if_neg hGe]

/- A transaction set stands in the group that is open. -/
theorem TransactionSet.enclosingGroupsFrom_append
    (set : TransactionSet)
    (group : Option Segment)
    (rest : List Segment) :
    enclosingGroupsFrom group (set.segments ++ rest) =
      group :: enclosingGroupsFrom group rest := by
  have hBody :
      ∀ body : List Segment,
        (∀ segment ∈ body, ∀ id ∈ controlIds,
          segmentId segment ≠ some id) →
        enclosingGroupsFrom group (body ++ set.se :: rest) =
          enclosingGroupsFrom group rest := by
    intro body hIds
    induction body with
    | nil =>
        apply enclosingGroupsFrom_cons_other <;>
          rw [set.se_id] <;> decide
    | cons segment body ih =>
        have hHead := hIds segment (by simp)
        rw [List.cons_append,
          enclosingGroupsFrom_cons_other _
            (hHead "ST" (by decide)) (hHead "GS" (by decide))
            (hHead "GE" (by decide))]
        exact ih (fun other hOther =>
          hIds other (by simp [hOther]))
  rw [TransactionSet.segments, List.cons_append,
    List.cons_append, enclosingGroupsFrom, if_pos set.st_id,
    List.append_assoc, List.singleton_append,
    hBody set.body set.body_ids]

/- The sets of a group stand in it. -/
theorem FunctionalGroup.enclosingGroupsFrom_append
    (group : FunctionalGroup)
    (before : Option Segment)
    (rest : List Segment) :
    enclosingGroupsFrom before (group.segments ++ rest) =
      group.sets.map (fun _ => some group.gs) ++
        enclosingGroupsFrom none rest := by
  have hSets :
      ∀ sets : List TransactionSet,
        enclosingGroupsFrom (some group.gs)
            (sets.flatMap TransactionSet.segments ++
              group.ge :: rest) =
          sets.map (fun _ => some group.gs) ++
            enclosingGroupsFrom none rest := by
    intro sets
    induction sets with
    | nil =>
        simp [enclosingGroupsFrom, group.ge_id]
    | cons set sets ih =>
        rw [List.flatMap_cons, List.append_assoc,
          set.enclosingGroupsFrom_append, ih]
        rfl
  rw [FunctionalGroup.segments, List.cons_append,
    List.cons_append, List.append_assoc,
    List.singleton_append, enclosingGroupsFrom,
    group.gs_id, if_neg (by decide), if_pos rfl, hSets]

/- In an interchange each set stands in its own group. -/
theorem Interchange.enclosingGroups_segments
    (interchange : Interchange) :
    enclosingGroups interchange.segments =
      interchange.groups.flatMap (fun group =>
        group.sets.map (fun _ => some group.gs)) := by
  have hGroups :
      ∀ groups : List FunctionalGroup,
        enclosingGroupsFrom none
            (groups.flatMap FunctionalGroup.segments ++
              [interchange.iea]) =
          groups.flatMap (fun group =>
            group.sets.map (fun _ => some group.gs)) := by
    intro groups
    induction groups with
    | nil =>
        simp [enclosingGroupsFrom, interchange.iea_id]
    | cons group groups ih =>
        rw [List.flatMap_cons, List.append_assoc,
          group.enclosingGroupsFrom_append, ih]
        rfl
  unfold enclosingGroups
  rw [Interchange.segments, List.cons_append,
    enclosingGroupsFrom_cons_other _
      (by rw [interchange.isa_id]; decide)
      (by rw [interchange.isa_id]; decide)
      (by rw [interchange.isa_id]; decide),
    hGroups]

end EdiIngestion

end RegEngine
