import RegEngine.Ingestion.EdiIngestion.Parser

/-
  The envelope ids of a transaction set
  (`services/ingestion/app/edi_ingestion/extractors.py`), and
  the functional group they are taken from.

  Main declarations:
    * `EdiIngestion.extractEnvelopeIds`
    * `EdiIngestion.NamesGroup`
    * `EdiIngestion.Attributed`
    * `EdiIngestion.attributed_iff_samePartners`
-/

--------
-- Envelope Ids
--------

namespace RegEngine

namespace EdiIngestion

/- `(segment[i] if len(segment) > i else None) or None`. -/
def element (segment : Segment) (i : Nat) : Option String :=
  match segment[i]? with
  | none => none
  | some text =>
      if text = "" then none else some (Python.strip text)

/- The dict `_extract_envelope_ids` returns. -/
structure EnvelopeIds where
  isaSenderId : Option String
  isaReceiverId : Option String
  isa13 : Option String
  gsSenderId : Option String
  gsReceiverId : Option String
  gsControlNumber : Option String
  senderId : Option String
  receiverId : Option String
  envelopeMismatch : Bool
  deriving DecidableEq, Repr

/- Whether two ids are both given and differ. -/
def disagree (gs isa : Option String) : Bool :=
  match gs, isa with
  | some gs, some isa => gs ≠ "" && isa ≠ "" && gs ≠ isa
  | _, _ => false

/- `_extract_envelope_ids`. -/
def extractEnvelopeIds (segments : List Segment) : EnvelopeIds :=
  let isa := (firstSegment segments "ISA").getD []
  let gs := (firstSegment segments "GS").getD []
  let isaSender := element isa 6
  let isaReceiver := element isa 8
  let gsSender := element gs 2
  let gsReceiver := element gs 3
  { isaSenderId := isaSender
    isaReceiverId := isaReceiver
    isa13 := element isa 13
    gsSenderId := gsSender
    gsReceiverId := gsReceiver
    gsControlNumber := element gs 6
    senderId := Python.orSome gsSender isaSender
    receiverId := Python.orSome gsReceiver isaReceiver
    envelopeMismatch :=
      disagree gsSender isaSender ||
        disagree gsReceiver isaReceiver }

/-
  Every slice yields the ids of the interchange it is cut
  from.
-/
theorem extractEnvelopeIds_slice
    {segments slice : List Segment}
    (hSlice : slice ∈ splitTransactionSets segments) :
    extractEnvelopeIds slice = extractEnvelopeIds segments := by
  unfold extractEnvelopeIds
  rw [firstSegment_slice (by decide) hSlice,
    firstSegment_slice (by decide) hSlice]

--------
-- Attribution
--------

/-
  Envelope ids name a functional group: sender and receiver
  are those of its GS, or of the ISA where it has none.
-/
structure NamesGroup
    (ids : EnvelopeIds)
    (gs : Segment) : Prop where
  gsSender : ids.gsSenderId = element gs 2
  gsReceiver : ids.gsReceiverId = element gs 3
  sender :
    ids.senderId =
      Python.orSome (element gs 2) ids.isaSenderId
  receiver :
    ids.receiverId =
      Python.orSome (element gs 3) ids.isaReceiverId

/-
  The ids extracted from each slice name the group that
  encloses its transaction set, if there is one.
-/
def Attributed (segments : List Segment) : Prop :=
  List.Forall₂
    (fun slice group =>
      ∀ gs, group = some gs →
        NamesGroup (extractEnvelopeIds slice) gs)
    (splitTransactionSets segments)
    (enclosingGroups segments)

/- The extracted ids name the first group there is. -/
theorem namesGroup_extractEnvelopeIds_iff
    {segments : List Segment}
    {gs : Segment} :
    NamesGroup (extractEnvelopeIds segments) gs ↔
      element gs 2 =
          element ((firstSegment segments "GS").getD []) 2 ∧
        element gs 3 =
          element ((firstSegment segments "GS").getD []) 3 := by
  constructor
  · intro hNames
    exact ⟨hNames.gsSender.symm, hNames.gsReceiver.symm⟩
  · rintro ⟨hSender, hReceiver⟩
    refine ⟨hSender.symm, hReceiver.symm, ?_, ?_⟩
    · rw [hSender]
      rfl
    · rw [hReceiver]
      rfl

/-
  A relation that only looks at the right one of each pair
  holds of two lists of one length when it holds on the right.
-/
theorem forall₂_iff_right
    {α β : Type}
    {R : α → β → Prop}
    {P : β → Prop}
    {xs : List α}
    {ys : List β}
    (hLength : xs.length = ys.length)
    (hRight : ∀ x ∈ xs, ∀ y, R x y ↔ P y) :
    List.Forall₂ R xs ys ↔ ∀ y ∈ ys, P y := by
  induction ys generalizing xs with
  | nil =>
      rw [List.length_nil, List.length_eq_zero_iff] at hLength
      simp [hLength]
  | cons y ys ih =>
      cases xs with
      | nil => simp at hLength
      | cons x xs =>
          have hTail :=
            ih (by simpa using hLength)
              (fun z hz => hRight z (by simp [hz]))
          rw [List.forall₂_cons, hTail, hRight x (by simp),
            List.forall_mem_cons]

/-
  The attribution is right when the ids of the interchange
  as a whole name every group that has a transaction set.
-/
theorem attributed_iff_forall
    {segments : List Segment} :
    Attributed segments ↔
      ∀ gs, some gs ∈ enclosingGroups segments →
        NamesGroup (extractEnvelopeIds segments) gs := by
  unfold Attributed
  rw [forall₂_iff_right
    (P := fun group =>
      ∀ gs, group = some gs →
        NamesGroup (extractEnvelopeIds segments) gs)
    (length_splitTransactionSets segments)
    (fun slice hSlice group => by
      rw [extractEnvelopeIds_slice hSlice])]
  constructor
  · intro hNames gs hGs
    exact hNames (some gs) hGs gs rfl
  · rintro hNames group hGroup gs rfl
    exact hNames gs hGroup

/-
  Every group that has a transaction set gives the sender and
  the receiver of the first group.
-/
def SamePartners (segments : List Segment) : Prop :=
  let first := (firstSegment segments "GS").getD []
  ∀ gs, some gs ∈ enclosingGroups segments →
    element gs 2 = element first 2 ∧
      element gs 3 = element first 3

/-
  Each transaction set is attributed to its own group exactly
  when all groups come from the partners of the first.
-/
theorem attributed_iff_samePartners
    (segments : List Segment) :
    Attributed segments ↔ SamePartners segments := by
  rw [attributed_iff_forall]
  constructor
  · intro hNames gs hGs
    exact namesGroup_extractEnvelopeIds_iff.mp (hNames gs hGs)
  · intro hSame gs hGs
    exact namesGroup_extractEnvelopeIds_iff.mpr (hSame gs hGs)

/-
  Two functional groups of one interchange, from two trading
  partners, with one transaction set each.
-/
def twoPartners : Interchange :=
  { isa :=
      ["ISA", "00", "", "00", "", "ZZ", "VAN", "ZZ", "REGENG"]
    groups :=
      [{ gs := ["GS", "SH", "ACME", "REGENG"]
         sets :=
          [{ st := ["ST", "856", "0001"]
             body := [["BSN", "00", "A1"]]
             se := ["SE", "3", "0001"]
             st_id := by decide
             se_id := by decide
             body_ids := by decide }]
         ge := ["GE", "1", "1"]
         gs_id := by decide
         ge_id := by decide },
       { gs := ["GS", "SH", "GLOBEX", "REGENG"]
         sets :=
          [{ st := ["ST", "856", "0002"]
             body := [["BSN", "00", "B1"]]
             se := ["SE", "3", "0002"]
             st_id := by decide
             se_id := by decide
             body_ids := by decide }]
         ge := ["GE", "1", "2"]
         gs_id := by decide
         ge_id := by decide }]
    iea := ["IEA", "2", "000000001"]
    isa_id := by decide
    iea_id := by decide }

/-
  The set of the second partner is given the sender of the
  first.
-/
theorem not_attributed_twoPartners :
    ¬ Attributed twoPartners.segments ∧
      (splitTransactionSets twoPartners.segments).map
          (fun slice => (extractEnvelopeIds slice).senderId) =
        [some "ACME", some "ACME"] := by
  have hSenders :
      (splitTransactionSets twoPartners.segments).map
          (fun slice => (extractEnvelopeIds slice).gsSenderId) =
        [some "ACME", some "ACME"] := by
    decide
  have hGroups :
      enclosingGroups twoPartners.segments =
        [some ["GS", "SH", "ACME", "REGENG"],
          some ["GS", "SH", "GLOBEX", "REGENG"]] :=
    twoPartners.enclosingGroups_segments
  refine ⟨?_, by decide⟩
  intro hNames
  unfold Attributed at hNames
  rw [hGroups] at hNames
  cases hSlices : splitTransactionSets twoPartners.segments with
  | nil => simp [hSlices] at hSenders
  | cons first rest =>
      rw [hSlices] at hNames hSenders
      cases hNames with
      | cons hFirst hRest =>
          cases hRest with
          | cons hSecond hNil =>
              simp only [List.map_cons, List.cons.injEq]
                at hSenders
              have hSender := (hSecond _ rfl).gsSender
              rw [hSenders.2.1] at hSender
              revert hSender
              decide

end EdiIngestion

end RegEngine
