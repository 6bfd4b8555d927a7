import RegEngine.Ingestion.Remediation.Corrections
import RegEngine.Library.HashChain

/-
  Histories of corrections. However the corrections of several
  cases alternate, the patches of a case are numbered from one
  without gaps, and `verify_patch_chain` accepts them in every
  order in which they are read.

  Main declarations:
    * `Remediation.patchHistory`
    * `Remediation.insertPatches_linked`
    * `Remediation.patchHistory_verified`
-/

--------
-- The Chain Of A Case
--------

namespace RegEngine

open Python (Dict)

open HashChain (Linked)

namespace Remediation

variable {sha256Hex : String → String}
variable {patches rows : List CorrectionPatch}
variable {prevHash : Option String} {seq : Int}

/- The columns of a patch, and the digest of its body. -/
def patchColumns (sha256Hex : String → String) :
    HashChain.Columns CorrectionPatch Dict String where
  seq patch := patch.patchSeq
  item := hashBody
  previous := CorrectionPatch.prevPatchHash
  digest := CorrectionPatch.patchHash
  link body prevHash := computePatchHash sha256Hex prevHash body

/- The rows of one call go on from a number and a hash. -/
theorem patchLoop_linked
    (context : PatchContext)
    (nextSeq : Nat)
    (changes : List (String × String)) :
    Linked (patchColumns sha256Hex) nextSeq prevHash
      (patchLoop sha256Hex context nextSeq prevHash
        changes) := by
  induction changes generalizing nextSeq prevHash with
  | nil => trivial
  | cons change rest ih => exact ⟨rfl, rfl, rfl, ih _⟩

/- They are rows of one case. -/
theorem mem_insertPatches
    (sha256Hex : String → String)
    (patches : List CorrectionPatch)
    (context : PatchContext) :
    ∀ patch ∈ insertPatches sha256Hex patches context,
      patch.tenantId = context.tenantId ∧
        patch.caseId = context.caseId := by
  unfold insertPatches
  generalize sortedChanges context.request.changes = changes
  generalize (tailPatch patches context.tenantId
    context.caseId) = tail
  simp only
  generalize tail.map CorrectionPatch.patchHash = prevHash
  generalize (tail.map (fun p => p.patchSeq + 1)).getD 1 = next
  induction changes generalizing next prevHash with
  | nil => simp [patchLoop]
  | cons change rest ih =>
      exact List.forall_mem_cons.mpr ⟨⟨rfl, rfl⟩, ih _ _⟩

/- The number of a patch is its place among those linked. -/
theorem patchSeq_getElem
    {index : Nat}
    (hLinked : Linked (patchColumns sha256Hex) 1 none rows)
    (hIndex : index < rows.length) :
    rows[index].patchSeq = index + 1 := by
  have hSeq :=
    ((HashChain.linked_iff_getElem? _).mp hLinked index _
      (List.getElem?_eq_getElem hIndex)).1
  simp only [patchColumns] at hSeq
  omega

/- A call goes on where the rows of its case end. -/
theorem insertPatches_linked
    (context : PatchContext)
    (hLinked :
      Linked (patchColumns sha256Hex) 1 none
        (patchesOf patches context.tenantId context.caseId)) :
    Linked (patchColumns sha256Hex) 1 none
      (patchesOf patches context.tenantId context.caseId ++
        insertPatches sha256Hex patches context) := by
  have hTail :
      tailPatch patches context.tenantId context.caseId =
        (patchesOf patches context.tenantId
          context.caseId).getLast? :=
    HashChain.maxBy_seq (patchColumns sha256Hex) hLinked
  rw [HashChain.linked_append]
  refine ⟨hLinked, ?_⟩
  unfold insertPatches
  simp only [hTail, HashChain.lastDigest_eq, Option.or_none]
  generalize hRows :
    patchesOf patches context.tenantId context.caseId = rows
    at hLinked ⊢
  rcases List.eq_nil_or_concat rows with
    rfl | ⟨front, last, hRows⟩
  · exact patchLoop_linked context 1 _
  · rw [List.concat_eq_append] at hRows
    have hSeq : last.patchSeq = front.length + 1 := by
      have hPlace := @patchSeq_getElem _ _ front.length hLinked
        (by simp [hRows])
      simpa [hRows] using hPlace
    have hStart :
        ((last.patchSeq + 1 : Nat) : Int) = 1 + rows.length := by
      rw [hSeq, hRows, List.length_append,
        List.length_singleton]
      omega
    have hLoop :=
      @patchLoop_linked sha256Hex (some last.patchHash) context
        (last.patchSeq + 1)
        (sortedChanges context.request.changes)
    rw [hStart] at hLoop
    rw [hRows, List.getLast?_concat, ← hRows]
    exact hLoop

/- `verify_patch_chain` accepts linked rows in any order. -/
theorem verifyPatchChain_of_perm
    (hLinked : Linked (patchColumns sha256Hex) 1 none rows)
    (hPerm : patches.Perm rows) :
    verifyPatchChain sha256Hex patches = true := by
  have hOrder : inOrder patches = rows := by
    have hBelow :
        rows.Pairwise (fun p q => p.patchSeq ≤ q.patchSeq) := by
      rw [List.pairwise_iff_getElem]
      intro i j hLeft hRight hLt
      rw [patchSeq_getElem hLinked, patchSeq_getElem hLinked]
      omega
    have hSorted :
        (inOrder patches).Pairwise (fun p q =>
          p.patchSeq ≤ q.patchSeq) := by
      have hOrdered :=
        @List.pairwise_mergeSort CorrectionPatch
          (fun p q => p.patchSeq ≤ q.patchSeq)
          (by simpa using fun _ _ _ => Nat.le_trans)
          (by simpa using fun p q => Nat.le_total _ _) patches
      simpa [inOrder] using hOrdered
    have hSame : (inOrder patches).Perm rows :=
      (List.mergeSort_perm patches _).trans hPerm
    refine List.Perm.eq_of_pairwise ?_ hSorted hBelow hSame
    intro p q hLeft hRight hLe hGe
    rcases List.mem_iff_getElem.mp (hSame.subset hLeft) with
      ⟨i, hI, rfl⟩
    rcases List.mem_iff_getElem.mp hRight with ⟨j, hJ, rfl⟩
    rw [patchSeq_getElem hLinked, patchSeq_getElem hLinked]
      at hLe hGe
    have hIndex : i = j := by omega
    subst hIndex
    rfl
  have hLoop :
      ∀ (rows : List CorrectionPatch) (seq : Int)
        (prevHash : Option String),
        Linked (patchColumns sha256Hex) seq prevHash rows →
          verifyLoop sha256Hex prevHash rows = true := by
    intro rows
    induction rows with
    | nil => exact fun _ _ _ => rfl
    | cons patch rest ih =>
        intro seq prevHash hRows
        rcases hRows with ⟨-, -, hDigest, hRest⟩
        rw [verifyLoop, Bool.and_eq_true, beq_iff_eq]
        exact ⟨hDigest.symm, ih _ _ hRest⟩
  rw [verifyPatchChain, hOrder]
  exact hLoop rows 1 none hLinked

--------
-- Histories
--------

/- The rows after calls of `insert_patches`, for any cases. -/
def patchHistory
    (sha256Hex : String → String)
    (contexts : List PatchContext) :
    List CorrectionPatch :=
  contexts.foldl (fun patches context =>
    patches ++ insertPatches sha256Hex patches context) []

/- The rows of a case are those of its calls, linked. -/
theorem patchHistory_linked
    (sha256Hex : String → String)
    (contexts : List PatchContext)
    (tenantId : Uuid)
    (caseId : Nat) :
    Linked (patchColumns sha256Hex) 1 none
      (patchesOf (patchHistory sha256Hex contexts) tenantId
        caseId) := by
  induction contexts using List.reverseRecOn with
  | nil => trivial
  | append_singleton contexts context ih =>
      rw [patchHistory, List.foldl_append]
      change Linked _ _ _
        (patchesOf
          (patchHistory sha256Hex contexts ++
            insertPatches sha256Hex
              (patchHistory sha256Hex contexts) context)
          tenantId caseId)
      have hMem :=
        mem_insertPatches sha256Hex
          (patchHistory sha256Hex contexts) context
      generalize patchHistory sha256Hex contexts = patches
        at ih hMem ⊢
      have hSplit :
          patchesOf
              (patches ++ insertPatches sha256Hex patches context)
              tenantId caseId =
            patchesOf patches tenantId caseId ++
              patchesOf (insertPatches sha256Hex patches context)
                tenantId caseId :=
        List.filter_append ..
      rw [hSplit]
      by_cases hOwn :
          context.tenantId = tenantId ∧ context.caseId = caseId
      · have hAll :
            patchesOf (insertPatches sha256Hex patches context)
                tenantId caseId =
              insertPatches sha256Hex patches context := by
          apply List.filter_eq_self.mpr
          intro patch hPatch
          simp [hMem patch hPatch, hOwn]
        rw [hAll]
        rcases hOwn with ⟨rfl, rfl⟩
        exact insertPatches_linked context ih
      · have hNone :
            patchesOf (insertPatches sha256Hex patches context)
                tenantId caseId = [] := by
          apply List.filter_eq_nil_iff.mpr
          intro patch hPatch
          simpa [hMem patch hPatch] using hOwn
        rw [hNone, List.append_nil]
        exact ih

/-
  In every history of corrections the patches of a case are
  numbered from one without gaps, and they are a chain that
  `verify_patch_chain` accepts in whatever order they are read.
-/
theorem patchHistory_verified
    (sha256Hex : String → String)
    (contexts : List PatchContext)
    (tenantId : Uuid)
    (caseId : Nat) :
    let rows :=
      patchesOf (patchHistory sha256Hex contexts) tenantId caseId
    rows.map CorrectionPatch.patchSeq =
        List.range' 1 rows.length ∧
      ∀ patches, patches.Perm rows →
        verifyPatchChain sha256Hex patches = true := by
  have hLinked :=
    patchHistory_linked sha256Hex contexts tenantId caseId
  refine ⟨?_, fun patches => verifyPatchChain_of_perm hLinked⟩
  refine List.ext_getElem (by simp) ?_
  intro index hLeft hRight
  rw [List.getElem_map, List.getElem_range',
    patchSeq_getElem hLinked]
  omega

end Remediation

end RegEngine
