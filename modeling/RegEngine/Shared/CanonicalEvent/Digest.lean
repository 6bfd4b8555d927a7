import RegEngine.Library.Json.Quotes
import RegEngine.Shared.CanonicalEvent
import Mathlib.Logic.Equiv.Basic

/-
  What the content digest of an event binds. The digest is
  taken of the fields joined with bars, so it binds an event
  exactly when no free text of the event could be cut at
  another place, and no reference of it may be left out.

  Main declarations:
    * `TraceabilityEvent.SameContent`
    * `TraceabilityEvent.Unambiguous`
    * `TraceabilityEvent.computeSha256Hash_binds_iff`
-/

--------
-- Content
--------

namespace RegEngine

open Python (Value Dict)

namespace TraceabilityEvent

/- The KDEs as the sorted document that is hashed. -/
def kdeContent (e : TraceabilityEvent) : Json :=
  (Value.toJson (.dict e.kdes)).sortKeys

/- Two events agree on the fields that the digest covers. -/
structure SameContent (a b : TraceabilityEvent) : Prop where
  eventId : a.eventId = b.eventId
  eventType : a.eventType = b.eventType
  traceabilityLotCode :
    a.traceabilityLotCode = b.traceabilityLotCode
  productReference : a.productReference = b.productReference
  quantity : a.quantity = b.quantity
  unitOfMeasure : a.unitOfMeasure = b.unitOfMeasure
  fromFacilityReference :
    a.fromFacilityReference = b.fromFacilityReference
  toFacilityReference :
    a.toFacilityReference = b.toFacilityReference
  eventTimestamp : a.eventTimestamp = b.eventTimestamp
  kdes : a.kdeContent = b.kdeContent

/- A reference that is given, without a bar. -/
def Plain (reference : Option String) : Prop :=
  ∃ text, reference = some text ∧ text ≠ "" ∧
    '|' ∉ text.toList

/-
  The free texts of an event cannot be cut at another place:
  they hold no bar, but for the three characters that every
  lot code has, and no reference is left out or empty.
-/
structure Unambiguous (e : TraceabilityEvent) : Prop where
  traceabilityLotCode :
    '|' ∉ e.traceabilityLotCode.toList.drop 3
  productReference : Plain e.productReference
  unitOfMeasure : '|' ∉ e.unitOfMeasure.toList
  fromFacilityReference : Plain e.fromFacilityReference
  toFacilityReference : Plain e.toFacilityReference

--------
-- The Hashed Text
--------

/- The fields after the first characters of the lot code. -/
def contentFields (e : TraceabilityEvent) : List (List Char) :=
  [e.traceabilityLotCode.toList.drop 3,
    (Python.orElse e.productReference "").toList,
    e.quantity.repr.toList,
    e.unitOfMeasure.toList,
    (Python.orElse e.fromFacilityReference "").toList,
    (Python.orElse e.toFacilityReference "").toList,
    e.eventTimestamp.isoformat.toList]

/- The characters of the hashed text. -/
theorem toList_contentText
    (e : TraceabilityEvent) :
    e.contentText.toList =
      e.eventId.text.toList ++ '|' ::
        (e.eventType.value.toList ++ '|' ::
          (e.traceabilityLotCode.toList.take 3 ++
            Text.delimited '|' e.contentFields
              (Json.dump Json.spaced e.kdeContent))) := by
  have hBar : "|".toList = ['|'] := rfl
  simp only [contentText, Python.join, contentFields,
    Text.delimited, String.toList_append, hBar,
    List.append_assoc, List.singleton_append, Json.dumps,
    String.toList_ofList, kdeContent]
  simp only [← List.append_assoc
    (e.traceabilityLotCode.toList.take 3),
    List.take_append_drop]

/- The fields of an unambiguous event hold no bar. -/
theorem Unambiguous.bar_notMem
    {e : TraceabilityEvent}
    (hPlain : e.Unambiguous) :
    ∀ field ∈ e.contentFields, '|' ∉ field := by
  have hReference :
      ∀ reference : Option String, Plain reference →
        '|' ∉ (Python.orElse reference "").toList := by
    rintro reference ⟨text, hText, hSome, hBar⟩
    simp only [hText, Python.orElse, hSome, if_false]
    exact hBar
  have hQuantity : '|' ∉ e.quantity.repr.toList := by
    intro hMem
    exact absurd (e.quantity.mem_floatChars hMem) (by decide)
  intro field hField
  simp only [contentFields, List.mem_cons, List.not_mem_nil,
    or_false] at hField
  rcases hField with hField | hField | hField | hField |
    hField | hField | hField
  · exact hField ▸ hPlain.traceabilityLotCode
  · exact hField ▸ hReference _ hPlain.productReference
  · exact hField ▸ hQuantity
  · exact hField ▸ hPlain.unitOfMeasure
  · exact hField ▸ hReference _ hPlain.fromFacilityReference
  · exact hField ▸ hReference _ hPlain.toFacilityReference
  · rw [hField]
    exact Datetime.delim_notMem_isoformat (by decide)
      e.eventTimestamp

/- A given reference is told by its text. -/
theorem Plain.eq_of_orElse
    {reference other : Option String}
    (hPlain : Plain reference)
    (hEq :
      (Python.orElse reference "").toList =
        (Python.orElse other "").toList) :
    reference = other := by
  rcases hPlain with ⟨text, hText, hSome, -⟩
  have hTexts := String.toList_inj.mp hEq
  simp only [hText, Python.orElse, hSome, if_false] at hTexts
  cases other with
  | none => exact absurd hTexts hSome
  | some given =>
      simp only at hTexts
      split at hTexts
      · exact absurd hTexts hSome
      · rw [hText, hTexts]

/- Events with equal fields and documents agree. -/
theorem sameContent_of_fields
    {a b : TraceabilityEvent}
    (hPlain : a.Unambiguous)
    (hId : a.eventId = b.eventId)
    (hType : a.eventType = b.eventType)
    (hLot :
      a.traceabilityLotCode.toList.take 3 =
        b.traceabilityLotCode.toList.take 3)
    (hFields : a.contentFields = b.contentFields)
    (hKdes : a.kdeContent = b.kdeContent) :
    SameContent a b := by
  simp only [contentFields, List.cons.injEq, and_true]
    at hFields
  rcases hFields with
    ⟨hRest, hProduct, hQuantity, hUnit, hFrom, hTo, hTime⟩
  have hLotCode :
      a.traceabilityLotCode.toList =
        b.traceabilityLotCode.toList := by
    rw [← List.take_append_drop 3 a.traceabilityLotCode.toList,
      hLot, hRest, List.take_append_drop]
  have hFloat :
      ∀ x y : Python.Float, x.repr = y.repr → x = y := by
    rintro ⟨x, hx⟩ ⟨y, hy⟩ hSame
    simpa using hSame
  exact
    { eventId := hId
      eventType := hType
      traceabilityLotCode := String.toList_inj.mp hLotCode
      productReference :=
        hPlain.productReference.eq_of_orElse hProduct
      quantity := hFloat _ _ (String.toList_inj.mp hQuantity)
      unitOfMeasure := String.toList_inj.mp hUnit
      fromFacilityReference :=
        hPlain.fromFacilityReference.eq_of_orElse hFrom
      toFacilityReference :=
        hPlain.toFacilityReference.eq_of_orElse hTo
      eventTimestamp :=
        Datetime.isoformat_inj (String.toList_inj.mp hTime)
      kdes := hKdes }

/- The text of an unambiguous event tells its content. -/
theorem sameContent_of_contentText
    {a b : TraceabilityEvent}
    (hPlain : a.Unambiguous)
    (hText : a.contentText = b.contentText) :
    SameContent a b := by
  have hChars := congrArg String.toList hText
  rw [toList_contentText, toList_contentText] at hChars
  rcases Text.append_delim_inj_of_length (by
    rw [a.eventId.length_toList, b.eventId.length_toList])
      hChars with ⟨hId, hChars⟩
  rcases Text.append_delim_inj a.eventType.delim_notMem_value
      b.eventType.delim_notMem_value hChars with
    ⟨hType, hChars⟩
  rcases List.append_inj hChars (by
    rw [List.length_take, List.length_take,
      Nat.min_eq_left a.lotCode_length,
      Nat.min_eq_left b.lotCode_length]) with ⟨hLot, hChars⟩
  rcases Text.delimited_inj hPlain.bar_notMem
      (show a.contentFields.length = b.contentFields.length
        from rfl) hChars with
    ⟨hFields, hKdes⟩ | ⟨front, hFront⟩
  · refine sameContent_of_fields hPlain ?_ ?_ hLot hFields
      (Json.dump_inj Json.spaced_valid hKdes)
    · have hIdText := String.toList_inj.mp hId
      cases hA : a.eventId
      cases hB : b.eventId
      simpa [hA, hB] using hIdText
    · exact CTEType.value_inj (String.toList_inj.mp hType)
  · exact absurd hFront
      (Json.dump_ne_append_bar Json.spaced_plain _ _ front)

--------
-- Texts That Can Be Cut Elsewhere
--------

/- A text that is given reads as itself. -/
theorem orElse_some
    (text : String) :
    Python.orElse (some text) "" = text := by
  by_cases hEmpty : text = "" <;> simp [Python.orElse, hEmpty]

/- How a reference fails to be plain. -/
theorem not_plain_cases
    {reference : Option String}
    (hPlain : ¬ Plain reference) :
    (∃ other, other ≠ reference ∧
        Python.orElse other "" = Python.orElse reference "") ∨
      ∃ front back,
        (Python.orElse reference "").toList =
          front ++ '|' :: back := by
  cases reference with
  | none => exact Or.inl ⟨some "", by simp, by simp [Python.orElse]⟩
  | some text =>
      by_cases hEmpty : text = ""
      · exact Or.inl ⟨none, by simp, by
          simp [Python.orElse, hEmpty]⟩
      · have hMem : '|' ∈ text.toList := by
          by_contra hBar
          exact hPlain ⟨text, rfl, hEmpty, hBar⟩
        rcases Text.exists_cut hMem with ⟨front, back, hCut, -⟩
        refine Or.inr ⟨front, back, ?_⟩
        simp only [Python.orElse, hEmpty, if_false, hCut]

/-
  Every other event with the text of an event agrees with it.
  This is what the digest should give, and what a text that
  can be cut elsewhere breaks.
-/
def TextBinds (a : TraceabilityEvent) : Prop :=
  ∀ b, a.contentText = b.contentText → SameContent a b

variable {a : TraceabilityEvent}

/- A bar in the lot code could begin the product. -/
theorem TextBinds.traceabilityLotCode
    (hBinds : a.TextBinds) :
    '|' ∉ a.traceabilityLotCode.toList.drop 3 := by
  intro hMem
  rcases Text.exists_cut hMem with ⟨front, back, hCut, -⟩
  have hLot :
      a.traceabilityLotCode.toList =
        a.traceabilityLotCode.toList.take 3 ++
          (front ++ '|' :: back) := by
    rw [← hCut, List.take_append_drop]
  have hSame :=
    hBinds
      { a with
        traceabilityLotCode :=
          String.ofList
            (a.traceabilityLotCode.toList.take 3 ++ front)
        productReference :=
          some (String.ofList
            (back ++ '|' ::
              (Python.orElse a.productReference "").toList))
        lotCode_length := by
          have hLength := a.lotCode_length
          simp only [String.toList_ofList, List.length_append,
            List.length_take]
          omega }
      (by
        apply String.toList_inj.mp
        simp only [contentText, Python.join,
          String.toList_append, orElse_some,
          String.toList_ofList]
        nth_rewrite 1 [hLot]
        simp only [List.append_assoc, List.cons_append]
        rfl)
  have hChars :=
    congrArg (fun text => text.toList.length)
      hSame.traceabilityLotCode
  have hLength := congrArg List.length hLot
  simp only [String.toList_ofList, List.length_append,
    List.length_cons] at hChars hLength
  omega

/- A bar in the unit could begin the first facility. -/
theorem TextBinds.unitOfMeasure
    (hBinds : a.TextBinds) :
    '|' ∉ a.unitOfMeasure.toList := by
  intro hMem
  rcases Text.exists_cut hMem with ⟨front, back, hCut, -⟩
  have hSame :=
    hBinds
      { a with
        unitOfMeasure := String.ofList front
        fromFacilityReference :=
          some (String.ofList
            (back ++ '|' ::
              (Python.orElse a.fromFacilityReference
                "").toList)) }
      (by
        apply String.toList_inj.mp
        simp [contentText, Python.join, orElse_some, hCut])
  have hChars :=
    congrArg (fun text => text.toList.length)
      hSame.unitOfMeasure
  simp [hCut] at hChars

/- The product must be given, and a bar could end the lot. -/
theorem TextBinds.productReference
    (hBinds : a.TextBinds) :
    Plain a.productReference := by
  by_contra hPlain
  rcases not_plain_cases hPlain with
    ⟨other, hNe, hOr⟩ | ⟨front, back, hCut⟩
  · have hSame :=
      hBinds { a with productReference := other }
        (by simp [contentText, hOr])
    exact hNe hSame.productReference.symm
  · have hSame :=
      hBinds
        { a with
          traceabilityLotCode :=
            String.ofList
              (a.traceabilityLotCode.toList ++ '|' :: front)
          productReference := some (String.ofList back)
          lotCode_length := by
            have hLength := a.lotCode_length
            simp only [String.toList_ofList,
              List.length_append]
            omega }
        (by
          apply String.toList_inj.mp
          simp [contentText, Python.join, orElse_some, hCut])
    have hChars :=
      congrArg (fun text => text.toList.length)
        hSame.traceabilityLotCode
    simp at hChars

/- The first facility must be given, without a bar. -/
theorem TextBinds.fromFacilityReference
    (hBinds : a.TextBinds) :
    Plain a.fromFacilityReference := by
  by_contra hPlain
  rcases not_plain_cases hPlain with
    ⟨other, hNe, hOr⟩ | ⟨front, back, hCut⟩
  · have hSame :=
      hBinds { a with fromFacilityReference := other }
        (by simp [contentText, hOr])
    exact hNe hSame.fromFacilityReference.symm
  · have hSame :=
      hBinds
        { a with
          unitOfMeasure :=
            String.ofList
              (a.unitOfMeasure.toList ++ '|' :: front)
          fromFacilityReference := some (String.ofList back) }
        (by
          apply String.toList_inj.mp
          simp [contentText, Python.join, orElse_some, hCut])
    have hChars :=
      congrArg (fun text => text.toList.length)
        hSame.unitOfMeasure
    simp at hChars

/- The second facility must be given, without a bar. -/
theorem TextBinds.toFacilityReference
    (hBinds : a.TextBinds) :
    Plain a.toFacilityReference := by
  by_contra hPlain
  rcases not_plain_cases hPlain with
    ⟨other, hNe, hOr⟩ | ⟨front, back, hCut⟩
  · have hSame :=
      hBinds { a with toFacilityReference := other }
        (by simp [contentText, hOr])
    exact hNe hSame.toFacilityReference.symm
  · have hSame :=
      hBinds
        { a with
          fromFacilityReference :=
            some (String.ofList
              ((Python.orElse a.fromFacilityReference
                "").toList ++ '|' :: front))
          toFacilityReference := some (String.ofList back) }
        (by
          apply String.toList_inj.mp
          simp [contentText, Python.join, orElse_some, hCut])
    have hChars :=
      congrArg (fun reference =>
        (Python.orElse reference "").toList.length)
        hSame.fromFacilityReference
    simp [orElse_some] at hChars

/- An event whose text binds is unambiguous. -/
theorem TextBinds.unambiguous
    (hBinds : a.TextBinds) :
    a.Unambiguous where
  traceabilityLotCode := hBinds.traceabilityLotCode
  productReference := hBinds.productReference
  unitOfMeasure := hBinds.unitOfMeasure
  fromFacilityReference := hBinds.fromFacilityReference
  toFacilityReference := hBinds.toFacilityReference

/-
  The digest of an event tells its content exactly when the
  event is unambiguous, as long as no other text has the
  digest of its own.
-/
theorem computeSha256Hash_binds_iff
    (sha256Hex : String → String)
    (a : TraceabilityEvent)
    (hFree :
      ∀ text, sha256Hex text = sha256Hex a.contentText →
        text = a.contentText) :
    (∀ b,
        a.computeSha256Hash sha256Hex =
            b.computeSha256Hash sha256Hex →
          SameContent a b) ↔
      a.Unambiguous := by
  constructor
  · intro hDigest
    refine TextBinds.unambiguous (fun b hText => ?_)
    exact hDigest b (congrArg sha256Hex hText)
  · intro hPlain b hDigest
    exact sameContent_of_contentText hPlain
      (hFree b.contentText hDigest.symm).symm

def referencedHarvest : TraceabilityEvent :=
  { (default : TraceabilityEvent) with
    productReference := some "Lettuce"
    fromFacilityReference := some "farm-1"
    toFacilityReference := some "cooler-1" }

theorem computeSha256Hash_binds_referencedHarvest :
    referencedHarvest.computeSha256Hash
        (Equiv.swap referencedHarvest.contentText
          "6eaa852ec4a4936514adbcbc8be627d5d125e2386d75682a63c6c9b07756da9e") =
      "6eaa852ec4a4936514adbcbc8be627d5d125e2386d75682a63c6c9b07756da9e" ∧
    ∀ b,
      referencedHarvest.computeSha256Hash
          (Equiv.swap referencedHarvest.contentText
            "6eaa852ec4a4936514adbcbc8be627d5d125e2386d75682a63c6c9b07756da9e") =
          b.computeSha256Hash
            (Equiv.swap referencedHarvest.contentText
              "6eaa852ec4a4936514adbcbc8be627d5d125e2386d75682a63c6c9b07756da9e") →
        SameContent referencedHarvest b := by
  refine ⟨Equiv.swap_apply_left _ _,
    (computeSha256Hash_binds_iff _ referencedHarvest
      (fun text hSame => Equiv.injective _ hSame)).mpr ?_⟩
  exact
    { traceabilityLotCode := by decide
      productReference := ⟨_, rfl, by decide, by decide⟩
      unitOfMeasure := by decide
      fromFacilityReference := ⟨_, rfl, by decide, by decide⟩
      toFacilityReference := ⟨_, rfl, by decide, by decide⟩ }

/- A lot code that ends in what another event has as product. -/
def barInLotCode : TraceabilityEvent :=
  { (default : TraceabilityEvent) with
    traceabilityLotCode := "AAA|B"
    productReference := some "C"
    lotCode_length := by decide }

def barInProduct : TraceabilityEvent :=
  { (default : TraceabilityEvent) with
    traceabilityLotCode := "AAA"
    productReference := some "B|C"
    lotCode_length := by decide }

/- The two have one digest under every hash function. -/
theorem computeSha256Hash_barInLotCode :
    (∀ sha256Hex,
        barInLotCode.computeSha256Hash sha256Hex =
          barInProduct.computeSha256Hash sha256Hex) ∧
      ¬ SameContent barInLotCode barInProduct := by
  constructor
  · intro sha256Hex
    exact congrArg sha256Hex (by decide)
  · intro hSame
    exact absurd hSame.traceabilityLotCode (by decide)

end TraceabilityEvent

end RegEngine
