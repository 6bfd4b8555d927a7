import RegEngine.Ingestion.QrDecoder.DigitalLink

/-
  Labels and links read back by the decoder: which element
  lists that the label module accepts come back with the same
  GTIN, lot code, serial and dates, and which links do.

  Main declarations:
    * `QrDecoder.ReturnsLabels`
    * `QrDecoder.ReturnsLinks`
    * `QrDecoder.readsBack_iff_legible`
-/

--------
-- The Text Of A Label As A Payload
--------

namespace RegEngine

open Gs1128 (Ai Element Admits Prepared textOf separatorAfter)

namespace QrDecoder

variable {refused : List Char → Bool}
  {elements : List Element}

variable {c : Char}

/- A label starts with a digit. -/
theorem head_textOf
    (hHead : c ∈ (textOf elements).head?) :
    c.isDigit = true := by
  cases elements with
  | nil => simp [textOf] at hHead
  | cons element rest =>
      cases hAi : element.ai <;>
        simp [textOf, Element.block, hAi, Ai.text] at hHead <;>
        rw [← hHead] <;> decide

/- A label ends with a character of a value. -/
theorem last_textOf
    (hPrepared : Prepared elements)
    (hLast : c ∈ (textOf elements).getLast?) :
    Python.isSpace c = false := by
  induction elements with
  | nil => simp [textOf] at hLast
  | cons element rest ih =>
      have hAdmits := hPrepared.admits element (by simp)
      cases rest with
      | nil =>
          have hText :
              textOf [element] =
                element.ai.text ++ element.value := by
            simp [textOf, separatorAfter, Element.block]
          rw [hText, List.getLast?_append_of_ne_nil _
            hAdmits.ne_nil] at hLast
          exact hAdmits.isSpace (List.mem_of_mem_getLast? hLast)
      | cons other more =>
          have hSome : textOf (other :: more) ≠ [] := by
            cases hAi : other.ai <;>
              simp [textOf, Element.block, hAi, Ai.text]
          rw [textOf, ← List.append_assoc,
            List.getLast?_append_of_ne_nil _ hSome] at hLast
          exact ih hPrepared.tail hLast

theorem strip_textOf
    (hPrepared : Prepared elements) :
    Chars.strip (textOf elements) = textOf elements := by
  apply Chars.strip_eq_self
  · intro c hc
    have hCode := Gs1128.code_of_isDigit (head_textOf hc)
    exact Chars.isSpace_of_code (by omega) (by omega)
  · exact fun c hc => last_textOf hPrepared hc

theorem parseDigitalLink_textOf
    (hPrepared : Prepared elements) :
    parseDigitalLink refused (textOf elements) = none := by
  rw [parseDigitalLink, strip_textOf hPrepared]
  split
  · rfl
  · rename_i hSome
    have hPath : linkPath refused (textOf elements) = none := by
      rcases List.exists_cons_of_ne_nil hSome with
        ⟨c, rest, hText⟩
      have hDigit : c.isDigit = true :=
        head_textOf (by rw [hText]; rfl)
      have hCode := Gs1128.code_of_isDigit hDigit
      rw [hText, linkPath, if_neg (by
        intro hSlash
        rw [Option.some.inj hSlash] at hCode
        exact absurd hCode.1 (by decide))]
      split
      · rfl
      · rename_i scheme path hParse
        have hAlpha : c.isAlpha = false := by
          rw [Bool.eq_false_iff]
          intro hLetter
          delta Char.isAlpha Char.isUpper Char.isLower
            at hLetter
          simp only [Bool.or_eq_true, Bool.and_eq_true,
            decide_eq_true_eq] at hLetter
          have hHigh : 65 ≤ c.toNat := by
            rcases hLetter with hUpper | hLower
            · exact hUpper.1
            · exact le_trans (by decide : 65 ≤ 97) hLower.1
          omega
        have hControl : Url.isControlOrSpace c = false := by
          simp only [Url.isControlOrSpace,
            decide_eq_false_iff_not]
          omega
        rw [Url.urlparse_scheme hAlpha hControl hParse]
        rfl
    rw [hPath]

/- The characters of a label. -/
theorem mem_textOf
    (hMem : c ∈ textOf elements) :
    c.isDigit = true ∨ c = groupSeparator ∨
      ∃ element ∈ elements, c ∈ element.value := by
  induction elements with
  | nil => simp [textOf] at hMem
  | cons element rest ih =>
      rw [textOf, Element.block, List.mem_append,
        List.mem_append, List.mem_append] at hMem
      rcases hMem with (hAi | hValue) | hSeparator | hRest
      · left
        have hDigits :
            element.ai.text.all Char.isDigit = true := by
          cases element.ai <;> rfl
        exact List.all_eq_true.mp hDigits c hAi
      · exact Or.inr (Or.inr ⟨element, by simp, hValue⟩)
      · rw [separatorAfter] at hSeparator
        split at hSeparator
        · exact Or.inr (Or.inl (List.mem_singleton.mp hSeparator))
        · cases hSeparator
      · rcases ih hRest with hDigit | hGroup | ⟨other, hOther, hIn⟩
        · exact Or.inl hDigit
        · exact Or.inr (Or.inl hGroup)
        · exact Or.inr (Or.inr
            ⟨other, List.mem_cons_of_mem _ hOther, hIn⟩)

/- A label without brackets is its own normal form. -/
theorem normalizePayload_textOf
    (hPrepared : Prepared elements)
    (hPlain : Plain elements) :
    normalizePayload (textOf elements) = textOf elements := by
  have hKept :
      ∀ c ∈ textOf elements, c ≠ ' ' ∧ c ≠ '(' ∧ c ≠ ')' := by
    intro c hMem
    rcases mem_textOf hMem with
      hDigit | hGroup | ⟨element, hElement, hValue⟩
    · have hCode := Gs1128.code_of_isDigit hDigit
      refine ⟨?_, ?_, ?_⟩ <;>
        · intro hEq
          rw [hEq] at hCode
          exact absurd hCode.1 (by decide)
    · rw [hGroup]
      decide
    · have hSpace :=
        (hPrepared.admits element hElement).isSpace hValue
      refine ⟨?_, hPlain element hElement c hValue⟩
      intro hEq
      rw [hEq] at hSpace
      exact absurd hSpace (by decide)
  have hBlank :
      ∀ c ∈ textOf elements, decide (c ≠ ' ') = true :=
    fun c hc => decide_eq_true (hKept c hc).1
  have hOpen :
      ∀ c ∈ textOf elements, decide (c ≠ '(') = true :=
    fun c hc => decide_eq_true (hKept c hc).2.1
  have hClose :
      ∀ c ∈ textOf elements, decide (c ≠ ')') = true :=
    fun c hc => decide_eq_true (hKept c hc).2.2
  rw [normalizePayload, strip_textOf hPrepared,
    List.filter_eq_self.mpr hBlank,
    List.filter_eq_self.mpr hOpen,
    List.filter_eq_self.mpr hClose]

/- Labels are read as element strings. -/
theorem get_parseGs1Payload
    (refused : List Char → Bool)
    (hPrepared : Prepared elements)
    (field : Field) :
    get field (parseGs1Payload refused (textOf elements)) =
      get field (scan (normalizePayload (textOf elements))
        { sourceFormat := .gs1Ai }) := by
  rw [parseGs1Payload, parseDigitalLink_textOf hPrepared]
  simp only [parseGs1Ai]
  exact get_withValidGtin field _

/- A value with a bracket is not read back. -/
theorem plain_of_readsBack
    (hPrepared : Prepared elements)
    (hReads : ReadsBack elements
      (parseGs1Payload refused (textOf elements))) :
    Plain elements := by
  intro element hElement c hMem
  have hAdmits := hPrepared.admits element hElement
  by_cases hKind : element.ai.spec.kind = .text
  · have hText : element.ai = .lot ∨ element.ai = .serial := by
      cases hAi : element.ai <;>
        simp [hAi, Ai.spec] at hKind ⊢
    rcases variableField hText with
      ⟨field, hKnown, hLength, _, hWritten, _⟩
    have hSaid := said_of_mem hPrepared.distinct hElement hKnown
    have hRead := hReads field (by cases field <;> simp)
    rw [get_parseGs1Payload refused hPrepared, hSaid, hWritten] at hRead
    have hReadable :
        Readable (fun c => c ≠ '(' ∧ c ≠ ')')
          (scan (normalizePayload (textOf elements))
            { sourceFormat := .gs1Ai }) := by
      apply readable_scan
      · intro d hd
        simp only [normalizePayload, List.mem_filter,
          decide_eq_true_eq] at hd
        exact ⟨hd.1.2, hd.2⟩
      · exact ⟨by simp, by simp, by simp, by simp⟩
    cases field with
    | lot => exact hReadable.lot _ hRead c hMem
    | serial => exact hReadable.serial _ hRead c hMem
    | gtin => cases hLength
    | packDate => cases hLength
    | expiry => cases hLength
  · exact ⟨hAdmits.ne_sign hKind hMem (by decide),
      hAdmits.ne_sign hKind hMem (by decide)⟩

--------
-- Labels And Links That Are Read Back
--------

open Gs1128 (Ai Element Elements Item Prepared prepare
  elementString textOf)

theorem exists_of_everyElement
    {test : Element → List Char → Bool}
    {element : Element}
    (hEvery : everyElement test elements = true)
    (hMem : element ∈ elements) :
    ∃ behind, test element behind = true := by
  induction elements with
  | nil => cases hMem
  | cons first rest ih =>
      rw [everyElement, Bool.and_eq_true] at hEvery
      rcases List.mem_cons.mp hMem with hHere | hLater
      · rw [hHere]
        exact ⟨_, hEvery.1⟩
      · exact ih hEvery.2 hLater

/- Legible labels hold no bracket. -/
theorem plain_of_legible
    (hPrepared : Prepared elements)
    (hLegible : everyElement isLegible elements = true) :
    Plain elements := by
  intro element hElement c hMem
  have hAdmits := hPrepared.admits element hElement
  by_cases hKind : element.ai.spec.kind = .text
  · rcases exists_of_everyElement hLegible hElement with
      ⟨behind, hTest⟩
    have hBrackets :
        '(' ∉ element.value ∧ ')' ∉ element.value := by
      cases hAi : element.ai <;>
        simp [hAi, Ai.spec] at hKind <;>
        simp [isLegible, hAi] at hTest <;>
        exact hTest.1
    exact ⟨fun h => hBrackets.1 (h ▸ hMem),
      fun h => hBrackets.2 (h ▸ hMem)⟩
  · exact ⟨hAdmits.ne_sign hKind hMem (by decide),
      hAdmits.ne_sign hKind hMem (by decide)⟩

/- The scanner at the start of a label. -/
theorem atStart_of_plain
    (hPrepared : Prepared elements)
    (hPlain : Plain elements)
    (hQuiet : everyElement isQuiet elements = true) :
    AtStart elements { sourceFormat := .gs1Ai } := by
  refine ⟨hPrepared, hPlain, hQuiet, ?_, ?_⟩
  · intro element _ field _
    cases field <;> rfl
  · exact ⟨by simp, by simp, by simp, by simp⟩

theorem readsBack_textOf_iff
    (hPrepared : Prepared elements)
    (hQuiet : everyElement isQuiet elements = true) :
    ReadsBack elements
        (parseGs1Payload refused (textOf elements)) ↔
      everyElement isLegible elements = true := by
  have hScan :
      Plain elements →
        (ReadsBack elements
            (parseGs1Payload refused (textOf elements)) ↔
          everyElement isLegible elements = true) := by
    intro hPlain
    have hGet := get_parseGs1Payload refused hPrepared
    rw [normalizePayload_textOf hPrepared hPlain] at hGet
    have hStart := atStart_of_plain hPrepared hPlain hQuiet
    rw [← scan_textOf_iff hStart, ← readsBack_iff_scan]
    simp only [ReadsBack, hGet]
  constructor
  · intro hReads
    exact (hScan (plain_of_readsBack hPrepared hReads)).mp hReads
  · intro hLegible
    exact (hScan (plain_of_legible hPrepared hLegible)).mpr
      hLegible

/-
  Every accepted element list comes back from its element
  string with the GTIN, lot code, serial and dates that were
  encoded.
-/
def ReturnsLabels (refused : List Char → Bool) : Prop :=
  ∀ input elements text, prepare input = .ok elements →
    elementString input = .ok text →
      ReadsBack elements (parseGs1Payload refused text)

/-
  The link of every accepted GTIN, lot code and serial comes
  back as the same three.
-/
def ReturnsLinks (refused : List Char → Bool) : Prop :=
  ∀ input elements gtin lot serial,
    prepare input = .ok elements →
      ⟨.gtin, gtin⟩ ∈ elements → ⟨.lot, lot⟩ ∈ elements →
        ⟨.serial, serial⟩ ∈ elements →
          HasTriple gtin lot serial (parseGs1Payload refused
            (digitalLink gtin lot serial))

def item (ai value : String) : Item :=
  .pair (.text ai.toList) (.text value.toList)

/- A lot code with digits that read as a lot code's own. -/
def lotLabel : Elements :=
  .items [item "01" "09506000134352", item "10" "A10B"]

/- The scanner reads the lot code A10B as A. -/
theorem not_returnsLabels_lotLabel :
    ¬ (ReturnsLabels (fun _ => false) ∧
      ReturnsLinks (fun _ => false)) := by
  intro hReturns
  have hReads := hReturns.1 lotLabel
    [⟨.gtin, "09506000134352".toList⟩, ⟨.lot, "A10B".toList⟩]
    "010950600013435210A10B".toList (by rfl) (by rfl)
  have hCut :
      ¬ ReadsBack
        [⟨.gtin, "09506000134352".toList⟩,
          ⟨.lot, "A10B".toList⟩]
        (parseGs1Payload (fun _ => false)
          "010950600013435210A10B".toList) := by
    decide
  exact hCut hReads

/-
  The scanner undoes the label encoder on legible labels. Of
  the labels in which no element that the scanner does not
  know reads as one that it knows, these are all; and the
  links it undoes are the safe ones.
-/
theorem readsBack_iff_legible
    (refused : List Char → Bool)
    {input : Elements}
    {elements : List Element}
    (hPrepare : prepare input = .ok elements) :
    (∀ text, elementString input = .ok text →
      everyElement isQuiet elements = true →
        (ReadsBack elements (parseGs1Payload refused text) ↔
          everyElement isLegible elements = true)) ∧
    (∀ gtin lot serial, ⟨.gtin, gtin⟩ ∈ elements →
      ⟨.lot, lot⟩ ∈ elements → ⟨.serial, serial⟩ ∈ elements →
        (HasTriple gtin lot serial (parseGs1Payload refused
            (digitalLink gtin lot serial)) ↔
          isLinkSafe lot serial = true)) := by
  have hPrepared := Gs1128.prepared_of_prepare hPrepare
  constructor
  · intro text hText hQuiet
    rw [Gs1128.elementString_eq hPrepare] at hText
    rw [← Except.ok.inj hText]
    exact readsBack_textOf_iff hPrepared hQuiet
  · intro gtin lot serial hGtin hLot hSerial
    exact parseDigitalLink_iff
      (hPrepared.admits ⟨.gtin, gtin⟩ hGtin)
      (hPrepared.admits ⟨.lot, lot⟩ hLot)
      (hPrepared.admits ⟨.serial, serial⟩ hSerial)

/- A label with all that the scanner knows, and a count. -/
def fullLabel : Elements :=
  .items [item "10" "LOT-7", item " 21 " "S9", item "37" "24",
    item "01" " 09506000134352", item "17" "260115",
    item "13" "260108"]

/- The elements of the label, as they are printed. -/
def fullElements : List Element :=
  [⟨.gtin, "09506000134352".toList⟩,
    ⟨.expiry, "260115".toList⟩, ⟨.packDate, "260108".toList⟩,
    ⟨.lot, "LOT-7".toList⟩, ⟨.serial, "S9".toList⟩,
    ⟨.count, "24".toList⟩]

/- A legible label comes back, and so does its link. -/
theorem readsBack_fullLabel :
    ReadsBack fullElements (parseGs1Payload (fun _ => false)
        (textOf fullElements)) ∧
      HasTriple "09506000134352".toList "LOT-7".toList
        "S9".toList (parseGs1Payload (fun _ => false)
          (digitalLink "09506000134352".toList "LOT-7".toList
            "S9".toList)) := by
  have hPrepare : prepare fullLabel = .ok fullElements := by
    rfl
  have hText :
      elementString fullLabel = .ok (textOf fullElements) :=
    Gs1128.elementString_eq hPrepare
  have hBoth :=
    readsBack_iff_legible (fun _ => false) hPrepare
  constructor
  · exact (hBoth.1 (textOf fullElements) hText
      (by decide)).mpr (by decide)
  · exact (hBoth.2 _ _ _ (by decide) (by decide)
      (by decide)).mpr (by decide)

end QrDecoder

end RegEngine
