import RegEngine.Ingestion.Labels.Elements
import RegEngine.Library.Outcome

/-
  GS1-128 labels as they are printed: the widths of the bars,
  the ZPL commands and the PDF page
  (`ingestion/app/labels/gs1_128.py`).

  The dates and counts that the label accepts are made of the
  digits of `str.isdigit`, those of every script; an element
  list that is accepted is printed exactly when they are digits
  of ASCII.

  Main declarations:
    * `Gs1128.runs`
    * `Gs1128.toZpl`
    * `Gs1128.printable_iff`
-/

--------
-- Bars
--------

namespace RegEngine

open Code128 (Atom)

namespace Gs1128

/- `_PATTERN_BLOB`, a row of six digits for each symbol. -/
def patternRows : List Nat :=
  [212222, 222122, 222221, 121223, 121322, 131222, 122213,
    122312, 132212, 221213, 221312, 231212, 112232, 122132,
    122231, 113222, 123122, 123221, 223211, 221132, 221231,
    213212, 223112, 312131, 311222, 321122, 321221, 312212,
    322112, 322211, 212123, 212321, 232121, 111323, 131123,
    131321, 112313, 132113, 132311, 211313, 231113, 231311,
    112133, 112331, 132131, 113123, 113321, 133121, 313121,
    211331, 231131, 213113, 213311, 213131, 311123, 311321,
    331121, 312113, 312311, 332111, 314111, 221411, 431111,
    111224, 111422, 121124, 121421, 141122, 141221, 112214,
    112412, 122114, 122411, 142112, 142211, 241211, 221114,
    413111, 241112, 134111, 111242, 121142, 121241, 114212,
    124112, 124211, 411212, 421112, 421211, 212141, 214121,
    412121, 111143, 111341, 131141, 114113, 114311, 411113,
    411311, 113141, 114131, 311141, 411131, 211412, 211214,
    211232, 233111]

/- The widths of the bars and spaces of a row. -/
def widths (row : Nat) : List Nat :=
  [row / 100000, row / 10000 % 10, row / 1000 % 10,
    row / 100 % 10, row / 10 % 10, row % 10]

/-
  `_PATTERNS[codeword]`; a negative index counts from the end.
-/
def patternAt (codeword : Int) :
    Except LabelError (List Nat) :=
  let index :=
    if codeword < 0 then codeword + patternRows.length
    else codeword
  if index < 0 then
    .error .indexError
  else
    match patternRows[index.toNat]? with
    | some row => .ok (widths row)
    | none => .error .indexError

/- `_runs`. -/
def runs (codewords : List Int) :
    Except LabelError (List Nat) :=
  if codewords.getLast? ≠ some Code128.stop then
    .error (.gs1LabelError "Barcode is missing the stop symbol.")
  else do
    let symbols ← codewords.dropLast.mapM patternAt
    let last ← patternAt Code128.stop
    return symbols.flatten ++ last ++ [2]

/- A rejected input, a label error, or a line not in ASCII. -/
inductive PrintError where
  | input (error : InputError)
  | label (error : LabelError)
  | unicodeEncodeError
  deriving DecidableEq

/- `encode_gs1_128`. -/
def encodeGs1128 (input : Elements) :
    Except PrintError (List Int) := do
  let elements ← (prepare input).mapError .input
  (encodeAtoms (atoms elements)).mapError .label

/- `_lines`. -/
def lines (elements : List Element) : List (List Char) :=
  elements.map (fun element =>
    '(' :: (element.ai.text ++ ')' :: element.value))

--------
-- ZPL
--------

/- A number of dots as it is sent. -/
inductive Dots where
  | whole (value : Int)
  | other
  deriving DecidableEq

/- `_DEFAULT_WIDTH_DOTS`. -/
def defaultWidthDots : Dots :=
  .whole 812

/- `_DEFAULT_HEIGHT_DOTS`. -/
def defaultHeightDots : Dots :=
  .whole 1218

/- `_positive_dots`. -/
def positiveDots (name : String) :
    Dots → Except LabelError Nat
| .whole value =>
    if value ≤ 0 then
      .error (.gs1LabelError
        ("Label " ++ name ++ " must be a positive whole number."))
    else
      .ok value.toNat
| .other =>
    .error (.gs1LabelError
      ("Label " ++ name ++ " must be a positive whole number."))

/- The commands of the text lines, from `text_y` on. -/
def lineCommands : Nat → List (List Char) → List String
| _, [] => []
| textY, line :: rest =>
    ("^FO40," ++ toString textY ++ "^A0N,28,28^FD" ++
      String.ofList line ++ "^FS") ::
        lineCommands (textY + 36) rest

/- The commands of a label, once its symbol is encoded. -/
def zplCommands
    (width height : Nat)
    (widths : List Nat)
    (barcode : String)
    (text : List (List Char)) : String :=
  let modules := widths.sum + 20
  let usable := max 1 (width - 80)
  let module := max 1 (min 3 (usable / modules))
  let barHeight := max 60 (min (height / 5) 320)
  String.intercalate "\n"
    (["^XA", "^PW" ++ toString width, "^LL" ++ toString height,
        "^FO40,40^BY" ++ toString module ++ ",2," ++
          toString barHeight ++ "^BCN," ++ toString barHeight ++
            ",N,N,N,N^FD" ++ barcode ++ "^FS"] ++
      lineCommands (40 + barHeight + 28) text ++ ["^XZ"])

/- `to_zpl`. -/
def toZpl
    (input : Elements)
    (widthDots heightDots : Dots) :
    Except PrintError String := do
  let prepared ← (prepare input).mapError .input
  let width ← (positiveDots "width" widthDots).mapError .label
  let height ←
    (positiveDots "height" heightDots).mapError .label
  let codewords ←
    (encodeAtoms (atoms prepared)).mapError .label
  let widths ← (runs codewords).mapError .label
  let barcode ← (zplBarcode codewords).mapError .label
  return zplCommands width height widths barcode
    (lines prepared)

--------
-- PDF
--------

/- `line.encode("ascii").hex().upper()`. -/
def hexLine (line : List Char) : Except PrintError String :=
  if line.all (fun c => c.toNat < 128) then
    .ok (String.ofList (line.flatMap (fun c =>
      [(c.toNat / 16).digitChar.toUpper,
        (c.toNat % 16).digitChar.toUpper])))
  else
    .error .unicodeEncodeError

/-
  The operators that fill the bars; every second run is a bar.
  `number` is `_pdf_number`.
-/
def barOperators
    (number : Float → String)
    (module barY barHeight : Float) :
    Float → Bool → List Nat → List String
| _, _, [] => []
| x, bar, width :: rest =>
    let drawn := Float.ofNat width * module
    let later := barOperators number module barY barHeight
      (x + drawn) (!bar) rest
    if bar then
      (number x ++ " " ++ number barY ++ " " ++ number drawn ++
        " " ++ number barHeight ++ " re f") :: later
    else
      later

/- The operators that show the lines of text. -/
def textOperators
    (number : Float → String)
    (margin textY : Float) : List String → List String
| [] => []
| first :: rest =>
    ["1 0 0 1 " ++ number margin ++ " " ++ number textY ++ " Tm",
        "<" ++ first ++ "> Tj"] ++
      rest.flatMap (fun text =>
        ["0 -13 Td", "<" ++ text ++ "> Tj"])

/- `_pdf_stream`. -/
def pdfStream
    (number : Float → String)
    (codewords : List Int)
    (text : List (List Char)) : Except PrintError String := do
  let widths ← (runs codewords).mapError .label
  let hexTexts ← text.mapM hexLine
  let quiet : Float := 10
  let margin : Float := 14.0
  let total := Float.ofNat widths.sum + 2 * quiet
  let fitting := (288 - 2 * margin) / total
  let module := if fitting < 1.8 then fitting else 1.8
  let barcodeWidth := total * module
  let x := (288 - barcodeWidth) / 2 + quiet * module
  let barHeight : Float := 110.0
  let barY := 432 - 36.0 - barHeight
  return String.intercalate "\n"
    (["q", "0 0 0 rg"] ++
      barOperators number module barY barHeight x true widths ++
      ["Q", "BT", "/F1 10 Tf", "0 0 0 rg"] ++
      textOperators number margin (barY - 18.0) hexTexts ++
      ["ET"])

def pdfObjects (stream : String) : List String :=
  ["1 0 obj\n<< /Type /Catalog /Pages 2 0 R >>\nendobj\n",
    "2 0 obj\n<< /Type /Pages /Kids [3 0 R] /Count 1 >>\n" ++
      "endobj\n",
    "3 0 obj\n<< /Type /Page /Parent 2 0 R " ++
      "/MediaBox [0 0 288 432] /Contents 4 0 R " ++
      "/Resources << /Font << /F1 5 0 R >> >> >>\nendobj\n",
    "4 0 obj\n<< /Length " ++ toString stream.length ++
      " >>\nstream\n" ++ stream ++ "\nendstream\nendobj\n",
    "5 0 obj\n<< /Type /Font /Subtype /Type1 " ++
      "/BaseFont /Helvetica >>\nendobj\n"]

/- The place of every object, and of what follows them. -/
def pdfOffsets : Nat → List String → List Nat
| cursor, [] => [cursor]
| cursor, obj :: rest =>
    cursor :: pdfOffsets (cursor + obj.length) rest

/- `_pdf_document`, whose bytes are all ASCII. -/
def pdfDocument (stream : String) : String :=
  let header := "%PDF-1.4\n"
  let objects := pdfObjects stream
  let places := pdfOffsets header.length objects
  let size := toString (objects.length + 1)
  header ++ String.join objects ++ "xref\n0 " ++ size ++ "\n" ++
    "0000000000 65535 f \n" ++
    String.join (places.dropLast.map (fun place =>
      String.ofList (Python.pad 10 place) ++ " 00000 n \n")) ++
    "trailer\n<< /Size " ++ size ++
      " /Root 1 0 R >>\nstartxref\n" ++
    toString (places.getLast?.getD 0) ++ "\n%%EOF"

/- `to_pdf`. -/
def toPdf
    (number : Float → String)
    (input : Elements) : Except PrintError String := do
  let prepared ← (prepare input).mapError .input
  let codewords ←
    (encodeAtoms (atoms prepared)).mapError .label
  let stream ← pdfStream number codewords (lines prepared)
  return pdfDocument stream

--------
-- Symbols That Are Drawn
--------

open Code128 (Atom Subset)

variable {codeword : Int} {c : Char} {elements : List Element}
variable {ai : Ai}

/- A symbol value has its widths. -/
theorem exists_patternAt
    (hLow : 0 ≤ codeword)
    (hHigh : codeword ≤ 106) :
    ∃ symbol, patternAt codeword = .ok symbol := by
  have hLength : patternRows.length = 107 := rfl
  have hIdx : codeword.toNat < patternRows.length := by
    omega
  refine ⟨widths patternRows[codeword.toNat], ?_⟩
  simp only [patternAt]
  rw [if_neg (by omega : ¬ codeword < 0),
    if_neg (by omega : ¬ codeword < 0),
    List.getElem?_eq_getElem hIdx]

/- A greater codeword has none. -/
theorem patternAt_of_lt
    (hHigh : 106 < codeword) :
    patternAt codeword = .error .indexError := by
  have hLength : patternRows.length = 107 := rfl
  have hIdx : patternRows.length ≤ codeword.toNat := by
    omega
  simp only [patternAt]
  rw [if_neg (by omega : ¬ codeword < 0),
    if_neg (by omega : ¬ codeword < 0),
    List.getElem?_eq_none hIdx]

/- The widths of a symbol are missing in one way only. -/
theorem raisesOnly_patternAt
    (codeword : Int) :
    Outcome.RaisesOnly (· = LabelError.indexError)
      (patternAt codeword) := by
  intro raised hRaised
  simp only [patternAt] at hRaised
  generalize (if codeword < 0 then _ else _) = index at hRaised
  split at hRaised
  · exact (Except.error.inj hRaised).symm
  · split at hRaised
    · cases hRaised
    · exact (Except.error.inj hRaised).symm

/- The last codeword of a symbol is the stop. -/
theorem getLast?_symbol
    (data : List Int) :
    (symbol data).getLast? = some Code128.stop := by
  rw [symbol_eq, List.getLast?_concat]

/- The codewords of a symbol are symbol values. -/
theorem symbol_bounds
    {data : List Int}
    (hData : ∀ value ∈ data, 0 ≤ value ∧ value ≤ 102) :
    ∀ value ∈ symbol data, 0 ≤ value ∧ value ≤ 106 := by
  have hCheck :
      0 ≤ Code128.checkSymbol
          (Code128.startC :: Code128.fnc1 :: data) ∧
        Code128.checkSymbol
          (Code128.startC :: Code128.fnc1 :: data) < 103 :=
    ⟨Int.emod_nonneg _ (by decide),
      Int.emod_lt_of_pos _ (by decide)⟩
  intro value hValue
  simp only [symbol, List.cons_append, List.mem_cons,
    List.mem_append, List.not_mem_nil, or_false] at hValue
  rcases hValue with rfl | rfl | hMem | rfl | rfl
  · decide
  · decide
  · have hBounds := hData value hMem
    omega
  · omega
  · decide

/- A symbol of symbol values is drawn. -/
theorem exists_runs_symbol
    {data : List Int}
    (hData : ∀ value ∈ data, 0 ≤ value ∧ value ≤ 102) :
    ∃ drawn, runs (symbol data) = .ok drawn := by
  have hParts : ∃ parts,
      (symbol data).dropLast.mapM patternAt = .ok parts := by
    apply Outcome.exists_mapM_eq_ok
    intro value hMem
    have hBounds := symbol_bounds hData value
      (List.mem_of_mem_dropLast hMem)
    exact exists_patternAt hBounds.1 hBounds.2
  rcases hParts with ⟨parts, hParts⟩
  have hStop : ∃ last, patternAt Code128.stop = .ok last :=
    exists_patternAt (by decide) (by decide)
  rcases hStop with ⟨last, hLast⟩
  refine ⟨parts.flatten ++ last ++ [2], ?_⟩
  rw [runs, if_neg (by simp [getLast?_symbol]), hParts, hLast]
  rfl

/- A symbol with a greater codeword among its data is not. -/
theorem runs_symbol_of_lt
    {data : List Int}
    (hMem : codeword ∈ data)
    (hHigh : 106 < codeword) :
    runs (symbol data) = .error .indexError := by
  have hIn : codeword ∈ (symbol data).dropLast := by
    rw [symbol_eq, List.dropLast_concat]
    simp [hMem]
  rcases Outcome.exists_mapM_eq_error
    ⟨codeword, hIn, _, patternAt_of_lt hHigh⟩ with
    ⟨raised, hRaised⟩
  have hOnly := Outcome.raisesOnly_mapM raisesOnly_patternAt
    (symbol data).dropLast raised hRaised
  rw [runs, if_neg (by simp [getLast?_symbol]), hRaised, hOnly]
  rfl

/- A character that is no digit has its own codeword. -/
theorem Encodes.charValue_mem
    {mode : Subset}
    {atoms : List Atom}
    {data : List Int}
    (hEncodes : Encodes mode atoms data)
    (hMem : .char c ∈ atoms)
    (hDigit : c.isDigit = false) :
    charValue c ∈ data := by
  induction hEncodes with
  | nil mode => simp at hMem
  | sep mode rest ih =>
    rcases List.mem_cons.mp hMem with hHere | hLater
    · cases hHere
    · exact List.mem_cons_of_mem _ (ih hLater)
  | pair hFirst hSecond rest ih =>
    rcases List.mem_cons.mp hMem with hHere | hNext
    · rw [← (Atom.char.inj hHere), hDigit] at hFirst
      cases hFirst
    · rcases List.mem_cons.mp hNext with hHere | hLater
      · rw [← (Atom.char.inj hHere), hDigit] at hSecond
        cases hSecond
      · exact List.mem_cons_of_mem _ (ih hLater)
  | char rest ih =>
    rcases List.mem_cons.mp hMem with hHere | hLater
    · rw [Atom.char.inj hHere]
      exact List.mem_cons_self
    · exact List.mem_cons_of_mem _ (ih hLater)
  | toB rest ih => exact List.mem_cons_of_mem _ (ih hMem)
  | toC rest ih => exact List.mem_cons_of_mem _ (ih hMem)

/- The atoms of elements are separators and their characters. -/
theorem mem_atomsLoop
    {variableCount seen : Nat}
    {c : Char} :
    Atom.char c ∈ atomsLoop variableCount seen elements ↔
      ∃ element ∈ elements,
        c ∈ element.ai.text ++ element.value := by
  induction elements generalizing seen with
  | nil => simp [atomsLoop]
  | cons element rest ih =>
    have hOwn : ∀ text : List Char,
        Atom.char c ∈ text.map Atom.char ↔ c ∈ text := by
      intro text
      simp
    rw [atomsLoop, List.mem_append, hOwn]
    simp only [List.exists_mem_cons_iff]
    apply or_congr Iff.rfl
    split
    · rw [List.mem_append, ih]
      apply or_iff_right
      split <;> simp
    · exact ih

/- The characters of an application identifier are digits. -/
theorem isDigit_of_mem_text
    (hMem : c ∈ ai.text) :
    c.isDigit = true := by
  have hAll : ai.text.all Char.isDigit = true := by
    cases ai <;> decide
  exact List.all_eq_true.mp hAll c hMem

--------
-- Accepted Lists
--------

open Gs1Identifiers (Raw)

/- The kinds that `str.isdigit` checks. -/
def Kind.isNumeral : Kind → Bool
| .date => true
| .count => true
| _ => false

/-
  The dates and counts of an element list have no digits but
  those of ASCII.
-/
def AsciiDigits : Elements → Prop
| .items items =>
    ∀ aiRaw raw ai, Item.pair aiRaw (.text raw) ∈ items →
      canonicalAi aiRaw = .ok ai →
        ai.spec.kind.isNumeral = true →
          ∀ c ∈ Chars.strip raw, c.toNat < 128
| _ => True

/- What `_prepare` returns for an element list. -/
theorem mem_prepareLoop
    {items : List Item}
    {seen : List Ai}
    {fixed flexible elements : List Element}
    (hLoop :
      prepareLoop seen fixed flexible items = .ok elements)
    (element : Element) :
    element ∈ elements ↔
      element ∈ fixed ++ flexible ∨
        ∃ aiRaw valueRaw, .pair aiRaw valueRaw ∈ items ∧
          canonicalAi aiRaw = .ok element.ai ∧
            cleanValue element.ai valueRaw =
              .ok element.value := by
  induction items generalizing seen fixed flexible with
  | nil =>
    rw [← Except.ok.inj hLoop]
    simp
  | cons item rest ih =>
    cases item with
    | malformed => cases hLoop
    | pair aiRaw valueRaw =>
      rw [prepareLoop] at hLoop
      rcases Outcome.bind_eq_ok.mp hLoop with
        ⟨ai, hAi, hLoop⟩
      split at hLoop
      · cases hLoop
      rcases Outcome.bind_eq_ok.mp hLoop with
        ⟨value, hValue, hLoop⟩
      -- the element of the first item, wherever it is put
      have hFirst :
          (∃ aiRaw' valueRaw',
            Item.pair aiRaw' valueRaw' = .pair aiRaw valueRaw ∧
              canonicalAi aiRaw' = .ok element.ai ∧
                cleanValue element.ai valueRaw' =
                  .ok element.value) ↔
            element = ⟨ai, value⟩ := by
        constructor
        · rintro ⟨_, _, hPair, hAi', hValue'⟩
          rw [Item.pair.injEq] at hPair
          rcases hPair with ⟨rfl, rfl⟩
          rw [hAi, Except.ok.injEq] at hAi'
          rw [← hAi', hValue, Except.ok.injEq] at hValue'
          cases element
          rw [hAi', hValue']
        · rintro rfl
          exact ⟨aiRaw, valueRaw, rfl, hAi, hValue⟩
      have hSplit :
          (∃ aiRaw' valueRaw',
            Item.pair aiRaw' valueRaw' ∈
                Item.pair aiRaw valueRaw :: rest ∧
              canonicalAi aiRaw' = .ok element.ai ∧
                cleanValue element.ai valueRaw' =
                  .ok element.value) ↔
            element = ⟨ai, value⟩ ∨
              ∃ aiRaw' valueRaw',
                Item.pair aiRaw' valueRaw' ∈ rest ∧
                  canonicalAi aiRaw' = .ok element.ai ∧
                    cleanValue element.ai valueRaw' =
                      .ok element.value := by
        rw [← hFirst]
        simp only [List.mem_cons, or_and_right, exists_or]
      rw [hSplit, ← or_assoc]
      split at hLoop
      · rw [ih hLoop]
        simp only [List.mem_append, List.mem_singleton,
          or_assoc]
      · rw [ih hLoop]
        apply or_congr _ Iff.rfl
        simp only [List.mem_append, List.mem_singleton]
        tauto

/- Every item of a list that is accepted is an element. -/
theorem exists_element_of_prepareLoop
    {items : List Item}
    {seen : List Ai}
    {fixed flexible elements : List Element}
    (hLoop :
      prepareLoop seen fixed flexible items = .ok elements)
    {aiRaw valueRaw : Raw}
    (hItem : .pair aiRaw valueRaw ∈ items) :
    ∃ element ∈ elements,
      canonicalAi aiRaw = .ok element.ai ∧
        cleanValue element.ai valueRaw = .ok element.value := by
  have hCleaned : ∃ ai value, canonicalAi aiRaw = .ok ai ∧
      cleanValue ai valueRaw = .ok value := by
    induction items generalizing seen fixed flexible with
    | nil => cases hItem
    | cons item rest ih =>
      cases item with
      | malformed => cases hLoop
      | pair aiRaw' valueRaw' =>
        rw [prepareLoop] at hLoop
        rcases Outcome.bind_eq_ok.mp hLoop with
          ⟨ai, hAi, hLoop⟩
        split at hLoop
        · cases hLoop
        rcases Outcome.bind_eq_ok.mp hLoop with
          ⟨value, hValue, hLoop⟩
        rcases List.mem_cons.mp hItem with hHere | hLater
        · rw [Item.pair.injEq] at hHere
          rw [hHere.1, hHere.2]
          exact ⟨ai, value, hAi, hValue⟩
        · split at hLoop
          · exact ih hLoop hLater
          · exact ih hLoop hLater
  rcases hCleaned with ⟨ai, value, hAi, hValue⟩
  exact ⟨⟨ai, value⟩, (mem_prepareLoop hLoop _).mpr
    (Or.inr ⟨aiRaw, valueRaw, hItem, hAi, hValue⟩), hAi,
    hValue⟩

/- A date or a count is kept as it is sent, without its ends. -/
theorem cleanValue_numeral
    (hNumeral : ai.spec.kind.isNumeral = true)
    {valueRaw : Raw}
    {value : List Char}
    (hClean : cleanValue ai valueRaw = .ok value) :
    ∃ raw, valueRaw = .text raw ∧ value = Chars.strip raw := by
  simp only [cleanValue] at hClean
  split at hClean
  · rename_i kind hKind
    rw [hKind] at hNumeral
    cases hNumeral
  · rename_i raw _
    refine ⟨raw, rfl, ?_⟩
    split at hClean
    · cases hClean
    · cases hKind : ai.spec.kind with
      | identifier kind =>
        rw [hKind] at hNumeral
        cases hNumeral
      | text =>
        rw [hKind] at hNumeral
        cases hNumeral
      | date =>
        simp only [hKind, checkValue] at hClean
        split at hClean
        · cases hClean
        · cases hClean
        · exact (Except.ok.inj hClean).symm
      | count =>
        simp only [hKind, checkValue] at hClean
        split at hClean
        · cases hClean
        · exact (Except.ok.inj hClean).symm
  · cases hClean

/- Accepted identifiers and texts are graphic ASCII. -/
theorem Admits.graphic
    {value : List Char}
    (hAdmits : Admits ai value)
    (hKind : ai.spec.kind.isNumeral = false)
    (hMem : c ∈ value) :
    32 ≤ c.toNat ∧ c.toNat ≤ 127 := by
  cases hEq : ai.spec.kind with
  | identifier kind =>
    simp only [Admits, hEq, List.all_eq_true] at hAdmits
    have hCode := code_of_isDigit (hAdmits.1 c hMem)
    omega
  | text =>
    simp only [Admits, hEq] at hAdmits
    have hCode := code_of_mem_cset82 (hAdmits.1 c hMem)
    omega
  | date =>
    rw [hEq] at hKind
    cases hKind
  | count =>
    rw [hEq] at hKind
    cases hKind

/- Accepted dates and counts are digits of some script. -/
theorem Admits.numeral
    {value : List Char}
    (hAdmits : Admits ai value)
    (hKind : ai.spec.kind.isNumeral = true)
    (hMem : c ∈ value) :
    Chars.isDigit c = true := by
  cases hEq : ai.spec.kind with
  | identifier kind =>
    rw [hEq] at hKind
    cases hKind
  | text =>
    rw [hEq] at hKind
    cases hKind
  | date =>
    simp only [Admits, hEq, List.all_eq_true] at hAdmits
    exact hAdmits.2.1 c hMem
  | count =>
    simp only [Admits, hEq, List.all_eq_true] at hAdmits
    exact hAdmits.1 c hMem

variable {input : Elements}

/-
  An accepted list has digits of ASCII exactly when all its
  values can be encoded.
-/
theorem asciiDigits_iff
    (hPrepare : prepare input = .ok elements) :
    AsciiDigits input ↔
      ∀ element ∈ elements, ∀ c ∈ element.value,
        32 ≤ c.toNat ∧ c.toNat ≤ 127 := by
  have hAdmits := (prepared_of_prepare hPrepare).admits
  cases input with
  | nothing => cases hPrepare
  | notIterable => cases hPrepare
  | items items =>
    have hLoop :
        prepareLoop [] [] [] items = .ok elements := by
      cases items with
      | nil => cases hPrepare
      | cons item rest => exact hPrepare
    have hMem := mem_prepareLoop hLoop
    simp only [List.append_nil, List.not_mem_nil,
      false_or] at hMem
    constructor
    · intro hAscii element hElement c hChar
      cases hKind : element.ai.spec.kind.isNumeral with
      | false =>
        exact (hAdmits element hElement).graphic hKind hChar
      | true =>
        have hDigit :=
          (hAdmits element hElement).numeral hKind hChar
        have hLow : 48 ≤ c.toNat :=
          Chars.le_of_isDigitCode hDigit
        rcases (hMem element).mp hElement with
          ⟨aiRaw, valueRaw, hItem, hAi, hClean⟩
        rcases cleanValue_numeral hKind hClean with
          ⟨raw, rfl, hValue⟩
        rw [hValue] at hChar
        have hHigh := hAscii aiRaw raw element.ai hItem hAi
          hKind c hChar
        omega
    · intro hGraphic aiRaw raw ai hItem hAi hKind c hChar
      rcases exists_element_of_prepareLoop hLoop hItem with
        ⟨element, hElement, hAi', hClean⟩
      rw [hAi, Except.ok.injEq] at hAi'
      rw [hAi'] at hKind
      rcases cleanValue_numeral hKind hClean with
        ⟨raw', hRaw, hValue⟩
      rw [Raw.text.injEq] at hRaw
      rw [hRaw, ← hValue] at hChar
      have hRange := hGraphic element hElement c hChar
      omega

--------
-- What Is Printed
--------

/-
  An accepted list can be printed: its values can be encoded,
  its codewords are symbol values, and the PDF page and the ZPL
  label of any size are written.
-/
structure Printable
    (number : Float → String)
    (input : Elements)
    (elements : List Element) : Prop where
  characters :
    ∀ element ∈ elements, ∀ c ∈ element.value,
      32 ≤ c.toNat ∧ c.toNat ≤ 127
  codewords :
    ∃ codewords, encodeGs1128 input = .ok codewords ∧
      ∀ value ∈ codewords, 0 ≤ value ∧ value ≤ 106
  pdf : ∃ document, toPdf number input = .ok document
  zpl :
    ∀ width height : Int, 0 < width → 0 < height →
      ∃ commands,
        toZpl input (.whole width) (.whole height) =
          .ok commands

/- The atoms of graphic values can be encoded. -/
theorem isEncodable_atoms
    (hGraphic : ∀ element ∈ elements, ∀ c ∈ element.value,
      32 ≤ c.toNat ∧ c.toNat ≤ 127) :
    IsEncodable (atoms elements) := by
  intro atom hAtom
  cases atom with
  | sep => rfl
  | char c =>
    rcases mem_atomsLoop.mp hAtom with
      ⟨element, hElement, hChar⟩
    have hRange : 32 ≤ c.toNat ∧ c.toNat ≤ 127 := by
      rcases List.mem_append.mp hChar with hAi | hValue
      · have hCode := toNat_of_isDigit (isDigit_of_mem_text hAi)
        omega
      · exact hGraphic element hElement c hValue
    simpa [isEncodable] using hRange

/- The lines of graphic values are ASCII. -/
theorem exists_hexLines
    (hGraphic : ∀ element ∈ elements, ∀ c ∈ element.value,
      32 ≤ c.toNat ∧ c.toNat ≤ 127) :
    ∃ texts, (lines elements).mapM hexLine = .ok texts := by
  apply Outcome.exists_mapM_eq_ok
  intro line hLine
  rcases List.mem_map.mp hLine with ⟨element, hElement, rfl⟩
  refine ⟨_, if_pos ?_⟩
  rw [List.all_eq_true]
  intro c hChar
  rw [decide_eq_true_eq]
  rcases List.mem_cons.mp hChar with rfl | hChar
  · decide
  rcases List.mem_append.mp hChar with hAi | hChar
  · have hCode := toNat_of_isDigit (isDigit_of_mem_text hAi)
    omega
  rcases List.mem_cons.mp hChar with rfl | hValue
  · decide
  · have hRange := hGraphic element hElement c hValue
    omega

/- A positive number of dots is taken. -/
theorem positiveDots_of_pos
    (name : String)
    {value : Int}
    (hPos : 0 < value) :
    positiveDots name (.whole value) = .ok value.toNat :=
  if_neg (by omega)

/-
  An accepted element list is printed if and only if its dates
  and counts have no digits but those of ASCII.
-/
theorem printable_iff
    (number : Float → String)
    {input : Elements}
    {elements : List Element}
    (hPrepare : prepare input = .ok elements) :
    Printable number input elements ↔ AsciiDigits input := by
  rw [asciiDigits_iff hPrepare]
  constructor
  · intro hPrintable
    exact hPrintable.characters
  · intro hGraphic
    rcases encodeAtoms_returns (atoms elements) with
      ⟨data, hEncode, hData⟩
    have hBounds := hData.bounds (isEncodable_atoms hGraphic)
    rcases exists_runs_symbol hBounds with ⟨drawn, hRuns⟩
    rcases exists_hexLines hGraphic with ⟨texts, hTexts⟩
    rcases hData.readsBack (isEncodable_atoms hGraphic) with
      ⟨text, hPieces, -, -⟩
    have hZpl := zplBarcode_symbol hPieces
    refine ⟨hGraphic, ⟨symbol data, ?_,
      symbol_bounds hBounds⟩, ?_, ?_⟩
    · rw [encodeGs1128, hPrepare]
      simp only [Except.mapError, bind, Except.bind, hEncode]
    · rw [toPdf, hPrepare]
      simp only [Except.mapError, bind, Except.bind, hEncode,
        pdfStream, hRuns, hTexts, pure, Except.pure]
      exact ⟨_, rfl⟩
    · intro width height hWidth hHeight
      rw [toZpl, hPrepare, positiveDots_of_pos _ hWidth,
        positiveDots_of_pos _ hHeight]
      simp only [Except.mapError, bind, Except.bind, hEncode,
        hRuns, hZpl, pure, Except.pure]
      exact ⟨_, rfl⟩

/-
  A list that is accepted with another digit ends in an index
  error, on the page and on the label.
-/
theorem indexError_of_not_asciiDigits
    (number : Float → String)
    (hPrepare : prepare input = .ok elements)
    (hDigits : ¬ AsciiDigits input) :
    toPdf number input = .error (.label .indexError) ∧
      ∀ width height : Int, 0 < width → 0 < height →
        toZpl input (.whole width) (.whole height) =
          .error (.label .indexError) := by
  rw [asciiDigits_iff hPrepare] at hDigits
  push Not at hDigits
  rcases hDigits with ⟨element, hElement, c, hChar, hWide⟩
  have hAdmits := (prepared_of_prepare hPrepare).admits element
    hElement
  have hHigh : 178 ≤ c.toNat := by
    cases hKind : element.ai.spec.kind.isNumeral with
    | false =>
      have hRange := hAdmits.graphic hKind hChar
      omega
    | true =>
      have hDigit := hAdmits.numeral hKind hChar
      have hLow : 48 ≤ c.toNat :=
        Chars.le_of_isDigitCode hDigit
      rcases Chars.ascii_or_le_of_isDigitCode hDigit with
        hAscii | hHigh
      · change c.toNat ≤ 57 at hAscii
        omega
      · exact hHigh
  have hPlain : c.isDigit = false := by
    rw [Bool.eq_false_iff]
    intro hDigit
    have hCode := toNat_of_isDigit hDigit
    omega
  have hAtom : Atom.char c ∈ atoms elements :=
    mem_atomsLoop.mpr
      ⟨element, hElement, List.mem_append_right _ hChar⟩
  rcases encodeAtoms_returns (atoms elements) with
    ⟨data, hEncode, hData⟩
  have hRuns := runs_symbol_of_lt
    (hData.charValue_mem hAtom hPlain) (by
      unfold charValue
      omega)
  refine ⟨?_, ?_⟩
  · rw [toPdf, hPrepare]
    simp only [Except.mapError, bind, Except.bind, hEncode,
      pdfStream, hRuns]
  · intro width height hWidth hHeight
    rw [toZpl, hPrepare, positiveDots_of_pos _ hWidth,
      positiveDots_of_pos _ hHeight]
    simp only [Except.mapError, bind, Except.bind, hEncode,
      hRuns]

/- A count of two in a superscript digit. -/
def superscriptCount : Elements :=
  .items [.pair (.text ['3', '7']) (.text ['²'])]

/- It is accepted, and no page can be drawn of it. -/
theorem not_printable_superscriptCount :
    ∃ elements, prepare superscriptCount = .ok elements ∧
      ∀ number : Float → String,
        ¬ Printable number superscriptCount elements ∧
          toPdf number superscriptCount =
            .error (.label .indexError) := by
  have hPrepare : prepare superscriptCount =
      .ok [⟨.count, ['²']⟩] := by
    decide
  have hDigits : ¬ AsciiDigits superscriptCount := by
    intro hAscii
    exact absurd
      (hAscii (.text ['3', '7']) ['²'] .count (by decide)
        (by decide) rfl '²' (by decide)) (by decide)
  refine ⟨_, hPrepare, ?_⟩
  intro number
  refine ⟨?_, ?_⟩
  · intro hPrintable
    have hRange := hPrintable.characters ⟨.count, ['²']⟩
      (by simp) '²' (by simp)
    exact absurd hRange (by decide)
  · exact (indexError_of_not_asciiDigits number hPrepare
      hDigits).1

/- A count of two in an ASCII digit is printed. -/
theorem printable_iff_count :
    Printable (fun _ => "0.00")
        (.items [.pair (.text ['3', '7']) (.text ['2'])])
        [⟨.count, ['2']⟩] ↔
      AsciiDigits
        (.items [.pair (.text ['3', '7']) (.text ['2'])]) :=
  printable_iff _ (by decide)

end Gs1128

end RegEngine
