import RegEngine.Library.Code128

/-
  GS1-128 label symbols as Code 128 codewords and as ZPL field
  data (`ingestion/app/labels/gs1_128.py`).

  Main declarations:
    * `Gs1128.encodeAtoms`
    * `Gs1128.zplBarcode`
    * `Gs1128.encodeAtoms_roundTrip`
-/

--------
-- The Encoder
--------

namespace RegEngine

open Code128 (Atom Subset)

namespace Gs1128

/- `Gs1LabelError` with its message, and an index error. -/
inductive LabelError where
  | gs1LabelError (message : String)
  | indexError
  deriving DecidableEq

/-
  `_digit_run`: the digits ahead, and whether the end or a
  separator follows them.
-/
def digitRun : List Atom → Nat × Bool
| [] => (0, true)
| .sep :: _ => (0, true)
| .char c :: rest =>
    if c.isDigit then
      ((digitRun rest).1 + 1, (digitRun rest).2)
    else
      (0, false)

/- `_switch_to_c`. -/
def switchToC (atoms : List Atom) : Bool :=
  let needed := if (digitRun atoms).2 then 4 else 6
  needed ≤ (digitRun atoms).1 && (digitRun atoms).1 % 2 == 0

/- `int(token)` on a digit. -/
def digitValue (c : Char) : Int :=
  ((c.toNat - 48 : Nat) : Int)

/- `ord(token) - 32`. -/
def charValue (c : Char) : Int :=
  (c.toNat : Int) - 32

/-
  The loop of `_encode_atoms` on the atoms from `index` on.
  The number is how many codewords may still be added before
  their count is above the ceiling.
-/
def encodeLoop :
    Nat → Subset → List Atom → Except LabelError (List Int)
| _, _, [] => .ok []
| 0, _, _ :: _ =>
    .error (.gs1LabelError "Barcode could not be encoded.")
| room + 1, .c, token :: rest =>
    match token, rest with
    | .sep, _ =>
        (encodeLoop room .c rest).map (Code128.fnc1 :: ·)
    | .char first, .char second :: later =>
        if first.isDigit ∧ second.isDigit then
          (encodeLoop room .c later).map
            ((digitValue first * 10 + digitValue second) :: ·)
        else
          (encodeLoop room .b (token :: rest)).map
            (Code128.codeB :: ·)
    | .char _, _ =>
        (encodeLoop room .b (token :: rest)).map
          (Code128.codeB :: ·)
| room + 1, _, token :: rest =>
    if switchToC (token :: rest) then
      (encodeLoop room .c (token :: rest)).map
        (Code128.codeC :: ·)
    else
      match token with
      | .sep =>
          (encodeLoop room .b rest).map (Code128.fnc1 :: ·)
      | .char c =>
          (encodeLoop room .b rest).map (charValue c :: ·)

/- The total of the codewords, added up in a loop. -/
def checkTotal (codewords : List Int) : Int :=
  match codewords with
  | [] => 0
  | first :: rest =>
      (rest.zipIdx 1).foldl (fun total entry =>
        total + (entry.2 : Int) * entry.1) first

/-
  `_encode_atoms`. The ceiling is `limit * 2 + 4`, and two
  codewords stand before the loop.
-/
def encodeAtoms (atoms : List Atom) :
    Except LabelError (List Int) := do
  let ceiling := atoms.length * 2 + 4
  let data ← encodeLoop (ceiling + 1 - 2) .c atoms
  let codewords := Code128.startC :: Code128.fnc1 :: data
  return codewords ++ [checkTotal codewords % 103, Code128.stop]

--------
-- The ZPL Field
--------

/- The error of a value outside its subset. -/
def notEncodable : LabelError :=
  .gs1LabelError "Barcode subset is not encodable in ZPL."

/- `f"{codeword:02d}"` for values below one hundred. -/
def twoDigits (codeword : Int) : List Char :=
  [Char.ofNat (48 + (codeword / 10).toNat),
    Char.ofNat (48 + (codeword % 10).toNat)]

/- The loop of `_zpl_barcode`. -/
def zplPieces :
    Subset → List Int → Except LabelError (List Char)
| _, [] => .ok []
| mode, codeword :: rest =>
    if mode = .c ∧ codeword = Code128.codeB then
      (zplPieces .b rest).map (['>', '6'] ++ ·)
    else if mode ≠ .c ∧ codeword = Code128.codeC then
      (zplPieces .c rest).map (['>', '5'] ++ ·)
    else if codeword = Code128.codeA then
      (zplPieces .a rest).map (['>', '7'] ++ ·)
    else if codeword = Code128.fnc1 then
      (zplPieces mode rest).map (['>', '8'] ++ ·)
    else
      match mode with
      | .c =>
          if 0 ≤ codeword ∧ codeword ≤ 99 then
            (zplPieces .c rest).map (twoDigits codeword ++ ·)
          else
            .error notEncodable
      | .b =>
          if 0 ≤ codeword ∧ codeword ≤ 95 then
            let character := Char.ofNat (codeword + 32).toNat
            (zplPieces .b rest).map
              ((if character = '>' then ['>', '0']
                else [character]) ++ ·)
          else
            .error notEncodable
      | .a => .error notEncodable

/- `_zpl_barcode`. -/
def zplBarcode (codewords : List Int) :
    Except LabelError String :=
  match codewords with
  | [] => .error .indexError
  | [first] =>
      if first ≠ Code128.startC then
        .error (.gs1LabelError "Barcode symbol is incomplete.")
      else
        .error .indexError
  | first :: second :: _ =>
      if first ≠ Code128.startC ∨ second ≠ Code128.fnc1 ∨
          codewords.getLast? ≠ some Code128.stop then
        .error (.gs1LabelError "Barcode symbol is incomplete.")
      else do
        let pieces ←
          zplPieces .c ((codewords.dropLast.dropLast).drop 2)
        return String.ofList ([ '>', ';', '>', '8'] ++ pieces)

--------
-- Encodings
--------

/-
  The codewords that stand for atoms from a subset on: what
  the encoder may emit, whichever switches it chooses.
-/
inductive Encodes : Subset → List Atom → List Int → Prop where
  | nil (mode : Subset) : Encodes mode [] []
  | sep (mode : Subset) {atoms : List Atom} {data : List Int}
      (rest : Encodes mode atoms data) :
      Encodes mode (.sep :: atoms) (Code128.fnc1 :: data)
  | pair {first second : Char} {atoms : List Atom}
      {data : List Int}
      (hFirst : first.isDigit)
      (hSecond : second.isDigit)
      (rest : Encodes .c atoms data) :
      Encodes .c (.char first :: .char second :: atoms)
        ((digitValue first * 10 + digitValue second) :: data)
  | char {c : Char} {atoms : List Atom} {data : List Int}
      (rest : Encodes .b atoms data) :
      Encodes .b (.char c :: atoms) (charValue c :: data)
  | toB {atoms : List Atom} {data : List Int}
      (rest : Encodes .b atoms data) :
      Encodes .c atoms (Code128.codeB :: data)
  | toC {atoms : List Atom} {data : List Int}
      (rest : Encodes .c atoms data) :
      Encodes .b atoms (Code128.codeC :: data)

/- Atoms that open with a pair of digits. -/
def OpensWithPair (atoms : List Atom) : Prop :=
  ∃ first second later,
    atoms = .char first :: .char second :: later ∧
      first.isDigit = true ∧ second.isDigit = true

/- A switch to subset C has a pair of digits ahead. -/
theorem pair_of_switchToC
    {atoms : List Atom}
    (hSwitch : switchToC atoms = true) :
    OpensWithPair atoms := by
  have hCount : 2 ≤ (digitRun atoms).1 := by
    simp only [switchToC, Bool.and_eq_true,
      decide_eq_true_eq] at hSwitch
    have hNeeded := hSwitch.1
    split at hNeeded <;> omega
  match atoms with
  | [] => simp [digitRun] at hCount
  | .sep :: rest => simp [digitRun] at hCount
  | .char first :: rest =>
      by_cases hFirst : first.isDigit = true
      · rw [digitRun, if_pos hFirst] at hCount
        match rest with
        | [] => simp [digitRun] at hCount
        | .sep :: later => simp [digitRun] at hCount
        | .char second :: later =>
            by_cases hSecond : second.isDigit = true
            · exact ⟨first, second, later, rfl, hFirst, hSecond⟩
            · simp [digitRun, hSecond] at hCount
      · simp [digitRun, hFirst] at hCount

/- The loop returns an encoding of the atoms. -/
def Returns
    (room : Nat)
    (mode : Subset)
    (atoms : List Atom) : Prop :=
  ∃ data, encodeLoop room mode atoms = .ok data ∧
    Encodes mode atoms data

theorem Returns.pair
    {room : Nat}
    {first second : Char}
    {later : List Atom}
    (hFirst : first.isDigit = true)
    (hSecond : second.isDigit = true)
    (hLater : Returns room .c later) :
    Returns (room + 1) .c
      (.char first :: .char second :: later) := by
  rcases hLater with ⟨data, hLoop, hData⟩
  refine ⟨_, ?_, .pair hFirst hSecond hData⟩
  change (if _ ∧ _ then _ else _) = _
  rw [if_pos ⟨hFirst, hSecond⟩, hLoop]
  rfl

theorem Returns.toB
    {room : Nat}
    {c : Char}
    {rest : List Atom}
    (hPair : ¬ OpensWithPair (.char c :: rest))
    (hB : Returns room .b (.char c :: rest)) :
    Returns (room + 1) .c (.char c :: rest) := by
  rcases hB with ⟨data, hLoop, hData⟩
  refine ⟨Code128.codeB :: data, ?_, .toB hData⟩
  match rest with
  | [] => exact congrArg (Except.map _) hLoop
  | .sep :: later => exact congrArg (Except.map _) hLoop
  | .char second :: later =>
      have hDigits :
          ¬ (c.isDigit = true ∧ second.isDigit = true) :=
        fun h => hPair ⟨c, second, later, rfl, h.1, h.2⟩
      change (if _ ∧ _ then _ else _) = _
      rw [if_neg hDigits, hLoop]
      rfl

theorem Returns.toC
    {room : Nat}
    {token : Atom}
    {rest : List Atom}
    (hSwitch : switchToC (token :: rest) = true)
    (hC : Returns room .c (token :: rest)) :
    Returns (room + 1) .b (token :: rest) := by
  rcases hC with ⟨data, hLoop, hData⟩
  refine ⟨_, ?_, .toC hData⟩
  change (if _ then _ else _) = _
  rw [if_pos hSwitch, hLoop]
  rfl

theorem Returns.char
    {room : Nat}
    {c : Char}
    {rest : List Atom}
    (hSwitch : ¬ switchToC (.char c :: rest) = true)
    (hRest : Returns room .b rest) :
    Returns (room + 1) .b (.char c :: rest) := by
  rcases hRest with ⟨data, hLoop, hData⟩
  refine ⟨_, ?_, .char hData⟩
  change (if _ then _ else _) = _
  rw [if_neg hSwitch, hLoop]
  rfl

theorem Returns.sep
    {room : Nat}
    {rest : List Atom}
    (mode : Subset)
    (hMode : mode ≠ .a)
    (hRest : Returns room mode rest) :
    Returns (room + 1) mode (.sep :: rest) := by
  rcases hRest with ⟨data, hLoop, hData⟩
  refine ⟨_, ?_, .sep mode hData⟩
  have hSwitch : ¬ switchToC (.sep :: rest) = true := by
    simp [switchToC, digitRun]
  cases mode with
  | a => exact absurd rfl hMode
  | b =>
      change (if _ then _ else _) = _
      rw [if_neg hSwitch, hLoop]
      rfl
  | c => exact congrArg (Except.map _) hLoop

/-
  The loop never reaches the ceiling: each switch is followed
  by a codeword that takes an atom.
-/
theorem encodeLoop_returns
    (n : Nat) :
    ∀ atoms : List Atom, atoms.length = n →
      ∀ room, 2 * n ≤ room →
        Returns room .b atoms ∧ Returns room .c atoms := by
  induction n using Nat.strongRecOn with
  | ind n ih =>
      intro atoms hLength room hRoom
      match atoms with
      | [] =>
          exact ⟨⟨[], by rw [encodeLoop], .nil .b⟩,
            ⟨[], by rw [encodeLoop], .nil .c⟩⟩
      | token :: rest =>
          rw [List.length_cons] at hLength
          rcases Nat.exists_eq_add_of_le
            (show 2 ≤ room by omega) with ⟨room, hEq⟩
          rw [hEq, Nat.add_comm 2 room]
          have hRest :
              ∀ left, room ≤ left →
                Returns left .b rest ∧ Returns left .c rest :=
            fun left hLeft =>
              ih rest.length (by omega) rest rfl left (by omega)
          match token with
          | .sep =>
              exact ⟨.sep .b (by decide)
                  (hRest (room + 1) (by omega)).1,
                .sep .c (by decide)
                  (hRest (room + 1) (by omega)).2⟩
          | .char c =>
              by_cases hPair : OpensWithPair (.char c :: rest)
              · rcases hPair with
                  ⟨first, second, later, hAtoms, hFirst, hSecond⟩
                rw [List.cons.injEq] at hAtoms
                have hSize : later.length + 1 = rest.length := by
                  rw [hAtoms.2, List.length_cons]
                have hC :
                    ∀ left, room ≤ left →
                      Returns (left + 1) .c
                        (.char c :: rest) := by
                  intro left hLeft
                  rw [hAtoms.1, hAtoms.2]
                  exact .pair hFirst hSecond
                    (ih later.length (by omega) later rfl left
                      (by omega)).2
                refine ⟨?_, hC (room + 1) (by omega)⟩
                by_cases hSwitch :
                    switchToC (.char c :: rest) = true
                · exact .toC hSwitch (hC room (by omega))
                · exact .char hSwitch
                    (hRest (room + 1) (by omega)).1
              · have hSwitch :
                    ¬ switchToC (.char c :: rest) = true :=
                  fun h => hPair (pair_of_switchToC h)
                exact ⟨.char hSwitch
                    (hRest (room + 1) (by omega)).1,
                  .toB hPair (.char hSwitch
                    (hRest room (by omega)).1)⟩

--------
-- Reading Back
--------

/- A separator or a character that subset B has a value for. -/
def isEncodable : Atom → Bool
| .sep => true
| .char c => 32 ≤ c.toNat && c.toNat ≤ 127

/- Atoms from space to DEL. -/
def IsEncodable (atoms : List Atom) : Prop :=
  ∀ atom ∈ atoms, isEncodable atom = true

theorem isEncodable_cons
    {atom : Atom}
    {atoms : List Atom}
    (hAtoms : IsEncodable (atom :: atoms)) :
    IsEncodable atoms :=
  fun other hMem =>
    hAtoms other (List.mem_cons_of_mem atom hMem)

/- The first of encodable characters is in the range. -/
theorem range_of_isEncodable
    {c : Char}
    {atoms : List Atom}
    (hAtoms : IsEncodable (.char c :: atoms)) :
    32 ≤ c.toNat ∧ c.toNat ≤ 127 := by
  have hOwn := hAtoms (.char c) (by simp)
  simpa [isEncodable] using hOwn

variable {c : Char} {mode : Subset}

/- The code points of the digits. -/
theorem toNat_of_isDigit
    (hDigit : c.isDigit = true) :
    48 ≤ c.toNat ∧ c.toNat ≤ 57 := by
  simp only [Char.isDigit, Bool.and_eq_true,
    decide_eq_true_eq, ge_iff_le] at hDigit
  exact ⟨UInt32.le_iff_toNat_le.mp hDigit.1,
    UInt32.le_iff_toNat_le.mp hDigit.2⟩

/- A pair has a value below one hundred. -/
theorem pairValue_bounds
    {first second : Char}
    (hFirst : first.isDigit = true)
    (hSecond : second.isDigit = true) :
    0 ≤ digitValue first * 10 + digitValue second ∧
      digitValue first * 10 + digitValue second ≤ 99 := by
  have hA := toNat_of_isDigit hFirst
  have hB := toNat_of_isDigit hSecond
  unfold digitValue
  omega

theorem digits_of_pairValue
    {first second : Char}
    (hFirst : first.isDigit = true)
    (hSecond : second.isDigit = true) :
    Char.ofNat (48 +
        ((digitValue first * 10 + digitValue second) /
          10).toNat) = first ∧
      Char.ofNat (48 +
        ((digitValue first * 10 + digitValue second) %
          10).toNat) = second := by
  have hA := toNat_of_isDigit hFirst
  have hB := toNat_of_isDigit hSecond
  have hTens :
      48 + ((digitValue first * 10 + digitValue second) /
        10).toNat = first.toNat := by
    unfold digitValue
    omega
  have hUnits :
      48 + ((digitValue first * 10 + digitValue second) %
        10).toNat = second.toNat := by
    unfold digitValue
    omega
  rw [hTens, hUnits, Char.ofNat_toNat, Char.ofNat_toNat]
  exact ⟨rfl, rfl⟩

/- The value of a character of subset B. -/
theorem charValue_bounds
    (hLow : 32 ≤ c.toNat)
    (hHigh : c.toNat ≤ 127) :
    0 ≤ charValue c ∧ charValue c ≤ 95 ∧
      Char.ofNat (charValue c + 32).toNat = c := by
  have hSame : (charValue c + 32).toNat = c.toNat := by
    unfold charValue
    omega
  refine ⟨?_, ?_, ?_⟩
  · unfold charValue
    omega
  · unfold charValue
    omega
  · rw [hSame, Char.ofNat_toNat]

/- The subset machine reads an encoding back. -/
theorem Encodes.decodeData_eq
    {atoms : List Atom}
    {data : List Int}
    (hEncodes : Encodes mode atoms data)
    (hAtoms : IsEncodable atoms) :
    Code128.decodeData mode data = some atoms := by
  induction hEncodes with
  | nil mode => rfl
  | sep mode rest ih =>
      simp [Code128.decodeData, ih (isEncodable_cons hAtoms)]
  | @pair first second atoms data hFirst hSecond rest ih =>
      have hValue := pairValue_bounds hFirst hSecond
      have hDigits := digits_of_pairValue hFirst hSecond
      have hRest :=
        ih (isEncodable_cons (isEncodable_cons hAtoms))
      rw [Code128.decodeData,
        if_neg (by unfold Code128.fnc1; omega),
        if_neg (by unfold Code128.codeB; omega),
        if_neg (by unfold Code128.codeA; omega),
        if_pos hValue, hRest]
      simp only [Code128.pairAtoms, hDigits.1, hDigits.2]
      rfl
  | @char c atoms data rest ih =>
      have hRange := range_of_isEncodable hAtoms
      have hValue := charValue_bounds hRange.1 hRange.2
      rw [Code128.decodeData,
        if_neg (by unfold Code128.fnc1; omega),
        if_neg (by unfold Code128.codeC; omega),
        if_neg (by unfold Code128.codeA; omega),
        if_pos ⟨hValue.1, hValue.2.1⟩,
        ih (isEncodable_cons hAtoms)]
      simp only [Code128.charAtom, hValue.2.2]
      rfl
  | toB rest ih =>
      rw [Code128.decodeData, if_neg (by decide)]
      exact ih hAtoms
  | toC rest ih =>
      rw [Code128.decodeData, if_neg (by decide)]
      exact ih hAtoms

/- An encoding has values of data and switches only. -/
theorem Encodes.bounds
    {atoms : List Atom}
    {data : List Int}
    (hEncodes : Encodes mode atoms data)
    (hAtoms : IsEncodable atoms) :
    ∀ value ∈ data, 0 ≤ value ∧ value ≤ 102 := by
  induction hEncodes with
  | nil mode => simp
  | sep mode rest ih =>
      rw [List.forall_mem_cons]
      exact ⟨by decide, ih (isEncodable_cons hAtoms)⟩
  | pair hFirst hSecond rest ih =>
      have hValue := pairValue_bounds hFirst hSecond
      rw [List.forall_mem_cons]
      exact ⟨⟨hValue.1, by omega⟩,
        ih (isEncodable_cons (isEncodable_cons hAtoms))⟩
  | @char c atoms data rest ih =>
      have hRange := range_of_isEncodable hAtoms
      have hValue := charValue_bounds hRange.1 hRange.2
      rw [List.forall_mem_cons]
      exact ⟨⟨hValue.1, by omega⟩,
        ih (isEncodable_cons hAtoms)⟩
  | toB rest ih =>
      rw [List.forall_mem_cons]
      exact ⟨by decide, ih hAtoms⟩
  | toC rest ih =>
      rw [List.forall_mem_cons]
      exact ⟨by decide, ih hAtoms⟩

/- The loop over the positions gives the weighted sum. -/
theorem foldl_positions
    (data : List Int)
    (position : Nat)
    (total : Int) :
    (data.zipIdx position).foldl (fun total entry =>
        total + (entry.2 : Int) * entry.1) total =
      total + Code128.weightedSum position data := by
  induction data generalizing position total with
  | nil => simp [Code128.weightedSum]
  | cons value rest ih =>
      rw [List.zipIdx_cons, List.foldl_cons, ih,
        Code128.weightedSum, Int.add_assoc]

/- The last two codewords are the check symbol and the stop. -/
theorem checkTotal_eq
    (codewords : List Int)
    (hNe : codewords ≠ []) :
    checkTotal codewords % 103 =
      Code128.checkSymbol codewords := by
  cases codewords with
  | nil => exact absurd rfl hNe
  | cons first rest =>
      simp only [checkTotal, Code128.checkSymbol,
        foldl_positions]

--------
-- Reading The Field
--------

/- A separator or a character that a ZPL field may hold. -/
def isFieldAtom : Atom → Bool
| .sep => true
| .char c => Code128.isFieldChar c

/- Atoms that may all stand in a ZPL field. -/
def IsFieldText (atoms : List Atom) : Prop :=
  ∀ atom ∈ atoms, isFieldAtom atom = true

theorem isFieldText_cons
    {atom : Atom}
    {atoms : List Atom}
    (hAtoms : IsFieldText (atom :: atoms)) :
    IsFieldText atoms :=
  fun other hMem =>
    hAtoms other (List.mem_cons_of_mem atom hMem)

/- Digits may stand in a field. -/
theorem isFieldChar_of_isDigit
    (hDigit : c.isDigit = true) :
    Code128.isFieldChar c = true := by
  have hRange := toNat_of_isDigit hDigit
  have hNe : c ≠ '^' ∧ c ≠ '~' := by
    constructor <;>
      · intro hEq
        rw [hEq] at hRange
        revert hRange
        decide
  simp only [Code128.isFieldChar, Bool.and_eq_true,
    bne_iff_ne, decide_eq_true_eq]
  exact ⟨⟨hNe, by omega⟩, by omega⟩

/- A digit does not open an invocation code. -/
theorem ne_of_isDigit
    (hDigit : c.isDigit = true) :
    c ≠ '>' := by
  intro hEq
  rw [hEq] at hDigit
  exact absurd hDigit (by decide)

/- Data that are written to a field and read from it. -/
def ReadsBack
    (mode : Subset)
    (atoms : List Atom)
    (data : List Int) : Prop :=
  ∃ text, zplPieces mode data = .ok text ∧
    Code128.readData mode text = some data ∧
    (IsFieldText atoms →
      ∀ c ∈ text, Code128.isFieldChar c = true)

theorem ReadsBack.pair
    {first second : Char}
    {atoms : List Atom}
    {data : List Int}
    (hFirst : first.isDigit = true)
    (hSecond : second.isDigit = true)
    (hRest : ReadsBack .c atoms data) :
    ReadsBack .c (.char first :: .char second :: atoms)
      ((digitValue first * 10 + digitValue second) :: data) := by
  rcases hRest with ⟨text, hPieces, hRead, hText⟩
  have hValue := pairValue_bounds hFirst hSecond
  have hDigits := digits_of_pairValue hFirst hSecond
  refine ⟨first :: second :: text, ?_, ?_, ?_⟩
  · rw [zplPieces, if_neg (by unfold Code128.codeB; omega),
      if_neg (by simp),
      if_neg (by unfold Code128.codeA; omega),
      if_neg (by unfold Code128.fnc1; omega)]
    simp only [hValue, and_self, if_true, hPieces, twoDigits,
      hDigits.1, hDigits.2]
    rfl
  · have hSum :
        (((first.toNat - 48) * 10 +
            (second.toNat - 48) : Nat) : Int) =
          digitValue first * 10 + digitValue second := by
      unfold digitValue
      omega
    rw [Code128.readData, if_neg (ne_of_isDigit hFirst)]
    simp only [hFirst, hSecond, and_self, if_true, hRead, hSum]
    rfl
  · intro hAtoms
    rw [List.forall_mem_cons, List.forall_mem_cons]
    exact ⟨isFieldChar_of_isDigit hFirst,
      isFieldChar_of_isDigit hSecond,
      hText (isFieldText_cons (isFieldText_cons hAtoms))⟩

theorem ReadsBack.char
    {c : Char}
    {atoms : List Atom}
    {data : List Int}
    (hLow : 32 ≤ c.toNat)
    (hHigh : c.toNat ≤ 127)
    (hRest : ReadsBack .b atoms data) :
    ReadsBack .b (.char c :: atoms) (charValue c :: data) := by
  rcases hRest with ⟨text, hPieces, hRead, hText⟩
  have hValue := charValue_bounds hLow hHigh
  refine ⟨(if c = '>' then ['>', '0'] else [c]) ++ text,
    ?_, ?_, ?_⟩
  · rw [zplPieces, if_neg (by simp),
      if_neg (by unfold Code128.codeC; omega),
      if_neg (by unfold Code128.codeA; omega),
      if_neg (by unfold Code128.fnc1; omega)]
    simp only [hValue.1, hValue.2.1, and_self, if_true, hPieces,
      hValue.2.2]
    rfl
  · by_cases hMark : c = '>'
    · have hThirty : charValue '>' = 30 := by decide
      rw [if_pos hMark, hMark, hThirty]
      simp [Code128.readData, hRead]
    · rw [if_neg hMark, List.singleton_append,
        Code128.readData_char hMark, hRead]
      rfl
  · intro hAtoms
    have hRestText := hText (isFieldText_cons hAtoms)
    have hOwn := hAtoms (.char c) (by simp)
    intro other hMem
    rcases List.mem_append.mp hMem with hHere | hLater
    · by_cases hMark : c = '>'
      · rw [if_pos hMark] at hHere
        rcases List.mem_cons.mp hHere with hEq | hHere
        · rw [hEq]
          decide
        · rw [List.mem_singleton.mp hHere]
          decide
      · rw [if_neg hMark, List.mem_singleton] at hHere
        rw [hHere]
        exact hOwn
    · exact hRestText other hLater

/- An encoding is written to a field and read from it. -/
theorem Encodes.readsBack
    {atoms : List Atom}
    {data : List Int}
    (hEncodes : Encodes mode atoms data)
    (hAtoms : IsEncodable atoms) :
    ReadsBack mode atoms data := by
  induction hEncodes with
  | nil mode => exact ⟨[], rfl, rfl, by simp⟩
  | sep mode rest ih =>
      rcases ih (isEncodable_cons hAtoms) with
        ⟨text, hPieces, hRead, hText⟩
      refine ⟨'>' :: '8' :: text, ?_, ?_, ?_⟩
      · simp [zplPieces, hPieces, Except.map, Code128.fnc1,
          Code128.codeA, Code128.codeB, Code128.codeC]
      · rw [Code128.readData_fnc1, hRead]
        rfl
      · intro hAll
        rw [List.forall_mem_cons, List.forall_mem_cons]
        exact ⟨by decide, by decide,
          hText (isFieldText_cons hAll)⟩
  | pair hFirst hSecond rest ih =>
      exact .pair hFirst hSecond
        (ih (isEncodable_cons (isEncodable_cons hAtoms)))
  | @char c atoms data rest ih =>
      have hRange := range_of_isEncodable hAtoms
      exact .char hRange.1 hRange.2
        (ih (isEncodable_cons hAtoms))
  | toB rest ih =>
      rcases ih hAtoms with ⟨text, hPieces, hRead, hText⟩
      refine ⟨'>' :: '6' :: text, ?_, ?_, ?_⟩
      · simp [zplPieces, hPieces, Except.map]
      · simp [Code128.readData, hRead]
      · intro hAll
        rw [List.forall_mem_cons, List.forall_mem_cons]
        exact ⟨by decide, by decide, hText hAll⟩
  | toC rest ih =>
      rcases ih hAtoms with ⟨text, hPieces, hRead, hText⟩
      refine ⟨'>' :: '5' :: text, ?_, ?_, ?_⟩
      · simp [zplPieces, hPieces, Except.map]
      · simp [Code128.readData, hRead]
      · intro hAll
        rw [List.forall_mem_cons, List.forall_mem_cons]
        exact ⟨by decide, by decide, hText hAll⟩

--------
-- The Round Trip
--------

/- The codewords around encoded data. -/
def symbol (data : List Int) : List Int :=
  let codewords := Code128.startC :: Code128.fnc1 :: data
  codewords ++ [Code128.checkSymbol codewords, Code128.stop]

/- Every list of encodable atoms has a symbol. -/
theorem encodeAtoms_returns
    (atoms : List Atom) :
    ∃ data, encodeAtoms atoms = .ok (symbol data) ∧
      Encodes .c atoms data := by
  rcases (encodeLoop_returns atoms.length atoms rfl
    (atoms.length * 2 + 4 + 1 - 2) (by omega)).2 with
    ⟨data, hLoop, hData⟩
  refine ⟨data, ?_, hData⟩
  unfold encodeAtoms
  simp only [hLoop, bind, Except.bind, pure, Except.pure,
    symbol, checkTotal_eq _ (List.cons_ne_nil _ _)]

/- A symbol ends with its check symbol and its stop. -/
theorem symbol_eq
    (data : List Int) :
    symbol data =
      (Code128.startC :: Code128.fnc1 :: data) ++
        [Code128.checkSymbol
          (Code128.startC :: Code128.fnc1 :: data)] ++
        [Code128.stop] := by
  rw [List.append_assoc]
  rfl

/- A symbol without its check symbol and its stop. -/
theorem dropLast_symbol
    (data : List Int) :
    (symbol data).dropLast.dropLast =
      Code128.startC :: Code128.fnc1 :: data := by
  rw [symbol_eq, List.dropLast_concat, List.dropLast_concat]

/- A symbol is read back from its data. -/
theorem decode_symbol
    (data : List Int) :
    Code128.decode (symbol data) =
      Code128.decodeData .c data := by
  have hLast : (symbol data).getLast? = some Code128.stop := by
    rw [symbol_eq, List.getLast?_concat]
  have hCheck :
      (symbol data).dropLast.getLast? =
        some (Code128.checkSymbol
          (Code128.startC :: Code128.fnc1 :: data)) := by
    rw [symbol_eq, List.dropLast_concat, List.getLast?_concat]
  unfold Code128.decode
  rw [dropLast_symbol]
  simp only [hLast, hCheck, and_self, if_true]
  rfl

/- The field of a symbol holds the pieces of its data. -/
theorem zplBarcode_symbol
    {data : List Int}
    {text : List Char}
    (hPieces : zplPieces .c data = .ok text) :
    zplBarcode (symbol data) =
      .ok (String.ofList ([ '>', ';', '>', '8'] ++ text)) := by
  have hLast : (symbol data).getLast? = some Code128.stop := by
    rw [symbol_eq, List.getLast?_concat]
  have hSlice :
      ((symbol data).dropLast.dropLast).drop 2 = data := by
    rw [dropLast_symbol]
    rfl
  have hShape :
      symbol data =
        Code128.startC :: Code128.fnc1 ::
          (data ++
            [Code128.checkSymbol
              (Code128.startC :: Code128.fnc1 :: data),
              Code128.stop]) := rfl
  unfold zplBarcode
  rw [hSlice, hLast]
  rw [hShape]
  simp only [ne_eq, not_true_eq_false, or_self, if_false,
    hPieces]
  rfl

/- A field of plain data is printed as its symbol. -/
theorem readField_symbol
    {data : List Int}
    {text : List Char}
    (hRead : Code128.readData .c text = some data)
    (hText : ∀ c ∈ text, Code128.isFieldChar c = true) :
    Code128.readField
        (String.ofList ([ '>', ';', '>', '8'] ++ text)) =
      some (symbol data) := by
  have hWhole :
      ([ '>', ';', '>', '8'] ++ text).takeWhile
          Code128.isFieldChar =
        [ '>', ';', '>', '8'] ++ text := by
    rw [List.takeWhile_eq_self_iff]
    intro c hMem
    rcases List.mem_append.mp hMem with hFront | hBack
    · simp only [List.mem_cons, List.not_mem_nil,
        or_false] at hFront
      rcases hFront with hEq | hEq | hEq | hEq <;>
        · rw [hEq]
          decide
    · exact hText c hBack
  unfold Code128.readField
  rw [String.toList_ofList, hWhole]
  simp only [List.cons_append, List.nil_append]
  simp [Code128.readData, hRead]
  rfl

/-
  Every list of characters from space to DEL and separators is
  encoded; the codewords are symbol values with the check
  symbol before the stop, and the subset machine reads the
  atoms back. The ZPL field is printed as the same codewords
  when no character is a caret, a tilde or DEL.
-/
theorem encodeAtoms_roundTrip
    (atoms : List Atom)
    (hAtoms : IsEncodable atoms) :
    ∃ codewords,
      encodeAtoms atoms = .ok codewords ∧
        (∀ value ∈ codewords, 0 ≤ value ∧ value ≤ 106) ∧
        (∃ symbols,
          codewords =
            symbols ++
              [Code128.checkSymbol symbols, Code128.stop]) ∧
        Code128.decode codewords = some atoms ∧
        ∃ field,
          zplBarcode codewords = .ok field ∧
            (IsFieldText atoms →
              Code128.readField field = some codewords) := by
  rcases encodeAtoms_returns atoms with ⟨data, hEncode, hData⟩
  refine ⟨symbol data, hEncode, ?_, ⟨_, rfl⟩, ?_, ?_⟩
  · have hBounds := hData.bounds hAtoms
    have hCheck :
        0 ≤ Code128.checkSymbol
            (Code128.startC :: Code128.fnc1 :: data) ∧
          Code128.checkSymbol
            (Code128.startC :: Code128.fnc1 :: data) < 103 :=
      ⟨Int.emod_nonneg _ (by decide),
        Int.emod_lt_of_pos _ (by decide)⟩
    intro value hValue
    simp only [symbol, List.cons_append, List.mem_cons,
      List.mem_append, List.not_mem_nil, or_false] at hValue
    rcases hValue with hEq | hEq | hMem | hEq | hEq
    · rw [hEq]
      decide
    · rw [hEq]
      decide
    · have := hBounds value hMem
      omega
    · rw [hEq]
      omega
    · rw [hEq]
      decide
  · rw [decode_symbol, hData.decodeData_eq hAtoms]
  · rcases hData.readsBack hAtoms with
      ⟨text, hPieces, hRead, hText⟩
    exact ⟨_, zplBarcode_symbol hPieces, fun hField =>
      readField_symbol hRead (hText hField)⟩

/- A lot and a serial number, parted by a separator. -/
def lotAndSerial : List Atom :=
  [.char '1', .char '0', .char 'A', .char '7', .sep,
    .char '2', .char '1', .char '>']

/- A label whose characters may all stand in the field. -/
theorem encodeAtoms_roundTrip_lotAndSerial :
    ∃ codewords field,
      encodeAtoms lotAndSerial = .ok codewords ∧
        Code128.decode codewords = some lotAndSerial ∧
        zplBarcode codewords = .ok field ∧
        Code128.readField field = some codewords := by
  have hAtoms : IsEncodable lotAndSerial := by
    unfold IsEncodable
    decide
  have hField : IsFieldText lotAndSerial := by
    unfold IsFieldText
    decide
  rcases encodeAtoms_roundTrip lotAndSerial hAtoms with
    ⟨codewords, hEncode, -, -, hDecode, field, hZpl, hRead⟩
  exact ⟨codewords, field, hEncode, hDecode, hZpl,
    hRead hField⟩

/- A caret ends the field before its codeword is printed. -/
theorem readField_stops_at_caret :
    IsEncodable [.char '^'] ∧
      encodeAtoms [.char '^'] =
        .ok [105, 102, 100, 62, 78, 106] ∧
      zplBarcode [105, 102, 100, 62, 78, 106] =
        .ok ">;>8>6^" ∧
      Code128.readField ">;>8>6^" ≠
        some [105, 102, 100, 62, 78, 106] := by
  refine ⟨?_, by decide, by decide, by decide⟩
  unfold IsEncodable
  decide

end Gs1128

end RegEngine
