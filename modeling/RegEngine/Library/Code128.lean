import Mathlib.Data.List.TakeWhile

/-
  Code 128: the symbol values, the check symbol, the subset
  machine that reads a symbol back, and the field data of the
  ZPL command `^BC` that stands for one.

  A reader of field data knows the invocation codes `>0`,
  `>5`, `>6`, `>7` and `>8`. A caret and a tilde start a ZPL
  command and a control character is no data, so the field
  ends before them.

  Main declarations:
    * `Code128.Atom`
    * `Code128.decode`
    * `Code128.readField`
-/

--------
-- Symbol Values
--------

namespace Code128

inductive Subset where
  | a
  | b
  | c
  deriving DecidableEq

/- What a symbol carries: characters and FNC1 separators. -/
inductive Atom where
  | sep
  | char (c : Char)
  deriving DecidableEq

def codeC : Int := 99
def codeB : Int := 100
def codeA : Int := 101
def fnc1 : Int := 102
def startA : Int := 103
def startB : Int := 104
def startC : Int := 105
def stop : Int := 106

/- The sum of the values, each times its position. -/
def weightedSum (position : Nat) : List Int → Int
| [] => 0
| value :: rest =>
    position * value + weightedSum (position + 1) rest

/-
  The check symbol: the start value and the values after it,
  each times its position, modulo 103.
-/
def checkSymbol : List Int → Int
| [] => 0
| start :: data => (start + weightedSum 1 data) % 103

/- The digit characters of a pair in subset C. -/
def pairAtoms (value : Int) : List Atom :=
  [.char (Char.ofNat (48 + (value / 10).toNat)),
    .char (Char.ofNat (48 + (value % 10).toNat))]

/- The character of a value in subset A or B. -/
def charAtom (offset value : Int) : Atom :=
  .char (Char.ofNat (value + offset).toNat)

end Code128

--------
-- Reading Symbols
--------

namespace Code128

/- The subset machine on the values after the start. -/
def decodeData : Subset → List Int → Option (List Atom)
| _, [] => some []
| subset, value :: rest =>
    if value = fnc1 then
      (decodeData subset rest).map (Atom.sep :: ·)
    else
      match subset with
      | .c =>
          if value = codeB then decodeData .b rest
          else if value = codeA then decodeData .a rest
          else if 0 ≤ value ∧ value ≤ 99 then
            (decodeData .c rest).map (pairAtoms value ++ ·)
          else none
      | .b =>
          if value = codeC then decodeData .c rest
          else if value = codeA then decodeData .a rest
          else if 0 ≤ value ∧ value ≤ 95 then
            (decodeData .b rest).map (charAtom 32 value :: ·)
          else none
      | .a =>
          if value = codeC then decodeData .c rest
          else if value = codeB then decodeData .b rest
          else if 0 ≤ value ∧ value ≤ 63 then
            (decodeData .a rest).map (charAtom 32 value :: ·)
          else if 64 ≤ value ∧ value ≤ 95 then
            (decodeData .a rest).map
              (charAtom (-64) value :: ·)
          else none

/- The subset that a start symbol opens. -/
def startSubset (value : Int) : Option Subset :=
  if value = startA then some .a
  else if value = startB then some .b
  else if value = startC then some .c
  else none

/-
  A symbol read back: start, data, check and stop. An FNC1
  right after the start marks a GS1 symbol and is no data.
-/
def decode (codewords : List Int) : Option (List Atom) :=
  match codewords.dropLast.dropLast with
  | start :: mark :: data =>
      if codewords.getLast? = some stop ∧
          codewords.dropLast.getLast? =
            some (checkSymbol (start :: mark :: data)) ∧
          mark = fnc1 then
        (startSubset start).bind (fun subset =>
          decodeData subset data)
      else
        none
  | _ => none

end Code128

--------
-- Field Data
--------

namespace Code128

/- A character that field data may hold. -/
def isFieldChar (c : Char) : Bool :=
  c != '^' && c != '~' && 32 ≤ c.toNat && c.toNat ≤ 126

/- The values that the data of a field stand for. -/
def readData : Subset → List Char → Option (List Int)
| _, [] => some []
| subset, first :: rest =>
    if first = '>' then
      match rest with
      | [] => none
      | code :: later =>
          if code = '8' then
            (readData subset later).map (fnc1 :: ·)
          else
            match subset with
            | .c =>
                if code = '6' then
                  (readData .b later).map (codeB :: ·)
                else if code = '7' then
                  (readData .a later).map (codeA :: ·)
                else none
            | .b =>
                if code = '5' then
                  (readData .c later).map (codeC :: ·)
                else if code = '7' then
                  (readData .a later).map (codeA :: ·)
                else if code = '0' then
                  (readData .b later).map (30 :: ·)
                else none
            | .a =>
                if code = '5' then
                  (readData .c later).map (codeC :: ·)
                else if code = '6' then
                  (readData .b later).map (codeB :: ·)
                else none
    else
      match subset with
      | .c =>
          match rest with
          | [] => none
          | second :: later =>
              if first.isDigit ∧ second.isDigit then
                (readData .c later).map
                  ((((first.toNat - 48) * 10 +
                    (second.toNat - 48) : Nat) : Int) :: ·)
              else none
      | .b =>
          (readData .b rest).map
            (((first.toNat : Int) - 32) :: ·)
      | .a =>
          if first.toNat ≤ 95 then
            (readData .a rest).map
              (((first.toNat : Int) - 32) :: ·)
          else none

/- The code of FNC1, in every subset. -/
theorem readData_fnc1
    (subset : Subset)
    (rest : List Char) :
    readData subset ('>' :: '8' :: rest) =
      (readData subset rest).map (fnc1 :: ·) := by
  cases subset <;> simp [readData]

/- A character of subset B that opens no code. -/
theorem readData_char
    {c : Char}
    (hMark : c ≠ '>')
    (rest : List Char) :
    readData .b (c :: rest) =
      (readData .b rest).map (((c.toNat : Int) - 32) :: ·) := by
  rw [readData.eq_def]
  simp only [if_neg hMark]

/-
  The symbol that is printed for field data that start in
  subset C: the printer adds the check symbol and the stop.
-/
def readField (field : String) : Option (List Int) :=
  match field.toList.takeWhile isFieldChar with
  | '>' :: ';' :: data =>
      (readData .c data).map (fun values =>
        let symbols := startC :: values
        symbols ++ [checkSymbol symbols, stop])
  | _ => none

end Code128
