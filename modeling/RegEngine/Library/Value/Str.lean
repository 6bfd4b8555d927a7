import RegEngine.Library.Value

/-
  The text `str` gives for a value, and the values that JSON
  documents are read as.

  Main declarations:
    * `Python.Reprs`
    * `Python.Value.toStr`
    * `Python.Value.ofJson`
-/

--------
-- Texts of Values
--------

namespace Python

/-
  What `repr` takes from elsewhere: the characters that Unicode
  calls printable, and the `repr` of other objects.
-/
structure Reprs where
  printable : Char → Bool
  object : Object → String

/- The last hexadecimal digits of a number. -/
def hexPad : Nat → Nat → List Char
| 0, _ => []
| width + 1, n =>
    hexPad width (n / 16) ++ [Nat.digitChar (n % 16)]

namespace Reprs

/- A character inside `quote`, in `repr` of a text. -/
def char (r : Reprs) (quote c : Char) : List Char :=
  if c = quote ∨ c = '\\' then ['\\', c]
  else if c = '\t' then ['\\', 't']
  else if c = '\n' then ['\\', 'n']
  else if c = '\r' then ['\\', 'r']
  else if ' ' ≤ c ∧ c ≤ '~' then [c]
  else if '~' < c ∧ r.printable c then [c]
  else if c.toNat ≤ 0xff then '\\' :: 'x' :: hexPad 2 c.toNat
  else if c.toNat ≤ 0xffff then
    '\\' :: 'u' :: hexPad 4 c.toNat
  else '\\' :: 'U' :: hexPad 8 c.toNat

/- The quotes `repr` chooses for a text. -/
def quote (text : String) : Char :=
  if text.toList.contains '\'' && !text.toList.contains '"' then
    '"'
  else '\''

/- `repr` of a text. -/
def text (r : Reprs) (text : String) : String :=
  String.ofList
    (quote text :: (text.toList.flatMap (r.char (quote text)) ++
      [quote text]))

mutual

/- `repr(value)`. -/
def value (r : Reprs) : Value → String
| .none => "None"
| .bool true => "True"
| .bool false => "False"
| .int value => toString value
| .float value => value.repr
| .str value => r.text value
| .list items => "[" ++ join ", " (r.items items) ++ "]"
| .dict entries =>
    "\x7b" ++ join ", " (r.entries entries) ++ "\x7d"
| .object value => r.object value

def items (r : Reprs) : List Value → List String
| [] => []
| item :: rest => r.value item :: r.items rest

def entries (r : Reprs) : List (String × Value) → List String
| [] => []
| (key, item) :: rest =>
    (r.text key ++ ": " ++ r.value item) :: r.entries rest

end

end Reprs

namespace Value

/- `str(value)`. -/
def toStr (r : Reprs) : Value → String
| .str value => value
| .object value => value.text
| value => r.value value

def ofScalar : Json.Scalar → Value
| .null => .none
| .bool value => .bool value
| .int value => .int value
| .float value => .float value

mutual

/- A document as `json.loads` gives it. -/
def ofJson : Json → Value
| .scalar value => ofScalar value
| .str value => .str value
| .arr items => .list (ofJsonItems items)
| .obj entries => .dict (ofJsonEntries entries)

def ofJsonItems : List Json → List Value
| [] => []
| item :: rest => ofJson item :: ofJsonItems rest

def ofJsonEntries :
    List (String × Json) → List (String × Value)
| [] => []
| (key, item) :: rest =>
    (key, ofJson item) :: ofJsonEntries rest

end

/- A value that is true prints as some text. -/
theorem toStr_ofJson_ne_empty
    (r : Reprs)
    {document : Json}
    (hTruthy : (ofJson document).truthy = true) :
    (ofJson document).toStr r ≠ "" := by
  cases document with
  | str value => simpa [ofJson, truthy, toStr] using hTruthy
  | arr items =>
    intro hEmpty
    have hList := congrArg String.toList hEmpty
    simp [ofJson, toStr, Reprs.value] at hList
  | obj entries =>
    intro hEmpty
    have hList := congrArg String.toList hEmpty
    simp [ofJson, toStr, Reprs.value] at hList
  | scalar value =>
    cases value with
    | null => simp [ofJson, ofScalar, truthy] at hTruthy
    | bool flag =>
      cases flag with
      | false => simp [ofJson, ofScalar, truthy] at hTruthy
      | true => simp [ofJson, ofScalar, toStr, Reprs.value]
    | int n =>
      intro hEmpty
      apply toList_toString_int_ne_nil n
      rw [show toString n = "" from hEmpty]
      rfl
    | float x =>
      intro hEmpty
      rcases Float.exists_mark x with ⟨c, hMem, _⟩
      rw [show x.repr = "" from hEmpty] at hMem
      cases hMem

end Value

end Python
