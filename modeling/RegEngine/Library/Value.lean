import RegEngine.Library.Json

/-
  Python values as they appear in a dictionary read from JSON
  or filled by other code, and the dictionaries themselves.

  Main declarations:
    * `Python.Value`
    * `Python.Dict.get`
    * `Python.join`
-/

--------
-- Values
--------

namespace Python

/-
  A value that JSON has no type for, such as a date, a decimal
  or an identifier: its `str` text, and the text that hashing
  code pins for its type, when there is one.
-/
structure Object where
  text : String
  pinned : Option String

/- A Python value; dictionaries have text keys. -/
inductive Value where
  | none
  | bool (value : Bool)
  | int (value : Int)
  | float (value : Float)
  | str (value : String)
  | list (items : List Value)
  | dict (entries : List (String × Value))
  | object (value : Object)

/- A dictionary, in the order of insertion. -/
abbrev Dict := List (String × Value)

namespace Value

mutual

/- The document `json.dumps(value, default=str)` writes. -/
def toJson : Value → Json
| .none => .scalar .null
| .bool value => .scalar (.bool value)
| .int value => .scalar (.int value)
| .float value => .scalar (.float value)
| .str value => .str value
| .list items => .arr (toJsonItems items)
| .dict entries => .obj (toJsonEntries entries)
| .object value => .str value.text

def toJsonItems : List Value → List Json
| [] => []
| item :: rest => toJson item :: toJsonItems rest

def toJsonEntries :
    List (String × Value) → List (String × Json)
| [] => []
| (key, value) :: rest =>
    (key, toJson value) :: toJsonEntries rest

end

/- The truth value of a value. -/
def truthy : Value → Bool
| .none => false
| .bool value => value
| .int value => value != 0
| .float value => value.repr != "0.0" && value.repr != "-0.0"
| .str value => value != ""
| .list items => !items.isEmpty
| .dict entries => !entries.isEmpty
| .object _ => true

/- `first or second`. -/
def orElse (first second : Value) : Value :=
  if first.truthy then first else second

/- The text of a text value. -/
def str? : Value → Option String
| .str value => some value
| _ => Option.none

/- `value is None`. -/
def isNone : Value → Bool
| .none => true
| _ => false

/- `value is flag`. -/
def isBool (flag : Bool) : Value → Bool
| .bool value => value == flag
| _ => false

/- `value == text`. -/
def isText (text : String) : Value → Bool
| .str value => value == text
| _ => false

/- `value == count`, for a count below the exponent form. -/
def isCount (count : Nat) : Value → Bool
| .bool value => (if value then 1 else 0) == count
| .int value => value == count
| .float value =>
    value.repr == toString count ++ ".0" ||
      (count == 0 && value.repr == "-0.0")
| _ => false

/- `value == texts`, for a list of texts. -/
def isTexts (texts : List String) : Value → Bool
| .list items =>
    items.length == texts.length &&
      (items.zip texts).all (fun pair => isText pair.2 pair.1)
| _ => false

/- A number that is no truth value and not below zero. -/
def natural? : Value → Option Nat
| .int value => if 0 ≤ value then some value.toNat else Option.none
| _ => Option.none

/- An optional text as a value. -/
def ofOption : Option String → Value
| Option.none => .none
| some value => .str value

end Value

/- `d.get(key)`. -/
def Dict.get (d : Dict) (key : String) : Value :=
  ((d.find? (fun entry => entry.1 == key)).map
    Prod.snd).getD .none

def Value.entries? : Value → Option Dict
| .dict entries => some entries
| _ => Option.none

/- `key in d`. -/
def Dict.has (d : Dict) (key : String) : Bool :=
  d.any (fun entry => entry.1 == key)

/- `d[key] = value`. -/
def Dict.set : Dict → String → Value → Dict
| [], key, value => [(key, value)]
| entry :: rest, key, value =>
    if entry.1 = key then (key, value) :: rest
    else entry :: Dict.set rest key value

/- `d.setdefault(key, value)`. -/
def Dict.setdefault (d : Dict) (key : String) (value : Value) :
    Dict :=
  if d.has key then d else d ++ [(key, value)]

/- `sep.join(parts)`. -/
def join (sep : String) : List String → String
| [] => ""
| [part] => part
| part :: next :: rest =>
    part ++ sep ++ join sep (next :: rest)

end Python
