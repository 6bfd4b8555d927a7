import RegEngine.Library.Json

/-
  Python data as `json.dumps` takes it: dictionaries with keys
  of several types, and objects that JSON has no type for. The
  order that `sort_keys` gives is that of the keys themselves,
  not of their texts.

  Main declarations:
    * `Python.Key`
    * `Python.Data`
    * `Python.Data.sorted`
-/

--------
-- Keys
--------

namespace Python

/- A key of a dictionary that `json.dumps` accepts. -/
inductive Key where
  | none
  | bool (value : Bool)
  | int (value : Int)
  | str (value : String)
  deriving DecidableEq

namespace Key

/- The text of a key in a document. -/
def text : Key → String
| .none => "null"
| .bool true => "true"
| .bool false => "false"
| .int value => toString value
| .str value => value

/- The number that a key is in a comparison. -/
def number : Key → Option Int
| .bool value => some value.toNat
| .int value => some value
| _ => Option.none

/- A key that is a text. -/
def isStr : Key → Bool
| .str _ => true
| _ => false

/- The order of two keys of one kind. -/
def Le (x y : Key) : Prop :=
  match x.number, y.number with
  | some m, some n => m ≤ n
  | _, _ => Json.keyLe x.text.toList y.text.toList = true

instance : DecidableRel Le := by
  intro x y
  unfold Le
  split <;> infer_instance

end Key

/-
  Entries in the order of their keys. Keys of two kinds have
  no order, which raises `TypeError`.
-/
def sortEntries {α : Type} (entries : List (Key × α)) :
    Option (List (Key × α)) :=
  if entries.length ≤ 1 then
    some entries
  else if entries.all (·.1.isStr) ∨
      entries.all (·.1.number.isSome) then
    some (entries.insertionSort (fun x y => x.1.Le y.1))
  else
    none

end Python

--------
-- Data
--------

namespace Python

/- Python data; lists and tuples are written alike. -/
inductive Data where
  | scalar (value : Json.Scalar)
  | str (value : String)
  | list (items : List Data)
  | dict (entries : List (Key × Data))
  | object (text : String) (truthy : Bool)

namespace Data

/- The truth value. -/
def truthy : Data → Bool
| .scalar .null => false
| .scalar (.bool value) => value
| .scalar (.int value) => value ≠ 0
| .scalar (.float value) =>
    value.repr ≠ "0.0" && value.repr ≠ "-0.0"
| .str value => value ≠ ""
| .list items => !items.isEmpty
| .dict entries => !entries.isEmpty
| .object _ value => value

mutual

/-
  The document that `json.dumps` writes with `sort_keys` and
  `default=str`, its keys in the order they are written.
-/
def sorted : Data → Option Json
| .scalar value => some (.scalar value)
| .str value => some (.str value)
| .list items => (sortedItems items).map .arr
| .dict entries => do
    let documents ← sortedEntries entries
    let inOrder ← sortEntries documents
    return .obj (inOrder.map (fun entry =>
      (entry.1.text, entry.2)))
| .object text _ => some (.str text)

def sortedItems : List Data → Option (List Json)
| [] => some []
| item :: rest => do
    return (← sorted item) :: (← sortedItems rest)

def sortedEntries :
    List (Key × Data) → Option (List (Key × Json))
| [] => some []
| (key, value) :: rest => do
    return (key, ← sorted value) :: (← sortedEntries rest)

end

mutual

/-
  The document that `json.dumps` writes: keys as they stand,
  and `TypeError` on an object.
-/
def written : Data → Option Json
| .scalar value => some (.scalar value)
| .str value => some (.str value)
| .list items => (writtenItems items).map .arr
| .dict entries => (writtenEntries entries).map .obj
| .object _ _ => none

def writtenItems : List Data → Option (List Json)
| [] => some []
| item :: rest => do
    return (← written item) :: (← writtenItems rest)

def writtenEntries :
    List (Key × Data) → Option (List (String × Json))
| [] => some []
| (key, value) :: rest => do
    return (key.text, ← written value) ::
      (← writtenEntries rest)

end

end Data

end Python
