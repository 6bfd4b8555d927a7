import RegEngine.Library.Value

/-
  The classification of foods on the Food Traceability List:
  whether an event carries a hint, the hint read from its
  product text, and whether its food is on the list
  (`shared/rules/ftl.py`, `shared/rules/utils.py`).

  Main declarations:
    * `Ftl.eventHasFtlHint`
    * `Ftl.inferFtlCategoryFromText`
    * `Ftl.isFtlFood`
-/

--------
-- Hints
--------

namespace RegEngine

open Python (Value Dict)

namespace Ftl

/- `get_nested_value`, on a path already cut at its dots. -/
def getNestedValue : Value → List String → Value
| current, [] => current
| .dict entries, part :: rest =>
    getNestedValue (Dict.get entries part) rest
| _, _ :: _ => .none

/- The paths on which an event may carry a signal. -/
def hintPaths : List (List String) :=
  [["kdes", "ftl_covered"],
    ["ftl_covered"],
    ["product", "ftl_covered"],
    ["kdes", "ftl_category"],
    ["ftl_category"],
    ["product", "category"],
    ["product_category"]]

/- A value other than `None`. -/
def isSome : Value → Bool
| .none => false
| _ => true

/- `event_has_ftl_hint`. -/
def eventHasFtlHint (eventData : Value) : Bool :=
  hintPaths.any (fun path =>
    isSome (getNestedValue eventData path))

/- `_normalize`. -/
def normalize (value : Value) : Option String :=
  match value with
  | .str text =>
      let norm := Python.lower (Python.strip text)
      if norm = "" then none else some norm
  | _ => none

/- `FTL_KEYWORD_CATEGORIES`: the first match wins. -/
def ftlKeywordCategories : List (String × String) :=
  [("smoked salmon", "Smoked Finfish"),
    ("smoked trout", "Smoked Finfish"),
    ("smoked whitefish", "Smoked Finfish"),
    ("smoked fish", "Smoked Finfish"),
    ("spinach", "Leafy Greens"),
    ("romaine", "Leafy Greens"),
    ("rm hrts", "Leafy Greens"),
    ("lettuce", "Leafy Greens"),
    ("kale", "Leafy Greens"),
    ("chard", "Leafy Greens"),
    ("arugula", "Leafy Greens"),
    ("endive", "Leafy Greens"),
    ("escarole", "Leafy Greens"),
    ("spring mix", "Leafy Greens"),
    ("greens", "Leafy Greens"),
    ("cilantro", "Herbs"),
    ("parsley", "Herbs"),
    ("basil", "Herbs"),
    ("mint", "Herbs"),
    ("chives", "Herbs"),
    ("dill", "Herbs"),
    ("tomato", "Fresh Tomatoes"),
    ("pepper", "Fresh Peppers"),
    ("cucumber", "Fresh Cucumbers"),
    ("cantaloupe", "Fresh Melons"),
    ("honeydew", "Fresh Melons"),
    ("melon", "Fresh Melons"),
    ("sprout", "Fresh Sprouts"),
    ("salmon", "Finfish"),
    ("tuna", "Finfish"),
    ("tilapia", "Finfish"),
    ("halibut", "Finfish"),
    ("snapper", "Finfish"),
    ("trout", "Finfish"),
    ("cod", "Finfish"),
    ("finfish", "Finfish"),
    ("shrimp", "Crustaceans"),
    ("prawn", "Crustaceans"),
    ("crab", "Crustaceans"),
    ("lobster", "Crustaceans"),
    ("crawfish", "Crustaceans"),
    ("oyster", "Molluscan Shellfish"),
    ("clam", "Molluscan Shellfish"),
    ("mussel", "Molluscan Shellfish"),
    ("scallop", "Molluscan Shellfish"),
    ("brie", "Soft Cheeses"),
    ("camembert", "Soft Cheeses"),
    ("queso fresco", "Soft Cheeses"),
    ("burrata", "Soft Cheeses"),
    ("soft cheese", "Soft Cheeses"),
    ("soft-ripened", "Soft Cheeses"),
    ("semi-soft cheese", "Soft Cheeses"),
    ("shell egg", "Shell Eggs"),
    ("eggs", "Shell Eggs"),
    ("peanut butter", "Nut Butters"),
    ("almond butter", "Nut Butters"),
    ("cashew butter", "Nut Butters"),
    ("nut butter", "Nut Butters"),
    ("deli salad", "Ready-to-Eat Deli Salads"),
    ("potato salad", "Ready-to-Eat Deli Salads"),
    ("chicken salad", "Ready-to-Eat Deli Salads"),
    ("egg salad", "Ready-to-Eat Deli Salads"),
    ("macaroni salad", "Ready-to-Eat Deli Salads"),
    ("pasta salad", "Ready-to-Eat Deli Salads"),
    ("mango", "Tropical Tree Fruits"),
    ("papaya", "Tropical Tree Fruits"),
    ("guava", "Tropical Tree Fruits"),
    ("lychee", "Tropical Tree Fruits"),
    ("starfruit", "Tropical Tree Fruits")]

/- `infer_ftl_category_from_text`. -/
def inferFtlCategoryFromText (text : Value) : Option String :=
  match normalize text with
  | none => none
  | some normalized =>
      (ftlKeywordCategories.find? (fun entry =>
        Python.contains normalized entry.1)).map Prod.snd

--------
-- Classification
--------

open Python (Value)

/- `FTL_CATEGORIES`, in lower case. -/
def ftlCategories : List String :=
  ["leafy greens",
    "herbs",
    "fresh-cut fruits",
    "fresh-cut vegetables",
    "finfish",
    "crustaceans",
    "molluscan shellfish",
    "smoked finfish",
    "soft cheeses",
    "shell eggs",
    "nut butters",
    "ready-to-eat deli salads",
    "fresh tomatoes",
    "fresh peppers",
    "fresh cucumbers",
    "fresh sprouts",
    "tropical tree fruits",
    "fresh melons"]

/- The paths on which an event may say that it is covered. -/
def coveredPaths : List (List String) :=
  [["kdes", "ftl_covered"],
    ["ftl_covered"],
    ["product", "ftl_covered"]]

/- The paths on which an event may name its category. -/
def categoryPaths : List (List String) :=
  [["kdes", "ftl_category"],
    ["ftl_category"],
    ["product", "category"],
    ["product_category"]]

/- `get_ftl_category`. -/
def getFtlCategory (eventData : Value) : Option String :=
  categoryPaths.findSome? (fun path =>
    match normalize (getNestedValue eventData path) with
    | some norm =>
        if ftlCategories.contains norm then some norm else none
    | none => none)

/- The flag on a path, when it is a truth value. -/
def coveredFlag (eventData : Value) (path : List String) :
    Option Bool :=
  match getNestedValue eventData path with
  | .bool flag => some flag
  | _ => none

/- A category text that is not blank. -/
def namesCategory (eventData : Value) (path : List String) :
    Bool :=
  match getNestedValue eventData path with
  | .str raw => Python.strip raw != ""
  | _ => false

/- `is_ftl_food`: on the list, off it, or not known. -/
def isFtlFood (eventData : Value) : Option Bool :=
  match coveredPaths.findSome? (coveredFlag eventData) with
  | some flag => some flag
  | none =>
      if (getFtlCategory eventData).isSome then
        some true
      else if categoryPaths.any (namesCategory eventData) then
        some false
      else
        none

end Ftl

end RegEngine
