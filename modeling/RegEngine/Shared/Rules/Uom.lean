import Mathlib.Data.Rat.Defs
import Mathlib.Tactic.NormNum
import RegEngine.Library.Python

/-
  Units of measure and the order of the lifecycle
  (`shared/rules/uom.py`). Quantities are exact numbers.

  Main declarations:
    * `Uom.cteLifecycleOrder`
    * `Uom.uomKey`
    * `Uom.normalizeToMass`
-/

--------
-- The Lifecycle
--------

namespace RegEngine

namespace Uom

/- `CTE_LIFECYCLE_ORDER`. -/
def cteLifecycleOrder : List (String × Nat) :=
  [("harvesting", 0),
    ("cooling", 1),
    ("initial_packing", 2),
    ("first_land_based_receiving", 3),
    ("transformation", 4),
    ("shipping", 5),
    ("receiving", 6)]

/- The stage of an event type, when it has one. -/
def stage (eventType : String) : Option Nat :=
  cteLifecycleOrder.lookup eventType

--------
-- Mass
--------

/- `_MASS_UOM_TO_LBS`. -/
def massUomToLbs : List (String × ℚ) :=
  [("lbs", 1.0),
    ("lb", 1.0),
    ("pound", 1.0),
    ("pounds", 1.0),
    ("kg", 2.20462),
    ("kgs", 2.20462),
    ("kilogram", 2.20462),
    ("kilograms", 2.20462),
    ("oz", 0.0625),
    ("ounce", 0.0625),
    ("ounces", 0.0625),
    ("ton", 2000.0),
    ("tons", 2000.0),
    ("short_ton", 2000.0),
    ("metric_ton", 2204.62),
    ("mt", 2204.62)]

/- `text.rstrip(".")`. -/
def rstripDot (text : String) : String :=
  String.ofList
    (text.toList.reverse.dropWhile (· == '.')).reverse

/- `uom.lower().strip()`. -/
def bareUom (lower : String → String) (uom : String) : String :=
  Python.strip (lower uom)

/- `_uom_key`. -/
def uomKey (lower : String → String) (uom : String) : String :=
  rstripDot (bareUom lower uom)

/- The pounds that a unit makes, for a true unit of mass. -/
def massFactor (lower : String → String) (uom : String) :
    Option ℚ :=
  massUomToLbs.lookup (uomKey lower uom)

/- `is_mass_uom`. -/
def isMassUom
    (lower : String → String)
    (uom : Option String) :
    Bool :=
  match uom with
  | none => false
  | some unit =>
      unit != "" && (massFactor lower unit).isSome

/-
  `normalize_to_mass`: a true unit of mass always converts,
  another one by the weights that are given.
-/
def normalizeToMass
    (lower : String → String)
    (quantity : ℚ)
    (uom : String)
    (weights : List (String × ℚ)) :
    Option ℚ :=
  match massFactor lower uom with
  | some factor => some (quantity * factor)
  | none =>
      match weights.lookup (uomKey lower uom) with
      | some override => some (quantity * override)
      | none => none

variable {factor : ℚ} {uom : String}

/- A quantity in a true unit of mass is converted. -/
theorem normalizeToMass_eq_some
    {lower : String → String}
    (hFactor : massFactor lower uom = some factor)
    (quantity : ℚ)
    (weights : List (String × ℚ)) :
    normalizeToMass lower quantity uom weights =
      some (quantity * factor) := by
  simp [normalizeToMass, hFactor]

/- The pounds that a unit makes are more than none. -/
theorem massFactor_pos
    {lower : String → String}
    (hFactor : massFactor lower uom = some factor) :
    0 < factor := by
  have hAll : ∀ entry ∈ massUomToLbs, 0 < entry.2 := by
    simp only [massUomToLbs, List.forall_mem_cons,
      List.not_mem_nil, false_implies, implies_true]
    norm_num
  rcases List.lookup_eq_some_iff.mp hFactor with
    ⟨before, after, hSplit, -⟩
  exact hAll (uomKey lower uom, factor)
    (hSplit ▸ List.mem_append_right _ List.mem_cons_self)

end Uom

end RegEngine
