import Mathlib.Data.Rat.Floor

/-!
# Doubles

A double that is finite is taken at its exact value. Arithmetic on such values is the
arithmetic of rationals.
-/

namespace WayfinderRouter

/-- A double: finite, taken at its exact value, or not. -/
inductive Double where
  | finite (value : ℚ)
  | notFinite
deriving DecidableEq

/-- `f64::round`: to the nearest integer, halves away from zero. -/
def roundHalfAway (q : ℚ) : ℤ := if 0 ≤ q then ⌊q + 1 / 2⌋ else -⌊-q + 1 / 2⌋

theorem roundHalfAway_nonneg {q : ℚ} (hq : 0 ≤ q) : 0 ≤ roundHalfAway q := by
  rw [roundHalfAway, if_pos hq]
  exact Int.floor_nonneg.mpr (add_nonneg hq (by norm_num))

end WayfinderRouter
