import Mathlib.Algebra.Ring.Nat
import Mathlib.Order.Lattice
import Mathlib.Tactic.Common

/-!
# Unsigned counters

Counters of 64 bits as naturals, with the saturating additions written out. Subtraction
of naturals saturates at zero by itself.
-/

namespace WayfinderRouter.U64

/-- `u64::MAX`. -/
def max : ℕ := 2 ^ 64 - 1

/-- `u64::saturating_add`. -/
def saturatingAdd (a b : ℕ) : ℕ := min (a + b) max

theorem saturatingAdd_eq {a b : ℕ} (h : a + b ≤ max) : saturatingAdd a b = a + b :=
  min_eq_left h

theorem le_saturatingAdd {a b n : ℕ} (hn : n ≤ max) (h : n ≤ a + b) :
    n ≤ saturatingAdd a b :=
  le_min h hn

theorem saturatingAdd_le (a b : ℕ) : saturatingAdd a b ≤ a + b := min_le_left _ _

end WayfinderRouter.U64
