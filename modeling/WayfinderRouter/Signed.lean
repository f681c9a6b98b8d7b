import Mathlib.Algebra.Order.Group.Int
import Mathlib.Algebra.Order.Ring.Int
import Mathlib.Tactic.Linarith

/-!
# Signed numbers of 64 bits

The operations of `i64` on integers. A plain operation gives `none` where the machine's would
overflow or divide by zero; a saturating one stays in the range.
-/

namespace WayfinderRouter.I64

/-- `i64::MIN`. -/
def min : ℤ := -9223372036854775808

/-- `i64::MAX`. -/
def max : ℤ := 9223372036854775807

/-- The numbers that an `i64` can hold. -/
def InRange (a : ℤ) : Prop := min ≤ a ∧ a ≤ max

instance (a : ℤ) : Decidable (InRange a) := inferInstanceAs (Decidable (_ ∧ _))

/-- The number, if it is in range. -/
def checked (a : ℤ) : Option ℤ := if InRange a then some a else none

/-- The number in range that is nearest to a number. -/
def saturated (a : ℤ) : ℤ := if a < min then min else if max < a then max else a

def add (a b : ℤ) : Option ℤ := checked (a + b)

def sub (a b : ℤ) : Option ℤ := checked (a - b)

def mul (a b : ℤ) : Option ℤ := checked (a * b)

/-- The quotient, rounded towards zero. -/
def div (a b : ℤ) : Option ℤ := if b = 0 then none else checked (a.tdiv b)

/-- `i64::saturating_add`. -/
def saturatingAdd (a b : ℤ) : ℤ := saturated (a + b)

/-- `i64::saturating_sub`. -/
def saturatingSub (a b : ℤ) : ℤ := saturated (a - b)

/-- `i64::saturating_mul`. -/
def saturatingMul (a b : ℤ) : ℤ := saturated (a * b)

variable {a b : ℤ}

theorem inRange_mk (hmin : -9223372036854775808 ≤ a) (hmax : a ≤ 9223372036854775807) :
    InRange a :=
  ⟨hmin, hmax⟩

theorem inRange_of_nonneg (h : 0 ≤ a) (hmax : a ≤ max) : InRange a :=
  ⟨le_trans (by decide) h, hmax⟩

theorem checked_eq (h : InRange a) : checked a = some a := if_pos h

theorem add_eq (h : InRange (a + b)) : add a b = some (a + b) := checked_eq h

theorem sub_eq (h : InRange (a - b)) : sub a b = some (a - b) := checked_eq h

theorem mul_eq (h : InRange (a * b)) : mul a b = some (a * b) := checked_eq h

theorem saturated_eq (h : InRange a) : saturated a = a := by
  rw [saturated, if_neg (not_lt_of_ge h.1), if_neg (not_lt_of_ge h.2)]

theorem saturatingAdd_eq (h : InRange (a + b)) : saturatingAdd a b = a + b := saturated_eq h

theorem saturatingSub_eq (h : InRange (a - b)) : saturatingSub a b = a - b := saturated_eq h

theorem saturatingMul_eq (h : InRange (a * b)) : saturatingMul a b = a * b := saturated_eq h

/-- A number that is not negative is divided by a positive one as an integer is. -/
theorem div_eq (ha : 0 ≤ a) (hmax : a ≤ max) (hb : 0 < b) :
    div a b = some (a / b) := by
  have hlow := Int.ediv_nonneg ha hb.le
  have hhigh := Int.ediv_le_self b ha
  rw [div, if_neg hb.ne', Int.tdiv_eq_ediv_of_nonneg ha]
  exact checked_eq (inRange_of_nonneg hlow (hhigh.trans hmax))

/-- A division of a negative number, shifted first, rounds down. -/
theorem div_shifted (ha : a < 0) (hmin : min ≤ a) (hb : 0 < b) :
    div (a - (b - 1)) b = some (a / b) := by
  have hquotient : (a - (b - 1)).tdiv b = a / b := by
    rw [show a - (b - 1) = -(-a + b - 1) by omega, Int.neg_tdiv,
      Int.tdiv_eq_ediv_of_nonneg (by omega)]
    have hsplit := Int.mul_ediv_add_emod a b
    have hmod := Int.emod_nonneg a hb.ne'
    have hlt := Int.emod_lt_of_pos a hb
    have hneg : -a + b - 1 = b - 1 - a % b + b * -(a / b) := by
      rw [mul_neg]
      omega
    rw [hneg, Int.add_mul_ediv_left _ _ hb.ne', Int.ediv_eq_zero_of_lt (by omega) (by omega)]
    omega
  have hlow : a ≤ a / b := Int.le_ediv_of_mul_le hb (by nlinarith)
  have hhigh := Int.ediv_neg_of_neg_of_pos ha hb
  rw [div, if_neg hb.ne', hquotient]
  exact checked_eq ⟨hmin.trans hlow, hhigh.le.trans (by decide)⟩

/-! ### Steps of a computation -/

variable {α : Type} (f : ℤ → Option α)

theorem some_bind (a : ℤ) : (some a >>= f) = f a := rfl

theorem add_bind (h : InRange (a + b)) : (add a b >>= f) = f (a + b) := by
  rw [add_eq h]
  rfl

theorem sub_bind (h : InRange (a - b)) : (sub a b >>= f) = f (a - b) := by
  rw [sub_eq h]
  rfl

theorem mul_bind (h : InRange (a * b)) : (mul a b >>= f) = f (a * b) := by
  rw [mul_eq h]
  rfl

theorem div_bind (ha : 0 ≤ a) (h : InRange a) (hb : 0 < b) : (div a b >>= f) = f (a / b) := by
  rw [div_eq ha h.2 hb]
  rfl

end WayfinderRouter.I64
