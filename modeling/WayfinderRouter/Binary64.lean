import Mathlib.Data.Int.ConditionallyCompleteOrder
import Mathlib.Data.Int.Log
import Mathlib.Data.Rat.Floor
import Mathlib.Tactic.FieldSimp
import Mathlib.Tactic.Linarith
import Mathlib.Tactic.NormNum
import Mathlib.Tactic.Ring

/-!
# Rounding to double precision

Rational numbers are rounded to the nearest number of the binary64 format, ties to even. Overflow
is left out: the format is taken to have no largest exponent.

## Main definitions

- `roundHalfEven` — the nearest integer, ties to even
- `nearest` — the nearest double, ties to even
- `abs_nearest_sub_le`, `nearest_intCast` — the error of rounding, and integers without one
- `nearest_mono` — rounding keeps the order
- `debugDouble`, `parseDouble` — the text of a double, and the double of a text
-/

namespace WayfinderRouter

/-- The nearest integer, ties to even. -/
def roundHalfEven (x : ℚ) : ℤ :=
  if x - ⌊x⌋ < 1 / 2 then ⌊x⌋
  else if 1 / 2 < x - ⌊x⌋ then ⌊x⌋ + 1
  else if ⌊x⌋ % 2 = 0 then ⌊x⌋ else ⌊x⌋ + 1

theorem abs_roundHalfEven_sub_le (x : ℚ) : |(roundHalfEven x : ℚ) - x| ≤ 1 / 2 := by
  have hfloor := Int.floor_le x
  have hlt := Int.lt_floor_add_one x
  rw [abs_le]
  unfold roundHalfEven
  split_ifs <;> push_cast <;> constructor <;> linarith

theorem roundHalfEven_nonneg {x : ℚ} (hx : 0 ≤ x) : 0 ≤ roundHalfEven x := by
  have hround := abs_roundHalfEven_sub_le x
  rw [abs_le] at hround
  have hgt : (-1 : ℚ) < roundHalfEven x := by linarith
  have hgt' : -1 < roundHalfEven x := by exact_mod_cast hgt
  omega

/-- The nearest integer is the only one that is less than a half away. -/
theorem roundHalfEven_eq {x : ℚ} {n : ℤ} (h : |x - n| < 1 / 2) : roundHalfEven x = n := by
  have hround := abs_roundHalfEven_sub_le x
  rw [abs_le] at hround
  rw [abs_lt] at h
  have hlt : ((roundHalfEven x - n : ℤ) : ℚ) < 1 := by push_cast; linarith
  have hgt : (-1 : ℚ) < ((roundHalfEven x - n : ℤ) : ℚ) := by push_cast; linarith
  have hlt' : roundHalfEven x - n < 1 := by exact_mod_cast hlt
  have hgt' : -1 < roundHalfEven x - n := by exact_mod_cast hgt
  omega

@[simp] theorem roundHalfEven_intCast (n : ℤ) : roundHalfEven (n : ℚ) = n :=
  roundHalfEven_eq (by norm_num)

/-- The exponent of the unit in the last place. -/
def unitExponent (q : ℚ) : ℤ := max (Int.log 2 |q| - 52) (-1074)

/-- The nearest double, ties to even. -/
def nearest (q : ℚ) : ℚ := roundHalfEven (q / 2 ^ unitExponent q) * 2 ^ unitExponent q

theorem abs_nearest_sub_le (q : ℚ) : |nearest q - q| ≤ 2 ^ unitExponent q / 2 := by
  have hpos : (0 : ℚ) < 2 ^ unitExponent q := zpow_pos (by norm_num) _
  have hround := abs_roundHalfEven_sub_le (q / 2 ^ unitExponent q)
  have hsplit : nearest q - q =
      (roundHalfEven (q / 2 ^ unitExponent q) - q / 2 ^ unitExponent q) *
        2 ^ unitExponent q := by
    rw [nearest, sub_mul, div_mul_cancel₀ _ hpos.ne']
  rw [hsplit, abs_mul, abs_of_pos hpos]
  nlinarith

theorem unitExponent_le {q : ℚ} {k : ℕ} (hk : 0 < k) (h : |q| < 2 ^ k) :
    unitExponent q ≤ (k : ℤ) - 53 := by
  refine max_le ?_ (by omega)
  rcases eq_or_ne q 0 with rfl | hq
  · rw [abs_zero, Int.log_zero_right]
    omega
  · have hlog : Int.log 2 |q| < k := by
      rw [← Int.lt_zpow_iff_log_lt (by norm_num) (abs_pos.mpr hq)]
      exact_mod_cast h
    omega

/-- A multiple of the unit is a double. -/
theorem nearest_of_unit {q : ℚ} {m : ℤ} (h : q = m * 2 ^ unitExponent q) : nearest q = q := by
  have hpos : (0 : ℚ) < 2 ^ unitExponent q := zpow_pos (by norm_num) _
  have hdiv : q / 2 ^ unitExponent q = m := (div_eq_iff hpos.ne').mpr h
  rw [nearest, hdiv, roundHalfEven_intCast]
  exact h.symm

/-- Integers below `2 ^ 53` are doubles. -/
theorem nearest_intCast {n : ℤ} (h : |(n : ℚ)| < 2 ^ 53) : nearest n = n := by
  have hunit := unitExponent_le (by norm_num) h
  obtain ⟨k, hk⟩ : ∃ k : ℕ, unitExponent (n : ℚ) = -k := ⟨(-unitExponent (n : ℚ)).toNat, by omega⟩
  refine nearest_of_unit (m := n * 2 ^ k) ?_
  rw [hk, zpow_neg, zpow_natCast]
  push_cast
  field_simp

/-! ## Rounding keeps the order -/

theorem roundHalfEven_mono : Monotone roundHalfEven := by
  intro x y hxy
  have hfloor := Int.floor_mono hxy
  rcases lt_or_eq_of_le hfloor with hlt | heq
  · -- rounding stays between the floors
    have hx : roundHalfEven x ≤ ⌊x⌋ + 1 := by
      unfold roundHalfEven
      split_ifs <;> omega
    have hy : ⌊y⌋ ≤ roundHalfEven y := by
      unfold roundHalfEven
      split_ifs <;> omega
    omega
  · unfold roundHalfEven
    rw [← heq]
    split_ifs <;> first | omega | linarith

theorem nearest_nonneg {q : ℚ} (hq : 0 ≤ q) : 0 ≤ nearest q := by
  have hpos : (0 : ℚ) < 2 ^ unitExponent q := zpow_pos (by norm_num) _
  exact mul_nonneg (by exact_mod_cast roundHalfEven_nonneg (div_nonneg hq hpos.le)) hpos.le

theorem nearest_zero : nearest 0 = 0 := by
  have hzero := nearest_intCast (n := 0) (by norm_num)
  exact_mod_cast hzero

theorem two_pow_mul_zpow (n : ℕ) (e : ℤ) : ((2 ^ n : ℤ) : ℚ) * 2 ^ e = 2 ^ (n + e) := by
  rw [zpow_add₀ (by norm_num), zpow_natCast]
  push_cast
  rfl

/-- A double has at most `53` bits. -/
theorem nearest_le {x : ℚ} (hx : 0 < x) : nearest x ≤ 2 ^ (53 + unitExponent x) := by
  have hunit : (0 : ℚ) < 2 ^ unitExponent x := zpow_pos (by norm_num) _
  have hexp : Int.log 2 |x| - 52 ≤ unitExponent x := le_max_left _ _
  have hself := Int.lt_zpow_succ_log_self (b := 2) one_lt_two |x|
  have hle : x / 2 ^ unitExponent x ≤ ((2 ^ 53 : ℤ) : ℚ) := by
    rw [div_le_iff₀ hunit, two_pow_mul_zpow]
    calc x ≤ 2 ^ (Int.log 2 |x| + 1) := by rw [abs_of_pos hx] at hself ⊢; exact_mod_cast hself.le
      _ ≤ 2 ^ (((53 : ℕ) : ℤ) + unitExponent x) :=
        zpow_le_zpow_right₀ (by norm_num) (by push_cast; omega)
  have hround := roundHalfEven_mono hle
  rw [roundHalfEven_intCast] at hround
  calc nearest x ≤ ((2 ^ 53 : ℤ) : ℚ) * 2 ^ unitExponent x :=
        mul_le_mul_of_nonneg_right (by exact_mod_cast hround) hunit.le
    _ = 2 ^ (53 + unitExponent x) := two_pow_mul_zpow 53 _

/-- A double above the least exponent has `53` bits. -/
theorem le_nearest {x : ℚ} (hx : 0 < x) (hexp : unitExponent x = Int.log 2 |x| - 52) :
    2 ^ (52 + unitExponent x) ≤ nearest x := by
  have hunit : (0 : ℚ) < 2 ^ unitExponent x := zpow_pos (by norm_num) _
  have hself := Int.zpow_log_le_self (b := 2) one_lt_two (abs_pos.mpr hx.ne')
  have hge : ((2 ^ 52 : ℤ) : ℚ) ≤ x / 2 ^ unitExponent x := by
    have hsum : ((52 : ℕ) : ℤ) + (Int.log 2 |x| - 52) = Int.log 2 |x| := by push_cast; omega
    rw [le_div_iff₀ hunit, two_pow_mul_zpow, hexp, hsum]
    rw [abs_of_pos hx] at hself ⊢
    exact_mod_cast hself
  have hround := roundHalfEven_mono hge
  rw [roundHalfEven_intCast] at hround
  calc (2 : ℚ) ^ (52 + unitExponent x) = ((2 ^ 52 : ℤ) : ℚ) * 2 ^ unitExponent x :=
        (two_pow_mul_zpow 52 _).symm
    _ ≤ nearest x := mul_le_mul_of_nonneg_right (by exact_mod_cast hround) hunit.le

/-- Rounding to doubles keeps the order of numbers that are not negative. -/
theorem nearest_mono {x y : ℚ} (hx : 0 ≤ x) (hxy : x ≤ y) : nearest x ≤ nearest y := by
  rcases eq_or_lt_of_le hx with rfl | hpos
  · rw [nearest_zero]
    exact nearest_nonneg hxy
  have hlog : Int.log 2 |x| ≤ Int.log 2 |y| := by
    rw [abs_of_pos hpos, abs_of_pos (hpos.trans_le hxy)]
    exact Int.log_mono_right hpos hxy
  rcases eq_or_lt_of_le (show unitExponent x ≤ unitExponent y from max_le_max_right _ (by omega))
    with heq | hlt
  · have hunit : (0 : ℚ) < 2 ^ unitExponent y := zpow_pos (by norm_num) _
    have hround := roundHalfEven_mono ((div_le_div_iff_of_pos_right hunit).mpr hxy)
    rw [nearest, nearest, heq]
    exact mul_le_mul_of_nonneg_right (by exact_mod_cast hround) hunit.le
  · -- a power of two lies between the numbers
    have hexp : unitExponent y = Int.log 2 |y| - 52 := by
      unfold unitExponent at hlt ⊢
      omega
    calc nearest x ≤ 2 ^ (53 + unitExponent x) := nearest_le hpos
      _ ≤ 2 ^ (52 + unitExponent y) := zpow_le_zpow_right₀ (by norm_num) (by omega)
      _ ≤ nearest y := le_nearest (hpos.trans_le hxy) hexp

/-! ## Decimals -/

/-- The shortest decimal `m * 10 ^ e` that is rounded to a positive double, and the nearest to it
of that length. -/
def shortestDecimal (q : ℚ) : ℕ × ℤ :=
  ((List.range 17).findSome? fun n => candidate (Int.log 10 q - n)).getD (0, 0)
where
  /-- The decimal with the given last place. -/
  candidate (e : ℤ) : Option (ℕ × ℤ) :=
    let low := ⌊q / 10 ^ e⌋₊
    let readsBack (m : ℕ) : Bool := nearest (m * 10 ^ e) = q
    let lowIsNearer : Bool := roundHalfEven (q / 10 ^ e) = low
    if readsBack low && (lowIsNearer || !readsBack (low + 1)) then some (low, e)
    else if readsBack (low + 1) then
      -- a carry into the next place
      some (if (low + 1) % 10 = 0 then ((low + 1) / 10, e + 1) else (low + 1, e))
    else none

/-- The digits of a decimal with a point. -/
def positional (digits : String) (e : ℤ) (minPrecision : ℕ) : String :=
  let zeros (n : ℕ) : String := String.ofList (List.replicate n '0')
  if 0 ≤ e then
    digits ++ zeros e.toNat ++ if minPrecision = 0 then "" else "." ++ zeros minPrecision
  else
    let point := (digits.length : ℤ) + e
    if point ≤ 0 then "0." ++ zeros (-point).toNat ++ digits
    else String.ofList (digits.toList.take point.toNat) ++ "." ++
      String.ofList (digits.toList.drop point.toNat)

/-- The digits of a decimal with an exponent. -/
def scientific (digits : String) (e : ℤ) : String :=
  let exponent := toString ((digits.length : ℤ) + e - 1)
  match digits.toList with
  | [] => ""
  | [d] => String.ofList [d] ++ "e" ++ exponent
  | d :: rest => String.ofList (d :: '.' :: rest) ++ "e" ++ exponent

/-- The text of a double under `{:?}`. -/
def debugDouble (q : ℚ) : String :=
  if q = 0 then "0.0"
  else
    let decimal := shortestDecimal |q|
    let digits := toString decimal.1
    (if q < 0 then "-" else "") ++
      if |q| < nearest (1 / 10 ^ 4) ∨ 10 ^ 16 ≤ |q| then scientific digits decimal.2
      else positional digits decimal.2 1

/-- What `f64::from_str` reads. -/
inductive ParsedDouble where
  | finite (value : ℚ)
  | infinite (negative : Bool)
  | nan
deriving DecidableEq

/-- The text of a double under `{}`. -/
def ParsedDouble.display : ParsedDouble → String
  | .finite q =>
    if q = 0 then "0"
    else
      let decimal := shortestDecimal |q|
      (if q < 0 then "-" else "") ++ positional (toString decimal.1) decimal.2 0
  | .infinite negative => if negative then "-inf" else "inf"
  | .nan => "NaN"

/-- The value of a list of decimal digits. -/
def ofDigits (digits : List Char) : ℕ :=
  digits.foldl (fun n d => 10 * n + (d.toNat - '0'.toNat)) 0

/-- The sign in front of a number. -/
def splitSign : List Char → Bool × List Char
  | '+' :: rest => (false, rest)
  | '-' :: rest => (true, rest)
  | chars => (false, chars)

/-- The exponent after the digits of a number. -/
def parseExponent : List Char → Option ℤ
  | [] => some 0
  | c :: rest =>
    let (negative, digits) := splitSign rest
    if c.toLower = 'e' ∧ digits ≠ [] ∧ digits.all Char.isDigit then
      some (if negative then -ofDigits digits else ofDigits digits)
    else none

/-- `f64::from_str`. -/
def parseDouble (text : String) : Option ParsedDouble :=
  let (negative, chars) := splitSign text.toList
  let word := String.ofList (chars.map Char.toLower)
  if word = "inf" ∨ word = "infinity" then some (.infinite negative)
  else if word = "nan" then some .nan
  else
    let (whole, rest) := chars.span Char.isDigit
    let (part, rest) :=
      match rest with
      | '.' :: rest => rest.span Char.isDigit
      | _ => ([], rest)
    if whole = [] ∧ part = [] then none
    else
      (parseExponent rest).map fun (e : ℤ) =>
        let value := nearest (ofDigits (whole ++ part) * 10 ^ (e - part.length))
        if 2 ^ 1024 ≤ value then .infinite negative
        else .finite (if negative then -value else value)

end WayfinderRouter
