import WayfinderRouter.Binary64

/-!
# Numbers of a configuration

A configuration writes its numbers with at most six decimals. Rounding to six decimals goes
through 64-bit integers and through doubles, so a large number can be moved although it has no
more than six decimals.

## Main definitions

- `pythonRound` — a double at a number of decimals
- `IsMillionths` — a double that is read from six decimals
- `IsMillionths.pythonRound` — such a double is kept below `2 ^ 33`
- `pythonRound_mono` — rounding to two decimals keeps the order
-/

namespace WayfinderRouter.Config

/-- `python_round` of a finite double. The twenty decimals are those of `{:.20}`. -/
def pythonRound (value : ℚ) (places : ℕ) : ℚ :=
  let rendered := (roundHalfEven (|value| * 10 ^ 20)).toNat
  let retained := rendered / 10 ^ (20 - places)
  let tail := rendered % 10 ^ (20 - places)
  let half := 5 * 10 ^ (19 - places)
  let shouldIncrement := half < tail ∨ tail = half ∧ retained % 2 = 1
  if 12 < places ∨ 2 ^ 64 ≤ retained then value
  else
    let retained := if shouldIncrement then min (retained + 1) (2 ^ 64 - 1) else retained
    let rounded := nearest (nearest retained / 10 ^ places)
    if value < 0 then -rounded else rounded

/-- The double is read from a number of the given millionths. -/
def IsMillionths (n : ℕ) (value : ℚ) : Prop := |value| = nearest (n / 10 ^ 6)

/-- The integer that is kept of a number close to `n` units. -/
theorem retained_eq {r n : ℕ} (hle : r ≤ n * 10 ^ 14 + 48 * 10 ^ 12)
    (hge : n * 10 ^ 14 ≤ r + 48 * 10 ^ 12) :
    (if 5 * 10 ^ 13 < r % 10 ^ 14 ∨ r % 10 ^ 14 = 5 * 10 ^ 13 ∧ r / 10 ^ 14 % 2 = 1 then
      r / 10 ^ 14 + 1 else r / 10 ^ 14) = n := by
  split <;> omega

/-- Below `2 ^ 33` a double is less than half a millionth away from what it is read from. -/
theorem abs_nearest_millionths_sub_le {n : ℕ} (hn : n < 2 ^ 33 * 10 ^ 6) :
    |nearest (n / 10 ^ 6) - (n / 10 ^ 6 : ℚ)| ≤ 2 ^ (-20 : ℤ) / 2 := by
  have hlt : |(n / 10 ^ 6 : ℚ)| < 2 ^ 33 := by
    have hcast : (n : ℚ) < 2 ^ 33 * 10 ^ 6 := by exact_mod_cast hn
    rw [abs_of_nonneg (by positivity), div_lt_iff₀ (by norm_num)]
    exact hcast
  have hunit : unitExponent (n / 10 ^ 6) ≤ -20 := unitExponent_le (by norm_num) hlt
  have hpow : (2 : ℚ) ^ unitExponent (n / 10 ^ 6) ≤ 2 ^ (-20 : ℤ) :=
    zpow_le_zpow_right₀ (by norm_num) hunit
  linarith [abs_nearest_sub_le (n / 10 ^ 6)]

/-- The twenty decimals of a double that is read from six. -/
theorem IsMillionths.rendered {value : ℚ} {n : ℕ} (hvalue : IsMillionths n value)
    (hn : n < 2 ^ 33 * 10 ^ 6) :
    ∃ r : ℕ, roundHalfEven (|value| * 10 ^ 20) = r ∧ r ≤ n * 10 ^ 14 + 48 * 10 ^ 12 ∧
      n * 10 ^ 14 ≤ r + 48 * 10 ^ 12 := by
  have hclose := abs_nearest_millionths_sub_le hn
  rw [← hvalue, abs_le] at hclose
  have hrendered := abs_roundHalfEven_sub_le (|value| * 10 ^ 20)
  rw [abs_le] at hrendered
  obtain ⟨r, hr⟩ : ∃ r : ℕ, roundHalfEven (|value| * 10 ^ 20) = r :=
    Int.eq_ofNat_of_zero_le (roundHalfEven_nonneg (by positivity))
  rw [hr] at hrendered
  refine ⟨r, hr, ?_, ?_⟩
  · have hle : (r : ℚ) ≤ n * 10 ^ 14 + 48 * 10 ^ 12 := by
      norm_num at hclose hrendered ⊢
      linarith
    exact_mod_cast hle
  · have hge : (n : ℚ) * 10 ^ 14 ≤ r + 48 * 10 ^ 12 := by
      norm_num at hclose hrendered ⊢
      linarith
    exact_mod_cast hge

theorem nearest_natCast {n : ℕ} (h : n < 2 ^ 53) : nearest (n : ℚ) = n := by
  refine nearest_intCast (n := n) ?_
  have hcast : (n : ℚ) < 2 ^ 53 := by exact_mod_cast h
  rwa [Int.cast_natCast, abs_of_nonneg (by positivity)]

/-- The sign of a number, in front of its absolute value. -/
theorem sign_abs (value : ℚ) : (if value < 0 then -|value| else |value|) = value := by
  rcases lt_or_ge value 0 with hneg | hpos
  · rw [if_pos hneg, abs_of_neg hneg, neg_neg]
  · rw [if_neg hpos.not_gt, abs_of_nonneg hpos]

/-- A double that is read from six decimals is kept below `2 ^ 33`. -/
theorem IsMillionths.pythonRound {value : ℚ} {n : ℕ} (hvalue : IsMillionths n value)
    (hn : n < 2 ^ 33 * 10 ^ 6) : pythonRound value 6 = value := by
  obtain ⟨r, hr, hle, hge⟩ := hvalue.rendered hn
  have hmin : min (r / 10 ^ 14 + 1) (2 ^ 64 - 1) = r / 10 ^ 14 + 1 := by omega
  have hretained : ¬ (12 < 6 ∨ 2 ^ 64 ≤ r / 10 ^ 14) := by omega
  simp only [Config.pythonRound, hr, Int.toNat_natCast, Nat.reduceSub, hmin, retained_eq hle hge,
    nearest_natCast (show n < 2 ^ 53 by omega)]
  rw [if_neg hretained, ← hvalue, sign_abs]

/-- The integer that is kept of a number close to `n` of a hundred times larger units. -/
theorem retained_four_eq {r n : ℕ} (hle : r ≤ n * 100 * 10 ^ 14 + 48 * 10 ^ 12)
    (hge : n * 100 * 10 ^ 14 ≤ r + 48 * 10 ^ 12) :
    (if 5 * 10 ^ 15 < r % 10 ^ 16 ∨ r % 10 ^ 16 = 5 * 10 ^ 15 ∧ r / 10 ^ 16 % 2 = 1 then
      r / 10 ^ 16 + 1 else r / 10 ^ 16) = n := by
  split <;> omega

/-- A double between zero and one that is read from four decimals is kept at four decimals. -/
theorem pythonRound_four {value : ℚ} {n : ℕ} (hvalue : |value| = nearest (n / 10 ^ 4))
    (hn : n ≤ 10 ^ 4) : pythonRound value 4 = value := by
  have hscale : ((n * 100 : ℕ) : ℚ) / 10 ^ 6 = n / 10 ^ 4 := by
    push_cast
    ring
  have hmillionths : IsMillionths (n * 100) value := by rw [IsMillionths, hvalue, hscale]
  obtain ⟨r, hr, hle, hge⟩ := hmillionths.rendered (by omega)
  have hmin : min (r / 10 ^ 16 + 1) (2 ^ 64 - 1) = r / 10 ^ 16 + 1 := by omega
  have hretained : ¬ (12 < 4 ∨ 2 ^ 64 ≤ r / 10 ^ 16) := by omega
  simp only [Config.pythonRound, hr, Int.toNat_natCast, Nat.reduceSub, hmin,
    retained_four_eq hle hge, nearest_natCast (show n < 2 ^ 53 by omega)]
  rw [if_neg hretained, ← hvalue, sign_abs]

/-- An integer of twelve digits is moved. -/
example : pythonRound 600000000001 6 ≠ 600000000001 := by decide +kernel

/-! ## Two decimals -/

/-- The hundredths that are kept of a number. -/
def hundredths (value : ℚ) : ℕ :=
  let rendered := (roundHalfEven (|value| * 10 ^ 20)).toNat
  if 5 * 10 ^ 17 < rendered % 10 ^ 18 ∨
      rendered % 10 ^ 18 = 5 * 10 ^ 17 ∧ rendered / 10 ^ 18 % 2 = 1 then
    rendered / 10 ^ 18 + 1
  else rendered / 10 ^ 18

theorem hundredths_mono {x y : ℚ} (hx : 0 ≤ x) (hxy : x ≤ y) : hundredths x ≤ hundredths y := by
  have hrendered :
      (roundHalfEven (|x| * 10 ^ 20)).toNat ≤ (roundHalfEven (|y| * 10 ^ 20)).toNat := by
    rw [abs_of_nonneg hx, abs_of_nonneg (hx.trans hxy)]
    exact Int.toNat_le_toNat (roundHalfEven_mono (by gcongr))
  unfold hundredths
  dsimp only
  split_ifs <;> omega

theorem hundredths_le {x : ℚ} (hx : 0 ≤ x) (hle : x ≤ 1) : hundredths x ≤ 100 :=
  (hundredths_mono hx hle).trans (by decide +kernel)

/-- Two decimals of a number between zero and one. -/
theorem pythonRound_eq {x : ℚ} (hx : 0 ≤ x) (hle : x ≤ 1) :
    pythonRound x 2 = nearest (hundredths x / 100) := by
  have hkept := hundredths_le hx hle
  have hinteger : nearest (hundredths x : ℚ) = hundredths x := nearest_natCast (by omega)
  have hrendered : (roundHalfEven (|x| * 10 ^ 20)).toNat / 10 ^ 18 ≤ 100 := by
    unfold hundredths at hkept
    dsimp only at hkept
    split_ifs at hkept <;> omega
  have hretained : ¬(12 < 2 ∨ 2 ^ 64 ≤ (roundHalfEven (|x| * 10 ^ 20)).toNat / 10 ^ 18) := by omega
  have hmin : min ((roundHalfEven (|x| * 10 ^ 20)).toNat / 10 ^ 18 + 1) (2 ^ 64 - 1) =
      (roundHalfEven (|x| * 10 ^ 20)).toNat / 10 ^ 18 + 1 := by omega
  simp only [pythonRound, Nat.reduceSub, hmin]
  rw [if_neg hretained, if_neg hx.not_gt]
  change nearest (nearest (hundredths x) / 10 ^ 2) = _
  rw [hinteger]
  norm_num

/-- Rounding to two decimals keeps the order of numbers between zero and one. -/
theorem pythonRound_mono {x y : ℚ} (hx : 0 ≤ x) (hxy : x ≤ y) (hy : y ≤ 1) :
    pythonRound x 2 ≤ pythonRound y 2 := by
  have hcast : (hundredths x : ℚ) ≤ hundredths y := by exact_mod_cast hundredths_mono hx hxy
  rw [pythonRound_eq hx (hxy.trans hy), pythonRound_eq (hx.trans hxy) hy]
  exact nearest_mono (by positivity) (by gcongr)

theorem pythonRound_nonneg {x : ℚ} (hx : 0 ≤ x) (hle : x ≤ 1) : 0 ≤ pythonRound x 2 := by
  rw [pythonRound_eq hx hle]
  exact nearest_nonneg (by positivity)

theorem pythonRound_le_one {x : ℚ} (hx : 0 ≤ x) (hle : x ≤ 1) : pythonRound x 2 ≤ 1 := by
  have hone : pythonRound 1 2 = 1 := by decide +kernel
  exact hone ▸ pythonRound_mono hx hle le_rfl

end WayfinderRouter.Config
