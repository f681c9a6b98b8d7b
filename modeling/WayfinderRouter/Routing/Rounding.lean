import WayfinderRouter.Decimals
import WayfinderRouter.Double

/-!
# Rounding as Python does

A double is written with twenty decimals, correctly rounded, and rounded by its digits. A double
that is closer to the middle of two results than half a unit of the last decimal is written as the
middle, and its side is lost.

## Main definitions

- `pythonRound` — the rounded double
- `pythonRetained` — its digits as an integer

## Main results

- `pythonRetained_eq` — the digits are those of a number that is rounded twice
- `python_round_exact` — when they are the digits of the number
-/

namespace WayfinderRouter.Routing

open Decimals

/-! ## Model -/

/-- A number with twenty decimals (the format `{:.20}`). -/
def formatDecimals (value : ℚ) : List Char :=
  let rounded := (roundHalfEven (value * (10 ^ 20 : ℕ))).toNat
  Nat.toDigits 10 (rounded / 10 ^ 20) ++ '.' :: fixedDigits 20 rounded

/-- `str::split_once`. -/
def splitOnce (c : Char) : List Char → Option (List Char × List Char)
  | [] => none
  | d :: text =>
    if d = c then some ([], text) else (splitOnce c text).map fun parts => (d :: parts.1, parts.2)

/-- Zeros for the decimals that are missing. -/
def padZeros : ℕ → ℕ → Option ℕ
  | 0, n => some n
  | missing + 1, n => (U64.checkedMul n 10).bind (padZeros missing)

/-- The rounding of `python_round` away from the digits that are kept. -/
def shouldIncrement (tail : List Char) (retained : ℕ) : Bool :=
  let firstDiscarded := tail.headD '0'
  if '5' < firstDiscarded then true
  else if firstDiscarded < '5' then false
  else tail.tail.any (· ≠ '0') || retained % 2 = 1

/-- The integer `retained` of `python_round`, from the digits before and after the point. -/
def retainedOf (integer decimals : List Char) (places : ℕ) : Option ℕ := do
  let scale ← (some (10 ^ places)).filter (· ≤ U64.max)
  let integerValue ← readDigits integer
  let base ← U64.checkedMul integerValue scale
  let digits ← readDigits (decimals.take places)
  let fractional ← padZeros (places - min decimals.length places) digits
  let retained ← U64.checkedAdd base fractional
  if shouldIncrement (decimals.drop places) retained then some (U64.saturatingAdd retained 1)
  else some retained

/-- The integer `retained` of `python_round`. -/
def pythonRetained (value : ℚ) (places : ℕ) : Option ℕ := do
  let parts ← splitOnce '.' (formatDecimals value)
  retainedOf parts.1 parts.2 places

/-- `python_round`. -/
def pythonRound : Double → ℕ → Double
  | .notFinite, _ => .notFinite
  | .finite value, places =>
    if 12 < places then .finite value
    else
      match pythonRetained |value| places with
      | none => .finite value
      | some retained =>
        let rounded := nearest (nearest retained / nearest (10 ^ places : ℕ))
        .finite (if value < 0 then -rounded else rounded)

/-! ## Digits -/

theorem splitOnce_append {c : Char} {text : List Char} (h : c ∉ text) (rest : List Char) :
    splitOnce c (text ++ c :: rest) = some (text, rest) := by
  induction text with
  | nil => exact if_pos rfl
  | cons d text ih =>
    rw [List.mem_cons, not_or] at h
    rw [List.cons_append, splitOnce, if_neg (Ne.symm h.1), ih h.2]
    rfl

theorem point_not_mem_toDigits (n : ℕ) : '.' ∉ Nat.toDigits 10 n := by
  intro hmem
  have hdigit := Nat.isDigit_of_mem_toDigits (by decide) (by decide) hmem
  revert hdigit
  decide

/-- The digits after those that are kept decide as the remainder does. -/
theorem shouldIncrement_fixedDigits (width R q : ℕ) :
    shouldIncrement (fixedDigits (1 + width) R) q =
      decide (10 ^ (1 + width) < 2 * (R % 10 ^ (1 + width)) ∨
        2 * (R % 10 ^ (1 + width)) = 10 ^ (1 + width) ∧ q % 2 = 1) := by
  have hgreater : ∀ d < 10, '5' < Nat.digitChar d ↔ 5 < d := by decide
  have hless : ∀ d < 10, Nat.digitChar d < '5' ↔ d < 5 := by decide
  have hlast : fixedDigits 1 (R / 10 ^ width) = [Nat.digitChar (R / 10 ^ width % 10)] := rfl
  have hpow : 10 ^ (1 + width) = 10 ^ width * 10 := by rw [add_comm, pow_succ]
  have hmod : R % (10 ^ width * 10) = R % 10 ^ width + 10 ^ width * (R / 10 ^ width % 10) :=
    Nat.mod_mul
  have hrest := Nat.mod_lt R (pow_pos (by decide : 0 < 10) width)
  have hdigit : R / 10 ^ width % 10 < 10 := Nat.mod_lt _ (by decide)
  rw [fixedDigits_add, hlast, hpow, hmod]
  generalize R / 10 ^ width % 10 = d at hdigit
  rw [shouldIncrement, List.singleton_append, List.headD_cons, List.tail_cons, any_fixedDigits]
  generalize R % 10 ^ width = e at hrest
  generalize 10 ^ width = W at hrest
  simp only [hgreater d hdigit, hless d hdigit]
  rcases lt_trichotomy d 5 with hd | rfl | hd
  · have hle : W * d ≤ W * 4 := Nat.mul_le_mul_left W (by omega)
    rw [if_neg (by omega), if_pos hd, eq_comm, decide_eq_false_iff_not]
    omega
  · rw [if_neg (lt_irrefl 5), if_neg (lt_irrefl 5), ← Bool.decide_or, decide_eq_decide]
    omega
  · have hle : W * 6 ≤ W * d := Nat.mul_le_mul_left W hd
    rw [if_pos hd, eq_comm, decide_eq_true_eq]
    omega

/-- What is retained of a number that is written with twenty decimals. -/
theorem retainedOf_eq {R places width : ℕ} (hplaces : places + (1 + width) = 20)
    (hR : R / 10 ^ (1 + width) ≤ 2 ^ 53) :
    retainedOf (Nat.toDigits 10 (R / 10 ^ 20)) (fixedDigits 20 R) places =
      some (R / 10 ^ (1 + width) +
        if 10 ^ (1 + width) < 2 * (R % 10 ^ (1 + width)) ∨
          2 * (R % 10 ^ (1 + width)) = 10 ^ (1 + width) ∧ R / 10 ^ (1 + width) % 2 = 1
        then 1 else 0) := by
  have hmax : 2 ^ 53 + 1 ≤ U64.max := by decide
  have hscale : 10 ^ places ≤ U64.max :=
    (Nat.pow_le_pow_right (by decide) (by omega : places ≤ 19)).trans (by decide)
  have hpow : 10 ^ 20 = 10 ^ (1 + width) * 10 ^ places := by
    rw [← pow_add, add_comm, hplaces]
  have hquotient : R / 10 ^ 20 = R / 10 ^ (1 + width) / 10 ^ places := by
    rw [hpow, Nat.div_div_eq_div_mul]
  have hdigits : fixedDigits 20 R =
      fixedDigits places (R / 10 ^ (1 + width)) ++ fixedDigits (1 + width) R := by
    rw [← hplaces]
    exact fixedDigits_add places (1 + width) R
  have htake : (fixedDigits 20 R).take places = fixedDigits places (R / 10 ^ (1 + width)) := by
    rw [hdigits, List.take_left' (length_fixedDigits _ _)]
  have hdrop : (fixedDigits 20 R).drop places = fixedDigits (1 + width) R := by
    rw [hdigits, List.drop_left' (length_fixedDigits _ _)]
  have hlength : places - min (fixedDigits 20 R).length places = 0 := by
    rw [length_fixedDigits]
    omega
  rw [retainedOf, htake, hdrop, hlength, hquotient]
  generalize R / 10 ^ (1 + width) = q at hR
  have hsum : q / 10 ^ places * 10 ^ places + q % 10 ^ places = q := by
    rw [mul_comm]
    exact Nat.div_add_mod q _
  have hle : q / 10 ^ places ≤ q := Nat.div_le_self _ _
  have hfilter : (some (10 ^ places)).filter (fun n => decide (n ≤ U64.max)) = some (10 ^ places) :=
    Option.filter_some_pos (decide_eq_true hscale)
  have hbase : U64.checkedMul (q / 10 ^ places) (10 ^ places) =
      some (q / 10 ^ places * 10 ^ places) := if_pos (by omega)
  have hadd : U64.checkedAdd (q / 10 ^ places * 10 ^ places) (q % 10 ^ places) = some q := by
    rw [U64.checkedAdd, hsum]
    exact if_pos (by omega)
  rw [hfilter, readDigits_toDigits (by omega), readDigits_fixedDigits (by omega)]
  simp only [Option.bind_eq_bind, Option.bind_some, hbase, padZeros, hadd,
    shouldIncrement_fixedDigits, decide_eq_true_eq]
  rw [U64.saturatingAdd_eq (by omega)]
  split_ifs <;> rfl

/-- The digits that are retained are those of a number that is rounded to twenty decimals first. -/
theorem pythonRetained_eq {value : ℚ} {places : ℕ} (hplaces : places ≤ 12) (hpos : 0 ≤ value)
    (hvalue : value < 2 ^ 53 / 10 ^ places) :
    pythonRetained value places =
      some (roundHalfEven
        ((roundHalfEven (value * (10 ^ 20 : ℕ)) : ℚ) / (10 ^ (20 - places) : ℕ))).toNat := by
  obtain ⟨width, hwidth⟩ : ∃ width, places + (1 + width) = 20 := ⟨19 - places, by omega⟩
  have hexp : 20 - places = 1 + width := by omega
  have hK : (0 : ℚ) < (10 ^ (1 + width) : ℕ) := by positivity
  set r := roundHalfEven (value * (10 ^ 20 : ℕ)) with hr
  have hnonneg : 0 ≤ r := roundHalfEven_nonneg (by positivity)
  obtain ⟨R, hR⟩ := Int.eq_ofNat_of_zero_le hnonneg
  -- rounding does not leave the range
  have hbound : R ≤ 2 ^ 53 * 10 ^ (1 + width) := by
    have hscaled : value * (10 ^ 20 : ℕ) < (2 ^ 53 * 10 ^ (1 + width) : ℕ) := by
      rw [lt_div_iff₀ (by positivity)] at hvalue
      have hsplit : ((10 ^ 20 : ℕ) : ℚ) = 10 ^ places * (10 ^ (1 + width) : ℕ) := by
        rw [Nat.cast_pow, Nat.cast_pow, ← hwidth, pow_add]
        rfl
      rw [hsplit, ← mul_assoc, Nat.cast_mul]
      push_cast at hK ⊢
      exact mul_lt_mul_of_pos_right hvalue hK
    have hround := (abs_le.mp (abs_roundHalfEven_sub_le (value * (10 ^ 20 : ℕ)))).2
    rw [← hr, hR] at hround
    have hlt : ((R : ℤ) : ℚ) < ((2 ^ 53 * 10 ^ (1 + width) + 1 : ℕ) : ℚ) := by
      push_cast at hscaled hround ⊢
      linarith
    exact Nat.lt_succ_iff.mp (by exact_mod_cast hlt)
  have hquotient : R / 10 ^ (1 + width) ≤ 2 ^ 53 :=
    Nat.div_le_of_le_mul (by rw [mul_comm]; exact hbound)
  have hformat : formatDecimals value =
      Nat.toDigits 10 (R / 10 ^ 20) ++ '.' :: fixedDigits 20 R := by
    rw [formatDecimals, ← hr, hR]
    rfl
  have hcast : (((R : ℕ) : ℤ) : ℚ) = (R : ℚ) := Int.cast_natCast R
  rw [pythonRetained, hformat, splitOnce_append (point_not_mem_toDigits _), hexp, hR, hcast,
    roundHalfEven_div R (by positivity)]
  exact retainedOf_eq hwidth hquotient

/-- The digits that are retained are those of the number, rounded half to even, exactly when the
number is not within half a unit of the twentieth decimal of a middle whose even side it is not
on. -/
theorem python_round_exact {value : ℚ} {places : ℕ} (hplaces : places ≤ 12)
    (hvalue : |value| < 2 ^ 53 / 10 ^ places) :
    pythonRetained |value| places = some (roundHalfEven (|value| * 10 ^ places)).toNat ↔
      ¬ TwiceRounded (10 ^ (20 - places)) (|value| * 10 ^ places) := by
  obtain ⟨m, hm, hparts⟩ : ∃ m, 0 < m ∧ 10 ^ (20 - places) = 4 * m := by
    obtain ⟨k, hk⟩ : ∃ k, 20 - places = k + 2 := ⟨18 - places, by omega⟩
    exact ⟨25 * 10 ^ k, by positivity, by rw [hk, pow_add]; ring⟩
  have hscale : |value| * (10 ^ 20 : ℕ) = |value| * 10 ^ places * (4 * m : ℕ) := by
    have hwidth : places + (20 - places) = 20 := by omega
    rw [← hparts, mul_assoc, Nat.cast_pow, Nat.cast_pow, ← hwidth, pow_add, hwidth]
    rfl
  have hexact : 0 ≤ roundHalfEven (|value| * 10 ^ places) := roundHalfEven_nonneg (by positivity)
  have htwice : 0 ≤ roundHalfEven
      ((roundHalfEven (|value| * 10 ^ places * (4 * m : ℕ)) : ℚ) / (4 * m : ℕ)) := by
    have hfirst := roundHalfEven_nonneg (by positivity :
      0 ≤ |value| * 10 ^ places * (4 * m : ℕ))
    exact roundHalfEven_nonneg (div_nonneg (by exact_mod_cast hfirst) (by positivity))
  rw [pythonRetained_eq hplaces (abs_nonneg value) hvalue, hscale, hparts, Option.some.injEq,
    ← roundHalfEven_twice hm]
  constructor
  · intro h
    omega
  · intro h
    rw [h]

/-- An eighth is rounded half to even to two places. -/
theorem python_round_exact_eighth :
    pythonRetained |1 / 8| 2 = some (roundHalfEven (|1 / 8| * 10 ^ 2)).toNat := by
  have habs : |(1 / 8 : ℚ)| = 1 / 8 := abs_of_pos (by norm_num)
  have hvalue : |(1 / 8 : ℚ)| < 2 ^ 53 / 10 ^ 2 := by
    rw [habs]
    norm_num
  refine (python_round_exact (by decide) hvalue).mpr ?_
  rintro ⟨n, hnear, hside⟩
  rw [habs] at hnear hside
  obtain ⟨hlow, hhigh⟩ := abs_le.mp hnear
  have hlt : (n : ℚ) < 13 := by
    norm_num at hlow
    linarith
  have hgt : (11 : ℚ) < n := by
    norm_num at hhigh
    linarith
  have hlt' : n < 13 := by exact_mod_cast hlt
  have hgt' : 11 < n := by exact_mod_cast hgt
  obtain rfl : n = 12 := by omega
  norm_num at hside

/-- The double nearest to 0.00005 is above the middle between 0 and 0.0001, and is rounded to 0. -/
theorem python_round_loses_side :
    nearest (7378697629483821 / 147573952589676412928) =
        7378697629483821 / 147573952589676412928 ∧
      pythonRetained |7378697629483821 / 147573952589676412928| 4 ≠
        some (roundHalfEven (|7378697629483821 / 147573952589676412928| * 10 ^ 4)).toNat := by
  decide +kernel

end WayfinderRouter.Routing
