import Mathlib.Data.Nat.Digits.Lemmas
import WayfinderRouter.Binary64
import WayfinderRouter.Unsigned

/-!
# Decimal digits

Numbers are written with a fixed number of digits and read back with counters of 64 bits. A number
that has been rounded to some decimals, and is then rounded to fewer, may be rounded twice.

## Main definitions

- `fixedDigits`, `readDigits` — writing and reading
- `TwiceRounded` — where rounding twice is not rounding once

## Main results

- `readDigits_fixedDigits` — what is written is read back
- `roundHalfEven_div` — rounding a quotient
- `roundHalfEven_twice` — rounding twice
-/

namespace WayfinderRouter

/-- `u64::checked_mul`. -/
def U64.checkedMul (a b : ℕ) : Option ℕ := if a * b ≤ U64.max then some (a * b) else none

/-- `u64::checked_add`. -/
def U64.checkedAdd (a b : ℕ) : Option ℕ := if a + b ≤ U64.max then some (a + b) else none

namespace Decimals

/-- The last digits of a number, the most significant first. -/
def fixedDigits : ℕ → ℕ → List Char
  | 0, _ => []
  | width + 1, n => fixedDigits width (n / 10) ++ [Nat.digitChar (n % 10)]

/-- The value of a digit. -/
def digit? (c : Char) : Option ℕ :=
  if 48 ≤ c.toNat ∧ c.toNat - 48 ≤ 9 then some (c.toNat - 48) else none

/-- One more digit of a number. -/
def pushDigit (n : ℕ) (c : Char) : Option ℕ := do
  let digit ← digit? c
  let n ← U64.checkedMul n 10
  U64.checkedAdd n digit

/-- A number from its digits. -/
def readDigits (text : List Char) : Option ℕ := text.foldlM pushDigit 0

theorem length_fixedDigits (width n : ℕ) : (fixedDigits width n).length = width := by
  induction width generalizing n with
  | zero => rfl
  | succ width ih => rw [fixedDigits, List.length_append, ih, List.length_singleton]

theorem digit?_digitChar : ∀ d < 10, digit? (Nat.digitChar d) = some d := by decide

theorem pushDigit_digitChar {n d : ℕ} (hd : d < 10) (h : n * 10 + d ≤ U64.max) :
    pushDigit n (Nat.digitChar d) = some (n * 10 + d) := by
  rw [pushDigit, digit?_digitChar d hd]
  show (U64.checkedMul n 10 >>= fun n => U64.checkedAdd n d) = _
  rw [U64.checkedMul, if_pos (by omega)]
  exact if_pos h

/-- The digits after the last ones are the digits of the quotient. -/
theorem fixedDigits_add (first last n : ℕ) :
    fixedDigits (first + last) n = fixedDigits first (n / 10 ^ last) ++ fixedDigits last n := by
  induction last generalizing n with
  | zero => rw [Nat.add_zero, pow_zero, Nat.div_one, fixedDigits, List.append_nil]
  | succ last ih =>
    rw [← Nat.add_assoc, fixedDigits, ih, fixedDigits, List.append_assoc, Nat.div_div_eq_div_mul,
      ← pow_succ']

theorem readDigits_concat (text : List Char) (c : Char) :
    readDigits (text ++ [c]) = (readDigits text).bind fun n => pushDigit n c := by
  rw [readDigits, readDigits, List.foldlM_append]
  cases text.foldlM pushDigit 0 with
  | none => rfl
  | some n =>
    show (pushDigit n c >>= fun n => some n) = pushDigit n c
    cases pushDigit n c <;> rfl

/-- Fixed digits are read as the number, less what is left of them. -/
theorem readDigits_fixedDigits {width n : ℕ} (h : n % 10 ^ width ≤ U64.max) :
    readDigits (fixedDigits width n) = some (n % 10 ^ width) := by
  induction width generalizing n with
  | zero =>
    rw [pow_zero, Nat.mod_one]
    rfl
  | succ width ih =>
    have hsplit : n % 10 ^ (width + 1) = n / 10 % 10 ^ width * 10 + n % 10 := by
      rw [pow_succ', Nat.mod_mul]
      ring
    rw [hsplit] at h ⊢
    rw [fixedDigits, readDigits_concat, ih (by omega), Option.bind_some]
    exact pushDigit_digitChar (Nat.mod_lt _ (by decide)) h

/-- The digits of a number are read as the number. -/
theorem readDigits_toDigits {n : ℕ} (h : n ≤ U64.max) :
    readDigits (Nat.toDigits 10 n) = some n := by
  induction n using Nat.strongRecOn with
  | ind n ih =>
    by_cases hn : n < 10
    · rw [Nat.toDigits_of_lt_base hn]
      have hpush := @pushDigit_digitChar 0 n hn (by omega)
      rw [Nat.zero_mul, Nat.zero_add] at hpush
      show (pushDigit 0 (Nat.digitChar n) >>= fun n => some n) = some n
      rw [hpush]
      rfl
    · rw [Nat.toDigits_of_base_le (by decide) (Nat.not_lt.mp hn), readDigits_concat,
        ih (n / 10) (Nat.div_lt_self (by omega) (by decide)) (by omega), Option.bind_some,
        pushDigit_digitChar (Nat.mod_lt _ (by decide)) (by omega)]
      congr 1
      omega

/-- Some digit is not zero unless the number is. -/
theorem any_fixedDigits (width n : ℕ) :
    (fixedDigits width n).any (· ≠ '0') = decide (n % 10 ^ width ≠ 0) := by
  have hdigit : ∀ d < 10, decide (Nat.digitChar d ≠ '0') = decide (d ≠ 0) := by decide
  induction width generalizing n with
  | zero =>
    rw [pow_zero, Nat.mod_one]
    rfl
  | succ width ih =>
    have hsplit : n % 10 ^ (width + 1) = n / 10 % 10 ^ width * 10 + n % 10 := by
      rw [pow_succ', Nat.mod_mul]
      ring
    rw [fixedDigits, List.any_append, ih, List.any_cons, List.any_nil, Bool.or_false,
      hdigit _ (Nat.mod_lt _ (by decide)), ← Bool.decide_or, decide_eq_decide, hsplit]
    omega

end Decimals

/-! ## Rounding -/

theorem roundHalfEven_lower {x : ℚ} {n : ℤ} (hle : (n : ℚ) ≤ x) (hlt : x < n + 1 / 2) :
    roundHalfEven x = n :=
  roundHalfEven_eq (abs_lt.mpr ⟨by linarith, by linarith⟩)

theorem roundHalfEven_upper {x : ℚ} {n : ℤ} (hlt : (n : ℚ) + 1 / 2 < x) (hle : x ≤ n + 1) :
    roundHalfEven x = n + 1 := by
  refine roundHalfEven_eq (abs_lt.mpr ⟨?_, ?_⟩)
  · push_cast
    linarith
  · push_cast
    linarith

theorem roundHalfEven_tie (n : ℤ) :
    roundHalfEven ((n : ℚ) + 1 / 2) = if n % 2 = 0 then n else n + 1 := by
  have hfloor : ⌊(n : ℚ) + 1 / 2⌋ = n := by
    rw [Int.floor_eq_iff]
    constructor <;> linarith
  rw [roundHalfEven, hfloor, if_neg (by linarith), if_neg (by linarith)]

/-- A quotient is rounded by its remainder. -/
theorem roundHalfEven_div (a : ℕ) {M : ℕ} (hM : 0 < M) :
    roundHalfEven ((a : ℚ) / M) =
      (a / M + if M < 2 * (a % M) ∨ 2 * (a % M) = M ∧ a / M % 2 = 1 then 1 else 0 : ℕ) := by
  have hpos : (0 : ℚ) < M := by exact_mod_cast hM
  have hlt := Nat.mod_lt a hM
  have hdivide : (a : ℚ) / M = ((a / M : ℕ) : ℤ) + ((a % M : ℕ) : ℚ) / M := by
    have h : (a : ℚ) = M * (a / M : ℕ) + (a % M : ℕ) := by
      exact_mod_cast (Nat.div_add_mod a M).symm
    rw [div_eq_iff hpos.ne', add_mul, div_mul_cancel₀ _ hpos.ne', Int.cast_natCast, mul_comm]
    exact h
  rcases lt_trichotomy (2 * (a % M)) M with hless | htie | hmore
  · rw [if_neg (by omega), Nat.add_zero, hdivide]
    have hhalf : ((a % M : ℕ) : ℚ) / M < 1 / 2 := by
      rw [div_lt_iff₀ hpos]
      have h : ((2 * (a % M) : ℕ) : ℚ) < M := by exact_mod_cast hless
      push_cast at h
      linarith
    refine roundHalfEven_lower ?_ (by linarith)
    have hnonneg : (0 : ℚ) ≤ ((a % M : ℕ) : ℚ) / M := by positivity
    linarith
  · have hhalf : ((a % M : ℕ) : ℚ) / M = 1 / 2 := by
      rw [div_eq_iff hpos.ne']
      have h : ((2 * (a % M) : ℕ) : ℚ) = M := by exact_mod_cast htie
      push_cast at h
      linarith
    rw [hdivide, hhalf, roundHalfEven_tie]
    by_cases hodd : a / M % 2 = 1
    · rw [if_neg (by omega), if_pos (.inr ⟨htie, hodd⟩)]
      push_cast
      rfl
    · rw [if_pos (by omega), if_neg (by omega), Nat.add_zero]
  · rw [if_pos (.inl hmore), hdivide]
    have hhalf : 1 / 2 < ((a % M : ℕ) : ℚ) / M := by
      rw [lt_div_iff₀ hpos]
      have h : (M : ℚ) < ((2 * (a % M) : ℕ) : ℚ) := by exact_mod_cast hmore
      push_cast at h
      linarith
    have hone : ((a % M : ℕ) : ℚ) / M ≤ 1 := by
      rw [div_le_one hpos]
      exact_mod_cast hlt.le
    rw [@roundHalfEven_upper _ ((a / M : ℕ) : ℤ) (by linarith) (by linarith)]
    push_cast
    rfl

/-- Rounding to one part in `M` first leads to another integer: the number is within half a part
of the middle between two integers, and on the side of the odd one. -/
def TwiceRounded (M : ℕ) (x : ℚ) : Prop :=
  ∃ n : ℤ, |x - (n + 1 / 2)| ≤ 1 / (2 * M) ∧
    ((n : ℚ) + 1 / 2 < x ∧ n % 2 = 0 ∨ x < n + 1 / 2 ∧ n % 2 = 1)

/-- Within half a part of a middle between integers, which is an even number of parts, a number is
rounded to it. -/
theorem roundHalfEven_middle {y : ℚ} {c : ℤ} (hc : c % 2 = 0) (h : |y - c| ≤ 1 / 2) :
    roundHalfEven y = c := by
  rcases h.lt_or_eq with hlt | heq
  · exact roundHalfEven_eq hlt
  · rcases eq_or_eq_neg_of_abs_eq heq with heq | heq
    · have hy : y = (c : ℚ) + 1 / 2 := by linarith
      rw [hy, roundHalfEven_tie, if_pos hc]
    · have hy : y = ((c - 1 : ℤ) : ℚ) + 1 / 2 := by
        push_cast
        linarith
      rw [hy, roundHalfEven_tie, if_neg (by omega), sub_add_cancel]

/-- Below the middle, rounding to parts stays below it. -/
theorem roundHalfEven_twice_lower {m : ℕ} (hm : 0 < m) {x : ℚ} {n : ℤ} (hn : (n : ℚ) ≤ x)
    (hlt : x * (4 * m : ℕ) < (n * (4 * m) + 2 * m : ℤ) - 1 / 2) :
    roundHalfEven ((roundHalfEven (x * (4 * m : ℕ)) : ℚ) / (4 * m : ℕ)) = n := by
  have hpos : (0 : ℚ) < (4 * m : ℕ) := by exact_mod_cast Nat.mul_pos (by decide) hm
  have hround := abs_le.mp (abs_roundHalfEven_sub_le (x * (4 * m : ℕ)))
  set R := roundHalfEven (x * (4 * m : ℕ)) with hR
  have hlow : (n * (4 * m) : ℤ) ≤ R := by
    have h : ((n * (4 * m) : ℤ) : ℚ) ≤ x * (4 * m : ℕ) := by
      push_cast at hpos ⊢
      exact mul_le_mul_of_nonneg_right hn hpos.le
    have hlt' : ((n * (4 * m) : ℤ) : ℚ) < ((R + 1 : ℤ) : ℚ) := by
      have hlow := hround.1
      push_cast at h hlow ⊢
      linarith
    exact Int.lt_add_one_iff.mp (by exact_mod_cast hlt')
  have hhigh : R < n * (4 * m) + 2 * m := by
    have h : (R : ℚ) < ((n * (4 * m) + 2 * m : ℤ) : ℚ) := by linarith [hround.2]
    exact_mod_cast h
  refine roundHalfEven_lower ?_ ?_
  · rw [le_div_iff₀ hpos]
    exact_mod_cast hlow
  · rw [div_lt_iff₀ hpos]
    have h : (R : ℚ) < ((n * (4 * m) + 2 * m : ℤ) : ℚ) := by exact_mod_cast hhigh
    push_cast at h ⊢
    linarith

/-- Above the middle, rounding to parts stays above it. -/
theorem roundHalfEven_twice_upper {m : ℕ} (hm : 0 < m) {x : ℚ} {n : ℤ} (hn : x < n + 1)
    (hlt : (n * (4 * m) + 2 * m : ℤ) + 1 / 2 < x * (4 * m : ℕ)) :
    roundHalfEven ((roundHalfEven (x * (4 * m : ℕ)) : ℚ) / (4 * m : ℕ)) = n + 1 := by
  have hpos : (0 : ℚ) < (4 * m : ℕ) := by exact_mod_cast Nat.mul_pos (by decide) hm
  have hround := abs_le.mp (abs_roundHalfEven_sub_le (x * (4 * m : ℕ)))
  set R := roundHalfEven (x * (4 * m : ℕ)) with hR
  have hhigh : R ≤ (n + 1) * (4 * m) := by
    have h : x * (4 * m : ℕ) < (((n + 1) * (4 * m) : ℤ) : ℚ) := by
      push_cast at hpos ⊢
      exact mul_lt_mul_of_pos_right hn hpos
    have hlt' : (R : ℚ) < (((n + 1) * (4 * m) + 1 : ℤ) : ℚ) := by
      have hhigh := hround.2
      push_cast at h hhigh ⊢
      linarith
    exact Int.lt_add_one_iff.mp (by exact_mod_cast hlt')
  have hlow : n * (4 * m) + 2 * m < R := by
    have h : ((n * (4 * m) + 2 * m : ℤ) : ℚ) < R := by linarith [hround.1]
    exact_mod_cast h
  refine roundHalfEven_upper ?_ ?_
  · rw [lt_div_iff₀ hpos]
    have h : ((n * (4 * m) + 2 * m : ℤ) : ℚ) < R := by exact_mod_cast hlow
    push_cast at h ⊢
    linarith
  · rw [div_le_iff₀ hpos]
    exact_mod_cast hhigh

/-- Rounding twice is rounding once except where it is not. -/
theorem roundHalfEven_twice {m : ℕ} (hm : 0 < m) (x : ℚ) :
    roundHalfEven ((roundHalfEven (x * (4 * m : ℕ)) : ℚ) / (4 * m : ℕ)) = roundHalfEven x ↔
      ¬ TwiceRounded (4 * m) x := by
  have hpos : (0 : ℚ) < (4 * m : ℕ) := by exact_mod_cast Nat.mul_pos (by decide) hm
  have hone : (1 : ℚ) ≤ m := by exact_mod_cast hm
  obtain ⟨n, hfloor, hceil⟩ : ∃ n : ℤ, (n : ℚ) ≤ x ∧ x < n + 1 :=
    ⟨⌊x⌋, Int.floor_le x, Int.lt_floor_add_one x⟩
  -- the distance to the middle in parts
  have hparts : ∀ k : ℤ, |x - (k + 1 / 2)| ≤ 1 / (2 * (4 * m : ℕ)) ↔
      |x * (4 * m : ℕ) - (k * (4 * m) + 2 * m : ℤ)| ≤ 1 / 2 := by
    intro k
    have heq : x * (4 * m : ℕ) - (k * (4 * m) + 2 * m : ℤ) =
        (x - (k + 1 / 2)) * (4 * m : ℕ) := by
      push_cast
      ring
    rw [heq, abs_mul, abs_of_pos hpos, le_div_iff₀ (by positivity)]
    constructor <;> intro h <;> linarith
  -- the middle is that of the integers around the number
  have hunique : ∀ k : ℤ, |x - (k + 1 / 2)| ≤ 1 / (2 * (4 * m : ℕ)) → k = n := by
    intro k hk
    have hsmall : (1 : ℚ) / (2 * (4 * m : ℕ)) ≤ 1 / 8 := by
      push_cast
      rw [div_le_div_iff₀ (by positivity) (by norm_num)]
      linarith
    obtain ⟨hlow, hhigh⟩ := abs_le.mp hk
    have hlt : ((k - n : ℤ) : ℚ) < 1 := by
      push_cast
      linarith
    have hgt : (-1 : ℚ) < ((k - n : ℤ) : ℚ) := by
      push_cast
      linarith
    have hlt' : k - n < 1 := by exact_mod_cast hlt
    have hgt' : -1 < k - n := by exact_mod_cast hgt
    omega
  by_cases hnear : |x * (4 * m : ℕ) - (n * (4 * m) + 2 * m : ℤ)| ≤ 1 / 2
  · have hmiddle : ((n * (4 * m) + 2 * m : ℤ) : ℚ) / (4 * m : ℕ) = n + 1 / 2 := by
      rw [div_eq_iff hpos.ne']
      push_cast
      ring
    have heven : (n * (4 * m) + 2 * m : ℤ) % 2 = 0 := by
      have htwo : (n * (4 * m) + 2 * m : ℤ) = 2 * (n * (2 * m) + m) := by ring
      rw [htwo]
      exact Int.mul_emod_right 2 _
    rw [roundHalfEven_middle heven hnear, hmiddle, roundHalfEven_tie]
    have htwice : TwiceRounded (4 * m) x ↔
        ((n : ℚ) + 1 / 2 < x ∧ n % 2 = 0 ∨ x < n + 1 / 2 ∧ n % 2 = 1) := by
      constructor
      · rintro ⟨k, hk, hside⟩
        rwa [hunique k hk] at hside
      · exact fun hside => ⟨n, (hparts n).mpr hnear, hside⟩
    rw [htwice]
    rcases lt_trichotomy x ((n : ℚ) + 1 / 2) with hx | hx | hx
    · rw [roundHalfEven_lower hfloor hx]
      split_ifs with heven
      · exact iff_of_true rfl fun h => h.elim (fun h => absurd h.1 hx.le.not_gt)
          fun h => by omega
      · exact iff_of_false (by omega) fun h => h (.inr ⟨hx, by omega⟩)
    · rw [hx, roundHalfEven_tie]
      exact iff_of_true rfl fun h => h.elim (fun h => lt_irrefl _ h.1) fun h => lt_irrefl _ h.1
    · rw [roundHalfEven_upper hx hceil.le]
      split_ifs with heven
      · exact iff_of_false (by omega) fun h => h (.inl ⟨hx, heven⟩)
      · exact iff_of_true rfl fun h => h.elim (fun h => heven h.2)
          fun h => absurd h.1 hx.le.not_gt
  · have hnot : ¬ TwiceRounded (4 * m) x := by
      rintro ⟨k, hk, -⟩
      rw [hunique k hk] at hk
      exact hnear ((hparts n).mp hk)
    refine iff_of_true ?_ hnot
    have hmid : ((n * (4 * m) + 2 * m : ℤ) : ℚ) = (n + 1 / 2) * (4 * m : ℕ) := by
      push_cast
      ring
    rcases lt_or_ge (x * (4 * m : ℕ)) ((n * (4 * m) + 2 * m : ℤ) : ℚ) with hx | hx
    · rw [abs_of_neg (by linarith)] at hnear
      rw [roundHalfEven_twice_lower hm hfloor (by linarith)]
      rw [hmid] at hx
      exact (roundHalfEven_lower hfloor (lt_of_mul_lt_mul_right hx hpos.le)).symm
    · rw [abs_of_nonneg (by linarith)] at hnear
      rw [roundHalfEven_twice_upper hm hceil (by linarith)]
      have hx' : ((n : ℚ) + 1 / 2) * (4 * m : ℕ) < x * (4 * m : ℕ) := by
        rw [← hmid]
        linarith
      exact (roundHalfEven_upper (lt_of_mul_lt_mul_right hx' hpos.le) hceil.le).symm

end WayfinderRouter
