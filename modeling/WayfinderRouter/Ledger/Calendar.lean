import Mathlib.Algebra.Order.BigOperators.Group.Finset
import Mathlib.Data.Int.ConditionallyCompleteOrder
import Mathlib.Tactic.Ring
import WayfinderRouter.Ledger.Date
import WayfinderRouter.Signed

/-!
# The calendar

The gateway turns the days since 1970 into a date, and the ledger turns a date into the number of
a day. The first transform counts eras of 400 years, which start in March, so that a leap day is
the last day of its year.

## Main definitions

- `utcDateFromUnixDays` — the date of a day; `none` is an overflow
- `UtcDate.checkedOrdinal` — the number of a day, as the code computes it in `i64`
- `UtcDate.Next` — the next day of the calendar

## Main results

- `calendar_exact` — the two transforms are inverse, and both keep the order of the calendar
-/

namespace WayfinderRouter.Pricing

/-- `i32::try_from(value).unwrap_or(i32::MAX)`. -/
def toI32 (value : ℤ) : ℤ :=
  if -2147483648 ≤ value ∧ value ≤ 2147483647 then value else 2147483647

/-- `u8::try_from(value).unwrap_or(u8::MAX)`. -/
def toU8 (value : ℤ) : ℕ := if 0 ≤ value ∧ value ≤ 255 then value.toNat else 255

/-- `utc_date_from_unix_days`. -/
def utcDateFromUnixDays (days : Int64) : Option (Except DateError UtcDate) := do
  let shifted := I64.saturatingAdd days.toInt 719468
  let era ← I64.div (if 0 ≤ shifted then shifted else I64.saturatingSub shifted 146096) 146097
  let dayOfEra := I64.saturatingSub shifted (I64.saturatingMul era 146097)
  let yearOfEra ← I64.div (← I64.sub (← I64.add (← I64.sub dayOfEra (← I64.div dayOfEra 1460))
    (← I64.div dayOfEra 36524)) (← I64.div dayOfEra 146096)) 365
  let year := I64.saturatingAdd yearOfEra (I64.saturatingMul era 400)
  let dayOfYear ← I64.sub dayOfEra (← I64.sub (← I64.add (← I64.mul 365 yearOfEra)
    (← I64.div yearOfEra 4)) (← I64.div yearOfEra 100))
  let monthPrime ← I64.div (← I64.add (← I64.mul 5 dayOfYear) 2) 153
  let day ← I64.add (← I64.sub dayOfYear
    (← I64.div (← I64.add (← I64.mul 153 monthPrime) 2) 5)) 1
  let month ← I64.add monthPrime (if monthPrime < 10 then 3 else -9)
  let year ← I64.add year (if month ≤ 2 then 1 else 0)
  pure (UtcDate.new (toI32 year) (toU8 month) (toU8 day))

/-! ### The place of a day in its era -/

/-- The century of a day in its era, the cycle of four years, and the day in the cycle. -/
theorem era_split {dayOfEra : ℤ} (hnonneg : 0 ≤ dayOfEra) (hlt : dayOfEra < 146097) :
    ∃ b q s : ℤ, dayOfEra = 36524 * b + 1461 * q + s ∧ (0 ≤ b ∧ b ≤ 3) ∧ (0 ≤ q ∧ q ≤ 24) ∧
      (0 ≤ s ∧ s ≤ 1460) ∧ (q = 24 → s = 1460 → b = 3) ∧
      dayOfEra / 36524 - dayOfEra / 146096 = b := by
  -- The last day of an era is the leap day of its last century.
  rcases eq_or_lt_of_le (show dayOfEra ≤ 146096 by omega) with rfl | hbefore
  · exact ⟨3, 24, 1460, by norm_num, by norm_num, by norm_num, by norm_num, fun _ _ => rfl,
      by norm_num⟩
  · refine ⟨dayOfEra / 36524, dayOfEra % 36524 / 1461, dayOfEra % 36524 % 1461, ?_⟩
    omega

/-- The year of a day in its era, from its century, its cycle and its year in the cycle. -/
theorem yearOfEra_eq {b q s dayOfEra : ℤ} (hsplit : dayOfEra = 36524 * b + 1461 * q + s)
    (hb : 0 ≤ b ∧ b ≤ 3) (hq : 0 ≤ q ∧ q ≤ 24) (hs : 0 ≤ s ∧ s ≤ 1460)
    (hdiff : dayOfEra / 36524 - dayOfEra / 146096 = b) :
    ∃ t : ℤ, (0 ≤ t ∧ t ≤ 3) ∧ 365 * t ≤ s ∧ (s ≤ 365 * t + 364 ∨ t = 3) ∧
      (dayOfEra - dayOfEra / 1460 + dayOfEra / 36524 - dayOfEra / 146096) / 365 =
        100 * b + 4 * q + t := by
  obtain ⟨leap, hleap⟩ : ∃ leap, (24 * b + q + s) / 1460 = leap := ⟨_, rfl⟩
  have hcycles : dayOfEra / 1460 = 25 * b + q + leap := by
    have hdays : dayOfEra = 24 * b + q + s + 1460 * (25 * b + q) := by omega
    rw [hdays, Int.add_mul_ediv_left _ _ (by norm_num), hleap]
    ring
  have hyears : (dayOfEra - dayOfEra / 1460 + dayOfEra / 36524 - dayOfEra / 146096) / 365 =
      (s - leap) / 365 + (100 * b + 4 * q) := by
    rw [← Int.add_mul_ediv_left _ _ (show (365 : ℤ) ≠ 0 by norm_num)]
    congr 1
    omega
  -- The correction is made in the fourth year of a cycle only.
  have hrange : leap = 0 ∧ s ≤ 1459 ∨ leap = 1 ∧ 1364 ≤ s := by omega
  rw [hyears]
  clear hyears hcycles hdiff hsplit hleap
  refine ⟨(s - leap) / 365, ?_⟩
  rcases hrange with ⟨rfl, h⟩ | ⟨rfl, h⟩ <;> omega

/-- What holds of the year of the era and of the day of the year that are computed. -/
structure Place (dayOfEra yearOfEra dayOfYear : ℤ) : Prop where
  year_nonneg : 0 ≤ yearOfEra
  year_lt : yearOfEra < 400
  day_eq : dayOfYear = dayOfEra - (365 * yearOfEra + yearOfEra / 4 - yearOfEra / 100)
  day_nonneg : 0 ≤ dayOfYear
  day_le : dayOfYear ≤ 365
  leap : dayOfYear = 365 →
    (yearOfEra + 1) % 4 = 0 ∧ ((yearOfEra + 1) % 100 ≠ 0 ∨ (yearOfEra + 1) % 400 = 0)

theorem Place.of_day {dayOfEra : ℤ} (hnonneg : 0 ≤ dayOfEra) (hlt : dayOfEra < 146097) :
    ∃ yearOfEra dayOfYear, (dayOfEra - dayOfEra / 1460 + dayOfEra / 36524 - dayOfEra / 146096) /
      365 = yearOfEra ∧ Place dayOfEra yearOfEra dayOfYear := by
  obtain ⟨b, q, s, hsplit, hb, hq, hs, hlast, hdiff⟩ := era_split hnonneg hlt
  obtain ⟨t, ht, hle, hrest, hyear⟩ := yearOfEra_eq hsplit hb hq hs hdiff
  refine ⟨_, s - 365 * t, hyear, ?_⟩
  clear hyear hdiff
  have hcycles : (100 * b + 4 * q + t) / 4 = 25 * b + q := by omega
  have hcenturies : (100 * b + 4 * q + t) / 100 = b := by omega
  refine ⟨by omega, by omega, ?_, by omega, by omega, ?_⟩
  · rw [hcycles, hcenturies]
    omega
  · intro hday
    clear hcycles hcenturies
    have hs : s = 1460 := by omega
    refine ⟨by omega, ?_⟩
    by_cases hq24 : q = 24
    · have hb3 := hlast hq24 hs
      right
      omega
    · left
      omega

/-- The month of a day of the year, counted from March, and the day of the month. -/
theorem month_of_day {dayOfYear : ℤ} (hnonneg : 0 ≤ dayOfYear) (hle : dayOfYear ≤ 365) :
    ∃ monthPrime, (5 * dayOfYear + 2) / 153 = monthPrime ∧ (0 ≤ monthPrime ∧ monthPrime ≤ 11) ∧
      (153 * monthPrime + 2) / 5 ≤ dayOfYear ∧
      dayOfYear < (153 * (monthPrime + 1) + 2) / 5 := by
  refine ⟨_, rfl, ?_⟩
  omega

/-- The computed day is a day of the computed month. -/
theorem day_of_month {dayOfYear monthPrime year : ℤ} (hmonth : 0 ≤ monthPrime ∧ monthPrime ≤ 11)
    (hlow : (153 * monthPrime + 2) / 5 ≤ dayOfYear)
    (hhigh : dayOfYear < (153 * (monthPrime + 1) + 2) / 5) (hle : dayOfYear ≤ 365)
    (hyear : 0 ≤ year) (hleap : monthPrime = 11 → dayOfYear = 365 →
      year % 4 = 0 ∧ (year % 100 ≠ 0 ∨ year % 400 = 0)) :
    (dayOfYear - (153 * monthPrime + 2) / 5 + 1).toNat ≤
      daysInMonth year.toNat (monthPrime + if monthPrime < 10 then 3 else -9).toNat := by
  obtain ⟨hmin, hmax⟩ := hmonth
  obtain ⟨y, rfl⟩ := Int.eq_ofNat_of_zero_le hyear
  rw [Int.toNat_natCast]
  interval_cases monthPrime <;> simp [daysInMonth] at hlow hhigh ⊢ <;> omega

/-! ### The transform -/

/-- What holds of a day: its era, its place in the era, and its month. -/
structure Civil (shifted yearOfEra dayOfYear monthPrime : ℤ) : Prop where
  place : Place (shifted % 146097) yearOfEra dayOfYear
  month_range : 0 ≤ monthPrime ∧ monthPrime ≤ 11
  day_low : (153 * monthPrime + 2) / 5 ≤ dayOfYear
  day_high : dayOfYear < (153 * (monthPrime + 1) + 2) / 5

/-- The day of the month. -/
def dayOf (dayOfYear monthPrime : ℤ) : ℤ := dayOfYear - (153 * monthPrime + 2) / 5 + 1

/-- The month, counted from January. -/
def monthOf (monthPrime : ℤ) : ℤ := monthPrime + if monthPrime < 10 then 3 else -9

/-- The year, which starts in January. -/
def yearOf (shifted yearOfEra monthPrime : ℤ) : ℤ :=
  yearOfEra + shifted / 146097 * 400 + if monthOf monthPrime ≤ 2 then 1 else 0

theorem era_eq {shifted : ℤ} (h : -9223372036854056340 ≤ shifted ∧ shifted ≤ I64.max) :
    I64.div (if 0 ≤ shifted then shifted else I64.saturatingSub shifted 146096) 146097 =
      some (shifted / 146097) := by
  simp only [I64.max] at h
  by_cases hsign : 0 ≤ shifted
  · rw [if_pos hsign, I64.div_eq hsign h.2 (by norm_num)]
  · have hrange : I64.InRange (shifted - 146096) := by
      simp only [I64.InRange, I64.min, I64.max]
      omega
    rw [if_neg hsign, I64.saturatingSub_eq hrange]
    exact I64.div_shifted (by omega) (by simp only [I64.min]; omega) (by norm_num)

section

variable {α : Type} (f : ℤ → Option α)

theorem yearOfEra_run {dayOfEra : ℤ} (h : 0 ≤ dayOfEra ∧ dayOfEra < 146097) :
    (do f (← I64.div (← I64.sub (← I64.add (← I64.sub dayOfEra (← I64.div dayOfEra 1460))
      (← I64.div dayOfEra 36524)) (← I64.div dayOfEra 146096)) 365)) =
    f ((dayOfEra - dayOfEra / 1460 + dayOfEra / 36524 - dayOfEra / 146096) / 365) := by
  rw [I64.div_bind, I64.sub_bind, I64.div_bind, I64.add_bind, I64.div_bind, I64.sub_bind,
    I64.div_bind]
  all_goals first | omega | exact I64.inRange_mk (by omega) (by omega)

theorem dayOfYear_run {dayOfEra yearOfEra : ℤ} (hday : 0 ≤ dayOfEra ∧ dayOfEra < 146097)
    (hyear : 0 ≤ yearOfEra ∧ yearOfEra < 400) :
    (do f (← I64.sub dayOfEra (← I64.sub (← I64.add (← I64.mul 365 yearOfEra)
      (← I64.div yearOfEra 4)) (← I64.div yearOfEra 100)))) =
    f (dayOfEra - (365 * yearOfEra + yearOfEra / 4 - yearOfEra / 100)) := by
  rw [I64.mul_bind, I64.div_bind, I64.add_bind, I64.div_bind, I64.sub_bind, I64.sub_bind]
  all_goals first | omega | exact I64.inRange_mk (by omega) (by omega)

theorem monthPrime_run {dayOfYear : ℤ} (h : 0 ≤ dayOfYear ∧ dayOfYear ≤ 365) :
    (do f (← I64.div (← I64.add (← I64.mul 5 dayOfYear) 2) 153)) =
      f ((5 * dayOfYear + 2) / 153) := by
  rw [I64.mul_bind, I64.add_bind, I64.div_bind]
  all_goals first | omega | exact I64.inRange_mk (by omega) (by omega)

theorem day_run {dayOfYear monthPrime : ℤ} (hday : 0 ≤ dayOfYear ∧ dayOfYear ≤ 365)
    (hmonth : 0 ≤ monthPrime ∧ monthPrime ≤ 11) :
    (do f (← I64.add (← I64.sub dayOfYear
      (← I64.div (← I64.add (← I64.mul 153 monthPrime) 2) 5)) 1)) =
    f (dayOf dayOfYear monthPrime) := by
  rw [I64.mul_bind, I64.add_bind, I64.div_bind, I64.sub_bind, I64.add_bind, dayOf]
  all_goals first | omega | exact I64.inRange_mk (by omega) (by omega)

end

/-- No step overflows, and the date that is made is the one of the place. -/
theorem utcDateFromUnixDays_eq {days : Int64} {shifted : ℤ}
    (hshifted : I64.saturatingAdd days.toInt 719468 = shifted)
    (hrange : -9223372036854056340 ≤ shifted ∧ shifted ≤ I64.max) :
    ∃ yearOfEra dayOfYear monthPrime, Civil shifted yearOfEra dayOfYear monthPrime ∧
      utcDateFromUnixDays days = some (UtcDate.new (toI32 (yearOf shifted yearOfEra monthPrime))
        (toU8 (monthOf monthPrime)) (toU8 (dayOf dayOfYear monthPrime))) := by
  have hera := era_eq hrange
  simp only [I64.max] at hrange
  have hdays : 0 ≤ shifted % 146097 ∧ shifted % 146097 < 146097 := by omega
  have hdayOfEra : I64.saturatingSub shifted (I64.saturatingMul (shifted / 146097) 146097) =
      shifted % 146097 := by
    rw [I64.saturatingMul_eq (I64.inRange_mk (by omega) (by omega)),
      I64.saturatingSub_eq (I64.inRange_mk (by omega) (by omega))]
    omega
  have heraYears : I64.InRange (shifted / 146097 * 400) := I64.inRange_mk (by omega) (by omega)
  have hyears (n : ℤ) (hn : 0 ≤ n ∧ n ≤ 400) : I64.InRange (n + shifted / 146097 * 400) :=
    I64.inRange_mk (by omega) (by omega)
  obtain ⟨yearOfEra, dayOfYear, hyearOfEra, hplace⟩ := Place.of_day hdays.1 hdays.2
  obtain ⟨monthPrime, hmonthPrime, hmonth, hlow, hhigh⟩ :=
    month_of_day hplace.day_nonneg hplace.day_le
  have hyearRange := And.intro hplace.year_nonneg hplace.year_lt
  have hdayRange := And.intro hplace.day_nonneg hplace.day_le
  refine ⟨yearOfEra, dayOfYear, monthPrime, ⟨hplace, hmonth, hlow, hhigh⟩, ?_⟩
  unfold utcDateFromUnixDays
  rw [hshifted]
  dsimp only
  rw [hera, I64.some_bind, hdayOfEra, yearOfEra_run _ hdays, hyearOfEra,
    dayOfYear_run _ hdays hyearRange, ← hplace.day_eq, monthPrime_run _ hdayRange, hmonthPrime,
    day_run _ hdayRange hmonth, I64.saturatingMul_eq heraYears,
    I64.saturatingAdd_eq (hyears yearOfEra (by omega))]
  have hmonthRange : -11 ≤ monthPrime + (if monthPrime < 10 then 3 else -9) ∧
      monthPrime + (if monthPrime < 10 then 3 else -9) ≤ 12 := by
    split_ifs <;> omega
  have hyearSum : I64.InRange (yearOfEra + shifted / 146097 * 400 +
      if monthOf monthPrime ≤ 2 then 1 else 0) := by
    split_ifs
    · rw [add_right_comm]
      exact hyears (yearOfEra + 1) (by omega)
    · rw [add_zero]
      exact hyears yearOfEra (by omega)
  rw [I64.add_bind _ (I64.inRange_mk (by omega) (by omega))]
  exact I64.add_bind _ hyearSum

/-! ### The date of a day -/

theorem new_isOk_iff {year : ℤ} {month day : ℕ} :
    (∃ d, UtcDate.new year month day = .ok d) ↔
      (1 ≤ year ∧ year ≤ 9999) ∧ (1 ≤ month ∧ month ≤ 12) ∧
        (1 ≤ day ∧ day ≤ daysInMonth year.toNat month) := by
  unfold UtcDate.new
  split
  · next h =>
    refine ⟨fun _ => ⟨by omega, h.2⟩, fun _ => ⟨_, rfl⟩⟩
  · next h =>
    constructor
    · rintro ⟨d, hd⟩
      cases hd
    · exact fun hvalid => absurd ⟨by omega, hvalid.2⟩ h

namespace Civil

variable {shifted yearOfEra dayOfYear monthPrime : ℤ}

theorem monthOf_range (h : Civil shifted yearOfEra dayOfYear monthPrime) :
    1 ≤ monthOf monthPrime ∧ monthOf monthPrime ≤ 12 := by
  have hmonth := h.month_range
  unfold monthOf
  split_ifs <;> omega

theorem dayOf_range (h : Civil shifted yearOfEra dayOfYear monthPrime) :
    1 ≤ dayOf dayOfYear monthPrime ∧ dayOf dayOfYear monthPrime ≤ 31 := by
  have hmonth := h.month_range
  have hlow := h.day_low
  have hhigh := h.day_high
  unfold dayOf
  omega

/-- The day is a day of its month when the year is not before the first. -/
theorem dayOf_le (h : Civil shifted yearOfEra dayOfYear monthPrime)
    (hyear : 0 ≤ yearOf shifted yearOfEra monthPrime) :
    (dayOf dayOfYear monthPrime).toNat ≤
      daysInMonth (yearOf shifted yearOfEra monthPrime).toNat (monthOf monthPrime).toNat := by
  refine day_of_month h.month_range h.day_low h.day_high h.place.day_le hyear ?_
  intro hmonth hday
  have hleap := h.place.leap hday
  have hyear : yearOf shifted yearOfEra monthPrime = yearOfEra + 1 + 400 * (shifted / 146097) := by
    subst hmonth
    simp only [yearOf, monthOf]
    norm_num
    ring
  omega

/-- The year is in range exactly when the day is. -/
theorem yearOf_iff (h : Civil shifted yearOfEra dayOfYear monthPrime) :
    1 ≤ yearOf shifted yearOfEra monthPrime ∧ yearOf shifted yearOfEra monthPrime ≤ 9999 ↔
      306 ≤ shifted ∧ shifted ≤ 3652364 := by
  have hyear := And.intro h.place.year_nonneg h.place.year_lt
  have hday := h.place.day_eq
  have hdays := And.intro h.place.day_nonneg h.place.day_le
  have hmonth := h.month_range
  have hlow := h.day_low
  have hhigh := h.day_high
  have hfebruary : (if monthOf monthPrime ≤ 2 then (1 : ℤ) else 0) =
      if 306 ≤ dayOfYear then 1 else 0 := by
    unfold monthOf
    split_ifs <;> omega
  rw [yearOf, hfebruary]
  clear hlow hhigh hmonth hfebruary
  -- The first and the last era are looked at alone.
  have hera : shifted / 146097 < 0 ∨ shifted / 146097 = 0 ∨
      0 < shifted / 146097 ∧ shifted / 146097 < 24 ∨ shifted / 146097 = 24 ∨
        24 < shifted / 146097 := by
    omega
  rcases hera with hera | hera | hera | hera | hera <;> split_ifs <;> omega

/-- The number of the date is the number of the day. -/
theorem ordinal_eq (h : Civil shifted yearOfEra dayOfYear monthPrime) {d : UtcDate}
    (hyear : (d.year : ℤ) = yearOf shifted yearOfEra monthPrime)
    (hmonth : (d.month : ℤ) = monthOf monthPrime)
    (hday : (d.day : ℤ) = dayOf dayOfYear monthPrime) : d.ordinal = shifted := by
  have hyears := And.intro h.place.year_nonneg h.place.year_lt
  have hmonths := h.month_range
  have hplace := h.place.day_eq
  have hstart : (d.year : ℤ) - (if d.month ≤ 2 then 1 else 0) =
      yearOfEra + shifted / 146097 * 400 := by
    rw [hyear, yearOf]
    split_ifs <;> omega
  have hshifted : (d.month : ℤ) + (if 2 < (d.month : ℤ) then -3 else 9) = monthPrime := by
    rw [hmonth, monthOf]
    split_ifs <;> omega
  have hnonneg : 0 ≤ yearOfEra + shifted / 146097 * 400 := by
    have hvalid := d.year_valid
    rw [← hstart]
    split_ifs <;> omega
  have hera : (yearOfEra + shifted / 146097 * 400) / 400 = shifted / 146097 := by omega
  have hyearOfEra : yearOfEra + shifted / 146097 * 400 - shifted / 146097 * 400 = yearOfEra := by
    ring
  simp only [UtcDate.ordinal]
  rw [hstart, hshifted, if_pos hnonneg, hera, hyearOfEra, hday, dayOf]
  omega

end Civil

theorem toI32_eq_iff {value : ℤ} :
    1 ≤ toI32 value ∧ toI32 value ≤ 9999 ↔ 1 ≤ value ∧ value ≤ 9999 := by
  unfold toI32
  split_ifs <;> omega

theorem toU8_cast {value : ℤ} (h : 0 ≤ value) (hle : value ≤ 255) : (toU8 value : ℤ) = value := by
  rw [toU8, if_pos ⟨h, hle⟩, Int.toNat_of_nonneg h]

/-- The date of a day exists exactly in the years of the calendar, and has the number of the
day. -/
theorem utcDateFromUnixDays_spec (days : Int64) : ∃ result,
    utcDateFromUnixDays days = some result ∧
      ((∃ d, result = .ok d) ↔ 306 ≤ days.toInt + 719468 ∧ days.toInt + 719468 ≤ 3652364) ∧
      ∀ d, result = .ok d → d.ordinal = days.toInt + 719468 := by
  have hmin := days.le_toInt
  have hmax := days.toInt_lt
  obtain ⟨shifted, hshifted⟩ : ∃ shifted, I64.saturatingAdd days.toInt 719468 = shifted := ⟨_, rfl⟩
  have hcases : shifted = days.toInt + 719468 ∧ shifted ≤ I64.max ∨
      shifted = I64.max ∧ I64.max < days.toInt + 719468 := by
    rw [← hshifted, I64.saturatingAdd, I64.saturated]
    simp only [I64.min, I64.max]
    split_ifs <;> omega
  simp only [I64.max] at hcases
  obtain ⟨yearOfEra, dayOfYear, monthPrime, hcivil, hresult⟩ :=
    utcDateFromUnixDays_eq hshifted ⟨by omega, by simp only [I64.max]; omega⟩
  have hmonth := hcivil.monthOf_range
  have hday := hcivil.dayOf_range
  have hyear := hcivil.yearOf_iff
  have hmonthCast : (toU8 (monthOf monthPrime) : ℤ) = monthOf monthPrime :=
    toU8_cast (by omega) (by omega)
  have hdayCast : (toU8 (dayOf dayOfYear monthPrime) : ℤ) = dayOf dayOfYear monthPrime :=
    toU8_cast (by omega) (by omega)
  refine ⟨_, hresult, ?_, ?_⟩
  · rw [new_isOk_iff, toI32_eq_iff, hyear]
    constructor
    · rintro ⟨hrange, -, -⟩
      omega
    · intro hrange
      have hshifted : 306 ≤ shifted ∧ shifted ≤ 3652364 := by omega
      have hvalid := hyear.mpr hshifted
      have hle := hcivil.dayOf_le (by omega)
      rw [toI32, if_pos (by omega), show toU8 (monthOf monthPrime) = (monthOf monthPrime).toNat by
        omega, show toU8 (dayOf dayOfYear monthPrime) = (dayOf dayOfYear monthPrime).toNat by omega]
      exact ⟨hshifted, by omega, by omega, hle⟩
  · intro d hd
    obtain ⟨hpos, hdyear, hdmonth, hdday⟩ := UtcDate.new_eq_ok hd
    have hrange := (new_isOk_iff.mp ⟨d, hd⟩).1
    have hvalid := toI32_eq_iff.mp hrange
    have hshifted := hyear.mp hvalid
    have hyears : (d.year : ℤ) = yearOf shifted yearOfEra monthPrime := by
      rw [toI32, if_pos (by omega)] at hdyear
      omega
    rw [hcivil.ordinal_eq hyears (by rw [hdmonth, hmonthCast]) (by rw [hdday, hdayCast])]
    omega

/-! ### The order of the days -/

namespace UtcDate

theorem lt_iff {d d' : UtcDate} : d < d' ↔ d.year < d'.year ∨
    d.year = d'.year ∧ (d.month < d'.month ∨ d.month = d'.month ∧ d.day < d'.day) := by
  have hday := d.day_lt
  have hday' := d'.day_lt
  have hmonth := d.month_lt
  have hmonth' := d'.month_lt
  show d.digits < d'.digits ↔ _
  rw [digits, digits]
  omega

theorem sum_months_succ (year : ℕ) {month : ℕ} (h : 1 ≤ month) :
    ∑ m ∈ Finset.Ico 1 (month + 1), daysInMonth year m =
      ∑ m ∈ Finset.Ico 1 month, daysInMonth year m + daysInMonth year month :=
  Finset.sum_Ico_succ_top h _

theorem sum_Ico_le (f : ℕ → ℕ) {m n : ℕ} (h : m ≤ n) :
    ∑ i ∈ Finset.Ico 1 m, f i ≤ ∑ i ∈ Finset.Ico 1 n, f i :=
  Finset.sum_le_sum_of_subset (Finset.Ico_subset_Ico_right h)

theorem dayNumber_strictMono : StrictMono dayNumber := by
  intro d d' h
  have hday := d.day_valid
  have hday' := d'.day_valid
  have hmonth := d.month_valid
  have hmonths := sum_months_succ d.year hmonth.1
  unfold dayNumber
  rcases lt_iff.mp h with hyear | ⟨hyear, hmonthLt | ⟨hmonthEq, hdayLt⟩⟩
  · have hyears := sum_Ico_le (fun year => ∑ month ∈ Finset.Ico 1 13, daysInMonth year month)
      (show d.year + 1 ≤ d'.year from hyear)
    rw [Finset.sum_Ico_succ_top d.year_valid.1] at hyears
    have hrest := sum_Ico_le (daysInMonth d.year) (show d.month + 1 ≤ 13 by omega)
    omega
  · have hrest := sum_Ico_le (daysInMonth d.year) (show d.month + 1 ≤ d'.month from hmonthLt)
    rw [← hyear]
    omega
  · rw [← hyear, ← hmonthEq]
    omega

theorem ordinal_strictMono : StrictMono ordinal := by
  intro d d' h
  have hlt := dayNumber_strictMono h
  rw [ordinal_eq, ordinal_eq]
  omega

/-- The next day of the calendar: the next of the month, or the first of the next month or of
the next year. -/
def Next (d d' : UtcDate) : Prop :=
  d'.year = d.year ∧ d'.month = d.month ∧ d'.day = d.day + 1 ∨
  d.day = daysInMonth d.year d.month ∧ d'.day = 1 ∧
    (d.month < 12 ∧ d'.year = d.year ∧ d'.month = d.month + 1 ∨
      d.month = 12 ∧ d'.year = d.year + 1 ∧ d'.month = 1)

theorem daysInMonth_pos {year month : ℕ} (h : 1 ≤ month ∧ month ≤ 12) :
    1 ≤ daysInMonth year month := by
  obtain ⟨hlow, hhigh⟩ := h
  unfold daysInMonth
  interval_cases month <;> simp
  split_ifs <;> norm_num

/-- Every day before the last of the calendar has a next one. -/
theorem exists_next (d : UtcDate) (h : d.year < 9999 ∨ d.month < 12 ∨ d.day < 31) :
    ∃ d', Next d d' := by
  have hyear := d.year_valid
  have hmonth := d.month_valid
  have hday := d.day_valid
  rcases Nat.lt_or_ge d.day (daysInMonth d.year d.month) with hlt | hge
  · exact ⟨⟨d.year, d.month, d.day + 1, hyear, hmonth, by omega, hlt⟩, .inl ⟨rfl, rfl, rfl⟩⟩
  · have hlast : d.day = daysInMonth d.year d.month := by omega
    rcases Nat.lt_or_ge d.month 12 with hmonthLt | hmonthGe
    · have hnext : 1 ≤ d.month + 1 ∧ d.month + 1 ≤ 12 := by omega
      exact ⟨⟨d.year, d.month + 1, 1, hyear, hnext, le_rfl, daysInMonth_pos hnext⟩,
        .inr ⟨hlast, rfl, .inl ⟨hmonthLt, rfl, rfl⟩⟩⟩
    · have hdecember : d.month = 12 := by omega
      have hthirtyFirst : d.day = 31 := by rw [hlast, hdecember]; rfl
      have hyearLt : d.year < 9999 := by omega
      exact ⟨⟨d.year + 1, 1, 1, by omega, by norm_num, le_rfl, daysInMonth_pos (by norm_num)⟩,
        .inr ⟨hlast, rfl, .inr ⟨hdecember, rfl, rfl⟩⟩⟩

/-- The next day has the next number. -/
theorem Next.dayNumber_eq {d d' : UtcDate} (h : Next d d') : d'.dayNumber = d.dayNumber + 1 := by
  have hmonths := sum_months_succ d.year d.month_valid.1
  unfold dayNumber
  rcases h with ⟨hyear, hmonth, hday⟩ | ⟨hlast, hday, ⟨-, hyear, hmonth⟩ | ⟨hdec, hyear, hmonth⟩⟩
  · rw [hyear, hmonth, hday]
    omega
  · rw [hyear, hmonth, hday, hmonths]
    omega
  · rw [hyear, hmonth, hday, Finset.sum_Ico_succ_top d.year_valid.1]
    rw [hdec] at hmonths hlast ⊢
    rw [hmonths, hlast, Finset.Ico_self, Finset.sum_empty]
    omega

/-- A day whose number is the next one is the next day. -/
theorem next_of_ordinal {d d' : UtcDate} (h : d'.ordinal = d.ordinal + 1) : Next d d' := by
  rw [ordinal_eq, ordinal_eq] at h
  have hnumber : d'.dayNumber = d.dayNumber + 1 := by omega
  have hbefore : d.year < 9999 ∨ d.month < 12 ∨ d.day < 31 := by
    by_contra hlast
    have hle : ¬ d < d' := by
      have hyear' := d'.year_valid
      have hmonth' := d'.month_valid
      have hday' := d'.day_valid
      have hdays := daysInMonth_le d'.year d'.month
      rw [lt_iff]
      omega
    have hmono := dayNumber_strictMono.le_iff_le.mpr (not_lt.mp hle)
    omega
  obtain ⟨next, hnext⟩ := exists_next d hbefore
  have heq : next = d' := by
    apply dayNumber_strictMono.injective
    rw [hnext.dayNumber_eq, hnumber]
  rwa [← heq]

/-- `UtcDate::ordinal`, in `i64`. -/
def checkedOrdinal (d : UtcDate) : Option ℤ := do
  let year ← I64.sub d.year (if d.month ≤ 2 then 1 else 0)
  let era ← I64.div (← if 0 ≤ year then pure year else I64.sub year 399) 400
  let yearOfEra ← I64.sub year (← I64.mul era 400)
  let shiftedMonth ← I64.add d.month (if 2 < (d.month : ℤ) then -3 else 9)
  let dayOfYear ← I64.sub (← I64.add (← I64.div (← I64.add (← I64.mul 153 shiftedMonth) 2) 5)
    d.day) 1
  let dayOfEra ← I64.add (← I64.sub (← I64.add (← I64.mul yearOfEra 365) (← I64.div yearOfEra 4))
    (← I64.div yearOfEra 100)) dayOfYear
  I64.add (← I64.mul era 146097) dayOfEra

theorem checkedOrdinal_eq (d : UtcDate) : d.checkedOrdinal = some d.ordinal := by
  have hyear := d.year_valid
  have hmonth := d.month_valid
  have hday := d.day_lt
  obtain ⟨year, hstart⟩ : ∃ year : ℤ, (d.year : ℤ) - (if d.month ≤ 2 then 1 else 0) = year :=
    ⟨_, rfl⟩
  obtain ⟨month, hshifted⟩ : ∃ month : ℤ,
      (d.month : ℤ) + (if 2 < (d.month : ℤ) then -3 else 9) = month := ⟨_, rfl⟩
  have hyears : 0 ≤ year ∧ year ≤ 9999 := by split_ifs at hstart <;> omega
  have hmonths : 0 ≤ month ∧ month ≤ 11 := by split_ifs at hshifted <;> omega
  obtain ⟨era, hera⟩ : ∃ era, year / 400 = era := ⟨_, rfl⟩
  obtain ⟨yearOfEra, hyearOfEra⟩ : ∃ yearOfEra, year - era * 400 = yearOfEra := ⟨_, rfl⟩
  have heras : 0 ≤ era ∧ era ≤ 24 := by omega
  have hyearsOfEra : 0 ≤ yearOfEra ∧ yearOfEra < 400 := by omega
  simp only [ordinal, hstart, hshifted, if_pos hyears.1, hera, hyearOfEra]
  unfold checkedOrdinal
  rw [I64.sub_bind _ (hstart ▸ I64.inRange_mk (by omega) (by omega)), hstart, if_pos hyears.1,
    pure_bind]
  beta_reduce
  rw [I64.div_bind _ hyears.1 (I64.inRange_mk (by omega) (by omega)) (by norm_num), hera,
    I64.mul_bind _ (I64.inRange_mk (by omega) (by omega)),
    I64.sub_bind _ (hyearOfEra ▸ I64.inRange_mk (by omega) (by omega)), hyearOfEra,
    I64.add_bind _ (hshifted ▸ I64.inRange_mk (by omega) (by omega)), hshifted]
  clear hstart hshifted hera hyearOfEra hyears hyear hmonth
  rw [I64.mul_bind, I64.add_bind, I64.div_bind, I64.add_bind, I64.sub_bind, I64.mul_bind,
    I64.div_bind, I64.add_bind, I64.div_bind, I64.sub_bind, I64.add_bind, I64.mul_bind, I64.add_eq]
  all_goals first | omega | exact I64.inRange_mk (by omega) (by omega)

end UtcDate

/-- `utc_today`, for the seconds since the epoch that the system clock gives. -/
def utcToday (sinceEpoch : Option UInt64) : Option (Except DateError UtcDate) :=
  match sinceEpoch with
  | none => some (.error (.invalidDate "system clock is before Unix epoch"))
  | some seconds =>
    if seconds.toNat / 86400 < 2 ^ 63 then
      utcDateFromUnixDays (Int64.ofNat (seconds.toNat / 86400))
    else some (.error (.invalidDate "system clock exceeds UTC date range"))

/-- The date of a clock is the one of its day, up to the end of the calendar. -/
theorem utcToday_ordinal {seconds : UInt64} {d : UtcDate}
    (h : utcToday (some seconds) = some (.ok d)) :
    d.ordinal = seconds.toNat / 86400 + 719468 := by
  have hlt : seconds.toNat / 86400 < 2 ^ 63 := by
    have hseconds := seconds.toNat_lt
    omega
  rw [utcToday, if_pos hlt] at h
  obtain ⟨result, hresult, -, hordinal⟩ :=
    utcDateFromUnixDays_spec (Int64.ofNat (seconds.toNat / 86400))
  rw [hresult] at h
  rw [hordinal d (Option.some.inj h), Int64.toInt_ofNat_of_lt hlt]
  rfl

/-- The date of a day exists exactly between the first and the last day of the calendar, and has
the number of the day; days that follow one another have dates that do. The numbers, the dates
and their texts have one order, and a date is read back from its text. Neither transform
overflows. -/
theorem calendar_exact :
    (∃ first last, UtcDate.new 1 1 1 = .ok first ∧ UtcDate.new 9999 12 31 = .ok last ∧
      ∀ days : Int64, ∃ result, utcDateFromUnixDays days = some result ∧
        ((∃ d, result = .ok d) ↔
          first.ordinal ≤ days.toInt + 719468 ∧ days.toInt + 719468 ≤ last.ordinal) ∧
        ∀ d, result = .ok d → d.ordinal = days.toInt + 719468) ∧
    (∀ days days' : Int64, days'.toInt = days.toInt + 1 → ∀ d d',
      utcDateFromUnixDays days = some (.ok d) → utcDateFromUnixDays days' = some (.ok d') →
        UtcDate.Next d d') ∧
    (∀ d d' : UtcDate, (d.ordinal < d'.ordinal ↔ d.year < d'.year ∨ d.year = d'.year ∧
      (d.month < d'.month ∨ d.month = d'.month ∧ d.day < d'.day)) ∧
      (d.ordinal < d'.ordinal ↔ d.display < d'.display)) ∧
    ∀ d : UtcDate, UtcDate.parse d.display = .ok d ∧ d.checkedOrdinal = some d.ordinal := by
  refine ⟨⟨_, _, rfl, rfl, utcDateFromUnixDays_spec⟩,
    fun days days' hdays d d' hd hd' => ?_, fun d d' => ⟨?_, ?_⟩,
    fun d => ⟨d.parse_display, d.checkedOrdinal_eq⟩⟩
  · apply UtcDate.next_of_ordinal
    obtain ⟨result, hresult, -, hordinal⟩ := utcDateFromUnixDays_spec days
    obtain ⟨result', hresult', -, hordinal'⟩ := utcDateFromUnixDays_spec days'
    rw [hresult] at hd
    rw [hresult'] at hd'
    rw [hordinal d (Option.some.inj hd), hordinal' d' (Option.some.inj hd'), hdays]
    ring
  · rw [UtcDate.ordinal_strictMono.lt_iff_lt, UtcDate.lt_iff]
  · rw [UtcDate.ordinal_strictMono.lt_iff_lt, UtcDate.display_strictMono.lt_iff_lt]

end WayfinderRouter.Pricing
