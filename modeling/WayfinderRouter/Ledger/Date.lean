import Mathlib.Algebra.BigOperators.Intervals
import Mathlib.Data.String.Basic
import Mathlib.Tactic.IntervalCases
import WayfinderRouter.Fallible
import WayfinderRouter.Pricing.Ledger

/-!
# Dates as keys of the ledger

The ledger keys its days by the text of their date. The text has a fixed width, so the order of
the texts is the order of the dates, and a month is a common start of the texts of its days.
Reading a date accepts every text that is written for one, and also texts with plus signs.

A text with a character outside ASCII is not read: it has ten bytes only if one of its numbers
has that character. So the characters of a text stand here for its bytes.

## Main definitions

- `UtcDate.display`, `UtcDate.parse` — the text of a date, and the date of a text
- `UtcDate.ordinal` — the number of a day, as the code computes it
- `UtcDate.dayNumber` — the number of a day, as a count of the days before it
-/

namespace WayfinderRouter.Pricing

/-- The last decimal digit of a number. -/
def digit (n : ℕ) : Char := Char.ofNat (48 + n % 10)

/-- The last `width` decimal digits of a number. -/
def padded : ℕ → ℕ → List Char
  | 0, _ => []
  | width + 1, n => padded width (n / 10) ++ [digit n]

/-- `LedgerError::InvalidDate`. -/
inductive DateError where
  | invalidDate (text : String)
deriving DecidableEq

namespace UtcDate

/-- The `Display` text of a date. -/
def display (d : UtcDate) : String :=
  String.ofList (padded 4 d.year ++ '-' :: (padded 2 d.month ++ '-' :: padded 2 d.day))

/-- `UtcDate::month_prefix`. -/
def monthPrefix (d : UtcDate) : String :=
  String.ofList (padded 4 d.year ++ '-' :: padded 2 d.month)

/-- `UtcDate::new`. -/
def new (year : ℤ) (month day : ℕ) : Except DateError UtcDate :=
  if h : (1 ≤ year.toNat ∧ year.toNat ≤ 9999) ∧ (1 ≤ month ∧ month ≤ 12) ∧
      (1 ≤ day ∧ day ≤ daysInMonth year.toNat month) then
    .ok ⟨year.toNat, month, day, h.1, h.2.1, h.2.2⟩
  else
    .error (.invalidDate ((if year < 0 then "-" ++ String.ofList (padded 3 year.natAbs)
      else String.ofList (padded 4 year.natAbs)) ++ "-" ++ String.ofList (padded 2 month) ++
      "-" ++ String.ofList (padded 2 day)))

/-- The digits of an unsigned number. -/
def parseDigits (digits : List Char) : Option ℕ :=
  if digits ≠ [] ∧ digits.all Char.isDigit then some (ofDigits digits) else none

/-- `str::parse::<i32>` of at most four characters. -/
def parseI32 : List Char → Option ℤ
  | '+' :: digits => (parseDigits digits).map Int.ofNat
  | '-' :: digits => (parseDigits digits).map fun n => -Int.ofNat n
  | digits => (parseDigits digits).map Int.ofNat

/-- `str::parse::<u8>` of at most two characters. -/
def parseU8 : List Char → Option ℕ
  | '+' :: digits => parseDigits digits
  | digits => parseDigits digits

/-- `UtcDate::parse`. -/
def parse (value : String) : Except DateError UtcDate :=
  match value.toList with
  | [y₁, y₂, y₃, y₄, '-', m₁, m₂, '-', d₁, d₂] =>
    match parseI32 [y₁, y₂, y₃, y₄], parseU8 [m₁, m₂], parseU8 [d₁, d₂] with
    | some year, some month, some day => new year month day
    | _, _, _ => .error (.invalidDate value)
  | _ => .error (.invalidDate value)

/-- `UtcDate::ordinal`. -/
def ordinal (d : UtcDate) : ℤ :=
  let year : ℤ := d.year - if d.month ≤ 2 then 1 else 0
  let month : ℤ := d.month
  let era := (if 0 ≤ year then year else year - 399) / 400
  let yearOfEra := year - era * 400
  let shiftedMonth := month + if 2 < month then -3 else 9
  let dayOfYear := (153 * shiftedMonth + 2) / 5 + d.day - 1
  let dayOfEra := yearOfEra * 365 + yearOfEra / 4 - yearOfEra / 100 + dayOfYear
  era * 146097 + dayOfEra

end UtcDate

/-! ### The text of a date -/

theorem digit_toNat (n : ℕ) : (digit n).toNat = 48 + n % 10 := by
  have hlt : n % 10 < 10 := Nat.mod_lt _ (by norm_num)
  unfold digit
  interval_cases n % 10 <;> rfl

theorem isDigit_digit (n : ℕ) : (digit n).isDigit = true := by
  have hlt : n % 10 < 10 := Nat.mod_lt _ (by norm_num)
  unfold digit
  interval_cases n % 10 <;> rfl

theorem length_padded (width n : ℕ) : (padded width n).length = width := by
  induction width generalizing n with
  | zero => rfl
  | succ width ih => rw [padded, List.length_append, ih, List.length_singleton]

theorem all_isDigit_padded (width n : ℕ) : (padded width n).all Char.isDigit = true := by
  induction width generalizing n with
  | zero => rfl
  | succ width ih =>
    rw [padded, List.all_append, ih, List.all_cons, List.all_nil, isDigit_digit]
    rfl

theorem ofDigits_append_digit (l : List Char) (n : ℕ) :
    ofDigits (l ++ [digit n]) = 10 * ofDigits l + n % 10 := by
  rw [ofDigits, List.foldl_append]
  show 10 * ofDigits l + ((digit n).toNat - 48) = _
  rw [digit_toNat, Nat.add_sub_cancel_left]

theorem ofDigits_padded {width n : ℕ} (h : n < 10 ^ width) : ofDigits (padded width n) = n := by
  induction width generalizing n with
  | zero =>
    rw [pow_zero] at h
    obtain rfl : n = 0 := by omega
    rfl
  | succ width ih =>
    have hdiv : n / 10 < 10 ^ width := by
      rw [pow_succ] at h
      omega
    rw [padded, ofDigits_append_digit, ih hdiv]
    omega

theorem parseDigits_padded {width n : ℕ} (hwidth : 0 < width) (h : n < 10 ^ width) :
    UtcDate.parseDigits (padded width n) = some n := by
  have hne : padded width n ≠ [] := by
    intro hnil
    have hlength := length_padded width n
    rw [hnil, List.length_nil] at hlength
    omega
  rw [UtcDate.parseDigits, if_pos ⟨hne, all_isDigit_padded width n⟩, ofDigits_padded h]

namespace UtcDate

theorem parseI32_of_digits {l : List Char} (h : l.all Char.isDigit = true) :
    parseI32 l = (parseDigits l).map Int.ofNat := by
  unfold parseI32
  split
  · exact absurd h (by simp)
  · exact absurd h (by simp)
  · rfl

theorem parseU8_of_digits {l : List Char} (h : l.all Char.isDigit = true) :
    parseU8 l = parseDigits l := by
  unfold parseU8
  split
  · exact absurd h (by simp)
  · rfl

theorem new_eq (d : UtcDate) : new d.year d.month d.day = .ok d := by
  have hvalid : (1 ≤ (d.year : ℤ).toNat ∧ (d.year : ℤ).toNat ≤ 9999) ∧
      (1 ≤ d.month ∧ d.month ≤ 12) ∧
      (1 ≤ d.day ∧ d.day ≤ daysInMonth (d.year : ℤ).toNat d.month) := by
    rw [Int.toNat_natCast]
    exact ⟨d.year_valid, d.month_valid, d.day_valid⟩
  rw [new, dif_pos hvalid]
  rfl

theorem year_lt (d : UtcDate) : d.year < 10 ^ 4 := by
  have hyear := d.year_valid
  omega

theorem month_lt (d : UtcDate) : d.month < 10 ^ 2 := by
  have hmonth := d.month_valid
  omega

theorem day_lt (d : UtcDate) : d.day < 10 ^ 2 := by
  have hday := d.day_valid
  have hle := daysInMonth_le d.year d.month
  omega

/-- A date is read back from its text. -/
theorem parse_display (d : UtcDate) : parse d.display = .ok d := by
  have hyear : parseI32 (padded 4 d.year) = some (d.year : ℤ) := by
    rw [parseI32_of_digits (all_isDigit_padded _ _), parseDigits_padded (by norm_num) d.year_lt]
    rfl
  have hmonth : parseU8 (padded 2 d.month) = some d.month := by
    rw [parseU8_of_digits (all_isDigit_padded _ _), parseDigits_padded (by norm_num) d.month_lt]
  have hday : parseU8 (padded 2 d.day) = some d.day := by
    rw [parseU8_of_digits (all_isDigit_padded _ _), parseDigits_padded (by norm_num) d.day_lt]
  have hchars : d.display.toList = [digit (d.year / 10 / 10 / 10), digit (d.year / 10 / 10),
      digit (d.year / 10), digit d.year, '-', digit (d.month / 10), digit d.month, '-',
      digit (d.day / 10), digit d.day] := by
    rw [display, String.toList_ofList]
    rfl
  unfold parse
  rw [hchars]
  show (match parseI32 (padded 4 d.year), parseU8 (padded 2 d.month), parseU8 (padded 2 d.day) with
    | some year, some month, some day => new year month day
    | _, _, _ => .error (.invalidDate d.display)) = _
  rw [hyear, hmonth, hday]
  exact new_eq d

theorem display_injective : Function.Injective display := by
  intro d d' h
  have hparse := parse_display d
  rw [h, parse_display d'] at hparse
  exact (Except.ok.inj hparse).symm

end UtcDate

/-! ### The order of the texts -/

theorem append_lt_append {l₁ l₂ : List Char} (h : l₁ < l₂) (hlength : l₁.length = l₂.length)
    (l l' : List Char) : l₁ ++ l < l₂ ++ l' := by
  induction l₁ generalizing l₂ with
  | nil =>
    rw [List.eq_nil_of_length_eq_zero hlength.symm] at h
    exact absurd h (List.lt_irrefl _)
  | cons c l₁ ih =>
    cases l₂ with
    | nil => exact absurd h (List.not_lt_nil _)
    | cons c' l₂ =>
      rw [List.cons_append, List.cons_append, List.cons_lt_cons_iff]
      rcases List.cons_lt_cons_iff.mp h with hlt | ⟨rfl, hlt⟩
      · exact .inl hlt
      · exact .inr ⟨rfl, ih hlt (Nat.succ.inj hlength)⟩

theorem digit_lt {m n : ℕ} (h : m % 10 < n % 10) : digit m < digit n := by
  show (digit m).toNat < (digit n).toNat
  rw [digit_toNat, digit_toNat]
  omega

theorem digit_congr {m n : ℕ} (h : m % 10 = n % 10) : digit m = digit n := by
  rw [digit, digit, h]

/-- The digits of a greater number are greater. -/
theorem padded_lt {width m n : ℕ} (hlt : m < n) (hn : n < 10 ^ width) :
    padded width m < padded width n := by
  induction width generalizing m n with
  | zero =>
    rw [pow_zero] at hn
    omega
  | succ width ih =>
    have hdiv : n / 10 < 10 ^ width := by
      rw [pow_succ] at hn
      omega
    rw [padded, padded]
    rcases Nat.lt_or_ge (m / 10) (n / 10) with h | h
    · exact append_lt_append (ih h hdiv) (by rw [length_padded, length_padded]) _ _
    · have heq : m / 10 = n / 10 := by omega
      rw [heq]
      apply List.append_left_lt
      rw [List.cons_lt_cons_iff]
      exact .inl (digit_lt (by omega))

namespace UtcDate

/-- The texts of the dates are ordered as the dates. -/
theorem display_lt {d d' : UtcDate} (h : d < d') : d.display < d'.display := by
  have hdigits : d.digits < d'.digits := h
  have hday := d.day_lt
  have hday' := d'.day_lt
  have hmonth := d.month_lt
  have hmonth' := d'.month_lt
  rw [digits, digits] at hdigits
  rw [String.lt_iff_toList_lt, display, display, String.toList_ofList, String.toList_ofList]
  rcases Nat.lt_or_ge d.year d'.year with hlt | hge
  · exact append_lt_append (padded_lt hlt d'.year_lt) (by rw [length_padded, length_padded]) _ _
  · have hyear : d.year = d'.year := by omega
    rw [hyear]
    apply List.append_left_lt
    rw [List.cons_lt_cons_iff]
    refine .inr ⟨rfl, ?_⟩
    rcases Nat.lt_or_ge d.month d'.month with hlt | hge
    · exact append_lt_append (padded_lt hlt d'.month_lt) (by rw [length_padded, length_padded]) _ _
    · have hmonths : d.month = d'.month := by omega
      rw [hmonths]
      apply List.append_left_lt
      rw [List.cons_lt_cons_iff]
      exact .inr ⟨rfl, padded_lt (by omega) d'.day_lt⟩

theorem display_strictMono : StrictMono display := fun _ _ h => display_lt h

end UtcDate

/-! ### Texts that are read as a date -/

theorem toNat_of_isDigit {c : Char} (h : c.isDigit = true) : 48 ≤ c.toNat ∧ c.toNat ≤ 57 := by
  simp only [Char.isDigit, Bool.and_eq_true, decide_eq_true_eq, UInt32.le_iff_toNat_le] at h
  exact h

theorem padded_ofDigits (l : List Char) (h : l.all Char.isDigit = true) :
    padded l.length (ofDigits l) = l := by
  induction l using List.reverseRecOn with
  | nil => rfl
  | append_singleton l c ih =>
    rw [List.all_append, Bool.and_eq_true, List.all_cons, List.all_nil, Bool.and_true] at h
    obtain ⟨hl, hc⟩ := h
    have hvalue := toNat_of_isDigit hc
    have hofDigits : ofDigits (l ++ [c]) = 10 * ofDigits l + (c.toNat - 48) := by
      rw [ofDigits, List.foldl_append]
      rfl
    have hdiv : (10 * ofDigits l + (c.toNat - 48)) / 10 = ofDigits l := by omega
    have hdigit : digit (10 * ofDigits l + (c.toNat - 48)) = c := by
      have hmod : 48 + (10 * ofDigits l + (c.toNat - 48)) % 10 = c.toNat := by omega
      rw [digit, hmod, Char.ofNat_toNat]
    rw [List.length_append, List.length_singleton, padded, hofDigits, hdiv, hdigit, ih hl]

namespace UtcDate

theorem parseDigits_eq_some {l : List Char} {n : ℕ} (h : parseDigits l = some n) :
    l.all Char.isDigit = true ∧ ofDigits l = n := by
  unfold parseDigits at h
  split at h
  · next hl => exact ⟨hl.2, Option.some.inj h⟩
  · exact absurd h (by simp)

/-- Without a plus sign, a positive number is read from its digits. -/
theorem parseI32_eq_some {l : List Char} {year : ℤ} (h : parseI32 l = some year)
    (hplus : '+' ∉ l) (hpos : 1 ≤ year.toNat) :
    l.all Char.isDigit = true ∧ ofDigits l = year.toNat := by
  unfold parseI32 at h
  split at h
  · exact absurd List.mem_cons_self hplus
  · obtain ⟨n, -, rfl⟩ := Option.map_eq_some_iff.mp h
    simp at hpos
  · obtain ⟨n, hn, rfl⟩ := Option.map_eq_some_iff.mp h
    exact parseDigits_eq_some hn

theorem parseU8_eq_some {l : List Char} {n : ℕ} (h : parseU8 l = some n) (hplus : '+' ∉ l) :
    l.all Char.isDigit = true ∧ ofDigits l = n := by
  unfold parseU8 at h
  split at h
  · exact absurd List.mem_cons_self hplus
  · exact parseDigits_eq_some h

theorem new_eq_ok {year : ℤ} {month day : ℕ} {d : UtcDate} (h : new year month day = .ok d) :
    1 ≤ year.toNat ∧ d.year = year.toNat ∧ d.month = month ∧ d.day = day := by
  unfold new at h
  split at h
  · next hvalid =>
    cases h
    exact ⟨hvalid.1.1, rfl, rfl, rfl⟩
  · cases h

/-- A text without a plus sign that is read as a date is the text of the date. -/
theorem display_of_parse {s : String} {d : UtcDate} (h : parse s = .ok d)
    (hplus : '+' ∉ s.toList) : d.display = s := by
  unfold parse at h
  split at h
  · next y₁ y₂ y₃ y₄ m₁ m₂ d₁ d₂ hchars =>
    split at h
    · next year month day hyear hmonth hday =>
      obtain ⟨hpos, hy, hm, hd⟩ := new_eq_ok h
      rw [hchars] at hplus
      simp only [List.mem_cons, not_or] at hplus
      obtain ⟨hdigits, hyearValue⟩ := parseI32_eq_some hyear (by simp [hplus]) hpos
      obtain ⟨hmdigits, hmonthValue⟩ := parseU8_eq_some hmonth (by simp [hplus])
      obtain ⟨hddigits, hdayValue⟩ := parseU8_eq_some hday (by simp [hplus])
      have hyears := padded_ofDigits _ hdigits
      have hmonths := padded_ofDigits _ hmdigits
      have hdays := padded_ofDigits _ hddigits
      rw [hyearValue, ← hy] at hyears
      rw [hmonthValue, ← hm] at hmonths
      rw [hdayValue, ← hd] at hdays
      rw [← String.toList_inj, hchars, display, String.toList_ofList]
      show padded [y₁, y₂, y₃, y₄].length d.year ++ '-' :: (padded [m₁, m₂].length d.month ++
        '-' :: padded [d₁, d₂].length d.day) = _
      rw [hyears, hmonths, hdays]
      rfl
    · cases h
  · cases h

theorem plus_notMem_padded (width n : ℕ) : '+' ∉ padded width n := by
  intro hmem
  have hall := all_isDigit_padded width n
  rw [List.all_eq_true] at hall
  exact absurd (hall _ hmem) (by decide)

theorem plus_notMem_display (d : UtcDate) : '+' ∉ d.display.toList := by
  rw [display, String.toList_ofList]
  simp [plus_notMem_padded]

/-! ### Months -/

theorem padded_injective {width m n : ℕ} (hm : m < 10 ^ width) (hn : n < 10 ^ width)
    (h : padded width m = padded width n) : m = n := by
  rw [← ofDigits_padded hm, h, ofDigits_padded hn]

/-- The days of a month are those whose text starts with the month. -/
theorem monthPrefix_isPrefix_iff (d today : UtcDate) :
    today.monthPrefix.toList <+: d.display.toList ↔ d.SameMonth today := by
  have hsplit : d.display.toList = d.monthPrefix.toList ++ '-' :: padded 2 d.day := by
    rw [display, monthPrefix, String.toList_ofList, String.toList_ofList, List.append_assoc]
    rfl
  have hlength : ∀ d : UtcDate, d.monthPrefix.toList.length = 7 := by
    intro d
    rw [monthPrefix, String.toList_ofList, List.length_append, List.length_cons, length_padded,
      length_padded]
  constructor
  · intro h
    have hmonth : d.monthPrefix.toList <+: d.display.toList := ⟨_, hsplit.symm⟩
    have heq : today.monthPrefix.toList = d.monthPrefix.toList :=
      (List.prefix_of_prefix_length_le h hmonth (by rw [hlength, hlength])).eq_of_length
        (by rw [hlength, hlength])
    rw [monthPrefix, monthPrefix, String.toList_ofList, String.toList_ofList] at heq
    obtain ⟨hyear, hrest⟩ := List.append_inj heq (by rw [length_padded, length_padded])
    exact ⟨(padded_injective today.year_lt d.year_lt hyear).symm,
      (padded_injective today.month_lt d.month_lt (List.cons.inj hrest).2).symm⟩
  · rintro ⟨hyear, hmonth⟩
    rw [hsplit, monthPrefix, monthPrefix, hyear, hmonth]
    exact List.prefix_append _ _

/-! ### Days -/

/-- The number of days of all months before the date, and its day. -/
def dayNumber (d : UtcDate) : ℕ :=
  ∑ year ∈ Finset.Ico 1 d.year, ∑ month ∈ Finset.Ico 1 13, daysInMonth year month +
    ∑ month ∈ Finset.Ico 1 d.month, daysInMonth d.year month + d.day

theorem sum_daysInMonth (year : ℕ) : ∑ month ∈ Finset.Ico 1 13, daysInMonth year month =
    365 + if year % 4 = 0 ∧ (year % 100 ≠ 0 ∨ year % 400 = 0) then 1 else 0 := by
  simp only [Finset.sum_Ico_eq_sum_range, Finset.sum_range_succ, Finset.sum_range_zero,
    daysInMonth]
  split_ifs <;> rfl

/-- The days of the years before a year. -/
theorem sum_years (n : ℕ) : ∑ year ∈ Finset.Ico 1 (n + 1), ∑ month ∈ Finset.Ico 1 13,
    daysInMonth year month + n / 100 = 365 * n + n / 4 + n / 400 := by
  induction n with
  | zero => rfl
  | succ n ih =>
    rw [Finset.sum_Ico_succ_top (by omega), sum_daysInMonth]
    split_ifs <;> omega

/-- The days of the months before a month, counted from March as the code does. -/
theorem sum_months (year : ℕ) {month : ℕ} (h : 1 ≤ month ∧ month ≤ 12) :
    (∑ m ∈ Finset.Ico 1 month, daysInMonth year m : ℕ) + 306 =
      (153 * ((month : ℤ) + if 2 < (month : ℤ) then -3 else 9) + 2) / 5 + if month ≤ 2 then 0
        else 365 + if year % 4 = 0 ∧ (year % 100 ≠ 0 ∨ year % 400 = 0) then (1 : ℤ) else 0 := by
  obtain ⟨hlow, hhigh⟩ := h
  interval_cases month <;>
    simp [Finset.sum_Ico_eq_sum_range, Finset.sum_range_succ, daysInMonth] <;> split_ifs <;>
      norm_num

/-- The number that the code computes counts the days. -/
theorem ordinal_eq (d : UtcDate) : d.ordinal = d.dayNumber + 305 := by
  have hyear := d.year_valid
  have hyears := sum_years (d.year - 1)
  rw [Nat.sub_add_cancel hyear.1] at hyears
  have hmonths := sum_months d.year d.month_valid
  -- The year counts from March, so the leap day of a year is its last day.
  have heras : ∀ n : ℤ, 0 ≤ n → n / 400 * 146097 + ((n - n / 400 * 400) * 365 +
      (n - n / 400 * 400) / 4 - (n - n / 400 * 400) / 100) =
        365 * n + n / 4 - n / 100 + n / 400 := by
    omega
  simp only [ordinal, dayNumber]
  generalize ∑ year ∈ Finset.Ico 1 d.year, ∑ month ∈ Finset.Ico 1 13, daysInMonth year month =
    years at hyears ⊢
  generalize ∑ month ∈ Finset.Ico 1 d.month, daysInMonth d.year month = months at hmonths ⊢
  generalize (153 * ((d.month : ℤ) + if 2 < (d.month : ℤ) then -3 else 9) + 2) / 5 = shifted
    at hmonths ⊢
  by_cases hmonth : d.month ≤ 2
  · have hera := heras (d.year - 1) (by omega)
    simp only [hmonth, if_true] at hmonths ⊢
    rw [if_pos (by omega)]
    push_cast
    omega
  · have hera := heras d.year (by omega)
    simp only [hmonth, if_false, sub_zero] at hmonths ⊢
    rw [if_pos (by omega)]
    push_cast
    split_ifs at hmonths <;> omega

end UtcDate

end WayfinderRouter.Pricing
