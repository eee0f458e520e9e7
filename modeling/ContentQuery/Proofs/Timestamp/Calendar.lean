import ContentQuery.Timestamp
import Mathlib.Algebra.Order.Ring.Int
import Mathlib.Order.Compare
import Mathlib.Tactic.Linarith

/-!
# The calendar

`Date.next` and `Date.prev` turn the leaves of the calendar, and `Date.compare` goes by year, month
and day. Day numbers agree with both: the next day has the next number (`dayNumber_next`), and days
are in the order of their numbers (`compare_dayNumber`). Leap years and the lengths of months come
in through `daysBeforeYear_succ` and `daysBeforeMonth_succ`.
-/

set_option autoImplicit false

namespace ContentQuery

/-- Numbers of two digits in a mixed radix are in the order of their first digits, then of their
second ones. -/
theorem compare_mul_add (k : Int) {x x' r r' : Int} (hr : 0 ≤ r) (hk : r < k) (hr' : 0 ≤ r')
    (hk' : r' < k) :
    Ord.compare (x * k + r) (x' * k + r') = (Ord.compare x x').then (Ord.compare r r') := by
  have hlt {y y' s s' : Int} (h : y < y') (hs : s < k) (hs' : 0 ≤ s') :
      y * k + s < y' * k + s' := by
    have hmul := Int.mul_le_mul_of_nonneg_right (Int.add_one_le_of_lt h) (by omega : 0 ≤ k)
    rw [Int.add_mul, Int.one_mul] at hmul
    omega
  rcases lt_trichotomy x x' with h | rfl | h
  · rw [compare_lt_iff_lt.2 h, compare_lt_iff_lt.2 (hlt h hk hr')]
    rfl
  · have hsame : Ord.compare (x * k + r) (x * k + r') = Ord.compare r r' := by
      rcases lt_trichotomy r r' with h | rfl | h
      · rw [compare_lt_iff_lt.2 h, compare_lt_iff_lt.2 (Int.add_lt_add_left h _)]
      · rw [compare_eq_iff_eq.2 rfl, compare_eq_iff_eq.2 rfl]
      · rw [compare_gt_iff_gt.2 h, compare_gt_iff_gt.2 (Int.add_lt_add_left h _)]
    rw [hsame, compare_eq_iff_eq.2 (rfl : x = x)]
    rfl
  · rw [compare_gt_iff_gt.2 h, compare_gt_iff_gt.2 (hlt h hk' hr)]
    rfl

namespace Date

/-! ## Days of the calendar -/

/-- A day that the calendar has, in any year. -/
structure IsDay (d : Date) : Prop where
  month_pos : 1 ≤ d.month
  month_le : d.month ≤ 12
  day_pos : 1 ≤ d.day
  day_le : d.day ≤ daysInMonth d.year d.month

theorem isDay_of_isValid {d : Date} (h : d.isValid = true) : d.IsDay := by
  simp only [isValid, Bool.and_eq_true, decide_eq_true_eq] at h
  obtain ⟨⟨⟨⟨-, hmonth⟩, hmonth'⟩, hday⟩, hday'⟩ := h
  exact ⟨hmonth, hmonth', hday, hday'⟩

/-- The day after a day. -/
def next (d : Date) : Date :=
  if d.day < daysInMonth d.year d.month then { d with day := d.day + 1 }
  else if d.month < 12 then ⟨d.year, d.month + 1, 1⟩
  else ⟨d.year + 1, 1, 1⟩

/-- The day before a day. -/
def prev (d : Date) : Date :=
  if 1 < d.day then { d with day := d.day - 1 }
  else if 1 < d.month then ⟨d.year, d.month - 1, daysInMonth d.year (d.month - 1)⟩
  else ⟨d.year - 1, 12, 31⟩

/-- By year, then by month, then by day. -/
def compare (a b : Date) : Ordering :=
  (Ord.compare a.year b.year).then ((Ord.compare a.month b.month).then (Ord.compare a.day b.day))

theorem daysInMonth_pos (year : Int) (month : Nat) : 1 ≤ daysInMonth year month := by
  unfold daysInMonth
  split
  · split <;> decide
  all_goals decide

theorem daysInMonth_le (year : Int) (month : Nat) : daysInMonth year month ≤ 31 := by
  unfold daysInMonth
  split
  · split <;> decide
  all_goals decide

theorem IsDay.next {d : Date} (h : d.IsDay) : d.next.IsDay := by
  unfold Date.next
  split
  · exact ⟨h.month_pos, h.month_le, by simp, by assumption⟩
  · split
    · exact ⟨by simp, by assumption, Nat.le_refl _, daysInMonth_pos _ _⟩
    · exact ⟨Nat.le_refl _, by simp, Nat.le_refl _, daysInMonth_pos _ _⟩

theorem IsDay.prev {d : Date} (h : d.IsDay) : d.prev.IsDay := by
  have hday := h.day_le
  have hmonth := h.month_le
  unfold Date.prev
  split
  · exact ⟨h.month_pos, h.month_le, by dsimp only; omega, by dsimp only; omega⟩
  · split
    · exact ⟨by dsimp only; omega, by dsimp only; omega, daysInMonth_pos _ _, Nat.le_refl _⟩
    · exact ⟨by simp, Nat.le_refl _, by simp, Nat.le_refl _⟩

/-- A day follows the day before it. -/
theorem next_prev {d : Date} (h : d.IsDay) : d.prev.next = d := by
  obtain ⟨year, month, day⟩ := d
  obtain ⟨hmonth, hmonth', hday, hday'⟩ := h
  dsimp only at hmonth hmonth' hday hday'
  unfold Date.prev
  dsimp only
  split
  · rw [Date.next, if_pos (by dsimp only; omega), Nat.sub_add_cancel hday]
  · obtain rfl : day = 1 := by omega
    split
    · rw [Date.next, if_neg (Nat.lt_irrefl _), if_pos (by dsimp only; omega),
        Nat.sub_add_cancel hmonth]
    · obtain rfl : month = 1 := by omega
      rw [Date.next, if_neg (by simp [daysInMonth]), if_neg (Nat.lt_irrefl _), Int.sub_add_cancel]

/-! ## Months and years -/

variable {year : Int} {month : Nat}

theorem daysBeforeMonth_one (year : Int) : daysBeforeMonth year 1 = 0 := rfl

/-- A month starts where the one before it ends. -/
theorem daysBeforeMonth_succ (year : Int) (h : 1 ≤ month) :
    daysBeforeMonth year (month + 1) = daysBeforeMonth year month + daysInMonth year month := by
  obtain ⟨n, rfl⟩ := Nat.exists_eq_add_of_le' h
  simp [daysBeforeMonth, List.range_succ]

theorem daysBeforeMonth_add_le (year : Int) {month' : Nat} (hpos : 1 ≤ month) (h : month < month') :
    daysBeforeMonth year month + daysInMonth year month ≤ daysBeforeMonth year month' := by
  induction month', h using Nat.le_induction with
  | base => rw [daysBeforeMonth_succ year hpos]
  | succ month' hle ih =>
    rw [daysBeforeMonth_succ year (by omega)]
    omega

theorem isLeapYear_iff :
    isLeapYear year = true ↔ year % 4 = 0 ∧ (year % 100 ≠ 0 ∨ year % 400 = 0) := by
  simp [isLeapYear]

/-- The days of a year, which are those before a thirteenth month. -/
theorem daysInYear_eq (year : Int) :
    daysBeforeMonth year 13 = if isLeapYear year then 366 else 365 := by
  have hmonths : daysBeforeMonth year 13 = 337 + daysInMonth year 2 := by
    simp [daysBeforeMonth, List.range_succ, daysInMonth]
    omega
  rw [hmonths, daysInMonth]
  split <;> rfl

/-- A year starts where the one before it ends. -/
theorem daysBeforeYear_succ (year : Int) :
    daysBeforeYear (year + 1) = daysBeforeYear year + daysBeforeMonth year 13 := by
  rw [daysInYear_eq]
  simp only [daysBeforeYear]
  by_cases h : isLeapYear year = true
  · rw [if_pos h]
    rw [isLeapYear_iff] at h
    omega
  · rw [if_neg h]
    rw [isLeapYear_iff] at h
    omega

theorem daysBeforeYear_le {year' : Int} (h : year < year') :
    daysBeforeYear year + daysBeforeMonth year 13 ≤ daysBeforeYear year' := by
  rw [← daysBeforeYear_succ]
  simp only [daysBeforeYear]
  omega

/-! ## Day numbers -/

section
variable {a b d : Date}

/-- **The next day has the next number.** -/
theorem dayNumber_next (h : d.IsDay) : d.next.dayNumber = d.dayNumber + 1 := by
  obtain ⟨year, month, day⟩ := d
  obtain ⟨hpos, hle, -, hday⟩ := h
  dsimp only at hpos hle hday
  have hmonth := daysBeforeMonth_succ year hpos
  unfold Date.next
  dsimp only
  split
  · simp only [dayNumber]
    omega
  · split
    · simp only [dayNumber]
      omega
    · obtain rfl : month = 12 := by omega
      have hyear := daysBeforeYear_succ year
      change daysBeforeMonth year 13 = _ at hmonth
      simp only [dayNumber, daysBeforeMonth_one]
      omega

/-- The day before has the number before. -/
theorem dayNumber_prev (h : d.IsDay) : d.prev.dayNumber = d.dayNumber - 1 := by
  have hnext := dayNumber_next h.prev
  rw [next_prev h] at hnext
  omega

/-- A day lies in its year. -/
theorem IsDay.le_daysInYear (h : d.IsDay) :
    daysBeforeMonth d.year d.month + d.day ≤ daysBeforeMonth d.year 13 := by
  have hlt : d.month < 13 := Nat.lt_succ_of_le h.month_le
  have hmonth := daysBeforeMonth_add_le d.year h.month_pos hlt
  have hday := h.day_le
  omega

theorem dayNumber_lt_of_year (ha : a.IsDay) (hb : b.IsDay) (h : a.year < b.year) :
    a.dayNumber < b.dayNumber := by
  have hyear := daysBeforeYear_le h
  have hle := ha.le_daysInYear
  have hpos := hb.day_pos
  simp only [dayNumber]
  omega

theorem dayNumber_lt_of_month (ha : a.IsDay) (hb : b.IsDay) (hyear : a.year = b.year)
    (h : a.month < b.month) : a.dayNumber < b.dayNumber := by
  have hmonth := daysBeforeMonth_add_le a.year ha.month_pos h
  have hle := ha.day_le
  have hpos := hb.day_pos
  simp only [dayNumber, ← hyear]
  omega

/-- **Days are in the order of their numbers.** -/
theorem compare_dayNumber (ha : a.IsDay) (hb : b.IsDay) :
    Ord.compare a.dayNumber b.dayNumber = a.compare b := by
  unfold Date.compare
  rcases lt_trichotomy a.year b.year with hyear | hyear | hyear
  · rw [compare_lt_iff_lt.2 hyear, compare_lt_iff_lt.2 (dayNumber_lt_of_year ha hb hyear)]
    rfl
  · rw [compare_eq_iff_eq.2 hyear, Ordering.eq_then]
    rcases lt_trichotomy a.month b.month with hmonth | hmonth | hmonth
    · rw [compare_lt_iff_lt.2 hmonth,
        compare_lt_iff_lt.2 (dayNumber_lt_of_month ha hb hyear hmonth)]
      rfl
    · rw [compare_eq_iff_eq.2 hmonth, Ordering.eq_then]
      simp only [dayNumber, hyear, hmonth]
      rcases lt_trichotomy a.day b.day with hday | hday | hday
      · rw [compare_lt_iff_lt.2 hday, compare_lt_iff_lt]
        omega
      · rw [hday, compare_eq_iff_eq.2 rfl, compare_eq_iff_eq.2 rfl]
      · rw [compare_gt_iff_gt.2 hday, compare_gt_iff_gt]
        omega
    · rw [compare_gt_iff_gt.2 hmonth,
        compare_gt_iff_gt.2 (dayNumber_lt_of_month hb ha hyear.symm hmonth)]
      rfl
  · rw [compare_gt_iff_gt.2 hyear, compare_gt_iff_gt.2 (dayNumber_lt_of_year hb ha hyear)]
    rfl

end

end Date

end ContentQuery
