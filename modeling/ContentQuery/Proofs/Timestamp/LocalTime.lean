import ContentQuery.Proofs.Timestamp.Calendar

/-!
# Local times

A `LocalTime` is what a calendar and a clock show, and `LocalTime.toUtc` what they show in UTC at
the same moment. The carry of the clock turns a leaf of the calendar, and only that: no count of
days is involved. `instant_toUtc` says that on the time line this is a subtraction, and
`compare_instant` that the order of instants is that of the dates and times of day in UTC.
-/

set_option autoImplicit false

namespace ContentQuery

/-- The instant that comes before another one by some seconds. -/
def Timestamp.minus (t : Timestamp) (seconds : Int) : Timestamp :=
  { t with seconds := t.seconds - seconds }

@[simp] theorem Timestamp.minus_zero (t : Timestamp) : t.minus 0 = t := by
  simp [Timestamp.minus]

/-- What a calendar and a clock show. -/
structure LocalTime where
  date : Date
  time : Timestamp.TimeOfDay
deriving DecidableEq, Repr

namespace LocalTime

/-- A day of the calendar, and a time of day other than a leap second. -/
structure IsValid (t : LocalTime) : Prop where
  day : t.date.IsDay
  hour_le : t.time.hour ≤ 23
  minute_le : t.time.minute ≤ 59
  second_le : t.time.second ≤ 59

/-- The instant at which UTC shows this. -/
def instant (t : LocalTime) : Timestamp where
  seconds := t.date.dayNumber * 86400 + t.time.hour * 3600 + t.time.minute * 60 + t.time.second
  nanos := t.time.nanos

variable {t a b : LocalTime} {offset : Int}

theorem ofLocal?_eq (h : t.IsValid) (hdate : t.date.isValid = true) (offset : Int) :
    Timestamp.ofLocal? t.date t.time offset = some (t.instant.minus offset) := by
  have hsecond : (t.time.second == 60) = false := by
    rw [beq_eq_false_iff_ne]
    exact Nat.ne_of_lt (Nat.lt_succ_of_le h.second_le)
  have htime : t.time.isValid = true := by
    simp [Timestamp.TimeOfDay.isValid, h.hour_le, h.minute_le, Nat.le_succ_of_le h.second_le]
  unfold Timestamp.ofLocal?
  simp only [hdate, htime, hsecond, Bool.and_self, Bool.false_eq_true, if_true, if_false]
  rfl

/-! ## Shifting -/

/-- The minutes since midnight. -/
def minuteOfDay (t : LocalTime) : Nat := t.time.hour * 60 + t.time.minute

/-- The same second in a minute of a day. -/
def atMinute (t : LocalTime) (date : Date) (minute : Nat) : LocalTime :=
  ⟨date, { t.time with hour := minute / 60, minute := minute % 60 }⟩

/-- What UTC shows where local time is `offset` minutes ahead of it, by less than a day. -/
def toUtc (t : LocalTime) (offset : Int) : LocalTime :=
  let minute := t.minuteOfDay - offset
  if minute < 0 then t.atMinute t.date.prev (minute + 1440).toNat
  else if minute < 1440 then t.atMinute t.date minute.toNat
  else t.atMinute t.date.next (minute - 1440).toNat

theorem IsValid.minuteOfDay_lt (h : t.IsValid) : t.minuteOfDay < 1440 := by
  have hhour := h.hour_le
  have hminute := h.minute_le
  unfold minuteOfDay
  omega

theorem IsValid.atMinute (h : t.IsValid) {date : Date} (hdate : date.IsDay) {minute : Nat}
    (hminute : minute < 1440) : (t.atMinute date minute).IsValid where
  day := hdate
  hour_le := by
    show minute / 60 ≤ 23
    omega
  minute_le := by
    show minute % 60 ≤ 59
    omega
  second_le := h.second_le

theorem instant_atMinute (t : LocalTime) (date : Date) (minute : Nat) :
    (t.atMinute date minute).instant =
      { seconds := date.dayNumber * 86400 + minute * 60 + t.time.second,
        nanos := t.time.nanos } := by
  simp only [instant, atMinute, Timestamp.mk.injEq, and_true]
  omega

theorem IsValid.toUtc (h : t.IsValid) (hlow : -1440 < offset) (hhigh : offset < 1440) :
    (t.toUtc offset).IsValid := by
  have hlt := h.minuteOfDay_lt
  unfold LocalTime.toUtc
  dsimp only
  split
  · exact h.atMinute h.day.prev (by omega)
  · split
    · exact h.atMinute h.day (by omega)
    · exact h.atMinute h.day.next (by omega)

/-- **In UTC it is earlier by the offset.** -/
theorem instant_toUtc (h : t.IsValid) (hlow : -1440 < offset) (hhigh : offset < 1440) :
    (t.toUtc offset).instant = t.instant.minus (offset * 60) := by
  have hlt := h.minuteOfDay_lt
  have hinstant : t.instant.minus (offset * 60) =
      { seconds := t.date.dayNumber * 86400 + (t.minuteOfDay - offset) * 60 + t.time.second,
        nanos := t.time.nanos } := by
    simp only [Timestamp.minus, instant, minuteOfDay, Timestamp.mk.injEq, and_true]
    omega
  rw [hinstant]
  unfold toUtc
  dsimp only
  split
  · rw [instant_atMinute, Date.dayNumber_prev h.day, Timestamp.mk.injEq]
    omega
  · split
    · rw [instant_atMinute, Timestamp.mk.injEq]
      omega
    · rw [instant_atMinute, Date.dayNumber_next h.day, Timestamp.mk.injEq]
      omega

/-! ## Order -/

/-- By date, hour, minute and second, then by the fraction of the second. -/
def compare (a b : LocalTime) : Ordering :=
  (a.date.compare b.date).then <| (Ord.compare a.time.hour b.time.hour).then <|
    (Ord.compare a.time.minute b.time.minute).then <|
      (Ord.compare a.time.second b.time.second).then (Ord.compare a.time.nanos b.time.nanos)

theorem compare_natCast (m n : Nat) : Ord.compare (m : Int) (n : Int) = Ord.compare m n := by
  rcases lt_trichotomy m n with h | rfl | h
  · rw [compare_lt_iff_lt.2 h, compare_lt_iff_lt.2 (Int.ofNat_lt.2 h)]
  · rw [compare_eq_iff_eq.2 rfl, compare_eq_iff_eq.2 rfl]
  · rw [compare_gt_iff_gt.2 h, compare_gt_iff_gt.2 (Int.ofNat_lt.2 h)]

/-- Days, hours, minutes and seconds are digits of an instant. -/
theorem seconds_instant (t : LocalTime) : t.instant.seconds =
    ((t.date.dayNumber * 24 + t.time.hour) * 60 + t.time.minute) * 60 + t.time.second := by
  simp only [instant]
  omega

/-- **Instants are in the order of their dates and times.** -/
theorem compare_instant (ha : a.IsValid) (hb : b.IsValid) :
    a.instant.compare b.instant = a.compare b := by
  have hhour {t : LocalTime} (h : t.IsValid) : (t.time.hour : Int) < 24 := by
    have := h.hour_le
    omega
  have hminute {t : LocalTime} (h : t.IsValid) : (t.time.minute : Int) < 60 := by
    have := h.minute_le
    omega
  have hsecond {t : LocalTime} (h : t.IsValid) : (t.time.second : Int) < 60 := by
    have := h.second_le
    omega
  have hpos (n : Nat) : (0 : Int) ≤ n := Int.natCast_nonneg n
  rw [Timestamp.compare, seconds_instant, seconds_instant,
    compare_mul_add 60 (hpos _) (hsecond ha) (hpos _) (hsecond hb),
    compare_mul_add 60 (hpos _) (hminute ha) (hpos _) (hminute hb),
    compare_mul_add 24 (hpos _) (hhour ha) (hpos _) (hhour hb),
    Date.compare_dayNumber ha.day hb.day, compare_natCast, compare_natCast, compare_natCast,
    Ordering.then_assoc, Ordering.then_assoc, Ordering.then_assoc]
  rfl

end LocalTime

end ContentQuery
