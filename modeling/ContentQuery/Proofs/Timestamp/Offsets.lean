import ContentQuery.Proofs.Number.Decimals
import ContentQuery.Proofs.Timestamp.LocalTime
import ContentQuery.Value

/-!
# Timestamps with and without an offset

`Timestamp.Spelling` is a date and time as RFC 3339 writes it up to the offset, and
`Timestamp.Offset` an offset of hours and minutes. A text with an offset is read in one way
(`ofRfc3339?_chars`) and a text without in another (`ofUnzoned?_chars`); `offsets_agree` says that
the instants are the same ones, and that they compare like the local times in UTC.
-/

set_option autoImplicit false

namespace ContentQuery

namespace Timestamp

open Text

/-! ## Written dates, times and offsets -/

/-- A date and a time of day in full width, with a year of four digits and up to nine digits of a
fraction. -/
structure Spelling where
  date : Date
  hour : Nat
  minute : Nat
  second : Nat
  fraction : List Char
  year_nonneg : 0 ≤ date.year
  year_le : date.year ≤ 9999
  isValid : date.isValid = true
  hour_le : hour ≤ 23
  minute_le : minute ≤ 59
  second_le : second ≤ 59
  fraction_isDigit : ∀ c ∈ fraction, c.isDigit = true
  fraction_length : fraction.length ≤ 9

/-- A sign with hours and minutes, behind UTC if the sign is a minus. -/
structure Offset where
  behind : Bool
  hours : Nat
  minutes : Nat
  hours_le : hours ≤ 23
  minutes_le : minutes ≤ 59

namespace Spelling

variable (s : Spelling)

/-- The written form, with a text behind it. -/
def charsBefore (k : List Char) : List Char :=
  digitsOf 4 s.date.year.toNat ++ '-' :: (digitsOf 2 s.date.month ++ '-' ::
    (digitsOf 2 s.date.day ++ 'T' :: (digitsOf 2 s.hour ++ ':' :: (digitsOf 2 s.minute ++ ':' ::
      (digitsOf 2 s.second ++ (Decimal.behindPoint s.fraction ++ k))))))

/-- `YYYY-MM-DDTHH:MM:SS` with a fraction if there is one. -/
def text : String := String.ofList (s.charsBefore [])

theorem toList_text_append (k : String) : (s.text ++ k).toList = s.charsBefore k.toList := by
  simp [text, charsBefore]

/-- The nanoseconds of the fraction. -/
def nanos : Nat := digitsValue s.fraction * powerOfTen (9 - s.fraction.length)

/-- What is written, as a local time. -/
def localTime : LocalTime := ⟨s.date, ⟨s.hour, s.minute, s.second, s.nanos⟩⟩

theorem localTime_isValid : s.localTime.IsValid :=
  ⟨Date.isDay_of_isValid s.isValid, s.hour_le, s.minute_le, s.second_le⟩

end Spelling

namespace Offset

variable (o : Offset)

def chars : List Char :=
  (if o.behind then '-' else '+') :: (digitsOf 2 o.hours ++ ':' :: digitsOf 2 o.minutes)

/-- `+hh:mm` or `-hh:mm`. -/
def text : String := String.ofList o.chars

/-- The minutes by which local time is ahead of UTC. -/
def amount : Int :=
  if o.behind then -(o.hours * 60 + o.minutes : Int) else o.hours * 60 + o.minutes

theorem amount_bounds : -1440 < o.amount ∧ o.amount < 1440 := by
  have hhours := o.hours_le
  have hminutes := o.minutes_le
  unfold amount
  split <;> omega

end Offset

/-! ## Reading -/

/-- Neither a digit nor a point stands here. -/
def EndsFraction (k : List Char) : Prop := ∀ c ∈ k.head?, c.isDigit = false ∧ c ≠ '.'

section
variable {k : List Char}

theorem takeFraction?_behindPoint {ds : List Char} (hds : ∀ c ∈ ds, c.isDigit = true)
    (hlength : ds.length ≤ 9) (hk : EndsFraction k) :
    takeFraction? (Decimal.behindPoint ds ++ k) =
      some (digitsValue ds * powerOfTen (9 - ds.length), k) := by
  by_cases hne : ds = []
  · subst hne
    rw [Decimal.behindPoint, if_pos rfl, List.nil_append, digitsValue_nil, Nat.zero_mul]
    unfold takeFraction?
    split
    · exact absurd rfl (hk '.' rfl).2
    · rfl
  · have hpos : 1 ≤ ds.length := List.length_pos_iff.2 hne
    have htake : takeNumber? 1 9 (ds ++ k) = some (digitsValue ds, k) :=
      takeNumber?_append hds hpos hlength (.inr fun c hc => (hk c hc).1)
    have hplaces : (ds ++ k).length - k.length = ds.length := by
      rw [List.length_append, Nat.add_sub_cancel]
    have hrest : k.dropWhile Char.isDigit = k := by
      cases k with
      | nil => rfl
      | cons c k =>
        rw [List.dropWhile_cons_of_neg]
        rw [(hk c rfl).1]
        exact Bool.false_ne_true
    rw [Decimal.behindPoint_of_ne_nil hne, List.cons_append, takeFraction?, htake]
    show some (digitsValue ds * powerOfTen (9 - ((ds ++ k).length - k.length)),
      k.dropWhile Char.isDigit) = _
    rw [hplaces, hrest]

namespace Spelling

variable (s : Spelling)

theorem year_lt : s.date.year.toNat < 10 ^ 4 := by
  have hyear := s.year_le
  omega

theorem month_lt : s.date.month < 10 ^ 2 := by
  have hmonth := s.localTime_isValid.day.month_le
  simp only [localTime] at hmonth
  omega

theorem day_lt : s.date.day < 10 ^ 2 := by
  have hday := s.localTime_isValid.day.day_le
  have hmonth := Date.daysInMonth_le s.date.year s.date.month
  simp only [localTime] at hday
  omega

theorem hour_lt : s.hour < 10 ^ 2 := Nat.lt_of_le_of_lt s.hour_le (by decide)

theorem minute_lt : s.minute < 10 ^ 2 := Nat.lt_of_le_of_lt s.minute_le (by decide)

theorem second_lt : s.second < 10 ^ 2 := Nat.lt_of_le_of_lt s.second_le (by decide)

theorem ofLocal?_fields (offset : Int) :
    ofLocal? ⟨s.date.year.toNat, s.date.month, s.date.day⟩ ⟨s.hour, s.minute, s.second, s.nanos⟩
      offset = some (s.localTime.instant.minus offset) := by
  rw [Int.toNat_of_nonneg s.year_nonneg]
  exact LocalTime.ofLocal?_eq s.localTime_isValid s.isValid offset

end Spelling

theorem expect?_bind (c : Char) (k : List Char) (f : List Char → Option Timestamp) :
    (expect? c (c :: k)).bind f = f k := by
  rw [expect?, beq_self_eq_true, if_pos rfl, Option.bind_some]

/-- A text with an offset behind its fields is read as the local time less the offset. -/
theorem ofRfc3339?_chars (s : Spelling) (hk : EndsFraction k) :
    ofRfc3339? (s.charsBefore k) =
      (offsetOfText? k).bind fun offset => some (s.localTime.instant.minus offset) := by
  have htake {n : Nat} (hn : n < 10 ^ 2) (k : List Char)
      (f : Nat × List Char → Option Timestamp) :
      (takeNumber? 2 2 (digitsOf 2 n ++ k)).bind f = f (n, k) := by
    rw [takeNumber?_digitsOf (Nat.le_refl _) (by decide) hn, Option.bind_some]
  unfold ofRfc3339? Spelling.charsBefore
  rw [takeNumber?_digitsOf (Nat.le_refl 4) (by decide) s.year_lt]
  -- each step before what goes on behind it, which would otherwise be simplified twice
  simp only [↓Option.bind_eq_bind, ↓Option.bind_some, ↓expect?_bind, ↓htake s.month_lt,
    ↓htake s.day_lt, ↓htake s.hour_lt, ↓htake s.minute_lt, ↓htake s.second_lt,
    beq_self_eq_true, if_true, Bool.or_true, Bool.true_or,
    takeFraction?_behindPoint s.fraction_isDigit s.fraction_length hk]
  exact congrArg (Option.bind _) (funext s.ofLocal?_fields)

theorem dropWhile_isBlank_digitsOf (width n : Nat) (k : List Char) :
    (digitsOf width n ++ k).dropWhile isBlank = digitsOf width n ++ k := by
  obtain ⟨c, cs, hcs, hc⟩ := exists_digitsOf_eq_cons width n
  have hblank := of_isDigit (fun c => !isBlank c) (by decide) hc
  rw [hcs, List.cons_append, List.dropWhile_cons_of_neg (by simpa using hblank)]

theorem takeYear?_digitsOf {n : Nat} (hn : n < 10 ^ 4) (k : List Char) :
    takeYear? (digitsOf 4 n ++ k) = some ((n : Int), k) := by
  have htake := takeNumber?_digitsOf (Nat.le_add_left 1 3) (by decide) hn k
  obtain ⟨c, cs, hcs, hc⟩ := exists_digitsOf_eq_cons 4 n
  unfold takeYear?
  rw [dropWhile_isBlank_digitsOf]
  rw [hcs, List.cons_append] at htake ⊢
  split
  · rename_i heq
    rw [(List.cons.inj heq).1] at hc
    exact absurd hc (by decide)
  · rename_i heq
    rw [(List.cons.inj heq).1] at hc
    exact absurd hc (by decide)
  · rw [htake, Option.map_some]

theorem takeField?_bind {n : Nat} (hn : n < 10 ^ 2) (k : List Char)
    (f : Nat × List Char → Option Timestamp) :
    (takeField? (digitsOf 2 n ++ k)).bind f = f (n, k) := by
  rw [takeField?, dropWhile_isBlank_digitsOf, takeNumber?_digitsOf (by decide) (by decide) hn,
    Option.bind_some]

/-- A text that ends behind its fields is read as UTC. -/
theorem ofUnzoned?_chars (s : Spelling) :
    ofUnzoned? false (s.charsBefore []) = some s.localTime.instant := by
  have hend : EndsFraction [] := fun c hc => absurd hc (by simp)
  have hlocal := s.ofLocal?_fields 0
  unfold ofUnzoned? Spelling.charsBefore
  rw [takeYear?_digitsOf s.year_lt]
  simp only [↓Option.bind_eq_bind, ↓Option.bind_some, ↓expect?_bind,
    ↓takeField?_bind s.month_lt, ↓takeField?_bind s.day_lt, ↓takeField?_bind s.hour_lt,
    ↓takeField?_bind s.minute_lt, ↓takeField?_bind s.second_lt, Bool.false_eq_true, if_false,
    takeFraction?_behindPoint s.fraction_isDigit s.fraction_length hend, List.isEmpty_nil,
    if_true]
  rw [minus_zero] at hlocal
  exact hlocal

theorem offsetOfText?_chars (o : Offset) : offsetOfText? o.chars = some (o.amount * 60) := by
  have hhours : o.hours < 10 ^ 2 := Nat.lt_of_le_of_lt o.hours_le (by decide)
  have hminutes : o.minutes < 10 ^ 2 := Nat.lt_of_le_of_lt o.minutes_le (by decide)
  have hlast := takeNumber?_digitsOf (Nat.le_refl 2) (by decide) hminutes []
  rw [List.append_nil] at hlast
  have hamount : takeOffsetAmount? (digitsOf 2 o.hours ++ ':' :: digitsOf 2 o.minutes) =
      some ((o.hours * 60 + o.minutes : Int) * 60) := by
    unfold takeOffsetAmount?
    rw [takeNumber?_digitsOf (Nat.le_refl 2) (by decide) hhours]
    simp only [Option.bind_eq_bind, Option.bind_some, expect?, beq_self_eq_true, if_true, hlast,
      List.isEmpty_nil, o.hours_le, o.minutes_le, decide_true, Bool.and_self, Option.pure_def,
      Option.some.injEq]
    omega
  unfold Offset.chars Offset.amount
  cases o.behind with
  | true =>
    show (takeOffsetAmount? _).map _ = _
    rw [hamount, Option.map_some, if_pos rfl, Int.neg_mul]
  | false => exact hamount

end

/-- How a text ends: without an offset, with `Z`, or with an offset. -/
inductive Zone
  | unmarked
  | zulu
  | offset (o : Offset)

namespace Zone

def text : Zone → String
  | unmarked => ""
  | zulu => "Z"
  | offset o => o.text

/-- The minutes by which local time is ahead of UTC. -/
def amount : Zone → Int
  | unmarked => 0
  | zulu => 0
  | offset o => o.amount

theorem amount_bounds (zone : Zone) : -1440 < zone.amount ∧ zone.amount < 1440 := by
  cases zone with
  | unmarked => decide
  | zulu => decide
  | offset o => exact o.amount_bounds

end Zone

/-- However a text ends, it is read as the local time less the offset. -/
theorem ofText?_text (s : Spelling) (zone : Zone) :
    ofText? (s.text ++ zone.text) = some (s.localTime.instant.minus (zone.amount * 60)) := by
  unfold ofText?
  rw [Spelling.toList_text_append]
  cases zone with
  | unmarked =>
    have hnone : ofRfc3339? (s.charsBefore []) = none :=
      ofRfc3339?_chars s fun c hc => absurd hc (by simp)
    show (ofRfc3339? (s.charsBefore [])).or ((ofUnzoned? false (s.charsBefore [])).or _) = _
    rw [hnone, ofUnzoned?_chars]
    exact congrArg some (Timestamp.minus_zero _).symm
  | zulu =>
    have hend : EndsFraction ['Z'] := fun c hc => by
      rw [← Option.some.inj hc]
      decide
    show (ofRfc3339? (s.charsBefore ['Z'])).or _ = _
    rw [ofRfc3339?_chars s hend]
    rfl
  | offset o =>
    have hend : EndsFraction o.chars := fun c hc => by
      rw [← Option.some.inj hc]
      cases o.behind <;> decide
    show (ofRfc3339? (s.charsBefore (String.ofList o.chars).toList)).or _ = _
    rw [String.toList_ofList, ofRfc3339?_chars s hend, offsetOfText?_chars]
    rfl

theorem ofText?_text_toUtc (s : Spelling) (zone : Zone) :
    ofText? (s.text ++ zone.text) = some (s.localTime.toUtc zone.amount).instant := by
  rw [ofText?_text,
    LocalTime.instant_toUtc s.localTime_isValid zone.amount_bounds.1 zone.amount_bounds.2]

/-- **Texts with and without an offset agree.** Without an offset, with `Z` and with `+00:00` a text
is one instant, and with any other offset it is that instant less the offset. This is the instant of
the date and time that a calendar and a clock in UTC show, and instants compare as these do. -/
theorem offsets_agree (s : Spelling) :
    ofText? s.text = some s.localTime.instant ∧
    ofText? (s.text ++ "Z") = some s.localTime.instant ∧
    ofText? (s.text ++ "+00:00") = some s.localTime.instant ∧
    (∀ o : Offset,
      ofText? (s.text ++ o.text) = some (s.localTime.instant.minus (o.amount * 60)) ∧
      s.localTime.instant.minus (o.amount * 60) = (s.localTime.toUtc o.amount).instant) ∧
    ∀ (s' : Spelling) (zone zone' : Zone), ∃ a b : Timestamp,
      ofText? (s.text ++ zone.text) = some a ∧ ofText? (s'.text ++ zone'.text) = some b ∧
      (Value.datetime a).compare? (.datetime b) =
        some ((s.localTime.toUtc zone.amount).compare (s'.localTime.toUtc zone'.amount)) := by
  have hvalid (s : Spelling) (zone : Zone) : (s.localTime.toUtc zone.amount).IsValid :=
    s.localTime_isValid.toUtc zone.amount_bounds.1 zone.amount_bounds.2
  refine ⟨?_, ?_, ?_, fun o => ⟨ofText?_text s (.offset o), ?_⟩, fun s' zone zone' =>
    ⟨_, _, ofText?_text_toUtc s zone, ofText?_text_toUtc s' zone', ?_⟩⟩
  · have h := ofText?_text s .unmarked
    rw [Zone.text, String.append_empty] at h
    rw [h]
    exact congrArg some (Timestamp.minus_zero _)
  · exact (ofText?_text s .zulu).trans (congrArg some (Timestamp.minus_zero _))
  · have h := ofText?_text s (.offset ⟨false, 0, 0, Nat.zero_le _, Nat.zero_le _⟩)
    exact h.trans (congrArg some (Timestamp.minus_zero _))
  · exact (LocalTime.instant_toUtc s.localTime_isValid o.amount_bounds.1 o.amount_bounds.2).symm
  · exact congrArg some (LocalTime.compare_instant (hvalid s zone) (hvalid s' zone'))

/-- Behind UTC it is still the day before the leap day. -/
theorem offsets_agree_leap_day : ∃ (s : Spelling) (o : Offset),
    s.text ++ o.text = "2024-02-28T23:30:15.5-01:00" ∧
    s.localTime.toUtc o.amount = ⟨⟨2024, 2, 29⟩, ⟨0, 30, 15, 500000000⟩⟩ ∧
    ofText? (s.text ++ o.text) = some ⟨1709166615, 500000000⟩ := by
  let s : Spelling :=
    ⟨⟨2024, 2, 28⟩, 23, 30, 15, ['5'], by decide, by decide, by decide, by decide, by decide,
      by decide, by simp, by decide⟩
  let o : Offset := ⟨true, 1, 0, by decide, by decide⟩
  exact ⟨s, o, by decide, by decide, ((offsets_agree s).2.2.2.1 o).1.trans (by decide)⟩

end Timestamp

end ContentQuery
