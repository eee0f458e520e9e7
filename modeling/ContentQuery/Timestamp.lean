import ContentQuery.Arithmetic
import ContentQuery.Text.Digits
import ContentQuery.Text.CharClass

/-!
# Timestamps

A `Timestamp` is an instant on the UTC time line with nanoseconds. `Timestamp.ofText?` reads
RFC 3339, and the same date and time without an offset, which is then taken as UTC. The calendar
is the proleptic Gregorian one (`Date.dayNumber`).
-/

set_option autoImplicit false

namespace ContentQuery

/-! ## Calendar -/

/-- A year, a month counted from one and a day counted from one. -/
structure Date where
  year : Int
  month : Nat
  day : Nat
deriving DecidableEq, Repr

namespace Date

def isLeapYear (year : Int) : Bool :=
  year % 4 == 0 && (year % 100 != 0 || year % 400 == 0)

def daysInMonth (year : Int) (month : Nat) : Nat :=
  match month with
  | 2 => if isLeapYear year then 29 else 28
  | 4 | 6 | 9 | 11 => 30
  | _ => 31

/-- The years that the calendar covers. -/
def yearInRange (year : Int) : Bool := -262143 ≤ year && year ≤ 262142

/-- Whether the calendar has this day. -/
def isValid (d : Date) : Bool :=
  yearInRange d.year && 1 ≤ d.month && d.month ≤ 12 && 1 ≤ d.day
    && d.day ≤ daysInMonth d.year d.month

/-- The days of the months before `month`. -/
def daysBeforeMonth (year : Int) (month : Nat) : Nat :=
  total ((List.range (month - 1)).map fun m => daysInMonth year (m + 1))

/-- The days from 1 January of year 1 to 1 January of `year`. -/
def daysBeforeYear (year : Int) : Int :=
  let y := year - 1
  y * 365 + y / 4 - y / 100 + y / 400

/-- The days from 1 January 1970. -/
def dayNumber (d : Date) : Int :=
  daysBeforeYear d.year + daysBeforeMonth d.year d.month + d.day - 719163

/-- The date of a day number. Counted from 1 March of year 0, a cycle of 400 years has 146097
days, and the months from March on have 153 days in every five. -/
def ofDayNumber (n : Int) : Date :=
  let days := n + 719468
  let cycle := days / 146097
  let dayOfCycle := (days % 146097).toNat
  let yearOfCycle :=
    (dayOfCycle - dayOfCycle / 1460 + dayOfCycle / 36524 - dayOfCycle / 146096) / 365
  let dayOfYear := dayOfCycle - (365 * yearOfCycle + yearOfCycle / 4 - yearOfCycle / 100)
  let month := (5 * dayOfYear + 2) / 153
  let day := dayOfYear - (153 * month + 2) / 5 + 1
  let year := cycle * 400 + yearOfCycle
  if month < 10 then ⟨year, month + 3, day⟩ else ⟨year + 1, month - 9, day⟩

end Date

/-! ## Instants -/

/-- `seconds` since 1 January 1970 and `nanos` beyond; a leap second is the second before it with
a thousand million nanoseconds or more. -/
structure Timestamp where
  seconds : Int
  nanos : Nat
deriving DecidableEq, Repr

namespace Timestamp

instance : Inhabited Timestamp := ⟨0, 0⟩

/-- The order of time. -/
def compare (a b : Timestamp) : Ordering :=
  (Ord.compare a.seconds b.seconds).then (Ord.compare a.nanos b.nanos)

/-- A time of day; second 60 is a leap second. -/
structure TimeOfDay where
  hour : Nat
  minute : Nat
  second : Nat
  nanos : Nat
deriving DecidableEq, Repr

def TimeOfDay.isValid (t : TimeOfDay) : Bool :=
  t.hour ≤ 23 && t.minute ≤ 59 && t.second ≤ 60

/-- The instant of a local date and time, `offset` seconds ahead of UTC. -/
def ofLocal? (date : Date) (time : TimeOfDay) (offset : Int) : Option Timestamp :=
  if date.isValid && time.isValid then
    let leap := time.second == 60
    some {
      seconds := date.dayNumber * 86400 + time.hour * 3600 + time.minute * 60
        + (if leap then 59 else time.second) - offset
      nanos := time.nanos + if leap then 1000000000 else 0 }
  else none

/-! ## Reading -/

/-- Takes one given character off the front. -/
def expect? (c : Char) : List Char → Option (List Char)
  | d :: rest => if d == c then some rest else none
  | [] => none

/-- A fraction of a second, if there is a point: up to nine digits count, and more are dropped. -/
def takeFraction? : List Char → Option (Nat × List Char)
  | '.' :: cs => do
    let (n, rest) ← Text.takeNumber? 1 9 cs
    let places := cs.length - rest.length
    pure (n * powerOfTen (9 - places), rest.dropWhile Char.isDigit)
  | cs => some (0, cs)

/-- An offset of hours and minutes behind its sign, in seconds. -/
def takeOffsetAmount? (cs : List Char) : Option Int := do
  let (hours, cs) ← Text.takeNumber? 2 2 cs
  let cs ← expect? ':' cs
  let (minutes, cs) ← Text.takeNumber? 2 2 cs
  if cs.isEmpty && hours ≤ 23 && minutes ≤ 59 then pure (hours * 3600 + minutes * 60) else none

/-- The offset that ends a text: `Z` or a signed number of hours and minutes. The minus sign may
be the typographic one. -/
def offsetOfText? : List Char → Option Int
  | ['Z'] => some 0
  | ['z'] => some 0
  | '+' :: cs => takeOffsetAmount? cs
  | '-' :: cs => (takeOffsetAmount? cs).map fun n => -n
  | '−' :: cs => (takeOffsetAmount? cs).map fun n => -n
  | _ => none

/-- RFC 3339 with its offset; all fields have their full width. -/
def ofRfc3339? (cs : List Char) : Option Timestamp := do
  let (year, cs) ← Text.takeNumber? 4 4 cs
  let cs ← expect? '-' cs
  let (month, cs) ← Text.takeNumber? 2 2 cs
  let cs ← expect? '-' cs
  let (day, cs) ← Text.takeNumber? 2 2 cs
  let cs ← match cs with
    | c :: rest => if c == 't' || c == 'T' || c == ' ' then some rest else none
    | [] => none
  let (hour, cs) ← Text.takeNumber? 2 2 cs
  let cs ← expect? ':' cs
  let (minute, cs) ← Text.takeNumber? 2 2 cs
  let cs ← expect? ':' cs
  let (second, cs) ← Text.takeNumber? 2 2 cs
  let (nanos, cs) ← takeFraction? cs
  let offset ← offsetOfText? cs
  ofLocal? ⟨year, month, day⟩ ⟨hour, minute, second, nanos⟩ offset

/-- A field of one or two digits, after any white space. -/
def takeField? (cs : List Char) : Option (Nat × List Char) :=
  Text.takeNumber? 1 2 (cs.dropWhile Text.isBlank)

/-- A year of up to four digits, or of any number of digits behind a sign. -/
def takeYear? (cs : List Char) : Option (Int × List Char) :=
  match cs.dropWhile Text.isBlank with
  | '-' :: rest => (Text.takeNumber? 1 rest.length rest).map fun r => (-(r.1 : Int), r.2)
  | '+' :: rest => (Text.takeNumber? 1 rest.length rest).map fun r => ((r.1 : Int), r.2)
  | rest => (Text.takeNumber? 1 4 rest).map fun r => ((r.1 : Int), r.2)

/-- A date and a time without an offset, with fields of lenient width. The time follows a `T`, or
white space if `spaced`. -/
def ofUnzoned? (spaced : Bool) (cs : List Char) : Option Timestamp := do
  let (year, cs) ← takeYear? cs
  let cs ← expect? '-' cs
  let (month, cs) ← takeField? cs
  let cs ← expect? '-' cs
  let (day, cs) ← takeField? cs
  let cs ← if spaced then some (cs.dropWhile Text.isBlank) else expect? 'T' cs
  let (hour, cs) ← takeField? cs
  let cs ← expect? ':' cs
  let (minute, cs) ← takeField? cs
  let cs ← expect? ':' cs
  let (second, cs) ← takeField? cs
  let (nanos, cs) ← takeFraction? cs
  if cs.isEmpty then ofLocal? ⟨year, month, day⟩ ⟨hour, minute, second, nanos⟩ 0 else none

/-- Reads RFC 3339; a text without an offset is read as UTC. -/
def ofText? (s : String) : Option Timestamp :=
  let cs := s.toList
  (ofRfc3339? cs).or ((ofUnzoned? false cs).or (ofUnzoned? true cs))

/-! ## Writing -/

/-- A year in four digits; years outside these carry their sign. -/
def yearText (year : Int) : List Char :=
  let sign := if year < 0 then ['-'] else if 9999 < year then ['+'] else []
  sign ++ Text.digitsOf 4 year.natAbs

/-- The date and time in UTC up to the seconds. -/
def secondsText (t : Timestamp) : List Char :=
  let date := Date.ofDayNumber (t.seconds / 86400)
  let second := (t.seconds % 86400).toNat
  let two := Text.digitsOf 2
  yearText date.year ++ '-' :: two date.month ++ '-' :: two date.day
    ++ 'T' :: two (second / 3600) ++ ':' :: two (second / 60 % 60)
    ++ ':' :: two (second % 60 + t.nanos / 1000000000)

/-- A fraction with 0, 3, 6 or 9 digits, the fewest that lose nothing. -/
def shortFraction (nanos : Nat) : List Char :=
  if nanos == 0 then []
  else if nanos % 1000000 == 0 then '.' :: Text.digitsOf 3 (nanos / 1000000)
  else if nanos % 1000 == 0 then '.' :: Text.digitsOf 6 (nanos / 1000)
  else '.' :: Text.digitsOf 9 nanos

/-- How UTC is marked at the end of a written timestamp. -/
inductive ZoneMark
  | offset
  | zulu

def ZoneMark.text : ZoneMark → List Char
  | .offset => ['+', '0', '0', ':', '0', '0']
  | .zulu => ['Z']

/-- RFC 3339 in UTC with the shortest fraction. -/
def toText (t : Timestamp) (zone : ZoneMark) : String :=
  String.ofList (t.secondsText ++ shortFraction (t.nanos % 1000000000) ++ zone.text)

/-- RFC 3339 in UTC with all nine digits of the fraction. -/
def toNanosText (t : Timestamp) : String :=
  String.ofList (t.secondsText ++ '.' :: Text.digitsOf 9 (t.nanos % 1000000000)
    ++ ZoneMark.zulu.text)

end Timestamp

end ContentQuery
