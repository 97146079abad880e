import Schemata.Text.Split
import Schemata.Unicode.Blank

/-!
# Dates and times of day

Dates, times and date-times are read from left to right, item by item: numbers, which may have
blanks before them, and the marks between them. A reading stops at the first item that does not fit,
and only a text read to its end is checked against the calendar. Nothing is converted between time
zones.

Results: `Date.ofNumbers_eq_ok_iff` (which days exist).
-/
namespace Schemata

/-- Why a text is no date or time. -/
inductive CalendarFault where
  /-- Something else was expected. -/
  | invalid
  /-- A number lies outside its range, or the day does not exist. -/
  | outOfRange
  /-- The text ends too early. -/
  | premature
  /-- The text goes on. -/
  | trailing
  deriving DecidableEq, Repr

/-- The wording of a fault. -/
def CalendarFault.message : CalendarFault → String
  | invalid => "input contains invalid characters"
  | outOfRange => "input is out of range"
  | premature => "premature end of input"
  | trailing => "trailing input"

/-! ## Values -/

/-- A year divisible by 4 is a leap year, unless it is divisible by 100 and not by 400. -/
def isLeapYear (year : Int) : Bool :=
  year % 4 == 0 && (year % 100 != 0 || year % 400 == 0)

/-- The number of days of a month. -/
def daysInMonth (year : Int) (month : Nat) : Nat :=
  if month = 2 then (if isLeapYear year then 29 else 28)
  else if month = 4 ∨ month = 6 ∨ month = 9 ∨ month = 11 then 30
  else 31

/-- A day of the calendar, in a year that the calendar reaches. -/
structure Date where
  /-- The year; the year before 1 is 0. -/
  year : Int
  /-- The month, from 1. -/
  month : Nat
  /-- The day of the month, from 1. -/
  day : Nat
  year_mem : -262143 ≤ year ∧ year ≤ 262142
  month_mem : 1 ≤ month ∧ month ≤ 12
  day_mem : 1 ≤ day ∧ day ≤ daysInMonth year month
  deriving DecidableEq, Repr

/-- The day with the given numbers, if it exists. -/
def Date.ofNumbers (year : Int) (month day : Nat) : Except CalendarFault Date :=
  if h : (-262143 ≤ year ∧ year ≤ 262142) ∧ (1 ≤ month ∧ month ≤ 12) ∧
      (1 ≤ day ∧ day ≤ daysInMonth year month) then
    .ok ⟨year, month, day, h.1, h.2.1, h.2.2⟩
  else .error .outOfRange

theorem Date.ofNumbers_eq_ok_iff {year : Int} {month day : Nat} {d : Date} :
    Date.ofNumbers year month day = .ok d ↔ d.year = year ∧ d.month = month ∧ d.day = day := by
  unfold Date.ofNumbers
  obtain ⟨y, m, k, hy, hm, hk⟩ := d
  constructor
  · intro h
    split at h
    · injection h with h
      injection h with h1 h2 h3
      exact ⟨h1.symm, h2.symm, h3.symm⟩
    · cases h
  · rintro ⟨rfl, rfl, rfl⟩
    exact dif_pos ⟨hy, hm, hk⟩

/-- A time of day. The second 60 is a leap second. -/
structure TimeOfDay where
  hour : Nat
  minute : Nat
  second : Nat
  /-- The nanosecond of the second. -/
  nanosecond : Nat
  hour_lt : hour < 24
  minute_lt : minute < 60
  second_le : second ≤ 60
  nanosecond_lt : nanosecond < 1000000000
  deriving DecidableEq, Repr

/-- The time with the given numbers, if they lie in their ranges. -/
def TimeOfDay.ofNumbers (hour minute second nanosecond : Nat) : Except CalendarFault TimeOfDay :=
  if h : hour < 24 ∧ minute < 60 ∧ second ≤ 60 ∧ nanosecond < 1000000000 then
    .ok ⟨hour, minute, second, nanosecond, h.1, h.2.1, h.2.2.1, h.2.2.2⟩
  else .error .outOfRange

/-- A day and a time of it, which may state how far its clock is ahead of universal time. -/
structure DateTime where
  /-- The day. -/
  date : Date
  time : TimeOfDay
  /-- The minutes that the clock is ahead, if they are stated. -/
  offset : Option Int
  deriving DecidableEq, Repr

/-! ## Writing -/

/-- Years of four digits stand alone; later ones have a plus and earlier ones a minus in front. -/
def yearChars (year : Int) : List Char :=
  let ds := padded 4 year.natAbs
  if year < 0 then '-' :: ds else if 9999 < year then '+' :: ds else ds

namespace Date

/-- A date as `YYYY-MM-DD`. -/
def chars (d : Date) : List Char :=
  yearChars d.year ++ '-' :: padded 2 d.month ++ '-' :: padded 2 d.day

/-- A date as text. -/
def text (d : Date) : String := String.ofList d.chars

end Date

/-- The fraction of a second with three, six or nine digits, as few as are exact; none if it is
zero. -/
def fractionChars (nanosecond : Nat) : List Char :=
  if nanosecond = 0 then []
  else if nanosecond % 1000000 = 0 then '.' :: padded 3 (nanosecond / 1000000)
  else if nanosecond % 1000 = 0 then '.' :: padded 6 (nanosecond / 1000)
  else '.' :: padded 9 nanosecond

namespace TimeOfDay

/-- A time as `HH:MM:SS` and its fraction. -/
def chars (t : TimeOfDay) : List Char :=
  padded 2 t.hour ++ ':' :: padded 2 t.minute ++ ':' :: padded 2 t.second ++
    fractionChars t.nanosecond

/-- A time as text. -/
def text (t : TimeOfDay) : String := String.ofList t.chars

end TimeOfDay

/-- An offset in minutes as `+HH:MM`. -/
def offsetChars (minutes : Int) : List Char :=
  (if minutes < 0 then '-' else '+') ::
    (padded 2 (minutes.natAbs / 60) ++ ':' :: padded 2 (minutes.natAbs % 60))

namespace DateTime

/-- A date-time: the date, `T`, the time, and the offset if there is one. -/
def chars (d : DateTime) : List Char :=
  d.date.chars ++ 'T' :: d.time.chars ++ (d.offset.map offsetChars).getD []

/-- A date-time as text. -/
def text (d : DateTime) : String := String.ofList d.chars

end DateTime

/-! ## Reading -/

/-- Reads one mark. A text with fewer bytes than the mark ends too early. -/
def readMark (mark : Char) (cs : List Char) : Except CalendarFault (Unit × List Char) :=
  match cs with
  | [] => .error .premature
  | c :: rest => if c = mark then .ok ((), rest) else .error .invalid

/-- Reads between `least` and `most` digits, as many as there are. The value has to fit 64 bits. -/
def readDigits (least : Nat) (most : Option Nat) (cs : List Char) :
    Except CalendarFault (Nat × List Char) :=
  let run := cs.takeWhile Char.isDigit
  let ds := match most with
    | some most => run.take most
    | none => run
  if byteLength cs < least then .error .premature
  else if ds.length < least then .error .invalid
  else if Nat.pow 2 63 - 1 < digitsValue ds then .error .outOfRange
  else .ok (digitsValue ds, cs.drop ds.length)

/-- A number that has to lie in a range. -/
def inRange (low high : Nat) (reading : Except CalendarFault (Nat × List Char)) :
    Except CalendarFault (Nat × List Char) := do
  let (n, rest) ← reading
  if low ≤ n ∧ n ≤ high then .ok (n, rest) else .error .outOfRange

/-- Reads an item of one or two digits after blanks. -/
def readItem (low high : Nat) (cs : List Char) : Except CalendarFault (Nat × List Char) :=
  inRange low high (readDigits 1 (some 2) (cs.dropWhile isBlank))

/-- Reads a year after blanks: up to four digits, or any number of them behind a sign. Years fit 32
bits. -/
def readYear (cs : List Char) : Except CalendarFault (Int × List Char) := do
  let (year, rest) ← match cs.dropWhile isBlank with
    | '-' :: cs => do
      let (n, rest) ← readDigits 1 none cs
      .ok (-(n : Int), rest)
    | '+' :: cs => do
      let (n, rest) ← readDigits 1 none cs
      .ok ((n : Int), rest)
    | cs => do
      let (n, rest) ← readDigits 1 (some 4) cs
      .ok ((n : Int), rest)
  if -2147483648 ≤ year ∧ year ≤ 2147483647 then .ok (year, rest) else .error .outOfRange

/-- Reads the digits of a fraction, of which nine count. -/
def readFractionDigits (cs : List Char) : Except CalendarFault (Nat × List Char) := do
  let (n, _) ← readDigits 1 (some 9) cs
  let count := ((cs.takeWhile Char.isDigit).take 9).length
  .ok (n * Nat.pow 10 (9 - count), cs.dropWhile Char.isDigit)

/-- Reads the nanoseconds behind a point, if there is one. -/
def readFraction? (cs : List Char) : Except CalendarFault (Nat × List Char) :=
  match cs with
  | '.' :: cs => readFractionDigits cs
  | cs => .ok (0, cs)

/-- Reads the numbers of a date. -/
def readDateNumbers (cs : List Char) : Except CalendarFault ((Int × Nat × Nat) × List Char) := do
  let (year, cs) ← readYear cs
  let (_, cs) ← readMark '-' cs
  let (month, cs) ← readItem 1 12 cs
  let (_, cs) ← readMark '-' cs
  let (day, cs) ← readItem 1 31 cs
  .ok ((year, month, day), cs)

/-- Reads the numbers of a time. -/
def readTimeNumbers (cs : List Char) :
    Except CalendarFault ((Nat × Nat × Nat × Nat) × List Char) := do
  let (hour, cs) ← readItem 0 23 cs
  let (_, cs) ← readMark ':' cs
  let (minute, cs) ← readItem 0 59 cs
  let (_, cs) ← readMark ':' cs
  let (second, cs) ← readItem 0 60 cs
  let (nanosecond, cs) ← readFraction? cs
  .ok ((hour, minute, second, nanosecond), cs)

/-- What was read, if nothing follows it. -/
def complete {α : Type} (reading : Except CalendarFault (α × List Char)) :
    Except CalendarFault α := do
  let (a, rest) ← reading
  if rest = [] then .ok a else .error .trailing

/-- Reads a date. -/
def Date.read (s : String) : Except CalendarFault Date := do
  let (year, month, day) ← complete (readDateNumbers s.toList)
  Date.ofNumbers year month day

/-- Reads a time of day. -/
def TimeOfDay.read (s : String) : Except CalendarFault TimeOfDay := do
  let (hour, minute, second, nanosecond) ← complete (readTimeNumbers s.toList)
  TimeOfDay.ofNumbers hour minute second nanosecond

/-- Reads a date-time that states no offset. -/
def DateTime.readNaive (s : String) : Except CalendarFault DateTime := do
  let ((year, month, day), hour, minute, second, nanosecond) ← complete do
    let (date, cs) ← readDateNumbers s.toList
    let (_, cs) ← readMark 'T' cs
    let (time, cs) ← readTimeNumbers cs
    .ok ((date, time), cs)
  let date ← Date.ofNumbers year month day
  let time ← TimeOfDay.ofNumbers hour minute second nanosecond
  .ok ⟨date, time, none⟩

/-- Reads exactly `count` digits in a range. -/
def readExactly (count low high : Nat) (cs : List Char) : Except CalendarFault (Nat × List Char) :=
  inRange low high (readDigits count (some count) cs)

/-- Reads the offset of a date-time: `Z`, or a sign with hours and minutes. -/
def readOffset (cs : List Char) : Except CalendarFault (Int × List Char) :=
  match cs with
  | [] => .error .premature
  | c :: rest =>
    if c = 'Z' ∨ c = 'z' then .ok (0, rest)
    else if c = '+' ∨ c = '-' ∨ c = '\u2212' then do
      let (hours, cs) ← readExactly 2 0 23 rest
      let (_, cs) ← readMark ':' cs
      let (minutes, cs) ← readExactly 2 0 59 cs
      let ahead : Int := ((hours * 60 + minutes : Nat) : Int)
      .ok (if c = '+' then ahead else -ahead, cs)
    else .error .invalid

/-- Reads the mark between a date and a time. -/
def readDateEnd (cs : List Char) : Except CalendarFault (Unit × List Char) :=
  match cs with
  | [] => .error .premature
  | c :: rest => if c = 'T' ∨ c = 't' ∨ c = ' ' then .ok ((), rest) else .error .invalid

/-- Reads a date-time that states its offset. Every number has all its digits. -/
def DateTime.readOffset (s : String) : Except CalendarFault DateTime := do
  let ((year, month, day), (hour, minute, second, nanosecond), offset) ← complete do
    let (year, cs) ← readExactly 4 0 9999 s.toList
    let (_, cs) ← readMark '-' cs
    let (month, cs) ← readExactly 2 1 12 cs
    let (_, cs) ← readMark '-' cs
    let (day, cs) ← readExactly 2 1 31 cs
    let (_, cs) ← readDateEnd cs
    let (hour, cs) ← readExactly 2 0 23 cs
    let (_, cs) ← readMark ':' cs
    let (minute, cs) ← readExactly 2 0 59 cs
    let (_, cs) ← readMark ':' cs
    let (second, cs) ← readExactly 2 0 60 cs
    let (nanosecond, cs) ← readFraction? cs
    let (offset, cs) ← Schemata.readOffset cs
    .ok ((((year : Int), month, day), (hour, minute, second, nanosecond), offset), cs)
  let date ← Date.ofNumbers year month day
  let time ← TimeOfDay.ofNumbers hour minute second nanosecond
  .ok ⟨date, time, some offset⟩

/-- Reads a date-time, with an offset if possible; what is refused then is what is wrong without
one. -/
def DateTime.read (s : String) : Except CalendarFault DateTime :=
  match DateTime.readOffset s with
  | .ok d => .ok d
  | .error _ => DateTime.readNaive s

end Schemata
