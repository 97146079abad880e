import Schemata.Text.Split

/-!
# Durations

A duration is written `[D.]H:MM:SS[.ffffff]`: days, hours, minutes, seconds and up to six digits of
a fraction. Days and hours may have any number of digits; minutes and seconds have two.

Results: `Duration.ofMicroseconds_nanoseconds`.
-/
namespace Schemata

/-- A stretch of time in nanoseconds. -/
structure Duration where
  /-- The length; a stretch back in time has a negative one. -/
  nanoseconds : Int
  deriving DecidableEq, Repr, Inhabited

namespace Duration

/-- The parts of a written duration that are numbers. -/
inductive Part where
  /-- Whole days. -/
  | days
  | hours
  | minutes
  | seconds
  /-- The digits behind the second point. -/
  | fraction
  deriving DecidableEq, Repr

/-- A part as a word. -/
def Part.text : Part → String
  | days => "days"
  | hours => "hours"
  | minutes => "minutes"
  | seconds => "seconds"
  | fraction => "fraction"

/-- Why a text is no duration. -/
inductive Fault where
  /-- There are not exactly three parts between colons. -/
  | shape
  /-- A part is empty or holds something else than digits. -/
  | notDigits (part : Part) (text : String)
  /-- A part exceeds 64 bits. -/
  | tooLarge (part : Part)
  /-- Minutes or seconds take up more or less than two bytes. -/
  | notTwoDigits
  /-- Minutes or seconds reach 60. -/
  | notBelowSixty
  /-- The fraction is longer than six bytes. -/
  | fractionTooLong
  /-- The number of microseconds exceeds 64 bits. -/
  | outOfRange
  deriving DecidableEq, Repr

/-- The wording of a fault. -/
def Fault.message : Fault → String
  | shape => "expected `[D.]H:MM:SS[.ffffff]`"
  | notDigits part text => "invalid " ++ part.text ++ " `" ++ text ++ "`"
  | tooLarge part => "invalid " ++ part.text ++ ": number too large to fit in target type"
  | notTwoDigits => "minutes and seconds must have two digits"
  | notBelowSixty => "minutes and seconds must be below 60"
  | fractionTooLong => "at most six fractional digits are allowed"
  | outOfRange => "duration is out of range"

/-- The greatest number that 64 bits hold with a sign. -/
def limit : Nat := Nat.pow 2 63 - 1

/-- Reads one part: digits, whose value fits 64 bits. -/
def readPart (part : Part) (cs : List Char) : Except Fault Nat :=
  if cs = [] ∨ ¬ cs.all Char.isDigit then .error (.notDigits part (String.ofList cs))
  else if limit < digitsValue cs then .error (.tooLarge part)
  else .ok (digitsValue cs)

/-- The days before the first point, if colons follow it, and the rest. -/
def splitDays (cs : List Char) : Option (List Char) × List Char :=
  match splitFirst '.' cs with
  | some (days, rest) => if ':' ∈ rest then (some days, rest) else (none, cs)
  | none => (none, cs)

/-- The clock before the first point, and the fraction behind it. -/
def splitFraction (cs : List Char) : List Char × Option (List Char) :=
  match splitFirst '.' cs with
  | some (clock, fraction) => (clock, some fraction)
  | none => (cs, none)

/-- Reads the fraction of a second, in microseconds. -/
def readFraction : Option (List Char) → Except Fault Nat
  | none => .ok 0
  | some cs =>
    if byteLength cs ≤ 6 then
      (readPart .fraction cs).map (· * Nat.pow 10 (6 - byteLength cs))
    else .error .fractionTooLong

/-- Reads a duration, in microseconds. -/
def readMicroseconds (s : String) : Except Fault Nat := do
  let (days, rest) := splitDays s.toList
  let (clock, fraction) := splitFraction rest
  match splitOn ':' clock with
  | [hours, minutes, seconds] =>
    let days ← match days with
      | some days => readPart .days days
      | none => .ok 0
    let hours ← readPart .hours hours
    if byteLength minutes ≠ 2 ∨ byteLength seconds ≠ 2 then .error .notTwoDigits
    let minutes ← readPart .minutes minutes
    let seconds ← readPart .seconds seconds
    if 59 < minutes ∨ 59 < seconds then .error .notBelowSixty
    let fraction ← readFraction fraction
    let total := (days * 86400 + hours * 3600 + minutes * 60 + seconds) * 1000000 + fraction
    if limit < total then .error .outOfRange
    return total
  | _ => .error .shape

/-- A duration of so many microseconds. -/
def ofMicroseconds (n : Int) : Duration := ⟨n * 1000⟩

theorem ofMicroseconds_nanoseconds (n : Int) : (ofMicroseconds n).nanoseconds = n * 1000 := rfl

/-- Reads a duration. -/
def read (s : String) : Except Fault Duration :=
  (readMicroseconds s).map fun n => ofMicroseconds (n : Int)

/-- A duration that is not negative as text; digits below a microsecond are cut. -/
def magnitudeText (nanoseconds : Nat) : List Char :=
  let seconds := nanoseconds / 1000000000
  let micros := nanoseconds % 1000000000 / 1000
  let days := seconds / 86400
  (if 0 < days then Nat.toDigits 10 days ++ ['.'] else []) ++
  Nat.toDigits 10 (seconds % 86400 / 3600) ++ ':' ::
  padded 2 (seconds % 3600 / 60) ++ ':' ::
  padded 2 (seconds % 60) ++
  (if 0 < micros then '.' :: padded 6 micros else [])

/-- A duration as text. -/
def text (d : Duration) : String :=
  String.ofList ((if d.nanoseconds < 0 then ['-'] else []) ++ magnitudeText d.nanoseconds.natAbs)

end Duration
end Schemata
