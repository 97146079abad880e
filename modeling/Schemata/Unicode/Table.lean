/-!
# Compact tables

Tables of code points are kept as lines of letters. The lines stand for a sequence of numbers: each
is written in base 26 with letters for digits, and its last digit is in upper case. A set of code
points is given by the lengths of runs, alternately outside and inside the set.

Results: `CodeSet.isIn_of_lt`, `CodeSet.isIn_of_ge` (how a run is passed).
-/
namespace Schemata.Unicode

/-- The numbers that letters stand for, the first of which continues the digits read so far. -/
def numbersFrom (high : Nat) : List Char → List Nat
  | [] => []
  | c :: cs =>
    if c.isUpper then (26 * high + (c.toNat - 'A'.toNat)) :: numbersFrom 0 cs
    else numbersFrom (26 * high + (c.toNat - 'a'.toNat)) cs

/-- The numbers that lines stand for. -/
def numbers (lines : List String) : List Nat := numbersFrom 0 (lines.flatMap String.toList)

/-- The elements of a list two by two. -/
def pairs : List Nat → List (Nat × Nat)
  | a :: b :: rest => (a, b) :: pairs rest
  | _ => []

/-! ## Sets -/

/-- A set of code points. -/
structure CodeSet where
  /-- The lengths of runs, alternately outside and inside; what follows the last run is outside. -/
  runs : List Nat
  deriving DecidableEq, Repr, Inhabited

namespace CodeSet

/-- The set that lines stand for. -/
def ofLines (lines : List String) : CodeSet := ⟨numbers lines⟩

/-- A code point lies in one of the runs, of which the first is inside or outside. -/
def isIn (inside : Bool) : List Nat → Nat → Bool
  | [], _ => false
  | length :: rest, n => if n < length then inside else isIn (!inside) rest (n - length)

/-- A code point is in the set. -/
def holds (s : CodeSet) (n : Nat) : Bool := isIn false s.runs n

/-- A character is in the set. -/
def contains (s : CodeSet) (c : Char) : Bool := s.holds c.toNat

/-- The number of runs inside the set. -/
def rangeCount (s : CodeSet) : Nat := s.runs.length / 2

theorem isIn_of_lt {inside : Bool} {length n : Nat} {rest : List Nat} (h : n < length) :
    isIn inside (length :: rest) n = inside := if_pos h

theorem isIn_of_ge {inside : Bool} {length n : Nat} {rest : List Nat} (h : length ≤ n) :
    isIn inside (length :: rest) n = isIn (!inside) rest (n - length) := if_neg (by omega)

end CodeSet

/-! ## Labels -/

/-- The label of a code point, given the lengths and the labels of runs. -/
def labelAt : List (Nat × Nat) → Nat → Option Nat
  | [], _ => none
  | (length, label) :: rest, n => if n < length then some label else labelAt rest (n - length)

/-! ## Sequences -/

/-- The code points with a sequence of others that numbers stand for: the distance from the code
point before, the length of the sequence, and the sequence. -/
def sequences (before : Nat) : List Nat → List (Nat × List Nat)
  | distance :: length :: rest =>
    (before + distance, rest.take length) :: sequences (before + distance) (rest.drop length)
  | _ => []
termination_by ns => ns.length
decreasing_by simp; omega

/-! ## Shifts -/

/-- A run of code points, each or every other one of a stretch, that are all moved by one offset. -/
structure Shift where
  first : Nat
  /-- How many follow it. -/
  following : Nat
  /-- The distance between two of them. -/
  stride : Nat
  offset : Int
  deriving DecidableEq, Repr, Inhabited

namespace Shift

/-- An integer from a natural: odd ones stand for negative integers. -/
def signed (n : Nat) : Int := if n % 2 = 0 then (n / 2 : Nat) else -((n / 2 : Nat) + 1 : Int)

/-- The shifts that numbers stand for: the distance of the first code point from that of the shift
before it, twice the number of those that follow plus one if the stride is two, and the offset. -/
def ofNumbers (before : Nat) : List Nat → List Shift
  | distance :: shape :: offset :: rest =>
    ⟨before + distance, shape / 2, shape % 2 + 1, signed offset⟩ ::
      ofNumbers (before + distance) rest
  | _ => []

/-- The shifts that lines stand for. -/
def ofLines (lines : List String) : List Shift := ofNumbers 0 (numbers lines)

/-- A code point is in the run. -/
def holds (s : Shift) (n : Nat) : Bool :=
  decide (s.first ≤ n ∧ n ≤ s.first + s.following * s.stride) && (n - s.first) % s.stride == 0

/-- Where a code point is moved, if it is in the run. -/
def moved? (s : Shift) (n : Nat) : Option Nat :=
  if s.holds n then some (n + s.offset).toNat else none

/-- The code point of the run that is moved to the given one. -/
def source? (s : Shift) (n : Nat) : Option Nat :=
  let source := (n - s.offset).toNat
  if s.holds source && s.moved? source == some n then some source else none

end Shift
end Schemata.Unicode
