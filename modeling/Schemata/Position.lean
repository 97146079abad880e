import Schemata.Path

/-!
# Places in a file

Locations are one-based pairs of line and column, and a range is a stretch of one file between two
of them. `Span` is a stretch as it is reported, before its coordinates are checked.

Results: `Location.create_eq_ok_iff`, `Range.create_eq_ok_iff` (what is accepted).
-/
namespace Schemata

/-- A one-based place in a text. -/
structure Location where
  /-- The line, from 1. -/
  line : Nat
  /-- The column, from 1. -/
  column : Nat
  line_pos : 1 ≤ line
  column_pos : 1 ≤ column
  deriving DecidableEq, Repr

namespace Location

/-- The first place of every text. -/
def first : Location := ⟨1, 1, by decide, by decide⟩

instance : Inhabited Location := ⟨first⟩

/-- Places are ordered by line and then by column. -/
instance : Ord Location where
  compare a b := (compare a.line b.line).then (compare a.column b.column)

/-- `a` does not come after `b`. -/
def le (a b : Location) : Bool :=
  decide (a.line < b.line ∨ a.line = b.line ∧ a.column ≤ b.column)

/-- A place is written as a pair. -/
def text (a : Location) : String :=
  "[" ++ toString a.line ++ ", " ++ toString a.column ++ "]"

instance : ToString Location := ⟨text⟩

end Location

/-- Why coordinates are no position. -/
inductive PositionFault where
  /-- Lines count from 1. -/
  | invalidLine (line : Nat)
  /-- Columns count from 1. -/
  | invalidColumn (column : Nat)
  /-- A range does not end before it begins. -/
  | endBeforeBegin (start stop : Location)
  deriving DecidableEq, Repr

/-- The wording of a fault. -/
def PositionFault.message : PositionFault → String
  | .invalidLine line => "line must be >= 1, found " ++ toString line
  | .invalidColumn column => "column must be >= 1, found " ++ toString column
  | .endBeforeBegin start stop =>
    "range end " ++ stop.text ++ " precedes range begin " ++ start.text

/-- The place with the given coordinates; the line is checked first. -/
def Location.create (line column : Nat) : Except PositionFault Location :=
  if hl : 1 ≤ line then
    if hc : 1 ≤ column then .ok ⟨line, column, hl, hc⟩ else .error (.invalidColumn column)
  else .error (.invalidLine line)

theorem Location.create_eq_ok_iff {line column : Nat} {l : Location} :
    Location.create line column = .ok l ↔ l.line = line ∧ l.column = column := by
  unfold Location.create
  obtain ⟨a, b, ha, hb⟩ := l
  constructor
  · intro h
    split at h
    · split at h
      · injection h with h
        injection h with h1 h2
        exact ⟨h1.symm, h2.symm⟩
      · cases h
    · cases h
  · rintro ⟨rfl, rfl⟩
    simp [ha, hb]

/-- A stretch of one file. -/
structure Range where
  file : Path
  /-- Where the stretch begins. -/
  start : Location
  /-- Where the stretch ends. -/
  stop : Location
  ordered : start.le stop = true
  deriving Repr

namespace Range

/-- The stretch between two places of a file. -/
def create (file : Path) (start stop : Location) : Except PositionFault Range :=
  if h : start.le stop = true then .ok ⟨file, start, stop, h⟩
  else .error (.endBeforeBegin start stop)

theorem create_eq_ok_iff {file : Path} {start stop : Location} {r : Range} :
    create file start stop = .ok r ↔
      start.le stop = true ∧ r.file = file ∧ r.start = start ∧ r.stop = stop := by
  obtain ⟨f, a, b, h⟩ := r
  unfold create
  split
  · rw [Except.ok.injEq, Range.mk.injEq]
    grind
  · simp_all

/-- The empty stretch at the start of a file, for what concerns the file as a whole. -/
def fileStart (file : Path) : Range :=
  ⟨file, .first, .first, by decide⟩

instance : Inhabited Range := ⟨fileStart default⟩

/-- Ranges are ordered by file, then by their begin, then by their end. -/
instance : Ord Range where
  compare a b :=
    (compare a.file b.file).then ((compare a.start b.start).then (compare a.stop b.stop))

/-- Ranges are the same if they span the same places of the same file. -/
def same (a b : Range) : Bool :=
  a.file == b.file && decide (a.start = b.start) && decide (a.stop = b.stop)

instance : BEq Range := ⟨same⟩

/-- `b` lies within `a`. -/
def contains (a b : Range) : Bool :=
  a.file == b.file && a.start.le b.start && b.stop.le a.stop

/-- A range is written as its file followed by its two ends. -/
def text (r : Range) : String :=
  r.file.text ++ " <" ++ r.start.text ++ " -> " ++ r.stop.text ++ ">"

instance : ToString Range := ⟨text⟩

end Range

/-- A stretch of text as reported, with unchecked coordinates. -/
structure Span where
  /-- The line of the begin. -/
  startLine : Nat
  /-- The column of the begin. -/
  startColumn : Nat
  /-- The line of the end. -/
  stopLine : Nat
  /-- The column of the end. -/
  stopColumn : Nat
  deriving DecidableEq, Repr, Inhabited

/-- The range that a span denotes in a file; its begin is checked before its end, and their order
last. -/
def Span.toRange (file : Path) (s : Span) : Except PositionFault Range := do
  let start ← Location.create s.startLine s.startColumn
  let stop ← Location.create s.stopLine s.stopColumn
  Range.create file start stop

end Schemata
