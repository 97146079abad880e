import Schemata.Text.Split

/-!
# Segments of paths

A path is a sequence of segments. A segment of one dot stands for the place itself and one of two
dots for the place above; they are followed when a path is read. The place above a drive cannot be
reached.

Results: `resolve_ne_nil` (there is always a segment), `resolve_eq_self` (a path without segments of
dots is kept).
-/
namespace Schemata.Uri

/-- A segment of a path. -/
abbrev Segment := List Char

namespace Segment

/-- A segment that stands for the place itself. The dot may be escaped. -/
def isDot (s : Segment) : Bool := [".", "%2e"].contains (String.ofList s).toLower

/-- A segment that stands for the place above. -/
def isDoubleDot (s : Segment) : Bool :=
  ["..", ".%2e", "%2e.", "%2e%2e"].contains (String.ofList s).toLower

/-- A segment that begins like a drive: with a letter, a colon or a bar, and then a separator. -/
def beginsWithDrive : Segment → Bool
  | letter :: mark :: rest =>
    letter.isAlpha && (mark == ':' || mark == '|') && rest.head?.all ['/', '\\', '?', '#'].contains
  | _ => false

/-- A segment that is a drive. -/
def isDrive (s : Segment) : Bool := s.length == 2 && s.beginsWithDrive

/-- A drive, with a colon. -/
def ofDrive (s : Segment) : Segment := s.take 1 ++ [':']

end Segment

/-- The place above, given the segments of a place, last first. The root and a drive are above
themselves. -/
def above : List Segment → List Segment
  | [] => []
  | s :: rest => if s.beginsWithDrive then s :: rest else rest

/-- A segment below a place; a drive below the root is written with a colon if drives have a
meaning. -/
def below (hasDrives : Bool) (place : List Segment) (s : Segment) : List Segment :=
  (if hasDrives && place.isEmpty && s.isDrive then s.ofDrive else s) :: place

/-- Follows segments from a place, of which the segments are given last first. What the last one
stands for is a directory if it consists of dots. -/
def resolve (hasDrives : Bool) (place : List Segment) : List Segment → List Segment
  | [] => place.reverse ++ [[]]
  | s :: rest =>
    if s.isDoubleDot then resolve hasDrives (above place) rest
    else if s.isDot then resolve hasDrives place rest
    else if rest = [] then (below hasDrives place s).reverse
    else resolve hasDrives (below hasDrives place s) rest

theorem resolve_ne_nil (hasDrives : Bool) (place ss : List Segment) :
    resolve hasDrives place ss ≠ [] := by
  induction ss generalizing place with
  | nil => simp [resolve]
  | cons s rest ih =>
    rw [resolve]
    split
    · exact ih _
    · split
      · exact ih _
      · split
        · simp [below]
        · exact ih _

/-- A path without segments of dots, below a place, is kept. -/
theorem resolve_eq_self {place ss : List Segment} (hne : ss ≠ [])
    (h : ∀ s ∈ ss, s.isDot = false ∧ s.isDoubleDot = false) :
    resolve false place ss = place.reverse ++ ss := by
  induction ss generalizing place with
  | nil => exact absurd rfl hne
  | cons s rest ih =>
    have hs := h s List.mem_cons_self
    rw [resolve, hs.1, hs.2]
    by_cases hr : rest = []
    · subst hr
      simp [below]
    · simp only [Bool.false_eq_true, if_false, hr]
      rw [ih hr fun s' hs' => h s' (List.mem_cons_of_mem _ hs')]
      simp [below]

end Schemata.Uri
