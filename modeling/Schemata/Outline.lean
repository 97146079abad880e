import Schemata.Walk

/-!
# Outlines

The outline of a linked file has a line for each element and for each detail, in the order of a
walk. A line is indented by two blanks for every element that is open.

Results: `indented_eq` (what a line is made of).
-/
namespace Schemata

/-- A line with its indentation. -/
def indented (depth : Nat) (text : String) : String :=
  String.ofList (List.replicate (2 * depth) ' ') ++ text

theorem indented_eq (depth : Nat) (text : String) :
    (indented depth text).toList = List.replicate (2 * depth) ' ' ++ text.toList := by
  simp [indented]

/-- An outline that is being written. -/
structure OutlineState where
  /-- The lines so far, the last one first. -/
  lines : List String
  /-- The number of open elements. -/
  depth : Nat
  deriving Inhabited

/-- Adds a line. -/
def OutlineState.write (s : OutlineState) (text : String) : OutlineState :=
  { s with lines := indented s.depth text :: s.lines }

/-- The visitor that writes an outline. -/
def outliner : Visitor OutlineState where
  enter e s := (.goOn, { s.write e.kindName with depth := s.depth + 1 })
  beforeDetails _ s := (.goOn, s)
  detail _ d s := (.goOn, s.write (d.name ++ ": " ++ d.value))
  beforeParts _ s := (.goOn, s)
  leave _ s := { s with depth := s.depth - 1 }

/-- The lines of an outline. -/
def Tree.outlineLines (t : Tree) : List String :=
  (outliner.walk t ⟨[], 0⟩).2.lines.reverse

/-- The outline of a file. -/
def Root.outline (r : Root LinkedType) : String :=
  String.join ((Tree.ofRoot r).outlineLines.map (· ++ "\n"))

end Schemata
