import Schemata.Pattern.Reader

/-!
# Patterns

A pattern is a regular expression that a whole text has to match. It is put into a group between
anchors before it is read, so one that closes the group itself can escape the anchors.

What is proved elsewhere holds for any way to read patterns and to match texts, so both are sealed.
-/
namespace Schemata

/-- A regular expression as written, with what it means. -/
structure Pattern where
  /-- The expression as written. -/
  source : String
  /-- The expression between anchors. -/
  regex : Regex
  deriving Inhabited, Repr

namespace Pattern

/-- Patterns that take more bytes to prepare are refused. -/
def weightLimit : Nat := 10 * Nat.pow 2 20

/-- An expression in a group between anchors. -/
def anchored (source : String) : String := "^(?:" ++ source ++ ")$"

/-- Reads a pattern. -/
@[irreducible]
def compile (source : String) : Option Pattern :=
  match read? (anchored source).toList with
  | some regex => if regex.weight ≤ weightLimit then some ⟨source, regex⟩ else none
  | none => none

/-- A text matches the pattern. -/
@[irreducible]
def accepts (p : Pattern) (text : String) : Bool := p.regex.isMatch text

/-- Patterns are the same if they are written the same. -/
instance : BEq Pattern := ⟨fun a b => a.source == b.source⟩

end Pattern
end Schemata
