import Schemata.Diagnostic

/-!
# Identifiers

An identifier is a run of markers followed by a name, which begins with an ASCII letter. The length
of the run gives the visibility; the case of the letter tells types from values.

Results: `Identifier.parse_eq_ok_iff` (what is accepted, and as what).
-/
namespace Schemata

/-- Who may use a definition. -/
inductive Visibility where
  /-- Everyone. -/
  | isPublic
  /-- The file of the definition. -/
  | isProtected
  /-- The scope of the definition. -/
  | isPrivate
  deriving DecidableEq, Repr, Inhabited

namespace Visibility

/-- No marker means public, one protected, more of them private. -/
def ofMarkerCount : Nat → Visibility
  | 0 => isPublic
  | 1 => isProtected
  | _ => isPrivate

/-- The visibility as a word. -/
def text : Visibility → String
  | isPublic => "public"
  | isProtected => "protected"
  | isPrivate => "private"

end Visibility

/-- The characters that may precede a name. -/
def isMarker (c : Char) : Bool :=
  c == '_' || c == '@' || c == '$' || c == '&'

/-- A name with its markers and its visibility. -/
structure Identifier where
  range : Range
  /-- The markers before the name. -/
  markers : String
  /-- The name, by which it is looked up. -/
  name : String
  /-- Who may use what it names. -/
  visibility : Visibility
  deriving Repr, Inhabited, BEq

namespace Identifier

/-- The text as written. -/
def value (i : Identifier) : String := i.markers ++ i.name

/-- Reads an identifier; its visibility is that of its markers. -/
def parse (range : Range) (text : String) : Except Diagnostic Identifier :=
  let markers := text.toList.takeWhile isMarker
  let name := text.toList.dropWhile isMarker
  if name.head?.any Char.isAlpha then
    .ok ⟨range, String.ofList markers, String.ofList name, .ofMarkerCount markers.length⟩
  else .error (.located range (.invalidIdentifier text))

/-- A derived name: without markers, and of the given visibility. -/
def withVisibility (range : Range) (text : String) (visibility : Visibility) :
    Except Diagnostic Identifier := do
  let i ← parse range text
  return { i with markers := "", visibility }

/-- Type names begin with an uppercase letter. -/
def isType (i : Identifier) : Bool := i.name.toList.head?.any Char.isUpper

/-- All other names are names of values. -/
def isExpression (i : Identifier) : Bool := !i.isType

theorem parse_eq_ok_iff {range : Range} {text : String} {i : Identifier} :
    parse range text = .ok i ↔
      (text.toList.dropWhile isMarker).head?.any Char.isAlpha = true ∧
      i = ⟨range, String.ofList (text.toList.takeWhile isMarker),
        String.ofList (text.toList.dropWhile isMarker),
        .ofMarkerCount (text.toList.takeWhile isMarker).length⟩ := by
  unfold parse
  extract_lets markers name
  constructor
  · intro h
    split at h
    · injection h with h
      exact ⟨by assumption, h.symm⟩
    · cases h
  · rintro ⟨h, rfl⟩
    exact if_pos h

instance : ToString Identifier := ⟨value⟩

end Identifier
end Schemata
