import Schemata.ElementId
import Schemata.Cardinality
import Schemata.Fundamental

/-!
# Types as written

A type as it stands in a file: fundamental types, references to definitions by name, tuples and
variants. What the references mean depends on where they stand and is settled by linking.

Results: `WrittenType.texts_eq_map`.
-/
namespace Schemata

/-- What every type node has: its identity, its place, how often its values occur, and what is said
about it. -/
structure Occurrence where
  /-- The identity. -/
  id : ElementId
  range : Range
  /-- How often its values occur. -/
  cardinality : Cardinality
  /-- What is said about it. -/
  metadata : Option Metadata
  deriving Inhabited, BEq

/-- A dotted name for a type. -/
structure Reference where
  /-- The names, outermost first. -/
  segments : List Identifier
  /-- The first name is also searched for among the public definitions of all other files. -/
  isGlobal : Bool
  /-- The last name is that of a field, whose type is meant. -/
  isElement : Bool
  deriving Inhabited, BEq

/-- A reference as written. -/
def Reference.text (r : Reference) : String :=
  (if r.isGlobal then "::" else "") ++ String.intercalate "." (r.segments.map Identifier.value)

/-- A type as it stands in a file. -/
inductive WrittenType where
  /-- A type that is not built from others. -/
  | fundamental (occurrence : Occurrence) (type : Fundamental)
  /-- The type that a definition stands for. -/
  | reference (occurrence : Occurrence) (reference : Reference)
  | tuple (occurrence : Occurrence) (members : List WrittenType)
  | variant (occurrence : Occurrence) (members : List WrittenType)
  deriving Inhabited

/-- Names of members in parentheses with a separator between each two. -/
def membersText (separator : String) (texts : List String) : String :=
  "(" ++ String.intercalate separator texts ++ ")"

namespace WrittenType

/-- What every type node has. -/
def occurrence : WrittenType → Occurrence
  | fundamental o _ | reference o _ | tuple o _ | variant o _ => o

/-- A type that is one of its members. -/
def isVariant : WrittenType → Bool
  | variant .. => true
  | _ => false

mutual

/-- A type as text: its name with the suffix of its cardinality. -/
def text : WrittenType → String
  | fundamental o type => type.name ++ o.cardinality.suffix
  | reference o r => r.text ++ o.cardinality.suffix
  | tuple o members => membersText ", " (texts members) ++ o.cardinality.suffix
  | variant o members => membersText " | " (texts members) ++ o.cardinality.suffix

/-- Types as texts, one by one. -/
def texts : List WrittenType → List String
  | [] => []
  | t :: ts => t.text :: texts ts

end

theorem texts_eq_map (ts : List WrittenType) : texts ts = ts.map text := by
  induction ts with
  | nil => rfl
  | cons t ts ih => simp [texts, ih]

end WrittenType

/-- Checks the members of a tuple or a variant, each given by its range and whether it is a variant:
there is at least one, and none of a variant is a variant. -/
def checkMembers (range : Range) (isVariant : Bool) (members : List (Range × Bool)) :
    Except Diagnostic Unit :=
  if members.isEmpty then
    .error (.located range (.emptyTupleOrVariant (if isVariant then "variant" else "tuple")))
  else if isVariant then
    match members.find? (·.2) with
    | some nested => .error (.located nested.1 .nestedVariantNotSupported)
    | none => .ok ()
  else .ok ()

end Schemata
