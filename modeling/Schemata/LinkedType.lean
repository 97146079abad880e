import Schemata.WrittenType

/-!
# Linked types

A type in which every reference is settled: it is a handle on a structure, or an alias together with
the type that it stands for. References to fields are gone; in their place stands the field's type.

Results: `LinkedType.texts_eq_map`.
-/
namespace Schemata

/-- A type whose references are settled. -/
inductive LinkedType where
  /-- A type that is not built from others. -/
  | fundamental (occurrence : Occurrence) (type : Fundamental)
  /-- The structure of the statement with the id. -/
  | struct (occurrence : Occurrence) (id : ElementId) (name : Identifier)
  | tuple (occurrence : Occurrence) (members : List LinkedType)
  | variant (occurrence : Occurrence) (members : List LinkedType)
  /-- A named alias with the type that it stands for. -/
  | alias (occurrence : Occurrence) (name : Identifier) (aliased : LinkedType)
  deriving Inhabited

namespace LinkedType

/-- What every type node has. -/
def occurrence : LinkedType → Occurrence
  | fundamental o _ | struct o _ _ | tuple o _ | variant o _ | .alias o _ _ => o

/-- The same type with other places, cardinality and metadata. -/
def withOccurrence (o : Occurrence) : LinkedType → LinkedType
  | fundamental _ type => fundamental o type
  | struct _ id name => struct o id name
  | tuple _ members => tuple o members
  | variant _ members => variant o members
  | .alias _ name aliased => .alias o name aliased

/-- A copy with another range, cardinality or metadata, where they are given. -/
def copy (t : LinkedType) (range : Option Range) (cardinality : Option Cardinality)
    (metadata : Option Metadata) : LinkedType :=
  t.withOccurrence
    { id := t.occurrence.id
      range := range.getD t.occurrence.range
      cardinality := cardinality.getD t.occurrence.cardinality
      metadata := metadata <|> t.occurrence.metadata }

/-- The type behind a chain of aliases. -/
def target : LinkedType → LinkedType
  | .alias _ _ aliased => aliased.target
  | t => t

/-- The ranges of a chain of aliases, outermost first. -/
def aliasRanges : LinkedType → List Range
  | .alias o _ aliased => o.range :: aliased.aliasRanges
  | _ => []

/-- A type that stands for another one. -/
def isAlias : LinkedType → Bool
  | .alias .. => true
  | _ => false

/-- The structure behind a chain of aliases, if there is one. -/
def structure? (t : LinkedType) : Option (ElementId × Identifier) :=
  match t.target with
  | struct _ id name => some (id, name)
  | _ => none

/-- There is a fundamental type behind the chain of aliases. -/
def isFundamental (t : LinkedType) : Bool :=
  match t.target with
  | fundamental .. => true
  | _ => false

/-- There is a variant behind the chain of aliases. -/
def isVariant (t : LinkedType) : Bool :=
  match t.target with
  | variant .. => true
  | _ => false

mutual

/-- The name of a type, without its cardinality. -/
def displayName : LinkedType → String
  | fundamental _ type => type.name
  | struct _ _ name => name.name
  | .alias _ name _ => name.name
  | tuple _ members => membersText ", " (texts members)
  | variant _ members => membersText " | " (texts members)

/-- A type as text: its name with the suffix of its cardinality. -/
def texts : List LinkedType → List String
  | [] => []
  | t :: ts => (t.displayName ++ t.occurrence.cardinality.suffix) :: texts ts

end

/-- A type as text: its name with the suffix of its cardinality. -/
def text (t : LinkedType) : String := t.displayName ++ t.occurrence.cardinality.suffix

theorem texts_eq_map (ts : List LinkedType) : texts ts = ts.map text := by
  induction ts with
  | nil => rfl
  | cons t ts ih => simp [texts, text, ih]

mutual

/-- Equality of types, with everything in them. -/
def same : LinkedType → LinkedType → Bool
  | fundamental o a, fundamental p b => o == p && a == b
  | struct o i a, struct p j b => o == p && i == j && a == b
  | tuple o as, tuple p bs => o == p && sameAll as bs
  | variant o as, variant p bs => o == p && sameAll as bs
  | .alias o a s, .alias p b t => o == p && a == b && s.same t
  | _, _ => false

/-- Equality of lists of types. -/
def sameAll : List LinkedType → List LinkedType → Bool
  | [], [] => true
  | a :: as, b :: bs => a.same b && sameAll as bs
  | _, _ => false

end

instance : BEq LinkedType := ⟨same⟩

end LinkedType
end Schemata
