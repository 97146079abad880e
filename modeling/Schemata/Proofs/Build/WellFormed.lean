import Schemata.Source
import Schemata.Fundamental
import Schemata.Identifier
import Mathlib.Tactic.MkIffOfInductiveProp

/-!
# Well-formed sources

What a source tree has to be like to be that of a file: its places are places, its names are names,
bounds and constraints hold together, no name is given twice, and everything stands where it may.
Nothing is said here about building, nor about what references mean.
-/
namespace Schemata

/-- The coordinates of a span count from 1, and it does not end before it begins. -/
@[mk_iff]
structure Span.Valid (s : Span) : Prop where
  startLine : 1 ≤ s.startLine
  startColumn : 1 ≤ s.startColumn
  stopLine : 1 ≤ s.stopLine
  stopColumn : 1 ≤ s.stopColumn
  ordered : s.startLine < s.stopLine ∨ s.startLine = s.stopLine ∧ s.startColumn ≤ s.stopColumn

/-! ## Literals -/

namespace Expression
variable {ρ : Type}

mutual

/-- Every node of a literal stands at a place of the kind. -/
def EachPlace (P : ρ → Prop) : Expression ρ → Prop
  | boolean p _ | integer p _ | number p _ | string p _ => P p
  | tuple p members => P p ∧ EachPlaceOf P members
  | list p elements => P p ∧ EachPlaceOf P elements

/-- Every node of some literals stands at a place of the kind. -/
def EachPlaceOf (P : ρ → Prop) : List (Expression ρ) → Prop
  | [] => True
  | e :: es => e.EachPlace P ∧ EachPlaceOf P es

end

mutual

/-- A literal without its places. -/
def shape : Expression ρ → Expression Unit
  | boolean _ value => boolean () value
  | integer _ value => integer () value
  | number _ value => number () value
  | string _ value => string () value
  | tuple _ members => tuple () (shapes members)
  | list _ elements => list () (shapes elements)

/-- Literals without their places. -/
def shapes : List (Expression ρ) → List (Expression Unit)
  | [] => []
  | e :: es => e.shape :: shapes es

end

end Expression

/-! ## Constraints -/

/-- What a block says, as far as constraints are concerned: the literal under each name. -/
abbrev Terms := String → Option (Expression Unit)

/-- A literal stands for the number; integers do so, too, rounded to the nearest number. -/
inductive IsNumber : Expression Unit → Float → Prop where
  | integer (value : Int64) : IsNumber (.integer () value) value.toFloat
  | number (value : Float) : IsNumber (.number () value) value

/-- The constraints of integers: bounds in order, and a width of at most 64 bits. -/
@[mk_iff]
structure IntegerTerms (terms : Terms) : Prop where
  min : ∀ e, terms "min" = some e → ∃ value, e = .integer () value
  max : ∀ e, terms "max" = some e → ∃ value, e = .integer () value
  ordered : ∀ a b, terms "min" = some (.integer () a) → terms "max" = some (.integer () b) →
    a.toInt ≤ b.toInt
  bits : ∀ e, terms "bits" = some e →
    ∃ value, e = .integer () value ∧ 1 ≤ value.toInt ∧ value.toInt ≤ 64

/-- The constraints of numbers: bounds in order, and the width of a floating-point format. -/
@[mk_iff]
structure NumberTerms (terms : Terms) : Prop where
  min : ∀ e, terms "min" = some e → ∃ value, IsNumber e value
  max : ∀ e, terms "max" = some e → ∃ value, IsNumber e value
  ordered : ∀ e a e' b, terms "min" = some e → IsNumber e a → terms "max" = some e' →
    IsNumber e' b → ¬ b < a
  bits : ∀ e, terms "bits" = some e →
    ∃ value, e = .integer () value ∧ value.toInt ∈ [16, 32, 64]

/-- The constraints of texts: lengths in order, of which the least is 1 unless it is given, and a
pattern that is a regular expression. -/
@[mk_iff]
structure StringTerms (terms : Terms) : Prop where
  min : ∀ e, terms "min_length" = some e → ∃ value, e = .integer () value ∧ 0 ≤ value.toInt
  max : ∀ e, terms "max_length" = some e → ∃ value, e = .integer () value ∧ 0 ≤ value.toInt
  ordered : ∀ b, terms "max_length" = some (.integer () b) →
    (terms "min_length" = none → 1 ≤ b.toInt) ∧
      ∀ a, terms "min_length" = some (.integer () a) → a.toInt ≤ b.toInt
  pattern : ∀ e, terms "pattern" = some e →
    ∃ source, e = .string () source ∧ (Pattern.compile source).isSome = true

/-- A switch is a truth value. -/
def IsSwitch (terms : Terms) (name : String) : Prop :=
  ∀ e, terms name = some e → ∃ value, e = .boolean () value

/-- The constraints of the fundamental type of the name hold together; a type that is not
fundamental has none. -/
def ConstraintsHold (typeName : String) (terms : Terms) : Prop :=
  match typeName with
  | "Integer" => IntegerTerms terms
  | "Number" => NumberTerms terms
  | "String" => StringTerms terms
  | "Directory" => IsSwitch terms "ensure_exists"
  | "Filename" => IsSwitch terms "ensure_exists" ∧ IsSwitch terms "match_any"
  | _ => True

namespace Source

/-! ## Names and blocks -/

namespace Name

/-- The name without its markers. -/
def key (n : Name) : String := String.ofList (n.text.toList.dropWhile isMarker)

/-- Type names begin with an uppercase letter. -/
def isType (n : Name) : Bool := n.key.toList.head?.any Char.isUpper

/-- The name is a run of markers in front of a letter, whatever follows. -/
@[mk_iff]
structure Valid (n : Name) : Prop where
  span : n.span.Valid
  text : ∃ markers letter rest, n.text.toList = markers ++ letter :: rest ∧
    (∀ c ∈ markers, isMarker c = true) ∧ letter.isAlpha = true

end Name

/-- A named literal stands at places. -/
@[mk_iff]
structure NamedLiteral.Valid (n : NamedLiteral) : Prop where
  span : n.span.Valid
  name : n.name.Valid
  value : n.value.EachPlace Span.Valid

namespace Metadata

/-- No name is given twice in a block. -/
@[mk_iff]
structure Valid (m : Metadata) : Prop where
  span : m.span.Valid
  items : ∀ item ∈ m.items, item.Valid
  distinct : (m.items.map (·.name.key)).Nodup

/-- What an optional block says. -/
def terms (m : Option Metadata) : Terms := fun name =>
  (m.bind fun m => m.items.find? (·.name.key = name)).map (·.value.shape)

end Metadata

namespace Cardinality

/-- The least count that is meant: 1 if nothing is said, and 0 if only a maximum is given. -/
def least (c : Cardinality) : Int :=
  match c.min, c.max with
  | some min, _ => min.value.toInt
  | none, some _ => 0
  | none, none => 1

/-- The greatest count that is meant: 1 if nothing is said, and none if only a minimum is given. -/
def greatest? (c : Cardinality) : Option Int :=
  match c.min, c.max with
  | _, some max => some max.value.toInt
  | some _, none => none
  | none, none => some 1

/-- The bounds describe a repetition, and what is said about it is said about several values. -/
@[mk_iff]
structure Valid (c : Cardinality) : Prop where
  span : c.span.Valid
  min : ∀ b ∈ c.min, b.span.Valid
  max : ∀ b ∈ c.max, b.span.Valid
  metadata : ∀ m ∈ c.metadata, m.Valid
  natural : 0 ≤ c.least
  ordered : ∀ greatest ∈ c.greatest?, c.least ≤ greatest ∧ 1 ≤ greatest
  unsaid : c.least = 1 → c.greatest? = some 1 → ∀ m ∈ c.metadata, m.items = []

end Cardinality

/-- The header of a type stands at places. -/
@[mk_iff]
structure Header.Valid (h : Header) : Prop where
  span : h.span.Valid
  cardinality : ∀ c ∈ h.cardinality, c.Valid
  metadata : ∀ m ∈ h.metadata, m.Valid

/-! ## Types -/

/-- The names of a reference: all are those of types, except that an element reference ends in that
of a field, behind a structure. -/
@[mk_iff]
structure SegmentsFit (segments : List Name) (isElement : Bool) : Prop where
  ne_nil : segments ≠ []
  leading : ∀ n ∈ segments.dropLast, n.isType = true
  last : isElement = false → ∀ n ∈ segments.getLast?, n.isType = true
  element : isElement = true → 2 ≤ segments.length

namespace TypeExpr

/-- A type that is one of its members. -/
def isVariant : TypeExpr → Bool
  | variant _ _ => true
  | _ => false

mutual

/-- A type may stand in a file. The constraints behind the plain name of a fundamental type hold
together; tuples and variants have members, of which those of a variant are no variants. -/
def WellFormed : TypeExpr → Prop
  | reference h segments isGlobal isElement =>
    h.Valid ∧ (∀ n ∈ segments, n.Valid) ∧ SegmentsFit segments isElement ∧
      ∀ n, segments = [n] → isGlobal = false → isElement = false →
        ConstraintsHold n.text (Metadata.terms h.metadata)
  | tuple h members => h.Valid ∧ members ≠ [] ∧ AllWellFormed members
  | variant h members =>
    h.Valid ∧ members ≠ [] ∧ (∀ m ∈ members, m.isVariant = false) ∧ AllWellFormed members

/-- Types may stand in a file. -/
def AllWellFormed : List TypeExpr → Prop
  | [] => True
  | t :: ts => t.WellFormed ∧ AllWellFormed ts

end

end TypeExpr

/-! ## Statements -/

/-- An element is taken over under a name of its own or that of the element. -/
@[mk_iff]
structure IncludeItem.Valid (i : IncludeItem) : Prop where
  span : i.span.Valid
  element : i.element.Valid
  reference : ∀ n ∈ i.reference, n.Valid

namespace Statement

/-- The names that a statement brings into its scope. -/
def scopeNames : Statement → List Name
  | item _ name _ => [name]
  | struct _ name _ _ _ => [name]
  | inclusion _ _ _ items => items.map fun i => i.reference.getD i.element
  | extension .. | root .. => []

/-- No name is brought into a scope twice, markers left out. -/
def DistinctNames (ss : List Statement) : Prop := ((ss.flatMap scopeNames).map Name.key).Nodup

mutual

/-- A statement may stand at the root or in a structure. Structures have type names, and no type has
the name of a fundamental one; includes stand at the root, and roots nowhere. -/
def WellFormed (atRoot : Bool) : Statement → Prop
  | item span name type =>
    span.Valid ∧ name.Valid ∧ (name.isType = true → name.key ∉ reservedNames) ∧ type.WellFormed
  | struct span name bases m children =>
    span.Valid ∧ (name.Valid ∧ name.isType = true ∧ name.key ∉ reservedNames) ∧
      TypeExpr.AllWellFormed bases ∧ (∀ block ∈ m, block.Valid) ∧
      AllWellFormed false children ∧ DistinctNames children
  | extension span name arguments named =>
    span.Valid ∧ name.Valid ∧ (∀ e ∈ arguments, e.EachPlace Span.Valid) ∧
      (∀ n ∈ named, n.Valid) ∧ (named.map (·.name.key)).Nodup
  | inclusion span filenameSpan _ items =>
    span.Valid ∧ atRoot = true ∧ filenameSpan.Valid ∧ ∀ i ∈ items, i.Valid
  | root _ _ => False

/-- Statements may stand at the root or in a structure. -/
def AllWellFormed (atRoot : Bool) : List Statement → Prop
  | [] => True
  | s :: ss => s.WellFormed atRoot ∧ AllWellFormed atRoot ss

end

/-- Statements may form a file. -/
@[mk_iff]
structure FormFile (ss : List Statement) : Prop where
  each : AllWellFormed true ss
  distinct : DistinctNames ss

end Statement

end Source
end Schemata
