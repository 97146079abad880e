import Schemata.Metadata

/-!
# Cardinalities

A cardinality says how many values stand for an element: at least its minimum, and at most its
maximum if it has one. Each is single, optional or a collection.

Results: `Cardinality.accepts_iff` (a count up to the greatest bound is accepted exactly if it lies
between the bounds).
-/
namespace Schemata

/-- How often an element occurs. -/
structure Cardinality where
  range : Range
  /-- The least count. -/
  min : IntegerLiteral
  /-- The greatest count, if there is one. -/
  max : Option IntegerLiteral
  /-- What is said about the collection. -/
  metadata : Option Metadata
  deriving Inhabited, BEq

namespace Cardinality

/-- The bounds as numbers. -/
def bounds (c : Cardinality) : Int64 × Option Int64 :=
  (c.min.value, c.max.map (·.value))

/-- Exactly one value. -/
def isSingle (c : Cardinality) : Bool := c.bounds == (1, some 1)

/-- One value or none. -/
def isOptional (c : Cardinality) : Bool := c.bounds == (0, some 1)

/-- Any number of values. -/
def isZeroOrMore (c : Cardinality) : Bool := c.bounds == (0, none)

/-- At least one value. -/
def isOneOrMore (c : Cardinality) : Bool := c.bounds == (1, none)

/-- Possibly more than one value. -/
def isCollection (c : Cardinality) : Bool :=
  c.max.all fun max => 1 < max.value

/-- The bounds that are meant: none at all mean one value, a missing minimum means 0, a missing
maximum no limit. -/
def defaulted (range : Range) (min max : Option IntegerLiteral) :
    IntegerLiteral × Option IntegerLiteral :=
  match min, max with
  | none, none => (⟨range, 1⟩, some ⟨range, 1⟩)
  | none, some max => (⟨range, 0⟩, some max)
  | some min, max => (min, max)

/-- The bound at fault: a negative minimum, or a maximum that is zero or below the minimum. -/
def faultyBound (min : IntegerLiteral) (max : Option IntegerLiteral) : Option IntegerLiteral :=
  if min.value < 0 then some min
  else max.filter fun max => max.value < min.value || max.value == 0

/-- The cardinality of the given bounds. Metadata without items counts as none, and a single element
has none. -/
def create (range : Range) (min max : Option IntegerLiteral) (metadata : Option Metadata) :
    Except Diagnostic Cardinality :=
  let (min, max) := defaulted range min max
  match faultyBound min max with
  | some bound =>
    .error (.located bound.range (.invalidCardinality min.value (max.map (·.value))))
  | none =>
    let c : Cardinality := ⟨range, min, max, metadata.bind Metadata.nonEmpty?⟩
    match c.isSingle, c.metadata with
    | true, some metadata => .error (.located metadata.range .metadataOnSingleElement)
    | _, _ => .ok c

/-- The single cardinality of an element that states none. -/
def defaultAt (range : Range) : Cardinality :=
  ⟨range, ⟨range, 1⟩, some ⟨range, 1⟩, none⟩

/-- The greatest bound that can be stated. Every greater count stands for it. -/
def countLimit : Nat := Nat.pow 2 63 - 1

/-- A count of values lies between the bounds. -/
def accepts (c : Cardinality) (count : Nat) : Bool :=
  let count : Int := (Min.min count countLimit : Nat)
  decide (c.min.value.toInt ≤ count) && c.max.all fun max => decide (count ≤ max.value.toInt)

theorem accepts_iff {c : Cardinality} {count : Nat} (h : count ≤ countLimit) :
    c.accepts count = true ↔
      c.min.value.toInt ≤ count ∧ ∀ max, c.max = some max → (count : Int) ≤ max.value.toInt := by
  unfold accepts
  rw [Nat.min_eq_left h]
  cases c.max <;> simp

/-- The bounds as an interval; `*` stands for no limit. -/
def boundsText (c : Cardinality) : String :=
  "[" ++ toString c.min.value.toInt ++ ", " ++ boundText c.bounds.2 ++ "]"

/-- What the cardinality adds to the name of a type. -/
def suffix (c : Cardinality) : String :=
  if c.isSingle then ""
  else if c.isOptional then "?"
  else if c.isZeroOrMore then "*"
  else if c.isOneOrMore then "+"
  else
    let min := toString c.min.value.toInt
    match c.bounds.2 with
    | some max =>
      if c.min.value = max then "[" ++ min ++ "]"
      else "[" ++ min ++ ", " ++ toString max.toInt ++ "]"
    | none => "[" ++ min ++ "+]"

end Cardinality
end Schemata
