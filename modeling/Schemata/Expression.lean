import Schemata.Position
import Schemata.Decimal
import Schemata.Text.Quoted

/-!
# Literal expressions

Literals as they are written: booleans, integers, numbers, texts, and tuples and lists of literals.
The tree is the same before and after its places are checked, so the type of places is a parameter.
-/
namespace Schemata

/-- A literal whose every node stands at a place. -/
inductive Expression (ρ : Type) where
  /-- A truth value. -/
  | boolean (place : ρ) (value : Bool)
  /-- An integer of 64 bits. -/
  | integer (place : ρ) (value : Int64)
  /-- A binary floating-point number. -/
  | number (place : ρ) (value : Float)
  /-- A text. -/
  | string (place : ρ) (value : String)
  /-- Literals in parentheses. -/
  | tuple (place : ρ) (members : List (Expression ρ))
  /-- Literals in brackets. -/
  | list (place : ρ) (elements : List (Expression ρ))
  deriving Inhabited

/-- A literal in a file. -/
abbrev Literal := Expression Range

/-- The texts with a comma between each two, inside an opening and a closing bracket. -/
def sequenceText (opening closing : String) (texts : List String) : String :=
  opening ++ String.intercalate ", " texts ++ closing

namespace Expression
variable {ρ : Type}

/-- Where a literal stands. -/
def place : Expression ρ → ρ
  | boolean p _ | integer p _ | number p _ | string p _ | tuple p _ | list p _ => p

/-- The kind of a literal, with its article. -/
def kindName : Expression ρ → String
  | boolean .. => "a boolean"
  | integer .. => "an integer"
  | number .. => "a number"
  | string .. => "a string"
  | tuple .. => "a tuple"
  | list .. => "a list"

/-- The value of an integer literal. -/
def asInteger? : Expression ρ → Option Int64
  | integer _ value => some value
  | _ => none

/-- The value of a text literal. -/
def asString? : Expression ρ → Option String
  | string _ value => some value
  | _ => none

mutual

/-- A literal as text. -/
def text : Expression ρ → String
  | boolean _ value => if value then "true" else "false"
  | integer _ value => toString value.toInt
  | number _ value => Decimal.text value
  | string _ value => quoted value
  | tuple _ members => sequenceText "(" ")" (texts members)
  | list _ elements => sequenceText "[" "]" (texts elements)

/-- Literals as texts, one by one. -/
def texts : List (Expression ρ) → List String
  | [] => []
  | e :: es => e.text :: texts es

end

mutual

/-- Equality of literals, places included; numbers are compared as numbers, so that an undefined one
differs from itself. -/
def same [BEq ρ] : Expression ρ → Expression ρ → Bool
  | boolean p a, boolean q b => p == q && a == b
  | integer p a, integer q b => p == q && a == b
  | number p a, number q b => p == q && a == b
  | string p a, string q b => p == q && a == b
  | tuple p a, tuple q b => p == q && sameAll a b
  | list p a, list q b => p == q && sameAll a b
  | _, _ => false

/-- Equality of lists of literals. -/
def sameAll [BEq ρ] : List (Expression ρ) → List (Expression ρ) → Bool
  | [], [] => true
  | a :: as, b :: bs => a.same b && sameAll as bs
  | _, _ => false

end

instance [BEq ρ] : BEq (Expression ρ) := ⟨same⟩

theorem texts_eq_map (es : List (Expression ρ)) : texts es = es.map text := by
  induction es with
  | nil => rfl
  | cons e es ih => simp [texts, ih]

mutual

/-- Checks the place of every node, a node before its members. -/
def mapPlaces {ρ σ ε : Type} (f : ρ → Except ε σ) : Expression ρ → Except ε (Expression σ)
  | boolean p value => do return boolean (← f p) value
  | integer p value => do return integer (← f p) value
  | number p value => do return number (← f p) value
  | string p value => do return string (← f p) value
  | tuple p members => do
    let place ← f p
    return tuple place (← mapPlacesAll f members)
  | list p elements => do
    let place ← f p
    return list place (← mapPlacesAll f elements)

/-- Checks the places of literals, in order. -/
def mapPlacesAll {ρ σ ε : Type} (f : ρ → Except ε σ) :
    List (Expression ρ) → Except ε (List (Expression σ))
  | [] => .ok []
  | e :: es => do
    let e ← e.mapPlaces f
    return e :: (← mapPlacesAll f es)

end

end Expression

namespace Literal

/-- Where a literal stands. -/
abbrev range (e : Literal) : Range := e.place

end Literal

/-- An integer with its own range, used for bounds. -/
structure IntegerLiteral where
  range : Range
  value : Int64
  deriving Repr, Inhabited, BEq

end Schemata
