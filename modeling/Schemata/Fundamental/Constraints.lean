import Schemata.Fundamental
import Schemata.Metadata

/-!
# Constraints of fundamental types

The constraints of a fundamental type are items of the metadata that stands behind its name. Reading
the type takes them out of the block and leaves the others as they were.
-/
namespace Schemata

/-- Takes the item of the given name out of a block. -/
def takeItem (name : String) (m : Option Metadata) : Option MetadataItem × Option Metadata :=
  match m with
  | none => (none, none)
  | some m => (m.get? name, some (m.erase name))

namespace Constraint

/-- A constraint that does not hold together. -/
def invalid (typeName : String) (item : MetadataItem) (name reason : String) : Diagnostic :=
  .located item.range (.invalidConstraint typeName name reason)

/-- A constraint whose literal is of the wrong kind. -/
def wrongKind (typeName : String) (item : MetadataItem) (name expected : String) : Diagnostic :=
  invalid typeName item name (expected ++ " was expected, found " ++ item.value.kindName)

/-- The value of an item, if there is one, by the given reading of literals. -/
def read {α : Type} (typeName name expected : String) (value? : Literal → Option α)
    (item : Option MetadataItem) : Except Diagnostic (Option α) :=
  match item with
  | none => .ok none
  | some item =>
    match value? item.value with
    | some a => .ok (some a)
    | none => .error (wrongKind typeName item name expected)

/-- The number that a literal stands for; integers are rounded to the nearest number. -/
def asNumber? : Literal → Option Float
  | .integer _ value => some (value.toFloat)
  | .number _ value => some value
  | _ => none

/-- The truth value of a literal. -/
def asBoolean? : Literal → Option Bool
  | .boolean _ value => some value
  | _ => none

/-- An integer constraint. -/
def integer (typeName name : String) : Option MetadataItem → Except Diagnostic (Option Int64) :=
  read typeName name "an integer" Expression.asInteger?

/-- A number constraint. -/
def number (typeName name : String) : Option MetadataItem → Except Diagnostic (Option Float) :=
  read typeName name "a number" asNumber?

/-- A switch; it is off unless it is given. -/
def switch (typeName name : String) (item : Option MetadataItem) : Except Diagnostic Bool := do
  let value ← read typeName name "a boolean" asBoolean? item
  return value.getD false

/-- A length, which is not negative. -/
def length (typeName name : String) (item : Option MetadataItem) :
    Except Diagnostic (Option Nat) := do
  match ← integer typeName name item, item with
  | some value, some item =>
    if value.toInt < 0 then .error (invalid typeName item name "must not be negative")
    else return some value.toInt.toNat
  | _, _ => return none

/-- A bit width, which has to be supported. -/
def bits (typeName : String) (supported : Int → Bool) (item : Option MetadataItem) :
    Except Diagnostic (Option Nat) := do
  match ← integer typeName "bits" item, item with
  | some value, some item =>
    if supported value.toInt then return some value.toInt.toNat
    else .error (invalid typeName item "bits" "unsupported bit width")
  | _, _ => return none

/-- What is said of a pattern that cannot be read. -/
def patternFault : String := "<regex error>"

/-- A pattern, which has to be a regular expression. -/
def pattern (typeName name : String) (item : Option MetadataItem) :
    Except Diagnostic (Option Pattern) := do
  match ← read typeName name "a string" Expression.asString? item, item with
  | some source, some item =>
    match Pattern.compile source with
    | some p => return some p
    | none => .error (invalid typeName item name patternFault)
  | _, _ => return none

/-- Refuses an upper bound that lies below the lower one. -/
def ordered (typeName lower upper : String) (item : Option MetadataItem) (below : Bool) :
    Except Diagnostic Unit :=
  match item with
  | some item =>
    if below then .error (invalid typeName item upper ("must not be less than `" ++ lower ++ "`"))
    else .ok ()
  | none => .ok ()

/-- `a` lies below `b`, if both are given. -/
def isBelow {α : Type} (less : α → α → Bool) : Option α → Option α → Bool
  | some a, some b => less a b
  | _, _ => false

end Constraint

namespace Fundamental
open Constraint

/-- An integer type with the constraints of a block. -/
def readInteger (m : Option Metadata) : Except Diagnostic (Fundamental × Option Metadata) := do
  let (minItem, m) := takeItem "min" m
  let min ← Constraint.integer "Integer" "min" minItem
  let (maxItem, m) := takeItem "max" m
  let max ← Constraint.integer "Integer" "max" maxItem
  ordered "Integer" "min" "max" maxItem (isBelow (fun a b : Int64 => decide (a < b)) max min)
  let (bitsItem, m) := takeItem "bits" m
  let bits ← bits "Integer" (fun n => decide (1 ≤ n ∧ n ≤ 64)) bitsItem
  return (.integer min max bits, m)

/-- A number type with the constraints of a block. -/
def readNumber (m : Option Metadata) : Except Diagnostic (Fundamental × Option Metadata) := do
  let (minItem, m) := takeItem "min" m
  let min ← Constraint.number "Number" "min" minItem
  let (maxItem, m) := takeItem "max" m
  let max ← Constraint.number "Number" "max" maxItem
  ordered "Number" "min" "max" maxItem (isBelow (fun a b : Float => decide (a < b)) max min)
  let (bitsItem, m) := takeItem "bits" m
  let bits ← bits "Number" (fun n => n == 16 || n == 32 || n == 64) bitsItem
  return (.number min max bits, m)

/-- A text type with the constraints of a block. A text has at least one character unless the block
says otherwise. -/
def readString (m : Option Metadata) : Except Diagnostic (Fundamental × Option Metadata) := do
  let (minItem, m) := takeItem "min_length" m
  let min ← length "String" "min_length" minItem
  let (maxItem, m) := takeItem "max_length" m
  let max ← length "String" "max_length" maxItem
  let min := min.getD 1
  ordered "String" "min_length" "max_length" maxItem
    (isBelow (fun a b : Nat => decide (a < b)) max (some min))
  let (patternItem, m) := takeItem "pattern" m
  let pattern ← pattern "String" "pattern" patternItem
  return (.string min max pattern, m)

/-- A directory type with the constraints of a block. -/
def readDirectory (m : Option Metadata) : Except Diagnostic (Fundamental × Option Metadata) := do
  let (item, m) := takeItem "ensure_exists" m
  let ensureExists ← switch "Directory" "ensure_exists" item
  return (.directory ensureExists, m)

/-- A file type with the constraints of a block. -/
def readFilename (m : Option Metadata) : Except Diagnostic (Fundamental × Option Metadata) := do
  let (existsItem, m) := takeItem "ensure_exists" m
  let ensureExists ← switch "Filename" "ensure_exists" existsItem
  let (anyItem, m) := takeItem "match_any" m
  let matchAny ← switch "Filename" "match_any" anyItem
  return (.filename ensureExists matchAny, m)

/-- The fundamental type of a name with the constraints of a block, and what is left of the block;
nothing if the name is not reserved. -/
def ofConstraints (name : String) (m : Option Metadata) :
    Except Diagnostic (Option (Fundamental × Option Metadata)) :=
  match name with
  | "Boolean" => .ok (some (.boolean, m))
  | "Integer" => (readInteger m).map some
  | "Number" => (readNumber m).map some
  | "String" => (readString m).map some
  | "Date" => .ok (some (.date, m))
  | "DateTime" => .ok (some (.dateTime, m))
  | "Time" => .ok (some (.time, m))
  | "Duration" => .ok (some (.duration, m))
  | "Directory" => (readDirectory m).map some
  | "Filename" => (readFilename m).map some
  | "Guid" => .ok (some (.guid, m))
  | "Uri" => .ok (some (.uri, m))
  | _ => .ok none

end Fundamental
end Schemata
