import Schemata.Diagnostic
import Schemata.Pattern

/-!
# Fundamental types

The types that are not built from others. They have reserved names, and some carry constraints.

Results: `Fundamental.name_mem_reservedNames` (every fundamental type has a reserved name).
-/
namespace Schemata

/-- A type that is not built from others, with its constraints. -/
inductive Fundamental where
  /-- Truth values. -/
  | boolean
  /-- Integers between bounds, of so many bits. -/
  | integer (min max : Option Int64) (bits : Option Nat)
  /-- Numbers between bounds, of so many bits. -/
  | number (min max : Option Float) (bits : Option Nat)
  /-- Texts of bounded length that match a pattern. -/
  | string (minLength : Nat) (maxLength : Option Nat) (pattern : Option Pattern)
  /-- Days. -/
  | date
  /-- Days with a time of day. -/
  | dateTime
  /-- Times of day. -/
  | time
  /-- Stretches of time. -/
  | duration
  /-- Paths of directories, which may have to exist. -/
  | directory (ensureExists : Bool)
  /-- Paths of files, which may have to exist, and which may match anything that exists. -/
  | filename (ensureExists matchAny : Bool)
  /-- Globally unique identifiers. -/
  | guid
  /-- Uniform resource identifiers. -/
  | uri
  deriving Inhabited, BEq

/-- The names that no other type may have. -/
def reservedNames : List String :=
  ["Boolean", "Integer", "Number", "String", "Date", "DateTime", "Time", "Duration", "Directory",
    "Filename", "Guid", "Uri"]

/-- A name belongs to a fundamental type. -/
def isReserved (name : String) : Bool := reservedNames.contains name

namespace Fundamental

/-- The name of a fundamental type. -/
def name : Fundamental → String
  | boolean => "Boolean"
  | integer .. => "Integer"
  | number .. => "Number"
  | string .. => "String"
  | date => "Date"
  | dateTime => "DateTime"
  | time => "Time"
  | duration => "Duration"
  | directory .. => "Directory"
  | filename .. => "Filename"
  | guid => "Guid"
  | uri => "Uri"

theorem name_mem_reservedNames (t : Fundamental) : t.name ∈ reservedNames := by
  cases t <;> simp [name, reservedNames]

/-- The kind of literal that denotes the values of the type. -/
def expectedLiteral : Fundamental → String
  | boolean => "a boolean"
  | integer .. => "an integer"
  | number .. => "a number"
  | _ => "a string"

end Fundamental
end Schemata
