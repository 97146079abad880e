import Schemata.Expression
import Schemata.Duration
import Schemata.Guid
import Schemata.Calendar
import Schemata.Uri

/-!
# Values

A value is what a literal stands for once its type is known. Every value is written as a literal
that denotes it, in canonical form; values that are written as text stand in quotes.

Results: `Value.texts_eq_map`.
-/
namespace Schemata

/-- What a literal stands for. -/
inductive Value where
  /-- A truth value. -/
  | boolean (value : Bool)
  | integer (value : Int64)
  | number (value : Float)
  /-- A text. -/
  | string (value : String)
  /-- A day. -/
  | date (value : Date)
  /-- A day and a time of it. -/
  | dateTime (value : DateTime)
  | time (value : TimeOfDay)
  /-- A stretch of time. -/
  | duration (value : Duration)
  | directory (value : Path)
  | filename (value : Path)
  /-- A globally unique identifier. -/
  | guid (value : Guid)
  /-- A uniform resource identifier. -/
  | uri (value : Uri)
  /-- Values in parentheses. -/
  | tuple (members : List Value)
  /-- Values in brackets. -/
  | list (elements : List Value)
  deriving Inhabited

namespace Value

/-- A text in quotes, in which nothing needs an escape. -/
def plainQuoted (s : String) : String := "\"" ++ s ++ "\""

mutual

/-- A value as a literal. -/
def text : Value → String
  | boolean value => if value then "true" else "false"
  | integer value => toString value.toInt
  | number value => Decimal.text value
  | string value => quoted value
  | date value => plainQuoted value.text
  | dateTime value => plainQuoted value.text
  | time value => plainQuoted value.text
  | duration value => plainQuoted value.text
  | directory value => quoted value.text
  | filename value => quoted value.text
  | guid value => plainQuoted value.text
  | uri value => quoted value.text
  | tuple members => sequenceText "(" ")" (texts members)
  | list elements => sequenceText "[" "]" (texts elements)

/-- Values as literals, one by one. -/
def texts : List Value → List String
  | [] => []
  | v :: vs => v.text :: texts vs

end

theorem texts_eq_map (vs : List Value) : texts vs = vs.map text := by
  induction vs with
  | nil => rfl
  | cons v vs ih => simp [texts, ih]

/-- The name of a value's kind. -/
def kindName : Value → String
  | boolean _ => "Boolean"
  | integer _ => "Integer"
  | number _ => "Number"
  | string _ => "String"
  | date _ => "Date"
  | dateTime value => if value.offset.isSome then "DateTime.Offset" else "DateTime.Naive"
  | time _ => "Time"
  | duration _ => "Duration"
  | directory _ => "Directory"
  | filename _ => "Filename"
  | guid _ => "Guid"
  | uri _ => "Uri"
  | tuple _ => "Tuple"
  | list _ => "List"

end Value
end Schemata
