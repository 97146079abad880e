import Schemata.Fundamental
import Schemata.Disk
import Schemata.Uri.Reader
import Schemata.Value

/-!
# Literals of fundamental types

A literal is converted to a value of a fundamental type if it is of the right kind and within the
constraints. Paths that have to exist are looked up on the disk.

Results: `fitsBits_iff` (which integers fit a width).
-/
namespace Schemata

/-- An integer fits the two's complement of so many bits. -/
def fitsBits (value : Int64) (bits : Nat) : Bool :=
  let bound : Int := Nat.pow 2 (bits - 1)
  64 ≤ bits || decide (-bound ≤ value.toInt ∧ value.toInt < bound)

theorem fitsBits_iff {value : Int64} {bits : Nat} (h : bits < 64) :
    fitsBits value bits = true ↔
      -(Nat.pow 2 (bits - 1) : Int) ≤ value.toInt ∧ value.toInt < Nat.pow 2 (bits - 1) := by
  simp [fitsBits, Nat.not_le.2 h]

/-- The greatest finite number of a width. -/
def greatestNumber (bits : Nat) : Float :=
  if bits = 16 then 65504
  else if bits = 32 then Float.ofBits 0x47EFFFFFE0000000
  else Float.ofBits 0x7FEFFFFFFFFFFFFF

/-- A number is finite, and its magnitude does not exceed that of its width. -/
def fitsFloatBits (value : Float) (bits : Nat) : Bool :=
  Decimal.isFinite value && decide (value.abs ≤ greatestNumber bits)

/-- Why an integer violates its constraints. -/
def integerFault (min max : Option Int64) (bits : Option Nat) (value : Int64) : Option Cause :=
  let text := toString value.toInt
  (min.filter (value < ·)).map (fun min => .valueTooSmall text (toString min.toInt)) <|>
  (max.filter (· < value)).map (fun max => .valueTooLarge text (toString max.toInt)) <|>
  (bits.filter (!fitsBits value ·)).map (fun bits => .valueOutOfBits text bits)

/-- Why a number violates its constraints. -/
def numberFault (min max : Option Float) (bits : Option Nat) (value : Float) : Option Cause :=
  let text := Decimal.text value
  (min.filter fun min => decide (value < min)).map
    (fun min => .valueTooSmall text (Decimal.text min)) <|>
  (max.filter fun max => decide (max < value)).map
    (fun max => .valueTooLarge text (Decimal.text max)) <|>
  (bits.filter (!fitsFloatBits value ·)).map (fun bits => .valueOutOfBits text bits)

/-- Why a text violates its constraints. -/
def stringFault (minLength : Nat) (maxLength : Option Nat) (pattern : Option Pattern)
    (value : String) : Option Cause :=
  let length := value.length
  (if length < minLength then some (.stringTooShort length minLength) else none) <|>
  (maxLength.filter (· < length)).map (fun max => .stringTooLong length max) <|>
  (pattern.filter (!·.accepts value)).map (fun p => .patternMismatch value p.source)

namespace Fundamental

/-- The value, unless something speaks against it. -/
def checked (fault : Option Cause) (value : Value) : Except Cause Value :=
  match fault with
  | some cause => .error cause
  | none => .ok value

/-- A value that was read from a text, or why the text is none. -/
def ofReading {ε α : Type} (typeName : String) (message : ε → String) (value : α → Value)
    (text : String) : Except ε α → Except Cause Value
  | .ok a => .ok (value a)
  | .error fault => .error (.invalidValue typeName text (message fault))

/-- A path, unless it has to exist and does not. -/
def ofPath (ensureExists found : Bool) (path : Path) (value : Path → Value) :
    Except Cause Value :=
  if ensureExists && !found then .error (.pathNotFound path) else .ok (value path)

/-- The value that a literal denotes in a fundamental type, or why it denotes none. -/
def convert (disk : Disk) (type : Fundamental) (e : Literal) : Except Cause Value :=
  match type, e with
  | boolean, .boolean _ value => .ok (.boolean value)
  | integer min max bits, .integer _ value =>
    checked (integerFault min max bits value) (.integer value)
  | number min max bits, .integer _ value =>
    let value := value.toFloat
    checked (numberFault min max bits value) (.number value)
  | number min max bits, .number _ value => checked (numberFault min max bits value) (.number value)
  | string minLength maxLength pattern, .string _ value =>
    checked (stringFault minLength maxLength pattern value) (.string value)
  | date, .string _ text =>
    ofReading "Date" CalendarFault.message .date text (Date.read text)
  | dateTime, .string _ text =>
    ofReading "DateTime" CalendarFault.message .dateTime text (DateTime.read text)
  | time, .string _ text =>
    ofReading "Time" CalendarFault.message .time text (TimeOfDay.read text)
  | duration, .string _ text =>
    ofReading "Duration" Duration.Fault.message .duration text (Duration.read text)
  | directory ensureExists, .string _ text =>
    ofPath ensureExists (disk.isDirectory ⟨text⟩) ⟨text⟩ .directory
  | filename ensureExists matchAny, .string _ text =>
    let found := if matchAny then disk.holds ⟨text⟩ else disk.isFile ⟨text⟩
    ofPath ensureExists found ⟨text⟩ .filename
  | guid, .string _ text => ofReading "Guid" Guid.Fault.message .guid text (Guid.read text)
  | uri, .string _ text => ofReading "Uri" Uri.Fault.message .uri text (Uri.read text)
  | type, e => .error (.invalidExpressionKind type.expectedLiteral e.kindName)

/-- Converts a literal; what is wrong is reported at the literal. -/
def parse (disk : Disk) (type : Fundamental) (e : Literal) : Except Diagnostic Value :=
  match type.convert disk e with
  | .ok value => .ok value
  | .error cause => .error (.located e.place cause)

end Fundamental
end Schemata
