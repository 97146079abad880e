import Schemata.Position

/-!
# Diagnostics

A diagnostic is a cause and the ranges that it concerns: the primary one, and after it those that
led there. Causes are data; their wording is one function.

Results: `Diagnostic.ranges_ne_nil`, `Diagnostic.withContext_ranges` (context is added at the end).
-/
namespace Schemata

/-- Why something was refused. -/
inductive Cause where
  /-- No letter follows the markers. -/
  | invalidIdentifier (value : String)
  /-- A type name was expected. -/
  | expectedTypeName (name : String)
  /-- The name belongs to a fundamental type. -/
  | reservedTypeName (name : String)
  /-- The bounds describe no repetition. -/
  | invalidCardinality (min : Int64) (max : Option Int64)
  /-- The cardinality of a single element carries metadata. -/
  | metadataOnSingleElement
  /-- Two metadata items share a name. -/
  | duplicateMetadataItem (name : String)
  /-- Two keyword arguments share a name. -/
  | duplicateKeywordArgument (name : String)
  /-- A tuple or a variant has no member. -/
  | emptyTupleOrVariant (kind : String)
  /-- A variant is a member of a variant. -/
  | nestedVariantNotSupported
  /-- A root stands within a file. -/
  | nestedRootStatement
  /-- An include stands in a structure. -/
  | invalidIncludePlacement
  /-- A constraint of a fundamental type does not hold together. -/
  | invalidConstraint (typeName constraint reason : String)
  /-- A scope defines a name twice. -/
  | duplicateName (name : String)
  /-- The grammar refused the text. -/
  | grammar (message : String)
  /-- The content of a file could not be had. -/
  | unreadableContent (path : Path) (reason : String)
  /-- No definition has the name. -/
  | unknownType (name : String)
  /-- The definition is private. -/
  | privateTypeNotAccessible (name : String)
  /-- The definition is protected. -/
  | protectedTypeNotAccessible (name : String)
  /-- A definition depends on itself. -/
  | circularTypeReference (name : String)
  /-- The bases of a structure do not go together. -/
  | invalidBaseTypeCombination (name : String)
  /-- The target of an include is missing. -/
  | includeFileNotFound (path : Path)
  /-- The target of an include has failed. -/
  | includedFileFailed (path : Path)
  /-- An include names a definition that is not public. -/
  | importedElementNotPublic (name : String)
  /-- An include names a field. -/
  | importedElementNotAType (name : String)
  /-- Several files define the name. -/
  | ambiguousTypeReference (name : String)
  /-- The table knows no such file. -/
  | fileNotInSymbolTable (path : Path)
  /-- A literal is of the wrong kind. -/
  | invalidExpressionKind (expected found : String)
  /-- A value lies below its minimum. -/
  | valueTooSmall (value min : String)
  /-- A value lies above its maximum. -/
  | valueTooLarge (value max : String)
  /-- A value needs more bits. -/
  | valueOutOfBits (value : String) (bits : Nat)
  /-- A text has too few characters. -/
  | stringTooShort (length minLength : Nat)
  /-- A text has too many characters. -/
  | stringTooLong (length maxLength : Nat)
  /-- A text does not match its pattern. -/
  | patternMismatch (value pattern : String)
  /-- A text is no value of its type. -/
  | invalidValue (typeName value reason : String)
  /-- A path that has to exist does not. -/
  | pathNotFound (path : Path)
  /-- A tuple literal is too short. -/
  | notEnoughTupleValues (expected found : Nat)
  /-- A tuple literal is too long. -/
  | tooManyTupleValues (expected found : Nat)
  /-- No alternative takes the literal. -/
  | noVariantAlternativeMatched (typeName : String)
  /-- A list literal has the wrong number of elements. -/
  | cardinalityMismatch (expected : String) (found : Nat)
  /-- The type has no literals. -/
  | unsupportedExpression (typeName : String)
  deriving DecidableEq, Repr, Inhabited

/-- An upper bound as text; `*` stands for none. -/
def boundText : Option Int64 → String
  | some bound => toString bound.toInt
  | none => "*"

namespace Cause

/-- A name between backticks. -/
def tick (name : String) : String := "`" ++ name ++ "`"

/-- The wording of a cause. -/
def message : Cause → String
  | invalidIdentifier value => tick value ++ " is not a valid identifier"
  | expectedTypeName name => tick name ++ " is not a valid type name"
  | reservedTypeName name => tick name ++ " is a reserved fundamental type name"
  | invalidCardinality min max =>
    "invalid cardinality [" ++ toString min.toInt ++ ", " ++ boundText max ++ "]"
  | metadataOnSingleElement => "metadata cannot be associated with single elements"
  | duplicateMetadataItem name =>
    "the metadata item " ++ tick name ++ " was already provided"
  | duplicateKeywordArgument name =>
    "the keyword argument " ++ tick name ++ " was already provided"
  | emptyTupleOrVariant kind => kind ++ " types must contain at least one element type"
  | nestedVariantNotSupported => "nested variant types are not supported"
  | nestedRootStatement => "root statements cannot be nested"
  | invalidIncludePlacement => "include statements are only valid at the root of a file"
  | invalidConstraint typeName constraint reason =>
    "invalid " ++ tick constraint ++ " constraint for " ++ tick typeName ++ ": " ++ reason
  | duplicateName name => tick name ++ " is already defined in this scope"
  | grammar message => message
  | unreadableContent path reason =>
    "the content of " ++ tick path.text ++ " could not be read: " ++ reason
  | unknownType name => "the type " ++ tick name ++ " was not found"
  | privateTypeNotAccessible name =>
    "the type " ++ tick name ++ " is private and not accessible"
  | protectedTypeNotAccessible name =>
    "the type " ++ tick name ++ " is protected and not accessible"
  | circularTypeReference name => "a cycle was detected while resolving " ++ tick name
  | invalidBaseTypeCombination name =>
    "the base types of " ++ tick name ++
      " must be a single fundamental or structure type, or only structure types"
  | includeFileNotFound path => "the included file " ++ tick path.text ++ " does not exist"
  | includedFileFailed path =>
    "the included file " ++ tick path.text ++ " could not be processed"
  | importedElementNotPublic name => "the included element " ++ tick name ++ " is not public"
  | importedElementNotAType name => "the included element " ++ tick name ++ " is not a type"
  | ambiguousTypeReference name => "the type " ++ tick name ++ " is ambiguous"
  | fileNotInSymbolTable path => tick path.text ++ " is not part of the symbol table"
  | invalidExpressionKind expected found => expected ++ " was expected, found " ++ found
  | valueTooSmall value min => value ++ " is less than " ++ min
  | valueTooLarge value max => value ++ " is greater than " ++ max
  | valueOutOfBits value bits => value ++ " does not fit in " ++ toString bits ++ " bits"
  | stringTooShort length minLength =>
    toString length ++ " characters were found, at least " ++ toString minLength ++ " are required"
  | stringTooLong length maxLength =>
    toString length ++ " characters were found, at most " ++ toString maxLength ++ " are allowed"
  | patternMismatch value pattern =>
    tick value ++ " does not match the pattern " ++ tick pattern
  | invalidValue typeName value reason =>
    tick value ++ " is not a valid " ++ typeName ++ ": " ++ reason
  | pathNotFound path => tick path.text ++ " does not exist"
  | notEnoughTupleValues expected found =>
    "not enough tuple values were provided: expected " ++ toString expected ++ ", found " ++
      toString found
  | tooManyTupleValues expected found =>
    "too many tuple values were provided: expected " ++ toString expected ++ ", found " ++
      toString found
  | noVariantAlternativeMatched typeName =>
    "the value does not match any alternative of " ++ tick typeName
  | cardinalityMismatch expected found =>
    toString found ++ " values were provided, but the cardinality is " ++ expected
  | unsupportedExpression typeName =>
    "values of " ++ tick typeName ++ " cannot be created from literals"

end Cause

/-- A cause with the ranges that it concerns. -/
structure Diagnostic where
  /-- Why. -/
  cause : Cause
  /-- Where it was found. -/
  primary : Range
  /-- What led there, innermost first. -/
  context : List Range
  deriving Repr, Inhabited

namespace Diagnostic

/-- A diagnostic at one range. -/
def located (range : Range) (cause : Cause) : Diagnostic := ⟨cause, range, []⟩

/-- All ranges, the primary one first. -/
def ranges (d : Diagnostic) : List Range := d.primary :: d.context

/-- A further range that led to the diagnostic. -/
def withContext (d : Diagnostic) (range : Range) : Diagnostic :=
  { d with context := d.context ++ [range] }

/-- The wording of the cause. -/
def message (d : Diagnostic) : String := d.cause.message

/-- The wording with the ranges: one range behind it, or several below it. -/
def text (d : Diagnostic) : String :=
  match d.context with
  | [] => d.message ++ " (" ++ d.primary.text ++ ")"
  | _ => d.message ++ "\n" ++ String.join (d.ranges.map fun r => "\n    - " ++ r.text)

theorem ranges_ne_nil (d : Diagnostic) : d.ranges ≠ [] := by simp [ranges]

@[simp] theorem withContext_ranges (d : Diagnostic) (range : Range) :
    (d.withContext range).ranges = d.ranges ++ [range] := rfl

@[simp] theorem withContext_cause (d : Diagnostic) (range : Range) :
    (d.withContext range).cause = d.cause := rfl

instance : ToString Diagnostic := ⟨text⟩

end Diagnostic
end Schemata
