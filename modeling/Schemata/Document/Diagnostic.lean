import Schemata.Diagnostic
import Schemata.Document.Literal

/-!
# Documents of diagnostics

How causes and diagnostics are shown as documents: a cause by its name and its members.
-/
namespace Schemata
open Document

/-- The name of a cause and its members. -/
def Cause.parts : Cause → String × List (String × Document)
  | invalidIdentifier value => ("InvalidIdentifier", [("value", .text value)])
  | expectedTypeName name => ("ExpectedTypeName", [("name", .text name)])
  | reservedTypeName name => ("ReservedTypeName", [("name", .text name)])
  | invalidCardinality min max =>
    ("InvalidCardinality", [("min", integer64 min), ("max", option integer64 max)])
  | metadataOnSingleElement => ("MetadataOnSingleElement", [])
  | duplicateMetadataItem name => ("DuplicateMetadataItem", [("name", .text name)])
  | duplicateKeywordArgument name => ("DuplicateKeywordArgument", [("name", .text name)])
  | emptyTupleOrVariant kind => ("EmptyTupleOrVariant", [("kind", .text kind)])
  | nestedVariantNotSupported => ("NestedVariantNotSupported", [])
  | nestedRootStatement => ("NestedRootStatement", [])
  | invalidIncludePlacement => ("InvalidIncludePlacement", [])
  | invalidConstraint typeName constraint reason =>
    ("InvalidConstraint",
      [("type_name", .text typeName), ("constraint", .text constraint), ("reason", .text reason)])
  | duplicateName name => ("DuplicateName", [("name", .text name)])
  | grammar message => ("Grammar", [("message", .text message)])
  | unreadableContent path reason =>
    ("UnreadableContent", [("path", .text path.text), ("reason", .text reason)])
  | unknownType name => ("UnknownType", [("name", .text name)])
  | privateTypeNotAccessible name => ("PrivateTypeNotAccessible", [("name", .text name)])
  | protectedTypeNotAccessible name => ("ProtectedTypeNotAccessible", [("name", .text name)])
  | circularTypeReference name => ("CircularTypeReference", [("name", .text name)])
  | invalidBaseTypeCombination name => ("InvalidBaseTypeCombination", [("name", .text name)])
  | includeFileNotFound path => ("IncludeFileNotFound", [("path", .text path.text)])
  | includedFileFailed path => ("IncludedFileFailed", [("path", .text path.text)])
  | importedElementNotPublic name => ("ImportedElementNotPublic", [("name", .text name)])
  | importedElementNotAType name => ("ImportedElementNotAType", [("name", .text name)])
  | ambiguousTypeReference name => ("AmbiguousTypeReference", [("name", .text name)])
  | fileNotInSymbolTable path => ("FileNotInSymbolTable", [("path", .text path.text)])
  | invalidExpressionKind expected found =>
    ("InvalidExpressionKind", [("expected", .text expected), ("found", .text found)])
  | valueTooSmall value min => ("ValueTooSmall", [("value", .text value), ("min", .text min)])
  | valueTooLarge value max => ("ValueTooLarge", [("value", .text value), ("max", .text max)])
  | valueOutOfBits value bits =>
    ("ValueOutOfBits", [("value", .text value), ("bits", natural bits)])
  | stringTooShort length minLength =>
    ("StringTooShort", [("length", natural length), ("min_length", natural minLength)])
  | stringTooLong length maxLength =>
    ("StringTooLong", [("length", natural length), ("max_length", natural maxLength)])
  | patternMismatch value pattern =>
    ("PatternMismatch", [("value", .text value), ("pattern", .text pattern)])
  | invalidValue typeName value reason =>
    ("InvalidValue",
      [("type_name", .text typeName), ("value", .text value), ("reason", .text reason)])
  | pathNotFound path => ("PathNotFound", [("path", .text path.text)])
  | notEnoughTupleValues expected found =>
    ("NotEnoughTupleValues", [("expected", natural expected), ("found", natural found)])
  | tooManyTupleValues expected found =>
    ("TooManyTupleValues", [("expected", natural expected), ("found", natural found)])
  | noVariantAlternativeMatched typeName =>
    ("NoVariantAlternativeMatched", [("type_name", .text typeName)])
  | cardinalityMismatch expected found =>
    ("CardinalityMismatch", [("expected", .text expected), ("found", natural found)])
  | unsupportedExpression typeName => ("UnsupportedExpression", [("type_name", .text typeName)])

/-- A cause as a document: its name, with its members if it has any. -/
def Cause.document (c : Cause) : Document :=
  match c.parts with
  | (name, []) => .text name
  | (name, members) => .record name members

/-- A diagnostic as a document. -/
def Diagnostic.document (d : Diagnostic) : Document :=
  .object [("kind", d.cause.document), ("ranges", list Range.document d.ranges)]

end Schemata
