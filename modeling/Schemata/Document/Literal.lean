import Schemata.Document
import Schemata.ElementId
import Schemata.Cardinality

/-!
# Documents of literals

How places, identifiers, literals, metadata and cardinalities are shown as documents. Items are
shown under their names without markers.
-/
namespace Schemata
open Document

/-- A location as a document. -/
def Location.document (l : Location) : Document :=
  .object [("line", natural l.line), ("column", natural l.column)]

/-- A range as a document. -/
def Range.document (r : Range) : Document :=
  .object [("file", .text r.file.text), ("begin", r.start.document), ("end", r.stop.document)]

/-- An element id as a document. -/
def ElementId.document (id : ElementId) : Document :=
  .object [("file", natural id.file), ("local", natural id.number)]

/-- A visibility as a document. -/
def Visibility.document : Visibility → Document
  | .isPublic => .text "Public"
  | .isProtected => .text "Protected"
  | .isPrivate => .text "Private"

/-- An identifier as a document. -/
def Identifier.document (i : Identifier) : Document :=
  .object [("range", i.range.document), ("value", .text i.value),
    ("visibility", i.visibility.document)]

/-- A 64-bit integer as a document. -/
def integer64 (n : Int64) : Document := .integer n.toInt

mutual

/-- A literal as a document. -/
def Literal.document : Literal → Document
  | .boolean r value => node r (.case "Boolean" (.boolean value))
  | .integer r value => node r (.case "Integer" (integer64 value))
  | .number r value => node r (.case "Number" (.number value))
  | .string r value => node r (.case "String" (.text value))
  | .tuple r members => node r (.case "Tuple" (.array (Literal.documents members)))
  | .list r elements => node r (.case "List" (.array (Literal.documents elements)))
where
  /-- A node with its range and its kind. -/
  node (r : Range) (kind : Document) : Document :=
    .object [("range", r.document), ("kind", kind)]

/-- Literals as documents. -/
def Literal.documents : List Literal → List Document
  | [] => []
  | e :: es => Literal.document e :: Literal.documents es

end

/-- A metadata item as a document. -/
def MetadataItem.document (item : MetadataItem) : Document :=
  .object [("range", item.range.document), ("name", item.name.document),
    ("value", Literal.document item.value)]

/-- A metadata block as a document. -/
def Metadata.document (m : Metadata) : Document :=
  .object [("range", m.range.document),
    ("items", .object (m.items.map fun item => (item.key, item.document)))]

/-- An integer literal as a document. -/
def IntegerLiteral.document (n : IntegerLiteral) : Document :=
  .object [("range", n.range.document), ("value", integer64 n.value)]

/-- A cardinality as a document. -/
def Cardinality.document (c : Cardinality) : Document :=
  .object [("range", c.range.document), ("min", c.min.document),
    ("max", option IntegerLiteral.document c.max),
    ("metadata", option Metadata.document c.metadata)]

end Schemata
