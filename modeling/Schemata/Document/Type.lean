import Schemata.Document.Literal
import Schemata.LinkedType

/-!
# Documents of types

How fundamental, written and linked types are shown as documents.
-/
namespace Schemata
open Document

/-- A fundamental type as a document; types without constraints by their name alone. -/
def Fundamental.document : Fundamental → Document
  | integer min max bits =>
    .record "Integer" [("min", option integer64 min), ("max", option integer64 max),
      ("bits", option natural bits)]
  | number min max bits =>
    .record "Number" [("min", option Document.number min), ("max", option Document.number max),
      ("bits", option natural bits)]
  | string minLength maxLength pattern =>
    .record "String" [("min_length", natural minLength), ("max_length", option natural maxLength),
      ("pattern", option (fun p => .text p.source) pattern)]
  | directory ensureExists => .record "Directory" [("ensure_exists", .boolean ensureExists)]
  | filename ensureExists matchAny =>
    .record "Filename" [("ensure_exists", .boolean ensureExists), ("match_any", .boolean matchAny)]
  | type => .text type.name

/-- A type node with the given kind. -/
def Occurrence.document (o : Occurrence) (kind : Document) : Document :=
  .object [("id", o.id.document), ("range", o.range.document),
    ("cardinality", o.cardinality.document), ("metadata", option Metadata.document o.metadata),
    ("kind", kind)]

/-- A reference as a document. -/
def Reference.document (r : Reference) : Document :=
  .object [("segments", list Identifier.document r.segments), ("is_global", .boolean r.isGlobal),
    ("is_element_reference", .boolean r.isElement)]

mutual

/-- A written type as a document. -/
def WrittenType.document : WrittenType → Document
  | .fundamental o type => o.document (.case "Fundamental" type.document)
  | .reference o r => o.document (.case "Identifier" r.document)
  | .tuple o members => o.document (.case "Tuple" (.array (WrittenType.documents members)))
  | .variant o members => o.document (.case "Variant" (.array (WrittenType.documents members)))

/-- Written types as documents. -/
def WrittenType.documents : List WrittenType → List Document
  | [] => []
  | t :: ts => t.document :: WrittenType.documents ts

end

mutual

/-- A linked type as a document. -/
def LinkedType.document : LinkedType → Document
  | .fundamental o type => o.document (.case "Fundamental" type.document)
  | .struct o id name =>
    o.document (.record "Structure" [("id", id.document), ("name", name.document)])
  | .tuple o members => o.document (.case "Tuple" (.array (LinkedType.documents members)))
  | .variant o members => o.document (.case "Variant" (.array (LinkedType.documents members)))
  | .alias o name aliased =>
    o.document (.record "Alias" [("name", name.document), ("aliased", aliased.document)])

/-- Linked types as documents. -/
def LinkedType.documents : List LinkedType → List Document
  | [] => []
  | t :: ts => t.document :: LinkedType.documents ts

end

end Schemata
