import Schemata.Document.Type
import Schemata.Statement

/-!
# Documents of statements

How statements and files are shown as documents, whatever the types in them are.
-/
namespace Schemata
open Document

/-- An argument with a name as a document. -/
def KeywordArgument.document (a : KeywordArgument) : Document :=
  .object [("range", a.range.document), ("name", a.name.document),
    ("value", Literal.document a.value)]

/-- An include item as a document. -/
def IncludeItem.document (i : IncludeItem) : Document :=
  .object [("range", i.range.document), ("element", i.element.document),
    ("reference", i.reference.document)]

/-- A call of an extension as a document. -/
def Extension.document (id : ElementId) (range : Range) (e : Extension) : Document :=
  .object [("id", id.document), ("range", range.document), ("name", e.name.document),
    ("positional_args", .array (Literal.documents e.arguments)),
    ("keyword_args", .object (e.named.map fun a => (a.key, a.document)))]

/-- An include as a document. -/
def Inclusion.document (id : ElementId) (range : Range) (i : Inclusion) : Document :=
  .object [("id", id.document), ("range", range.document), ("filename", .text i.filename),
    ("filename_range", i.filenameRange.document), ("items", list IncludeItem.document i.items)]

mutual

/-- A statement as a document, with the given form of types. -/
def Statement.document {τ : Type} (type : τ → Document) : Statement τ → Document
  | .item id range name t =>
    .record "Item" [("id", id.document), ("range", range.document), ("name", name.document),
      ("ty", type t)]
  | .struct id range name bases metadata children =>
    .record "Structure" [("id", id.document), ("range", range.document), ("name", name.document),
      ("bases", list type bases), ("metadata", option Metadata.document metadata),
      ("children", .array (Statement.documents type children))]
  | .extension id range call => .case "Extension" (call.document id range)
  | .inclusion id range i => .case "Include" (i.document id range)

/-- Statements as documents, with the given form of types. -/
def Statement.documents {τ : Type} (type : τ → Document) : List (Statement τ) → List Document
  | [] => []
  | s :: ss => s.document type :: Statement.documents type ss

end

/-- A file as a document, with the given form of types. -/
def Root.document {τ : Type} (type : τ → Document) (r : Root τ) : Document :=
  .object [("range", r.range.document),
    ("statements", .array (Statement.documents type r.statements))]

end Schemata
