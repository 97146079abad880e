import Schemata.LinkedType
import Schemata.Statement

/-!
# Elements

The tree of everything that a linked file owns: statements, types, cardinalities, metadata, include
items, arguments and literals, parents before children and children in the order of declaration. The
structure behind a handle is not owned by the type that holds the handle, so the tree is finite.

Results: `Tree.ofTypes_eq_map`, `Tree.ofStatements_eq_map` (a list of parts has a list of trees).
-/
namespace Schemata

/-- Anything that a linked file owns. -/
inductive Element where
  /-- The file. -/
  | root (root : Root LinkedType)
  | statement (statement : Statement LinkedType)
  /-- An element taken over by an include. -/
  | includeItem (item : IncludeItem)
  | type (type : LinkedType)
  | cardinality (cardinality : Cardinality)
  /-- A metadata block. -/
  | metadata (metadata : Metadata)
  | metadataItem (item : MetadataItem)
  /-- An argument with a name. -/
  | keywordArgument (argument : KeywordArgument)
  | expression (expression : Literal)
  deriving Inhabited

/-- A named attribute of an element. -/
structure Detail where
  name : String
  /-- The attribute as text. -/
  value : String
  deriving DecidableEq, Repr, Inhabited

/-- The word for the kind of a statement. -/
def Statement.kindName {τ : Type} : Statement τ → String
  | item .. => "Item"
  | struct .. => "Structure"
  | extension .. => "Extension"
  | inclusion .. => "Include"

/-- The attributes of a statement. -/
def Statement.details {τ : Type} : Statement τ → List Detail
  | item _ _ name _ => [⟨"name", name.value⟩, ⟨"visibility", name.visibility.text⟩]
  | struct _ _ name .. => [⟨"name", name.value⟩, ⟨"visibility", name.visibility.text⟩]
  | extension _ _ call => [⟨"name", call.name.value⟩]
  | inclusion _ _ i => [⟨"filename", i.filename⟩]

/-- The attributes of a type. -/
def LinkedType.details : LinkedType → List Detail
  | fundamental _ type => [⟨"fundamental", type.name⟩]
  | struct _ _ name => [⟨"reference", name.name⟩]
  | tuple .. => [⟨"kind", "tuple"⟩]
  | variant .. => [⟨"kind", "variant"⟩]
  | .alias _ name _ => [⟨"alias", name.value⟩]

/-- The attributes of a literal. -/
def Literal.details : Literal → List Detail
  | .tuple .. => [⟨"kind", "tuple"⟩]
  | .list .. => [⟨"kind", "list"⟩]
  | e => [⟨"value", e.text⟩]

namespace Element

/-- The word for the kind of an element. -/
def kindName : Element → String
  | root _ => "Root"
  | statement s => s.kindName
  | includeItem _ => "IncludeItem"
  | type _ => "Type"
  | cardinality _ => "Cardinality"
  | metadata _ => "Metadata"
  | metadataItem _ => "MetadataItem"
  | keywordArgument _ => "KeywordArgument"
  | expression _ => "Expression"

/-- Where an element stands. -/
def range : Element → Range
  | root r => r.range
  | statement s => s.range
  | includeItem i => i.range
  | type t => t.occurrence.range
  | cardinality c => c.range
  | metadata m => m.range
  | metadataItem i => i.range
  | keywordArgument a => a.range
  | expression e => e.place

/-- The attributes of an element, in order. -/
def details : Element → List Detail
  | root r => [⟨"file", r.file.text⟩]
  | statement s => s.details
  | includeItem i => [⟨"element", i.element.value⟩, ⟨"reference", i.reference.value⟩]
  | type t => t.details
  | cardinality c =>
    [⟨"min", toString c.min.value.toInt⟩, ⟨"max", boundText c.bounds.2⟩]
  | metadata _ => []
  | metadataItem i => [⟨"name", i.name.value⟩]
  | keywordArgument a => [⟨"name", a.name.value⟩]
  | expression e => Literal.details e

end Element

/-- An element with the elements that it owns. -/
inductive Tree where
  | node (element : Element) (parts : List Tree)
  deriving Inhabited

namespace Tree

/-- The element at the top. -/
def element : Tree → Element
  | node e _ => e

/-- The trees of its parts. -/
def parts : Tree → List Tree
  | node _ ts => ts

mutual

/-- The tree of a literal. -/
def ofLiteral : Literal → Tree
  | .tuple p members => node (.expression (.tuple p members)) (ofLiterals members)
  | .list p elements => node (.expression (.list p elements)) (ofLiterals elements)
  | e => node (.expression e) []

/-- The trees of literals. -/
def ofLiterals : List Literal → List Tree
  | [] => []
  | e :: es => ofLiteral e :: ofLiterals es

end

/-- The tree of a metadata block. -/
def ofMetadata (m : Metadata) : Tree :=
  node (.metadata m) (m.items.map fun item => node (.metadataItem item) [ofLiteral item.value])

/-- The trees of metadata that may be missing. -/
def ofMetadata? (m : Option Metadata) : List Tree :=
  (m.map ofMetadata).toList

/-- The tree of a cardinality. -/
def ofCardinality (c : Cardinality) : Tree :=
  node (.cardinality c) (ofMetadata? c.metadata)

/-- The parts that every type has. -/
def ofOccurrence (o : Occurrence) : List Tree :=
  ofCardinality o.cardinality :: ofMetadata? o.metadata

mutual

/-- The tree of a type. -/
def ofType : LinkedType → Tree
  | .fundamental o type => node (.type (.fundamental o type)) (ofOccurrence o)
  | .struct o id name => node (.type (.struct o id name)) (ofOccurrence o)
  | .tuple o members => node (.type (.tuple o members)) (ofOccurrence o ++ ofTypes members)
  | .variant o members => node (.type (.variant o members)) (ofOccurrence o ++ ofTypes members)
  | .alias o name aliased =>
    node (.type (.alias o name aliased)) (ofOccurrence o ++ [ofType aliased])

/-- The trees of types. -/
def ofTypes : List LinkedType → List Tree
  | [] => []
  | t :: ts => ofType t :: ofTypes ts

end

theorem ofTypes_eq_map (ts : List LinkedType) : ofTypes ts = ts.map ofType := by
  induction ts with
  | nil => rfl
  | cons t ts ih => simp [ofTypes, ih]

/-- The tree of an argument with a name. -/
def ofArgument (a : KeywordArgument) : Tree :=
  node (.keywordArgument a) [ofLiteral a.value]

mutual

/-- The tree of a statement. -/
def ofStatement : Statement LinkedType → Tree
  | .item id range name type => node (.statement (.item id range name type)) [ofType type]
  | .struct id range name bases metadata children =>
    node (.statement (.struct id range name bases metadata children))
      (ofTypes bases ++ ofMetadata? metadata ++ ofStatements children)
  | .extension id range call =>
    node (.statement (.extension id range call))
      (ofLiterals call.arguments ++ call.named.map ofArgument)
  | .inclusion id range i =>
    node (.statement (.inclusion id range i)) (i.items.map fun item => node (.includeItem item) [])

/-- The trees of statements. -/
def ofStatements : List (Statement LinkedType) → List Tree
  | [] => []
  | s :: ss => ofStatement s :: ofStatements ss

end

theorem ofStatements_eq_map (ss : List (Statement LinkedType)) :
    ofStatements ss = ss.map ofStatement := by
  induction ss with
  | nil => rfl
  | cons s ss ih => simp [ofStatements, ih]

/-- The tree of a file. -/
def ofRoot (r : Root LinkedType) : Tree := node (.root r) (ofStatements r.statements)

mutual

/-- The elements of a tree, parents before children. -/
def elements : Tree → List Element
  | node e parts => e :: elementsOf parts

/-- The elements of trees, tree by tree. -/
def elementsOf : List Tree → List Element
  | [] => []
  | t :: ts => t.elements ++ elementsOf ts

end

end Tree
end Schemata
