import Schemata.Expression

/-!
# Source trees

The tree of one file as a grammar hands it over: statements and type expressions with reported
spans, of which nothing has been checked.
-/
namespace Schemata.Source

/-- A name as written, markers included. -/
structure Name where
  span : Span
  text : String
  deriving DecidableEq, Repr, Inhabited

/-- A literal whose places are unchecked. -/
abbrev Literal := Expression Span

/-- A literal with a name: a metadata item or a keyword argument. -/
structure NamedLiteral where
  span : Span
  name : Name
  value : Literal
  deriving Inhabited

/-- A metadata block. -/
structure Metadata where
  span : Span
  items : List NamedLiteral
  deriving Inhabited

/-- A bound of a cardinality. -/
structure Bound where
  span : Span
  /-- The bound. -/
  value : Int64
  deriving Inhabited

/-- A cardinality. -/
structure Cardinality where
  span : Span
  /-- The minimum, if it is written. -/
  min : Option Bound
  /-- The maximum, if it is written. -/
  max : Option Bound
  metadata : Option Metadata
  deriving Inhabited

/-- What every type expression has. -/
structure Header where
  span : Span
  cardinality : Option Cardinality
  metadata : Option Metadata
  deriving Inhabited

/-- A type expression. -/
inductive TypeExpr where
  /-- A dotted name. A global one is also searched for in all files; an element one ends in the name
  of a field, whose type is meant. -/
  | reference (header : Header) (segments : List Name) (isGlobal isElement : Bool)
  | tuple (header : Header) (members : List TypeExpr)
  | variant (header : Header) (members : List TypeExpr)
  deriving Inhabited

/-- What every type expression has. -/
def TypeExpr.header : TypeExpr → Header
  | reference h _ _ _ | tuple h _ | variant h _ => h

mutual

/-- The number of type expressions in a type expression, itself included. -/
def TypeExpr.count : TypeExpr → Nat
  | reference _ _ _ _ => 1
  | tuple _ members => TypeExpr.counts members + 1
  | variant _ members => TypeExpr.counts members + 1

/-- The number of type expressions in a list of them. -/
def TypeExpr.counts : List TypeExpr → Nat
  | [] => 0
  | t :: ts => t.count + TypeExpr.counts ts

end

/-- One element taken over by an include, and the name it is to have. -/
structure IncludeItem where
  span : Span
  /-- The name in the included file. -/
  element : Name
  /-- The name in the including file, if it is written. -/
  reference : Option Name
  deriving Inhabited

/-- A statement. -/
inductive Statement where
  /-- A field or an alias: a name for a type. -/
  | item (span : Span) (name : Name) (type : TypeExpr)
  /-- A structure with its bases and the statements of its body. -/
  | struct (span : Span) (name : Name) (bases : List TypeExpr) (metadata : Option Metadata)
      (children : List Statement)
  /-- A call of an extension. -/
  | extension (span : Span) (name : Name) (arguments : List Literal) (named : List NamedLiteral)
  | inclusion (span filenameSpan : Span) (filename : String) (items : List IncludeItem)
  /-- A root, which has no place among statements. -/
  | root (span : Span) (statements : List Statement)
  deriving Inhabited

/-- Where a statement stands. -/
def Statement.span : Statement → Span
  | item s _ _ | struct s _ _ _ _ | extension s _ _ _ | inclusion s _ _ _ | root s _ => s

mutual

/-- The number of statements and type expressions in a statement, itself included. -/
def Statement.count : Statement → Nat
  | item _ _ type => type.count + 1
  | struct _ _ bases _ children => TypeExpr.counts bases + Statement.counts children + 1
  | extension .. => 1
  | inclusion .. => 1
  | root _ statements => Statement.counts statements + 1

/-- The number of statements and type expressions in a list of statements. -/
def Statement.counts : List Statement → Nat
  | [] => 0
  | s :: ss => s.count + Statement.counts ss

end

end Schemata.Source
