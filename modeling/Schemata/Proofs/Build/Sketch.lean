import Schemata.Source

/-!
# Sketches of files

Short forms for source trees in which every node stands on a line of its own and nothing is said
about cardinalities and metadata. They serve to write particular files down.
-/
namespace Schemata

/-- A stretch on a line. -/
def Span.onLine (line : Nat) : Span := ⟨line, 1, line, 9⟩

namespace Source

/-- A name on a line. -/
def Name.onLine (line : Nat) (text : String) : Name := ⟨.onLine line, text⟩

/-- A type expression on a line, without cardinality and metadata. -/
def Header.onLine (line : Nat) : Header := ⟨.onLine line, none, none⟩

/-- A type expression on a line with one metadata item that says that something is so. -/
def Header.noted (line : Nat) (name : String) : Header :=
  ⟨.onLine line, none, some ⟨.onLine line,
    [⟨.onLine line, .onLine line name, .boolean (.onLine line) true⟩]⟩⟩

/-- A reference to a type by its names. -/
def TypeExpr.named (line : Nat) (names : List String) : TypeExpr :=
  .reference (.onLine line) (names.map (Name.onLine line)) false false

/-- A reference to a type that is also searched for in all other files. -/
def TypeExpr.global (line : Nat) (names : List String) : TypeExpr :=
  .reference (.onLine line) (names.map (Name.onLine line)) true false

/-- A reference to the type of a field by its names. -/
def TypeExpr.element (line : Nat) (names : List String) : TypeExpr :=
  .reference (.onLine line) (names.map (Name.onLine line)) false true

/-- A field or an alias. -/
def Statement.names (line : Nat) (name : String) (type : TypeExpr) : Statement :=
  .item (.onLine line) (.onLine line name) type

/-- A structure with its bases and children. -/
def Statement.record (line : Nat) (name : String) (bases : List TypeExpr)
    (children : List Statement) : Statement :=
  .struct (.onLine line) (.onLine line name) bases none children

/-- An include that takes one element over under another name. -/
def Statement.takes (line : Nat) (filename element name : String) : Statement :=
  .inclusion (.onLine line) (.onLine line) filename
    [⟨.onLine line, .onLine line element, some (.onLine line name)⟩]

/-- An include of everything. -/
def Statement.takesAll (line : Nat) (filename : String) : Statement :=
  .inclusion (.onLine line) (.onLine line) filename []

end Source
end Schemata
