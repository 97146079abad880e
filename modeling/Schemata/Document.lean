import Schemata.Decimal

/-!
# Documents

A document is a tree of named values, the form in which the model is shown to other programs and in
which options are read.
-/
namespace Schemata

/-- A tree of named values. -/
inductive Document where
  /-- Nothing. -/
  | null
  /-- A truth value. -/
  | boolean (value : Bool)
  /-- A whole number. -/
  | integer (value : Int)
  /-- A number in decimal notation. -/
  | decimal (text : String)
  | text (value : String)
  | array (elements : List Document)
  /-- Named documents; the order of the names carries no meaning. -/
  | object (members : List (String × Document))
  deriving Inhabited

namespace Document

/-- A number, shown as null unless it is finite. -/
def number (x : Float) : Document :=
  if Decimal.isFinite x then .decimal (Decimal.text x) else .null

/-- A natural number. -/
def natural (n : Nat) : Document := .integer n

/-- A value that may be missing. -/
def option {α : Type} (f : α → Document) : Option α → Document
  | some a => f a
  | none => .null

/-- Several values in order. -/
def list {α : Type} (f : α → Document) (as : List α) : Document := .array (as.map f)

/-- A case of a choice that carries something. -/
def case (name : String) (content : Document) : Document := .object [(name, content)]

/-- A case of a choice that carries named members. -/
def record (name : String) (members : List (String × Document)) : Document :=
  .case name (.object members)

end Document
end Schemata
