import Schemata.WrittenType

/-!
# Statements

The statements of a file: items, which are fields or aliases, structures, extensions and includes.
The types in them are written or linked, so the type of types is a parameter.

Results: `Extension.create_eq_ok_iff` (what is accepted), `includeTarget_of_parent?`.
-/
namespace Schemata

/-- A literal with a name: an argument of an extension. -/
structure KeywordArgument where
  range : Range
  name : Identifier
  value : Literal
  deriving Inhabited, BEq

/-- The name by which an argument is found. -/
abbrev KeywordArgument.key (a : KeywordArgument) : String := a.name.name

/-- A call of an extension. -/
structure Extension where
  /-- The name of the extension. -/
  name : Identifier
  /-- The arguments without names. -/
  arguments : List Literal
  named : List KeywordArgument
  deriving Inhabited

namespace Extension

/-- The call with the given arguments, whose names are distinct. -/
def create (name : Identifier) (arguments : List Literal) (named : List KeywordArgument) :
    Except Diagnostic Extension :=
  match firstRepeat KeywordArgument.key named with
  | none => .ok ⟨name, arguments, named⟩
  | some (first, again) =>
    .error ⟨.duplicateKeywordArgument again.key, first.name.range, [again.name.range]⟩

theorem create_eq_ok_iff {name : Identifier} {arguments : List Literal}
    {named : List KeywordArgument} {e : Extension} :
    create name arguments named = .ok e ↔
      (named.map KeywordArgument.key).Nodup ∧ e = ⟨name, arguments, named⟩ := by
  unfold create
  rw [← firstRepeat_eq_none_iff]
  cases firstRepeat KeywordArgument.key named <;> simp [eq_comm]

/-- The argument of the given name. -/
def get? (e : Extension) (name : String) : Option KeywordArgument :=
  e.named.find? (·.key = name)

end Extension

/-- One element taken over by an include. -/
structure IncludeItem where
  range : Range
  /-- The name in the included file. -/
  element : Identifier
  /-- The name in the including file. -/
  reference : Identifier
  deriving Inhabited, BEq

/-- The item that takes over an element; without a name of its own it keeps the element's, as a
private one. -/
def IncludeItem.create (range : Range) (element : Identifier) (reference : Option Identifier) :
    Except Diagnostic IncludeItem :=
  match reference with
  | some reference => .ok ⟨range, element, reference⟩
  | none => do
    let reference ← Identifier.withVisibility element.range element.name .isPrivate
    return ⟨range, element, reference⟩

/-- The path that a filename means in a file: it is seen from the directory of the file. -/
def includeTarget (file : Path) (filename : String) : Path :=
  match file.parent? with
  | some directory => directory.join ⟨filename⟩
  | none => ⟨filename⟩

theorem includeTarget_of_parent? {file directory : Path} {filename : String}
    (h : file.parent? = some directory) :
    includeTarget file filename = directory.join ⟨filename⟩ := by
  simp [includeTarget, h]

/-- An include of a file. -/
structure Inclusion where
  filename : String
  filenameRange : Range
  /-- The elements taken over; none means every public type. -/
  items : List IncludeItem
  deriving Inhabited

namespace Inclusion

/-- The file that is included. -/
def target (i : Inclusion) : Path := includeTarget i.filenameRange.file i.filename

/-- Every public type of the target is taken over. -/
def isStar (i : Inclusion) : Bool := i.items.isEmpty

end Inclusion

/-- A statement with types of the given kind. -/
inductive Statement (τ : Type) where
  /-- A field or an alias: a name for a type. -/
  | item (id : ElementId) (range : Range) (name : Identifier) (type : τ)
  /-- A structure with its bases and the statements of its body. -/
  | struct (id : ElementId) (range : Range) (name : Identifier) (bases : List τ)
      (metadata : Option Metadata) (children : List (Statement τ))
  | extension (id : ElementId) (range : Range) (call : Extension)
  /-- An include of a file. -/
  | inclusion (id : ElementId) (range : Range) (inclusion : Inclusion)
  deriving Inhabited

namespace Statement
variable {τ : Type}

/-- The identity of a statement. -/
def id : Statement τ → ElementId
  | item id .. | struct id .. | extension id .. | inclusion id .. => id

/-- Where a statement stands. -/
def range : Statement τ → Range
  | item _ r .. | struct _ r .. | extension _ r .. | inclusion _ r .. => r

/-- The name that a statement defines in its scope. -/
def definedName? : Statement τ → Option Identifier
  | item _ _ name _ => some name
  | struct _ _ name .. => some name
  | extension .. | inclusion .. => none

/-- An include among the statements. -/
def inclusion? : Statement τ → Option Inclusion
  | inclusion _ _ i => some i
  | _ => none

/-- The names that a statement brings into its scope. -/
def scopeNames : Statement τ → List Identifier
  | inclusion _ _ i => i.items.map (·.reference)
  | s => s.definedName?.toList

/-- A field: an item whose name is that of a value. -/
def isField : Statement τ → Bool
  | item _ _ name _ => name.isExpression
  | _ => false

/-- A type definition: a structure, or an item whose name is that of a type. -/
def definesType : Statement τ → Bool
  | item _ _ name _ => name.isType
  | struct .. => true
  | _ => false

/-- The statement that a dotted name leads to: the first one of its first name, and within that
structure what the rest of the name leads to. -/
def find? (ss : List (Statement τ)) : List String → Option (Statement τ)
  | [] => none
  | name :: rest =>
    match ss.find? (·.definedName?.any (·.name == name)), rest with
    | s, [] => s
    | some (struct _ _ _ _ _ children), rest => find? children rest
    | _, _ => none

/-- The names of the fields among statements, in order. -/
def fieldNames (ss : List (Statement τ)) : List Identifier :=
  (ss.filter isField).filterMap definedName?

end Statement

/-- All statements of one file. -/
structure Root (τ : Type) where
  /-- The stretch from the start of the file to the end of its last statement. -/
  range : Range
  statements : List (Statement τ)
  deriving Inhabited

namespace Root
variable {τ : Type}

/-- The file of a root. -/
def file (r : Root τ) : Path := r.range.file

/-- The includes of a file, in order. -/
def inclusions (r : Root τ) : List Inclusion :=
  r.statements.filterMap Statement.inclusion?

end Root
end Schemata
