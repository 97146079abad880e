import Schemata.Path.Map
import Schemata.Table

/-!
# The arena of scopes and symbols

The symbol table as it is laid out: scopes and symbols stand in two arrays and are known by their
indices, which have 32 bits. The root of a file and the body of every structure have a scope, which
knows the scope around it; every structure and every alias has a symbol. The arena is filled once,
file after file and in the order of reading. Then the includes of each file are bound at its root.

An index that does not fit its 32 bits is taken for the largest one. So up to 2^32 scopes and as many
symbols have ids of their own, and the ones behind those share an id.

Results: `Arena.Dictionary.get?_insert` (a key has the value that it got last).
-/
namespace Schemata
namespace Arena

/-! ## Dictionaries -/

/-- Values by key. -/
structure Dictionary (κ α : Type) where
  /-- Every key once. -/
  entries : List (κ × α)
  deriving Inhabited

namespace Dictionary
variable {κ α : Type} [BEq κ]

/-- The dictionary without keys. -/
def empty : Dictionary κ α := ⟨[]⟩

/-- The value of a key. -/
def get? (m : Dictionary κ α) (key : κ) : Option α := m.entries.lookup key

/-- The dictionary with a value for a key, in the place of the one it had. -/
def insert (m : Dictionary κ α) (key : κ) (value : α) : Dictionary κ α :=
  ⟨(key, value) :: m.entries.filter (·.1 != key)⟩

/-- The dictionary with a value for a key, unless it has one. -/
def insertNew (m : Dictionary κ α) (key : κ) (value : α) : Dictionary κ α :=
  if (m.get? key).isSome then m else m.insert key value

theorem lookup_filter_ne [LawfulBEq κ] {key other : κ} (entries : List (κ × α))
    (h : (other == key) = false) :
    (entries.filter (·.1 != key)).lookup other = entries.lookup other := by
  induction entries with
  | nil => rfl
  | cons e rest ih =>
    obtain ⟨k, v⟩ := e
    cases hk : k == key with
    | true =>
      obtain rfl := eq_of_beq hk
      rw [List.filter_cons_of_neg (by simp), ih, List.lookup_cons, h]
    | false =>
      rw [List.filter_cons_of_pos (by simp [bne, hk]), List.lookup_cons, List.lookup_cons, ih]

/-- A key has the value that it got last. -/
theorem get?_insert [LawfulBEq κ] (m : Dictionary κ α) (key other : κ) (value : α) :
    (m.insert key value).get? other = if other == key then some value else m.get? other := by
  simp only [get?, insert, List.lookup_cons]
  cases h : other == key with
  | true => rfl
  | false => exact lookup_filter_ne m.entries h

end Dictionary

/-! ## Ids -/

/-- The id of a scope. -/
structure ScopeId where
  word : UInt32
  deriving DecidableEq, Repr, Inhabited

/-- The id of the scope at an index. -/
def ScopeId.ofIndex (index : Nat) : ScopeId := ⟨.ofNatClamp index⟩

/-- The index that an id stands for. -/
def ScopeId.index (id : ScopeId) : Nat := id.word.toNat

/-- The id of a symbol. -/
structure SymbolId where
  word : UInt32
  deriving DecidableEq, Repr, Inhabited

/-- The id of the symbol at an index. -/
def SymbolId.ofIndex (index : Nat) : SymbolId := ⟨.ofNatClamp index⟩

/-- The index that an id stands for. -/
def SymbolId.index (id : SymbolId) : Nat := id.word.toNat

/-- Files are known by their indices. -/
abbrev FileId := UInt32

/-! ## The arena -/

/-- What a symbol stands for. -/
inductive SymbolKind where
  /-- A structure, with the scope of its body. -/
  | struct (body : ScopeId)
  /-- A name for a type. -/
  | alias
  deriving DecidableEq, Repr, Inhabited

/-- A defined type. -/
structure Symbol where
  name : Identifier
  file : FileId
  /-- The scope of the definition, in which its bases or its type are meant. -/
  scope : ScopeId
  /-- The statement that defines it. -/
  statement : Statement WrittenType
  kind : SymbolKind
  deriving Inhabited

namespace Symbol

/-- The id of the statement that defines it. -/
def statementId (s : Symbol) : ElementId := s.statement.id

/-- Everyone may use the type. -/
def isPublic (s : Symbol) : Bool := s.name.visibility == .isPublic

/-- The scope of its body, if it is a structure. -/
def body? (s : Symbol) : Option ScopeId :=
  match s.kind with
  | .struct body => some body
  | .alias => none

end Symbol

/-- A name that an include binds. -/
structure Binding where
  symbol : SymbolId
  /-- What bound the name. -/
  range : Range
  deriving Inhabited

/-- What is defined in the root of a file or in the body of a structure. -/
structure Scope where
  /-- The scope around it. -/
  parent : Option ScopeId
  types : Dictionary String SymbolId
  fields : Dictionary String (Statement WrittenType)
  /-- What includes bind, at the root of a file. -/
  imports : Dictionary String Binding
  deriving Inhabited

/-- A scope in which nothing is defined. -/
def Scope.within (parent : Option ScopeId) : Scope := ⟨parent, .empty, .empty, .empty⟩

/-- What is known about a file as a whole. -/
structure FileEntry where
  path : Path
  /-- The scope of its root, if it has one. -/
  root : Option ScopeId
  /-- Why it has none. -/
  failure : Option Diagnostic
  deriving Inhabited

end Arena

/-- All scopes and symbols. -/
structure Arena where
  files : Array Arena.FileEntry
  scopes : Array Arena.Scope
  symbols : Array Arena.Symbol
  byPath : PathMap Arena.FileId
  byStatement : Arena.Dictionary ElementId Arena.SymbolId
  /-- The first failure of an include of each file. -/
  includeFaults : Arena.Dictionary Arena.FileId Diagnostic
  deriving Inhabited

namespace Arena

/-- The arena without files. -/
def empty : Arena := ⟨#[], #[], #[], .empty, .empty, .empty⟩

/-- The scope with an id. No id of an arena leads behind the end, where the default stands in. -/
def scope (a : Arena) (id : ScopeId) : Scope := a.scopes[id.index]?.getD default

/-- The symbol with an id. -/
def symbol (a : Arena) (id : SymbolId) : Symbol := a.symbols[id.index]?.getD default

/-! ## Declaring -/

/-- A new scope, in which nothing is defined (`add_scope`). -/
def addScope (a : Arena) (parent : Option ScopeId) : ScopeId × Arena :=
  (.ofIndex a.scopes.size, { a with scopes := a.scopes.push (.within parent) })

/-- A new symbol, found by the id of its statement (`add_symbol`), and by its name in its scope. -/
def addSymbol (a : Arena) (s : Symbol) : Arena :=
  let id := SymbolId.ofIndex a.symbols.size
  { a with
    symbols := a.symbols.push s
    byStatement := a.byStatement.insert s.statementId id
    scopes := a.scopes.modify s.scope.index fun sc =>
      { sc with types := sc.types.insert s.name.name id } }

/-- A new field of a scope. -/
def addField (a : Arena) (scope : ScopeId) (name : Identifier) (field : Statement WrittenType) :
    Arena :=
  { a with scopes := a.scopes.modify scope.index fun sc =>
      { sc with fields := sc.fields.insert name.name field } }

mutual

/-- Declares what a statement of a scope defines. -/
def declareStatement (file : FileId) (scope : ScopeId) (a : Arena) : Statement WrittenType → Arena
  | .struct id range name bases metadata children =>
    let (body, a) := a.addScope (some scope)
    let a := a.addSymbol
      ⟨name, file, scope, .struct id range name bases metadata children, .struct body⟩
    declareStatements file body a children
  | .item id range name type =>
    if name.isType then a.addSymbol ⟨name, file, scope, .item id range name type, .alias⟩
    else a.addField scope name (.item id range name type)
  | .extension .. | .inclusion .. => a

/-- Declares what the statements of a scope define, in order (`declare`). -/
def declareStatements (file : FileId) (scope : ScopeId) (a : Arena) :
    List (Statement WrittenType) → Arena
  | [] => a
  | s :: rest => declareStatements file scope (declareStatement file scope a s) rest

end

/-- A file is found by a path. -/
def addPath (a : Arena) (path : Path) (file : FileId) : Arena :=
  { a with byPath := a.byPath.insert path file }

/-- What is known about the next file as a whole. -/
def addFile (a : Arena) (entry : FileEntry) : Arena := { a with files := a.files.push entry }

/-- Declares a file and what it defines. -/
def declareFile (a : Arena) (index : Nat) (f : ParsedFile) : Arena :=
  let file := UInt32.ofNatClamp index
  let a := a.addPath f.path file
  match f.root with
  | .ok root =>
    let (scope, a) := a.addScope none
    (declareStatements file scope a root.statements).addFile ⟨f.path, some scope, none⟩
  | .error d => a.addFile ⟨f.path, none, some d⟩

/-- Declares files in order, the first of them with the given index. -/
def declareFiles (a : Arena) (first : Nat) : List ParsedFile → Arena
  | [] => a
  | f :: rest => declareFiles (a.declareFile first f) (first + 1) rest

/-! ## Binding -/

/-- The root of the file that an include means, which has to be known and to have one. -/
def includedScope (a : Arena) (i : Inclusion) : Except Diagnostic ScopeId :=
  match a.byPath.get? i.target with
  | none => .error (.located i.filenameRange (.includeFileNotFound i.target))
  | some target =>
    let entry := a.files[target.toNat]?.getD default
    match entry.root with
    | some root => .ok root
    | none =>
      let failed := Diagnostic.located i.filenameRange (.includedFileFailed i.target)
      match entry.failure with
      | some failure => .error (failed.withContext failure.primary)
      | none => .error failed

/-- The names that an include of everything binds: the public types of a scope, ordered by name. -/
def starBindings (a : Arena) (target : ScopeId) (i : Inclusion) : List (String × Binding) :=
  let types := (a.scope target).types.entries.filter fun (_, s) => (a.symbol s).isPublic
  (types.mergeSort fun x y => decide (x.1 ≤ y.1)).map fun (name, s) => (name, ⟨s, i.filenameRange⟩)

/-- The name that one element of an include binds. -/
def itemBinding (a : Arena) (target : ScopeId) (item : IncludeItem) :
    Except Diagnostic (String × Binding) :=
  let name := item.element.name
  match (a.scope target).types.get? name with
  | none =>
    if item.element.isExpression || ((a.scope target).fields.get? name).isSome then
      .error (.located item.element.range (.importedElementNotAType name))
    else .error (.located item.element.range (.unknownType name))
  | some s =>
    if (a.symbol s).isPublic then .ok (item.reference.name, ⟨s, item.reference.range⟩)
    else .error (.located item.element.range (.importedElementNotPublic name))

/-- The names that an include binds: with everything, first those of all public types; and then those
of its elements. -/
def includeBindings (a : Arena) (i : Inclusion) : Except Diagnostic (List (String × Binding)) := do
  let target ← a.includedScope i
  let everything := if i.isStar then a.starBindings target i else []
  let items ← i.items.mapM (a.itemBinding target)
  return everything ++ items

/-- Where a name of a root scope was defined or bound first (`first_binding`), if it is something else
than the given symbol. -/
def firstBinding? (a : Arena) (root : ScopeId) (name : String) (symbol : SymbolId) : Option Range :=
  match (a.scope root).types.get? name with
  | some own => if own = symbol then none else some (a.symbol own).name.range
  | none => (((a.scope root).imports.get? name).filter (·.symbol ≠ symbol)).map (·.range)

/-- Binds a name in a root scope, unless it is bound there. -/
def addImport (a : Arena) (root : ScopeId) (name : String) (b : Binding) : Arena :=
  { a with scopes := a.scopes.modify root.index fun sc =>
      { sc with imports := sc.imports.insertNew name b } }

/-- Binds names in a root scope, up to the first that has another meaning there. -/
def addBindings (a : Arena) (root : ScopeId) :
    List (String × Binding) → Arena × Option Diagnostic
  | [] => (a, none)
  | (name, b) :: rest =>
    match a.firstBinding? root name b.symbol with
    | some first => (a, some ⟨.duplicateName name, first, [b.range]⟩)
    | none => (a.addImport root name b).addBindings root rest

/-- Binds an include of a file in its root scope (`bind_include`). -/
def bindInclude (a : Arena) (file : FileId) (i : Inclusion) : Arena × Option Diagnostic :=
  match a.includeBindings i with
  | .error d => (a, some d)
  | .ok bindings =>
    match (a.files[file.toNat]?.getD default).root with
    | none => (a, none)
    | some root => a.addBindings root bindings

/-- Binds the includes of a file in order, up to the first that fails. -/
def bindIncludes (a : Arena) (file : FileId) : List Inclusion → Arena
  | [] => a
  | i :: rest =>
    match a.bindInclude file i with
    | (a, none) => a.bindIncludes file rest
    | (a, some d) => { a with includeFaults := a.includeFaults.insertNew file d }

/-- Binds the includes of a file that has a root. -/
def bindFile (a : Arena) (index : Nat) (f : ParsedFile) : Arena :=
  match f.root with
  | .ok root => a.bindIncludes (.ofNatClamp index) root.inclusions
  | .error _ => a

/-- Binds the includes of files in order, the first of which has the given index. -/
def bindFiles (a : Arena) (first : Nat) : List ParsedFile → Arena
  | [] => a
  | f :: rest => bindFiles (a.bindFile first f) (first + 1) rest

/-- The arena of the given files (`build`). -/
def ofFiles (files : List ParsedFile) : Arena :=
  (empty.declareFiles 0 files).bindFiles 0 files

/-! ## Looking up -/

/-- The scope of the root of a file (`root_scope`). -/
def rootScope? (a : Arena) (file : FileId) : Option ScopeId :=
  a.files[file.toNat]?.bind (·.root)

/-- The first failure of an include of a file (`include_error`). -/
def includeFault? (a : Arena) (file : FileId) : Option Diagnostic := a.includeFaults.get? file

/-- The symbol that the statement with an id defines (`symbol_of`). -/
def symbolOf? (a : Arena) (id : ElementId) : Option SymbolId := a.byStatement.get? id

/-- The type that a name means in a scope (`lookup_type`), looked up outwards; a root also has what
its includes bind. The scope around another one stands before it, so that the search ends. -/
def lookupType? (a : Arena) (id : ScopeId) (name : String) : Option SymbolId :=
  match (a.scope id).types.get? name with
  | some s => some s
  | none =>
    match (a.scope id).parent with
    | none => ((a.scope id).imports.get? name).map (·.symbol)
    | some parent => if parent.index < id.index then a.lookupType? parent name else none
termination_by id.index

/-- The type of a name that a structure defines (`member_type`). -/
def memberType? (a : Arena) (s : SymbolId) (name : String) : Option SymbolId :=
  (a.symbol s).body?.bind fun body => (a.scope body).types.get? name

/-- The field of a name that a structure defines (`member_field`), with the scope in which its type is
meant. -/
def memberField? (a : Arena) (s : SymbolId) (name : String) :
    Option (Statement WrittenType × ScopeId) :=
  (a.symbol s).body?.bind fun body =>
    ((a.scope body).fields.get? name).map fun field => (field, body)

/-- The public types of a name at the roots of all files but one, in the order of the files
(`global_candidates`). -/
def globalCandidates (a : Arena) (excluded : FileId) (name : String) : List SymbolId :=
  ((List.range a.files.size).filter (· ≠ excluded.toNat)).filterMap fun file =>
    ((a.files[file]?.bind (·.root)).bind fun root => (a.scope root).types.get? name).filter
      fun s => (a.symbol s).isPublic

end Arena
end Schemata
