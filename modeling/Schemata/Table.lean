import Schemata.Statement

/-!
# The symbol table

The table holds every parsed file and says what a name means in a scope. Scopes and definitions are
addresses in the trees: the file and the way from its root to a structure. An address keeps the
innermost step first, so that the enclosing scope is its tail.

Results: `Table.statementAt?_mem` (what an address leads to is a statement of the table).
-/
namespace Schemata

/-- A parsed file: its path, and its root or why it has none. -/
structure ParsedFile where
  path : Path
  /-- The root, or why there is none. -/
  root : Except Diagnostic (Root WrittenType)
  deriving Inhabited

/-- An address in the files of a table: positions among statements, innermost first. As a scope, it
leads to a root or to the structure whose body is meant. -/
structure Address where
  /-- The index of the file. -/
  file : Nat
  /-- The positions, innermost first. -/
  path : List Nat
  deriving DecidableEq, Repr, Inhabited

/-- The address of the statement at a position of a scope. -/
def Address.child (scope : Address) (index : Nat) : Address := ⟨scope.file, index :: scope.path⟩

/-- The scope in which a definition stands. -/
def Address.scope (a : Address) : Address := ⟨a.file, a.path.tail⟩

/-- What a definition defines. -/
inductive DefinitionKind where
  | struct (bases : List WrittenType)
  /-- A name for a type. -/
  | alias (type : WrittenType)
  deriving Inhabited

/-- A definition of a type. -/
structure Definition where
  /-- Its address; as a scope, this is the body of a structure. -/
  address : Address
  /-- The id of its statement. -/
  id : ElementId
  name : Identifier
  kind : DefinitionKind
  deriving Inhabited

/-- The definition that a statement makes. -/
def Definition.ofStatement? (address : Address) : Statement WrittenType → Option Definition
  | .item id _ name type => if name.isType then some ⟨address, id, name, .alias type⟩ else none
  | .struct id _ name bases _ _ => some ⟨address, id, name, .struct bases⟩
  | _ => none

namespace Definition

/-- Everyone may use the definition. -/
def isPublic (d : Definition) : Bool := d.name.visibility == .isPublic

/-- The definition is that of a structure. -/
def isStruct (d : Definition) : Bool :=
  match d.kind with
  | .struct _ => true
  | .alias _ => false

end Definition

/-- A field of a structure or a file. -/
structure Field where
  /-- The scope of the field, in which its type is meant. -/
  scope : Address
  /-- The id of its statement. -/
  id : ElementId
  /-- Where its statement stands. -/
  range : Range
  name : Identifier
  type : WrittenType
  deriving Inhabited

/-- The field that a statement makes. -/
def Field.ofStatement? (scope : Address) : Statement WrittenType → Option Field
  | .item id range name type =>
    if name.isExpression then some ⟨scope, id, range, name, type⟩ else none
  | _ => none

/-- A name that an include gives to a definition. -/
structure Import where
  /-- The name, without markers. -/
  name : String
  /-- The definition. -/
  target : Address
  /-- What bound the name. -/
  range : Range
  deriving Inhabited

/-- A file of the table. -/
structure TableFile where
  path : Path
  /-- The root, or why there is none. -/
  root : Except Diagnostic (Root WrittenType)
  /-- The names that includes bind at the root. -/
  imports : List Import
  /-- The first failure of an include. -/
  includeFault : Option Diagnostic
  deriving Inhabited

/-- What is known about all files. -/
structure Table where
  files : List TableFile
  deriving Inhabited

namespace Table

/-- The statements of a file that has a root. -/
def rootStatements (t : Table) (file : Nat) : List (Statement WrittenType) :=
  match t.files[file]? with
  | some f => match f.root with
    | .ok root => root.statements
    | .error _ => []
  | none => []

/-- The statements in the body that a path leads to. -/
def bodyAt (t : Table) (file : Nat) : List Nat → List (Statement WrittenType)
  | [] => t.rootStatements file
  | index :: outer =>
    match (t.bodyAt file outer)[index]? with
    | some (.struct _ _ _ _ _ children) => children
    | _ => []

/-- The statements of a scope. -/
def statementsIn (t : Table) (scope : Address) : List (Statement WrittenType) :=
  t.bodyAt scope.file scope.path

/-- The statement at an address. -/
def statementAt? (t : Table) (a : Address) : Option (Statement WrittenType) :=
  match a.path with
  | [] => none
  | index :: _ => (t.statementsIn a.scope)[index]?

/-- The definition at an address. -/
def definitionAt? (t : Table) (a : Address) : Option Definition :=
  (t.statementAt? a).bind (Definition.ofStatement? a)

/-- The position of the type definition of the given name in a scope. -/
def typeIndex? (t : Table) (scope : Address) (name : String) : Option Nat :=
  (t.statementsIn scope).findIdx? fun s => s.definesType && s.definedName?.any (·.name == name)

/-- The type of the given name that a scope itself defines. -/
def typeIn? (t : Table) (scope : Address) (name : String) : Option Definition :=
  (t.typeIndex? scope name).bind fun index => t.definitionAt? (scope.child index)

/-- The field of the given name that a scope itself defines. -/
def fieldIn? (t : Table) (scope : Address) (name : String) : Option Field :=
  ((t.statementsIn scope).find? fun s => s.isField && s.definedName?.any (·.name == name)).bind
    (Field.ofStatement? scope)

/-- The names that includes bind at the root of a file. -/
def importsOf (t : Table) (file : Nat) : List Import :=
  match t.files[file]? with
  | some f => f.imports
  | none => []

/-- The definition that an include binds to a name at the root of a file. -/
def imported? (t : Table) (file : Nat) (name : String) : Option Definition :=
  ((t.importsOf file).find? (·.name == name)).bind fun i => t.definitionAt? i.target

/-- What a name means in the body that a path leads to: what the innermost body around it defines,
else what the root of the file defines, else what an include binds there. -/
def lookupFrom (t : Table) (file : Nat) (name : String) : List Nat → Option Definition
  | [] => t.typeIn? ⟨file, []⟩ name <|> t.imported? file name
  | index :: outer => t.typeIn? ⟨file, index :: outer⟩ name <|> t.lookupFrom file name outer

/-- What a name means in a scope. -/
def lookup? (t : Table) (scope : Address) (name : String) : Option Definition :=
  t.lookupFrom scope.file name scope.path

/-- The type of the given name that a structure defines. -/
def memberType? (t : Table) (d : Definition) (name : String) : Option Definition :=
  if d.isStruct then t.typeIn? d.address name else none

/-- The field of the given name that a structure defines. -/
def memberField? (t : Table) (d : Definition) (name : String) : Option Field :=
  if d.isStruct then t.fieldIn? d.address name else none

/-- A file has a root. -/
def hasRoot (t : Table) (file : Nat) : Bool :=
  match t.files[file]? with
  | some f => f.root.isOk
  | none => false

/-- The definition that a dotted name leads to from the root of a file: the first name is looked up,
and every other one is a member of the structure before it. -/
def definitionNamed? (t : Table) (file : Nat) : List String → Option Definition
  | [] => none
  | name :: rest =>
    rest.foldl (fun d member => d.bind (t.memberType? · member)) (t.lookup? ⟨file, []⟩ name)

/-- The scope that a dotted name leads to: the root of the file for the empty name, and else the
body of the structure of that name. -/
def scopeNamed? (t : Table) (file : Nat) (names : List String) : Option Address :=
  if !t.hasRoot file then none
  else if names.isEmpty then some ⟨file, []⟩
  else ((t.definitionNamed? file names).filter Definition.isStruct).map (·.address)

/-- The public definitions of a name at the roots of all files but one, in their order. -/
def globalCandidates (t : Table) (excluded : Nat) (name : String) : List Definition :=
  ((List.range t.files.length).filter (· != excluded)).filterMap fun file =>
    (t.typeIn? ⟨file, []⟩ name).filter Definition.isPublic

/-! ## All statements -/

mutual

/-- The statements in a statement with their addresses, itself included, in the order of reading. -/
def addressed (a : Address) : Statement WrittenType → List (Address × Statement WrittenType)
  | .struct id range name bases metadata children =>
    (a, .struct id range name bases metadata children) :: addressedIn a 0 children
  | s => [(a, s)]

/-- The statements of a scope from a position on, and those in them, with their addresses. -/
def addressedIn (scope : Address) (index : Nat) :
    List (Statement WrittenType) → List (Address × Statement WrittenType)
  | [] => []
  | s :: ss => addressed (scope.child index) s ++ addressedIn scope (index + 1) ss

end

/-- All statements of the table with their addresses, file by file in the order of reading. -/
def allStatements (t : Table) : List (Address × Statement WrittenType) :=
  (List.range t.files.length).flatMap fun file => addressedIn ⟨file, []⟩ 0 (t.rootStatements file)

/-- The definition that the statement with the given id makes; should several files share an
ordinal, the last one counts. -/
def definitionOf? (t : Table) (id : ElementId) : Option Definition :=
  ((t.allStatements.filterMap fun (a, s) => Definition.ofStatement? a s).filter
    (·.id = id)).getLast?

/-- The ids of all fields and aliases. -/
def itemIds (t : Table) : List ElementId :=
  t.allStatements.filterMap fun
    | (_, .item id ..) => some id
    | _ => none

/-- The ids of all structures. -/
def structIds (t : Table) : List ElementId :=
  t.allStatements.filterMap fun
    | (_, .struct id ..) => some id
    | _ => none

theorem mem_addressed_self (a : Address) (s : Statement WrittenType) : (a, s) ∈ addressed a s := by
  cases s <;> simp [addressed]

theorem addressed_subset (scope : Address) {index : Nat} {ss : List (Statement WrittenType)}
    {s : Statement WrittenType} (h : ss[index]? = some s) (first : Nat) :
    ∀ x ∈ addressed (scope.child (first + index)) s, x ∈ addressedIn scope first ss := by
  induction ss generalizing index first with
  | nil => simp at h
  | cons t ss ih =>
    intro x hx
    rw [addressedIn, List.mem_append]
    cases index with
    | zero =>
      simp only [List.getElem?_cons_zero, Option.some.injEq] at h
      subst h
      exact .inl hx
    | succ index =>
      rw [List.getElem?_cons_succ] at h
      refine .inr (ih h (first + 1) x ?_)
      rwa [show first + 1 + index = first + (index + 1) by omega]

theorem addressedIn_bodyAt_subset (t : Table) (file : Nat) (path : List Nat) :
    ∀ x ∈ addressedIn ⟨file, path⟩ 0 (t.bodyAt file path), x ∈ t.allStatements := by
  induction path with
  | nil =>
    intro x hx
    simp only [allStatements, List.mem_flatMap, List.mem_range]
    refine ⟨file, ?_, hx⟩
    simp only [bodyAt, rootStatements] at hx
    split at hx
    · rename_i heq
      exact (List.getElem?_eq_some_iff.1 heq).1
    · simp [addressedIn] at hx
  | cons index outer ih =>
    intro x hx
    rw [bodyAt] at hx
    split at hx
    · rename_i heq
      apply ih
      have := addressed_subset ⟨file, outer⟩ heq 0 x
      rw [Nat.zero_add] at this
      apply this
      rw [addressed]
      exact List.mem_cons_of_mem _ hx
    · simp [addressedIn] at hx

/-- What an address leads to is a statement of the table. -/
theorem statementAt?_mem {t : Table} {a : Address} {s : Statement WrittenType}
    (h : t.statementAt? a = some s) : (a, s) ∈ t.allStatements := by
  obtain ⟨file, path⟩ := a
  cases path with
  | nil => simp [statementAt?] at h
  | cons index outer =>
    apply addressedIn_bodyAt_subset t file outer
    have := addressed_subset (s := s) ⟨file, outer⟩ h 0
    rw [Nat.zero_add] at this
    exact this _ (mem_addressed_self _ _)

end Table
end Schemata
