import Schemata.Table

/-!
# Includes

An include binds names at the root of its file to public types of another file. A name may be bound
again to the definition that it already has, but to no other one. The includes of a file are bound
one after the other until one fails.

The parts of `bind_include` are told apart here: the file that is meant, the names that it offers,
and the bindings that are made. `Schemata.Arena` has them on the arena itself.
-/
namespace Schemata
namespace Table

/-- The file of a path; should several have it, the last one counts. -/
def fileAt? (t : Table) (path : Path) : Option Nat :=
  ((t.files.zipIdx.filter fun (f, _) => f.path == path).map (·.2)).getLast?

/-- The definitions of a scope, in order. -/
def definitionsIn (t : Table) (scope : Address) : List Definition :=
  (t.statementsIn scope).zipIdx.filterMap fun (s, index) =>
    Definition.ofStatement? (scope.child index) s

/-- The file that an include means, which has to be known and to have a root. A failed one is
reported with the place of its failure. -/
def includedFile (t : Table) (i : Inclusion) : Except Diagnostic Nat :=
  match t.fileAt? i.target with
  | none => .error (.located i.filenameRange (.includeFileNotFound i.target))
  | some file =>
    let failed := Diagnostic.located i.filenameRange (.includedFileFailed i.target)
    match t.files[file]? with
    | some f => match f.root with
      | .ok _ => .ok file
      | .error failure => .error (failed.withContext failure.primary)
    | none => .error failed

/-- The names that an include of everything binds: all public types of the file, ordered by name. -/
def starBindings (t : Table) (file : Nat) (i : Inclusion) : List Import :=
  let definitions := (t.definitionsIn ⟨file, []⟩).filter Definition.isPublic
  (definitions.mergeSort fun a b => decide (a.name.name ≤ b.name.name)).map fun d =>
    ⟨d.name.name, d.address, i.filenameRange⟩

/-- The name that one element of an include binds. The element has to be a public type. -/
def itemBinding (t : Table) (file : Nat) (item : IncludeItem) : Except Diagnostic Import :=
  let name := item.element.name
  match t.typeIn? ⟨file, []⟩ name with
  | some d =>
    if d.isPublic then .ok ⟨item.reference.name, d.address, item.reference.range⟩
    else .error (.located item.element.range (.importedElementNotPublic name))
  | none =>
    if item.element.isExpression || (t.fieldIn? ⟨file, []⟩ name).isSome then
      .error (.located item.element.range (.importedElementNotAType name))
    else .error (.located item.element.range (.unknownType name))

/-- The names that an include binds. -/
def includeBindings (t : Table) (i : Inclusion) : Except Diagnostic (List Import) := do
  let file ← t.includedFile i
  if i.isStar then return t.starBindings file i else i.items.mapM (t.itemBinding file)

/-- Where a name of a file already means something else (`first_binding`): its own type of the name,
or an earlier binding of it. -/
def clash? (t : Table) (file : Nat) (bound : List Import) (i : Import) : Option Range :=
  match t.typeIn? ⟨file, []⟩ i.name with
  | some own => if own.address = i.target then none else some own.name.range
  | none => ((bound.find? (·.name == i.name)).filter (·.target != i.target)).map (·.range)

/-- Adds bindings to the ones of a file, up to the first that clashes, as the loop at the end of
`bind_include` does. -/
def addBindings (t : Table) (file : Nat) (bound : List Import) :
    List Import → List Import × Option Diagnostic
  | [] => (bound, none)
  | i :: rest =>
    match t.clash? file bound i with
    | some first => (bound, some ⟨.duplicateName i.name, first, [i.range]⟩)
    | none =>
      let bound := if bound.any (·.name == i.name) then bound else bound ++ [i]
      t.addBindings file bound rest

/-- Binds an include of a file (`bind_include`); what was bound before a clash stays bound. -/
def bindInclude (t : Table) (file : Nat) (bound : List Import) (i : Inclusion) :
    List Import × Option Diagnostic :=
  match t.includeBindings i with
  | .ok bindings => t.addBindings file bound bindings
  | .error d => (bound, some d)

/-- Binds the includes of a file in order, up to the first that fails. -/
def bindIncludes (t : Table) (file : Nat) (bound : List Import) :
    List Inclusion → List Import × Option Diagnostic
  | [] => (bound, none)
  | i :: rest =>
    match t.bindInclude file bound i with
    | (bound, none) => t.bindIncludes file bound rest
    | (bound, some d) => (bound, some d)

/-- A file whose includes are bound. -/
def bindFile (t : Table) (file : Nat) (f : TableFile) : TableFile :=
  match f.root with
  | .ok root =>
    let (imports, fault) := t.bindIncludes file [] root.inclusions
    { f with imports := imports, includeFault := fault }
  | .error _ => f

/-- The table of the given files before any include is bound. -/
def declare (files : List ParsedFile) : Table :=
  ⟨files.map fun f => ⟨f.path, f.root, [], none⟩⟩

/-- The table of the given files (`build`). -/
def ofFiles (files : List ParsedFile) : Table :=
  let declared := declare files
  ⟨declared.files.zipIdx.map fun (f, file) => declared.bindFile file f⟩

/-- The first failure of an include of a file (`include_error`). -/
def includeFault? (t : Table) (file : Nat) : Option Diagnostic :=
  t.files[file]?.bind (·.includeFault)

end Table
end Schemata
