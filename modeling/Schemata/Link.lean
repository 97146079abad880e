import Schemata.LinkedType
import Schemata.Trail
import Schemata.Table.Resolve

/-!
# Linking

Linking settles the references of a file against the table. A reference to a structure becomes a
handle on it; one to an alias takes the linked type of the alias along; one to a field becomes the
linked type of the field. Each alias and field that is entered on the way is put on a trail, so that
a cycle is found and linking ends. Aliases that have been linked once are remembered, and so are
structures below which no cycle of bases was found.

A failure below an alias or a field is passed on with the reference that led there.

Names in code font are those of the functions that a definition embeds. They are methods of a
`Lowerer`, which has the stacks that are trails here and the memory that is passed on here.

Results: `inContext_cause` (the context of a failure leaves its cause),
`LinkedType.occurrence_inPlaceOf` (what a type in the place of a reference takes from it).
-/
namespace Schemata

/-- What is remembered from one statement to the next. -/
structure LinkMemory where
  /-- Linked types of aliases. -/
  aliases : List (Address × LinkedType)
  /-- Structures from which no cycle of bases is reached. -/
  acyclic : List Address
  deriving Inhabited

/-- Nothing has been linked. -/
def LinkMemory.empty : LinkMemory := ⟨[], []⟩

/-- A result with what is remembered after it. -/
abbrev Linked (α : Type) := Except Diagnostic α × LinkMemory

/-- A failure below a reference, with the reference as context (`in_context`). Cycles stand for
themselves, and a range that is already there is not repeated. -/
def inContext (d : Diagnostic) (range : Range) : Diagnostic :=
  match d.cause with
  | .circularTypeReference _ => d
  | _ => if d.ranges.any (· == range) then d else d.withContext range

theorem inContext_cause (d : Diagnostic) (range : Range) : (inContext d range).cause = d.cause := by
  unfold inContext
  split
  · rfl
  · split <;> rfl

/-- The type of a field in the place of a reference: it takes the identity, the range and the
cardinality of the reference, and its metadata if there is any. -/
def LinkedType.inPlaceOf (t : LinkedType) (o : Occurrence) : LinkedType :=
  t.withOccurrence { o with metadata := o.metadata <|> t.occurrence.metadata }

theorem LinkedType.occurrence_inPlaceOf (t : LinkedType) (o : Occurrence) :
    (t.inPlaceOf o).occurrence = { o with metadata := o.metadata <|> t.occurrence.metadata } := by
  cases t <;> rfl

namespace Table

mutual

/-- Links a type that stands in a scope (`lower_type`). -/
def linkType (t : Table) (reader : Nat) (trail : Trail t.itemIds) (memory : LinkMemory)
    (scope : Address) (type : WrittenType) : Linked LinkedType :=
  match type with
  | .fundamental o f => (.ok (.fundamental o f), memory)
  | .tuple o members =>
    match t.linkTypes reader trail memory scope members with
    | (.ok members, memory) => (.ok (.tuple o members), memory)
    | (.error d, memory) => (.error d, memory)
  | .variant o members =>
    match t.linkTypes reader trail memory scope members with
    | (.ok members, memory) =>
      match checkMembers o.range true (members.map fun m => (m.occurrence.range, m.isVariant)) with
      | .ok () => (.ok (.variant o members), memory)
      | .error d => (.error d, memory)
    | (.error d, memory) => (.error d, memory)
  | .reference o r =>
    match h : t.resolve reader r o.range scope with
    | .error d => (.error d, memory)
    | .ok (.definition d) =>
      match hk : d.kind with
      | .struct _ => (.ok (.struct o d.id d.name), memory)
      | .alias aliased =>
        match t.linkAlias reader trail memory d aliased
            ((holdsTarget_of_resolve h : t.Holds d).id_mem_itemIds hk) o.range with
        | (.ok aliased, memory) => (.ok (.alias o d.name aliased), memory)
        | (.error d, memory) => (.error d, memory)
    | .ok (.field f) =>
      if hf : f.id ∈ trail.stepIds then (.error (trail.cycle f.id f.name o.range), memory)
      else
        match t.linkType reader (trail.push ⟨f.id, o.range⟩ hf (holdsTarget_of_resolve h)) memory
            f.scope f.type with
        | (.ok linked, memory) => (.ok (linked.inPlaceOf o), memory)
        | (.error d, memory) => (.error (inContext d o.range), memory)
termination_by (trail.remaining, sizeOf type)
decreasing_by
  all_goals first
    | exact Prod.Lex.left _ _ (trail.remaining_push_lt _ _ _)
    | decreasing_tactic

/-- Links types that stand in a scope, in order (`lower_members`). -/
def linkTypes (t : Table) (reader : Nat) (trail : Trail t.itemIds) (memory : LinkMemory)
    (scope : Address) (types : List WrittenType) : Linked (List LinkedType) :=
  match types with
  | [] => (.ok [], memory)
  | type :: rest =>
    match t.linkType reader trail memory scope type with
    | (.ok first, memory) =>
      match t.linkTypes reader trail memory scope rest with
      | (.ok rest, memory) => (.ok (first :: rest), memory)
      | (.error d, memory) => (.error d, memory)
    | (.error d, memory) => (.error d, memory)
termination_by (trail.remaining, sizeOf types)

/-- The linked type of an alias, linked where the alias is defined (`alias_definition`). -/
def linkAlias (t : Table) (reader : Nat) (trail : Trail t.itemIds) (memory : LinkMemory)
    (d : Definition) (aliased : WrittenType) (known : d.id ∈ t.itemIds) (via : Range) :
    Linked LinkedType :=
  match memory.aliases.find? (·.1 = d.address) with
  | some (_, linked) => (.ok linked, memory)
  | none =>
    if h : d.id ∈ trail.stepIds then (.error (trail.cycle d.id d.name via), memory)
    else
      match t.linkType reader (trail.push ⟨d.id, via⟩ h known) memory d.address.scope aliased with
      | (.ok linked, memory) =>
        (.ok linked, { memory with aliases := (d.address, linked) :: memory.aliases })
      | (.error e, memory) => (.error (inContext e via), memory)
termination_by (trail.remaining, 0)
decreasing_by
  exact Prod.Lex.left _ _ (trail.remaining_push_lt _ _ _)

end

/-! ## Bases -/

/-- A structure has no base, or one that is a fundamental type or a structure, or several that are
structures. -/
def goTogether : List LinkedType → Bool
  | [] => true
  | [base] => base.isFundamental || base.structure?.isSome
  | bases => bases.all (·.structure?.isSome)

/-- Refuses bases that do not go together (`check_base_combination`). -/
def checkBaseCombination (name : Identifier) (bases : List LinkedType) : Except Diagnostic Unit :=
  if goTogether bases then .ok ()
  else .error ⟨.invalidBaseTypeCombination name.name, name.range, bases.map (·.occurrence.range)⟩

mutual

/-- Follows the bases of a structure, depth first, and refuses a cycle (`check_base_cycles`). -/
def checkBaseCycles (t : Table) (reader : Nat) (trail : Trail t.structIds) (memory : LinkMemory)
    (d : Definition) (held : t.Holds d) (via : Range) : Linked Unit :=
  if memory.acyclic.contains d.address then (.ok (), memory)
  else
    match hk : d.kind with
    | .alias _ => (.ok (), memory)
    | .struct bases =>
      if h : d.id ∈ trail.stepIds then (.error (trail.cycle d.id d.name via), memory)
      else
        match t.checkBasesOf reader (trail.push ⟨d.id, via⟩ h (held.id_mem_structIds hk)) memory
            d.address.scope bases with
        | (.ok (), memory) => (.ok (), { memory with acyclic := d.address :: memory.acyclic })
        | (.error e, memory) => (.error e, memory)
termination_by (trail.remaining, 0)
decreasing_by
  exact Prod.Lex.left _ _ (trail.remaining_push_lt _ _ _)

/-- Follows the given bases in order (`check_bases_of`). -/
def checkBasesOf (t : Table) (reader : Nat) (trail : Trail t.structIds) (memory : LinkMemory)
    (scope : Address) (bases : List WrittenType) : Linked Unit :=
  match bases with
  | [] => (.ok (), memory)
  | base :: rest =>
    match t.linkType reader .empty memory scope base with
    | (.error d, memory) => (.error d, memory)
    | (.ok linked, memory) =>
      match h : linked.structure?.bind fun s => t.definitionOf? s.1 with
      | none => t.checkBasesOf reader trail memory scope rest
      | some d =>
        have held : t.Holds d := by
          obtain ⟨_, _, hd⟩ := Option.bind_eq_some_iff.1 h
          exact holds_of_definitionOf? hd
        match t.checkBaseCycles reader trail memory d held base.occurrence.range with
        | (.ok (), memory) => t.checkBasesOf reader trail memory scope rest
        | (.error e, memory) => (.error e, memory)
termination_by (trail.remaining, bases.length + 1)

end

/-! ## Files -/

/-- The linked type that the definition with the id stands for, which has to be an alias. -/
def linkDefinition (t : Table) (reader : Nat) (memory : LinkMemory) (d : Definition)
    (held : t.Holds d) (via : Range) : Linked LinkedType :=
  match hk : d.kind with
  | .alias aliased =>
    t.linkAlias reader .empty memory d aliased (held.id_mem_itemIds hk) via
  | .struct _ => (.error (unknownName d.name), memory)

/-- Links the type of an item. An alias is linked as what the table has for its id. -/
def linkItem (t : Table) (reader : Nat) (memory : LinkMemory) (scope : Address) (id : ElementId)
    (name : Identifier) (type : WrittenType) : Linked LinkedType :=
  match h : t.definitionOf? id, name.isType with
  | some d, true => t.linkDefinition reader memory d (holds_of_definitionOf? h) name.range
  | _, _ => t.linkType reader .empty memory scope type

/-- Links the bases of a structure and checks them. -/
def linkBases (t : Table) (reader : Nat) (memory : LinkMemory) (scope : Address) (d : Definition)
    (held : t.Holds d) (name : Identifier) (bases : List WrittenType) :
    Linked (List LinkedType) :=
  match t.linkTypes reader .empty memory scope bases with
  | (.error e, memory) => (.error e, memory)
  | (.ok linked, memory) =>
    match checkBaseCombination name linked with
    | .error e => (.error e, memory)
    | .ok () =>
      match t.checkBaseCycles reader .empty memory d held name.range with
      | (.ok (), memory) => (.ok linked, memory)
      | (.error e, memory) => (.error e, memory)

mutual

/-- Links a statement that stands in a scope (`lower_statement`). The body of a structure is the one
that the table has for its id. -/
def linkStatement (t : Table) (reader : Nat) (memory : LinkMemory) (scope : Address) :
    Statement WrittenType → Linked (Statement LinkedType)
  | .item id range name type =>
    match t.linkItem reader memory scope id name type with
    | (.ok linked, memory) => (.ok (.item id range name linked), memory)
    | (.error d, memory) => (.error d, memory)
  | .struct id range name bases metadata children =>
    match h : t.definitionOf? id with
    | none => (.error (unknownName name), memory)
    | some d =>
      if d.isStruct then
        match t.linkBases reader memory scope d (holds_of_definitionOf? h) name bases with
        | (.error e, memory) => (.error e, memory)
        | (.ok linked, memory) =>
          match t.linkStatements reader memory d.address children with
          | (.ok children, memory) =>
            (.ok (.struct id range name linked metadata children), memory)
          | (.error e, memory) => (.error e, memory)
      else (.error (unknownName name), memory)
  | .extension id range call => (.ok (.extension id range call), memory)
  | .inclusion id range i => (.ok (.inclusion id range i), memory)

/-- Links statements that stand in a scope, in order (`lower_statements`). -/
def linkStatements (t : Table) (reader : Nat) (memory : LinkMemory) (scope : Address) :
    List (Statement WrittenType) → Linked (List (Statement LinkedType))
  | [] => (.ok [], memory)
  | s :: rest =>
    match t.linkStatement reader memory scope s with
    | (.error d, memory) => (.error d, memory)
    | (.ok first, memory) =>
      match t.linkStatements reader memory scope rest with
      | (.ok rest, memory) => (.ok (first :: rest), memory)
      | (.error d, memory) => (.error d, memory)

end

/-- Links a root whose statements stand in a scope (`lower_root`). -/
def linkRoot (t : Table) (reader : Nat) (memory : LinkMemory) (root : Root WrittenType)
    (scope : Address) : Linked (Root LinkedType) :=
  match t.linkStatements reader memory scope root.statements with
  | (.ok statements, memory) => (.ok ⟨root.range, statements⟩, memory)
  | (.error d, memory) => (.error d, memory)

/-- Links a parsed file as the file of the given index (`lower_file`). A file that has no root
fails as its parsing did, and one whose includes failed as the first of them did. -/
def linkFile (t : Table) (file : Nat) (parsed : ParsedFile) :
    Except Diagnostic (Root LinkedType) :=
  match parsed.root with
  | .error d => .error d
  | .ok root =>
    match t.includeFault? file with
    | some d => .error d
    | none =>
      if t.hasRoot file then (t.linkRoot file .empty root ⟨file, []⟩).1
      else .error (.located root.range (.fileNotInSymbolTable parsed.path))

/-- Links all files, each as the file of its index (`lower_files`, which may take them in any order
since no file sees what another one remembers). -/
def linkFiles (t : Table) (files : List ParsedFile) : List (Except Diagnostic (Root LinkedType)) :=
  files.zipIdx.map fun (parsed, file) => t.linkFile file parsed

end Table
end Schemata
