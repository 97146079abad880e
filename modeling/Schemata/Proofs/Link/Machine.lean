import Schemata.Link

/-!
# Linking with one changing state

Linking is written down once more as steps on one state: the stack of aliases and fields, the stack
of structures whose bases are followed, and what is remembered. A definition is put on its stack
before its type is linked and taken off again afterwards, whatever came of it. Nothing here makes
the recursion end: calls are nested up to a given depth, and a run that needs a deeper call has no
result. A run ends if it has one at all large depths. What is remembered may be left unread.

**Results:**
* `Table.runs_restore`, `Table.searches_restore`: what is on the stacks before a call is on them
  after it.
-/
namespace Schemata

/-- What changes while a file is linked. Stacks are written innermost first. -/
structure Linker where
  /-- The aliases and fields that are being linked. -/
  items : List TrailStep
  /-- The structures whose bases are being followed. -/
  structs : List TrailStep
  memory : LinkMemory
  /-- Both stacks at the start and after each change of one of them. -/
  history : List (List TrailStep × List TrailStep)

/-- The result of a run with the state after it. -/
abbrev Ran (α : Type) := Except Diagnostic α × Linker

namespace Linker

/-- Nothing is being linked. -/
def start : Linker := ⟨[], [], .empty, [([], [])]⟩

def withItems (l : Linker) (items : List TrailStep) : Linker :=
  { l with items, history := l.history ++ [(items, l.structs)] }

def withStructs (l : Linker) (structs : List TrailStep) : Linker :=
  { l with structs, history := l.history ++ [(l.items, structs)] }

/-- The innermost alias or field is done. -/
def popItem (l : Linker) : Linker := l.withItems l.items.tail

/-- The innermost structure is done. -/
def popStruct (l : Linker) : Linker := l.withStructs l.structs.tail

def addAlias (l : Linker) (a : Address) (linked : LinkedType) : Linker :=
  { l with memory := { l.memory with aliases := (a, linked) :: l.memory.aliases } }

def addAcyclic (l : Linker) (a : Address) : Linker :=
  { l with memory := { l.memory with acyclic := a :: l.memory.acyclic } }

/-- What is remembered as far as it is read. -/
def known (l : Linker) (reads : Bool) : LinkMemory := if reads then l.memory else .empty

end Linker

/-- The stack with a definition on top, unless the definition is already on it. -/
def stackWith (stack : List TrailStep) (id : ElementId) (name : Identifier) (via : Range) :
    Except Diagnostic (List TrailStep) :=
  if id ∈ stack.map TrailStep.id then
    .error ⟨.circularTypeReference name.name, via, (stack.takeWhile (·.id ≠ id)).map (·.range)⟩
  else .ok (⟨id, via⟩ :: stack)

/-- The run ends with the result: it has the result at all depths from some depth on. -/
def Finishes {α : Type} (run : Nat → Option (Ran α)) (r : Ran α) : Prop :=
  ∃ depth, ∀ n ≥ depth, run n = some r

namespace Finishes

variable {α β : Type} {run : Nat → Option (Ran α)} {r : Ran α}

theorem now (r : Ran α) : Finishes (fun _ => some r) r := ⟨0, fun _ _ => rfl⟩

/-- A run that ends one call deeper ends. -/
theorem deeper (h : Finishes (fun n => run (n + 1)) r) : Finishes run r := by
  obtain ⟨depth, h⟩ := h
  refine ⟨depth + 1, fun n hn => ?_⟩
  obtain ⟨m, rfl⟩ := Nat.exists_eq_add_of_le' hn
  exact h (m + depth) (Nat.le_add_left depth m)

theorem bind (h : Finishes run r) {f : Ran α → Nat → Option (Ran β)} {r' : Ran β}
    (hf : Finishes (f r) r') : Finishes (fun n => run n >>= fun r => f r n) r' := by
  obtain ⟨depth, h⟩ := h
  obtain ⟨depth', hf⟩ := hf
  refine ⟨max depth depth', fun n hn => ?_⟩
  dsimp only
  rw [h n (Nat.le_trans (Nat.le_max_left _ _) hn)]
  exact hf n (Nat.le_trans (Nat.le_max_right _ _) hn)

/-- A run has one result at most. -/
theorem unique {r' : Ran α} (h : Finishes run r) (h' : Finishes run r') : r = r' := by
  obtain ⟨depth, h⟩ := h
  obtain ⟨depth', h'⟩ := h'
  have hmax := h (max depth depth') (Nat.le_max_left _ _)
  rw [h' (max depth depth') (Nat.le_max_right _ _)] at hmax
  exact (Option.some.inj hmax).symm

end Finishes

namespace Table

mutual

/-- Links a type that stands in a scope. -/
def runType (t : Table) (reader : Nat) (reads : Bool) (depth : Nat) (scope : Address)
    (type : WrittenType) (l : Linker) : Option (Ran LinkedType) :=
  match depth, type with
  | 0, _ => none
  | _ + 1, .fundamental o f => some (.ok (.fundamental o f), l)
  | depth + 1, .tuple o members => do
    let (x, l) ← t.runTypes reader reads depth scope members l
    return (x >>= fun ms => .ok (.tuple o ms), l)
  | depth + 1, .variant o members => do
    let (x, l) ← t.runTypes reader reads depth scope members l
    return (x >>= fun ms =>
      checkMembers o.range true (ms.map fun m => (m.occurrence.range, m.isVariant)) >>= fun _ =>
        .ok (.variant o ms), l)
  | depth + 1, .reference o r =>
    match t.resolve reader r o.range scope with
    | .error e => some (.error e, l)
    | .ok (.field f) => t.runField reader reads depth f o l
    | .ok (.definition d) =>
      match d.kind with
      | .struct _ => some (.ok (.struct o d.id d.name), l)
      | .alias aliased => do
        let (x, l) ← t.runAlias reader reads depth d aliased o.range l
        return (x >>= fun linked => .ok (.alias o d.name linked), l)

/-- Links types that stand in a scope, in order. -/
def runTypes (t : Table) (reader : Nat) (reads : Bool) (depth : Nat) (scope : Address)
    (types : List WrittenType) (l : Linker) : Option (Ran (List LinkedType)) :=
  match depth, types with
  | 0, _ => none
  | _ + 1, [] => some (.ok [], l)
  | depth + 1, type :: rest => do
    let (x, l) ← t.runType reader reads depth scope type l
    match x with
    | .error e => return (.error e, l)
    | .ok first =>
      let (y, l) ← t.runTypes reader reads depth scope rest l
      return (y >>= fun rest => .ok (first :: rest), l)

/-- Links an alias where it is defined, unless it is known. -/
def runAlias (t : Table) (reader : Nat) (reads : Bool) (depth : Nat) (d : Definition)
    (aliased : WrittenType) (via : Range) (l : Linker) : Option (Ran LinkedType) :=
  match depth with
  | 0 => none
  | depth + 1 =>
    match (l.known reads).aliases.find? (·.1 = d.address) with
    | some (_, linked) => some (.ok linked, l)
    | none =>
      match stackWith l.items d.id d.name via with
      | .error e => some (.error e, l)
      | .ok items => do
        let (x, l) ← t.runType reader reads depth d.address.scope aliased (l.withItems items)
        match x with
        | .error e => return (.error (inContext e via), l.popItem)
        | .ok linked => return (.ok linked, l.popItem.addAlias d.address linked)

/-- Links the type of a field where it is defined, in the place of a reference. -/
def runField (t : Table) (reader : Nat) (reads : Bool) (depth : Nat) (f : Field) (o : Occurrence)
    (l : Linker) : Option (Ran LinkedType) :=
  match depth with
  | 0 => none
  | depth + 1 =>
    match stackWith l.items f.id f.name o.range with
    | .error e => some (.error e, l)
    | .ok items => do
      let (x, l) ← t.runType reader reads depth f.scope f.type (l.withItems items)
      return (x.mapError (inContext · o.range) >>= fun linked => .ok (linked.inPlaceOf o),
        l.popItem)

end

mutual

/-- Follows the bases of a structure, unless it is known that this ends. -/
def runBaseCycles (t : Table) (reader : Nat) (reads : Bool) (depth : Nat) (d : Definition)
    (via : Range) (l : Linker) : Option (Ran Unit) :=
  match depth with
  | 0 => none
  | depth + 1 =>
    if (l.known reads).acyclic.contains d.address then some (.ok (), l)
    else
      match d.kind with
      | .alias _ => some (.ok (), l)
      | .struct bases =>
        match stackWith l.structs d.id d.name via with
        | .error e => some (.error e, l)
        | .ok structs => do
          let (x, l) ←
            t.runBasesOf reader reads depth d.address.scope bases (l.withStructs structs)
          match x with
          | .error e => return (.error e, l.popStruct)
          | .ok () => return (.ok (), l.popStruct.addAcyclic d.address)

/-- Follows the given bases in order. -/
def runBasesOf (t : Table) (reader : Nat) (reads : Bool) (depth : Nat) (scope : Address)
    (bases : List WrittenType) (l : Linker) : Option (Ran Unit) :=
  match depth, bases with
  | 0, _ => none
  | _ + 1, [] => some (.ok (), l)
  | depth + 1, base :: rest => do
    let (x, l) ← t.runType reader reads depth scope base l
    match x with
    | .error e => return (.error e, l)
    | .ok linked =>
      match linked.structure?.bind fun s => t.definitionOf? s.1 with
      | none => t.runBasesOf reader reads depth scope rest l
      | some d =>
        let (y, l) ← t.runBaseCycles reader reads depth d base.occurrence.range l
        match y with
        | .error e => return (.error e, l)
        | .ok () => t.runBasesOf reader reads depth scope rest l

end

/-- Links what the definition stands for, which has to be an alias. -/
def runDefinition (t : Table) (reader : Nat) (reads : Bool) (depth : Nat) (d : Definition)
    (via : Range) (l : Linker) : Option (Ran LinkedType) :=
  match d.kind with
  | .alias aliased => t.runAlias reader reads depth d aliased via l
  | .struct _ => some (.error (unknownName d.name), l)

/-- Links the type of an item. An alias is linked as what the table has for its id. -/
def runItem (t : Table) (reader : Nat) (reads : Bool) (depth : Nat) (scope : Address)
    (id : ElementId) (name : Identifier) (type : WrittenType) (l : Linker) :
    Option (Ran LinkedType) :=
  match t.definitionOf? id, name.isType with
  | some d, true => t.runDefinition reader reads depth d name.range l
  | _, _ => t.runType reader reads depth scope type l

/-- Links the bases of a structure and checks them. -/
def runBases (t : Table) (reader : Nat) (reads : Bool) (depth : Nat) (scope : Address)
    (d : Definition) (name : Identifier) (bases : List WrittenType) (l : Linker) :
    Option (Ran (List LinkedType)) := do
  let (x, l) ← t.runTypes reader reads depth scope bases l
  match x with
  | .error e => return (.error e, l)
  | .ok linked =>
    match checkBaseCombination name linked with
    | .error e => return (.error e, l)
    | .ok () =>
      let (y, l) ← t.runBaseCycles reader reads depth d name.range l
      return (y >>= fun _ => .ok linked, l)

mutual

/-- Links a statement that stands in a scope. -/
def runStatement (t : Table) (reader : Nat) (reads : Bool) (depth : Nat) (scope : Address)
    (s : Statement WrittenType) (l : Linker) : Option (Ran (Statement LinkedType)) :=
  match s with
  | .item id range name type => do
    let (x, l) ← t.runItem reader reads depth scope id name type l
    return (x >>= fun linked => .ok (.item id range name linked), l)
  | .struct id range name bases metadata children =>
    match t.definitionOf? id with
    | none => some (.error (unknownName name), l)
    | some d =>
      if d.isStruct then do
        let (x, l) ← t.runBases reader reads depth scope d name bases l
        match x with
        | .error e => return (.error e, l)
        | .ok linked =>
          let (y, l) ← t.runStatements reader reads depth d.address children l
          return (y >>= fun children => .ok (.struct id range name linked metadata children), l)
      else some (.error (unknownName name), l)
  | .extension id range call => some (.ok (.extension id range call), l)
  | .inclusion id range i => some (.ok (.inclusion id range i), l)

/-- Links statements that stand in a scope, in order. -/
def runStatements (t : Table) (reader : Nat) (reads : Bool) (depth : Nat) (scope : Address)
    (ss : List (Statement WrittenType)) (l : Linker) : Option (Ran (List (Statement LinkedType))) :=
  match ss with
  | [] => some (.ok [], l)
  | s :: rest => do
    let (x, l) ← t.runStatement reader reads depth scope s l
    match x with
    | .error e => return (.error e, l)
    | .ok first =>
      let (y, l) ← t.runStatements reader reads depth scope rest l
      return (y >>= fun rest => .ok (first :: rest), l)

end

/-- Links a parsed file as the file of the given index. -/
def runFile (t : Table) (reads : Bool) (depth : Nat) (file : Nat) (parsed : ParsedFile) :
    Option (Ran (Root LinkedType)) :=
  match parsed.root with
  | .error e => some (.error e, .start)
  | .ok root =>
    match t.includeFault? file with
    | some e => some (.error e, .start)
    | none =>
      if t.hasRoot file then do
        let (x, l) ← t.runStatements file reads depth ⟨file, []⟩ root.statements .start
        return (x >>= fun statements => .ok ⟨root.range, statements⟩, l)
      else some (.error (.located root.range (.fileNotInSymbolTable parsed.path)), .start)

end Table

/-! ## Stacks are restored -/

/-- The same definitions are on the stacks. -/
structure Linker.SameStacks (l l' : Linker) : Prop where
  items : l'.items = l.items
  structs : l'.structs = l.structs

namespace Linker.SameStacks

variable {l l' m : Linker}

theorem refl (l : Linker) : l.SameStacks l := ⟨rfl, rfl⟩

theorem trans (h : l.SameStacks m) (h' : m.SameStacks l') : l.SameStacks l' :=
  ⟨h'.items.trans h.items, h'.structs.trans h.structs⟩

/-- What is put on the stack of aliases and fields is taken off again. -/
theorem pop_item {step : TrailStep} (h : (l.withItems (step :: l.items)).SameStacks m) :
    l.SameStacks m.popItem where
  items := congrArg List.tail h.items
  structs := h.structs

/-- What is put on the stack of structures is taken off again. -/
theorem pop_struct {step : TrailStep} (h : (l.withStructs (step :: l.structs)).SameStacks m) :
    l.SameStacks m.popStruct where
  items := h.items
  structs := congrArg List.tail h.structs

end Linker.SameStacks

theorem eq_cons_of_stackWith {stack stack' : List TrailStep} {id : ElementId} {name : Identifier}
    {via : Range} (h : stackWith stack id name via = .ok stack') : stack' = ⟨id, via⟩ :: stack := by
  unfold stackWith at h
  split at h
  · cases h
  · injection h with h
    exact h.symm

namespace Table

/-- Linking a type, an alias, a field or several types leaves the stacks as they were, whatever
comes of it. -/
theorem runs_restore (t : Table) (reader : Nat) (reads : Bool) (depth : Nat) :
    (∀ scope type l r, t.runType reader reads depth scope type l = some r → l.SameStacks r.2) ∧
    (∀ d aliased via l r,
      t.runAlias reader reads depth d aliased via l = some r → l.SameStacks r.2) ∧
    (∀ f o l r, t.runField reader reads depth f o l = some r → l.SameStacks r.2) ∧
    ∀ scope types l r, t.runTypes reader reads depth scope types l = some r → l.SameStacks r.2 := by
  induction depth with
  | zero =>
    simp only [runType, runAlias, runField, runTypes, reduceCtorEq, false_implies, implies_true,
      and_self]
  | succ depth ih =>
    obtain ⟨ihtype, ihalias, ihfield, ihtypes⟩ := ih
    refine ⟨?ofType, ?ofAlias, ?ofField, ?ofTypes⟩
    case ofType =>
      intro scope type l r h
      cases type with
      | fundamental o f =>
        cases h
        exact .refl l
      | tuple o members | variant o members =>
        obtain ⟨⟨x, m⟩, hx, h⟩ := Option.bind_eq_some_iff.1 h
        have hmembers := ihtypes _ _ _ _ hx
        cases h
        exact hmembers
      | reference o r =>
        rw [runType] at h
        split at h
        · cases h
          exact .refl l
        · exact ihfield _ _ _ _ h
        · split at h
          · cases h
            exact .refl l
          · obtain ⟨⟨x, m⟩, hx, h⟩ := Option.bind_eq_some_iff.1 h
            have hasked := ihalias _ _ _ _ _ hx
            cases h
            exact hasked
    case ofAlias =>
      intro d aliased via l r h
      rw [runAlias] at h
      split at h
      · cases h
        exact .refl l
      · split at h
        · cases h
          exact .refl l
        · rename_i items hitems
          obtain rfl := eq_cons_of_stackWith hitems
          obtain ⟨⟨x, m⟩, hx, h⟩ := Option.bind_eq_some_iff.1 h
          have hpop := (ihtype _ _ _ _ hx).pop_item
          cases x with
          | error e =>
            cases h
            exact hpop
          | ok linked =>
            cases h
            exact ⟨hpop.items, hpop.structs⟩
    case ofField =>
      intro f o l r h
      rw [runField] at h
      split at h
      · cases h
        exact .refl l
      · rename_i items hitems
        obtain rfl := eq_cons_of_stackWith hitems
        obtain ⟨⟨x, m⟩, hx, h⟩ := Option.bind_eq_some_iff.1 h
        have hpop := (ihtype _ _ _ _ hx).pop_item
        cases h
        exact hpop
    case ofTypes =>
      intro scope types l r h
      cases types with
      | nil =>
        cases h
        exact .refl l
      | cons type rest =>
        obtain ⟨⟨x, m⟩, hx, h⟩ := Option.bind_eq_some_iff.1 h
        have hfirst := ihtype _ _ _ _ hx
        cases x with
        | error e =>
          cases h
          exact hfirst
        | ok first =>
          obtain ⟨⟨y, n⟩, hy, h⟩ := Option.bind_eq_some_iff.1 h
          have hrest := ihtypes _ _ _ _ hy
          cases h
          exact hfirst.trans hrest

/-- The search for cycles of bases leaves the stacks as they were, whatever comes of it. -/
theorem searches_restore (t : Table) (reader : Nat) (reads : Bool) (depth : Nat) :
    (∀ d via l r, t.runBaseCycles reader reads depth d via l = some r → l.SameStacks r.2) ∧
    ∀ scope bases l r,
      t.runBasesOf reader reads depth scope bases l = some r → l.SameStacks r.2 := by
  induction depth with
  | zero =>
    simp only [runBaseCycles, runBasesOf, reduceCtorEq, false_implies, implies_true, and_self]
  | succ depth ih =>
    obtain ⟨ihcycles, ihbases⟩ := ih
    refine ⟨?cycles, ?bases⟩
    case cycles =>
      intro d via l r h
      rw [runBaseCycles] at h
      split at h
      · cases h
        exact .refl l
      · split at h
        · cases h
          exact .refl l
        · split at h
          · cases h
            exact .refl l
          · rename_i structs hstructs
            obtain rfl := eq_cons_of_stackWith hstructs
            obtain ⟨⟨x, m⟩, hx, h⟩ := Option.bind_eq_some_iff.1 h
            have hpop := (ihbases _ _ _ _ hx).pop_struct
            cases x with
            | error e =>
              cases h
              exact hpop
            | ok =>
              cases h
              exact ⟨hpop.items, hpop.structs⟩
    case bases =>
      intro scope bases l r h
      cases bases with
      | nil =>
        cases h
        exact .refl l
      | cons base rest =>
        obtain ⟨⟨x, m⟩, hx, h⟩ := Option.bind_eq_some_iff.1 h
        have hbase := (t.runs_restore reader reads depth).1 _ _ _ _ hx
        cases x with
        | error e =>
          cases h
          exact hbase
        | ok linked =>
          dsimp only at h
          split at h
          · exact hbase.trans (ihbases _ _ _ _ h)
          · obtain ⟨⟨y, n⟩, hy, h⟩ := Option.bind_eq_some_iff.1 h
            have hcycles := hbase.trans (ihcycles _ _ _ _ hy)
            cases y with
            | error e =>
              cases h
              exact hcycles
            | ok => exact hcycles.trans (ihbases _ _ _ _ h)

end Table
end Schemata
