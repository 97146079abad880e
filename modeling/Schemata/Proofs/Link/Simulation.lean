import Schemata.Proofs.Link.Machine
import Schemata.Proofs.Link.Success

/-!
# Linking with a changing state and on trails

Linking with one changing state does what linking on trails does: its stacks are trails at all
times. Whether what is remembered is read makes no difference: what an alias means does not depend
on the references by which it was reached, and neither does what is reached from a structure.

**Results:**
* `Table.runType_runsTo`: linking a type ends, and how.
* `Table.runBaseCycles_runsTo`: so does the search for cycles of bases.
-/
namespace Schemata

namespace Table

/-- The stacks are trails of the table. -/
def OnTrails (t : Table) (s : List TrailStep × List TrailStep) : Prop :=
  ∃ (items : Trail t.itemIds) (structs : Trail t.structIds), s = (items.steps, structs.steps)

/-- The stacks of the state are the trails, and what it remembers is the memory, if that is read. -/
structure Agrees (t : Table) (reads : Bool) (items : Trail t.itemIds) (structs : Trail t.structIds)
    (memory : LinkMemory) (l : Linker) : Prop where
  items : l.items = items.steps
  structs : l.structs = structs.steps
  memory : reads = true → l.memory = memory
  history : ∀ s ∈ l.history, t.OnTrails s

/-- The run ends with the outcome, on the same trails. -/
def RunsTo {α : Type} (t : Table) (reads : Bool) (items : Trail t.itemIds)
    (structs : Trail t.structIds) (run : Nat → Option (Ran α)) (x : Linked α) : Prop :=
  ∃ l, Finishes run (x.1, l) ∧ t.Agrees reads items structs x.2 l

variable {t : Table} {reader : Nat} {reads : Bool} {memory : LinkMemory} {l : Linker}
  {files : List ParsedFile}

/-! ## States -/

section States

variable {items : Trail t.itemIds} {structs : Trail t.structIds} {step : TrailStep}

theorem agrees_start (t : Table) (reads : Bool) :
    t.Agrees reads .empty .empty .empty .start where
  items := rfl
  structs := rfl
  memory _ := rfl
  history _ hs := ⟨.empty, .empty, List.mem_singleton.1 hs⟩

theorem stackWith_of_mem {ids : List ElementId} {trail : Trail ids} {id : ElementId}
    (h : id ∈ trail.stepIds) (name : Identifier) (via : Range) :
    stackWith trail.steps id name via = .error (trail.cycle id name via) :=
  if_pos h

theorem stackWith_of_not_mem {ids : List ElementId} {trail : Trail ids} {id : ElementId}
    (h : id ∉ trail.stepIds) (name : Identifier) (via : Range) :
    stackWith trail.steps id name via = .ok (⟨id, via⟩ :: trail.steps) :=
  if_neg h

namespace Agrees

theorem known_eq (h : t.Agrees true items structs memory l) : l.known true = memory :=
  h.memory rfl

/-- Memory that is not read may be anything. -/
theorem forget (h : t.Agrees false items structs memory l) (memory' : LinkMemory) :
    t.Agrees false items structs memory' l where
  items := h.items
  structs := h.structs
  memory := nofun
  history := h.history

theorem withItems (h : t.Agrees reads items structs memory l) (trail : Trail t.itemIds) :
    t.Agrees reads trail structs memory (l.withItems trail.steps) where
  items := rfl
  structs := h.structs
  memory := h.memory
  history s hs := by
    rcases List.mem_append.1 hs with hs | hs
    · exact h.history s hs
    · rw [List.mem_singleton.1 hs, h.structs]
      exact ⟨trail, structs, rfl⟩

theorem withStructs (h : t.Agrees reads items structs memory l) (trail : Trail t.structIds) :
    t.Agrees reads items trail memory (l.withStructs trail.steps) where
  items := h.items
  structs := rfl
  memory := h.memory
  history s hs := by
    rcases List.mem_append.1 hs with hs | hs
    · exact h.history s hs
    · rw [List.mem_singleton.1 hs, h.items]
      exact ⟨items, trail, rfl⟩

theorem popItem {fresh : step.id ∉ items.stepIds} {known : step.id ∈ t.itemIds}
    (h : t.Agrees reads (items.push step fresh known) structs memory l) :
    t.Agrees reads items structs memory l.popItem := by
  rw [Linker.popItem, h.items]
  exact h.withItems items

theorem popStruct {fresh : step.id ∉ structs.stepIds} {known : step.id ∈ t.structIds}
    (h : t.Agrees reads items (structs.push step fresh known) memory l) :
    t.Agrees reads items structs memory l.popStruct := by
  rw [Linker.popStruct, h.structs]
  exact h.withStructs structs

theorem addAlias (h : t.Agrees reads items structs memory l) (a : Address) (linked : LinkedType) :
    t.Agrees reads items structs { memory with aliases := (a, linked) :: memory.aliases }
      (l.addAlias a linked) where
  items := h.items
  structs := h.structs
  memory hreads := by rw [Linker.addAlias, h.memory hreads]
  history := h.history

theorem addAcyclic (h : t.Agrees reads items structs memory l) (a : Address) :
    t.Agrees reads items structs { memory with acyclic := a :: memory.acyclic }
      (l.addAcyclic a) where
  items := h.items
  structs := h.structs
  memory hreads := by rw [Linker.addAcyclic, h.memory hreads]
  history := h.history

/-- What is not remembered is not known. -/
theorem find?_known (h : t.Agrees reads items structs memory l) {a : Address}
    (hnone : memory.aliases.find? (·.1 = a) = none) :
    (l.known reads).aliases.find? (·.1 = a) = none := by
  cases reads with
  | true => rwa [h.known_eq]
  | false => rfl

theorem contains_known (h : t.Agrees reads items structs memory l) {a : Address}
    (hnot : ¬ memory.acyclic.contains a = true) : ¬ (l.known reads).acyclic.contains a = true := by
  cases reads with
  | true => rwa [h.known_eq]
  | false => exact nofun

end Agrees

namespace RunsTo

variable {α β : Type} {x : Linked α} {y : Linked β} {run : Nat → Option (Ran α)}

/-- A run that is at its end. -/
theorem now (h : t.Agrees reads items structs memory l) (x : Except Diagnostic α) :
    t.RunsTo reads items structs (fun _ => some (x, l)) (x, memory) := ⟨l, .now _, h⟩

theorem deeper (h : t.RunsTo reads items structs (fun n => run (n + 1)) x) :
    t.RunsTo reads items structs run x := by
  obtain ⟨l, hrun, hl⟩ := h
  exact ⟨l, hrun.deeper, hl⟩

theorem bind (h : t.RunsTo reads items structs run x) {items' : Trail t.itemIds}
    {structs' : Trail t.structIds} {f : Ran α → Nat → Option (Ran β)}
    (hf : ∀ l, t.Agrees reads items structs x.2 l →
      t.RunsTo reads items' structs' (f (x.1, l)) y) :
    t.RunsTo reads items' structs' (fun n => run n >>= fun r => f r n) y := by
  obtain ⟨l, hrun, hl⟩ := h
  obtain ⟨l', hrun', hl'⟩ := hf l hl
  exact ⟨l', hrun.bind hrun', hl'⟩

end RunsTo

end States

/-! ## Types -/

/-- What is linked for an alias that is entered on the trail is what its type mentions, and an alias
on the trail leads to a cycle. -/
structure Enters (t : Table) (reader : Nat) (trail : Trail t.itemIds) (d : Definition)
    (aliased : WrittenType) (via : Range) : Prop where
  follows : ∀ (fresh : d.id ∉ trail.stepIds) (known : d.id ∈ t.itemIds), ∃ us,
    t.Follows reader (trail.push ⟨d.id, via⟩ fresh known) us d.address.scope [aliased]
  fresh : Grounded (t.ItemEdge reader) (.ofAlias d aliased) → d.id ∉ trail.stepIds

theorem Follows.enters (hb : BuiltInOrder files) {trail : Trail (ofFiles files).itemIds}
    {us : List Item} {scope : Address} {type : WrittenType}
    (h : (ofFiles files).Follows reader trail us scope [type]) {d : Definition}
    {aliased : WrittenType} {via : Range}
    (hv : (ofFiles files).Mentions reader scope type via (.ofAlias d aliased)) :
    (ofFiles files).Enters reader trail d aliased via where
  follows fresh known := ⟨_, h.push hv fresh known⟩
  fresh hg := h.not_mem hb hv hg

theorem enters_empty {d : Definition} {aliased : WrittenType} (held : t.Holds d)
    (hk : d.kind = .alias aliased) (via : Range) : t.Enters reader .empty d aliased via where
  follows fresh known := ⟨_, follows_alias held hk via fresh known⟩
  fresh _ := nofun

section Types

variable {structs : Trail (ofFiles files).structIds}

mutual

/-- Linking a type with a changing state ends as linking it on a trail does, whether or not what is
remembered is read. -/
theorem runType_runsTo (hb : BuiltInOrder files) {reads : Bool}
    {trail : Trail (ofFiles files).itemIds} {us : List Item} {memory : LinkMemory} {l : Linker}
    {scope : Address} (type : WrittenType)
    (hf : (ofFiles files).Follows reader trail us scope [type])
    (hm : (ofFiles files).Faithful reader memory)
    (hl : (ofFiles files).Agrees reads trail structs memory l) :
    (ofFiles files).RunsTo reads trail structs
      (fun n => (ofFiles files).runType reader reads n scope type l)
      ((ofFiles files).linkType reader trail memory scope type) := by
  match type with
  | .fundamental o f =>
    refine .deeper ?_
    simp only [runType, linkType]
    exact .now hl _
  | .tuple o members =>
    refine .deeper ?_
    simp only [runType, linkType_tuple]
    exact (runTypes_runsTo hb members hf.tuple hm hl).bind fun l hl => ⟨l, .now _, hl⟩
  | .variant o members =>
    refine .deeper ?_
    simp only [runType, linkType_variant]
    exact (runTypes_runsTo hb members hf.variant hm hl).bind fun l hl => ⟨l, .now _, hl⟩
  | .reference o r =>
    refine .deeper ?_
    simp only [runType]
    cases hr : (ofFiles files).resolve reader r o.range scope with
    | error e =>
      rw [linkType_unresolved hr]
      exact .now hl _
    | ok target =>
      cases target with
      | definition d =>
        have held : (ofFiles files).Holds d := holdsTarget_of_resolve hr
        dsimp only
        match hk : d.kind with
        | .struct bases =>
          rw [linkType_struct hr hk]
          exact .now hl _
        | .alias aliased =>
          have known := held.id_mem_itemIds hk
          rw [linkType_alias hr hk known]
          exact (runAlias_runsTo hb held hk known (hf.enters hb (mentions_alias hr hk)) hm hl).bind
            fun l hl => ⟨l, .now _, hl⟩
      | field f =>
        have known : f.id ∈ (ofFiles files).itemIds := holdsTarget_of_resolve hr
        dsimp only
        refine .deeper ?_
        simp only [runField]
        rw [hl.items]
        by_cases fresh : f.id ∈ trail.stepIds
        · rw [stackWith_of_mem fresh, linkType_again hr fresh]
          exact .now hl _
        · rw [stackWith_of_not_mem fresh, linkType_field hr fresh known]
          have hfield := runType_runsTo hb f.type (hf.push (mentions_field hr) fresh known) hm
            (hl.withItems (trail.push ⟨f.id, o.range⟩ fresh known))
          exact hfield.bind fun l hl => ⟨_, .now _, hl.popItem⟩
termination_by (trail.remaining, sizeOf type)
decreasing_by
  all_goals first
    | exact Prod.Lex.left _ _ (trail.remaining_push_lt _ _ _)
    | decreasing_tactic

theorem runTypes_runsTo (hb : BuiltInOrder files) {reads : Bool}
    {trail : Trail (ofFiles files).itemIds} {us : List Item} {memory : LinkMemory} {l : Linker}
    {scope : Address} (types : List WrittenType)
    (hf : (ofFiles files).Follows reader trail us scope types)
    (hm : (ofFiles files).Faithful reader memory)
    (hl : (ofFiles files).Agrees reads trail structs memory l) :
    (ofFiles files).RunsTo reads trail structs
      (fun n => (ofFiles files).runTypes reader reads n scope types l)
      ((ofFiles files).linkTypes reader trail memory scope types) := by
  match types with
  | [] =>
    refine .deeper ?_
    simp only [runTypes, linkTypes]
    exact .now hl _
  | type :: rest =>
    refine .deeper ?_
    simp only [runTypes]
    have hfirst := runType_runsTo hb type hf.first hm hl
    have hm' := hm.linkType trail scope type
    refine hfirst.bind fun l hl => ?_
    cases hx : (ofFiles files).linkType reader trail memory scope type with
    | mk x m =>
      rw [hx] at hl hm'
      cases x with
      | error e =>
        rw [linkTypes_cons_of_error hx]
        exact .now hl _
      | ok first =>
        rw [linkTypes_cons_of_ok hx]
        exact (runTypes_runsTo hb rest hf.rest hm' hl).bind fun l hl => ⟨l, .now _, hl⟩
termination_by (trail.remaining, sizeOf types)

theorem runAlias_runsTo (hb : BuiltInOrder files) {reads : Bool}
    {trail : Trail (ofFiles files).itemIds} {memory : LinkMemory} {l : Linker} {d : Definition}
    {aliased : WrittenType} {via : Range} (held : (ofFiles files).Holds d)
    (hk : d.kind = .alias aliased) (known : d.id ∈ (ofFiles files).itemIds)
    (he : (ofFiles files).Enters reader trail d aliased via)
    (hm : (ofFiles files).Faithful reader memory)
    (hl : (ofFiles files).Agrees reads trail structs memory l) :
    (ofFiles files).RunsTo reads trail structs
      (fun n => (ofFiles files).runAlias reader reads n d aliased via l)
      ((ofFiles files).linkAlias reader trail memory d aliased known via) := by
  refine .deeper ?_
  simp only [runAlias]
  cases hfind : memory.aliases.find? (·.1 = d.address) with
  | some entry =>
    rw [linkAlias_remembered hfind]
    cases reads with
    | true =>
      rw [hl.known_eq, hfind]
      exact .now hl _
    | false =>
      -- what is remembered is what the alias means, so linking it again finds the same
      have ha : entry.1 = d.address := by simpa using List.find?_some hfind
      have hmeans := hm _ _ (List.mem_of_find?_eq_some hfind) d _ held ha.symm hk
      have fresh := he.fresh (grounded_iff.2 fun _ _ e => hmeans.grounded e)
      obtain ⟨us, hf⟩ := he.follows fresh known
      have hempty := faithful_empty (ofFiles files) reader
      have hagain := runType_runsTo hb aliased hf hempty
        ((hl.forget .empty).withItems (trail.push ⟨d.id, via⟩ fresh known))
      rw [hl.items, stackWith_of_not_mem fresh]
      refine hagain.bind fun l hl => ?_
      rw [linkType_of_means hb hmeans hf hempty]
      exact .now ((hl.popItem.addAlias _ _).forget memory) _
  | none =>
    rw [hl.find?_known hfind, hl.items]
    by_cases fresh : d.id ∈ trail.stepIds
    · rw [stackWith_of_mem fresh, linkAlias_again hfind fresh]
      exact .now hl _
    · obtain ⟨us, hf⟩ := he.follows fresh known
      have haliased := runType_runsTo hb aliased hf hm
        (hl.withItems (trail.push ⟨d.id, via⟩ fresh known))
      rw [stackWith_of_not_mem fresh]
      refine haliased.bind fun l hl => ?_
      cases hx : (ofFiles files).linkType reader (trail.push ⟨d.id, via⟩ fresh known) memory
          d.address.scope aliased with
      | mk x m =>
        rw [hx] at hl
        cases x with
        | error e =>
          rw [linkAlias_failed hfind fresh known hx]
          exact .now hl.popItem _
        | ok linked =>
          rw [linkAlias_entered hfind fresh known hx]
          exact .now (hl.popItem.addAlias _ _) _
termination_by (trail.remaining, 0)
decreasing_by
  all_goals exact Prod.Lex.left _ _ (trail.remaining_push_lt _ _ _)

end

end Types

/-! ## Bases -/

/-- The search for cycles of bases succeeds below a structure that is well founded. -/
theorem checkBasesOf_of_founded (hb : BuiltInOrder files)
    {trail : Trail (ofFiles files).structIds} {us : List Definition} {d : Definition}
    {bases : List WrittenType}
    (ho : (ofFiles files).Owns reader trail us d d.address.scope bases)
    (hd : (ofFiles files).Founded reader d) :
    ((ofFiles files).checkBasesOf reader trail .empty d.address.scope bases).1 = .ok () :=
  hd.ok_of_settles <| (settles hb reader).2 trail .empty d.address.scope bases us d ho hd.link
    (sound_empty _ reader)

mutual

/-- The search from a structure ends as the one on a trail does, whether or not what is remembered
is read. -/
theorem runBaseCycles_runsTo (hb : BuiltInOrder files) {reads : Bool}
    {trail : Trail (ofFiles files).structIds} {us : List Definition} {memory : LinkMemory}
    {l : Linker} {d : Definition} (held : (ofFiles files).Holds d) (via : Range)
    (ht : (ofFiles files).Descends reader trail us)
    (he : ∀ u, us.head? = some u → (ofFiles files).BaseEdge reader u via d)
    (hm : (ofFiles files).Remembers reader memory)
    (hl : (ofFiles files).Agrees reads .empty trail memory l) :
    (ofFiles files).RunsTo reads .empty trail
      (fun n => (ofFiles files).runBaseCycles reader reads n d via l)
      ((ofFiles files).checkBaseCycles reader trail memory d held via) := by
  refine .deeper ?_
  simp only [runBaseCycles]
  by_cases hleft : memory.acyclic.contains d.address = true
  · have hdone : (ofFiles files).checkBaseCycles reader trail memory d held via =
        (.ok (), memory) := by
      rw [checkBaseCycles, if_pos hleft]
    rw [hdone]
    cases reads with
    | true =>
      rw [hl.known_eq]
      simp only [if_pos hleft]
      exact .now hl _
    | false =>
      -- what has been left is well founded, so following its bases again succeeds
      have hfounded := hm.acyclic d.address (List.contains_iff_mem.1 hleft) d held rfl
      have hunread : ¬ (l.known false).acyclic.contains d.address = true := nofun
      simp only [if_neg hunread]
      match hk : d.kind with
      | .alias _ => exact .now hl _
      | .struct bases =>
        have known := held.id_mem_structIds hk
        have fresh : d.id ∉ trail.stepIds := ht.threads.not_mem_of_grounded
          (fun u hu hid => (ht.held u hu).eq_of_id hb held hid) he hfounded.grounded
        have ho := ht.enter held he fresh known hk
        have hagain := runBasesOf_runsTo hb ho (remembers_empty _ reader)
          ((hl.forget .empty).withStructs (trail.push ⟨d.id, via⟩ fresh known))
        dsimp only
        rw [hl.structs, stackWith_of_not_mem fresh]
        refine hagain.bind fun l hl => ?_
        rw [checkBasesOf_of_founded hb ho hfounded]
        exact .now ((hl.popStruct.addAcyclic _).forget memory) _
  · simp only [if_neg (hl.contains_known hleft)]
    match hk : d.kind with
    | .alias _ =>
      have hdone : (ofFiles files).checkBaseCycles reader trail memory d held via =
          (.ok (), memory) := by
        rw [checkBaseCycles, if_neg hleft]
        split <;> simp_all
      rw [hdone]
      exact .now hl _
    | .struct bases =>
      dsimp only
      rw [hl.structs]
      by_cases fresh : d.id ∈ trail.stepIds
      · rw [stackWith_of_mem fresh, checkBaseCycles_again hleft hk fresh]
        exact .now hl _
      · have known := held.id_mem_structIds hk
        have hbases := runBasesOf_runsTo hb (ht.enter held he fresh known hk) hm
          (hl.withStructs (trail.push ⟨d.id, via⟩ fresh known))
        rw [stackWith_of_not_mem fresh, checkBaseCycles_enter hleft hk fresh known]
        refine hbases.bind fun l hl => ?_
        rcases hx : (ofFiles files).checkBasesOf reader (trail.push ⟨d.id, via⟩ fresh known) memory
          d.address.scope bases with ⟨x, m⟩
        rw [hx] at hl
        cases x with
        | error e => exact .now hl.popStruct _
        | ok => exact .now (hl.popStruct.addAcyclic _) _
termination_by (trail.remaining, 0)
decreasing_by
  all_goals exact Prod.Lex.left _ _ (trail.remaining_push_lt _ _ _)

theorem runBasesOf_runsTo (hb : BuiltInOrder files) {reads : Bool}
    {trail : Trail (ofFiles files).structIds} {us : List Definition} {owner : Definition}
    {memory : LinkMemory} {l : Linker} {scope : Address} {bases : List WrittenType}
    (ho : (ofFiles files).Owns reader trail us owner scope bases)
    (hm : (ofFiles files).Remembers reader memory)
    (hl : (ofFiles files).Agrees reads .empty trail memory l) :
    (ofFiles files).RunsTo reads .empty trail
      (fun n => (ofFiles files).runBasesOf reader reads n scope bases l)
      ((ofFiles files).checkBasesOf reader trail memory scope bases) := by
  match bases with
  | [] =>
    refine .deeper ?_
    simp only [runBasesOf, checkBasesOf]
    exact .now hl _
  | base :: rest =>
    refine .deeper ?_
    simp only [runBasesOf]
    have hbase := runType_runsTo hb base (.empty _ reader scope [base]) hm.aliases hl
    refine hbase.bind fun l hl => ?_
    rcases hx : (ofFiles files).linkType reader .empty memory scope base with ⟨x, m⟩
    rw [hx] at hl
    cases x with
    | error e =>
      rw [checkBasesOf, hx]
      exact .now hl _
    | ok linked =>
      obtain ⟨hm', halone⟩ := hm.alone hb hx
      match hd : linked.structure?.bind fun s => (ofFiles files).definitionOf? s.1 with
      | none =>
        rw [checkBasesOf_of_none hx hd]
        dsimp only
        rw [hd]
        exact runBasesOf_runsTo hb ho.tail hm' hl
      | some d =>
        have held := holds_of_base hd
        have hedge := ho.edge (isBase_of_linked halone hd)
        have hcycles := runBaseCycles_runsTo hb held base.occurrence.range ho.descends
          (fun u hu => by
            rw [ho.head] at hu
            cases hu
            exact hedge)
          hm' hl
        have hm'' := (founds hb reader).1 trail m d held base.occurrence.range hm'
        rw [checkBasesOf_of_some hx hd]
        dsimp only
        rw [hd]
        refine hcycles.bind fun l hl => ?_
        rcases hy : (ofFiles files).checkBaseCycles reader trail m d held base.occurrence.range
          with ⟨y, n⟩
        rw [hy] at hl hm''
        cases y with
        | error e => exact .now hl _
        | ok => exact runBasesOf_runsTo hb ho.tail hm''.1 hl
termination_by (trail.remaining, bases.length + 1)

end

end Table
end Schemata
