import Schemata.Proofs.Link.Meaning
import Schemata.Proofs.Walk

/-!
# Linked files

Linking leaves the statements of a file as they are, with their ids, names and nesting, and only
puts linked types in the place of written ones. Whatever is remembered on the way stays what it
means, through bases and their search for cycles too, so every handle that is put anywhere is one on
a structure of the table.

**Results:**
* `Table.linkFile_mirrors`: the statements of a linked file mirror those of the parsed one.
* `Table.MirrorsAll.structs`: they have the same structures.
* `Table.MirrorsAll.holds_handles`: their handles are on structures of the table.
-/
namespace Schemata
namespace Table

variable {t : Table} {reader : Nat}

/-! ## Handles of types -/

/-- A handle on a structure of the table. -/
def HoldsHandle (t : Table) (x : ElementId × Identifier) : Prop :=
  ∃ d bases, t.Holds d ∧ d.kind = .struct bases ∧ d.id = x.1 ∧ d.name = x.2

mutual

/-- The handles in what a type means are on structures of the table. -/
theorem Means.holds_handles {scope : Address} {type : WrittenType} {linked : LinkedType}
    (h : t.Means reader scope type linked) : ∀ x ∈ linked.handles, t.HoldsHandle x := by
  match h with
  | .fundamental .. => exact fun _ hx => nomatch hx
  | .tuple h | .variant h _ => exact h.holds_handles
  | .ofStruct hr hk =>
    intro x hx
    rw [LinkedType.handles, List.mem_singleton] at hx
    subst hx
    exact ⟨_, _, holdsTarget_of_resolve hr, hk, rfl, rfl⟩
  | .ofAlias _ _ h => exact h.holds_handles
  | .ofField _ h hp =>
    rw [hp, LinkedType.inPlaceOf, LinkedType.handles_withOccurrence]
    exact h.holds_handles

theorem MeansAll.holds_handles {scope : Address} {types : List WrittenType}
    {linked : List LinkedType} (h : t.MeansAll reader scope types linked) :
    ∀ x ∈ LinkedType.handlesOf linked, t.HoldsHandle x := by
  match h with
  | .nil _ => exact fun _ hx => nomatch hx
  | .cons h hs =>
    intro x hx
    rcases List.mem_append.1 hx with hx | hx
    · exact h.holds_handles x hx
    · exact hs.holds_handles x hx

end

/-! ## Mirrored statements -/

mutual

/-- A linked statement differs from the written one in its types only, and the handles in these are
on structures of the table. -/
inductive Mirrors (t : Table) : Statement WrittenType → Statement LinkedType → Prop where
  | item {id : ElementId} {range : Range} {name : Identifier} {type : WrittenType}
      {linked : LinkedType} (h : ∀ x ∈ linked.handles, t.HoldsHandle x) :
      Mirrors t (.item id range name type) (.item id range name linked)
  | struct {id : ElementId} {range : Range} {name : Identifier} {bases : List WrittenType}
      {linked : List LinkedType} {metadata : Option Metadata}
      {children : List (Statement WrittenType)} {mirrored : List (Statement LinkedType)}
      (hbases : ∀ x ∈ LinkedType.handlesOf linked, t.HoldsHandle x)
      (h : MirrorsAll t children mirrored) :
      Mirrors t (.struct id range name bases metadata children)
        (.struct id range name linked metadata mirrored)
  | extension (id : ElementId) (range : Range) (call : Extension) :
      Mirrors t (.extension id range call) (.extension id range call)
  | inclusion (id : ElementId) (range : Range) (i : Inclusion) :
      Mirrors t (.inclusion id range i) (.inclusion id range i)

/-- Linked statements mirror the written ones, one by one. -/
inductive MirrorsAll (t : Table) :
    List (Statement WrittenType) → List (Statement LinkedType) → Prop where
  | nil : MirrorsAll t [] []
  | cons {s : Statement WrittenType} {linked : Statement LinkedType}
      {ss : List (Statement WrittenType)} {rest : List (Statement LinkedType)}
      (h : Mirrors t s linked) (hs : MirrorsAll t ss rest) : MirrorsAll t (s :: ss) (linked :: rest)

end

mutual

theorem Mirrors.holds_handles {s : Statement WrittenType} {linked : Statement LinkedType}
    (h : t.Mirrors s linked) : ∀ x ∈ linked.handles, t.HoldsHandle x := by
  match h with
  | .item h => exact h
  | .struct hbases h =>
    intro x hx
    rcases List.mem_append.1 hx with hx | hx
    · exact hbases x hx
    · exact h.holds_handles x hx
  | .extension .. | .inclusion .. => exact fun _ hx => nomatch hx

/-- The handles of mirrored statements are on structures of the table. -/
theorem MirrorsAll.holds_handles {ss : List (Statement WrittenType)}
    {linked : List (Statement LinkedType)} (h : t.MirrorsAll ss linked) :
    ∀ x ∈ Statement.handlesOf linked, t.HoldsHandle x := by
  match h with
  | .nil => exact fun _ hx => nomatch hx
  | .cons h hs =>
    intro x hx
    rcases List.mem_append.1 hx with hx | hx
    · exact h.holds_handles x hx
    · exact hs.holds_handles x hx

end

mutual

theorem Mirrors.structs {s : Statement WrittenType} {linked : Statement LinkedType}
    (h : t.Mirrors s linked) :
    linked.structs.map (fun x => (x.1, x.2.id, x.2.definedName?)) =
      s.structs.map fun x => (x.1, x.2.id, x.2.definedName?) := by
  match h with
  | .item _ | .extension .. | .inclusion .. => rfl
  | .struct _ h =>
    simp only [Statement.structs, List.map_cons, h.structs]
    rfl

/-- Mirrored statements have the same structures in the same order. -/
theorem MirrorsAll.structs {ss : List (Statement WrittenType)}
    {linked : List (Statement LinkedType)} (h : t.MirrorsAll ss linked) :
    (Statement.structsOf linked).map (fun x => (x.1, x.2.id, x.2.definedName?)) =
      (Statement.structsOf ss).map fun x => (x.1, x.2.id, x.2.definedName?) := by
  match h with
  | .nil => rfl
  | .cons h hs =>
    simp only [Statement.structsOf, List.map_append, h.structs, hs.structs]

end

/-! ## Linking statements -/

theorem linkTypes_finds (t : Table) (reader : Nat) (trail : Trail t.itemIds) (memory : LinkMemory)
    (scope : Address) (types : List WrittenType) :
    t.Finds reader memory (t.linkTypes reader trail memory scope types)
      (t.MeansAll reader scope types) :=
  (t.linkInvariant_finds reader).runs.2.2 trail memory scope types

theorem linkAlias_finds (t : Table) (reader : Nat) (memory : LinkMemory) (d : Definition)
    (aliased : WrittenType) (known : d.id ∈ t.itemIds) (via : Range) (hd : t.Holds d)
    (hk : d.kind = .alias aliased) :
    t.Finds reader memory (t.linkAlias reader .empty memory d aliased known via)
      (t.Means reader d.address.scope aliased) :=
  (t.linkInvariant_finds reader).runs.2.1 .empty memory d aliased known via hd hk

/-- From a faithful memory, the run leaves a faithful one, and succeeds only with what is to be
found. -/
def Yields {α : Type} (t : Table) (reader : Nat) (memory : LinkMemory) (x : Linked α)
    (Q : α → Prop) : Prop :=
  t.Faithful reader memory → t.Faithful reader x.2 ∧ ∀ a, x.1 = .ok a → Q a

theorem Finds.yields {α : Type} {memory : LinkMemory} {x : Linked α} {Q R : α → Prop}
    (h : t.Finds reader memory x Q) (hr : ∀ a, Q a → R a) : t.Yields reader memory x R :=
  fun hm => ⟨(h hm).1, fun a ha => hr a ((h hm).2.2 a ha)⟩

theorem yields_error {α : Type} {memory : LinkMemory} {e : Diagnostic} {Q : α → Prop} :
    t.Yields reader memory (.error e, memory) Q :=
  fun hm => ⟨hm, nofun⟩

/-- The search for cycles of bases remembers no alias but what it means. -/
theorem checkBaseCycles_yields (t : Table) (reader : Nat) :
    (∀ trail memory d held via, t.Yields reader memory
      (t.checkBaseCycles reader trail memory d held via) fun _ => True) ∧
    ∀ trail memory scope bases, t.Yields reader memory
      (t.checkBasesOf reader trail memory scope bases) fun _ => True := by
  refine checkBaseCycles.mutual_induct_unfolding t reader
    (fun _ memory _ _ _ x => t.Yields reader memory x fun _ => True)
    (fun _ memory _ _ x => t.Yields reader memory x fun _ => True)
    ?left ?ofAlias ?again ?entered ?failed ?nil ?unlinked ?noStruct ?base ?baseFailed
  case left => exact fun _ _ _ _ _ _ hm => ⟨hm, fun _ _ => trivial⟩
  case ofAlias => exact fun _ _ _ _ _ _ _ _ hm => ⟨hm, fun _ _ => trivial⟩
  case again => exact fun _ _ _ _ _ _ _ _ _ hm => ⟨hm, fun _ _ => trivial⟩
  case entered =>
    intro trail memory d held via hleft bases hk fresh m hx ih hm
    rw [hx] at ih
    -- remembering that a structure is done leaves the aliases alone
    exact ⟨(ih hm).1, fun _ _ => trivial⟩
  case failed =>
    intro trail memory d held via hleft bases hk fresh e m hx ih hm
    rw [hx] at ih
    exact ⟨(ih hm).1, fun _ _ => trivial⟩
  case nil => exact fun _ _ _ hm => ⟨hm, fun _ _ => trivial⟩
  case unlinked =>
    intro trail memory scope base rest e m hx hm
    have hm' := hm.linkType .empty scope base
    rw [hx] at hm'
    exact ⟨hm', fun _ _ => trivial⟩
  case noStruct =>
    intro trail memory scope base rest linked m hx hnone ih hm
    have hm' := hm.linkType .empty scope base
    rw [hx] at hm'
    exact ih hm'
  case base =>
    intro trail memory scope base rest linked m hx d hd held m' hcheck ihd ih hm
    have hm' := hm.linkType .empty scope base
    rw [hx] at hm'
    rw [hcheck] at ihd
    exact ih (ihd hm').1
  case baseFailed =>
    intro trail memory scope base rest linked m hx d hd held e m' hcheck ihd hm
    have hm' := hm.linkType .empty scope base
    rw [hx] at hm'
    rw [hcheck] at ihd
    exact ⟨(ihd hm').1, fun _ _ => trivial⟩

theorem linkDefinition_yields (t : Table) (reader : Nat) (memory : LinkMemory) (d : Definition)
    (held : t.Holds d) (via : Range) :
    t.Yields reader memory (t.linkDefinition reader memory d held via)
      fun linked => ∀ x ∈ linked.handles, t.HoldsHandle x := by
  unfold linkDefinition
  split
  · rename_i aliased hk
    exact (linkAlias_finds t reader memory d aliased _ via held hk).yields
      fun _ h => h.holds_handles
  · exact yields_error

theorem linkItem_yields (t : Table) (reader : Nat) (memory : LinkMemory) (scope : Address)
    (id : ElementId) (name : Identifier) (type : WrittenType) :
    t.Yields reader memory (t.linkItem reader memory scope id name type)
      fun linked => ∀ x ∈ linked.handles, t.HoldsHandle x := by
  unfold linkItem
  split
  · exact linkDefinition_yields t reader memory _ _ _
  · exact (linkType_finds t reader .empty memory scope type).yields fun _ h => h.holds_handles

theorem linkBases_yields (t : Table) (reader : Nat) (memory : LinkMemory) (scope : Address)
    (d : Definition) (held : t.Holds d) (name : Identifier) (bases : List WrittenType) :
    t.Yields reader memory (t.linkBases reader memory scope d held name bases)
      fun linked => ∀ x ∈ LinkedType.handlesOf linked, t.HoldsHandle x := by
  intro hm
  obtain ⟨hm', -, hbases⟩ := linkTypes_finds t reader .empty memory scope bases hm
  unfold linkBases
  split
  · rename_i heq
    rw [heq] at hm'
    exact ⟨hm', nofun⟩
  · rename_i linked m heq
    rw [heq] at hm' hbases
    split
    · exact ⟨hm', nofun⟩
    · have hcheck := (checkBaseCycles_yields t reader).1 .empty m d held name.range hm'
      split
      · rename_i hx
        rw [hx] at hcheck
        refine ⟨hcheck.1, fun a ha => ?_⟩
        cases ha
        exact (hbases linked rfl).holds_handles
      · rename_i hx
        rw [hx] at hcheck
        exact ⟨hcheck.1, nofun⟩

mutual

theorem linkStatement_yields (t : Table) (reader : Nat) (memory : LinkMemory) (scope : Address)
    (s : Statement WrittenType) :
    t.Yields reader memory (t.linkStatement reader memory scope s) (t.Mirrors s) := by
  intro hm
  match s with
  | .item id range name type =>
    have hitem := linkItem_yields t reader memory scope id name type hm
    rw [linkStatement]
    split
    · rename_i heq
      rw [heq] at hitem
      refine ⟨hitem.1, fun a ha => ?_⟩
      cases ha
      exact .item (hitem.2 _ rfl)
    · rename_i heq
      rw [heq] at hitem
      exact ⟨hitem.1, nofun⟩
  | .struct id range name bases metadata children =>
    rw [linkStatement]
    split
    · exact ⟨hm, nofun⟩
    · rename_i d hd
      split
      · -- the children are linked from what linking the bases remembers
        have hbases := linkBases_yields t reader memory scope d (holds_of_definitionOf? hd) name
          bases hm
        split
        · rename_i heq
          rw [heq] at hbases
          exact ⟨hbases.1, nofun⟩
        · rename_i linked m heq
          rw [heq] at hbases
          have hchildren := linkStatements_yields t reader m d.address children hbases.1
          split
          · rename_i heq'
            rw [heq'] at hchildren
            refine ⟨hchildren.1, fun a ha => ?_⟩
            cases ha
            exact .struct (hbases.2 _ rfl) (hchildren.2 _ rfl)
          · rename_i heq'
            rw [heq'] at hchildren
            exact ⟨hchildren.1, nofun⟩
      · exact ⟨hm, nofun⟩
  | .extension id range call =>
    refine ⟨hm, fun a ha => ?_⟩
    cases ha
    exact .extension id range call
  | .inclusion id range i =>
    refine ⟨hm, fun a ha => ?_⟩
    cases ha
    exact .inclusion id range i

/-- Linking statements, from a faithful memory, leaves a faithful one, and succeeds only with
statements that mirror the written ones. -/
theorem linkStatements_yields (t : Table) (reader : Nat) (memory : LinkMemory) (scope : Address)
    (ss : List (Statement WrittenType)) :
    t.Yields reader memory (t.linkStatements reader memory scope ss) (t.MirrorsAll ss) := by
  intro hm
  match ss with
  | [] =>
    refine ⟨hm, fun a ha => ?_⟩
    cases ha
    exact .nil
  | s :: rest =>
    have hfirst := linkStatement_yields t reader memory scope s hm
    rw [linkStatements]
    split
    · rename_i heq
      rw [heq] at hfirst
      exact ⟨hfirst.1, nofun⟩
    · rename_i linked m heq
      rw [heq] at hfirst
      have hrest := linkStatements_yields t reader m scope rest hfirst.1
      split
      · rename_i heq'
        rw [heq'] at hrest
        refine ⟨hrest.1, fun a ha => ?_⟩
        cases ha
        exact .cons (hfirst.2 _ rfl) (hrest.2 _ rfl)
      · rename_i heq'
        rw [heq'] at hrest
        exact ⟨hrest.1, nofun⟩

end

/-- A file that is linked has a root, whose statements are linked. -/
theorem exists_source_of_linkFile {file : Nat} {parsed : ParsedFile} {root : Root LinkedType}
    (h : t.linkFile file parsed = .ok root) :
    ∃ source, parsed.root = .ok source ∧
      (t.linkStatements file .empty ⟨file, []⟩ source.statements).1 = .ok root.statements := by
  unfold linkFile at h
  split at h
  · cases h
  · rename_i source hsource
    refine ⟨source, hsource, ?_⟩
    -- the includes of the file were bound, and it is one of the table
    split at h
    · cases h
    · split at h
      · unfold linkRoot at h
        split at h
        · rename_i heq
          cases h
          exact congrArg Prod.fst heq
        · cases h
      · cases h

/-- The statements of a linked file mirror those of the parsed one. -/
theorem linkFile_mirrors {file : Nat} {parsed : ParsedFile} {root : Root LinkedType}
    (h : t.linkFile file parsed = .ok root) :
    ∃ source, parsed.root = .ok source ∧ t.MirrorsAll source.statements root.statements := by
  obtain ⟨source, hsource, hlinked⟩ := exists_source_of_linkFile h
  exact ⟨source, hsource, (linkStatements_yields t file .empty ⟨file, []⟩ source.statements
    (faithful_empty t file)).2 _ hlinked⟩

end Table
end Schemata
