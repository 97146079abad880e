import Schemata.Proofs.Link.File
import Schemata.Proofs.Table.Agreement

/-!
# Linking against tables that agree

Two tables that agree on a set of files link what stands there alike, if no reference in these files
is global. The two runs are compared step by step: the steps on their trails are the same, though
the trails are over the ids of different tables, what they remember is the same, and so is what
comes out.

**Results:**
* `Table.linkInvariant_agrees`: each step of linking a type keeps the two runs together.
* `Table.checkBaseCycles_agrees`: so does the search for cycles of bases.
* `Table.linkFile_agrees`: a file of the set is linked to the same result.
-/
namespace Schemata

/-- None of the references is global. -/
def NoneGlobal (references : List (Occurrence × Reference)) : Prop :=
  ∀ x ∈ references, x.2.isGlobal = false

theorem noneGlobal_append {as bs : List (Occurrence × Reference)} :
    NoneGlobal (as ++ bs) ↔ NoneGlobal as ∧ NoneGlobal bs :=
  List.forall_mem_append

namespace Statement

mutual

/-- The references in a statement, those in the body of a structure included. -/
def references : Statement WrittenType → List (Occurrence × Reference)
  | item _ _ _ type => type.references
  | struct _ _ _ bases _ children => WrittenType.referencesIn bases ++ referencesIn children
  | extension .. | inclusion .. => []

/-- The references in some statements. -/
def referencesIn : List (Statement WrittenType) → List (Occurrence × Reference)
  | [] => []
  | s :: ss => s.references ++ referencesIn ss

end

theorem mem_referencesIn {ss : List (Statement WrittenType)} {x : Occurrence × Reference} :
    x ∈ referencesIn ss ↔ ∃ s ∈ ss, x ∈ s.references := by
  induction ss with
  | nil => simp [referencesIn]
  | cons s ss ih => simp [referencesIn, ih]

end Statement

namespace Table

/-! ## References of a file -/

/-- The references in a body are references of its file. -/
theorem referencesIn_bodyAt_subset (t : Table) (file : Nat) (path : List Nat) :
    ∀ x ∈ Statement.referencesIn (t.bodyAt file path),
      x ∈ Statement.referencesIn (t.rootStatements file) := by
  induction path with
  | nil => exact fun _ hx => hx
  | cons index outer ih =>
    intro x hx
    rw [bodyAt] at hx
    split at hx
    · rename_i hs
      refine ih x (Statement.mem_referencesIn.2 ⟨_, List.mem_of_getElem? hs, ?_⟩)
      rw [Statement.references]
      exact List.mem_append_right _ hx
    · cases hx

theorem references_subset {t : Table} {a : Address} {s : Statement WrittenType}
    (h : (a, s) ∈ t.allStatements) :
    ∀ x ∈ s.references, x ∈ Statement.referencesIn (t.rootStatements a.file) := by
  intro x hx
  have hs := mem_allStatements_iff.1 h
  unfold statementAt? at hs
  split at hs
  · cases hs
  · exact referencesIn_bodyAt_subset t a.file _ x
      (Statement.mem_referencesIn.2 ⟨s, List.mem_of_getElem? hs, hx⟩)

theorem HasItem.references_subset {t : Table} {u : Item} (h : t.HasItem u) :
    ∀ x ∈ u.type.references, x ∈ Statement.referencesIn (t.rootStatements u.scope.file) := by
  obtain ⟨a, range, hs, ha⟩ := h
  rw [← ha]
  exact Table.references_subset hs

theorem Holds.references_subset {t : Table} {d : Definition} (h : t.Holds d)
    {bases : List WrittenType} (hk : d.kind = .struct bases) :
    ∀ x ∈ WrittenType.referencesIn bases,
      x ∈ Statement.referencesIn (t.rootStatements d.address.file) := by
  obtain ⟨s, hs, hd⟩ := h
  intro x hx
  refine Table.references_subset hs x ?_
  unfold Definition.ofStatement? at hd
  split at hd
  · split at hd
    · injection hd with hd
      rw [← hd] at hk
      cases hk
    · cases hd
  · injection hd with hd
    rw [← hd] at hk
    cases hk
    rw [Statement.references]
    exact List.mem_append_left _ hx
  · cases hd

/-! ## Types -/

/-- The tables agree on the files of a set, and no reference in these is global. -/
structure AgreeLocally (inside : Nat → Prop) (t t' : Table) : Prop extends Agree inside t t' where
  noneGlobal : ∀ file, inside file → NoneGlobal (Statement.referencesIn (t.rootStatements file))

section Types

variable {inside : Nat → Prop} {t t' : Table} {reader : Nat}

namespace AgreeLocally

variable (h : AgreeLocally inside t t')
include h

theorem resolve_of_reference {scope : Address} (hs : inside scope.file) {o : Occurrence}
    {r : Reference} (hl : NoneGlobal (WrittenType.reference o r).references)
    {x : Except Diagnostic ReferenceTarget} (hr : t.resolve reader r o.range scope = x) :
    t'.resolve reader r o.range scope = x := by
  rw [← h.resolve_eq (hl (o, r) (by simp [WrittenType.references])) o.range hs]
  exact hr

/-- An alias or a field that a reference in the set means has a type of the set. -/
theorem item_of_reference {scope : Address} (hs : inside scope.file) {o : Occurrence}
    {r : Reference} (hl : NoneGlobal (WrittenType.reference o r).references)
    {target : ReferenceTarget} (hr : t.resolve reader r o.range scope = .ok target) {u : Item}
    (hu : target.item? = some u) :
    inside u.scope.file ∧ NoneGlobal u.type.references := by
  have hin : inside target.file :=
    h.inside_of_resolve (hl (o, r) (by simp [WrittenType.references])) hs hr
  have hfile : u.scope.file = target.file := by
    cases target with
    | definition d =>
      simp only [ReferenceTarget.item?] at hu
      split at hu
      · cases hu
        rfl
      · cases hu
    | field f =>
      cases hu
      rfl
  rw [hfile]
  refine ⟨hin, fun x hx => h.noneGlobal _ hin x ?_⟩
  rw [← hfile]
  exact (hasItem_of_resolve hr hu).references_subset x hx

end AgreeLocally

theorem stepIds_congr {ids ids' : List ElementId} {trail : Trail ids} {trail' : Trail ids'}
    (h : trail'.steps = trail.steps) : trail'.stepIds = trail.stepIds := by
  rw [Trail.stepIds, Trail.stepIds, h]

theorem cycle_congr {ids ids' : List ElementId} {trail : Trail ids} {trail' : Trail ids'}
    (h : trail'.steps = trail.steps) (id : ElementId) (name : Identifier) (via : Range) :
    trail'.cycle id name via = trail.cycle id name via := by
  rw [Trail.cycle, Trail.cycle, Trail.since, Trail.since, h]

theorem push_congr {ids ids' : List ElementId} {trail : Trail ids} {trail' : Trail ids'}
    (h : trail'.steps = trail.steps) {step : TrailStep} (fresh : step.id ∉ trail.stepIds)
    (known : step.id ∈ ids) (fresh' : step.id ∉ trail'.stepIds) (known' : step.id ∈ ids') :
    (trail'.push step fresh' known').steps = (trail.push step fresh known).steps :=
  congrArg (step :: ·) h

/-! The trails of the two runs are over the ids of different tables, so what is said about the other
run is said for every trail with the same steps. -/

/-- The other table links a type of the set to the given outcome. -/
def LinksType (inside : Nat → Prop) (t' : Table) (reader : Nat) {ids : List ElementId}
    (trail : Trail ids) (memory : LinkMemory) (scope : Address) (type : WrittenType)
    (x : Linked LinkedType) : Prop :=
  inside scope.file → NoneGlobal type.references → ∀ trail' : Trail t'.itemIds,
    trail'.steps = trail.steps → t'.linkType reader trail' memory scope type = x

/-- The other table links an alias of the set to the given outcome. -/
def LinksAlias (inside : Nat → Prop) (t' : Table) (reader : Nat) {ids : List ElementId}
    (trail : Trail ids) (memory : LinkMemory) (d : Definition) (aliased : WrittenType)
    (via : Range) (x : Linked LinkedType) : Prop :=
  inside d.address.file → NoneGlobal aliased.references → ∀ trail' : Trail t'.itemIds,
    trail'.steps = trail.steps → ∀ known : d.id ∈ t'.itemIds,
      t'.linkAlias reader trail' memory d aliased known via = x

/-- The other table links types of the set to the given outcome. -/
def LinksTypes (inside : Nat → Prop) (t' : Table) (reader : Nat) {ids : List ElementId}
    (trail : Trail ids) (memory : LinkMemory) (scope : Address) (types : List WrittenType)
    (x : Linked (List LinkedType)) : Prop :=
  inside scope.file → NoneGlobal (WrittenType.referencesIn types) → ∀ trail' : Trail t'.itemIds,
    trail'.steps = trail.steps → t'.linkTypes reader trail' memory scope types = x

/-- Each step of linking is the same step against the other table. -/
theorem linkInvariant_agrees (h : AgreeLocally inside t t') (reader : Nat) :
    t.LinkInvariant reader (LinksType inside t' reader) (LinksAlias inside t' reader)
      (LinksTypes inside t' reader) where
  fundamental := by
    intro trail memory scope o f _ _ trail' _
    rw [linkType]
  tuple := by
    intro trail memory scope o members x ih hs hl trail' ht
    rw [linkType_tuple, ih hs hl trail' ht]
  variant := by
    intro trail memory scope o members x ih hs hl trail' ht
    rw [linkType_variant, ih hs hl trail' ht]
  unresolved := by
    intro trail memory scope o r e hr hs hl trail' _
    exact linkType_unresolved (h.resolve_of_reference hs hl hr)
  struct := by
    intro trail memory scope o r d bases hr hk hs hl trail' _
    exact linkType_struct (h.resolve_of_reference hs hl hr) hk
  aliasAsked := by
    intro trail memory scope o r d aliased x hr hk ih hs hl trail' ht
    have hr' := h.resolve_of_reference hs hl hr
    have known : d.id ∈ t'.itemIds := Holds.id_mem_itemIds (holdsTarget_of_resolve hr') hk
    obtain ⟨hin, hplain⟩ := h.item_of_reference hs hl hr (u := .ofAlias d aliased)
      (by simp only [ReferenceTarget.item?, hk])
    rw [linkType_alias hr' hk known, ih hin hplain trail' ht known]
  fieldAgain := by
    intro trail memory scope o r f hr hon hs hl trail' ht
    rw [linkType_again (h.resolve_of_reference hs hl hr) (stepIds_congr ht ▸ hon), cycle_congr ht]
  field := by
    intro trail memory scope o r f linked m fresh known hr ih hs hl trail' ht
    have hr' := h.resolve_of_reference hs hl hr
    obtain ⟨hin, hplain⟩ := h.item_of_reference hs hl hr (u := .ofField f) rfl
    have fresh' : f.id ∉ trail'.stepIds := stepIds_congr ht ▸ fresh
    have known' : f.id ∈ t'.itemIds := holdsTarget_of_resolve hr'
    rw [linkType_field hr' fresh' known',
      ih hin hplain _ (push_congr ht fresh known fresh' known')]
    rfl
  fieldFailed := by
    intro trail memory scope o r f e m fresh known hr ih hs hl trail' ht
    have hr' := h.resolve_of_reference hs hl hr
    obtain ⟨hin, hplain⟩ := h.item_of_reference hs hl hr (u := .ofField f) rfl
    have fresh' : f.id ∉ trail'.stepIds := stepIds_congr ht ▸ fresh
    have known' : f.id ∈ t'.itemIds := holdsTarget_of_resolve hr'
    rw [linkType_field hr' fresh' known',
      ih hin hplain _ (push_congr ht fresh known fresh' known')]
    rfl
  remembered := by
    intro trail memory d aliased via a linked hfind _ _ trail' _ known
    exact linkAlias_remembered hfind
  aliasAgain := by
    intro trail memory d aliased via hfind hon _ _ trail' ht known
    rw [linkAlias_again hfind (stepIds_congr ht ▸ hon), cycle_congr ht]
  aliasEntered := by
    intro trail memory d aliased via linked m fresh known hfind ih hs hl trail' ht known'
    have fresh' : d.id ∉ trail'.stepIds := stepIds_congr ht ▸ fresh
    exact linkAlias_entered hfind fresh' known'
      (ih hs hl _ (push_congr ht fresh known fresh' known'))
  aliasFailed := by
    intro trail memory d aliased via e m fresh known hfind ih hs hl trail' ht known'
    have fresh' : d.id ∉ trail'.stepIds := stepIds_congr ht ▸ fresh
    exact linkAlias_failed hfind fresh' known'
      (ih hs hl _ (push_congr ht fresh known fresh' known'))
  nil := fun _ _ _ _ _ _ _ => linkTypes_nil
  cons := by
    intro trail memory scope type rest first m x hfirst hrest hs hl trail' ht
    obtain ⟨hl, hls⟩ := noneGlobal_append.1 hl
    rw [linkTypes_cons_of_ok (hfirst hs hl trail' ht), hrest hs hls trail' ht]
  consFailed := by
    intro trail memory scope type rest e m hfirst hs hl trail' ht
    exact linkTypes_cons_of_error (hfirst hs (noneGlobal_append.1 hl).1 trail' ht)

/-! ## Handles of the set -/

mutual

/-- The handles in what a type of the set means are on structures of the set. -/
theorem Means.inside (h : AgreeLocally inside t t') {scope : Address} {type : WrittenType}
    {linked : LinkedType} (hm : t.Means reader scope type linked) (hs : inside scope.file)
    (hl : NoneGlobal type.references) : ∀ x ∈ linked.handles, inside x.1.file := by
  match hm with
  | .fundamental .. => exact fun _ hx => nomatch hx
  | .tuple hm | .variant hm _ => exact hm.inside h hs hl
  | .ofStruct hr hk =>
    intro x hx
    rw [LinkedType.handles, List.mem_singleton] at hx
    subst hx
    have hin := h.inside_of_resolve (hl _ (List.mem_singleton_self _)) hs hr
    rw [h.home _ (holdsTarget_of_resolve hr)]
    exact hin
  | @Means.ofAlias _ _ _ _ _ d aliased _ hr hk hm =>
    obtain ⟨hin, hplain⟩ := h.item_of_reference hs hl hr (u := .ofAlias d aliased)
      (by simp only [ReferenceTarget.item?, hk])
    exact hm.inside h hin hplain
  | .ofField hr hm hp =>
    obtain ⟨hin, hplain⟩ := h.item_of_reference hs hl hr (u := .ofField _) rfl
    rw [hp, LinkedType.inPlaceOf, LinkedType.handles_withOccurrence]
    exact hm.inside h hin hplain

theorem MeansAll.inside (h : AgreeLocally inside t t') {scope : Address}
    {types : List WrittenType} {linked : List LinkedType}
    (hm : t.MeansAll reader scope types linked) (hs : inside scope.file)
    (hl : NoneGlobal (WrittenType.referencesIn types)) :
    ∀ x ∈ LinkedType.handlesOf linked, inside x.1.file := by
  match hm with
  | .nil _ => exact fun _ hx => nomatch hx
  | .cons hm hms =>
    obtain ⟨hl, hls⟩ := noneGlobal_append.1 hl
    intro x hx
    rcases List.mem_append.1 hx with hx | hx
    · exact hm.inside h hs hl x hx
    · exact hms.inside h hs hls x hx

end

/-! ## Bases -/

section Bases

variable (h : AgreeLocally inside t t')
include h

theorem AgreeLocally.linkType_eq {scope : Address} (hs : inside scope.file) {type : WrittenType}
    (hl : NoneGlobal type.references) (memory : LinkMemory) :
    t'.linkType reader .empty memory scope type = t.linkType reader .empty memory scope type :=
  (linkInvariant_agrees h reader).runs.1 .empty memory scope type hs hl .empty rfl

theorem AgreeLocally.linkTypes_eq {scope : Address} (hs : inside scope.file)
    {types : List WrittenType} (hl : NoneGlobal (WrittenType.referencesIn types))
    (memory : LinkMemory) :
    t'.linkTypes reader .empty memory scope types = t.linkTypes reader .empty memory scope types :=
  (linkInvariant_agrees h reader).runs.2.2 .empty memory scope types hs hl .empty rfl

theorem AgreeLocally.noneGlobal_bases {d : Definition} (hs : inside d.address.file)
    (held : t.Holds d) {bases : List WrittenType} (hk : d.kind = .struct bases) :
    NoneGlobal (WrittenType.referencesIn bases) :=
  fun x hx => h.noneGlobal _ hs x (held.references_subset hk x hx)

theorem AgreeLocally.inside_of_definitionOf? {id : ElementId} (hid : inside id.file)
    {d : Definition} (hd : t.definitionOf? id = some d) : inside d.address.file := by
  rw [← h.home d (holds_of_definitionOf? hd), id_of_definitionOf? hd]
  exact hid

section Base

variable {scope : Address} (hs : inside scope.file) {base : WrittenType}
  (hl : NoneGlobal base.references) {memory m : LinkMemory} (hm : t.Faithful reader memory)
  {linked : LinkedType} (hx : t.linkType reader .empty memory scope base = (.ok linked, m))
include hs hl hm hx

theorem AgreeLocally.inside_of_structure? {s : ElementId × Identifier}
    (hstruct : linked.structure? = some s) : inside s.1.file := by
  have hmeans := (linkType_finds t reader .empty memory scope base hm).2.2
  rw [hx] at hmeans
  exact (hmeans linked rfl).inside h hs hl s (linked.mem_handles_of_structure? hstruct)

/-- The tables find the same structure for a linked base. -/
theorem AgreeLocally.baseOf_eq :
    (linked.structure?.bind fun s => t'.definitionOf? s.1) =
      linked.structure?.bind fun s => t.definitionOf? s.1 := by
  cases hstruct : linked.structure? with
  | none => rfl
  | some s => exact (h.definition s.1 (h.inside_of_structure? hs hl hm hx hstruct)).symm

theorem AgreeLocally.inside_of_baseOf {d : Definition}
    (hd : (linked.structure?.bind fun s => t.definitionOf? s.1) = some d) :
    inside d.address.file := by
  obtain ⟨s, hstruct, hd⟩ := Option.bind_eq_some_iff.1 hd
  exact h.inside_of_definitionOf? (h.inside_of_structure? hs hl hm hx hstruct) hd

end Base

/-- The search from a structure of the set has the given outcome against the other table. -/
def SearchesStruct (inside : Nat → Prop) (t t' : Table) (reader : Nat) (trail : Trail t.structIds)
    (memory : LinkMemory) (d : Definition) (via : Range) (x : Linked Unit) : Prop :=
  t.Faithful reader memory → inside d.address.file → ∀ trail' : Trail t'.structIds,
    trail'.steps = trail.steps → ∀ held : t'.Holds d,
      t'.checkBaseCycles reader trail' memory d held via = x

/-- The search from bases of the set has the given outcome against the other table. -/
def SearchesBases (inside : Nat → Prop) (t t' : Table) (reader : Nat) (trail : Trail t.structIds)
    (memory : LinkMemory) (scope : Address) (bases : List WrittenType) (x : Linked Unit) : Prop :=
  t.Faithful reader memory → inside scope.file → NoneGlobal (WrittenType.referencesIn bases) →
    ∀ trail' : Trail t'.structIds, trail'.steps = trail.steps →
      t'.checkBasesOf reader trail' memory scope bases = x

/-- The search for cycles of bases takes the same steps against the other table. -/
theorem AgreeLocally.checkBaseCycles_agrees (reader : Nat) :
    (∀ trail memory d held via, SearchesStruct inside t t' reader trail memory d via
      (t.checkBaseCycles reader trail memory d held via)) ∧
    ∀ trail memory scope bases, SearchesBases inside t t' reader trail memory scope bases
      (t.checkBasesOf reader trail memory scope bases) := by
  refine checkBaseCycles.mutual_induct_unfolding t reader
    (fun trail memory d _ via x => SearchesStruct inside t t' reader trail memory d via x)
    (SearchesBases inside t t' reader)
    ?left ?ofAlias ?again ?entered ?failed ?nil ?unlinked ?noStruct ?base ?baseFailed
  case left =>
    intro trail memory d held via hleft hm hs trail' ht held'
    rw [checkBaseCycles, if_pos hleft]
  case ofAlias =>
    intro trail memory d held via hleft aliased hk hm hs trail' ht held'
    rw [checkBaseCycles, if_neg hleft]
    split
    · rfl
    · simp_all
  case again =>
    intro trail memory d held via hleft bases hk hon hm hs trail' ht held'
    rw [checkBaseCycles_again hleft hk (stepIds_congr ht ▸ hon), cycle_congr ht]
  case entered =>
    -- the bases of a structure of the set are searched with the structure on both trails
    intro trail memory d held via hleft bases hk fresh m hx ih hm hs trail' ht held'
    have fresh' : d.id ∉ trail'.stepIds := stepIds_congr ht ▸ fresh
    have known' := held'.id_mem_structIds hk
    rw [hx] at ih
    rw [checkBaseCycles_enter hleft hk fresh' known', ih hm hs (h.noneGlobal_bases hs held hk) _
      (push_congr ht fresh (held.id_mem_structIds hk) fresh' known')]
  case failed =>
    intro trail memory d held via hleft bases hk fresh e m hx ih hm hs trail' ht held'
    have fresh' : d.id ∉ trail'.stepIds := stepIds_congr ht ▸ fresh
    have known' := held'.id_mem_structIds hk
    rw [hx] at ih
    rw [checkBaseCycles_enter hleft hk fresh' known', ih hm hs (h.noneGlobal_bases hs held hk) _
      (push_congr ht fresh (held.id_mem_structIds hk) fresh' known')]
  case nil =>
    intro trail memory scope hm hs hl trail' ht
    rw [checkBasesOf]
  case unlinked =>
    intro trail memory scope base rest e m hx hm hs hl trail' ht
    rw [checkBasesOf, h.linkType_eq hs (noneGlobal_append.1 hl).1, hx]
  case noStruct =>
    intro trail memory scope base rest linked m hx hnone ih hm hs hl trail' ht
    obtain ⟨hl, hls⟩ := noneGlobal_append.1 hl
    have hm' := hm.linkType .empty scope base
    rw [hx] at hm'
    rw [checkBasesOf_of_none ((h.linkType_eq hs hl memory).trans hx)
      ((h.baseOf_eq hs hl hm hx).trans hnone)]
    exact ih hm' hs hls trail' ht
  case base =>
    intro trail memory scope base rest linked m hx d hd held m' hcheck ihd ih hm hs hl trail' ht
    obtain ⟨hl, hls⟩ := noneGlobal_append.1 hl
    have hm' := hm.linkType .empty scope base
    rw [hx] at hm'
    -- as the memory was faithful, the base leads to a structure of the set
    have hd' := (h.baseOf_eq hs hl hm hx).trans hd
    have hm'' := ((checkBaseCycles_yields t reader).1 trail m d held base.occurrence.range hm').1
    rw [hcheck] at hm'' ihd
    rw [checkBasesOf_of_some ((h.linkType_eq hs hl memory).trans hx) hd',
      ihd hm' (h.inside_of_baseOf hs hl hm hx hd) trail' ht]
    exact ih hm'' hs hls trail' ht
  case baseFailed =>
    intro trail memory scope base rest linked m hx d hd held e m' hcheck ihd hm hs hl trail' ht
    obtain ⟨hl, hls⟩ := noneGlobal_append.1 hl
    have hm' := hm.linkType .empty scope base
    rw [hx] at hm'
    have hd' := (h.baseOf_eq hs hl hm hx).trans hd
    rw [hcheck] at ihd
    rw [checkBasesOf_of_some ((h.linkType_eq hs hl memory).trans hx) hd',
      ihd hm' (h.inside_of_baseOf hs hl hm hx hd) trail' ht]

/-! ## Statements -/

theorem AgreeLocally.linkDefinition_eq (memory : LinkMemory) {d : Definition}
    (hs : inside d.address.file) (held : t.Holds d) (held' : t'.Holds d) (via : Range) :
    t'.linkDefinition reader memory d held' via = t.linkDefinition reader memory d held via := by
  rw [linkDefinition, linkDefinition]
  split
  · rename_i aliased hk
    have hplain : NoneGlobal aliased.references :=
      fun x hx => h.noneGlobal _ hs x ((hasItem_of_holds held hk).references_subset x hx)
    exact (linkInvariant_agrees h reader).runs.2.1 .empty memory d aliased _ via hs hplain .empty
      rfl _
  · rfl

theorem AgreeLocally.linkItem_eq (memory : LinkMemory) {scope : Address} (hs : inside scope.file)
    {id : ElementId} (hid : inside id.file) (name : Identifier) {type : WrittenType}
    (hl : NoneGlobal type.references) :
    t'.linkItem reader memory scope id name type = t.linkItem reader memory scope id name type := by
  have hdef := h.definition id hid
  unfold linkItem
  split
  · rename_i d hd' hname
    split
    · rename_i e hd _
      obtain rfl : d = e := by simpa [hdef, hd'] using hd
      exact h.linkDefinition_eq memory (h.inside_of_definitionOf? hid hd) _ _ name.range
    · simp_all
  · rename_i hno
    split
    · rename_i d hd hname
      exact absurd hname (hno d (hdef.symm.trans hd))
    · exact h.linkType_eq hs hl memory

theorem AgreeLocally.linkBases_eq {memory : LinkMemory} (hm : t.Faithful reader memory)
    {scope : Address} (hs : inside scope.file) {d : Definition} (hd : inside d.address.file)
    (held : t.Holds d) (held' : t'.Holds d) (name : Identifier) {bases : List WrittenType}
    (hl : NoneGlobal (WrittenType.referencesIn bases)) :
    t'.linkBases reader memory scope d held' name bases =
      t.linkBases reader memory scope d held name bases := by
  unfold linkBases
  rw [h.linkTypes_eq hs hl]
  split
  · rfl
  · rename_i linked m hx
    have hm' := (linkTypes_finds t reader .empty memory scope bases hm).1
    rw [hx] at hm'
    split
    · rfl
    · rw [(h.checkBaseCycles_agrees reader).1 .empty m d held name.range hm' hd .empty rfl held']

end Bases

section Struct

variable {id : ElementId} {range : Range} {name : Identifier} {bases : List WrittenType}
  {metadata : Option Metadata} {children : List (Statement WrittenType)} {memory : LinkMemory}
  {scope : Address}

theorem linkStatement_of_none (h : t.definitionOf? id = none) :
    t.linkStatement reader memory scope (.struct id range name bases metadata children) =
      (.error (unknownName name), memory) := by
  rw [linkStatement]
  split <;> simp_all

theorem linkStatement_of_definition {d : Definition} (h : t.definitionOf? id = some d) :
    t.linkStatement reader memory scope (.struct id range name bases metadata children) =
      if d.isStruct then
        match t.linkBases reader memory scope d (holds_of_definitionOf? h) name bases with
        | (.error e, memory) => (.error e, memory)
        | (.ok linked, memory) =>
          match t.linkStatements reader memory d.address children with
          | (.ok children, memory) =>
            (.ok (.struct id range name linked metadata children), memory)
          | (.error e, memory) => (.error e, memory)
      else (.error (unknownName name), memory) := by
  rw [linkStatement]
  split
  · simp_all
  · rename_i e he
    obtain rfl : d = e := by simpa [h] using he
    rfl

end Struct

mutual

theorem AgreeLocally.linkStatement_eq (h : AgreeLocally inside t t') {memory : LinkMemory}
    (hm : t.Faithful reader memory) {scope : Address} (hs : inside scope.file)
    (s : Statement WrittenType) (hids : ∀ id ∈ s.nodeIds, inside id.file)
    (hl : NoneGlobal s.references) :
    t'.linkStatement reader memory scope s = t.linkStatement reader memory scope s := by
  match s with
  | .item id range name type =>
    rw [linkStatement, linkStatement, h.linkItem_eq memory hs (hids id List.mem_cons_self) name hl]
  | .struct id range name bases metadata children =>
    -- the id tells that the definition, and so the scope of the children, is of the set
    have hid := hids id List.mem_cons_self
    obtain ⟨hbases, hchildren⟩ := noneGlobal_append.1 hl
    cases hd : t.definitionOf? id with
    | none =>
      rw [linkStatement_of_none hd, linkStatement_of_none ((h.definition id hid).symm.trans hd)]
    | some d =>
      have hin := h.inside_of_definitionOf? hid hd
      have hyields := linkBases_yields t reader memory scope d (holds_of_definitionOf? hd) name
        bases hm
      rw [linkStatement_of_definition hd,
        linkStatement_of_definition ((h.definition id hid).symm.trans hd),
        h.linkBases_eq hm hs hin (holds_of_definitionOf? hd) _ name hbases]
      split
      · split
        · rfl
        · rename_i linked m hx
          rw [hx] at hyields
          rw [h.linkStatements_eq hyields.1 hin children (fun i hi => hids i
            (List.mem_cons_of_mem _ (List.mem_append_right _ hi))) hchildren]
      · rfl
  | .extension id range call => rw [linkStatement, linkStatement]
  | .inclusion id range i => rw [linkStatement, linkStatement]

theorem AgreeLocally.linkStatements_eq (h : AgreeLocally inside t t') {memory : LinkMemory}
    (hm : t.Faithful reader memory) {scope : Address} (hs : inside scope.file)
    (ss : List (Statement WrittenType)) (hids : ∀ id ∈ Statement.nodeIdsOf ss, inside id.file)
    (hl : NoneGlobal (Statement.referencesIn ss)) :
    t'.linkStatements reader memory scope ss = t.linkStatements reader memory scope ss := by
  match ss with
  | [] => rw [linkStatements, linkStatements]
  | s :: rest =>
    obtain ⟨hl, hls⟩ := noneGlobal_append.1 hl
    have hyields := linkStatement_yields t reader memory scope s hm
    rw [linkStatements, linkStatements, h.linkStatement_eq hm hs s
      (fun i hi => hids i (List.mem_append_left _ hi)) hl]
    split
    · rfl
    · rename_i linked m hx
      rw [hx] at hyields
      rw [h.linkStatements_eq hyields.1 hs rest (fun i hi => hids i (List.mem_append_right _ hi))
        hls]

end

/-- A file of the set is linked to the same result. -/
theorem AgreeLocally.linkFile_eq (h : AgreeLocally inside t t') {file : Nat} (hs : inside file)
    {f f' : ParsedFile} (hf : t.root? file = some f.root) (hroot : f'.root = f.root)
    (hids : ∀ root, f.root = .ok root → ∀ id ∈ Statement.nodeIdsOf root.statements,
      inside id.file) :
    t'.linkFile file f' = t.linkFile file f := by
  unfold linkFile
  rw [hroot, ← h.fault file hs, ← hasRoot_congr (h.root file hs)]
  split
  · rfl
  · rename_i root hr
    split
    · rfl
    · have hhas : t.hasRoot file = true := by
        rw [hasRoot_eq, hf, hr]
        rfl
      have hstatements : t.rootStatements file = root.statements := by
        rw [rootStatements_eq, hf, hr]
      have hscope : inside (⟨file, []⟩ : Address).file := hs
      rw [if_pos hhas, if_pos hhas, linkRoot, linkRoot,
        h.linkStatements_eq (faithful_empty t file) hscope root.statements (hids root hr)
          (hstatements ▸ h.noneGlobal file hs)]

end Types

end Table
end Schemata
