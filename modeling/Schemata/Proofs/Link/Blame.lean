import Schemata.Proofs.Build.Places
import Schemata.Proofs.Link.Bases
import Schemata.Proofs.Link.File
import Schemata.Proofs.Path.Map
import Schemata.Proofs.Table.Body
import Schemata.Proofs.Table.Fault

/-!
# What a failure points to

Types are linked where they stand, and aliases and fields may lead into other files. A failure there
is passed on with the reference that led out of the file, so the diagnostic of a file has a range in
the file. Two kinds of failures get no such context: cycles of references, which are made of the
references on them, and bases that do not link below a base in another file.

**Results:**
* `Table.linkInvariant_blames`: every step of linking a type keeps a range in the file of the type.
* `Table.checkBaseCycles_blames`: what the search for cycles of bases points to.
* `Table.linkFile_blames`: what the failure of a file points to.
-/
namespace Schemata

/-- One of the ranges of a diagnostic lies in a file. -/
def Diagnostic.PointsInto (d : Diagnostic) (file : Path) : Prop :=
  ∃ r ∈ d.ranges, (r.file == file) = true

/-- A diagnostic reports that a definition depends on itself. -/
def Diagnostic.IsCycle (d : Diagnostic) : Prop :=
  ∃ name, d.cause = .circularTypeReference name

/-- A diagnostic points into a file, or reports a cycle. -/
def Diagnostic.Blames (d : Diagnostic) (file : Path) : Prop :=
  d.PointsInto file ∨ d.IsCycle

namespace Diagnostic

variable {d : Diagnostic} {file : Path}

theorem pointsInto_of_mem {r : Range} (hr : r ∈ d.ranges) (h : r.file = file) :
    d.PointsInto file :=
  ⟨r, hr, Path.beq_iff.2 (by rw [h])⟩

theorem blames_primary (h : d.primary.file = file) : d.Blames file :=
  .inl (pointsInto_of_mem List.mem_cons_self h)

end Diagnostic

/-- With a range as its context, a failure points to the file of the range. -/
theorem blames_inContext (d : Diagnostic) (range : Range) :
    (inContext d range).Blames range.file := by
  unfold inContext
  split
  · rename_i name hcause
    exact .inr ⟨name, hcause⟩
  · left
    split
    · rename_i hany
      obtain ⟨r, hr, hsame⟩ := List.any_eq_true.1 hany
      have hsame : Range.same r range = true := hsame
      simp only [Range.same, Bool.and_eq_true] at hsame
      exact ⟨r, hr, hsame.1.1⟩
    · refine ⟨range, ?_, Path.beq_iff.2 rfl⟩
      rw [Diagnostic.withContext_ranges]
      exact List.mem_append_right _ List.mem_cons_self

namespace Table

/-! ## References -/

theorem primary_of_resolveFirst {t : Table} {reader : Nat} {scope : Address} {isGlobal : Bool}
    {name : Identifier} {e : Diagnostic}
    (h : t.resolveFirst reader scope isGlobal name = .error e) : e.primary = name.range := by
  unfold resolveFirst at h
  split at h
  · cases h
  · split at h
    · split at h <;> cases h <;> rfl
    · cases h
      rfl

theorem primary_of_checkAccessible {definition name : Identifier} {e : Diagnostic}
    (h : checkAccessible definition name = .error e) : e.primary = name.range := by
  unfold checkAccessible at h
  split at h <;> cases h <;> rfl

theorem primary_of_resolveRest {t : Table} {isElement : Bool} {d : Definition}
    {names : List Identifier} {e : Diagnostic} (h : t.resolveRest isElement d names = .error e) :
    ∃ name ∈ names, e.primary = name.range := by
  induction names generalizing d with
  | nil => cases h
  | cons name rest ih =>
    have hfirst : e.primary = name.range → ∃ n ∈ name :: rest, e.primary = n.range :=
      fun h => ⟨name, List.mem_cons_self, h⟩
    rw [resolveRest] at h
    split at h
    · cases h
      exact hfirst rfl
    · split at h
      · split at h
        · rcases bind_eq_error_iff.1 h with h | ⟨_, _, h⟩
          · exact hfirst (primary_of_checkAccessible h)
          · cases h
        · cases h
          exact hfirst rfl
      · split at h
        · rcases bind_eq_error_iff.1 h with h | ⟨_, _, h⟩
          · exact hfirst (primary_of_checkAccessible h)
          · obtain ⟨n, hn, hprimary⟩ := ih h
            exact ⟨n, List.mem_cons_of_mem _ hn, hprimary⟩
        · cases h
          exact hfirst rfl

/-- A reference that means nothing is reported where it stands. -/
theorem blames_of_resolve {t : Table} {reader : Nat} {scope : Address} {o : Occurrence}
    {r : Reference} {e : Diagnostic} {file : Path}
    (h : t.resolve reader r o.range scope = .error e)
    (hs : (WrittenType.reference o r).StandsIn file) : e.Blames file := by
  obtain ⟨ho, hsegments⟩ := hs
  refine Diagnostic.blames_primary ?_
  unfold resolve at h
  split at h
  · cases h
    exact ho
  · rename_i first rest heq
    rw [heq] at hsegments
    rcases bind_eq_error_iff.1 h with h | ⟨_, _, h⟩
    · rw [primary_of_resolveFirst h]
      exact hsegments first List.mem_cons_self
    · obtain ⟨name, hname, hprimary⟩ := primary_of_resolveRest h
      rw [hprimary]
      exact hsegments name (List.mem_cons_of_mem _ hname)

/-! ## Types -/

/-- What comes of a type that stands in a file has the place of the type, and a failure points into
the file. -/
abbrev BlamesType (file : Path) (type : WrittenType) (x : Except Diagnostic LinkedType) : Prop :=
  Ends x (fun linked => linked.occurrence.range = type.occurrence.range) (·.Blames file)

/-- What comes of several types that stand in a file. -/
abbrev BlamesTypes (file : Path) (types : List WrittenType)
    (x : Except Diagnostic (List LinkedType)) : Prop :=
  Ends x (fun linked => linked.map (·.occurrence.range) = types.map (·.occurrence.range))
    (·.Blames file)

/-- A variant that is refused is reported for itself or for one of its members. -/
theorem checkMembers_blames {o : Occurrence} {members : List WrittenType} {file : Path}
    (hs : (WrittenType.variant o members).StandsIn file) {ms : List LinkedType}
    (hms : ms.map (·.occurrence.range) = members.map (·.occurrence.range)) :
    Ends (checkMembers o.range true (ms.map fun m => (m.occurrence.range, m.isVariant)))
      (fun _ => True) (·.Blames file) := by
  unfold checkMembers
  split
  · exact ends_error (Diagnostic.blames_primary hs.1)
  · rw [if_pos rfl]
    split
    · rename_i nested hnested
      obtain ⟨m, hm, rfl⟩ := List.mem_map.1 (List.mem_of_find?_eq_some hnested)
      -- the member that is refused has the range of a written one
      have hmem := List.mem_map_of_mem (f := (·.occurrence.range)) hm
      rw [hms] at hmem
      obtain ⟨written, hwritten, hrange⟩ := List.mem_map.1 hmem
      refine ends_error (Diagnostic.blames_primary ?_)
      exact hrange ▸ (hs.2.of_mem hwritten).occurrence
    · exact ends_ok trivial

/-- Every step of linking keeps a range in the file of the type. -/
theorem linkInvariant_blames (t : Table) (reader : Nat) :
    t.LinkInvariant reader
      (fun _ _ _ type x => ∀ file, type.StandsIn file → BlamesType file type x.1)
      (fun _ _ _ _ via x => ∀ e, x.1 = .error e → e.Blames via.file)
      (fun _ _ _ types x => ∀ file, WrittenType.AllStandIn file types →
        BlamesTypes file types x.1) where
  fundamental := fun _ _ _ _ _ _ _ => ends_ok rfl
  tuple := by
    intro _ _ _ o members x h file hs
    exact (h file hs.2).bind fun _ _ => ends_ok rfl
  variant := by
    intro _ _ _ o members x h file hs
    exact (h file hs.2).bind fun ms hms =>
      (checkMembers_blames hs hms).bind fun _ _ => ends_ok rfl
  unresolved := fun _ _ _ _ _ _ hr _ hs => ends_error (blames_of_resolve hr hs)
  struct := fun _ _ _ _ _ _ _ _ _ _ _ => ends_ok rfl
  aliasAsked := by
    intro _ _ _ o r d aliased x _ _ h file hs
    have hx : Ends x.1 (fun _ => True) (·.Blames file) :=
      ⟨fun _ _ => trivial, fun e he => hs.1 ▸ h e he⟩
    exact hx.bind fun _ _ => ends_ok rfl
  fieldAgain := fun _ _ _ _ _ _ _ _ _ _ => ends_error (.inr ⟨_, rfl⟩)
  field := by
    intro _ _ _ o r f linked m _ _ _ _ file _
    refine ends_ok ?_
    show (linked.inPlaceOf o).occurrence.range = o.range
    rw [linked.occurrence_inPlaceOf]
  fieldFailed := by
    intro _ _ _ o r f e m _ _ _ _ file hs
    exact ends_error (hs.1 ▸ blames_inContext e o.range)
  remembered := fun _ _ _ _ _ _ _ _ _ he => nomatch he
  aliasAgain := by
    intro _ _ d _ via _ _ e he
    cases he
    exact .inr ⟨_, rfl⟩
  aliasEntered := fun _ _ _ _ _ _ _ _ _ _ _ _ he => nomatch he
  aliasFailed := by
    intro _ _ _ _ via e _ _ _ _ _ e' he
    cases he
    exact blames_inContext e via
  nil := fun _ _ _ _ _ => ends_ok rfl
  cons := by
    intro _ _ _ type rest first m x hfirst hrest file hs
    have hrange := (hfirst file hs.1).ok first rfl
    refine (hrest file hs.2).bind fun ls hls => ends_ok ?_
    rw [List.map_cons, List.map_cons, hrange, hls]
  consFailed := by
    intro _ _ _ type rest e m h file hs
    exact ends_error ((h file hs.1).error e rfl)

/-! ## Where the statements of the table stand -/

variable {files : List ParsedFile} {t : Table} {reader : Nat}

theorem standsIn_of_isBody (hb : BuiltInOrder files) {scope : Address}
    {ss : List (Statement WrittenType)} (h : IsBody files scope ss) :
    ∃ f, files[scope.file]? = some f ∧ Statement.AllStandIn f.path ss := by
  induction h with
  | root hf hr =>
    obtain ⟨source, hsource⟩ := hb _ _ _ hf hr
    exact ⟨_, hf, ((Build.root_stays ⟨_, _⟩ source).ok _ hsource).statements⟩
  | children _ hs ih =>
    obtain ⟨f, hf, hstand⟩ := ih
    exact ⟨f, hf, (hstand.of_mem (List.mem_of_getElem? hs)).2.2⟩

/-- A statement of the table stands in the file to which its address leads. -/
theorem standsIn_of_mem (hb : BuiltInOrder files) {a : Address} {s : Statement WrittenType}
    (h : (a, s) ∈ (ofFiles files).allStatements) :
    ∃ f, files[a.file]? = some f ∧ s.StandsIn f.path := by
  have hs := mem_allStatements_iff.1 h
  unfold statementAt? at hs
  split at hs
  · cases hs
  · have hmem := List.mem_of_getElem? hs
    obtain ⟨f, hf, hstand⟩ := standsIn_of_isBody hb (isBody_of_mem (shows_ofFiles files) hmem)
    exact ⟨f, hf, hstand.of_mem hmem⟩

theorem Holds.bases_standIn (hb : BuiltInOrder files) {d : Definition}
    (h : (ofFiles files).Holds d) {bases : List WrittenType} (hk : d.kind = .struct bases) :
    ∃ f, files[d.address.file]? = some f ∧ WrittenType.AllStandIn f.path bases := by
  obtain ⟨s, hs, hd⟩ := h
  obtain ⟨f, hf, hstand⟩ := standsIn_of_mem hb hs
  refine ⟨f, hf, ?_⟩
  unfold Definition.ofStatement? at hd
  split at hd
  · split at hd
    · injection hd with hd
      rw [← hd] at hk
      cases hk
    · cases hd
  · injection hd with hd
    rw [← hd] at hk
    cases hk
    exact hstand.2.1
  · cases hd

/-! ## Bases -/

/-- Bases lead from a structure of the file to the given one. -/
def ReachedFrom (t : Table) (file : Nat) (d : Definition) : Prop :=
  ∃ s, t.Holds s ∧ s.address.file = file ∧ Reaches (t.BaseEdge file) s d

/-- The failure is that of a base of a structure of another file, to which bases lead from a
structure of the reader. -/
def FailsBelow (t : Table) (reader : Nat) (e : Diagnostic) : Prop :=
  ∃ a bases base memory, t.ReachedFrom reader a ∧ a.address.file ≠ reader ∧
    a.kind = .struct bases ∧ base ∈ bases ∧ t.Faithful reader memory ∧
    (t.linkType reader .empty memory a.address.scope base).1 = .error e

/-- What a failure of a reader points to: the file of the reader, unless it is a cycle or comes of a
base below a base in another file. -/
def Blamed (t : Table) (reader : Nat) (file : Path) (e : Diagnostic) : Prop :=
  e.Blames file ∨ t.FailsBelow reader e

/-- From a faithful memory, the run fails only with what is blamed on the file. -/
def Blames {α : Type} (t : Table) (reader : Nat) (file : Path) (memory : LinkMemory)
    (x : Linked α) : Prop :=
  t.Faithful reader memory → ∀ e, x.1 = .error e → t.Blamed reader file e

theorem blames_ok {α : Type} {file : Path} {memory m : LinkMemory} {a : α} :
    t.Blames reader file memory (.ok a, m) := by
  intro _ e he
  cases he

/-- The bases are among those of a structure to which bases lead from a structure of the reader. -/
structure Below (t : Table) (reader : Nat) (owner : Definition) (scope : Address)
    (bases : List WrittenType) : Prop where
  reached : t.ReachedFrom reader owner
  held : t.Holds owner
  scope : owner.address.scope = scope
  among : ∃ all, owner.kind = .struct all ∧ ∀ base ∈ bases, base ∈ all

section Below

variable {owner : Definition} {scope : Address} {base : WrittenType} {rest : List WrittenType}

theorem Below.tail (h : t.Below reader owner scope (base :: rest)) :
    t.Below reader owner scope rest := by
  obtain ⟨all, hk, hall⟩ := h.among
  exact ⟨h.reached, h.held, h.scope, all, hk, fun b hm => hall b (List.mem_cons_of_mem _ hm)⟩

theorem Below.edge (h : t.Below reader owner scope (base :: rest)) {d : Definition}
    (hd : t.IsBase reader scope base d) : t.BaseEdge reader owner base.occurrence.range d := by
  obtain ⟨all, hk, hall⟩ := h.among
  exact ⟨all, base, hk, hall base List.mem_cons_self, rfl, h.scope ▸ hd⟩

theorem Below.reachedFrom (h : t.Below reader owner scope (base :: rest)) {d : Definition}
    (hd : t.IsBase reader scope base d) : t.ReachedFrom reader d := by
  obtain ⟨s, hs, hfile, hreach⟩ := h.reached
  exact ⟨s, hs, hfile, hreach.snoc (h.edge hd)⟩

/-- A base that does not link is blamed on the file of the reader if it stands there. -/
theorem Below.blamed (hb : BuiltInOrder files)
    (h : (ofFiles files).Below reader owner scope (base :: rest)) {f : ParsedFile}
    (hf : files[reader]? = some f) {memory : LinkMemory}
    (hm : (ofFiles files).Faithful reader memory) {e : Diagnostic}
    (he : ((ofFiles files).linkType reader .empty memory scope base).1 = .error e) :
    (ofFiles files).Blamed reader f.path e := by
  obtain ⟨all, hk, hall⟩ := h.among
  have hbase := hall base List.mem_cons_self
  by_cases hfile : owner.address.file = reader
  · obtain ⟨g, hg, hstand⟩ := h.held.bases_standIn hb hk
    rw [hfile, hf] at hg
    cases hg
    exact .inl (((linkInvariant_blames _ reader).runs.1 .empty memory scope base f.path
      (hstand.of_mem hbase)).error e he)
  · exact .inr ⟨owner, all, base, memory, h.reached, hfile, hk, hbase, hm, h.scope ▸ he⟩

end Below

/-- A base that links with a faithful memory is the structure to which it leads. -/
theorem isBase_of_faithful (hb : BuiltInOrder files) {memory m : LinkMemory}
    (hm : (ofFiles files).Faithful reader memory) {scope : Address} {base : WrittenType}
    {linked : LinkedType}
    (hx : (ofFiles files).linkType reader .empty memory scope base = (.ok linked, m))
    {d : Definition}
    (hd : (linked.structure?.bind fun s => (ofFiles files).definitionOf? s.1) = some d) :
    (ofFiles files).IsBase reader scope base d := by
  have hmeans := (linkType_eq_ok_iff hb hm).1 (congrArg Prod.fst hx)
  exact isBase_of_linked ((linkType_eq_ok_iff hb (faithful_empty _ reader)).2 hmeans) hd

/-- What the search for cycles of bases points to. -/
theorem checkBaseCycles_blames (hb : BuiltInOrder files) {f : ParsedFile}
    (hf : files[reader]? = some f) :
    (∀ trail memory d held via, (ofFiles files).ReachedFrom reader d →
      (ofFiles files).Blames reader f.path memory
        ((ofFiles files).checkBaseCycles reader trail memory d held via)) ∧
    ∀ trail memory scope bases owner, (ofFiles files).Below reader owner scope bases →
      (ofFiles files).Blames reader f.path memory
        ((ofFiles files).checkBasesOf reader trail memory scope bases) := by
  refine checkBaseCycles.mutual_induct_unfolding (ofFiles files) reader
    (fun _ memory d _ _ x => (ofFiles files).ReachedFrom reader d →
      (ofFiles files).Blames reader f.path memory x)
    (fun _ memory scope bases x => ∀ owner, (ofFiles files).Below reader owner scope bases →
      (ofFiles files).Blames reader f.path memory x)
    ?left ?ofAlias ?again ?entered ?failed ?nil ?unlinked ?noStruct ?base ?baseFailed
  case left => exact fun _ _ _ _ _ _ _ => blames_ok
  case ofAlias => exact fun _ _ _ _ _ _ _ _ _ => blames_ok
  case again =>
    intro trail memory d held via hleft bases hk hon _ _ e he
    cases he
    exact .inl (.inr ⟨_, rfl⟩)
  case entered => exact fun _ _ _ _ _ _ _ _ _ _ _ _ _ => blames_ok
  case failed =>
    intro trail memory d held via hleft bases hk fresh e m hx ih hreached hm e' he
    rw [hx] at ih
    cases he
    exact ih d ⟨hreached, held, rfl, bases, hk, fun _ hbase => hbase⟩ hm e rfl
  case nil => exact fun _ _ _ _ _ => blames_ok
  case unlinked =>
    intro trail memory scope base rest e m hx owner hbelow hm e' he
    cases he
    exact hbelow.blamed hb hf hm (congrArg Prod.fst hx)
  case noStruct =>
    intro trail memory scope base rest linked m hx hnone ih owner hbelow hm
    have hm' := hm.linkType .empty scope base
    rw [hx] at hm'
    exact ih owner hbelow.tail hm'
  case base =>
    intro trail memory scope base rest linked m hx d hd held m' hcheck ihd ih owner hbelow hm
    have hm' := hm.linkType .empty scope base
    rw [hx] at hm'
    have hm'' := ((checkBaseCycles_yields _ reader).1 trail m d held base.occurrence.range hm').1
    rw [hcheck] at hm''
    exact ih owner hbelow.tail hm''
  case baseFailed =>
    intro trail memory scope base rest linked m hx d hd held e m' hcheck ihd owner hbelow hm e' he
    have hm' := hm.linkType .empty scope base
    rw [hx] at hm'
    rw [hcheck] at ihd
    cases he
    exact ihd (hbelow.reachedFrom (isBase_of_faithful hb hm hx hd)) hm' e rfl

/-! ## Statements -/

section Statements

variable (hb : BuiltInOrder files) {f : ParsedFile} (hf : files[reader]? = some f) {a : Address}
  (ha : a.file = reader)
include hb hf ha

/-- A statement at an address in the file of the reader stands in that file. -/
theorem standsIn_reader {s : Statement WrittenType}
    (hs : (a, s) ∈ (ofFiles files).allStatements) : s.StandsIn f.path := by
  obtain ⟨g, hg, hstand⟩ := standsIn_of_mem hb hs
  rw [ha, hf] at hg
  cases hg
  exact hstand

theorem linkItem_blames (memory : LinkMemory) {id : ElementId} {range : Range} {name : Identifier}
    {type : WrittenType} (hs : (a, .item id range name type) ∈ (ofFiles files).allStatements) :
    (ofFiles files).Blames reader f.path memory
      ((ofFiles files).linkItem reader memory a.scope id name type) := by
  intro _ e he
  obtain ⟨hname, htype⟩ := standsIn_reader hb hf ha hs
  unfold linkItem at he
  split at he
  · rename_i d _ hd hisType
    -- the definition of the id is the one that the statement makes
    obtain rfl := eq_of_definitionOf? hb hs (if_pos hisType) hd
    exact .inl (hname ▸ (linkInvariant_blames _ reader).runs.2.1 .empty memory _ _ _ _ e he)
  · exact .inl (((linkInvariant_blames _ reader).runs.1 .empty memory a.scope type f.path
      htype).error e he)

theorem linkBases_blames (memory : LinkMemory) {scope : Address} {d : Definition}
    (held : (ofFiles files).Holds d) (hd : d.address = a) {name : Identifier}
    (hname : name.range.file = f.path) {bases : List WrittenType}
    (hbases : WrittenType.AllStandIn f.path bases) :
    (ofFiles files).Blames reader f.path memory
      ((ofFiles files).linkBases reader memory scope d held name bases) := by
  intro hm e he
  have hm' := (linkTypes_finds _ reader .empty memory scope bases hm).1
  unfold linkBases at he
  split at he
  · rename_i hx
    cases he
    exact .inl (((linkInvariant_blames _ reader).runs.2.2 .empty memory scope bases f.path
      hbases).error e (congrArg Prod.fst hx))
  · rename_i linked m hx
    rw [hx] at hm'
    split at he
    · rename_i hcombination
      cases he
      unfold checkBaseCombination at hcombination
      split at hcombination
      · cases hcombination
      · cases hcombination
        exact .inl (Diagnostic.blames_primary hname)
    · split at he
      · cases he
      · rename_i hcheck
        cases he
        have hreached : (ofFiles files).ReachedFrom reader d := ⟨d, held, hd ▸ ha, .refl d⟩
        exact (checkBaseCycles_blames hb hf).1 .empty m d held name.range hreached hm' e
          (congrArg Prod.fst hcheck)

end Statements

/-- What the statements of a file point to when they do not link. -/
theorem linkStatements_blames (hb : BuiltInOrder files) {f : ParsedFile}
    (hf : files[reader]? = some f) :
    (∀ memory scope s a, a.file = reader → a.scope = scope →
      addressed a s ⊆ (ofFiles files).allStatements →
      (ofFiles files).Blames reader f.path memory
        ((ofFiles files).linkStatement reader memory scope s)) ∧
    ∀ memory scope ss index, scope.file = reader →
      addressedIn scope index ss ⊆ (ofFiles files).allStatements →
      (ofFiles files).Blames reader f.path memory
        ((ofFiles files).linkStatements reader memory scope ss) := by
  refine linkStatement.mutual_induct_unfolding (ofFiles files) reader
    (fun memory scope s x => ∀ a, a.file = reader → a.scope = scope →
      addressed a s ⊆ (ofFiles files).allStatements →
      (ofFiles files).Blames reader f.path memory x)
    (fun memory scope ss x => ∀ index, scope.file = reader →
      addressedIn scope index ss ⊆ (ofFiles files).allStatements →
      (ofFiles files).Blames reader f.path memory x)
    ?item ?itemFailed ?undefined ?basesFailed ?struct ?childFailed ?noStruct ?extension ?inclusion
    ?nil ?firstFailed ?cons ?restFailed
  case item => exact fun _ _ _ _ _ _ _ _ _ _ _ _ _ => blames_ok
  case itemFailed =>
    intro memory scope id range name type d m hx a ha hscope hs hm e he
    cases he
    subst hscope
    exact linkItem_blames hb hf ha memory (hs (mem_addressed_self a _)) hm d (congrArg Prod.fst hx)
  case undefined =>
    intro memory scope id range name bases metadata children hnone a ha hscope hs hm e he
    cases he
    exact .inl (Diagnostic.blames_primary
      (standsIn_reader hb hf ha (hs (mem_addressed_self a _))).1)
  case basesFailed =>
    intro memory scope id range name bases metadata children d hd hstruct e m hx a ha hscope hs hm
      e' he
    have hself := hs (mem_addressed_self a _)
    obtain ⟨hname, hbases, -⟩ := standsIn_reader hb hf ha hself
    obtain rfl := eq_of_definitionOf? hb hself rfl hd
    cases he
    exact linkBases_blames hb hf ha memory _ rfl hname hbases hm e (congrArg Prod.fst hx)
  case struct => exact fun _ _ _ _ _ _ _ _ _ _ _ _ _ _ _ _ _ _ _ _ _ _ => blames_ok
  case childFailed =>
    -- the children are linked from what linking the bases remembers
    intro memory scope id range name bases metadata children d hd hstruct linked m hx e m' hc ih a
      ha hscope hs hm e' he
    have hm' := (linkBases_yields _ reader memory scope d (holds_of_definitionOf? hd) name bases
      hm).1
    rw [hx] at hm'
    rw [hc] at ih
    obtain rfl := eq_of_definitionOf? hb (hs (mem_addressed_self a _)) rfl hd
    cases he
    exact ih 0 ha (fun _ hmem => hs (List.mem_cons_of_mem _ hmem)) hm' e rfl
  case noStruct =>
    intro memory scope id range name bases metadata children d hd hstruct a ha hscope hs hm e he
    cases he
    exact .inl (Diagnostic.blames_primary
      (standsIn_reader hb hf ha (hs (mem_addressed_self a _))).1)
  case extension => exact fun _ _ _ _ _ _ _ _ _ => blames_ok
  case inclusion => exact fun _ _ _ _ _ _ _ _ _ => blames_ok
  case nil => exact fun _ _ _ _ _ => blames_ok
  case firstFailed =>
    intro memory scope s rest d m hx ih index hscope hss hm e he
    rw [hx] at ih
    cases he
    have hfirst := List.Subset.trans (List.subset_append_left _ _) hss
    exact ih (scope.child index) hscope rfl hfirst hm d rfl
  case cons => exact fun _ _ _ _ _ _ _ _ _ _ _ _ _ _ _ => blames_ok
  case restFailed =>
    intro memory scope s rest first m hx e m' hrest _ ih index hscope hss hm e' he
    have hm' := (linkStatement_yields _ reader memory scope s hm).1
    rw [hx] at hm'
    rw [hrest] at ih
    cases he
    have hrest := List.Subset.trans (List.subset_append_right _ _) hss
    exact ih (index + 1) hscope hrest hm' e rfl

/-! ## Files -/

/-- What is reported about an include has a range of the include. -/
theorem blames_of_fault {i : Inclusion} {file : Path} (hi : i.StandsIn file) {e : Diagnostic}
    (h : i.Fault files e) : e.PointsInto file := by
  cases h with
  | missing | failed => exact Diagnostic.pointsInto_of_mem List.mem_cons_self hi.filename
  | element hx => exact Diagnostic.pointsInto_of_mem List.mem_cons_self (hi.element _ hx)
  | clash name first hagain =>
    refine Diagnostic.pointsInto_of_mem (List.mem_cons_of_mem _ List.mem_cons_self) ?_
    rcases hagain with rfl | ⟨x, hx, rfl⟩
    · exact hi.filename
    · exact hi.reference x hx

/-- What the failure of a file that has a root points to. -/
theorem linkFile_blames (hb : BuiltInOrder files) {file : Nat} {f : ParsedFile}
    (hf : files[file]? = some f) {root : Root WrittenType} (hr : f.root = .ok root)
    {e : Diagnostic} (h : (ofFiles files).linkFile file f = .error e) :
    (ofFiles files).Blamed file f.path e := by
  obtain ⟨source, hsource⟩ := hb file f root hf hr
  have hroot := (Build.root_stays ⟨f.path, file⟩ source).ok root hsource
  unfold linkFile at h
  rw [hr] at h
  dsimp only at h
  split at h
  · rename_i d hfault
    cases h
    obtain ⟨i, hi, hfault⟩ := fault_of_includeFault? hf hr hfault
    exact .inl (.inl (blames_of_fault (hroot.inclusions hi) hfault))
  · split at h
    · unfold linkRoot at h
      split at h
      · cases h
      · rename_i hx
        cases h
        exact (linkStatements_blames hb hf).2 .empty ⟨file, []⟩ root.statements 0 rfl
          (addressedIn_root_subset hf hr) (faithful_empty _ file) e (congrArg Prod.fst hx)
    · cases h
      exact .inl (Diagnostic.blames_primary hroot.range)

end Table
end Schemata
