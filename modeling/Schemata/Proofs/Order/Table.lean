import Schemata.Proofs.Link.Item
import Schemata.Proofs.Order.Arrangement
import Schemata.Proofs.Order.Includes
import Schemata.Proofs.Table.Lexical

/-!
# Names in another order

When the bodies of the files of a table are rearranged and their nodes renumbered, every name means
what it meant before: the definition or the field that is found is the same one, moved to its new
address and with its new number. Nothing is said here about how the numbers came about.

**Results:**
* `Reorders.isBody`: the bodies of the one files are those of the other in another order.
* `Reorders.includeFault?`: no include fails that did not.
* `Reorders.resolve`: references mean the same.
-/
namespace Schemata

/-- What a definition is, with other numbers. -/
def DefinitionKind.renumbered (ρ : Nat → Nat → Nat) : DefinitionKind → DefinitionKind
  | .struct bases => .struct (bases.map (WrittenType.renumbered ρ))
  | .alias type => .alias (type.renumbered ρ)

/-- The definition where the arrangement moves it, with other numbers. -/
def Definition.moved (order : Arrangement) (ρ : Nat → Nat → Nat) (d : Definition) : Definition :=
  ⟨d.address.moved order, d.id.renumbered ρ, d.name, d.kind.renumbered ρ⟩

/-- The field where the arrangement moves it, with other numbers. -/
def Field.moved (order : Arrangement) (ρ : Nat → Nat → Nat) (f : Field) : Field :=
  ⟨f.scope.moved order, f.id.renumbered ρ, f.range, f.name, f.type.renumbered ρ⟩

/-- What a reference means, where the arrangement moves it. -/
def ReferenceTarget.moved (order : Arrangement) (ρ : Nat → Nat → Nat) :
    ReferenceTarget → ReferenceTarget
  | .definition d => .definition (d.moved order ρ)
  | .field f => .field (f.moved order ρ)

variable {order : Arrangement} {ρ : Nat → Nat → Nat}

theorem Definition.kind_moved {d : Definition} {kind : DefinitionKind} (hk : d.kind = kind) :
    (d.moved order ρ).kind = kind.renumbered ρ := by
  rw [moved, hk]

theorem Definition.isStruct_moved (d : Definition) : (d.moved order ρ).isStruct = d.isStruct := by
  obtain ⟨a, id, name, kind⟩ := d
  cases kind <;> rfl

theorem ofStatement?_twin (a : Address) (s : Statement WrittenType) :
    Definition.ofStatement? (a.moved order) (s.twin order ρ (WrittenType.renumbered ρ) a) =
      (Definition.ofStatement? a s).map (Definition.moved order ρ) := by
  cases s with
  | item id range name type =>
    rw [Statement.twin, Statement.rearranged, Statement.renumbered, Definition.ofStatement?,
      Definition.ofStatement?]
    split <;> rfl
  | struct | extension | inclusion => rfl

theorem fieldOfStatement?_twin (scope a : Address) (s : Statement WrittenType) :
    Field.ofStatement? (scope.moved order) (s.twin order ρ (WrittenType.renumbered ρ) a) =
      (Field.ofStatement? scope s).map (Field.moved order ρ) := by
  cases s with
  | item id range name type =>
    rw [Statement.twin, Statement.rearranged, Statement.renumbered, Field.ofStatement?,
      Field.ofStatement?]
    split <;> rfl
  | struct | extension | inclusion => rfl

/-- The files are those of the other list with their bodies in another order and with other numbers.
All of them were built, before and after, and no include failed before. -/
structure Reorders (order : Arrangement) (ρ : Nat → Nat → Nat) (files files' : List ParsedFile) :
    Prop where
  built : BuiltInOrder files
  built' : BuiltInOrder files'
  distinct : DistinctPaths files
  distinct' : DistinctPaths files'
  noFault : ∀ i, (Table.ofFiles files).includeFault? i = none
  length : files'.length = files.length
  file : ∀ (i : Nat) (f : ParsedFile), files[i]? = some f → ∃ root, f.root = .ok root ∧
    files'[i]? = some
      ⟨f.path, .ok ((root.rearranged order i).renumbered ρ (WrittenType.renumbered ρ))⟩
  arranged : ∀ (i : Nat) (f : ParsedFile) (root : Root WrittenType), files[i]? = some f →
    f.root = .ok root →
    (order ⟨i, []⟩).Perm (List.range root.statements.length) ∧
      Statement.ArrangedFrom order ⟨i, []⟩ 0 root.statements

theorem IsBody.unique {files : List ParsedFile} {scope : Address}
    {ss ss' : List (Statement WrittenType)} (h : IsBody files scope ss)
    (h' : IsBody files scope ss') : ss = ss' := by
  rw [← Table.statementsIn_of_isBody (Table.shows_ofFiles files) h,
    ← Table.statementsIn_of_isBody (Table.shows_ofFiles files) h']

theorem Table.holds_of_memberType? {t : Table} {d e : Definition} {name : String}
    (he : t.memberType? d name = some e) : t.Holds e := by
  unfold Table.memberType? at he
  split at he
  · exact Table.holds_of_typeIn? he
  · cases he

namespace Reorders
open Table

variable {files files' : List ParsedFile} {scope : Address} {ss : List (Statement WrittenType)}
  {name : String} (h : Reorders order ρ files files')
include h

/-! ## Bodies -/

/-- A file of the new list comes of the one at its place. -/
theorem exists_file {i : Nat} {g : ParsedFile} (hg : files'[i]? = some g) :
    ∃ f root, files[i]? = some f ∧ f.root = .ok root ∧
      g = ⟨f.path, .ok ((root.rearranged order i).renumbered ρ (WrittenType.renumbered ρ))⟩ := by
  have hlt := (List.getElem?_eq_some_iff.1 hg).1
  rw [h.length] at hlt
  obtain ⟨root, hr, hg'⟩ := h.file i _ (List.getElem?_eq_getElem hlt)
  rw [hg, Option.some.injEq] at hg'
  exact ⟨_, root, List.getElem?_eq_getElem hlt, hr, hg'⟩

theorem arranged_of_isBody (body : IsBody files scope ss) :
    (order scope).Perm (List.range ss.length) ∧ Statement.ArrangedFrom order scope 0 ss := by
  induction body with
  | root hf hr => exact h.arranged _ _ _ hf hr
  | @children _ _ index _ _ _ _ _ _ _ hs ih =>
    have hchild := ih.2.getElem? hs
    rwa [Nat.zero_add] at hchild

theorem perm (body : IsBody files scope ss) : (order scope).Perm (List.range ss.length) :=
  (h.arranged_of_isBody body).1

/-- The bodies are the same in another order. -/
theorem isBody (body : IsBody files scope ss) :
    IsBody files' (scope.moved order)
      (Statement.twins order ρ (WrittenType.renumbered ρ) scope ss) := by
  induction body with
  | @root i f root hf hr =>
    obtain ⟨root', hr', hf'⟩ := h.file _ _ hf
    cases hr.symm.trans hr'
    exact IsBody.root hf' rfl
  | @children scope _ index _ _ _ _ _ _ outer hs ih =>
    rw [Address.moved_child]
    exact .children ih (Statement.getElem?_twins (h.perm outer) hs)

/-! ## Types and fields -/

/-- The types of a body are those of the same body in the other order. -/
theorem definesType_iff (body : IsBody files scope ss) {d' : Definition} :
    DefinesType files' (scope.moved order) name d' ↔
      ∃ d, DefinesType files scope name d ∧ d.moved order ρ = d' := by
  constructor
  · rintro ⟨body', hs, hd, hn⟩
    obtain rfl := body'.unique (h.isBody body)
    obtain ⟨k, s, hk, rfl, rfl⟩ := Statement.exists_of_getElem?_twins (h.perm body) hs
    rw [← Address.moved_child, ofStatement?_twin, Option.map_eq_some_iff] at hd
    obtain ⟨d, hd, rfl⟩ := hd
    exact ⟨d, ⟨body, hk, hd, hn⟩, rfl⟩
  · rintro ⟨d, ⟨body', hs, hd, hn⟩, rfl⟩
    obtain rfl := body'.unique body
    refine ⟨h.isBody body, Statement.getElem?_twins (h.perm body) hs, ?_, hn⟩
    rw [← Address.moved_child, ofStatement?_twin, hd]
    rfl

/-- The fields of a body are those of the same body in the other order. -/
theorem definesField_iff (body : IsBody files scope ss) {f' : Field} :
    DefinesField files' (scope.moved order) name f' ↔
      ∃ f, DefinesField files scope name f ∧ f.moved order ρ = f' := by
  constructor
  · rintro ⟨body', hs, hf, hn⟩
    obtain rfl := body'.unique (h.isBody body)
    obtain ⟨j, hj⟩ := List.mem_iff_getElem?.1 hs
    obtain ⟨k, s, hk, rfl, rfl⟩ := Statement.exists_of_getElem?_twins (h.perm body) hj
    rw [fieldOfStatement?_twin, Option.map_eq_some_iff] at hf
    obtain ⟨f, hf, rfl⟩ := hf
    exact ⟨f, ⟨body, List.mem_of_getElem? hk, hf, hn⟩, rfl⟩
  · rintro ⟨f, ⟨body', hs, hf, hn⟩, rfl⟩
    obtain rfl := body'.unique body
    obtain ⟨k, hk⟩ := List.mem_iff_getElem?.1 hs
    refine ⟨h.isBody body, List.mem_of_getElem? (Statement.getElem?_twins (h.perm body) hk), ?_, hn⟩
    rw [fieldOfStatement?_twin, hf]
    rfl

theorem typeIn? {t t' : Table} (ht : t.Shows files) (ht' : t'.Shows files')
    (body : IsBody files scope ss) :
    t'.typeIn? (scope.moved order) name =
      (t.typeIn? scope name).map (Definition.moved order ρ) := by
  refine Option.ext fun d' => ?_
  rw [typeIn?_eq_some_iff h.built'.each ht' (h.isBody body), h.definesType_iff body,
    Option.map_eq_some_iff]
  simp only [typeIn?_eq_some_iff h.built.each ht body]

theorem fieldIn? {t t' : Table} (ht : t.Shows files) (ht' : t'.Shows files')
    (body : IsBody files scope ss) :
    t'.fieldIn? (scope.moved order) name = (t.fieldIn? scope name).map (Field.moved order ρ) := by
  refine Option.ext fun f' => ?_
  rw [fieldIn?_eq_some_iff h.built'.each ht' (h.isBody body), h.definesField_iff body,
    Option.map_eq_some_iff]
  simp only [fieldIn?_eq_some_iff h.built.each ht body]

/-! ## Includes -/

theorem mem_inclusions {i : Nat} {f : ParsedFile} {root : Root WrittenType}
    (hf : files[i]? = some f) (hr : f.root = .ok root) {x : Inclusion} :
    x ∈ ((root.rearranged order i).renumbered ρ (WrittenType.renumbered ρ)).inclusions ↔
      x ∈ root.inclusions := by
  have hperm := (h.arranged _ _ _ hf hr).1
  simp only [Root.inclusions, List.mem_filterMap]
  constructor
  · rintro ⟨s', hs', hx⟩
    obtain ⟨j, hj⟩ := List.mem_iff_getElem?.1 hs'
    obtain ⟨k, s, hk, -, rfl⟩ := Statement.exists_of_getElem?_twins hperm hj
    refine ⟨s, List.mem_of_getElem? hk, ?_⟩
    cases s <;> exact hx
  · rintro ⟨s, hs, hx⟩
    obtain ⟨k, hk⟩ := List.mem_iff_getElem?.1 hs
    refine ⟨_, List.mem_of_getElem? (Statement.getElem?_twins hperm hk), ?_⟩
    cases s <;> exact hx

/-- The files that have a path are at the same places. -/
theorem fileAt? (path : Path) : (declare files').fileAt? path = (declare files).fileAt? path := by
  refine Option.ext fun target => ?_
  rw [fileAt?_eq_some_iff h.distinct', fileAt?_eq_some_iff h.distinct]
  constructor
  · rintro ⟨g, hg, hp⟩
    obtain ⟨f, root, hf, -, rfl⟩ := h.exists_file hg
    exact ⟨f, hf, hp⟩
  · rintro ⟨f, hf, hp⟩
    obtain ⟨root, -, hg⟩ := h.file _ _ hf
    exact ⟨_, hg, hp⟩

/-- Includes bind the same. -/
theorem binds_iff {i : Nat} {d' : Definition} :
    Binds files' i name d' ↔ ∃ d, Binds files i name d ∧ d.moved order ρ = d' := by
  constructor
  · rintro ⟨hf', hr', hi, hg', hp, takes, defines, hpub⟩
    obtain ⟨f, root, hf, hr, rfl⟩ := h.exists_file hf'
    obtain ⟨g, body, hg, hbody, rfl⟩ := h.exists_file hg'
    cases hr'
    obtain ⟨d, hd, rfl⟩ := (h.definesType_iff (.root hg hbody)).1 defines
    exact ⟨d, ⟨hf, hr, (h.mem_inclusions hf hr).1 hi, hg, hp, takes, hd, hpub⟩, rfl⟩
  · rintro ⟨d, ⟨hf, hr, hi, hg, hp, takes, defines, hpub⟩, rfl⟩
    obtain ⟨root, hr', hf'⟩ := h.file _ _ hf
    obtain ⟨body, hbody, hg'⟩ := h.file _ _ hg
    cases hr.symm.trans hr'
    exact ⟨hf', rfl, (h.mem_inclusions hf hr).2 hi, hg', hp, takes,
      (h.definesType_iff (.root hg hbody)).2 ⟨d, defines, rfl⟩, hpub⟩

theorem exists_itemBinding {target : Nat} {body : List (Statement WrittenType)}
    (hbody : IsBody files ⟨target, []⟩ body) {x : IncludeItem}
    (hx : ∃ b, (declare files).itemBinding target x = .ok b) :
    ∃ b, (declare files').itemBinding target x = .ok b := by
  obtain ⟨b, hx⟩ := hx
  have htype : (declare files').typeIn? ⟨target, []⟩ x.element.name = _ :=
    h.typeIn? (shows_declare files) (shows_declare files') hbody
  rw [itemBinding] at hx ⊢
  rw [htype]
  cases hd : (declare files).typeIn? ⟨target, []⟩ x.element.name with
  | some d =>
    simp only [hd, Option.map_some] at hx ⊢
    split at hx
    · rename_i hpub
      exact ⟨_, if_pos hpub⟩
    · cases hx
  | none =>
    simp only [hd] at hx
    split at hx <;> cases hx

/-- An include that binds something binds the same in the other order. -/
theorem exists_includeBindings {i : Inclusion} {bs : List Import}
    (hbs : (declare files).includeBindings i = .ok bs) :
    ∃ bs', (declare files').includeBindings i = .ok bs' ∧ ∀ b' ∈ bs', ∃ b ∈ bs,
      b'.name = b.name ∧ b'.target = b.target.moved order := by
  have hexists : ∃ bs', (declare files').includeBindings i = .ok bs' := by
    obtain ⟨target, ht, hrest⟩ := bind_eq_ok_iff.1 hbs
    obtain ⟨hfile, g, body, hg, hbody⟩ := includedFile_eq_ok_iff.1 ht
    obtain ⟨_, -, hg'⟩ := h.file _ _ hg
    have ht' : (declare files').includedFile i = .ok target :=
      includedFile_eq_ok_iff.2 ⟨(h.fileAt? _).trans hfile, _, _, hg', rfl⟩
    simp only [includeBindings, ht', bind, Except.bind]
    split
    · exact ⟨_, rfl⟩
    · rename_i hstar
      rw [if_neg hstar] at hrest
      have hitems := exists_mapM_eq_ok_iff.1 ⟨bs, hrest⟩
      exact exists_mapM_eq_ok_iff.2 fun x hx =>
        h.exists_itemBinding (.root hg hbody) (hitems x hx)
  obtain ⟨bs', hbs'⟩ := hexists
  refine ⟨bs', hbs', fun b' hb' => ?_⟩
  obtain ⟨target, g', element, d', ht, hg', takes, defines, hpub, htarget⟩ :=
    mem_includeBindings hbs' hb'
  obtain ⟨g, body, hg, hbody, rfl⟩ := h.exists_file hg'
  obtain ⟨d, hd, rfl⟩ := (h.definesType_iff (.root hg hbody)).1 defines
  rw [h.fileAt?] at ht
  obtain ⟨b, hb, hname, hbt⟩ := exists_binding h.built.each hbs ht takes hd hpub
  exact ⟨b, hb, hname.symm, by rw [htarget, hbt]; rfl⟩

/-- No include fails in the other order, either. -/
theorem includeFault? {i : Nat} {f : ParsedFile} (hf : files[i]? = some f) :
    (ofFiles files').includeFault? i = none := by
  obtain ⟨root, hr, hf'⟩ := h.file _ _ hf
  have hnone := h.noFault i
  rw [includeFault?_ofFiles hf hr, bindIncludes_eq_none_iff] at hnone
  obtain ⟨hall, hcompatible⟩ := hnone
  have htype : ∀ name, (declare files').typeIn? ⟨i, []⟩ name = _ := fun name =>
    h.typeIn? (shows_declare files) (shows_declare files') (.root hf hr)
  have hback : ∀ b', (declare files').BindsOne
        ((root.rearranged order i).renumbered ρ (WrittenType.renumbered ρ)).inclusions b' →
      ∃ b, (declare files).BindsOne root.inclusions b ∧ b'.name = b.name ∧
        b'.target = b.target.moved order := by
    rintro b' ⟨x, hx, bs', hbs', hb'⟩
    rw [h.mem_inclusions hf hr] at hx
    obtain ⟨bs, hbs⟩ := hall x hx
    obtain ⟨_, hbs'', hb⟩ := h.exists_includeBindings hbs
    cases hbs'.symm.trans hbs''
    obtain ⟨b, hb, heq⟩ := hb b' hb'
    exact ⟨b, ⟨x, hx, bs, hbs, hb⟩, heq⟩
  rw [includeFault?_ofFiles hf' rfl, bindIncludes_eq_none_iff]
  refine ⟨fun x hx => ?_, ?own, ?same⟩
  · obtain ⟨bs, hbs⟩ := hall x ((h.mem_inclusions hf hr).1 hx)
    obtain ⟨bs', hbs', -⟩ := h.exists_includeBindings hbs
    exact ⟨bs', hbs'⟩
  case own =>
    intro b' d' hb' hd'
    obtain ⟨b, hb, hname, htarget⟩ := hback b' hb'
    rw [htype, Option.map_eq_some_iff] at hd'
    obtain ⟨d, hd, rfl⟩ := hd'
    rw [htarget, ← hcompatible.own b d hb (hname ▸ hd)]
    rfl
  case same =>
    intro b' c' hb' hc' hname hnone
    obtain ⟨b, hb, hbname, hbtarget⟩ := hback b' hb'
    obtain ⟨c, hc, hcname, hctarget⟩ := hback c' hc'
    rw [htype, Option.map_eq_none_iff] at hnone
    rw [hbtarget, hctarget, hcompatible.same b c hb hc (hbname ▸ hcname ▸ hname) (hbname ▸ hnone)]

/-! ## Names -/

/-- What a name means in a body is what it means in the same body in the other order. -/
theorem lookup? (body : IsBody files scope ss) :
    (ofFiles files').lookup? (scope.moved order) name =
      ((ofFiles files).lookup? scope name).map (Definition.moved order ρ) := by
  have ht := shows_ofFiles files
  have ht' := shows_ofFiles files'
  induction body with
  | @root i f root hf hr =>
    have htype : (ofFiles files').typeIn? ⟨i, []⟩ name = _ := h.typeIn? ht ht' (.root hf hr)
    rw [Address.moved_root]
    rw [lookup?_root, lookup?_root, htype]
    cases hd : (ofFiles files).typeIn? ⟨i, []⟩ name with
    | some d => rfl
    | none =>
      obtain ⟨root', hr', hf'⟩ := h.file _ _ hf
      have hn := (typeIn?_eq_none_iff h.built.each ht (.root hf hr)).1 hd
      have hn' : ∀ d', ¬ DefinesType files' ⟨i, []⟩ name d' := by
        intro d' hd'
        obtain ⟨d, hd, -⟩ := (h.definesType_iff (.root hf hr)).1 hd'
        exact hn d hd
      refine Option.ext fun d' => ?_
      show (ofFiles files').imported? i name = some d' ↔
        ((ofFiles files).imported? i name).map (Definition.moved order ρ) = some d'
      rw [imported?_eq_some_iff h.built'.each h.distinct' hf' rfl (h.includeFault? hf) hn',
        h.binds_iff, Option.map_eq_some_iff]
      simp only [imported?_eq_some_iff h.built.each h.distinct hf hr (h.noFault i) hn]
  | @children scope _ index _ _ _ _ _ _ outer hs ih =>
    rw [lookup?_child, Address.moved_child, lookup?_child, ih, ← Address.moved_child,
      h.typeIn? ht ht' (.children outer hs)]
    cases (ofFiles files).typeIn? (scope.child index) name <;> rfl

/-- The candidates for a reader are the same. -/
theorem globalCandidates (reader : Nat) (name : String) :
    (ofFiles files').globalCandidates reader name =
      ((ofFiles files).globalCandidates reader name).map (Definition.moved order ρ) := by
  have hlength : (ofFiles files').files.length = (ofFiles files).files.length := by
    simp [ofFiles, declare, h.length]
  rw [Table.globalCandidates, Table.globalCandidates, List.map_filterMap, hlength]
  refine List.filterMap_congr fun i hi => ?_
  have hlt : i < files.length := by
    simpa [ofFiles, declare] using List.mem_range.1 (List.mem_filter.1 hi).1
  have hf := List.getElem?_eq_getElem hlt
  obtain ⟨root, hr, -⟩ := h.file _ _ hf
  have htype : (ofFiles files').typeIn? ⟨i, []⟩ name = _ :=
    h.typeIn? (shows_ofFiles files) (shows_ofFiles files') (.root hf hr)
  rw [htype, Option.filter_map]
  rfl

theorem resolveFirst (body : IsBody files scope ss) {reader : Nat} {isGlobal : Bool}
    {n : Identifier} {d : Definition}
    (hd : (ofFiles files).resolveFirst reader scope isGlobal n = .ok d) :
    (ofFiles files').resolveFirst reader (scope.moved order) isGlobal n =
      .ok (d.moved order ρ) := by
  rw [Table.resolveFirst] at hd ⊢
  rw [h.lookup? body]
  cases hl : (ofFiles files).lookup? scope n.name with
  | some e =>
    rw [hl] at hd
    cases hd
    rfl
  | none =>
    simp only [hl, Option.map_none] at hd ⊢
    rw [h.globalCandidates]
    split at hd
    · rename_i hglobal
      rw [if_pos hglobal]
      split at hd
      · cases hd
      · rename_i hone
        cases hd
        rw [hone]
        rfl
      · cases hd
    · cases hd

/-! ## References -/

theorem memberType? {d : Definition} (held : (ofFiles files).Holds d) :
    (ofFiles files').memberType? (d.moved order ρ) name =
      ((ofFiles files).memberType? d name).map (Definition.moved order ρ) := by
  rw [Table.memberType?, Table.memberType?, Definition.isStruct_moved]
  split
  · rename_i hs
    exact h.typeIn? (shows_ofFiles files) (shows_ofFiles files') (held.isBody (shows_ofFiles _) hs)
  · rfl

theorem memberField? {d : Definition} (held : (ofFiles files).Holds d) :
    (ofFiles files').memberField? (d.moved order ρ) name =
      ((ofFiles files).memberField? d name).map (Field.moved order ρ) := by
  rw [Table.memberField?, Table.memberField?, Definition.isStruct_moved]
  split
  · rename_i hs
    exact h.fieldIn? (shows_ofFiles files) (shows_ofFiles files') (held.isBody (shows_ofFiles _) hs)
  · rfl

theorem resolveRest {isElement : Bool} {d : Definition} (held : (ofFiles files).Holds d)
    {names : List Identifier} {target : ReferenceTarget}
    (ht : (ofFiles files).resolveRest isElement d names = .ok target) :
    (ofFiles files').resolveRest isElement (d.moved order ρ) names =
      .ok (target.moved order ρ) := by
  induction names generalizing d with
  | nil =>
    cases ht
    rfl
  | cons n rest ih =>
    rw [Table.resolveRest] at ht ⊢
    rw [Definition.isStruct_moved, h.memberField? held, h.memberType? held]
    split at ht
    · cases ht
    · rename_i hstruct
      rw [if_neg hstruct]
      split at ht
      · rename_i hlast
        rw [if_pos hlast]
        split at ht
        · rename_i f hf
          obtain ⟨u, hu, ht⟩ := bind_eq_ok_iff.1 ht
          cases ht
          rw [hf]
          exact bind_eq_ok_iff.2 ⟨u, hu, rfl⟩
        · cases ht
      · rename_i hlast
        rw [if_neg hlast]
        split at ht
        · rename_i e he
          obtain ⟨u, hu, ht⟩ := bind_eq_ok_iff.1 ht
          rw [he]
          exact bind_eq_ok_iff.2 ⟨u, hu, ih (Table.holds_of_memberType? he) ht⟩
        · cases ht

/-- What a reference in a body means is what it means in the same body in the other order. -/
theorem resolve (body : IsBody files scope ss) {reader : Nat} {r : Reference} {range : Range}
    {target : ReferenceTarget}
    (ht : (ofFiles files).resolve reader r range scope = .ok target) :
    (ofFiles files').resolve reader r range (scope.moved order) = .ok (target.moved order ρ) := by
  rw [Table.resolve] at ht ⊢
  split at ht
  · cases ht
  · rename_i first rest hsegments
    obtain ⟨d, hd, ht⟩ := bind_eq_ok_iff.1 ht
    exact bind_eq_ok_iff.2 ⟨_, h.resolveFirst body hd, h.resolveRest (holds_of_resolveFirst hd) ht⟩

end Reorders
end Schemata
