import Schemata.Proofs.Link.Success
import Schemata.Proofs.Order.Building
import Schemata.Proofs.Order.Table

/-!
# Linking in another order

Linking is settled by what types mean and by which structures are well founded, and both are the
same after the bodies of all files are put into another order. So a file that is linked is linked
again, and to what it was linked to before, with its bodies in the new order and with new numbers.
Handles on structures follow the structures to their new numbers.

**Results:**
* `Reorders.means`: what a type means is the same.
* `Reorders.founded`: structures that are well founded stay so.
* `Reorders.linkFile`: a file is linked in the other order to the same root in that order.
-/
namespace Schemata

variable {order : Arrangement} {ρ : Nat → Nat → Nat}

/-! ## Renumbered types -/

namespace LinkedType

theorem occurrence_renumbered (t : LinkedType) :
    (t.renumbered ρ).occurrence = t.occurrence.renumbered ρ := by
  cases t <;> rfl

theorem target_renumbered (t : LinkedType) : (t.renumbered ρ).target = t.target.renumbered ρ := by
  induction t using target.induct with
  | case1 o name aliased ih => exact ih
  | case2 t h =>
    cases t with
    | fundamental | struct | tuple | variant => rfl
    | _ => exact absurd rfl (h _ _ _)

theorem isVariant_renumbered (t : LinkedType) : (t.renumbered ρ).isVariant = t.isVariant := by
  rw [isVariant, isVariant, target_renumbered]
  cases t.target <;> rfl

theorem isFundamental_renumbered (t : LinkedType) :
    (t.renumbered ρ).isFundamental = t.isFundamental := by
  rw [isFundamental, isFundamental, target_renumbered]
  cases t.target <;> rfl

/-- The structure behind a type has its new number. -/
theorem structure?_renumbered (t : LinkedType) :
    (t.renumbered ρ).structure? = t.structure?.map fun s => (s.1.renumbered ρ, s.2) := by
  rw [structure?, structure?, target_renumbered]
  cases t.target <;> rfl

theorem inPlaceOf_renumbered (t : LinkedType) (o : Occurrence) :
    (t.inPlaceOf o).renumbered ρ = (t.renumbered ρ).inPlaceOf (o.renumbered ρ) := by
  cases t <;> rfl

end LinkedType

namespace Table

theorem checkMembers_renumberedAll (r : Range) (isVariant : Bool) (ts : List LinkedType) :
    checkMembers r isVariant
        ((LinkedType.renumberedAll ρ ts).map fun t => (t.occurrence.range, t.isVariant)) =
      checkMembers r isVariant (ts.map fun t => (t.occurrence.range, t.isVariant)) := by
  simp [LinkedType.renumberedAll_eq_map, Function.comp_def, Occurrence.renumbered,
    LinkedType.occurrence_renumbered, LinkedType.isVariant_renumbered]

/-- Whether bases go together has nothing to do with numbers. -/
theorem goTogether_renumbered (bases : List LinkedType) :
    goTogether (bases.map (LinkedType.renumbered ρ)) = goTogether bases := by
  match bases with
  | [] => rfl
  | [base] =>
    simp [goTogether, LinkedType.isFundamental_renumbered, LinkedType.structure?_renumbered]
  | first :: second :: rest =>
    simp [goTogether, LinkedType.structure?_renumbered, Function.comp_def]

/-! ## Scopes of the table -/

variable {files : List ParsedFile}

/-- A statement of the table stands at a position of a body. -/
theorem exists_position_of_mem {t : Table} (ht : t.Shows files) {a : Address}
    {s : Statement WrittenType} (hs : (a, s) ∈ t.allStatements) :
    ∃ scope index, a = scope.child index ∧ (t.statementsIn scope)[index]? = some s ∧
      IsBody files scope (t.statementsIn scope) := by
  have hs := mem_allStatements_iff.1 hs
  obtain ⟨file, path⟩ := a
  cases path with
  | nil => cases hs
  | cons index outer =>
    have hs : (t.statementsIn ⟨file, outer⟩)[index]? = some s := hs
    exact ⟨⟨file, outer⟩, index, rfl, hs, isBody_of_mem ht (List.mem_of_getElem? hs)⟩

theorem isBody_scope_of_mem {t : Table} (ht : t.Shows files) {a : Address}
    {s : Statement WrittenType} (hs : (a, s) ∈ t.allStatements) :
    IsBody files a.scope (t.statementsIn a.scope) := by
  obtain ⟨scope, index, rfl, -, body⟩ := exists_position_of_mem ht hs
  exact body

theorem HasItem.isBody {t : Table} (ht : t.Shows files) {u : Item} (hu : t.HasItem u) :
    IsBody files u.scope (t.statementsIn u.scope) := by
  obtain ⟨a, range, hs, ha⟩ := hu
  exact ha ▸ isBody_scope_of_mem ht hs

/-! ## Bases and statements -/

theorem isBase_iff (hb : BuiltInOrder files) {reader : Nat} {scope : Address} {base : WrittenType}
    {b : Definition} : (ofFiles files).IsBase reader scope base b ↔
      ∃ linked s, (ofFiles files).Means reader scope base linked ∧ linked.structure? = some s ∧
        (ofFiles files).definitionOf? s.1 = some b := by
  simp only [IsBase, linkType_eq_ok_iff hb (faithful_empty _ reader)]

theorem LinksFrom.length_eq {t : Table} {reader : Nat} {scope : Address} {index : Nat}
    {ss : List (Statement WrittenType)} {linked : List (Statement LinkedType)}
    (h : t.LinksFrom reader scope index ss linked) : linked.length = ss.length := by
  match h with
  | .nil .. => rfl
  | .cons _ hs => rw [List.length_cons, List.length_cons, hs.length_eq]

/-- Statements are linked if each of them is. -/
theorem linksFrom_of_getElem? {t : Table} {reader : Nat} {scope : Address} {index : Nat}
    {ss : List (Statement WrittenType)} {linked : List (Statement LinkedType)}
    (hlen : linked.length = ss.length)
    (h : ∀ k s l, ss[k]? = some s → linked[k]? = some l →
      t.Links reader (scope.child (index + k)) s l) : t.LinksFrom reader scope index ss linked := by
  induction ss generalizing index linked with
  | nil =>
    obtain rfl := List.length_eq_zero_iff.1 hlen
    exact .nil ..
  | cons s ss ih =>
    cases linked with
    | nil => cases hlen
    | cons l linked =>
      refine .cons (h 0 s l rfl rfl) (ih (Nat.succ.inj hlen) fun k s l hk hk' => ?_)
      rw [show index + 1 + k = index + (k + 1) by omega]
      exact h (k + 1) s l hk hk'

/-- Statements of a scope that are linked one by one where they are moved are linked in the other
order. -/
theorem linksFrom_twins {t : Table} {reader : Nat} {scope : Address}
    {ss : List (Statement WrittenType)} {linked : List (Statement LinkedType)}
    (hlen : linked.length = ss.length) (hperm : (order scope).Perm (List.range ss.length))
    (h : ∀ k s l, ss[k]? = some s → linked[k]? = some l →
      t.Links reader ((scope.child k).moved order)
        (s.twin order ρ (WrittenType.renumbered ρ) (scope.child k))
        (l.twin order ρ (LinkedType.renumbered ρ) (scope.child k))) :
    t.LinksFrom reader (scope.moved order) 0
      (Statement.twins order ρ (WrittenType.renumbered ρ) scope ss)
      (Statement.twins order ρ (LinkedType.renumbered ρ) scope linked) := by
  have hperm' : (order scope).Perm (List.range linked.length) := hlen ▸ hperm
  refine linksFrom_of_getElem? ?_ fun j s' l' hs' hl' => ?_
  · rw [Statement.length_twins hperm, Statement.length_twins hperm', hlen]
  · obtain ⟨k, s, hs, rfl, rfl⟩ := Statement.exists_of_getElem?_twins hperm hs'
    have hlt : k < linked.length := hlen ▸ (List.getElem?_eq_some_iff.1 hs).1
    have hl := List.getElem?_eq_getElem hlt
    rw [Statement.getElem?_twins hperm' hl, Option.some.injEq] at hl'
    rw [Nat.zero_add, ← hl', ← Address.moved_child]
    exact h k s _ hs hl

end Table

namespace Reorders
open Table

variable {files files' : List ParsedFile} {reader : Nat}

/-! ## Definitions -/

theorem mem_allStatements (h : Reorders order ρ files files') {a : Address}
    {s : Statement WrittenType} (hs : (a, s) ∈ (ofFiles files).allStatements) :
    (a.moved order, s.twin order ρ (WrittenType.renumbered ρ) a) ∈
      (ofFiles files').allStatements := by
  obtain ⟨scope, index, rfl, hs, body⟩ := exists_position_of_mem (shows_ofFiles files) hs
  rw [mem_allStatements_iff, Address.moved_child, statementAt?_child,
    statementsIn_of_isBody (shows_ofFiles files') (h.isBody body)]
  exact Statement.getElem?_twins (h.perm body) hs

theorem holds (h : Reorders order ρ files files') {d : Definition}
    (held : (ofFiles files).Holds d) :
    (ofFiles files').Holds (d.moved order ρ) := by
  obtain ⟨s, hs, hd⟩ := held
  refine ⟨_, h.mem_allStatements hs, ?_⟩
  rw [Definition.moved, ofStatement?_twin, hd]
  rfl

/-- The new number of a structure leads to where it is moved. -/
theorem eq_moved_of_definitionOf? (h : Reorders order ρ files files') {e d' : Definition}
    (held : (ofFiles files).Holds e)
    (hd' : (ofFiles files').definitionOf? (e.id.renumbered ρ) = some d') :
    d' = e.moved order ρ :=
  (holds_of_definitionOf? hd').eq_of_id h.built' (h.holds held) (id_of_definitionOf? hd')

/-! ## Meaning -/

mutual

/-- What a type of a body means is what it means in the same body in the other order. -/
theorem means (h : Reorders order ρ files files') {scope : Address}
    {ss : List (Statement WrittenType)} (body : IsBody files scope ss) {type : WrittenType}
    {linked : LinkedType} (hm : (ofFiles files).Means reader scope type linked) :
    (ofFiles files').Means reader (scope.moved order) (type.renumbered ρ)
      (linked.renumbered ρ) := by
  match hm with
  | .fundamental .. => exact .fundamental ..
  | .tuple hm => exact .tuple (h.meansAll body hm)
  | .variant hm hc => exact .variant (h.meansAll body hm) ((checkMembers_renumberedAll ..).trans hc)
  | @Means.ofStruct _ _ _ o r d bases hr hk =>
    have hr' : (ofFiles files').resolve reader r (o.renumbered ρ).range (scope.moved order) =
        .ok (.definition (d.moved order ρ)) := h.resolve body hr
    have hk' : (d.moved order ρ).kind = .struct (bases.map (WrittenType.renumbered ρ)) :=
      Definition.kind_moved hk
    exact .ofStruct hr' hk'
  | @Means.ofAlias _ _ _ o r d aliased _ hr hk hm =>
    have hr' : (ofFiles files').resolve reader r (o.renumbered ρ).range (scope.moved order) =
        .ok (.definition (d.moved order ρ)) := h.resolve body hr
    have hk' : (d.moved order ρ).kind = .alias (aliased.renumbered ρ) :=
      Definition.kind_moved hk
    have body' : IsBody files d.address.scope _ :=
      (hasItem_of_mentions (mentions_alias hr hk)).isBody (shows_ofFiles files)
    have hm' := h.means body' hm
    rw [← Address.scope_moved] at hm'
    exact .ofAlias (d := d.moved order ρ) hr' hk' hm'
  | @Means.ofField _ _ _ o r f _ _ hr hm hp =>
    have hr' : (ofFiles files').resolve reader r (o.renumbered ρ).range (scope.moved order) =
        .ok (.field (f.moved order ρ)) := h.resolve body hr
    have body' : IsBody files f.scope _ :=
      (hasItem_of_mentions (mentions_field hr)).isBody (shows_ofFiles files)
    exact .ofField hr' (h.means body' hm) (by rw [hp, LinkedType.inPlaceOf_renumbered])

theorem meansAll (h : Reorders order ρ files files') {scope : Address}
    {ss : List (Statement WrittenType)} (body : IsBody files scope ss) {types : List WrittenType}
    {linked : List LinkedType}
    (hm : (ofFiles files).MeansAll reader scope types linked) :
    (ofFiles files').MeansAll reader (scope.moved order) (WrittenType.renumberedAll ρ types)
      (LinkedType.renumberedAll ρ linked) := by
  match hm with
  | .nil _ => exact .nil _
  | .cons hm hms => exact .cons (h.means body hm) (h.meansAll body hms)

end

/-! ## Bases -/

/-- A base that means something is no other structure in the other order. -/
theorem isBase (h : Reorders order ρ files files') {scope : Address}
    {ss : List (Statement WrittenType)} (body : IsBody files scope ss) {base : WrittenType}
    {linked : LinkedType} (hm : (ofFiles files).Means reader scope base linked) {b' : Definition}
    (hb' : (ofFiles files').IsBase reader (scope.moved order) (base.renumbered ρ) b') :
    ∃ b, (ofFiles files).Holds b ∧ (ofFiles files).IsBase reader scope base b ∧
      b' = b.moved order ρ := by
  obtain ⟨linked', s', hm', hs', hd'⟩ := (isBase_iff h.built').1 hb'
  obtain rfl := hm'.unique (h.means body hm)
  rw [LinkedType.structure?_renumbered, Option.map_eq_some_iff] at hs'
  obtain ⟨s, hs, rfl⟩ := hs'
  obtain ⟨b, bases, held, -, hid, -⟩ :=
    hm.holds_handles s (LinkedType.mem_handles_of_structure? linked hs)
  rw [← hid] at hd'
  have hb : (ofFiles files).IsBase reader scope base b :=
    (isBase_iff h.built).2
      ⟨linked, s, hm, hs, (definitionOf?_eq_some_iff h.built).2 ⟨held, hid⟩⟩
  exact ⟨b, held, hb, h.eq_moved_of_definitionOf? held hd'⟩

/-- A structure that is well founded is so in the other order. -/
theorem founded (h : Reorders order ρ files files') {d : Definition}
    (held : (ofFiles files).Holds d) (hd : (ofFiles files).Founded reader d) :
    (ofFiles files').Founded reader (d.moved order ρ) := by
  obtain ⟨link, grounded⟩ := hd
  induction grounded with
  | intro d _ ih =>
    obtain ⟨s, hs, -⟩ := held
    have body := isBody_scope_of_mem (shows_ofFiles files) hs
    cases hk : d.kind with
    | «alias» type => exact founded_of_alias (Definition.kind_moved hk)
    | struct bases =>
      have hk' : (d.moved order ρ).kind = .struct (bases.map (WrittenType.renumbered ρ)) :=
        Definition.kind_moved hk
      have hscope : (d.moved order ρ).address.scope = d.address.scope.moved order :=
        Address.scope_moved order d.address
      refine founded_of_struct hk' fun base' hbase' => ?_
      obtain ⟨base, hbase, rfl⟩ := List.mem_map.1 hbase'
      obtain ⟨linked, hl⟩ := link d ⟨_, .nil d⟩ bases hk base hbase
      have hm := (linkType_eq_ok_iff h.built (faithful_empty _ reader)).1 hl
      rw [hscope]
      refine ⟨⟨_, (linkType_eq_ok_iff h.built' (faithful_empty _ reader)).2 (h.means body hm)⟩, ?_⟩
      intro b' hb'
      obtain ⟨b, heldb, hb, rfl⟩ := h.isBase body hm hb'
      have edge : (ofFiles files).BaseEdge reader d base.occurrence.range b :=
        ⟨bases, base, hk, hbase, rfl, hb⟩
      exact ih b ⟨_, edge⟩ heldb (AllLink.next link edge)

/-! ## Statements -/

mutual

/-- A statement is linked in the other order to the same linked one in that order. -/
theorem links (h : Reorders order ρ files files') {a : Address} {s : Statement WrittenType}
    {linked : Statement LinkedType} (hl : (ofFiles files).Links reader a s linked)
    (hs : addressed a s ⊆ (ofFiles files).allStatements) :
    (ofFiles files').Links reader (a.moved order) (s.twin order ρ (WrittenType.renumbered ρ) a)
      (linked.twin order ρ (LinkedType.renumbered ρ) a) := by
  have hmem := hs (mem_addressed_self a s)
  have body := isBody_scope_of_mem (shows_ofFiles files) hmem
  match hl with
  | .item hm =>
    have hm' := h.means body hm
    rw [← Address.scope_moved] at hm'
    exact .item hm'
  | @Links.struct _ _ _ id range name bases linked metadata children mirrored hbases hgo hd hl =>
    have hin : addressedIn a 0 children ⊆ (ofFiles files).allStatements :=
      fun x hx => hs (by rw [addressed]; exact List.mem_cons_of_mem _ hx)
    have held : (ofFiles files).Holds ⟨a, id, name, .struct bases⟩ := ⟨_, hmem, rfl⟩
    have inner : IsBody files a children := by
      rw [← statementsIn_of_statementAt? (mem_allStatements_iff.1 hmem)]
      exact held.isBody (shows_ofFiles files) rfl
    have hbases' := h.meansAll body hbases
    rw [WrittenType.renumberedAll_eq_map, LinkedType.renumberedAll_eq_map,
      ← Address.scope_moved] at hbases'
    refine .struct hbases' ((goTogether_renumbered linked).trans hgo) (h.founded held hd) ?_
    refine linksFrom_twins hl.length_eq (h.perm inner) fun k u l hu hl' => ?_
    rw [← Nat.zero_add k]
    exact h.linksFrom hl hin hu hl'
  | .extension .. => exact .extension ..
  | .inclusion .. => exact .inclusion ..

theorem linksFrom (h : Reorders order ρ files files') {scope : Address} {index : Nat}
    {ss : List (Statement WrittenType)} {linked : List (Statement LinkedType)}
    (hl : (ofFiles files).LinksFrom reader scope index ss linked)
    (hs : addressedIn scope index ss ⊆ (ofFiles files).allStatements) {k : Nat}
    {s : Statement WrittenType} {l : Statement LinkedType} (hk : ss[k]? = some s)
    (hk' : linked[k]? = some l) :
    (ofFiles files').Links reader ((scope.child (index + k)).moved order)
      (s.twin order ρ (WrittenType.renumbered ρ) (scope.child (index + k)))
      (l.twin order ρ (LinkedType.renumbered ρ) (scope.child (index + k))) := by
  match hl with
  | .nil .. => cases hk
  | .cons hl hls =>
    rw [addressedIn, List.append_subset] at hs
    have hfirst := h.links hl hs.1
    cases k with
    | zero =>
      cases hk
      cases hk'
      exact hfirst
    | succ k =>
      rw [show index + (k + 1) = index + 1 + k by omega]
      exact h.linksFrom hls hs.2 hk hk'

end

/-! ## Files -/

/-- A file that is linked is linked in the other order to the same root in that order. -/
theorem linkFile (h : Reorders order ρ files files') {i : Nat} {f : ParsedFile}
    (hf : files[i]? = some f) {root : Root LinkedType}
    (hl : (ofFiles files).linkFile i f = .ok root) :
    ∃ f', files'[i]? = some f' ∧ (ofFiles files').linkFile i f' =
      .ok ((root.rearranged order i).renumbered ρ (LinkedType.renumbered ρ)) := by
  obtain ⟨source, hr, -, hrange, hl⟩ := (linkFile_eq_ok_iff h.built hf).1 hl
  obtain ⟨source', hr', hf'⟩ := h.file i f hf
  cases hr.symm.trans hr'
  have hin := addressedIn_root_subset hf hr
  refine ⟨_, hf', (linkFile_eq_ok_iff h.built' hf').2 ⟨_, rfl, h.includeFault? hf, hrange, ?_⟩⟩
  refine linksFrom_twins hl.length_eq (h.perm (.root hf hr)) fun k s l hk hk' => ?_
  rw [← Nat.zero_add k]
  exact h.linksFrom hl hin hk hk'

end Reorders
end Schemata
