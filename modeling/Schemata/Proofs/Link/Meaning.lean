import Schemata.Proofs.Link.Item
import Schemata.Proofs.Link.Run

/-!
# What types mean

What a type means can be said without trails and memory: fundamental types mean themselves, tuples
and variants consist of what their members mean, and a reference means a structure or what an alias
or a field means. Linking finds exactly this. A trail only cuts off what has no meaning, and
remembered aliases are those that would be linked again.

**Results:**
* `Table.Means.unique`: a type means at most one linked type.
* `Table.Means.grounded`: nothing that a type with a meaning mentions leads to a cycle.
* `Table.linkType_eq_ok_iff`: linking succeeds with what the type means, whatever is remembered.
-/
namespace Schemata
namespace Table

mutual

/-- A type that stands in a scope means the linked type to a reader. -/
inductive Means (t : Table) (reader : Nat) : Address → WrittenType → LinkedType → Prop where
  | fundamental (scope : Address) (o : Occurrence) (f : Fundamental) :
      Means t reader scope (.fundamental o f) (.fundamental o f)
  | tuple {scope : Address} {o : Occurrence} {members : List WrittenType}
      {linked : List LinkedType} (h : MeansAll t reader scope members linked) :
      Means t reader scope (.tuple o members) (.tuple o linked)
  | variant {scope : Address} {o : Occurrence} {members : List WrittenType}
      {linked : List LinkedType} (h : MeansAll t reader scope members linked)
      (hc : checkMembers o.range true
        (linked.map fun m => (m.occurrence.range, m.isVariant)) = .ok ()) :
      Means t reader scope (.variant o members) (.variant o linked)
  | ofStruct {scope : Address} {o : Occurrence} {r : Reference} {d : Definition}
      {bases : List WrittenType} (hr : t.resolve reader r o.range scope = .ok (.definition d))
      (hk : d.kind = .struct bases) :
      Means t reader scope (.reference o r) (.struct o d.id d.name)
  | ofAlias {scope : Address} {o : Occurrence} {r : Reference} {d : Definition}
      {aliased : WrittenType} {linked : LinkedType}
      (hr : t.resolve reader r o.range scope = .ok (.definition d)) (hk : d.kind = .alias aliased)
      (h : Means t reader d.address.scope aliased linked) :
      Means t reader scope (.reference o r) (.alias o d.name linked)
  | ofField {scope : Address} {o : Occurrence} {r : Reference} {f : Field}
      {linked placed : LinkedType} (hr : t.resolve reader r o.range scope = .ok (.field f))
      (h : Means t reader f.scope f.type linked) (hp : placed = linked.inPlaceOf o) :
      Means t reader scope (.reference o r) placed

/-- Types that stand in a scope mean the linked types to a reader, one by one. -/
inductive MeansAll (t : Table) (reader : Nat) :
    Address → List WrittenType → List LinkedType → Prop where
  | nil (scope : Address) : MeansAll t reader scope [] []
  | cons {scope : Address} {type : WrittenType} {linked : LinkedType} {types : List WrittenType}
      {rest : List LinkedType} (h : Means t reader scope type linked)
      (hs : MeansAll t reader scope types rest) :
      MeansAll t reader scope (type :: types) (linked :: rest)

end

variable {t : Table} {reader : Nat}

mutual

/-- A type means at most one linked type. -/
theorem Means.unique {scope : Address} {type : WrittenType} {a b : LinkedType}
    (h : t.Means reader scope type a) (h' : t.Means reader scope type b) : a = b := by
  match h, h' with
  | .fundamental .., .fundamental .. => rfl
  | .tuple h, .tuple h' => rw [h.unique h']
  | .variant h _, .variant h' _ => rw [h.unique h']
  | .ofStruct hr _, .ofStruct hr' _ =>
    rw [hr] at hr'
    injection hr' with hd
    injection hd with hd
    rw [hd]
  | .ofAlias hr hk h, .ofAlias hr' hk' h' =>
    rw [hr] at hr'
    injection hr' with hd
    injection hd with hd
    subst hd
    rw [hk] at hk'
    injection hk' with haliased
    subst haliased
    rw [h.unique h']
  | .ofField hr h hp, .ofField hr' h' hp' =>
    rw [hr] at hr'
    injection hr' with hf
    injection hf with hf
    subst hf
    rw [hp, hp', h.unique h']
  | .ofStruct hr hk, .ofAlias hr' hk' _ | .ofAlias hr hk _, .ofStruct hr' hk' =>
    rw [hr] at hr'
    injection hr' with hd
    injection hd with hd
    rw [← hd, hk] at hk'
    cases hk'
  | .ofStruct hr _, .ofField hr' _ _ | .ofAlias hr _ _, .ofField hr' _ _
  | .ofField hr _ _, .ofStruct hr' _ | .ofField hr _ _, .ofAlias hr' _ _ =>
    rw [hr] at hr'
    cases hr'

theorem MeansAll.unique {scope : Address} {types : List WrittenType} {as bs : List LinkedType}
    (h : t.MeansAll reader scope types as) (h' : t.MeansAll reader scope types bs) : as = bs := by
  match h, h' with
  | .nil _, .nil _ => rfl
  | .cons h hs, .cons h' hs' => rw [h.unique h', hs.unique hs']

end

/-- A reference that means an alias or a field mentions it alone. -/
theorem Mentions.eq_of_resolve {scope : Address} {o : Occurrence} {r : Reference} {via : Range}
    {v : Item} {target : ReferenceTarget} (hv : t.Mentions reader scope (.reference o r) via v)
    (hr : t.resolve reader r o.range scope = .ok target) : target.item? = some v := by
  obtain ⟨-, target', hres, hv⟩ := mentions_reference_iff.1 hv
  rw [hr] at hres
  injection hres with htarget
  rw [htarget, hv]

mutual

/-- Nothing that a type with a meaning mentions leads to a cycle. -/
theorem Means.grounded {scope : Address} {type : WrittenType} {linked : LinkedType}
    (h : t.Means reader scope type linked) {via : Range} {v : Item}
    (hv : t.Mentions reader scope type via v) : Grounded (t.ItemEdge reader) v := by
  match h with
  | .fundamental .. =>
    obtain ⟨o, r, target, hr, -⟩ := hv
    cases hr
  | .tuple h | .variant h _ =>
    obtain ⟨o, r, target, hr, hvia, hres, hv⟩ := hv
    obtain ⟨member, hm, hr⟩ := WrittenType.mem_referencesIn.1 hr
    exact h.grounded hm ⟨o, r, target, hr, hvia, hres, hv⟩
  | .ofStruct hr hk =>
    have hv := hv.eq_of_resolve hr
    simp [ReferenceTarget.item?, hk] at hv
  | .ofAlias hr hk h =>
    have hv := hv.eq_of_resolve hr
    simp only [ReferenceTarget.item?, hk, Option.some.injEq] at hv
    subst hv
    exact grounded_iff.2 fun r w e => h.grounded e
  | .ofField hr h _ =>
    have hv := hv.eq_of_resolve hr
    injection hv with hv
    subst hv
    exact grounded_iff.2 fun r w e => h.grounded e

theorem MeansAll.grounded {scope : Address} {types : List WrittenType}
    {linked : List LinkedType} (h : t.MeansAll reader scope types linked) {type : WrittenType}
    (hm : type ∈ types) {via : Range} {v : Item} (hv : t.Mentions reader scope type via v) :
    Grounded (t.ItemEdge reader) v := by
  match h with
  | .nil _ => cases hm
  | .cons h hs =>
    rcases List.mem_cons.1 hm with heq | hm
    · exact h.grounded (heq ▸ hv)
    · exact hs.grounded hm hv

end

/-! ## Memory -/

/-- The linked types that are remembered for aliases are what they mean. -/
def Faithful (t : Table) (reader : Nat) (memory : LinkMemory) : Prop :=
  ∀ a linked, (a, linked) ∈ memory.aliases → ∀ d aliased, t.Holds d → d.address = a →
    d.kind = .alias aliased → t.Means reader d.address.scope aliased linked

theorem faithful_empty (t : Table) (reader : Nat) : t.Faithful reader .empty := by
  intro a linked h
  cases h

/-- From a faithful memory, the run leaves a faithful one, says nothing about bases, and succeeds
only with what is to be found. -/
def Finds {α : Type} (t : Table) (reader : Nat) (memory : LinkMemory) (x : Linked α)
    (Q : α → Prop) : Prop :=
  t.Faithful reader memory →
    t.Faithful reader x.2 ∧ x.2.acyclic = memory.acyclic ∧ ∀ a, x.1 = .ok a → Q a

section Finds

variable {α β : Type} {memory : LinkMemory}

theorem finds_ok {a : α} {Q : α → Prop} (h : Q a) : t.Finds reader memory (.ok a, memory) Q := by
  refine fun hm => ⟨hm, rfl, fun b hb => ?_⟩
  injection hb with hb
  exact hb ▸ h

theorem finds_error {e : Diagnostic} {Q : α → Prop} :
    t.Finds reader memory (.error e, memory) Q :=
  fun hm => ⟨hm, rfl, fun _ hb => by cases hb⟩

theorem Finds.failed {m : LinkMemory} {e e' : Diagnostic} {Q : α → Prop} {R : β → Prop}
    (h : t.Finds reader memory (.error e, m) Q) : t.Finds reader memory (.error e', m) R :=
  fun hm => ⟨(h hm).1, (h hm).2.1, fun _ hb => by cases hb⟩

theorem Finds.bind {x : Linked α} {f : α → Except Diagnostic β} {Q : α → Prop} {R : β → Prop}
    (h : t.Finds reader memory x Q) (hf : ∀ a, Q a → ∀ b, f a = .ok b → R b) :
    t.Finds reader memory (x.1 >>= f, x.2) R := by
  intro hm
  obtain ⟨hm', hacyclic, hq⟩ := h hm
  refine ⟨hm', hacyclic, fun b hb => ?_⟩
  obtain ⟨a, ha, hb⟩ := bind_eq_ok_iff.1 hb
  exact hf a (hq a ha) b hb

end Finds

/-- Each step of linking finds what types mean, if the memory is faithful. -/
theorem linkInvariant_finds (t : Table) (reader : Nat) :
    t.LinkInvariant reader
      (fun _ memory scope type x => t.Finds reader memory x (t.Means reader scope type))
      (fun _ memory d aliased _ x => t.Holds d → d.kind = .alias aliased →
        t.Finds reader memory x (t.Means reader d.address.scope aliased))
      (fun _ memory scope types x => t.Finds reader memory x (t.MeansAll reader scope types)) where
  fundamental := fun _ _ scope o f => finds_ok (.fundamental scope o f)
  tuple := by
    intro _ memory scope o members x h
    refine h.bind fun linked hl b hb => ?_
    injection hb with hb
    exact hb ▸ .tuple hl
  variant := by
    intro _ memory scope o members x h
    refine h.bind fun linked hl b hb => ?_
    obtain ⟨_, hc, hb⟩ := bind_eq_ok_iff.1 hb
    injection hb with hb
    exact hb ▸ .variant hl hc
  unresolved := fun _ _ _ _ _ _ _ => finds_error
  struct := fun _ _ _ _ _ _ _ hr hk => finds_ok (.ofStruct hr hk)
  aliasAsked := by
    intro _ memory scope o r d aliased x hr hk h
    refine (h (holdsTarget_of_resolve hr) hk).bind fun linked hl b hb => ?_
    injection hb with hb
    exact hb ▸ .ofAlias hr hk hl
  fieldAgain := fun _ _ _ _ _ _ _ _ => finds_error
  field := by
    intro _ memory scope o r f linked m _ _ hr h hm
    obtain ⟨hm', hacyclic, hl⟩ := h hm
    refine ⟨hm', hacyclic, fun b hb => ?_⟩
    injection hb with hb
    exact hb ▸ .ofField hr (hl linked rfl) rfl
  fieldFailed := fun _ _ _ _ _ _ _ _ _ _ _ h => h.failed
  remembered := by
    intro _ memory d aliased _ a linked hfind hd hk hm
    refine ⟨hm, rfl, fun b hb => ?_⟩
    injection hb with hb
    subst hb
    have ha : a = d.address := by simpa using List.find?_some hfind
    exact hm a linked (List.mem_of_find?_eq_some hfind) d aliased hd ha.symm hk
  aliasAgain := fun _ _ _ _ _ _ _ _ _ => finds_error
  aliasEntered := by
    intro _ memory d aliased _ linked m _ _ _ h hd hk hm
    obtain ⟨hm', hacyclic, hl⟩ := h hm
    refine ⟨?_, hacyclic, hl⟩
    intro a l hal e aliased' he ha hke
    rcases List.mem_cons.1 hal with heq | hal
    · injection heq with haddress hlinked
      obtain rfl := he.eq_of_address hd (ha.trans haddress)
      rw [hk] at hke
      injection hke with haliased
      rw [hlinked, ← haliased]
      exact hl linked rfl
    · exact hm' a l hal e aliased' he ha hke
  aliasFailed := fun _ _ _ _ _ _ _ _ _ _ h _ _ => h.failed
  nil := fun _ _ scope => finds_ok (.nil scope)
  cons := by
    intro _ memory scope type rest first m x hfirst hrest hm
    obtain ⟨hm', hacyclic, hl⟩ := hfirst hm
    obtain ⟨hm'', hacyclic', hls⟩ := hrest.bind (R := t.MeansAll reader scope (type :: rest))
      (fun ls hls b (hb : Except.ok (first :: ls) = .ok b) => by
        injection hb with hb
        exact hb ▸ .cons (hl first rfl) hls) hm'
    exact ⟨hm'', hacyclic'.trans hacyclic, hls⟩
  consFailed := fun _ _ _ _ _ _ _ h => h.failed

theorem linkType_finds (t : Table) (reader : Nat) (trail : Trail t.itemIds) (memory : LinkMemory)
    (scope : Address) (type : WrittenType) :
    t.Finds reader memory (t.linkType reader trail memory scope type)
      (t.Means reader scope type) :=
  (t.linkInvariant_finds reader).runs.1 trail memory scope type

/-! ## Linking finds what types mean -/

theorem Faithful.linkType {memory : LinkMemory} (hm : t.Faithful reader memory)
    (trail : Trail t.itemIds) (scope : Address) (type : WrittenType) :
    t.Faithful reader (t.linkType reader trail memory scope type).2 :=
  (t.linkType_finds reader trail memory scope type hm).1

variable {files : List ParsedFile}

mutual

/-- Linking a type that means something does not fail, on whatever trail along its references. -/
theorem linkType_of_means (hb : BuiltInOrder files) {scope : Address} {type : WrittenType}
    {linked : LinkedType} (h : (ofFiles files).Means reader scope type linked)
    {trail : Trail (ofFiles files).itemIds} {us : List Item} {memory : LinkMemory}
    (hf : (ofFiles files).Follows reader trail us scope [type])
    (hm : (ofFiles files).Faithful reader memory) :
    ((ofFiles files).linkType reader trail memory scope type).1 = .ok linked := by
  match h with
  | .fundamental .. => rw [linkType]
  | .tuple h =>
    rw [linkType_tuple, linkTypes_of_means hb h hf.tuple hm]
    rfl
  | .variant h hc =>
    rw [linkType_variant, linkTypes_of_means hb h hf.variant hm]
    exact bind_eq_ok_iff.2 ⟨_, rfl, bind_eq_ok_iff.2 ⟨(), hc, rfl⟩⟩
  | .ofStruct hr hk => exact congrArg Prod.fst (linkType_struct hr hk)
  | @Means.ofAlias _ _ _ _ _ d _ _ hr hk h =>
    have hd : (ofFiles files).Holds d := holdsTarget_of_resolve hr
    have hv := mentions_alias hr hk
    have fresh := hf.not_mem hb hv (grounded_iff.2 fun _ _ e => h.grounded e)
    have known := hd.id_mem_itemIds hk
    rw [linkType_alias hr hk known]
    refine bind_eq_ok_iff.2 ⟨_, ?_, rfl⟩
    cases hfind : memory.aliases.find? (·.1 = d.address) with
    | some entry =>
      have ha : entry.1 = d.address := by simpa using List.find?_some hfind
      have hl := hm _ _ (List.mem_of_find?_eq_some hfind) d _ hd ha.symm hk
      rw [linkAlias_remembered hfind, hl.unique h]
    | none =>
      rw [linkAlias_enter hfind fresh known]
      exact congrArg (Except.mapError _) (linkType_of_means hb h (hf.push hv fresh known) hm)
  | .ofField hr h hp =>
    have hv := mentions_field hr
    have fresh := hf.not_mem hb hv (grounded_iff.2 fun _ _ e => h.grounded e)
    have known := holdsTarget_of_resolve hr
    have hl := linkType_of_means hb h (hf.push hv fresh known) hm
    rw [hp, linkType_field hr fresh known]
    exact bind_eq_ok_iff.2 ⟨_, congrArg (Except.mapError _) hl, rfl⟩

theorem linkTypes_of_means (hb : BuiltInOrder files) {scope : Address} {types : List WrittenType}
    {linked : List LinkedType} (h : (ofFiles files).MeansAll reader scope types linked)
    {trail : Trail (ofFiles files).itemIds} {us : List Item} {memory : LinkMemory}
    (hf : (ofFiles files).Follows reader trail us scope types)
    (hm : (ofFiles files).Faithful reader memory) :
    ((ofFiles files).linkTypes reader trail memory scope types).1 = .ok linked := by
  match h with
  | .nil _ => rw [linkTypes]
  | .cons h hs =>
    rw [linkTypes_cons, linkType_of_means hb h hf.first hm]
    refine bind_eq_ok_iff.2 ⟨_, rfl, bind_eq_ok_iff.2 ⟨_, ?_, rfl⟩⟩
    exact linkTypes_of_means hb hs hf.rest (hm.linkType _ _ _)

end

/-- Linking succeeds with what the type means, whatever is remembered. -/
theorem linkType_eq_ok_iff (hb : BuiltInOrder files) {scope : Address} {type : WrittenType}
    {memory : LinkMemory} (hm : (ofFiles files).Faithful reader memory) {linked : LinkedType} :
    ((ofFiles files).linkType reader .empty memory scope type).1 = .ok linked ↔
      (ofFiles files).Means reader scope type linked := by
  constructor
  · intro h
    exact (linkType_finds _ reader .empty memory scope type hm).2.2 linked h
  · intro h
    exact linkType_of_means hb h (.empty _ reader scope [type]) hm

end Table
end Schemata
