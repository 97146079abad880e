import Schemata.Proofs.Build.Sketch
import Schemata.Proofs.Link.Meaning

/-!
# Cycles of bases

A structure leads to the structures that its bases are, directly or behind aliases. The search for
cycles follows the bases depth first; it remembers the structures that it has left again, from which
no cycle is reached, and stops at the first structure that it meets while it is still below it.

**Results:**
* `Table.linkType_alone`: a base is linked in the same way with and without memory.
* `Table.base_cycles`: the search fails exactly if a cycle is reached, and the diagnostic spells
  one.
-/
namespace Schemata
namespace Table

/-- A base that stands in a scope is the structure, directly or behind aliases, when it is linked on
its own. -/
def IsBase (t : Table) (reader : Nat) (scope : Address) (base : WrittenType) (b : Definition) :
    Prop :=
  ∃ linked s, (t.linkType reader .empty .empty scope base).1 = .ok linked ∧
    linked.structure? = some s ∧ t.definitionOf? s.1 = some b

/-- A base of the one structure, at the range, is the other structure. -/
def BaseEdge (t : Table) (reader : Nat) (a : Definition) (via : Range) (b : Definition) : Prop :=
  ∃ bases base, a.kind = .struct bases ∧ base ∈ bases ∧ base.occurrence.range = via ∧
    t.IsBase reader a.address.scope base b

/-- Every base of the structure can be linked on its own. -/
def BasesLink (t : Table) (reader : Nat) (a : Definition) : Prop :=
  ∀ bases, a.kind = .struct bases → ∀ base ∈ bases,
    ∃ linked, (t.linkType reader .empty .empty a.address.scope base).1 = .ok linked

/-- What is remembered is right: the linked types of aliases, and that no cycle of bases is reached
from the structures that have been left. -/
structure Sound (t : Table) (reader : Nat) (memory : LinkMemory) : Prop where
  aliases : t.Faithful reader memory
  acyclic : ∀ a ∈ memory.acyclic, ∀ d, t.Holds d → d.address = a →
    Grounded (t.BaseEdge reader) d

variable {t : Table} {reader : Nat} {memory : LinkMemory}

theorem sound_empty (t : Table) (reader : Nat) : t.Sound reader .empty where
  aliases := faithful_empty t reader
  acyclic := fun a ha => by cases ha

theorem Sound.linkType (hm : t.Sound reader memory) (scope : Address) (type : WrittenType) :
    t.Sound reader (t.linkType reader .empty memory scope type).2 := by
  obtain ⟨ha, hacyclic, -⟩ := linkType_finds t reader .empty memory scope type hm.aliases
  exact ⟨ha, hacyclic ▸ hm.acyclic⟩

/-- Leaving a structure from which no cycle is reached keeps the memory right. -/
theorem Sound.leave (hm : t.Sound reader memory) {d : Definition} (held : t.Holds d)
    (hd : Grounded (t.BaseEdge reader) d) :
    t.Sound reader { memory with acyclic := d.address :: memory.acyclic } where
  aliases := hm.aliases
  acyclic := by
    intro a ha e he hea
    rcases List.mem_cons.1 ha with rfl | ha
    · obtain rfl := he.eq_of_address held hea
      exact hd
    · exact hm.acyclic a ha e he hea

variable {files : List ParsedFile}

/-- A base that can be linked on its own is linked in the same way with memory, which stays
right. -/
theorem linkType_alone (hb : BuiltInOrder files) (hm : (ofFiles files).Sound reader memory)
    {scope : Address} {type : WrittenType}
    (h : ∃ linked, ((ofFiles files).linkType reader .empty .empty scope type).1 = .ok linked)
    {x : Except Diagnostic LinkedType} {m : LinkMemory}
    (hx : (ofFiles files).linkType reader .empty memory scope type = (x, m)) :
    ∃ linked, x = .ok linked ∧ (ofFiles files).Sound reader m ∧
      ((ofFiles files).linkType reader .empty .empty scope type).1 = .ok linked := by
  obtain ⟨linked, h⟩ := h
  have hmeans := (linkType_eq_ok_iff hb (faithful_empty _ reader)).1 h
  have hok := (linkType_eq_ok_iff hb hm.aliases).2 hmeans
  have hsound := hm.linkType scope type
  rw [hx] at hok hsound
  exact ⟨linked, hok, hsound, h⟩

theorem isBase_of_linked {scope : Address} {base : WrittenType} {linked : LinkedType}
    {d : Definition} (h : (t.linkType reader .empty .empty scope base).1 = .ok linked)
    (hd : (linked.structure?.bind fun s => t.definitionOf? s.1) = some d) :
    t.IsBase reader scope base d := by
  obtain ⟨s, hs, hd⟩ := Option.bind_eq_some_iff.1 hd
  exact ⟨linked, s, h, hs, hd⟩

/-- A reference that means a structure is that structure as a base. -/
theorem isBase_reference_iff (hb : BuiltInOrder files) {scope : Address} {o : Occurrence}
    {r : Reference} {d : Definition} {bases : List WrittenType}
    (hr : (ofFiles files).resolve reader r o.range scope = .ok (.definition d))
    (hk : d.kind = .struct bases) {b : Definition} :
    (ofFiles files).IsBase reader scope (.reference o r) b ↔ b = d := by
  have hheld : (ofFiles files).Holds d := holdsTarget_of_resolve hr
  constructor
  · rintro ⟨linked, s, hlinked, hs, hd⟩
    rw [linkType_struct hr hk] at hlinked
    injection hlinked with hlinked
    rw [← hlinked] at hs
    injection hs with hs
    rw [← hs] at hd
    obtain ⟨hb', hid⟩ := (definitionOf?_eq_some_iff hb).1 hd
    exact hb'.eq_of_id hb hheld hid
  · rintro rfl
    exact ⟨_, _, congrArg Prod.fst (linkType_struct hr hk), rfl,
      (definitionOf?_eq_some_iff hb).2 ⟨hheld, rfl⟩⟩

/-- A base is at most one structure. -/
theorem IsBase.unique {scope : Address} {base : WrittenType} {b c : Definition}
    (h : t.IsBase reader scope base b) (h' : t.IsBase reader scope base c) : b = c := by
  obtain ⟨l, s, hl, hs, hb⟩ := h
  obtain ⟨l', s', hl', hs', hc⟩ := h'
  rw [hl] at hl'
  injection hl' with hl'
  rw [← hl', hs] at hs'
  injection hs' with hs'
  rw [← hs', hb] at hc
  injection hc

/-- The base of a structure that has only one leads to the structure that it means. -/
theorem baseEdge_iff_of_kind (hb : BuiltInOrder files) {a d : Definition} {o : Occurrence}
    {r : Reference} {bases : List WrittenType} (ha : a.kind = .struct [.reference o r])
    (hr : (ofFiles files).resolve reader r o.range a.address.scope = .ok (.definition d))
    (hd : d.kind = .struct bases) {via : Range} {b : Definition} :
    (ofFiles files).BaseEdge reader a via b ↔ o.range = via ∧ b = d := by
  constructor
  · rintro ⟨all, base, hk, hm, hvia, hbase⟩
    rw [ha] at hk
    injection hk with hk
    subst hk
    obtain rfl := List.mem_singleton.1 hm
    exact ⟨hvia, (isBase_reference_iff hb hr hd).1 hbase⟩
  · rintro ⟨hvia, rfl⟩
    exact ⟨_, _, ha, List.mem_singleton_self _, hvia, (isBase_reference_iff hb hr hd).2 rfl⟩

theorem basesLink_of_kind {a d : Definition} {o : Occurrence} {r : Reference}
    {bases : List WrittenType} (ha : a.kind = .struct [.reference o r])
    (hr : t.resolve reader r o.range a.address.scope = .ok (.definition d))
    (hd : d.kind = .struct bases) : t.BasesLink reader a := by
  intro all hk base hm
  rw [ha] at hk
  injection hk with hk
  subst hk
  obtain rfl := List.mem_singleton.1 hm
  exact ⟨_, congrArg Prod.fst (linkType_struct hr hd)⟩

/-! ## The search -/

/-- The trail was laid through the given structures, innermost first, along their bases. -/
structure Descends (t : Table) (reader : Nat) (trail : Trail t.structIds) (us : List Definition) :
    Prop where
  threads : Threads (t.BaseEdge reader) Definition.id trail.steps us
  held : ∀ u ∈ us, t.Holds u

/-- The innermost structure of the trail is the owner of the bases, which stand in its scope. -/
structure Owns (t : Table) (reader : Nat) (trail : Trail t.structIds) (us : List Definition)
    (owner : Definition) (scope : Address) (bases : List WrittenType) : Prop where
  descends : t.Descends reader trail us
  head : us.head? = some owner
  scope : owner.address.scope = scope
  among : ∃ all, owner.kind = .struct all ∧ ∀ base ∈ bases, base ∈ all

/-- The bases of every structure that is reached can be linked on their own. -/
abbrev AllLink (t : Table) (reader : Nat) (d : Definition) : Prop :=
  ∀ a, Reaches (t.BaseEdge reader) d a → t.BasesLink reader a

/-- The memory after the search is right, success means that all is done, and a failure spells a
cycle through a structure that is reached. -/
structure Settles (t : Table) (reader : Nat) (x : Linked Unit) (reached : Definition → Prop)
    (done : Prop) : Prop where
  sound : t.Sound reader x.2
  ok : x.1 = .ok () → done
  error : ∀ e, x.1 = .error e →
    ∃ a, reached a ∧ SpellsCycle (t.BaseEdge reader) Definition.name a e

/-- The search from a structure, entered along a base of the innermost structure of the trail. -/
abbrev SettlesStruct (t : Table) (reader : Nat) (trail : Trail t.structIds) (memory : LinkMemory)
    (d : Definition) (_ : t.Holds d) (via : Range) (x : Linked Unit) : Prop :=
  ∀ us, t.Descends reader trail us → (∀ u, us.head? = some u → t.BaseEdge reader u via d) →
    t.AllLink reader d → t.Sound reader memory →
      t.Settles reader x (Reaches (t.BaseEdge reader) d) (Grounded (t.BaseEdge reader) d)

/-- The search from some bases of the innermost structure of the trail. -/
abbrev SettlesBases (t : Table) (reader : Nat) (trail : Trail t.structIds) (memory : LinkMemory)
    (scope : Address) (bases : List WrittenType) (x : Linked Unit) : Prop :=
  ∀ us owner, t.Owns reader trail us owner scope bases → t.AllLink reader owner →
    t.Sound reader memory →
      t.Settles reader x (Reaches (t.BaseEdge reader) owner)
        (∀ base ∈ bases, ∀ b, t.IsBase reader scope base b → Grounded (t.BaseEdge reader) b)

theorem AllLink.next {d b : Definition} {via : Range} (h : t.AllLink reader d)
    (e : t.BaseEdge reader d via b) : t.AllLink reader b :=
  fun a ha => h a (ha.head e)

theorem Settles.failed {m : LinkMemory} {e : Diagnostic} {reached reached' : Definition → Prop}
    {done done' : Prop} (h : t.Settles reader (.error e, m) reached done)
    (hr : ∀ a, reached a → reached' a) : t.Settles reader (.error e, m) reached' done' where
  sound := h.sound
  ok := fun hok => by cases hok
  error := by
    intro e' he
    obtain ⟨a, ha, hs⟩ := h.error e' he
    exact ⟨a, hr a ha, hs⟩

section Owns

variable {trail : Trail t.structIds} {us : List Definition} {owner : Definition} {scope : Address}
  {base : WrittenType} {rest : List WrittenType}

/-- A structure that is entered owns its bases. -/
theorem Descends.enter (h : t.Descends reader trail us) {d : Definition} (held : t.Holds d)
    {via : Range} (e : ∀ u, us.head? = some u → t.BaseEdge reader u via d)
    (fresh : d.id ∉ trail.stepIds) (known : d.id ∈ t.structIds) {bases : List WrittenType}
    (hk : d.kind = .struct bases) :
    t.Owns reader (trail.push ⟨d.id, via⟩ fresh known) (d :: us) d d.address.scope bases where
  descends :=
    { threads := .cons h.threads e
      held := by
        intro u hu
        rcases List.mem_cons.1 hu with rfl | hu
        · exact held
        · exact h.held u hu }
  head := rfl
  scope := rfl
  among := ⟨bases, hk, fun _ hbase => hbase⟩

theorem Owns.tail (h : t.Owns reader trail us owner scope (base :: rest)) :
    t.Owns reader trail us owner scope rest := by
  obtain ⟨all, hk, hall⟩ := h.among
  exact ⟨h.descends, h.head, h.scope, all, hk, fun b hb => hall b (List.mem_cons_of_mem _ hb)⟩

theorem Owns.exists_linked (h : t.Owns reader trail us owner scope (base :: rest))
    (hl : t.AllLink reader owner) :
    ∃ linked, (t.linkType reader .empty .empty scope base).1 = .ok linked := by
  obtain ⟨all, hk, hall⟩ := h.among
  have hlinked := hl owner (.refl owner) all hk base (hall base List.mem_cons_self)
  rwa [h.scope] at hlinked

theorem Owns.edge (h : t.Owns reader trail us owner scope (base :: rest)) {d : Definition}
    (hd : t.IsBase reader scope base d) : t.BaseEdge reader owner base.occurrence.range d := by
  obtain ⟨all, hk, hall⟩ := h.among
  exact ⟨all, base, hk, hall base List.mem_cons_self, rfl, h.scope ▸ hd⟩

/-- The search from a base that is a structure is that from a structure. -/
theorem Owns.settles_first (h : t.Owns reader trail us owner scope (base :: rest))
    (hl : t.AllLink reader owner) {d : Definition} (hd : t.IsBase reader scope base d)
    {held : t.Holds d} {m : LinkMemory} (hm : t.Sound reader m) {x : Linked Unit}
    (hx : t.SettlesStruct reader trail m d held base.occurrence.range x) :
    t.Settles reader x (Reaches (t.BaseEdge reader) d) (Grounded (t.BaseEdge reader) d) := by
  refine hx us h.descends (fun u hu => ?_) (hl.next (h.edge hd)) hm
  rw [h.head] at hu
  injection hu with hu
  exact hu ▸ h.edge hd

end Owns

/-- The search finds cycles of bases exactly, wherever it has come from. -/
theorem settles (hb : BuiltInOrder files) (reader : Nat) :
    (∀ trail memory d held via, (ofFiles files).SettlesStruct reader trail memory d held via
      ((ofFiles files).checkBaseCycles reader trail memory d held via)) ∧
    ∀ trail memory scope bases, (ofFiles files).SettlesBases reader trail memory scope bases
      ((ofFiles files).checkBasesOf reader trail memory scope bases) := by
  refine checkBaseCycles.mutual_induct_unfolding (ofFiles files) reader
    ((ofFiles files).SettlesStruct reader) ((ofFiles files).SettlesBases reader)
    ?left ?ofAlias ?again ?entered ?failed ?nil ?unlinked ?noStruct ?base ?baseFailed
  case left =>
    intro trail memory d held via hleft us _ _ _ hm
    refine ⟨hm, fun _ => ?_, fun _ he => by cases he⟩
    exact hm.acyclic d.address (List.contains_iff_mem.1 hleft) d held rfl
  case ofAlias =>
    intro trail memory d held via hleft type hk us _ _ _ hm
    refine ⟨hm, fun _ => grounded_iff.2 ?_, fun _ he => by cases he⟩
    rintro r b ⟨bases, base, hk', -⟩
    rw [hk] at hk'
    cases hk'
  case again =>
    intro trail memory d held via hleft bases hk hon us ht he _ hm
    refine ⟨hm, fun h => (by cases h), fun e herr => ?_⟩
    injection herr with herr
    subst herr
    refine ⟨d, .refl d, ht.threads.spells_cycle ?_ hon he⟩
    intro u hu hid
    exact (ht.held u hu).eq_of_id hb held hid
  case entered =>
    intro trail memory d held via hleft bases hk fresh m hx ih us ht he hl hm
    rw [hx] at ih
    have hd := ih (d :: us) d (ht.enter held he fresh _ hk) hl hm
    have hg : Grounded ((ofFiles files).BaseEdge reader) d := by
      refine grounded_iff.2 ?_
      rintro r b ⟨bases', base, hk', hbase, -, hb⟩
      rw [hk] at hk'
      injection hk' with hbases
      exact hd.ok rfl base (hbases ▸ hbase) b hb
    exact ⟨hd.sound.leave held hg, fun _ => hg, fun _ herr => by cases herr⟩
  case failed =>
    intro trail memory d held via hleft bases hk fresh e m hx ih us ht he hl hm
    rw [hx] at ih
    exact (ih (d :: us) d (ht.enter held he fresh _ hk) hl hm).failed fun _ ha => ha
  case nil =>
    intro trail memory scope us owner _ _ hm
    exact ⟨hm, fun _ base hbase => (by cases hbase), fun _ he => by cases he⟩
  case unlinked =>
    intro trail memory scope base rest e m hx us owner ho hl hm
    obtain ⟨linked, hok, -⟩ := linkType_alone hb hm (ho.exists_linked hl) hx
    cases hok
  case noStruct =>
    intro trail memory scope base rest linked m hx hnone ih us owner ho hl hm
    obtain ⟨_, hok, hm', hlinked⟩ := linkType_alone hb hm (ho.exists_linked hl) hx
    injection hok with hok
    subst hok
    have hrest := ih us owner ho.tail hl hm'
    refine ⟨hrest.sound, fun h c hc b hcb => ?_, hrest.error⟩
    rcases List.mem_cons.1 hc with rfl | hc
    · obtain ⟨l, s, hl', hs, hb'⟩ := hcb
      rw [hlinked] at hl'
      injection hl' with hl'
      rw [hl', hs, Option.bind_some, hb'] at hnone
      cases hnone
    · exact hrest.ok h c hc b hcb
  case base =>
    intro trail memory scope base rest linked m hx d hd held m' hcheck ihd ih us owner ho hl hm
    obtain ⟨_, hok, hm', hlinked⟩ := linkType_alone hb hm (ho.exists_linked hl) hx
    injection hok with hok
    subst hok
    rw [hcheck] at ihd
    have hbase := isBase_of_linked hlinked hd
    have hfirst := ho.settles_first hl hbase hm' ihd
    have hrest := ih us owner ho.tail hl hfirst.sound
    refine ⟨hrest.sound, fun h c hc b hcb => ?_, hrest.error⟩
    rcases List.mem_cons.1 hc with rfl | hc
    · rw [hcb.unique hbase]
      exact hfirst.ok rfl
    · exact hrest.ok h c hc b hcb
  case baseFailed =>
    intro trail memory scope base rest linked m hx d hd held e m' hcheck ihd us owner ho hl hm
    obtain ⟨_, hok, hm', hlinked⟩ := linkType_alone hb hm (ho.exists_linked hl) hx
    injection hok with hok
    subst hok
    rw [hcheck] at ihd
    have hbase := isBase_of_linked hlinked hd
    exact (ho.settles_first hl hbase hm' ihd).failed fun _ ha => ha.head (ho.edge hbase)

/-- Cycles of bases are found exactly. Where every base that is reached can be linked, the search
from a structure fails exactly if a structure on a cycle is reached, and its diagnostic spells a
simple cycle through the structure that was met again. -/
theorem base_cycles (hb : BuiltInOrder files) (reader : Nat) {d : Definition}
    (held : (ofFiles files).Holds d) (via : Range)
    (hl : ∀ a, Reaches ((ofFiles files).BaseEdge reader) d a → (ofFiles files).BasesLink reader a) :
    ((∃ e, ((ofFiles files).checkBaseCycles reader .empty .empty d held via).1 = .error e) ↔
      ∃ a, Reaches ((ofFiles files).BaseEdge reader) d a ∧
        OnCycle ((ofFiles files).BaseEdge reader) a) ∧
    ∀ e, ((ofFiles files).checkBaseCycles reader .empty .empty d held via).1 = .error e →
      ∃ a, Reaches ((ofFiles files).BaseEdge reader) d a ∧
        SpellsCycle ((ofFiles files).BaseEdge reader) Definition.name a e := by
  have hs := (settles hb reader).1 .empty .empty d held via [] ⟨.nil, fun u hu => by cases hu⟩
    (fun u hu => by cases hu) hl (sound_empty _ reader)
  refine ⟨⟨?_, ?_⟩, hs.error⟩
  · rintro ⟨e, he⟩
    obtain ⟨a, ha, -, way, hway, -⟩ := hs.error e he
    exact ⟨a, ha, hway.onCycle⟩
  · rintro ⟨a, ha, hcycle⟩
    match hx : ((ofFiles files).checkBaseCycles reader .empty .empty d held via).1 with
    | .error e => exact ⟨e, rfl⟩
    | .ok () => exact absurd hcycle ((hs.ok hx).of_reaches ha).not_onCycle

/-- Two structures that are bases of each other. -/
def mutualBases : List ParsedFile :=
  parseInOrder
    [(⟨"ws/a.schema"⟩, [.record 1 "Foo" [.named 1 ["Bar"]] [],
      .record 2 "Bar" [.named 2 ["Foo"]] []])]

/-- The search from the first structure fails where it meets it again behind the second one. -/
theorem base_cycles_mutualBases :
    BuiltInOrder mutualBases ∧ ∃ foo, ∃ held : (ofFiles mutualBases).Holds foo, ∃ e a,
      foo.name.name = "Foo" ∧
      (∀ a, Reaches ((ofFiles mutualBases).BaseEdge 0) foo a →
        (ofFiles mutualBases).BasesLink 0 a) ∧
      ((ofFiles mutualBases).checkBaseCycles 0 .empty .empty foo held foo.name.range).1 =
        .error e ∧
      SpellsCycle ((ofFiles mutualBases).BaseEdge 0) Definition.name a e := by
  have hb : BuiltInOrder mutualBases := builtInOrder_parseInOrder _
  obtain ⟨foo, bar, o, r, o', r', hfoo, hname, hkfoo, hkbar, hrbar, hrfoo⟩ :
      ∃ foo bar o r o' r', (ofFiles mutualBases).definitionAt? ⟨0, [0]⟩ = some foo ∧
        foo.name.name = "Foo" ∧ foo.kind = .struct [.reference o r] ∧
        bar.kind = .struct [.reference o' r'] ∧
        (ofFiles mutualBases).resolve 0 r o.range foo.address.scope = .ok (.definition bar) ∧
        (ofFiles mutualBases).resolve 0 r' o'.range bar.address.scope = .ok (.definition foo) :=
    ⟨_, _, _, _, _, _, rfl, rfl, rfl, rfl, rfl, rfl⟩
  have held := holds_of_definitionAt? hfoo
  have fromFoo : ∀ via b, (ofFiles mutualBases).BaseEdge 0 foo via b ↔ o.range = via ∧ b = bar :=
    fun via b => baseEdge_iff_of_kind hb hkfoo hrbar hkbar
  have fromBar : ∀ via b, (ofFiles mutualBases).BaseEdge 0 bar via b ↔ o'.range = via ∧ b = foo :=
    fun via b => baseEdge_iff_of_kind hb hkbar hrfoo hkfoo
  have hclosed : ∀ a via b, (ofFiles mutualBases).BaseEdge 0 a via b → a = foo ∨ a = bar →
      b = foo ∨ b = bar := by
    rintro a via b h (rfl | rfl)
    · exact .inr ((fromFoo via b).1 h).2
    · exact .inl ((fromBar via b).1 h).2
  have hl : ∀ a, Reaches ((ofFiles mutualBases).BaseEdge 0) foo a →
      (ofFiles mutualBases).BasesLink 0 a := by
    intro a ha
    rcases ha.closed hclosed (.inl rfl) with rfl | rfl
    · exact basesLink_of_kind hkfoo hrbar hkbar
    · exact basesLink_of_kind hkbar hrfoo hkfoo
  have hcycle : OnCycle ((ofFiles mutualBases).BaseEdge 0) foo := by
    refine ⟨[(o.range, bar), (o'.range, foo)], by simp, .cons ?_ (.cons ?_ (.nil foo))⟩
    · exact (fromFoo _ _).2 ⟨rfl, rfl⟩
    · exact (fromBar _ _).2 ⟨rfl, rfl⟩
  obtain ⟨hfails, hspells⟩ := base_cycles hb 0 held foo.name.range hl
  obtain ⟨e, he⟩ := hfails.2 ⟨foo, .refl foo, hcycle⟩
  obtain ⟨a, -, ha⟩ := hspells e he
  exact ⟨hb, foo, held, e, a, hname, hl, he, ha⟩

end Table
end Schemata
