import Schemata.Proofs.Build.Sketch
import Schemata.Proofs.Link.Meaning

/-!
# Cycles of aliases and fields

An alias or a field whose type leads back to it has no meaning. Linking a type succeeds only if no
such cycle is reached from it, and the diagnostic of a cycle spells one: a simple cycle through the
definition that was met again, one reference for each of its definitions. References to structures
do not count, so a structure may have a field of its own type.

**Results:**
* `Table.cause_of_resolve`: a name that means nothing is not reported as a cycle.
* `Table.item_cycles`: success excludes cycles, and the diagnostic of a cycle spells one.
-/
namespace Schemata

theorem inContext_of_circular {e : Diagnostic} {name : String}
    (h : e.cause = .circularTypeReference name) (range : Range) : inContext e range = e := by
  unfold inContext
  rw [h]

theorem cause_of_checkMembers {range : Range} {isVariant : Bool} {members : List (Range × Bool)}
    {e : Diagnostic} (h : checkMembers range isVariant members = .error e) (name : String) :
    e.cause ≠ .circularTypeReference name := by
  unfold checkMembers at h
  split at h
  · injection h with h
    rw [← h]
    simp [Diagnostic.located]
  · split at h
    · split at h
      · injection h with h
        rw [← h]
        simp [Diagnostic.located]
      · cases h
    · cases h

namespace Table

/-! ## Names that mean nothing -/

theorem cause_of_unknownName (name : Identifier) (other : String) :
    (unknownName name).cause ≠ .circularTypeReference other := by
  simp [unknownName, Diagnostic.located]

theorem cause_of_checkAccessible {definition name : Identifier} {e : Diagnostic}
    (h : checkAccessible definition name = .error e) (other : String) :
    e.cause ≠ .circularTypeReference other := by
  unfold checkAccessible at h
  split at h
  · cases h
  all_goals
    injection h with h
    rw [← h]
    simp [Diagnostic.located]

theorem cause_of_resolveFirst {t : Table} {reader : Nat} {scope : Address} {isGlobal : Bool}
    {name : Identifier} {e : Diagnostic} (h : t.resolveFirst reader scope isGlobal name = .error e)
    (other : String) : e.cause ≠ .circularTypeReference other := by
  unfold resolveFirst at h
  split at h
  · cases h
  · split at h
    · split at h
      · injection h with h
        exact h ▸ cause_of_unknownName name other
      · cases h
      · injection h with h
        rw [← h]
        simp
    · injection h with h
      exact h ▸ cause_of_unknownName name other

theorem cause_of_resolveRest {t : Table} {isElement : Bool} {d : Definition}
    {names : List Identifier} {e : Diagnostic} (h : t.resolveRest isElement d names = .error e)
    (other : String) : e.cause ≠ .circularTypeReference other := by
  induction names generalizing d with
  | nil => cases h
  | cons name rest ih =>
    rw [resolveRest] at h
    split at h
    · injection h with h
      exact h ▸ cause_of_unknownName name other
    · split at h
      · split at h
        · rcases bind_eq_error_iff.1 h with h | ⟨_, _, h⟩
          · exact cause_of_checkAccessible h other
          · cases h
        · injection h with h
          exact h ▸ cause_of_unknownName name other
      · split at h
        · rcases bind_eq_error_iff.1 h with h | ⟨_, _, h⟩
          · exact cause_of_checkAccessible h other
          · exact ih h
        · injection h with h
          exact h ▸ cause_of_unknownName name other

/-- A name that means nothing is not reported as a cycle. -/
theorem cause_of_resolve {t : Table} {reader : Nat} {scope : Address} {r : Reference}
    {range : Range} {e : Diagnostic} (h : t.resolve reader r range scope = .error e)
    (other : String) : e.cause ≠ .circularTypeReference other := by
  unfold resolve at h
  split at h
  · injection h with h
    rw [← h]
    simp [Diagnostic.located]
  · rcases bind_eq_error_iff.1 h with h | ⟨_, _, h⟩
    · exact cause_of_resolveFirst h other
    · exact cause_of_resolveRest h other

/-! ## Diagnostics of cycles -/

/-- A type in a scope involves what it mentions and everything to which that leads. -/
def Involves (t : Table) (reader : Nat) (scope : Address) (type : WrittenType) (u : Item) : Prop :=
  ∃ via v, t.Mentions reader scope type via v ∧ Reaches (t.ItemEdge reader) v u

/-- If the outcome is the diagnostic of a cycle, it spells one through a definition that is
reached. -/
def Spells {α : Type} (t : Table) (reader : Nat) (x : Linked α) (reached : Item → Prop) : Prop :=
  ∀ e name, x.1 = .error e → e.cause = .circularTypeReference name →
    ∃ u, reached u ∧ SpellsCycle (t.ItemEdge reader) Item.name u e

section Spells

variable {α β : Type} {t : Table} {reader : Nat} {memory : LinkMemory} {reached : Item → Prop}

theorem spells_ok {a : α} : t.Spells reader (.ok a, memory) reached :=
  fun _ _ he _ => by cases he

theorem Spells.bind {x : Linked α} {f : α → Except Diagnostic β} (h : t.Spells reader x reached)
    (hf : ∀ a e, f a = .error e → ∀ name, e.cause ≠ .circularTypeReference name) :
    t.Spells reader (x.1 >>= f, x.2) reached := by
  intro e name he hc
  rcases bind_eq_error_iff.1 he with he | ⟨a, _, he⟩
  · exact h e name he hc
  · exact absurd hc (hf a e he name)

/-- The context of a failure leaves the diagnostic of a cycle as it is. -/
theorem Spells.context {m : LinkMemory} {e : Diagnostic} {range : Range}
    (h : t.Spells (α := α) reader (.error e, m) reached) :
    t.Spells (α := β) reader (.error (inContext e range), m) reached := by
  intro e' name he hc
  injection he with he
  subst he
  rw [inContext_cause] at hc
  rw [inContext_of_circular hc]
  exact h e name rfl hc

theorem Spells.mono {x : Linked α} {reached' : Item → Prop} (h : t.Spells reader x reached)
    (hr : ∀ u, reached u → reached' u) : t.Spells reader x reached' := by
  intro e name he hc
  obtain ⟨u, hu, hs⟩ := h e name he hc
  exact ⟨u, hr u hu, hs⟩

end Spells

/-- A run on a trail that was laid along references. -/
abbrev SpellsType (t : Table) (reader : Nat) (trail : Trail t.itemIds) (_ : LinkMemory)
    (scope : Address) (type : WrittenType) (x : Linked LinkedType) : Prop :=
  ∀ us, t.Follows reader trail us scope [type] → t.Spells reader x (t.Involves reader scope type)

/-- A run for an alias that a type mentions, on a trail that was laid along references. -/
abbrev SpellsAlias (t : Table) (reader : Nat) (trail : Trail t.itemIds) (_ : LinkMemory)
    (d : Definition) (aliased : WrittenType) (via : Range) (x : Linked LinkedType) : Prop :=
  ∀ us scope type, t.Follows reader trail us scope [type] →
    t.Mentions reader scope type via (.ofAlias d aliased) →
      t.Spells reader x (t.Involves reader scope type)

/-- A run for several types, on a trail that was laid along references. -/
abbrev SpellsTypes (t : Table) (reader : Nat) (trail : Trail t.itemIds) (_ : LinkMemory)
    (scope : Address) (types : List WrittenType) (x : Linked (List LinkedType)) : Prop :=
  ∀ us, t.Follows reader trail us scope types →
    t.Spells reader x fun u => ∃ type ∈ types, t.Involves reader scope type u

theorem Involves.of_mentions {t : Table} {reader : Nat} {scope : Address} {type : WrittenType}
    {via : Range} {v u : Item} (hv : t.Mentions reader scope type via v)
    (hu : t.Involves reader v.scope v.type u) : t.Involves reader scope type u := by
  obtain ⟨r, w, hw, hreach⟩ := hu
  exact ⟨via, v, hv, hreach.head hw⟩

theorem Involves.of_member {t : Table} {reader : Nat} {scope : Address} {members : List WrittenType}
    {type : WrittenType} (ht : type.references = WrittenType.referencesIn members) {u : Item}
    (hu : ∃ member ∈ members, t.Involves reader scope member u) :
    t.Involves reader scope type u := by
  obtain ⟨member, hm, via, v, hv, hreach⟩ := hu
  refine ⟨via, v, hv.of_mem fun x hx => ?_, hreach⟩
  rw [ht]
  exact WrittenType.mem_referencesIn.2 ⟨member, hm, hx⟩

/-- Meeting a definition of the trail again gives a diagnostic that spells a cycle through it. -/
theorem spells_again {files : List ParsedFile} (hb : BuiltInOrder files) {reader : Nat}
    {scope : Address} {type : WrittenType} {trail : Trail (ofFiles files).itemIds} {us : List Item}
    (hf : (ofFiles files).Follows reader trail us scope [type]) {via : Range} {v : Item}
    (hv : (ofFiles files).Mentions reader scope type via v) (hon : v.id ∈ trail.stepIds)
    (memory : LinkMemory) :
    (ofFiles files).Spells (α := LinkedType) reader
      (.error (trail.cycle v.id v.name via), memory)
      ((ofFiles files).Involves reader scope type) := by
  intro e name he _
  injection he with he
  subst he
  exact ⟨v, ⟨via, v, hv, .refl v⟩, hf.spells_cycle hb hv hon⟩

/-- Each step of linking spells a cycle if it reports one. -/
theorem linkInvariant_spells {files : List ParsedFile} (hb : BuiltInOrder files) (reader : Nat) :
    (ofFiles files).LinkInvariant reader ((ofFiles files).SpellsType reader)
      ((ofFiles files).SpellsAlias reader) ((ofFiles files).SpellsTypes reader) where
  fundamental := fun _ _ _ _ _ _ _ => spells_ok
  tuple := by
    intro _ _ _ _ _ _ h us hf
    refine ((h us hf.tuple).mono fun u => .of_member rfl).bind fun _ _ he => ?_
    cases he
  variant := by
    intro _ _ _ _ _ _ h us hf
    refine ((h us hf.variant).mono fun u => .of_member rfl).bind fun _ _ he => ?_
    rcases bind_eq_error_iff.1 he with he | ⟨_, _, he⟩
    · exact cause_of_checkMembers he
    · cases he
  unresolved := by
    intro _ _ _ _ _ e hr _ _ e' name he hc
    injection he with he
    exact absurd (he ▸ hc) (cause_of_resolve hr name)
  struct := fun _ _ _ _ _ _ _ _ _ _ _ => spells_ok
  aliasAsked := by
    intro _ _ _ _ _ _ _ _ hr hk h us hf
    refine (h us _ _ hf (mentions_alias hr hk)).bind fun _ _ he => ?_
    cases he
  fieldAgain := by
    intro _ memory _ _ _ f hr hon us hf
    exact spells_again hb hf (mentions_field hr) hon memory
  field := fun _ _ _ _ _ _ _ _ _ _ _ _ _ _ => spells_ok
  fieldFailed := by
    intro _ _ _ _ _ f _ _ fresh known hr h us hf
    have hv := mentions_field hr
    exact (h _ (hf.push hv fresh known)).context.mono fun u => .of_mentions hv
  remembered := fun _ _ _ _ _ _ _ _ _ _ _ _ _ => spells_ok
  aliasAgain := by
    intro _ memory _ _ _ _ hon us _ _ hf hv
    exact spells_again hb hf hv hon memory
  aliasEntered := fun _ _ _ _ _ _ _ _ _ _ _ _ _ _ _ _ => spells_ok
  aliasFailed := by
    intro _ _ _ _ _ _ _ fresh known _ h us _ _ hf hv
    exact (h _ (hf.push hv fresh known)).context.mono fun u => .of_mentions hv
  nil := fun _ _ _ _ _ => spells_ok
  cons := by
    intro _ _ _ type rest _ _ _ _ h us hf
    refine ((h us hf.rest).mono ?_).bind fun _ _ he => ?_
    · rintro u ⟨member, hm, hu⟩
      exact ⟨member, List.mem_cons_of_mem _ hm, hu⟩
    · cases he
  consFailed := by
    intro _ _ _ type rest e m h us hf e' name he hc
    injection he with he
    obtain ⟨u, hu, hs⟩ := h us hf.first e name rfl (he ▸ hc)
    exact ⟨u, ⟨type, List.mem_cons_self, hu⟩, he ▸ hs⟩

/-- Cycles of aliases and fields are found exactly. If linking a type succeeds, nothing that the
type involves is on a cycle; if it fails with the diagnostic of a cycle, that spells a simple cycle
through something that the type involves. -/
theorem item_cycles {files : List ParsedFile} (hb : BuiltInOrder files) (reader : Nat)
    (scope : Address) (type : WrittenType) :
    (∀ linked, ((ofFiles files).linkType reader .empty .empty scope type).1 = .ok linked →
      ∀ u, (ofFiles files).Involves reader scope type u →
        ¬ OnCycle ((ofFiles files).ItemEdge reader) u) ∧
    ∀ e name, ((ofFiles files).linkType reader .empty .empty scope type).1 = .error e →
      e.cause = .circularTypeReference name →
        ∃ u, (ofFiles files).Involves reader scope type u ∧
          SpellsCycle ((ofFiles files).ItemEdge reader) Item.name u e := by
  constructor
  · rintro linked h u ⟨via, v, hv, hreach⟩
    have hmeans := (linkType_eq_ok_iff hb (faithful_empty _ reader)).1 h
    exact ((hmeans.grounded hv).of_reaches hreach).not_onCycle
  · exact (linkInvariant_spells hb reader).runs.1 .empty .empty scope type []
      (.empty _ reader scope [type])

/-- Two aliases that stand for each other, and a field of the type of the first. -/
def mutualFiles : List ParsedFile :=
  parseInOrder
    [(⟨"ws/a.schema"⟩, [.names 1 "A" (.named 1 ["B"]), .names 2 "B" (.named 2 ["A"]),
      .names 3 "x" (.named 3 ["A"])])]

/-- Linking the type of the field fails: the first alias is met again behind the second one, and the
diagnostic spells the cycle through both. -/
theorem item_cycles_mutualFiles :
    BuiltInOrder mutualFiles ∧ ∃ f e u, (ofFiles mutualFiles).fieldIn? ⟨0, []⟩ "x" = some f ∧
      ((ofFiles mutualFiles).linkType 0 .empty .empty f.scope f.type).1 = .error e ∧
      SpellsCycle ((ofFiles mutualFiles).ItemEdge 0) Item.name u e ∧
      u.name.name = "A" ∧ e.ranges.map (·.start.line) = [2, 1] := by
  have hb : BuiltInOrder mutualFiles := builtInOrder_parseInOrder _
  obtain ⟨f, o, r, a, oa, ra, b, ob, rb, hx, hf, hra, hka, hrb, hkb, hagain, hne, hname, hlines⟩ :
      ∃ f o r a oa ra b ob rb, (ofFiles mutualFiles).fieldIn? ⟨0, []⟩ "x" = some f ∧
        f.type = .reference o r ∧
        (ofFiles mutualFiles).resolve 0 r o.range f.scope = .ok (.definition a) ∧
        a.kind = .alias (.reference oa ra) ∧
        (ofFiles mutualFiles).resolve 0 ra oa.range a.address.scope = .ok (.definition b) ∧
        b.kind = .alias (.reference ob rb) ∧
        (ofFiles mutualFiles).resolve 0 rb ob.range b.address.scope = .ok (.definition a) ∧
        b.id ≠ a.id ∧ a.name.name = "A" ∧ [ob.range.start.line, oa.range.start.line] = [2, 1] :=
    ⟨_, _, _, _, _, _, _, _, _, rfl, rfl, rfl, rfl, rfl, rfl, rfl, by decide, rfl, rfl⟩
  have ka := Holds.id_mem_itemIds (holdsTarget_of_resolve hra) hka
  have kb := Holds.id_mem_itemIds (holdsTarget_of_resolve hrb) hkb
  have fresh : a.id ∉ (Trail.empty : Trail (ofFiles mutualFiles).itemIds).stepIds := by
    simp [Trail.stepIds, Trail.empty]
  have fresh' : b.id ∉ (Trail.empty.push ⟨a.id, o.range⟩ fresh ka).stepIds := by
    simp [Trail.stepIds, Trail.empty, Trail.push, hne]
  have hon : a.id ∈ ((Trail.empty.push ⟨a.id, o.range⟩ fresh ka).push ⟨b.id, oa.range⟩ fresh'
      kb).stepIds := by
    simp [Trail.stepIds, Trail.empty, Trail.push]
  have herr : ((ofFiles mutualFiles).linkType 0 .empty .empty f.scope f.type).1 =
      .error (((Trail.empty.push ⟨a.id, o.range⟩ fresh ka).push ⟨b.id, oa.range⟩ fresh' kb).cycle
        a.id a.name ob.range) := by
    rw [hf, linkType_alias hra hka ka, linkAlias_enter rfl fresh ka, linkType_alias hrb hkb kb,
      linkAlias_enter rfl fresh' kb, linkType_alias hagain hka ka, linkAlias_again rfl hon]
    rfl
  obtain ⟨u, -, hs⟩ := (item_cycles hb 0 f.scope f.type).2 _ _ herr rfl
  refine ⟨hb, f, _, u, hx, herr, hs, ?_, ?_⟩
  · have hc := hs.1
    injection hc with hc
    rw [← hc, hname]
  · rw [← hlines]
    simp [Trail.cycle, Diagnostic.ranges, Trail.since, Trail.push, hne]

end Table
end Schemata
