import Schemata.Link
import Schemata.Proofs.Cycle
import Schemata.Proofs.Table.Identity

/-!
# Aliases and fields

Linking a type enters the aliases and the fields that its references mean. They are the nodes of a
graph: one leads to another if its type contains, at any depth, a reference that means the other.

**Results:**
* `Table.hasItem_of_mentions`: what a type mentions is an alias or a field of the table.
* `Table.HasItem.eq_of_id`: in a table of built files, an id belongs to one alias or field.
-/
namespace Schemata

/-- An alias or a field with the scope in which its type is meant. -/
structure Item where
  /-- The scope. -/
  scope : Address
  /-- The id of its statement. -/
  id : ElementId
  /-- Its name. -/
  name : Identifier
  /-- Its type. -/
  type : WrittenType

/-- An alias, a definition with the type for which it stands. -/
def Item.ofAlias (d : Definition) (type : WrittenType) : Item :=
  ⟨d.address.scope, d.id, d.name, type⟩

/-- A field. -/
def Item.ofField (f : Field) : Item := ⟨f.scope, f.id, f.name, f.type⟩

/-- The alias or the field that a reference means. -/
def ReferenceTarget.item? : ReferenceTarget → Option Item
  | .definition d =>
    match d.kind with
    | .alias type => some (.ofAlias d type)
    | .struct _ => none
  | .field f => some (.ofField f)

namespace WrittenType

mutual

/-- The references in a type, at any depth, with their places. -/
def references : WrittenType → List (Occurrence × Reference)
  | fundamental _ _ => []
  | reference o r => [(o, r)]
  | tuple _ members | variant _ members => referencesIn members

/-- The references in some types, at any depth. -/
def referencesIn : List WrittenType → List (Occurrence × Reference)
  | [] => []
  | type :: rest => type.references ++ referencesIn rest

end

theorem mem_referencesIn {types : List WrittenType} {x : Occurrence × Reference} :
    x ∈ referencesIn types ↔ ∃ type ∈ types, x ∈ type.references := by
  induction types with
  | nil => simp [referencesIn]
  | cons type rest ih => simp [referencesIn, ih]

end WrittenType

namespace Table

/-- A type that stands in a scope contains a reference at the range that means the item for the
reader. -/
def Mentions (t : Table) (reader : Nat) (scope : Address) (type : WrittenType) (via : Range)
    (v : Item) : Prop :=
  ∃ o r target, (o, r) ∈ type.references ∧ o.range = via ∧
    t.resolve reader r o.range scope = .ok target ∧ target.item? = some v

/-- The type of the one item mentions the other. -/
def ItemEdge (t : Table) (reader : Nat) (u : Item) (via : Range) (v : Item) : Prop :=
  t.Mentions reader u.scope u.type via v

/-- An item is made by a statement of the table. -/
def HasItem (t : Table) (u : Item) : Prop :=
  ∃ a range, (a, .item u.id range u.name u.type) ∈ t.allStatements ∧ a.scope = u.scope

variable {t : Table} {reader : Nat} {scope : Address}

theorem Mentions.of_mem {type member : WrittenType} {via : Range} {v : Item}
    (h : t.Mentions reader scope member via v)
    (hm : ∀ x ∈ member.references, x ∈ type.references) : t.Mentions reader scope type via v := by
  obtain ⟨o, r, target, hr, hvia, hres, hv⟩ := h
  exact ⟨o, r, target, hm _ hr, hvia, hres, hv⟩

theorem mentions_reference_iff {o : Occurrence} {r : Reference} {via : Range} {v : Item} :
    t.Mentions reader scope (.reference o r) via v ↔
      o.range = via ∧ ∃ target, t.resolve reader r o.range scope = .ok target ∧
        target.item? = some v := by
  constructor
  · rintro ⟨o', r', target, hr, hvia, hres, hv⟩
    simp only [WrittenType.references, List.mem_singleton, Prod.mk.injEq] at hr
    obtain ⟨rfl, rfl⟩ := hr
    exact ⟨hvia, target, hres, hv⟩
  · rintro ⟨hvia, target, hres, hv⟩
    exact ⟨o, r, target, by simp [WrittenType.references], hvia, hres, hv⟩

/-- A reference mentions the alias that it means. -/
theorem mentions_alias {o : Occurrence} {r : Reference} {d : Definition} {type : WrittenType}
    (hr : t.resolve reader r o.range scope = .ok (.definition d)) (hk : d.kind = .alias type) :
    t.Mentions reader scope (.reference o r) o.range (.ofAlias d type) := by
  refine mentions_reference_iff.2 ⟨rfl, _, hr, ?_⟩
  simp only [ReferenceTarget.item?, hk]

/-- A reference mentions the field that it means. -/
theorem mentions_field {o : Occurrence} {r : Reference} {f : Field}
    (hr : t.resolve reader r o.range scope = .ok (.field f)) :
    t.Mentions reader scope (.reference o r) o.range (.ofField f) :=
  mentions_reference_iff.2 ⟨rfl, _, hr, rfl⟩

/-! ## Items of the table -/

theorem hasItem_of_fieldIn? {name : String} {f : Field} (h : t.fieldIn? scope name = some f) :
    t.HasItem (.ofField f) := by
  obtain ⟨s, hs, hf⟩ := Option.bind_eq_some_iff.1 h
  obtain ⟨index, hi⟩ := List.mem_iff_getElem?.1 (List.mem_of_find?_eq_some hs)
  have hmem : (scope.child index, s) ∈ t.allStatements := statementAt?_mem hi
  unfold Field.ofStatement? at hf
  split at hf
  · split at hf
    · injection hf with hf
      subst hf
      exact ⟨_, _, hmem, rfl⟩
    · cases hf
  · cases hf

theorem hasItem_of_holds {d : Definition} {type : WrittenType} (h : t.Holds d)
    (hk : d.kind = .alias type) : t.HasItem (.ofAlias d type) := by
  obtain ⟨s, hs, hd⟩ := h
  unfold Definition.ofStatement? at hd
  split at hd
  · split at hd
    · injection hd with hd
      rw [← hd] at hk hs ⊢
      injection hk with hk
      subst hk
      exact ⟨_, _, hs, rfl⟩
    · cases hd
  · injection hd with hd
    rw [← hd] at hk
    cases hk
  · cases hd

/-- A field that names behind a definition lead to is defined by a scope of the table. -/
theorem exists_fieldIn?_of_resolveRest {isElement : Bool} {d : Definition}
    {names : List Identifier} {f : Field}
    (h : t.resolveRest isElement d names = .ok (.field f)) :
    ∃ scope name, t.fieldIn? scope name = some f := by
  induction names generalizing d with
  | nil => cases h
  | cons name rest ih =>
    rw [resolveRest] at h
    split at h
    · cases h
    · split at h
      · split at h
        · rename_i g hg
          obtain ⟨_, _, h⟩ := bind_eq_ok_iff.1 h
          injection h with h
          injection h with h
          subst h
          unfold memberField? at hg
          split at hg
          · exact ⟨_, _, hg⟩
          · cases hg
        · cases h
      · split at h
        · obtain ⟨_, _, h⟩ := bind_eq_ok_iff.1 h
          exact ih h
        · cases h

/-- What a reference means is in the table. -/
theorem hasItem_of_resolve {r : Reference} {range : Range} {target : ReferenceTarget} {v : Item}
    (h : t.resolve reader r range scope = .ok target) (hv : target.item? = some v) :
    t.HasItem v := by
  cases target with
  | definition d =>
    have hd : t.Holds d := holdsTarget_of_resolve h
    simp only [ReferenceTarget.item?] at hv
    split at hv
    · rename_i hk
      injection hv with hv
      exact hv ▸ hasItem_of_holds hd hk
    · cases hv
  | field f =>
    injection hv with hv
    subst hv
    unfold resolve at h
    split at h
    · cases h
    · obtain ⟨_, _, h⟩ := bind_eq_ok_iff.1 h
      obtain ⟨_, _, hf⟩ := exists_fieldIn?_of_resolveRest h
      exact hasItem_of_fieldIn? hf

/-- What a type mentions is in the table. -/
theorem hasItem_of_mentions {type : WrittenType} {via : Range} {v : Item}
    (h : t.Mentions reader scope type via v) : t.HasItem v := by
  obtain ⟨o, r, target, -, -, hres, hv⟩ := h
  exact hasItem_of_resolve hres hv

/-- In a table of built files, an id belongs to one item. -/
theorem HasItem.eq_of_id {files : List ParsedFile} (hb : BuiltInOrder files) {u v : Item}
    (hu : (ofFiles files).HasItem u) (hv : (ofFiles files).HasItem v) (h : u.id = v.id) :
    u = v := by
  obtain ⟨a, range, hu, ha⟩ := hu
  obtain ⟨b, range', hv, hb'⟩ := hv
  have heq := Table.eq_of_id hb hu hv h
  injection heq with hab hs
  injection hs with _ _ hname htype
  cases u
  cases v
  simp_all

/-! ## Trails of items -/

/-- The trail was laid through the given items, innermost first, and the types stand in the scope
where the innermost of them has its type: what they mention, it mentions. -/
structure Follows (t : Table) (reader : Nat) (trail : Trail t.itemIds) (us : List Item)
    (scope : Address) (types : List WrittenType) : Prop where
  threads : Threads (t.ItemEdge reader) Item.id trail.steps us
  held : ∀ u ∈ us, t.HasItem u
  edge : ∀ type ∈ types, ∀ via v, t.Mentions reader scope type via v →
    ∀ u, us.head? = some u → t.ItemEdge reader u via v

namespace Follows

variable {trail : Trail t.itemIds} {us : List Item} {types : List WrittenType}

theorem empty (t : Table) (reader : Nat) (scope : Address) (types : List WrittenType) :
    t.Follows reader .empty [] scope types where
  threads := .nil
  held := fun u hu => by cases hu
  edge := fun _ _ _ _ _ u hu => by cases hu

theorem of_mentions (h : t.Follows reader trail us scope types) {members : List WrittenType}
    (hm : ∀ member ∈ members, ∃ type ∈ types, ∀ x ∈ member.references, x ∈ type.references) :
    t.Follows reader trail us scope members where
  threads := h.threads
  held := h.held
  edge := by
    intro member hmember via v hv
    obtain ⟨type, htype, hsub⟩ := hm member hmember
    exact h.edge type htype via v (hv.of_mem hsub)

theorem tuple {o : Occurrence} {members : List WrittenType}
    (h : t.Follows reader trail us scope [.tuple o members]) :
    t.Follows reader trail us scope members := by
  refine h.of_mentions fun member hm => ⟨_, List.mem_singleton_self _, fun x hx => ?_⟩
  exact WrittenType.mem_referencesIn.2 ⟨member, hm, hx⟩

theorem variant {o : Occurrence} {members : List WrittenType}
    (h : t.Follows reader trail us scope [.variant o members]) :
    t.Follows reader trail us scope members := by
  refine h.of_mentions fun member hm => ⟨_, List.mem_singleton_self _, fun x hx => ?_⟩
  exact WrittenType.mem_referencesIn.2 ⟨member, hm, hx⟩

theorem first {type : WrittenType} {rest : List WrittenType}
    (h : t.Follows reader trail us scope (type :: rest)) :
    t.Follows reader trail us scope [type] := by
  refine h.of_mentions fun member hm => ⟨type, List.mem_cons_self, fun x hx => ?_⟩
  rwa [List.mem_singleton.1 hm] at hx

theorem rest {type : WrittenType} {rest : List WrittenType}
    (h : t.Follows reader trail us scope (type :: rest)) :
    t.Follows reader trail us scope rest :=
  h.of_mentions fun member hm => ⟨member, List.mem_cons_of_mem _ hm, fun _ hx => hx⟩

variable {type : WrittenType} {via : Range} {v : Item}

/-- A trail that enters what the type mentions was laid through it, too. -/
theorem push (h : t.Follows reader trail us scope [type])
    (hv : t.Mentions reader scope type via v) (fresh : v.id ∉ trail.stepIds)
    (known : v.id ∈ t.itemIds) :
    t.Follows reader (trail.push ⟨v.id, via⟩ fresh known) (v :: us) v.scope [v.type] where
  threads := .cons h.threads (h.edge type (List.mem_singleton_self _) via v hv)
  held := by
    intro u hu
    rcases List.mem_cons.1 hu with rfl | hu
    · exact hasItem_of_mentions hv
    · exact h.held u hu
  edge := by
    intro member hm w x hx u hu
    obtain rfl := List.mem_singleton.1 hm
    injection hu with hu
    exact hu ▸ hx

section Built

variable {files : List ParsedFile} {trail : Trail (ofFiles files).itemIds}

theorem eq_of_id (hb : BuiltInOrder files)
    (h : (ofFiles files).Follows reader trail us scope [type])
    (hv : (ofFiles files).Mentions reader scope type via v) : ∀ u ∈ us, u.id = v.id → u = v :=
  fun u hu hid => (h.held u hu).eq_of_id hb (hasItem_of_mentions hv) hid

/-- What is mentioned and on the trail is on a simple cycle, which the diagnostic spells. -/
theorem spells_cycle (hb : BuiltInOrder files)
    (h : (ofFiles files).Follows reader trail us scope [type])
    (hv : (ofFiles files).Mentions reader scope type via v) (hon : v.id ∈ trail.stepIds) :
    SpellsCycle ((ofFiles files).ItemEdge reader) Item.name v (trail.cycle v.id v.name via) :=
  h.threads.spells_cycle (h.eq_of_id hb hv) hon
    (h.edge type (List.mem_singleton_self _) via v hv)

/-- What is mentioned and leads to no cycle is not on the trail. -/
theorem not_mem (hb : BuiltInOrder files)
    (h : (ofFiles files).Follows reader trail us scope [type])
    (hv : (ofFiles files).Mentions reader scope type via v)
    (hg : Grounded ((ofFiles files).ItemEdge reader) v) : v.id ∉ trail.stepIds :=
  h.threads.not_mem_of_grounded (h.eq_of_id hb hv)
    (h.edge type (List.mem_singleton_self _) via v hv) hg

end Built

end Follows

end Table
end Schemata
