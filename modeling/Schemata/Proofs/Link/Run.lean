import Schemata.Link

/-!
# Induction on linking

Linking a type goes through its members, through the aliases and the fields that it mentions, and
through what is remembered. What each of these steps keeps holds of every run: a property of types,
one of aliases that are asked for, and one of lists of types are proved together, step by step.

**Results:**
* `Table.LinkInvariant.runs`: an invariant of the steps holds of every run.
* `Table.linkType_tuple`, `Table.linkType_alias`, `Table.linkType_field`,
  `Table.linkAlias_entered`, `Table.linkTypes_cons_of_ok`: single steps and what is remembered.
* `Table.linkAlias_enter`, `Table.linkTypes_cons`: the outcomes alone.
* `Table.checkBaseCycles_enter`, `Table.checkBasesOf_of_some`: steps of the search for cycles of
  bases.
-/
namespace Schemata
namespace Table

/-- The properties are kept by every step of linking. They speak about a trail, a memory, what is
linked, and the outcome with the memory after it. -/
structure LinkInvariant (t : Table) (reader : Nat)
    (P : Trail t.itemIds → LinkMemory → Address → WrittenType → Linked LinkedType → Prop)
    (A : Trail t.itemIds → LinkMemory → Definition → WrittenType → Range → Linked LinkedType → Prop)
    (L : Trail t.itemIds → LinkMemory → Address → List WrittenType → Linked (List LinkedType) →
      Prop) : Prop where
  fundamental : ∀ trail memory scope o f,
    P trail memory scope (.fundamental o f) (.ok (.fundamental o f), memory)
  tuple : ∀ trail memory scope o members x, L trail memory scope members x →
    P trail memory scope (.tuple o members) (x.1 >>= fun ms => .ok (.tuple o ms), x.2)
  variant : ∀ trail memory scope o members x, L trail memory scope members x →
    P trail memory scope (.variant o members)
      (x.1 >>= fun ms =>
        checkMembers o.range true (ms.map fun m => (m.occurrence.range, m.isVariant)) >>= fun _ =>
          .ok (.variant o ms), x.2)
  unresolved : ∀ trail memory scope o r e, t.resolve reader r o.range scope = .error e →
    P trail memory scope (.reference o r) (.error e, memory)
  struct : ∀ trail memory scope o r d bases,
    t.resolve reader r o.range scope = .ok (.definition d) → d.kind = .struct bases →
      P trail memory scope (.reference o r) (.ok (.struct o d.id d.name), memory)
  aliasAsked : ∀ trail memory scope o r d aliased x,
    t.resolve reader r o.range scope = .ok (.definition d) → d.kind = .alias aliased →
      A trail memory d aliased o.range x →
        P trail memory scope (.reference o r) (x.1 >>= fun l => .ok (.alias o d.name l), x.2)
  fieldAgain : ∀ trail memory scope o r f, t.resolve reader r o.range scope = .ok (.field f) →
    f.id ∈ trail.stepIds →
      P trail memory scope (.reference o r) (.error (trail.cycle f.id f.name o.range), memory)
  field : ∀ (trail : Trail t.itemIds) memory scope o r f linked m (fresh : f.id ∉ trail.stepIds)
    (known : f.id ∈ t.itemIds), t.resolve reader r o.range scope = .ok (.field f) →
      P (trail.push ⟨f.id, o.range⟩ fresh known) memory f.scope f.type (.ok linked, m) →
        P trail memory scope (.reference o r) (.ok (linked.inPlaceOf o), m)
  fieldFailed : ∀ (trail : Trail t.itemIds) memory scope o r f e m (fresh : f.id ∉ trail.stepIds)
    (known : f.id ∈ t.itemIds), t.resolve reader r o.range scope = .ok (.field f) →
      P (trail.push ⟨f.id, o.range⟩ fresh known) memory f.scope f.type (.error e, m) →
        P trail memory scope (.reference o r) (.error (inContext e o.range), m)
  remembered : ∀ trail memory d aliased via a linked,
    memory.aliases.find? (·.1 = d.address) = some (a, linked) →
      A trail memory d aliased via (.ok linked, memory)
  aliasAgain : ∀ trail memory d aliased via, memory.aliases.find? (·.1 = d.address) = none →
    d.id ∈ trail.stepIds →
      A trail memory d aliased via (.error (trail.cycle d.id d.name via), memory)
  aliasEntered : ∀ (trail : Trail t.itemIds) memory (d : Definition) aliased via linked m
    (fresh : d.id ∉ trail.stepIds) (known : d.id ∈ t.itemIds),
      memory.aliases.find? (·.1 = d.address) = none →
      P (trail.push ⟨d.id, via⟩ fresh known) memory d.address.scope aliased (.ok linked, m) →
        A trail memory d aliased via
          (.ok linked, { m with aliases := (d.address, linked) :: m.aliases })
  aliasFailed : ∀ (trail : Trail t.itemIds) memory (d : Definition) aliased via e m
    (fresh : d.id ∉ trail.stepIds) (known : d.id ∈ t.itemIds),
      memory.aliases.find? (·.1 = d.address) = none →
      P (trail.push ⟨d.id, via⟩ fresh known) memory d.address.scope aliased (.error e, m) →
        A trail memory d aliased via (.error (inContext e via), m)
  nil : ∀ trail memory scope, L trail memory scope [] (.ok [], memory)
  cons : ∀ trail memory scope type rest first m x, P trail memory scope type (.ok first, m) →
    L trail m scope rest x →
      L trail memory scope (type :: rest) (x.1 >>= fun ls => .ok (first :: ls), x.2)
  consFailed : ∀ trail memory scope type rest e m, P trail memory scope type (.error e, m) →
    L trail memory scope (type :: rest) (.error e, m)

namespace LinkInvariant

variable {t : Table} {reader : Nat}
  {P : Trail t.itemIds → LinkMemory → Address → WrittenType → Linked LinkedType → Prop}
  {A : Trail t.itemIds → LinkMemory → Definition → WrittenType → Range → Linked LinkedType → Prop}
  {L : Trail t.itemIds → LinkMemory → Address → List WrittenType → Linked (List LinkedType) → Prop}

/-- What every step of linking keeps holds of every run. -/
theorem runs (h : t.LinkInvariant reader P A L) :
    (∀ trail memory scope type,
      P trail memory scope type (t.linkType reader trail memory scope type)) ∧
    (∀ trail memory d aliased known via,
      A trail memory d aliased via (t.linkAlias reader trail memory d aliased known via)) ∧
    ∀ trail memory scope types,
      L trail memory scope types (t.linkTypes reader trail memory scope types) := by
  refine linkType.mutual_induct_unfolding t reader P
    (fun trail memory d aliased _ via => A trail memory d aliased via) L
    ?fundamental ?tuple ?tupleFailed ?variant ?variantRefused ?variantFailed ?unresolved ?struct
    ?aliasAsked ?askedFailed ?fieldAgain ?field ?fieldFailed ?remembered ?aliasAgain ?aliasEntered
    ?aliasFailed ?nil ?cons ?restFailed ?firstFailed
  case fundamental => exact h.fundamental
  case tuple | tupleFailed =>
    intro trail memory scope o members x m hx ih
    rw [hx] at ih
    exact h.tuple trail memory scope o members _ ih
  case variant =>
    intro trail memory scope o members ms m hms hc ih
    rw [hms] at ih
    have hv := h.variant trail memory scope o members _ ih
    simpa only [bind, Except.bind, hc] using hv
  case variantRefused =>
    intro trail memory scope o members ms m hms e hc ih
    rw [hms] at ih
    have hv := h.variant trail memory scope o members _ ih
    simpa only [bind, Except.bind, hc] using hv
  case variantFailed =>
    intro trail memory scope o members e m hx ih
    rw [hx] at ih
    exact h.variant trail memory scope o members _ ih
  case unresolved => exact h.unresolved
  case struct =>
    intro trail memory scope o r d hr bases hk
    exact h.struct trail memory scope o r d bases hr hk
  case aliasAsked | askedFailed =>
    intro trail memory scope o r d hr aliased hk x m hx ih
    rw [hx] at ih
    exact h.aliasAsked trail memory scope o r d aliased _ hr hk ih
  case fieldAgain => exact h.fieldAgain
  case field =>
    intro trail memory scope o r f hr fresh linked m hx ih
    rw [hx] at ih
    exact h.field trail memory scope o r f linked m fresh (holdsTarget_of_resolve hr) hr ih
  case fieldFailed =>
    intro trail memory scope o r f hr fresh e m hx ih
    rw [hx] at ih
    exact h.fieldFailed trail memory scope o r f e m fresh (holdsTarget_of_resolve hr) hr ih
  case remembered =>
    intro trail memory d aliased _ via a linked hfind
    simp only [hfind]
    exact h.remembered trail memory d aliased via a linked hfind
  case aliasAgain =>
    intro trail memory d aliased _ via hnone hon
    simp only [hnone, dif_pos hon]
    exact h.aliasAgain trail memory d aliased via hnone hon
  case aliasEntered =>
    intro trail memory d aliased known via hnone fresh linked m hx ih
    rw [hx] at ih
    simp only [hnone, dif_neg fresh, hx]
    exact h.aliasEntered trail memory d aliased via linked m fresh known hnone ih
  case aliasFailed =>
    intro trail memory d aliased known via hnone fresh e m hx ih
    rw [hx] at ih
    simp only [hnone, dif_neg fresh, hx]
    exact h.aliasFailed trail memory d aliased via e m fresh known hnone ih
  case nil => exact h.nil
  case cons | restFailed =>
    intro trail memory scope type rest first m hfirst x m' hrest ihfirst ihrest
    rw [hfirst] at ihfirst
    rw [hrest] at ihrest
    simp only [hfirst, hrest]
    exact h.cons trail memory scope type rest first m _ ihfirst ihrest
  case firstFailed =>
    intro trail memory scope type rest e m hx ih
    rw [hx] at ih
    simp only [hx]
    exact h.consFailed trail memory scope type rest e m ih

end LinkInvariant

/-! ## Outcomes of single steps -/

section Steps

variable {t : Table} {reader : Nat} {trail : Trail t.itemIds} {memory : LinkMemory}
  {scope : Address} {o : Occurrence} {r : Reference}

theorem linkType_tuple {members : List WrittenType} :
    t.linkType reader trail memory scope (.tuple o members) =
      ((t.linkTypes reader trail memory scope members).1 >>= fun ms => .ok (.tuple o ms),
        (t.linkTypes reader trail memory scope members).2) := by
  rw [linkType]
  split <;> (rename_i heq; rw [heq]; rfl)

theorem linkType_variant {members : List WrittenType} :
    t.linkType reader trail memory scope (.variant o members) =
      ((t.linkTypes reader trail memory scope members).1 >>= fun ms =>
        checkMembers o.range true (ms.map fun m => (m.occurrence.range, m.isVariant)) >>= fun _ =>
          .ok (.variant o ms), (t.linkTypes reader trail memory scope members).2) := by
  rw [linkType]
  split
  · rename_i heq
    rw [heq]
    simp only [bind, Except.bind]
    split <;> rename_i hc <;> rw [hc]
  · rename_i heq
    rw [heq]
    rfl

theorem linkType_unresolved {e : Diagnostic} (hr : t.resolve reader r o.range scope = .error e) :
    t.linkType reader trail memory scope (.reference o r) = (.error e, memory) := by
  rw [linkType]
  split <;> simp_all

theorem linkType_struct {d : Definition} {bases : List WrittenType}
    (hr : t.resolve reader r o.range scope = .ok (.definition d)) (hk : d.kind = .struct bases) :
    t.linkType reader trail memory scope (.reference o r) =
      (.ok (.struct o d.id d.name), memory) := by
  rw [linkType]
  split
  · simp_all
  · rename_i hr'
    rw [hr] at hr'
    injection hr' with hd
    injection hd with hd
    subst hd
    split
    · rfl
    · simp_all
  · simp_all

theorem linkType_alias {d : Definition} {aliased : WrittenType}
    (hr : t.resolve reader r o.range scope = .ok (.definition d)) (hk : d.kind = .alias aliased)
    (known : d.id ∈ t.itemIds) :
    t.linkType reader trail memory scope (.reference o r) =
      ((t.linkAlias reader trail memory d aliased known o.range).1 >>= fun l =>
        .ok (.alias o d.name l), (t.linkAlias reader trail memory d aliased known o.range).2) := by
  rw [linkType]
  split
  · simp_all
  · rename_i hr'
    rw [hr] at hr'
    injection hr' with hd
    injection hd with hd
    subst hd
    split
    · simp_all
    · rename_i hk'
      rw [hk] at hk'
      injection hk' with haliased
      subst haliased
      split <;> (rename_i heq; rw [heq]; rfl)
  · simp_all

theorem linkType_again {f : Field} (hr : t.resolve reader r o.range scope = .ok (.field f))
    (hon : f.id ∈ trail.stepIds) :
    t.linkType reader trail memory scope (.reference o r) =
      (.error (trail.cycle f.id f.name o.range), memory) := by
  rw [linkType]
  split <;> simp_all

theorem linkType_field {f : Field} (hr : t.resolve reader r o.range scope = .ok (.field f))
    (fresh : f.id ∉ trail.stepIds) (known : f.id ∈ t.itemIds) :
    t.linkType reader trail memory scope (.reference o r) =
      ((t.linkType reader (trail.push ⟨f.id, o.range⟩ fresh known) memory f.scope
        f.type).1.mapError (inContext · o.range) >>= fun l => .ok (l.inPlaceOf o),
      (t.linkType reader (trail.push ⟨f.id, o.range⟩ fresh known) memory f.scope f.type).2) := by
  rw [linkType]
  split
  · simp_all
  · simp_all
  · rename_i hr'
    rw [hr] at hr'
    injection hr' with hf
    injection hf with hf
    subst hf
    rw [dif_neg fresh]
    split <;> (rename_i heq; rw [heq]; rfl)

section Alias

variable {d : Definition} {aliased : WrittenType} {via : Range}

theorem linkAlias_remembered {known : d.id ∈ t.itemIds} {a : Address} {linked : LinkedType}
    (hfind : memory.aliases.find? (·.1 = d.address) = some (a, linked)) :
    t.linkAlias reader trail memory d aliased known via = (.ok linked, memory) := by
  rw [linkAlias]
  simp only [hfind]

variable (hfind : memory.aliases.find? (·.1 = d.address) = none)
include hfind

theorem linkAlias_entered (fresh : d.id ∉ trail.stepIds) (known : d.id ∈ t.itemIds)
    {linked : LinkedType} {m : LinkMemory}
    (hx : t.linkType reader (trail.push ⟨d.id, via⟩ fresh known) memory d.address.scope aliased =
      (.ok linked, m)) :
    t.linkAlias reader trail memory d aliased known via =
      (.ok linked, { m with aliases := (d.address, linked) :: m.aliases }) := by
  rw [linkAlias]
  simp only [hfind, dif_neg fresh, hx]

theorem linkAlias_failed (fresh : d.id ∉ trail.stepIds) (known : d.id ∈ t.itemIds)
    {e : Diagnostic} {m : LinkMemory}
    (hx : t.linkType reader (trail.push ⟨d.id, via⟩ fresh known) memory d.address.scope aliased =
      (.error e, m)) :
    t.linkAlias reader trail memory d aliased known via = (.error (inContext e via), m) := by
  rw [linkAlias]
  simp only [hfind, dif_neg fresh, hx]

theorem linkAlias_enter (fresh : d.id ∉ trail.stepIds) (known : d.id ∈ t.itemIds) :
    (t.linkAlias reader trail memory d aliased known via).1 =
      (t.linkType reader (trail.push ⟨d.id, via⟩ fresh known) memory d.address.scope
        aliased).1.mapError (inContext · via) := by
  cases hx : t.linkType reader (trail.push ⟨d.id, via⟩ fresh known) memory d.address.scope
    aliased with
  | mk outcome m =>
    cases outcome with
    | ok linked => rw [linkAlias_entered hfind fresh known hx]; rfl
    | error e => rw [linkAlias_failed hfind fresh known hx]; rfl

theorem linkAlias_again {known : d.id ∈ t.itemIds} (hon : d.id ∈ trail.stepIds) :
    t.linkAlias reader trail memory d aliased known via =
      (.error (trail.cycle d.id d.name via), memory) := by
  rw [linkAlias]
  simp only [hfind, dif_pos hon]

end Alias

theorem linkTypes_nil : t.linkTypes reader trail memory scope [] = (.ok [], memory) := by
  rw [linkTypes]

theorem linkTypes_cons_of_ok {type : WrittenType} {rest : List WrittenType} {first : LinkedType}
    {m : LinkMemory} (hx : t.linkType reader trail memory scope type = (.ok first, m)) :
    t.linkTypes reader trail memory scope (type :: rest) =
      ((t.linkTypes reader trail m scope rest).1 >>= fun ls => .ok (first :: ls),
        (t.linkTypes reader trail m scope rest).2) := by
  rw [linkTypes]
  simp only [hx]
  split <;> (rename_i heq; rw [heq]; rfl)

theorem linkTypes_cons_of_error {type : WrittenType} {rest : List WrittenType} {e : Diagnostic}
    {m : LinkMemory} (hx : t.linkType reader trail memory scope type = (.error e, m)) :
    t.linkTypes reader trail memory scope (type :: rest) = (.error e, m) := by
  rw [linkTypes]
  simp only [hx]

theorem linkTypes_cons {type : WrittenType} {rest : List WrittenType} :
    (t.linkTypes reader trail memory scope (type :: rest)).1 =
      (t.linkType reader trail memory scope type).1 >>= fun first =>
        (t.linkTypes reader trail (t.linkType reader trail memory scope type).2 scope rest).1 >>=
          fun ls => .ok (first :: ls) := by
  cases hx : t.linkType reader trail memory scope type with
  | mk outcome m =>
    cases outcome with
    | ok first => rw [linkTypes_cons_of_ok hx]; rfl
    | error e => rw [linkTypes_cons_of_error hx]; rfl

end Steps

/-! ## Single steps of the search for cycles of bases -/

section Search

variable {t : Table} {reader : Nat} {trail : Trail t.structIds} {memory m : LinkMemory}

section Struct

variable {d : Definition} {held : t.Holds d} {via : Range} {bases : List WrittenType}
  (hleft : ¬ memory.acyclic.contains d.address = true) (hk : d.kind = .struct bases)
include hleft hk

theorem checkBaseCycles_again (hon : d.id ∈ trail.stepIds) :
    t.checkBaseCycles reader trail memory d held via =
      (.error (trail.cycle d.id d.name via), memory) := by
  rw [checkBaseCycles, if_neg hleft]
  split
  · simp_all
  · rw [dif_pos hon]

theorem checkBaseCycles_enter (fresh : d.id ∉ trail.stepIds) (known : d.id ∈ t.structIds) :
    t.checkBaseCycles reader trail memory d held via =
      match t.checkBasesOf reader (trail.push ⟨d.id, via⟩ fresh known) memory d.address.scope
          bases with
      | (.ok (), memory) => (.ok (), { memory with acyclic := d.address :: memory.acyclic })
      | (.error e, memory) => (.error e, memory) := by
  rw [checkBaseCycles, if_neg hleft]
  split
  · simp_all
  · rename_i bases' hk'
    obtain rfl : bases = bases' := by simpa [hk] using hk'
    exact dif_neg fresh

end Struct

theorem holds_of_base {linked : LinkedType} {d : Definition}
    (h : (linked.structure?.bind fun s => t.definitionOf? s.1) = some d) : t.Holds d := by
  obtain ⟨s, -, hd⟩ := Option.bind_eq_some_iff.1 h
  exact holds_of_definitionOf? hd

variable {scope : Address} {base : WrittenType} {rest : List WrittenType} {linked : LinkedType}
  (hx : t.linkType reader .empty memory scope base = (.ok linked, m))
include hx

theorem checkBasesOf_of_none
    (hd : (linked.structure?.bind fun s => t.definitionOf? s.1) = none) :
    t.checkBasesOf reader trail memory scope (base :: rest) =
      t.checkBasesOf reader trail m scope rest := by
  rw [checkBasesOf, hx]
  dsimp only
  split
  · rfl
  · simp_all

theorem checkBasesOf_of_some {d : Definition}
    (hd : (linked.structure?.bind fun s => t.definitionOf? s.1) = some d) :
    t.checkBasesOf reader trail memory scope (base :: rest) =
      match t.checkBaseCycles reader trail m d (holds_of_base hd) base.occurrence.range with
      | (.ok (), memory) => t.checkBasesOf reader trail memory scope rest
      | (.error e, memory) => (.error e, memory) := by
  rw [checkBasesOf, hx]
  dsimp only
  split
  · simp_all
  · rename_i d' hd'
    obtain rfl : d = d' := by simpa [hd] using hd'
    rfl

end Search

end Table
end Schemata
