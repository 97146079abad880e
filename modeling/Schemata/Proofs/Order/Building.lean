import Schemata.Proofs.Build.Numbering
import Schemata.Proofs.Order.Arrangement
import Mathlib.Data.List.Forall2
import Mathlib.Data.List.Perm.Basic
import Mathlib.Data.Prod.Lex

/-!
# Building in another order

A file that is built is built again after its bodies are put into another order, and to the same
root, with its bodies in the new order and other numbers: a node gets the number of its place in the
new order of reading.

**Results:**
* `Build.root_reordered`: what is built from a file in another order.
-/
namespace Schemata

variable {ρ : Nat → Nat → Nat}

/-! ## Types -/

namespace WrittenType

@[simp]
theorem occurrence_renumbered (t : WrittenType) :
    (t.renumbered ρ).occurrence = t.occurrence.renumbered ρ := by
  cases t <;> rfl

@[simp]
theorem isVariant_renumbered (t : WrittenType) : (t.renumbered ρ).isVariant = t.isVariant := by
  cases t <;> rfl

end WrittenType

namespace Build

variable {target : BuildTarget}

theorem length_idsFrom (target : BuildTarget) (number count : Nat) :
    (idsFrom target number count).length = count := by
  simp [idsFrom]

/-- Numbers that follow each other do so in each part. -/
theorem renumbered_append {as bs : List ElementId} {number m n : Nat} (ha : as.length = m)
    (h : (as ++ bs).map (ElementId.renumbered ρ) = idsFrom target number (m + n)) :
    as.map (ElementId.renumbered ρ) = idsFrom target number m ∧
      bs.map (ElementId.renumbered ρ) = idsFrom target (number + m) n := by
  rw [List.map_append, idsFrom_add] at h
  exact List.append_inj h (by rw [List.length_map, ha, length_idsFrom])

theorem renumbered_cons {id : ElementId} {ids : List ElementId} {number count : Nat}
    (h : (id :: ids).map (ElementId.renumbered ρ) = idsFrom target number (count + 1)) :
    id.renumbered ρ = ⟨target.ordinal, number⟩ ∧
      ids.map (ElementId.renumbered ρ) = idsFrom target (number + 1) count := by
  rw [List.map_cons, idsFrom_succ] at h
  exact List.cons_eq_cons.1 h

theorem renumbered_singleton {id : ElementId} {number : Nat}
    (h : [id].map (ElementId.renumbered ρ) = idsFrom target number 1) :
    id.renumbered ρ = ⟨target.ordinal, number⟩ :=
  List.singleton_inj.1 h

theorem checkMembers_renumbered (r : Range) (isVariant : Bool) (ts : List WrittenType) :
    checkMembers r isVariant
        ((WrittenType.renumberedAll ρ ts).map fun t => (t.occurrence.range, t.isVariant)) =
      checkMembers r isVariant (ts.map fun t => (t.occurrence.range, t.isVariant)) := by
  simp [WrittenType.renumberedAll_eq_map, Function.comp_def, Occurrence.renumbered]

theorem reference_renumbered {id : ElementId} {range : Range} {c : Cardinality}
    {m : Option Metadata} {r : Reference} {t : WrittenType}
    (h : reference id range c m r = .ok t) :
    reference (id.renumbered ρ) range c m r = .ok (t.renumbered ρ) := by
  obtain ⟨u, hu, h⟩ := bind_eq_ok_iff.1 h
  obtain ⟨f, hf, h⟩ := bind_eq_ok_iff.1 h
  refine bind_eq_ok_iff.2 ⟨u, hu, bind_eq_ok_iff.2 ⟨f, hf, ?_⟩⟩
  split at h <;> cases h <;> rfl

mutual

/-- A type that is built is built with other numbers, too, to the same type with these numbers. -/
theorem type_renumbered {n m : Nat} (e : Source.TypeExpr) {t : WrittenType}
    (h : type target n e = .ok t)
    (hρ : t.nodeIds.map (ElementId.renumbered ρ) = idsFrom target m e.count) :
    type target m e = .ok (t.renumbered ρ) := by
  cases e with
  | reference hd segments isGlobal isElement =>
    obtain ⟨⟨r, c, b⟩, hh, h⟩ := bind_eq_ok_iff.1 h
    obtain ⟨names, hn, h⟩ := bind_eq_ok_iff.1 h
    rw [nodeIds_of_reference h] at hρ
    refine bind_eq_ok_iff.2 ⟨_, hh, bind_eq_ok_iff.2 ⟨_, hn, ?_⟩⟩
    exact renumbered_singleton hρ ▸ reference_renumbered h
  | tuple hd members | variant hd members =>
    obtain ⟨⟨r, c, b⟩, hh, h⟩ := bind_eq_ok_iff.1 h
    obtain ⟨built, hb, h⟩ := bind_eq_ok_iff.1 h
    obtain ⟨u, hu, h⟩ := bind_eq_ok_iff.1 h
    cases h
    obtain ⟨hid, hms⟩ := renumbered_cons hρ
    rw [← checkMembers_renumbered] at hu
    refine bind_eq_ok_iff.2 ⟨_, hh, bind_eq_ok_iff.2 ⟨_, types_renumbered members hb hms,
      bind_eq_ok_iff.2 ⟨u, hu, ?_⟩⟩⟩
    rw [WrittenType.renumbered, Occurrence.renumbered, hid]
    rfl

theorem types_renumbered {n m : Nat} (es : List Source.TypeExpr) {ts : List WrittenType}
    (h : types target n es = .ok ts)
    (hρ : (WrittenType.nodeIdsOf ts).map (ElementId.renumbered ρ) =
      idsFrom target m (Source.TypeExpr.counts es)) :
    types target m es = .ok (WrittenType.renumberedAll ρ ts) := by
  match es with
  | [] =>
    cases h
    rfl
  | e :: es =>
    obtain ⟨t, ht, h⟩ := bind_eq_ok_iff.1 h
    obtain ⟨rest, hr, h⟩ := bind_eq_ok_iff.1 h
    cases h
    have hlen : t.nodeIds.length = e.count := by rw [nodeIds_of_type e ht, length_idsFrom]
    obtain ⟨ht', hr'⟩ := renumbered_append hlen hρ
    exact bind_eq_ok_iff.2 ⟨_, type_renumbered e ht ht', bind_eq_ok_iff.2
      ⟨_, types_renumbered es hr hr', rfl⟩⟩

end

/-! ## Names -/

section Names

variable {τ : Type} {f : τ → τ} {order : Arrangement}

theorem scopeNames_renumbered (s : Statement τ) :
    (s.renumbered ρ f).scopeNames = s.scopeNames := by
  cases s <;> rfl

theorem scopeNames_rearranged (a : Address) (s : Statement τ) :
    (s.rearranged order a).scopeNames = s.scopeNames := by
  cases s <;> rfl

theorem scopeNames_renumberedAll (ss : List (Statement τ)) :
    (Statement.renumberedAll ρ f ss).flatMap Statement.scopeNames =
      ss.flatMap Statement.scopeNames := by
  simp only [Statement.renumberedAll_eq_map, List.flatMap_map, scopeNames_renumbered]

theorem scopeNames_rearrangedFrom (scope : Address) (index : Nat) (ss : List (Statement τ)) :
    (Statement.rearrangedFrom order scope index ss).flatMap Statement.scopeNames =
      ss.flatMap Statement.scopeNames := by
  induction ss generalizing index with
  | nil => rfl
  | cons s ss ih =>
    rw [Statement.rearrangedFrom, List.flatMap_cons, List.flatMap_cons, scopeNames_rearranged, ih]

/-- Names that are given once are so in any order. -/
theorem checkUniqueNames_reordered {scope : Address} {ss : List (Statement τ)}
    (ho : (order scope).Perm (List.range ss.length)) (h : checkUniqueNames ss = .ok ()) :
    checkUniqueNames (Statement.renumberedAll ρ f (Statement.reordered order scope ss)) =
      .ok () := by
  rw [checkUniqueNames_eq_ok_iff] at h ⊢
  rw [← Statement.length_rearrangedFrom order scope 0] at ho
  have hperm := ((inOrder_perm ho).flatMap_right Statement.scopeNames).map Identifier.name
  rw [scopeNames_rearrangedFrom] at hperm
  rw [scopeNames_renumberedAll]
  exact hperm.nodup_iff.2 h

end Names

/-! ## Statements -/

/-- Lists whose entries are related one by one are so in another order. -/
theorem forall₂_inOrder {α β : Type} {R : α → β → Prop} {as : List α} {bs : List β}
    (h : List.Forall₂ R as bs) (places : List Nat) :
    List.Forall₂ R (inOrder places as) (inOrder places bs) := by
  have hrel : ∀ k : Nat, Option.Rel R as[k]? bs[k]? := by
    induction h with
    | nil => exact fun _ => .none
    | cons h _ ih =>
      intro k
      cases k with
      | zero => exact .some h
      | succ k => exact ih k
  refine List.rel_filterMap (R := Eq) ?_ (List.forall₂_same.2 fun _ _ => rfl)
  rintro k _ rfl
  exact hrel k

/-- The source is built to the statement under other numbers, wherever these follow each other. -/
structure Rebuilds (target : BuildTarget) (atRoot : Bool) (ρ : Nat → Nat → Nat)
    (src : Source.Statement) (s : Statement WrittenType) : Prop where
  count : s.nodeIds.length = src.count
  eq_ok : ∀ m, s.nodeIds.map (ElementId.renumbered ρ) = idsFrom target m src.count →
    statement target m atRoot src = .ok (s.renumbered ρ (WrittenType.renumbered ρ))

theorem rebuilds_of_forall₂ {atRoot : Bool} {srcs : List Source.Statement}
    {ss : List (Statement WrittenType)} (h : List.Forall₂ (Rebuilds target atRoot ρ) srcs ss) :
    (Statement.nodeIdsOf ss).length = Source.Statement.counts srcs ∧
      ∀ m, (Statement.nodeIdsOf ss).map (ElementId.renumbered ρ) =
          idsFrom target m (Source.Statement.counts srcs) →
        statements target m atRoot srcs =
          .ok (Statement.renumberedAll ρ (WrittenType.renumbered ρ) ss) := by
  induction h with
  | nil => exact ⟨rfl, fun _ _ => rfl⟩
  | cons h _ ih =>
    obtain ⟨hcount, hok⟩ := ih
    refine ⟨?_, fun m hρ => ?_⟩
    · rw [Statement.nodeIdsOf, List.length_append, h.count, hcount, Source.Statement.counts]
    · obtain ⟨hfirst, hrest⟩ := renumbered_append h.count hρ
      exact bind_eq_ok_iff.2 ⟨_, h.eq_ok m hfirst, bind_eq_ok_iff.2 ⟨_, hok _ hrest, rfl⟩⟩

mutual

/-- A statement that is built is built with the bodies in it rearranged, too. -/
theorem rebuilds_statement {n : Nat} {atRoot : Bool} {order : Arrangement} {a : Address}
    (src : Source.Statement) {s : Statement WrittenType}
    (h : statement target n atRoot src = .ok s) (ho : s.ArrangedBy order a) :
    Rebuilds target atRoot ρ (src.rearranged order a) (s.rearranged order a) := by
  cases src with
  | item span name e =>
    obtain ⟨r, hr, h⟩ := bind_eq_ok_iff.1 h
    obtain ⟨i, hi, h⟩ := bind_eq_ok_iff.1 h
    obtain ⟨t, ht, h⟩ := bind_eq_ok_iff.1 h
    cases h
    constructor
    · rw [Statement.rearranged, Statement.nodeIds, List.length_cons, nodeIds_of_type e ht,
        length_idsFrom]
      rfl
    · intro m hρ
      obtain ⟨hid, hρ⟩ := renumbered_cons hρ
      refine bind_eq_ok_iff.2 ⟨r, hr, bind_eq_ok_iff.2 ⟨i, hi, bind_eq_ok_iff.2
        ⟨_, type_renumbered e ht hρ, ?_⟩⟩⟩
      rw [Statement.rearranged, Statement.renumbered, hid]
      rfl
  | struct span name bases block children =>
    obtain ⟨r, hr, h⟩ := bind_eq_ok_iff.1 h
    obtain ⟨i, hi, h⟩ := bind_eq_ok_iff.1 h
    obtain ⟨ts, hts, h⟩ := bind_eq_ok_iff.1 h
    obtain ⟨b, hb, h⟩ := bind_eq_ok_iff.1 h
    obtain ⟨ss, hss, h⟩ := bind_eq_ok_iff.1 h
    obtain ⟨u, hu, h⟩ := bind_eq_ok_iff.1 h
    cases h
    obtain ⟨hcount, hok⟩ := rebuilds_of_forall₂
      (forall₂_inOrder (rebuilds_statements children hss ho.2) (order a))
    have hlen : (WrittenType.nodeIdsOf ts).length = Source.TypeExpr.counts bases := by
      rw [nodeIdsOf_of_types bases hts, length_idsFrom]
    constructor
    · rw [Statement.rearranged, Statement.nodeIds, List.length_cons, List.length_append, hlen,
        hcount]
      rfl
    · intro m hρ
      obtain ⟨hid, hρ⟩ := renumbered_cons hρ
      obtain ⟨hbases, hchildren⟩ := renumbered_append hlen hρ
      refine bind_eq_ok_iff.2 ⟨r, hr, bind_eq_ok_iff.2 ⟨i, hi, bind_eq_ok_iff.2
        ⟨_, types_renumbered bases hts hbases, bind_eq_ok_iff.2 ⟨b, hb, bind_eq_ok_iff.2
          ⟨_, hok _ hchildren, bind_eq_ok_iff.2
            ⟨u, checkUniqueNames_reordered ho.1 hu, ?_⟩⟩⟩⟩⟩⟩
      rw [Statement.rearranged, Statement.renumbered, hid, WrittenType.renumberedAll_eq_map]
      rfl
  | extension span name arguments named =>
    obtain ⟨r, hr, h⟩ := bind_eq_ok_iff.1 h
    obtain ⟨call, hc, h⟩ := bind_eq_ok_iff.1 h
    cases h
    refine ⟨rfl, fun m hρ => ?_⟩
    refine bind_eq_ok_iff.2 ⟨r, hr, bind_eq_ok_iff.2 ⟨call, hc, ?_⟩⟩
    rw [Statement.rearranged, Statement.renumbered, renumbered_singleton hρ]
    rfl
  | inclusion span filenameSpan filename items =>
    obtain ⟨r, hr, h⟩ := bind_eq_ok_iff.1 h
    cases atRoot with
    | true =>
      obtain ⟨i, hi, h⟩ := bind_eq_ok_iff.1 h
      cases h
      refine ⟨rfl, fun m hρ => ?_⟩
      refine bind_eq_ok_iff.2 ⟨r, hr, bind_eq_ok_iff.2 ⟨i, hi, ?_⟩⟩
      rw [Statement.rearranged, Statement.renumbered, renumbered_singleton hρ]
      rfl
    | false => cases h
  | root span statements =>
    obtain ⟨r, hr, h⟩ := bind_eq_ok_iff.1 h
    cases h

theorem rebuilds_statements {n : Nat} {atRoot : Bool} {order : Arrangement} {scope : Address}
    {index : Nat} (srcs : List Source.Statement) {ss : List (Statement WrittenType)}
    (h : statements target n atRoot srcs = .ok ss)
    (ho : Statement.ArrangedFrom order scope index ss) :
    List.Forall₂ (Rebuilds target atRoot ρ)
      (Source.Statement.rearrangedFrom order scope index srcs)
      (Statement.rearrangedFrom order scope index ss) := by
  match srcs with
  | [] =>
    cases h
    exact .nil
  | src :: srcs =>
    obtain ⟨s, hs, h⟩ := bind_eq_ok_iff.1 h
    obtain ⟨rest, hr, h⟩ := bind_eq_ok_iff.1 h
    cases h
    exact .cons (rebuilds_statement src hs ho.1) (rebuilds_statements srcs hr ho.2)

end

/-- What builds to a structure is a structure whose body builds to that of the other. -/
theorem exists_source_of_struct {n : Nat} {atRoot : Bool} {src : Source.Statement} {id : ElementId}
    {r : Range} {i : Identifier} {ts : List WrittenType} {b : Option Metadata}
    {ss : List (Statement WrittenType)}
    (h : statement target n atRoot src = .ok (.struct id r i ts b ss)) :
    ∃ span name bases block children m, src = .struct span name bases block children ∧
      statements target m false children = .ok ss := by
  cases src with
  | struct span name bases block children =>
    obtain ⟨_, -, h⟩ := bind_eq_ok_iff.1 h
    obtain ⟨_, -, h⟩ := bind_eq_ok_iff.1 h
    obtain ⟨_, -, h⟩ := bind_eq_ok_iff.1 h
    obtain ⟨_, -, h⟩ := bind_eq_ok_iff.1 h
    obtain ⟨ss', hss, h⟩ := bind_eq_ok_iff.1 h
    obtain ⟨_, -, h⟩ := bind_eq_ok_iff.1 h
    cases h
    exact ⟨span, name, bases, block, children, _, rfl, hss⟩
  | item span name e =>
    obtain ⟨_, -, h⟩ := bind_eq_ok_iff.1 h
    obtain ⟨_, -, h⟩ := bind_eq_ok_iff.1 h
    obtain ⟨_, -, h⟩ := bind_eq_ok_iff.1 h
    cases h
  | extension span name arguments named =>
    obtain ⟨_, -, h⟩ := bind_eq_ok_iff.1 h
    obtain ⟨_, -, h⟩ := bind_eq_ok_iff.1 h
    cases h
  | inclusion span filenameSpan filename items =>
    obtain ⟨_, -, h⟩ := bind_eq_ok_iff.1 h
    cases atRoot with
    | true =>
      obtain ⟨_, -, h⟩ := bind_eq_ok_iff.1 h
      cases h
    | false => cases h
  | root span statements =>
    obtain ⟨_, -, h⟩ := bind_eq_ok_iff.1 h
    cases h

theorem length_of_statements {n : Nat} {atRoot : Bool} {srcs : List Source.Statement}
    {ss : List (Statement WrittenType)} (h : statements target n atRoot srcs = .ok ss) :
    ss.length = srcs.length := by
  induction srcs generalizing n ss with
  | nil =>
    cases h
    rfl
  | cons src srcs ih =>
    obtain ⟨s, -, h⟩ := bind_eq_ok_iff.1 h
    obtain ⟨rest, hr, h⟩ := bind_eq_ok_iff.1 h
    cases h
    rw [List.length_cons, ih hr, List.length_cons]

theorem of_statements_cons {n : Nat} {atRoot : Bool} {src : Source.Statement}
    {srcs : List Source.Statement} {s : Statement WrittenType} {rest : List (Statement WrittenType)}
    (h : statements target n atRoot (src :: srcs) = .ok (s :: rest)) :
    statement target n atRoot src = .ok s ∧
      statements target (n + src.count) atRoot srcs = .ok rest := by
  obtain ⟨_, hs, h⟩ := bind_eq_ok_iff.1 h
  obtain ⟨_, hr, h⟩ := bind_eq_ok_iff.1 h
  cases h
  exact ⟨hs, hr⟩

mutual

/-- An arrangement of the bodies in a source is one of the bodies in what is built from it. -/
theorem arrangedBy_of_statement {n : Nat} {atRoot : Bool} {order : Arrangement} {a : Address}
    (s : Statement WrittenType) {src : Source.Statement}
    (h : statement target n atRoot src = .ok s) (ho : src.ArrangedBy order a) :
    s.ArrangedBy order a := by
  match s with
  | .struct id r i ts b ss =>
    obtain ⟨_, _, _, _, children, m, rfl, hss⟩ := exists_source_of_struct h
    exact ⟨length_of_statements hss ▸ ho.1, arrangedFrom_of_statements ss hss ho.2⟩
  | .item .. | .extension .. | .inclusion .. => trivial

theorem arrangedFrom_of_statements {n : Nat} {atRoot : Bool} {order : Arrangement}
    {scope : Address} {index : Nat} (ss : List (Statement WrittenType))
    {srcs : List Source.Statement} (h : statements target n atRoot srcs = .ok ss)
    (ho : Source.Statement.ArrangedFrom order scope index srcs) :
    Statement.ArrangedFrom order scope index ss := by
  match ss, srcs with
  | [], _ => trivial
  | _ :: _, [] => cases h
  | s :: rest, src :: srcs =>
    obtain ⟨hs, hr⟩ := of_statements_cons h
    exact ⟨arrangedBy_of_statement s hs ho.1, arrangedFrom_of_statements rest hr ho.2⟩

end

/-! ## Numbers -/

theorem nodeIdsOf_eq_flatMap (ss : List (Statement WrittenType)) :
    Statement.nodeIdsOf ss = ss.flatMap Statement.nodeIds := by
  induction ss with
  | nil => rfl
  | cons s ss ih => rw [Statement.nodeIdsOf, ih, List.flatMap_cons]

/-- Statements in another order have the same ids. -/
theorem nodeIdsOf_inOrder_perm {places : List Nat} {ss : List (Statement WrittenType)}
    (h : places.Perm (List.range ss.length)) :
    (Statement.nodeIdsOf (inOrder places ss)).Perm (Statement.nodeIdsOf ss) := by
  rw [nodeIdsOf_eq_flatMap, nodeIdsOf_eq_flatMap]
  exact (inOrder_perm h).flatMap_right _

mutual

theorem nodeIds_rearranged_perm {order : Arrangement} {a : Address} (s : Statement WrittenType)
    (ho : s.ArrangedBy order a) : (s.rearranged order a).nodeIds.Perm s.nodeIds := by
  match s with
  | .struct id r i ts b ss =>
    have hperm := nodeIdsOf_inOrder_perm
      ((Statement.length_rearrangedFrom order a 0 ss).symm ▸ ho.1)
    exact ((hperm.trans (nodeIdsOf_rearrangedFrom_perm ss ho.2)).append_left _).cons _
  | .item .. | .extension .. | .inclusion .. => exact .refl _

theorem nodeIdsOf_rearrangedFrom_perm {order : Arrangement} {scope : Address} {index : Nat}
    (ss : List (Statement WrittenType)) (ho : Statement.ArrangedFrom order scope index ss) :
    (Statement.nodeIdsOf (Statement.rearrangedFrom order scope index ss)).Perm
      (Statement.nodeIdsOf ss) := by
  match ss with
  | [] => exact .refl _
  | s :: ss =>
    exact (nodeIds_rearranged_perm s ho.1).append (nodeIdsOf_rearrangedFrom_perm ss ho.2)

end

/-- The number of the place of an old number in the new order of reading. Numbers that are not in
the order come after all others. -/
def placeIn (numbers : List Nat) (k : Nat) : Nat :=
  if k ∈ numbers then 1 + numbers.idxOf k else 1 + numbers.length + k

theorem placeIn_injective (numbers : List Nat) : Function.Injective (placeIn numbers) := by
  intro k l h
  unfold placeIn at h
  split at h <;> rename_i hk <;> split at h <;> rename_i hl
  · exact (List.idxOf_inj hk).1 (by omega)
  · have := List.idxOf_lt_length_iff.2 hk
    omega
  · have := List.idxOf_lt_length_iff.2 hl
    omega
  · omega

theorem map_placeIn {numbers : List Nat} (h : numbers.Nodup) :
    numbers.map (placeIn numbers) = List.range' 1 numbers.length := by
  refine List.ext_getElem (by simp) fun i hi hi' => ?_
  rw [List.getElem_map, placeIn, if_pos (List.getElem_mem _), h.idxOf_getElem,
    List.getElem_range']
  omega

/-- Distinct ids of a file are numbered from 1 by their places. -/
theorem renumbered_placeIn {ids : List ElementId} (hfile : ∀ id ∈ ids, id.file = target.ordinal)
    (hids : ids.Nodup) (hρ : ρ target.ordinal = placeIn (ids.map ElementId.number)) :
    ids.map (ElementId.renumbered ρ) = idsFrom target 1 ids.length := by
  have hnumbers : (ids.map ElementId.number).Nodup := by
    refine (List.nodup_map_iff_inj_on hids).2 fun x hx y hy hxy => ?_
    obtain ⟨f, n⟩ := x
    obtain ⟨g, m⟩ := y
    have hf := hfile _ hx
    have hg := hfile _ hy
    simp only at hf hg hxy
    rw [hf, hg, hxy]
  have hplaces := map_placeIn hnumbers
  rw [List.length_map, ← hρ, List.map_map] at hplaces
  rw [idsFrom, ← hplaces, List.map_map]
  refine List.map_congr_left fun id hid => ?_
  rw [ElementId.renumbered, hfile id hid]
  rfl

/-! ## Files -/

/-- The later of two places is the greater one, lines first. -/
theorem toLex_later (a b : Nat × Nat) : toLex (later a b) = max (toLex a) (toLex b) := by
  have hlt : toLex a < toLex b ↔ a.1 < b.1 ∨ a.1 = b.1 ∧ a.2 < b.2 := Prod.Lex.toLex_lt_toLex
  rw [later]
  split_ifs with h
  · exact (max_eq_right (hlt.2 h).le).symm
  · exact (max_eq_left (not_lt.1 (mt hlt.1 h))).symm

/-- The latest of several places does not depend on their order. -/
instance : RightCommutative later where
  right_comm a b c := by
    apply toLex.injective
    rw [toLex_later, toLex_later, toLex_later, toLex_later, max_assoc, max_comm (toLex b),
      ← max_assoc]

theorem foldl_later_eq (first : Nat × Nat) (ends : List (Nat × Nat)) :
    ends.foldl later first = (first :: ends).foldl later (0, 0) := by
  have hfirst : later (0, 0) first = first := by
    obtain ⟨l, c⟩ := first
    simp only [later]
    split_ifs
    · rfl
    · rw [Prod.mk.injEq]
      omega
  rw [List.foldl_cons, hfirst]

theorem extent_perm {ss ss' : List Source.Statement}
    (h : (ss.map Source.Statement.span).Perm (ss'.map Source.Statement.span)) :
    extent ss = extent ss' := by
  cases ss with
  | nil =>
    obtain rfl := List.map_eq_nil_iff.1 h.nil_eq.symm
    rfl
  | cons s ss =>
    cases ss' with
    | nil => cases h.eq_nil
    | cons s' ss' =>
      have hends := h.map fun span => (span.stopLine, span.stopColumn)
      have heq := hends.foldl_eq (f := later) (0, 0)
      simp only [List.map_cons, ← foldl_later_eq, List.map_map] at heq
      exact congrArg (fun stop : Nat × Nat => Span.mk 1 1 stop.1 stop.2) heq

theorem span_rearranged (order : Arrangement) (a : Address) (s : Source.Statement) :
    (s.rearranged order a).span = s.span := by
  cases s <;> rfl

theorem spans_rearrangedFrom (order : Arrangement) (scope : Address) (index : Nat)
    (ss : List Source.Statement) :
    (Source.Statement.rearrangedFrom order scope index ss).map Source.Statement.span =
      ss.map Source.Statement.span := by
  induction ss generalizing index with
  | nil => rfl
  | cons s ss ih =>
    rw [Source.Statement.rearrangedFrom, List.map_cons, List.map_cons, span_rearranged, ih]

theorem extent_reordered {order : Arrangement} {scope : Address} {ss : List Source.Statement}
    (ho : (order scope).Perm (List.range ss.length)) :
    extent (Source.Statement.reordered order scope ss) = extent ss := by
  have hspans := spans_rearrangedFrom order scope 0 ss
  have hlength := congrArg List.length hspans
  rw [List.length_map, List.length_map] at hlength
  refine extent_perm ?_
  rw [← hspans]
  exact (inOrder_perm (hlength.symm ▸ ho)).map _

/-- An arrangement of the bodies of a file is one of the bodies in what is built from it. -/
theorem arrangedFrom_of_root {order : Arrangement} {file : Nat} {srcs : List Source.Statement}
    {path : Path} {r : Root WrittenType} (h : root ⟨path, file⟩ srcs = .ok r)
    (hperm : (order ⟨file, []⟩).Perm (List.range srcs.length))
    (ho : Source.Statement.ArrangedFrom order ⟨file, []⟩ 0 srcs) :
    (order ⟨file, []⟩).Perm (List.range r.statements.length) ∧
      Statement.ArrangedFrom order ⟨file, []⟩ 0 r.statements := by
  obtain ⟨range, hr, h⟩ := bind_eq_ok_iff.1 h
  obtain ⟨ss, hss, h⟩ := bind_eq_ok_iff.1 h
  obtain ⟨u, hu, h⟩ := bind_eq_ok_iff.1 h
  cases h
  exact ⟨(length_of_statements hss).symm ▸ hperm, arrangedFrom_of_statements ss hss ho⟩

/-- A file that is built is built with its bodies in another order, too, to the same root with its
bodies in that order and the numbers of the new places. -/
theorem root_reordered {order : Arrangement} {file : Nat} {srcs : List Source.Statement}
    {path : Path} {r : Root WrittenType} (h : root ⟨path, file⟩ srcs = .ok r)
    (hperm : (order ⟨file, []⟩).Perm (List.range srcs.length))
    (ho : Source.Statement.ArrangedFrom order ⟨file, []⟩ 0 srcs)
    (hρ : ρ file = placeIn ((Statement.nodeIdsOf (r.rearranged order file).statements).map
      ElementId.number)) :
    root ⟨path, file⟩ (Source.Statement.reordered order ⟨file, []⟩ srcs) =
      .ok ((r.rearranged order file).renumbered ρ (WrittenType.renumbered ρ)) := by
  obtain ⟨hperm', harranged⟩ := arrangedFrom_of_root h hperm ho
  obtain ⟨range, hr, h⟩ := bind_eq_ok_iff.1 h
  obtain ⟨ss, hss, h⟩ := bind_eq_ok_iff.1 h
  obtain ⟨u, hu, h⟩ := bind_eq_ok_iff.1 h
  cases h
  have hrebuilds : List.Forall₂ (Rebuilds ⟨path, file⟩ true ρ) _ _ :=
    forall₂_inOrder (rebuilds_statements srcs hss harranged) (order ⟨file, []⟩)
  obtain ⟨hcount, hok⟩ := rebuilds_of_forall₂ hrebuilds
  rw [← extent_reordered hperm] at hr
  refine bind_eq_ok_iff.2 ⟨range, hr, bind_eq_ok_iff.2 ⟨_, hok 1 ?_, bind_eq_ok_iff.2
    ⟨u, checkUniqueNames_reordered hperm' hu, rfl⟩⟩⟩
  have hids := (nodeIdsOf_inOrder_perm ((Statement.length_rearrangedFrom order ⟨file, []⟩ 0
    ss).symm ▸ hperm')).trans (nodeIdsOf_rearrangedFrom_perm ss harranged)
  rw [nodeIdsOf_of_statements srcs hss] at hids
  rw [← hcount]
  refine renumbered_placeIn (fun id hid => ?_) (hids.nodup_iff.2 (nodup_idsFrom _ _ _)) hρ
  obtain ⟨_, -, rfl⟩ := List.mem_map.1 (hids.subset hid)
  rfl

end Build
end Schemata
