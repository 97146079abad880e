import Schemata.Build
import Schemata.Outcome
import Mathlib.Data.List.Nodup

/-!
# The numbers of a built file

The ids of the statements and types of a built file, read in pre-order, are numbered one after the
other from 1. So no two of them are the same, and the ordinal of a file is part of each of its ids.

Results:
* `Build.nodeIds_of_type`, `Build.nodeIds_of_statement`: what is built from a number on has the
  numbers from there on.
* `Build.nodeIds_of_root`: the ids of a root are numbered from 1.
-/
namespace Schemata

namespace WrittenType

mutual

/-- The ids of a type and its members, in pre-order. -/
def nodeIds : WrittenType → List ElementId
  | fundamental o _ => [o.id]
  | reference o _ => [o.id]
  | tuple o members => o.id :: nodeIdsOf members
  | variant o members => o.id :: nodeIdsOf members

/-- The ids of types, one after the other. -/
def nodeIdsOf : List WrittenType → List ElementId
  | [] => []
  | t :: ts => t.nodeIds ++ nodeIdsOf ts

end

end WrittenType

namespace Statement

mutual

/-- The ids of a statement and of everything in it, in pre-order. -/
def nodeIds : Statement WrittenType → List ElementId
  | item id _ _ type => id :: type.nodeIds
  | struct id _ _ bases _ children => id :: (WrittenType.nodeIdsOf bases ++ nodeIdsOf children)
  | extension id _ _ => [id]
  | inclusion id _ _ => [id]

/-- The ids of statements and of everything in them, one after the other. -/
def nodeIdsOf : List (Statement WrittenType) → List ElementId
  | [] => []
  | s :: ss => s.nodeIds ++ nodeIdsOf ss

end

end Statement

namespace Build

/-- The ids of a file with `count` numbers from `number` on. -/
def idsFrom (target : BuildTarget) (number count : Nat) : List ElementId :=
  (List.range' number count).map (ElementId.mk target.ordinal)

theorem idsFrom_succ (target : BuildTarget) (number count : Nat) :
    idsFrom target number (count + 1) =
      ⟨target.ordinal, number⟩ :: idsFrom target (number + 1) count := by
  simp [idsFrom, List.range'_succ]

theorem idsFrom_add (target : BuildTarget) (number m n : Nat) :
    idsFrom target number (m + n) = idsFrom target number m ++ idsFrom target (number + m) n := by
  simp [idsFrom, ← List.range'_append_1]

theorem nodup_idsFrom (target : BuildTarget) (number count : Nat) :
    (idsFrom target number count).Nodup := by
  refine List.Nodup.map (fun a b h => ?_) (List.nodup_range' 1)
  injection h

theorem ordinal_of_mem_idsFrom {target : BuildTarget} {number count : Nat} {id : ElementId}
    (h : id ∈ idsFrom target number count) : id.file = target.ordinal := by
  obtain ⟨n, -, rfl⟩ := List.mem_map.1 h
  rfl

theorem nodeIds_of_reference {id : ElementId} {range : Range} {c : Cardinality}
    {m : Option Metadata} {r : Reference} {t : WrittenType}
    (h : reference id range c m r = .ok t) : t.nodeIds = [id] := by
  obtain ⟨_, -, h⟩ := bind_eq_ok_iff.1 h
  obtain ⟨f, -, h⟩ := bind_eq_ok_iff.1 h
  split at h <;> injection h with h <;> subst h <;> rfl

mutual

/-- A type built from a number on has as many numbers from there on as its source has elements. -/
theorem nodeIds_of_type {target : BuildTarget} {number : Nat} (e : Source.TypeExpr)
    {t : WrittenType} (h : type target number e = .ok t) :
    t.nodeIds = idsFrom target number e.count := by
  cases e with
  | reference hd segments isGlobal isElement =>
    obtain ⟨⟨r, c, m⟩, -, h⟩ := bind_eq_ok_iff.1 h
    obtain ⟨names, -, h⟩ := bind_eq_ok_iff.1 h
    exact nodeIds_of_reference h
  | tuple hd members =>
    obtain ⟨⟨r, c, m⟩, -, h⟩ := bind_eq_ok_iff.1 h
    obtain ⟨built, hb, h⟩ := bind_eq_ok_iff.1 h
    obtain ⟨_, -, h⟩ := bind_eq_ok_iff.1 h
    injection h with h
    subst h
    rw [WrittenType.nodeIds, nodeIdsOf_of_types members hb, Source.TypeExpr.count, idsFrom_succ]
  | variant hd members =>
    obtain ⟨⟨r, c, m⟩, -, h⟩ := bind_eq_ok_iff.1 h
    obtain ⟨built, hb, h⟩ := bind_eq_ok_iff.1 h
    obtain ⟨_, -, h⟩ := bind_eq_ok_iff.1 h
    injection h with h
    subst h
    rw [WrittenType.nodeIds, nodeIdsOf_of_types members hb, Source.TypeExpr.count, idsFrom_succ]

theorem nodeIdsOf_of_types {target : BuildTarget} {number : Nat} (es : List Source.TypeExpr)
    {ts : List WrittenType} (h : types target number es = .ok ts) :
    WrittenType.nodeIdsOf ts = idsFrom target number (Source.TypeExpr.counts es) := by
  match es with
  | [] =>
    injection h with h
    subst h
    rfl
  | e :: rest =>
    obtain ⟨t, ht, h⟩ := bind_eq_ok_iff.1 h
    obtain ⟨ts', hts, h⟩ := bind_eq_ok_iff.1 h
    injection h with h
    subst h
    rw [WrittenType.nodeIdsOf, nodeIds_of_type e ht, nodeIdsOf_of_types rest hts,
      Source.TypeExpr.counts, idsFrom_add]

end

mutual

/-- A statement built from a number on has as many numbers from there on as its source has
elements. -/
theorem nodeIds_of_statement {target : BuildTarget} {number : Nat} {atRoot : Bool}
    (src : Source.Statement) {s : Statement WrittenType}
    (h : statement target number atRoot src = .ok s) :
    s.nodeIds = idsFrom target number src.count := by
  cases src with
  | item span name e =>
    obtain ⟨_, -, h⟩ := bind_eq_ok_iff.1 h
    obtain ⟨_, -, h⟩ := bind_eq_ok_iff.1 h
    obtain ⟨t, ht, h⟩ := bind_eq_ok_iff.1 h
    injection h with h
    subst h
    rw [Statement.nodeIds, nodeIds_of_type e ht, Source.Statement.count, idsFrom_succ]
  | struct span name bases m children =>
    obtain ⟨_, -, h⟩ := bind_eq_ok_iff.1 h
    obtain ⟨_, -, h⟩ := bind_eq_ok_iff.1 h
    obtain ⟨built, hb, h⟩ := bind_eq_ok_iff.1 h
    obtain ⟨_, -, h⟩ := bind_eq_ok_iff.1 h
    obtain ⟨ss, hs, h⟩ := bind_eq_ok_iff.1 h
    obtain ⟨_, -, h⟩ := bind_eq_ok_iff.1 h
    injection h with h
    subst h
    rw [Statement.nodeIds, nodeIdsOf_of_types bases hb, nodeIdsOf_of_statements children hs,
      Source.Statement.count, idsFrom_succ, idsFrom_add]
  | extension span name arguments named =>
    obtain ⟨_, -, h⟩ := bind_eq_ok_iff.1 h
    obtain ⟨_, -, h⟩ := bind_eq_ok_iff.1 h
    injection h with h
    subst h
    rfl
  | inclusion span filenameSpan filename items =>
    obtain ⟨_, -, h⟩ := bind_eq_ok_iff.1 h
    cases atRoot with
    | true =>
      obtain ⟨_, -, h⟩ := bind_eq_ok_iff.1 h
      injection h with h
      subst h
      rfl
    | false => cases h
  | root span statements =>
    obtain ⟨_, -, h⟩ := bind_eq_ok_iff.1 h
    cases h

theorem nodeIdsOf_of_statements {target : BuildTarget} {number : Nat} {atRoot : Bool}
    (srcs : List Source.Statement) {ss : List (Statement WrittenType)}
    (h : statements target number atRoot srcs = .ok ss) :
    Statement.nodeIdsOf ss = idsFrom target number (Source.Statement.counts srcs) := by
  match srcs with
  | [] =>
    injection h with h
    subst h
    rfl
  | src :: rest =>
    obtain ⟨s, hs, h⟩ := bind_eq_ok_iff.1 h
    obtain ⟨ss', hss, h⟩ := bind_eq_ok_iff.1 h
    injection h with h
    subst h
    rw [Statement.nodeIdsOf, nodeIds_of_statement src hs, nodeIdsOf_of_statements rest hss,
      Source.Statement.counts, idsFrom_add]

end

/-- The ids of a root are numbered from 1. -/
theorem nodeIds_of_root {target : BuildTarget} {srcs : List Source.Statement}
    {r : Root WrittenType} (h : root target srcs = .ok r) :
    Statement.nodeIdsOf r.statements = idsFrom target 1 (Source.Statement.counts srcs) := by
  obtain ⟨_, -, h⟩ := bind_eq_ok_iff.1 h
  obtain ⟨ss, hs, h⟩ := bind_eq_ok_iff.1 h
  obtain ⟨_, -, h⟩ := bind_eq_ok_iff.1 h
  injection h with h
  subst h
  exact nodeIdsOf_of_statements srcs hs

end Build
end Schemata
