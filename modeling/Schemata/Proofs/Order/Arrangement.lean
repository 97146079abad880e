import Schemata.LinkedType
import Schemata.Source
import Schemata.Table
import Mathlib.Data.List.Basic
import Mathlib.Data.List.Nodup

/-!
# Other orders of statements

An arrangement puts the statements of every body into another order, and a renumbering hands other
numbers to the nodes of each file. Both are meant for whole trees: the bodies in a body are
rearranged along with it, and a handle on a structure gets the number of the structure.

Results:
* `getElem?_inOrder_idxOf`, `exists_of_getElem?_inOrder`: what comes where in another order.
* `Statement.getElem?_reordered`: the statement at a position of a body is, rearranged, at the
  position to which the arrangement moves it.
-/
namespace Schemata

/-! ## Lists in another order -/

/-- The entries at the places, in the order of the places. -/
def inOrder {α : Type} (places : List Nat) (as : List α) : List α := places.filterMap (as[·]?)

section InOrder

variable {α : Type} {places : List Nat} {as : List α}

variable (h : places.Perm (List.range as.length))
include h

theorem mem_places_iff {k : Nat} : k ∈ places ↔ k < as.length := by
  rw [h.mem_iff, List.mem_range]

theorem getElem?_inOrder (j : Nat) : (inOrder places as)[j]? = places[j]?.bind (as[·]?) := by
  have hlt : ∀ k ∈ places, k < as.length := fun k hk => (mem_places_iff h).1 hk
  clear h
  induction places generalizing j with
  | nil => simp [inOrder]
  | cons k places ih =>
    have hk := List.getElem?_eq_getElem (hlt k List.mem_cons_self)
    rw [inOrder, List.filterMap_cons_some hk]
    cases j with
    | zero => simp [hk]
    | succ j => exact ih j fun k hk => hlt k (List.mem_cons_of_mem _ hk)

/-- What was at a place comes where the place is listed. -/
theorem getElem?_inOrder_idxOf (k : Nat) : (inOrder places as)[places.idxOf k]? = as[k]? := by
  rw [getElem?_inOrder h]
  by_cases hk : k ∈ places
  · rw [List.getElem?_idxOf hk]
    rfl
  · have hlen := Nat.le_of_not_lt (mt (mem_places_iff h).2 hk)
    rw [List.idxOf_eq_length hk, List.getElem?_eq_none (Nat.le_refl _), List.getElem?_eq_none hlen]
    rfl

/-- What comes somewhere was at the place that is listed there. -/
theorem exists_of_getElem?_inOrder {j : Nat} {a : α} (ha : (inOrder places as)[j]? = some a) :
    ∃ k, as[k]? = some a ∧ places.idxOf k = j := by
  rw [getElem?_inOrder h] at ha
  obtain ⟨k, hk, ha⟩ := Option.bind_eq_some_iff.1 ha
  obtain ⟨hj, rfl⟩ := List.getElem?_eq_some_iff.1 hk
  refine ⟨_, ha, ?_⟩
  exact (h.nodup_iff.2 List.nodup_range).idxOf_getElem j hj

/-- If every place is listed once, the entries are the same in another order. -/
theorem inOrder_perm : (inOrder places as).Perm as := by
  have hall : inOrder (List.range as.length) as = as := by
    refine List.ext_getElem? fun j => ?_
    rw [getElem?_inOrder (List.Perm.refl _)]
    rcases Nat.lt_or_ge j as.length with hj | hj
    · rw [List.getElem?_range hj]
      rfl
    · rw [List.getElem?_eq_none (by simpa using hj), List.getElem?_eq_none hj]
      rfl
  have hperm := h.filterMap (as[·]?)
  rwa [show (List.range as.length).filterMap (as[·]?) = as from hall] at hperm

end InOrder

/-! ## Arrangements -/

/-- For each scope, the old positions of its statements in the order in which they are to come. -/
abbrev Arrangement := Address → List Nat

namespace Source.Statement

mutual

/-- A statement at an address with the bodies in it rearranged. -/
def rearranged (order : Arrangement) (a : Address) : Statement → Statement
  | item span name type => item span name type
  | struct span name bases metadata children =>
    struct span name bases metadata (inOrder (order a) (rearrangedFrom order a 0 children))
  | extension span name arguments named => extension span name arguments named
  | inclusion span filenameSpan filename items => inclusion span filenameSpan filename items
  | root span statements => root span statements

/-- The statements of a scope from a position on, each rearranged. -/
def rearrangedFrom (order : Arrangement) (scope : Address) (index : Nat) :
    List Statement → List Statement
  | [] => []
  | s :: ss =>
    s.rearranged order (scope.child index) :: rearrangedFrom order scope (index + 1) ss

end

/-- The statements of a scope in the order of the arrangement, each rearranged. -/
def reordered (order : Arrangement) (scope : Address) (ss : List Statement) : List Statement :=
  inOrder (order scope) (rearrangedFrom order scope 0 ss)

mutual

/-- The arrangement lists each position of every body in the statement once. -/
def ArrangedBy (order : Arrangement) (a : Address) : Statement → Prop
  | struct _ _ _ _ children =>
    (order a).Perm (List.range children.length) ∧ ArrangedFrom order a 0 children
  | item .. | extension .. | inclusion .. | root .. => True

/-- The arrangement lists each position of every body in the statements once, which stand in a scope
from a position on. -/
def ArrangedFrom (order : Arrangement) (scope : Address) (index : Nat) : List Statement → Prop
  | [] => True
  | s :: ss =>
    s.ArrangedBy order (scope.child index) ∧ ArrangedFrom order scope (index + 1) ss

end

end Source.Statement

/-- The arrangement lists each position of every body in the sources once. -/
def Arranges (order : Arrangement) (sources : List (Path × List Source.Statement)) : Prop :=
  ∀ (file : Nat) (path : Path) (ss : List Source.Statement), sources[file]? = some (path, ss) →
    (order ⟨file, []⟩).Perm (List.range ss.length) ∧
      Source.Statement.ArrangedFrom order ⟨file, []⟩ 0 ss

/-- Sources with the bodies of all files rearranged. -/
def rearrangedSources (order : Arrangement) (sources : List (Path × List Source.Statement)) :
    List (Path × List Source.Statement) :=
  sources.zipIdx.map fun ((path, ss), file) =>
    (path, Source.Statement.reordered order ⟨file, []⟩ ss)

namespace Statement
variable {τ : Type}

mutual

/-- A statement at an address with the bodies in it rearranged. -/
def rearranged (order : Arrangement) (a : Address) : Statement τ → Statement τ
  | item id range name type => item id range name type
  | struct id range name bases metadata children =>
    struct id range name bases metadata (inOrder (order a) (rearrangedFrom order a 0 children))
  | extension id range call => extension id range call
  | inclusion id range i => inclusion id range i

/-- The statements of a scope from a position on, each rearranged. -/
def rearrangedFrom (order : Arrangement) (scope : Address) (index : Nat) :
    List (Statement τ) → List (Statement τ)
  | [] => []
  | s :: ss =>
    s.rearranged order (scope.child index) :: rearrangedFrom order scope (index + 1) ss

end

/-- The statements of a scope in the order of the arrangement, each rearranged. -/
def reordered (order : Arrangement) (scope : Address) (ss : List (Statement τ)) :
    List (Statement τ) :=
  inOrder (order scope) (rearrangedFrom order scope 0 ss)

mutual

/-- The arrangement lists each position of every body in the statement once. -/
def ArrangedBy (order : Arrangement) (a : Address) : Statement τ → Prop
  | struct _ _ _ _ _ children =>
    (order a).Perm (List.range children.length) ∧ ArrangedFrom order a 0 children
  | item .. | extension .. | inclusion .. => True

/-- The arrangement lists each position of every body in the statements once, which stand in a scope
from a position on. -/
def ArrangedFrom (order : Arrangement) (scope : Address) (index : Nat) :
    List (Statement τ) → Prop
  | [] => True
  | s :: ss =>
    s.ArrangedBy order (scope.child index) ∧ ArrangedFrom order scope (index + 1) ss

end

theorem ArrangedFrom.getElem? {order : Arrangement} {scope : Address} {index : Nat}
    {ss : List (Statement τ)} (h : ArrangedFrom order scope index ss) {k : Nat} {s : Statement τ}
    (hs : ss[k]? = some s) : s.ArrangedBy order (scope.child (index + k)) := by
  induction ss generalizing index k with
  | nil => cases hs
  | cons u ss ih =>
    cases k with
    | zero =>
      cases hs
      exact h.1
    | succ k =>
      rw [show index + (k + 1) = index + 1 + k by omega]
      exact ih h.2 hs

theorem getElem?_rearrangedFrom (order : Arrangement) (scope : Address) (index : Nat)
    (ss : List (Statement τ)) (k : Nat) :
    (rearrangedFrom order scope index ss)[k]? =
      ss[k]?.map (rearranged order (scope.child (index + k))) := by
  induction ss generalizing index k with
  | nil => rfl
  | cons s ss ih =>
    cases k with
    | zero => rfl
    | succ k =>
      rw [rearrangedFrom, List.getElem?_cons_succ, List.getElem?_cons_succ, ih]
      congr 3
      omega

theorem length_rearrangedFrom (order : Arrangement) (scope : Address) (index : Nat)
    (ss : List (Statement τ)) : (rearrangedFrom order scope index ss).length = ss.length := by
  induction ss generalizing index with
  | nil => rfl
  | cons s ss ih => rw [rearrangedFrom, List.length_cons, List.length_cons, ih]

section Reordered

variable {order : Arrangement} {scope : Address} {ss : List (Statement τ)}
  (h : (order scope).Perm (List.range ss.length))
include h

/-- What is at a position comes, rearranged, where the arrangement moves it. -/
theorem getElem?_reordered (k : Nat) :
    (reordered order scope ss)[(order scope).idxOf k]? =
      ss[k]?.map (rearranged order (scope.child k)) := by
  rw [← length_rearrangedFrom order scope 0 ss] at h
  rw [reordered, getElem?_inOrder_idxOf h, getElem?_rearrangedFrom, Nat.zero_add]

/-- What comes somewhere is a rearranged statement of the scope, moved there. -/
theorem exists_of_getElem?_reordered {j : Nat} {s : Statement τ}
    (hs : (reordered order scope ss)[j]? = some s) :
    ∃ k old, ss[k]? = some old ∧ (order scope).idxOf k = j ∧
      s = old.rearranged order (scope.child k) := by
  rw [← length_rearrangedFrom order scope 0 ss] at h
  obtain ⟨k, hk, hj⟩ := exists_of_getElem?_inOrder h hs
  rw [getElem?_rearrangedFrom, Nat.zero_add, Option.map_eq_some_iff] at hk
  obtain ⟨old, hold, rfl⟩ := hk
  exact ⟨k, old, hold, hj, rfl⟩

end Reordered

end Statement

/-- A file with its bodies rearranged. -/
def Root.rearranged {τ : Type} (order : Arrangement) (file : Nat) (r : Root τ) : Root τ :=
  ⟨r.range, Statement.reordered order ⟨file, []⟩ r.statements⟩

/-! ## Moved addresses -/

/-- Where a path of a file leads to after the bodies of the file are rearranged. -/
def movedPath (order : Arrangement) (file : Nat) : List Nat → List Nat
  | [] => []
  | index :: outer => (order ⟨file, outer⟩).idxOf index :: movedPath order file outer

namespace Address

/-- The address of the same statement after the bodies are rearranged. -/
def moved (order : Arrangement) (a : Address) : Address := ⟨a.file, movedPath order a.file a.path⟩

@[simp]
theorem moved_root (order : Arrangement) (file : Nat) :
    moved order ⟨file, []⟩ = ⟨file, []⟩ := rfl

theorem moved_child (order : Arrangement) (scope : Address) (index : Nat) :
    (scope.child index).moved order = (scope.moved order).child ((order scope).idxOf index) := rfl

theorem scope_moved (order : Arrangement) (a : Address) :
    (a.moved order).scope = a.scope.moved order := by
  obtain ⟨file, path⟩ := a
  cases path <;> rfl

end Address

/-! ## Renumbering -/

/-- The id with another number for the old one. -/
def ElementId.renumbered (ρ : Nat → Nat → Nat) (id : ElementId) : ElementId :=
  ⟨id.file, ρ id.file id.number⟩

/-- The same with another number. -/
def Occurrence.renumbered (ρ : Nat → Nat → Nat) (o : Occurrence) : Occurrence :=
  { o with id := o.id.renumbered ρ }

mutual

/-- The type with other numbers for all of its nodes. -/
def WrittenType.renumbered (ρ : Nat → Nat → Nat) : WrittenType → WrittenType
  | .fundamental o f => .fundamental (o.renumbered ρ) f
  | .reference o r => .reference (o.renumbered ρ) r
  | .tuple o members => .tuple (o.renumbered ρ) (WrittenType.renumberedAll ρ members)
  | .variant o members => .variant (o.renumbered ρ) (WrittenType.renumberedAll ρ members)

/-- The types with other numbers for all of their nodes. -/
def WrittenType.renumberedAll (ρ : Nat → Nat → Nat) : List WrittenType → List WrittenType
  | [] => []
  | t :: ts => t.renumbered ρ :: WrittenType.renumberedAll ρ ts

end

mutual

/-- The type with other numbers for all of its nodes and for the structures that it means. -/
def LinkedType.renumbered (ρ : Nat → Nat → Nat) : LinkedType → LinkedType
  | .fundamental o f => .fundamental (o.renumbered ρ) f
  | .struct o id name => .struct (o.renumbered ρ) (id.renumbered ρ) name
  | .tuple o members => .tuple (o.renumbered ρ) (LinkedType.renumberedAll ρ members)
  | .variant o members => .variant (o.renumbered ρ) (LinkedType.renumberedAll ρ members)
  | .alias o name aliased => .alias (o.renumbered ρ) name (aliased.renumbered ρ)

/-- The types with other numbers for all of their nodes and for the structures that they mean. -/
def LinkedType.renumberedAll (ρ : Nat → Nat → Nat) : List LinkedType → List LinkedType
  | [] => []
  | t :: ts => t.renumbered ρ :: LinkedType.renumberedAll ρ ts

end

theorem WrittenType.renumberedAll_eq_map (ρ : Nat → Nat → Nat) (ts : List WrittenType) :
    renumberedAll ρ ts = ts.map (renumbered ρ) := by
  induction ts with
  | nil => rfl
  | cons t ts ih => rw [renumberedAll, ih, List.map_cons]

theorem LinkedType.renumberedAll_eq_map (ρ : Nat → Nat → Nat) (ts : List LinkedType) :
    renumberedAll ρ ts = ts.map (renumbered ρ) := by
  induction ts with
  | nil => rfl
  | cons t ts ih => rw [renumberedAll, ih, List.map_cons]

namespace Statement
variable {τ : Type}

mutual

/-- The statement with other numbers, given how its types get theirs. -/
def renumbered (ρ : Nat → Nat → Nat) (f : τ → τ) : Statement τ → Statement τ
  | item id range name type => item (id.renumbered ρ) range name (f type)
  | struct id range name bases metadata children =>
    struct (id.renumbered ρ) range name (bases.map f) metadata (renumberedAll ρ f children)
  | extension id range call => extension (id.renumbered ρ) range call
  | inclusion id range i => inclusion (id.renumbered ρ) range i

/-- The statements with other numbers, given how their types get theirs. -/
def renumberedAll (ρ : Nat → Nat → Nat) (f : τ → τ) : List (Statement τ) → List (Statement τ)
  | [] => []
  | s :: ss => s.renumbered ρ f :: renumberedAll ρ f ss

end

theorem renumberedAll_eq_map (ρ : Nat → Nat → Nat) (f : τ → τ) (ss : List (Statement τ)) :
    renumberedAll ρ f ss = ss.map (renumbered ρ f) := by
  induction ss with
  | nil => rfl
  | cons s ss ih => rw [renumberedAll, ih, List.map_cons]

/-! ## Both together -/

/-- The statement at an address with the bodies in it rearranged and with other numbers. -/
def twin (order : Arrangement) (ρ : Nat → Nat → Nat) (f : τ → τ) (a : Address)
    (s : Statement τ) : Statement τ :=
  (s.rearranged order a).renumbered ρ f

/-- The statements of a scope in the order of the arrangement and with other numbers. -/
def twins (order : Arrangement) (ρ : Nat → Nat → Nat) (f : τ → τ) (scope : Address)
    (ss : List (Statement τ)) : List (Statement τ) :=
  renumberedAll ρ f (reordered order scope ss)

section Twins

variable {order : Arrangement} {ρ : Nat → Nat → Nat} {f : τ → τ} {scope : Address}
  {ss : List (Statement τ)} (h : (order scope).Perm (List.range ss.length))
include h

theorem length_twins : (twins order ρ f scope ss).length = ss.length := by
  rw [← length_rearrangedFrom order scope 0 ss] at h ⊢
  rw [twins, renumberedAll_eq_map, List.length_map]
  exact (inOrder_perm h).length_eq

/-- The twin of a statement comes where the arrangement moves the statement. -/
theorem getElem?_twins {k : Nat} {s : Statement τ} (hs : ss[k]? = some s) :
    (twins order ρ f scope ss)[(order scope).idxOf k]? =
      some (s.twin order ρ f (scope.child k)) := by
  rw [twins, renumberedAll_eq_map, List.getElem?_map, getElem?_reordered h, hs]
  rfl

/-- What comes somewhere is the twin of a statement that is moved there. -/
theorem exists_of_getElem?_twins {j : Nat} {s : Statement τ}
    (hs : (twins order ρ f scope ss)[j]? = some s) :
    ∃ k old, ss[k]? = some old ∧ (order scope).idxOf k = j ∧
      s = old.twin order ρ f (scope.child k) := by
  rw [twins, renumberedAll_eq_map, List.getElem?_map, Option.map_eq_some_iff] at hs
  obtain ⟨s, hs, rfl⟩ := hs
  obtain ⟨k, old, hk, hj, rfl⟩ := exists_of_getElem?_reordered h hs
  exact ⟨k, old, hk, hj, rfl⟩

end Twins

end Statement

/-- The file with other numbers, given how its types get theirs. -/
def Root.renumbered {τ : Type} (ρ : Nat → Nat → Nat) (f : τ → τ) (r : Root τ) : Root τ :=
  ⟨r.range, Statement.renumberedAll ρ f r.statements⟩

end Schemata
