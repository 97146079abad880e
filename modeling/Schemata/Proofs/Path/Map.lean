import Mathlib
import Schemata.Path.Map

/-!
# The order of paths and the maps over it

Paths are ordered step by step, and two paths are alike in this order exactly if they have the same
steps. So the entries of a map that was built by insertions stand in strictly ascending order, every
key has one entry at most, and what is found under a key is what was put there last.

**Results:**
* `Path.compare_eq_iff`: the order tells paths apart that differ in their steps.
* `PathMap.get?_insert`: what is found after an insertion.
* `PathMap.Ordered.insert`, `PathMap.Ordered.weight_insert`: insertion keeps the order, and replaces
  what was there under the key.
-/
namespace Schemata

/-! ## The order of steps -/

namespace Component

/-- The place of a kind of step among the others. -/
def rank : Component → Nat
  | root => 0
  | current => 1
  | parent => 2
  | name _ => 3

/-- The name of a step that has one. -/
def label : Component → String
  | name text => text
  | _ => ""

/-- Steps are ordered by their kind, and names among themselves. -/
theorem compare_eq_lex :
    (compare : Component → Component → Ordering) =
      compareLex (compareOn rank) (compareOn label) := by
  funext a b
  cases a <;> cases b
  case name.name a b => exact Ordering.then_eq
  all_goals rfl

instance : Std.TransOrd Component := by
  have h : Std.TransCmp (compareLex (compareOn rank) (compareOn label)) := inferInstance
  rwa [← compare_eq_lex] at h

instance : Std.LawfulEqOrd Component where
  eq_of_compare := by
    intro a b h
    have h : compareLex (compareOn rank) (compareOn label) a b = .eq := compare_eq_lex ▸ h
    obtain ⟨hrank, hlabel⟩ := compareLex_eq_eq.1 h
    have hrank := Std.LawfulEqOrd.eq_of_compare hrank
    have hlabel := Std.LawfulEqOrd.eq_of_compare hlabel
    cases a <;> cases b <;> simp_all [rank, label]

end Component

namespace Path

theorem compare_def (a b : Path) :
    compare a b = List.compareLex compare a.components b.components := rfl

instance : Std.TransOrd Path :=
  have h : Std.TransCmp (List.compareLex (compare : Component → Component → Ordering)) :=
    inferInstance
  { eq_swap := h.eq_swap
    isLE_trans := h.isLE_trans }

/-- The order tells paths apart that differ in their steps. -/
theorem compare_eq_iff {a b : Path} : compare a b = .eq ↔ (a == b) = true := by
  rw [compare_def, Std.LawfulEqCmp.compare_eq_iff_eq]
  exact same_iff.symm

theorem beq_iff {a b : Path} : (a == b) = true ↔ a.components = b.components := same_iff

theorem beq_comm (a b : Path) : (a == b) = (b == a) := by
  rw [Bool.eq_iff_iff, beq_iff, beq_iff, eq_comm]

theorem beq_of_lt {a b : Path} (h : compare a b = .lt) : (a == b) = false := by
  rw [Bool.eq_false_iff]
  intro heq
  rw [compare_eq_iff.2 heq] at h
  cases h

/-- Paths with the same steps are alike to every path. -/
theorem beq_congr {a b : Path} (h : (a == b) = true) (c : Path) : (a == c) = (b == c) := by
  rw [Bool.eq_iff_iff, beq_iff, beq_iff, beq_iff.1 h]

end Path

namespace PathMap
variable {α : Type}

theorem get?_eq (m : PathMap α) (key : Path) :
    m.get? key = (m.entries.find? fun e => key == e.1).map (·.2) := by
  unfold get?
  congr 2
  funext e
  rw [Bool.eq_iff_iff, beq_iff_eq]
  exact Path.compare_eq_iff

/-- Paths with the same steps are one key. -/
theorem get?_congr (m : PathMap α) {key other : Path} (h : (key == other) = true) :
    m.get? key = m.get? other := by
  simp only [get?_eq, Path.beq_congr h]

/-- What is found after an insertion: the new value under its key, and under any other key what was
there before. -/
theorem get?_insert (m : PathMap α) (key other : Path) (value : α) :
    (m.insert key value).get? other = if other == key then some value else m.get? other := by
  obtain ⟨entries⟩ := m
  simp only [get?_eq, insert]
  induction entries with
  | nil =>
    rw [insertEntry, List.find?_singleton]
    split <;> rfl
  | cons e rest ih =>
    obtain ⟨k, v⟩ := e
    rw [insertEntry]
    split
    · rw [List.find?_cons]
      by_cases h : (other == key) = true
      · simp [h]
      · simp [h]
    · -- the entry keeps its first spelling, so the two are compared with the same steps
      rename_i heq
      have hk : (other == k) = (other == key) := by
        rw [Path.beq_comm, Path.beq_comm other,
          Path.beq_congr (Path.compare_eq_iff.1 heq)]
      rw [List.find?_cons, List.find?_cons, hk]
      by_cases h : (other == key) = true
      · simp [h]
      · simp [h]
    · rename_i hgt
      rw [List.find?_cons, List.find?_cons]
      by_cases h : (other == k) = true
      · have hne : ¬ (other == key) = true := by
          intro hkey
          have : compare key k = .eq :=
            Path.compare_eq_iff.2 ((Path.beq_congr hkey k).symm.trans h)
          rw [this] at hgt
          cases hgt
        simp [h, hne]
      · simp only [h]
        exact ih

/-! ## Ordered maps -/

/-- The keys of a map are in strictly ascending order. -/
def Ordered (m : PathMap α) : Prop :=
  m.entries.Pairwise fun a b => compare a.1 b.1 = .lt

theorem ordered_empty : (empty : PathMap α).Ordered := List.Pairwise.nil

/-- The entries after an insertion: the new one, perhaps in an older spelling, and old ones. -/
theorem mem_insertEntry {key : Path} {value : α} {entries : List (Path × α)} {e : Path × α}
    (h : e ∈ insertEntry key value entries) :
    (compare e.1 key = .eq ∧ e.2 = value) ∨ e ∈ entries := by
  induction entries with
  | nil =>
    rw [insertEntry, List.mem_singleton] at h
    subst h
    exact .inl ⟨Std.ReflOrd.compare_self, rfl⟩
  | cons first rest ih =>
    obtain ⟨k, v⟩ := first
    rw [insertEntry] at h
    split at h
    · rcases List.mem_cons.1 h with rfl | h
      · exact .inl ⟨Std.ReflOrd.compare_self, rfl⟩
      · exact .inr h
    · rename_i heq
      rcases List.mem_cons.1 h with rfl | h
      · exact .inl ⟨Std.OrientedCmp.eq_symm heq, rfl⟩
      · exact .inr (List.mem_cons_of_mem _ h)
    · rcases List.mem_cons.1 h with rfl | h
      · exact .inr List.mem_cons_self
      · exact (ih h).imp_right (List.mem_cons_of_mem _)

/-- Insertion keeps the order. -/
theorem Ordered.insert {m : PathMap α} (h : m.Ordered) (key : Path) (value : α) :
    (m.insert key value).Ordered := by
  obtain ⟨entries⟩ := m
  show (insertEntry key value entries).Pairwise _
  replace h : entries.Pairwise fun a b => compare a.1 b.1 = .lt := h
  induction entries with
  | nil => exact List.pairwise_singleton _ _
  | cons first rest ih =>
    obtain ⟨k, v⟩ := first
    obtain ⟨hfirst, hrest⟩ := List.pairwise_cons.1 h
    rw [insertEntry]
    split
    · rename_i hlt
      refine List.pairwise_cons.2 ⟨fun e he => ?_, h⟩
      rcases List.mem_cons.1 he with rfl | he
      · exact hlt
      · exact Std.TransCmp.lt_trans hlt (hfirst e he)
    · exact List.pairwise_cons.2 ⟨hfirst, hrest⟩
    · rename_i hgt
      have hlt : compare k key = .lt := Std.OrientedCmp.gt_iff_lt.1 hgt
      refine List.pairwise_cons.2 ⟨fun e he => ?_, ih hrest⟩
      rcases mem_insertEntry he with ⟨heq, -⟩ | he
      · exact Std.TransCmp.lt_of_lt_of_eq hlt (Std.OrientedCmp.eq_symm heq)
      · exact hfirst e he

/-- An entry of an ordered map is what is found under its key. -/
theorem Ordered.get?_of_mem {m : PathMap α} (h : m.Ordered) {key : Path} {value : α}
    (hm : (key, value) ∈ m.entries) : m.get? key = some value := by
  obtain ⟨entries⟩ := m
  rw [get?_eq]
  replace h : entries.Pairwise fun a b => compare a.1 b.1 = .lt := h
  replace hm : (key, value) ∈ entries := hm
  show (entries.find? _).map _ = _
  induction entries with
  | nil => cases hm
  | cons first rest ih =>
    obtain ⟨hfirst, hrest⟩ := List.pairwise_cons.1 h
    rcases List.mem_cons.1 hm with rfl | hm
    · have hself : (key == key) = true := Path.beq_iff.2 rfl
      simp [hself]
    · have hne : (key == first.1) = false := by
        rw [Path.beq_comm]
        exact Path.beq_of_lt (hfirst _ hm)
      rw [List.find?_cons, hne]
      exact ih hrest hm

/-- What is found is the value of an entry. -/
theorem exists_mem_of_get? {m : PathMap α} {key : Path} {value : α}
    (h : m.get? key = some value) : ∃ k, (key == k) = true ∧ (k, value) ∈ m.entries := by
  rw [get?_eq] at h
  obtain ⟨⟨k, v⟩, he, rfl⟩ := Option.map_eq_some_iff.1 h
  have hkey := List.find?_some he
  exact ⟨k, hkey, List.mem_of_find?_eq_some he⟩

theorem get?_eq_none_iff {m : PathMap α} {key : Path} :
    m.get? key = none ↔ ∀ e ∈ m.entries, (key == e.1) = false := by
  rw [get?_eq, Option.map_eq_none_iff, List.find?_eq_none]
  simp only [Bool.not_eq_true]

/-! ## Weights -/

/-- The sum of what the values of a map weigh. -/
def weight (g : α → Nat) (m : PathMap α) : Nat := (m.entries.map fun e => g e.2).sum

theorem weight_one (m : PathMap α) : m.weight (fun _ => 1) = m.size := by
  simp [weight, size, List.map_const']

/-- A new key that is before all others is not found. -/
theorem Ordered.get?_eq_none {key : Path} {first : Path × α} {rest : List (Path × α)}
    (h : Ordered ⟨first :: rest⟩) (hlt : compare key first.1 = .lt) :
    get? ⟨first :: rest⟩ key = none := by
  have hfirst := (List.pairwise_cons.1 h).1
  rw [get?_eq_none_iff]
  intro e he
  rcases List.mem_cons.1 he with rfl | he
  · exact Path.beq_of_lt hlt
  · exact Path.beq_of_lt (Std.TransCmp.lt_trans hlt (hfirst e he))

theorem get?_cons (key : Path) (first : Path × α) (rest : List (Path × α)) :
    get? ⟨first :: rest⟩ key = if key == first.1 then some first.2 else get? ⟨rest⟩ key := by
  rw [get?_eq, get?_eq, List.find?_cons]
  split <;> simp_all

/-- Insertion adds what the new value weighs, and takes away what an old one of the key did. -/
theorem Ordered.weight_insert {m : PathMap α} (h : m.Ordered) (g : α → Nat) (key : Path)
    (value : α) :
    (m.insert key value).weight g + ((m.get? key).map g).getD 0 = m.weight g + g value := by
  obtain ⟨entries⟩ := m
  simp only [weight, PathMap.insert]
  induction entries with
  | nil => simp [insertEntry, get?]
  | cons first rest ih =>
    obtain ⟨k, v⟩ := first
    rw [insertEntry]
    split
    · rename_i hlt
      rw [h.get?_eq_none hlt]
      simp [Nat.add_comm]
    · rename_i heq
      rw [get?_cons, if_pos (Path.compare_eq_iff.1 heq)]
      simp
      omega
    · rename_i hgt
      have hne : ¬ (key == k) = true := by
        rw [Bool.not_eq_true, Path.beq_comm]
        exact Path.beq_of_lt (Std.OrientedCmp.gt_iff_lt.1 hgt)
      have hrest := ih (List.pairwise_cons.1 h).2
      rw [get?_cons, if_neg hne]
      simp only [List.map_cons, List.sum_cons]
      omega

end PathMap
end Schemata
