import Schemata.Proofs.Path.Map

/-!
# Stores

Results of files are kept in two kinds of maps: by a path, and by a directory and a name. What is
put into either under a key is found there until something else is put under the same key, and the
number of entries grows with every new key, as does any other sum over the values. What this says
about many entries put one after the other is proved once for both.

**Results:**
* `LawfulStore.get?_putAll`: entries with different keys are all found.
* `LawfulStore.exists_of_get?_putAll`: nothing but the entries is found.
* `LawfulStore.count_putAll`: no entry is lost exactly if the keys are new and different.
* `LawfulStore.weigh_putAll`: entries that are not lost add what they weigh.
* `PathMap.NestedOrdered.listing_ascending`: what is kept under directories and names is in order.
-/
namespace Schemata

/-- Things that keep values under keys, of which some count as the same. -/
structure LawfulStore (M K V : Type) where
  get? : M → K → Option V
  put : M → K → V → M
  /-- The sum of what the values weigh. -/
  weigh : (V → Nat) → M → Nat
  /-- How a store is built. -/
  Sound : M → Prop
  same : K → K → Bool
  same_refl : ∀ k, same k k = true
  same_comm : ∀ k k', same k k' = same k' k
  get?_put : ∀ m key value other,
    get? (put m key value) other = if same other key then some value else get? m other
  sound_put : ∀ m key value, Sound m → Sound (put m key value)
  weigh_put : ∀ g m key value, Sound m →
    weigh g (put m key value) + ((get? m key).map g).getD 0 = weigh g m + g value

namespace LawfulStore
variable {M K V : Type} (S : LawfulStore M K V)

/-- The store with entries put one after the other. -/
def putAll (m : M) (entries : List (K × V)) : M :=
  entries.foldl (fun m e => S.put m e.1 e.2) m

/-- The number of entries. -/
def count (m : M) : Nat := S.weigh (fun _ => 1) m

/-- No two entries have the same key. -/
def Apart (entries : List (K × V)) : Prop :=
  entries.Pairwise fun a b => S.same a.1 b.1 = false

variable {S} {m : M} {entries : List (K × V)}

theorem sound_putAll (h : S.Sound m) : S.Sound (S.putAll m entries) := by
  induction entries generalizing m with
  | nil => exact h
  | cons e rest ih => exact ih (S.sound_put _ _ _ h)

/-- Under another key than those of the entries nothing changes. -/
theorem get?_putAll_of_apart {key : K} (h : ∀ e ∈ entries, S.same key e.1 = false) :
    S.get? (S.putAll m entries) key = S.get? m key := by
  induction entries generalizing m with
  | nil => rfl
  | cons e rest ih =>
    have hfirst := h e List.mem_cons_self
    have hrest := ih (m := S.put m e.1 e.2) fun x hx => h x (List.mem_cons_of_mem _ hx)
    rw [S.get?_put, hfirst] at hrest
    exact hrest

/-- Entries with different keys are all found. -/
theorem get?_putAll (apart : S.Apart entries) {key : K} {value : V}
    (h : (key, value) ∈ entries) : S.get? (S.putAll m entries) key = some value := by
  induction entries generalizing m with
  | nil => cases h
  | cons e rest ih =>
    obtain ⟨hfirst, hrest⟩ := List.pairwise_cons.1 apart
    rcases List.mem_cons.1 h with rfl | h
    · show S.get? (S.putAll (S.put m key value) rest) key = some value
      rw [get?_putAll_of_apart hfirst, S.get?_put, S.same_refl, if_pos rfl]
    · exact ih hrest h

/-- What is put last under a key is found there. -/
theorem get?_putAll_of_last (S : LawfulStore M K V) {m : M} (before : List (K × V))
    {after : List (K × V)} {e : K × V} (h : ∀ x ∈ after, S.same e.1 x.1 = false) :
    S.get? (S.putAll m (before ++ e :: after)) e.1 = some e.2 := by
  have hlast : S.putAll m (before ++ e :: after) =
      S.putAll (S.put (S.putAll m before) e.1 e.2) after := List.foldl_append
  rw [hlast, get?_putAll_of_apart h, S.get?_put, S.same_refl, if_pos rfl]

/-- A key that is put stays, whatever else is put. -/
theorem isSome_get?_putAll {e : K × V} (h : e ∈ entries) :
    (S.get? (S.putAll m entries) e.1).isSome = true := by
  have hstays : ∀ (es : List (K × V)) (m : M), (S.get? m e.1).isSome = true →
      (S.get? (S.putAll m es) e.1).isSome = true := by
    intro es
    induction es with
    | nil => exact fun m h => h
    | cons x rest ih =>
      refine fun m h => ih (S.put m x.1 x.2) ?_
      rw [S.get?_put]
      split
      · rfl
      · exact h
  induction entries generalizing m with
  | nil => cases h
  | cons x rest ih =>
    rcases List.mem_cons.1 h with rfl | h
    · refine hstays rest _ ?_
      rw [S.get?_put, S.same_refl, if_pos rfl]
      rfl
    · exact ih h

/-- Nothing but the entries is found, and what was there before. -/
theorem exists_of_get?_putAll (S : LawfulStore M K V) {m : M} {entries : List (K × V)} (key : K)
    {value : V} (h : S.get? (S.putAll m entries) key = some value) :
    (∃ e ∈ entries, S.same key e.1 = true ∧ e.2 = value) ∨ S.get? m key = some value := by
  induction entries generalizing m with
  | nil => exact .inr h
  | cons e rest ih =>
    rcases ih h with ⟨x, hx, hfound⟩ | h
    · exact .inl ⟨x, List.mem_cons_of_mem _ hx, hfound⟩
    · rw [S.get?_put] at h
      split at h
      · exact .inl ⟨e, List.mem_cons_self, ‹_›, Option.some.inj h⟩
      · exact .inr h

theorem count_put (h : S.Sound m) (key : K) (value : V) :
    S.count (S.put m key value) + (if (S.get? m key).isSome then 1 else 0) = S.count m + 1 := by
  have hweigh := S.weigh_put (fun _ => 1) m key value h
  unfold count
  cases hget : S.get? m key <;> simp_all

theorem count_putAll_le (h : S.Sound m) (entries : List (K × V)) :
    S.count (S.putAll m entries) ≤ S.count m + entries.length := by
  induction entries generalizing m with
  | nil => exact Nat.le_refl _
  | cons e rest ih =>
    have hrest := ih (S.sound_put m e.1 e.2 h)
    have hfirst := count_put h e.1 e.2
    show S.count (S.putAll (S.put m e.1 e.2) rest) ≤ _
    rw [List.length_cons]
    split at hfirst <;> omega

/-- No entry is lost exactly if their keys are new and different. -/
theorem count_putAll (h : S.Sound m) (entries : List (K × V)) :
    S.count (S.putAll m entries) = S.count m + entries.length ↔
      S.Apart entries ∧ ∀ e ∈ entries, S.get? m e.1 = none := by
  induction entries generalizing m with
  | nil => simp [putAll, Apart]
  | cons e rest ih =>
    have hsound := S.sound_put m e.1 e.2 h
    have hrest := ih hsound
    have hle := count_putAll_le hsound rest
    have hfirst := count_put h e.1 e.2
    -- the first entry is new, and it is none of those that follow
    have hnew : ∀ x : K × V, S.get? (S.put m e.1 e.2) x.1 = none ↔
        S.same e.1 x.1 = false ∧ S.get? m x.1 = none := by
      intro x
      rw [S.get?_put, S.same_comm x.1]
      cases S.same e.1 x.1 <;> simp
    simp only [hnew] at hrest
    show S.count (S.putAll (S.put m e.1 e.2) rest) = _ ↔ _
    rw [Apart, List.pairwise_cons, List.forall_mem_cons, List.length_cons]
    constructor
    · intro hcount
      cases hget : S.get? m e.1 with
      | none =>
        rw [hget] at hfirst
        obtain ⟨hapart, hothers⟩ := hrest.1 (by simp at hfirst; omega)
        exact ⟨⟨fun x hx => (hothers x hx).1, hapart⟩, rfl, fun x hx => (hothers x hx).2⟩
      | some old =>
        rw [hget] at hfirst
        simp at hfirst
        omega
    · rintro ⟨⟨hkeys, hapart⟩, hget, hothers⟩
      rw [hget] at hfirst
      have := hrest.2 ⟨hapart, fun x hx => ⟨hkeys x hx, hothers x hx⟩⟩
      simp at hfirst
      omega

/-- Entries with new and different keys add what they weigh. -/
theorem weigh_putAll (h : S.Sound m) (apart : S.Apart entries)
    (fresh : ∀ e ∈ entries, S.get? m e.1 = none) (g : V → Nat) :
    S.weigh g (S.putAll m entries) = S.weigh g m + (entries.map fun e => g e.2).sum := by
  induction entries generalizing m with
  | nil => rfl
  | cons e rest ih =>
    obtain ⟨hfirst, hrest⟩ := List.pairwise_cons.1 apart
    obtain ⟨hget, hothers⟩ := List.forall_mem_cons.1 fresh
    have hweigh := S.weigh_put g m e.1 e.2 h
    have hfresh : ∀ x ∈ rest, S.get? (S.put m e.1 e.2) x.1 = none := by
      intro x hx
      rw [S.get?_put, S.same_comm, hfirst x hx]
      exact hothers x hx
    have htail := ih (S.sound_put m e.1 e.2 h) hrest hfresh
    rw [hget] at hweigh
    show S.weigh g (S.putAll (S.put m e.1 e.2) rest) = _
    rw [htail, List.map_cons, List.sum_cons]
    simp at hweigh
    omega

end LawfulStore

namespace PathMap
variable {α : Type}

/-- Maps by a path. -/
def store : LawfulStore (PathMap α) Path α where
  get? := get?
  put := insert
  weigh := weight
  Sound := Ordered
  same a b := a == b
  same_refl _ := Path.beq_iff.2 rfl
  same_comm := Path.beq_comm
  get?_put m key value other := get?_insert m key other value
  sound_put _ key value h := h.insert key value
  weigh_put g _ key value h := h.weight_insert g key value

theorem count_store (m : PathMap α) : store.count m = m.size := m.weight_one

/-! ## Maps by directory and name -/

/-- What is kept under a directory and a name. -/
def at? (m : PathMap (PathMap α)) (directory file : Path) : Option α :=
  (m.get? directory).bind (·.get? file)

/-- The map with a value under a directory and a name. -/
def putAt (m : PathMap (PathMap α)) (directory file : Path) (value : α) : PathMap (PathMap α) :=
  m.update directory .empty fun files => files.insert file value

/-- What is kept, in order, with directories and names. -/
def listing (m : PathMap (PathMap α)) : List (Path × Path × α) :=
  m.entries.flatMap fun (directory, files) =>
    files.entries.map fun (file, value) => (directory, file, value)

/-- Two keys are the same if directory and name are. -/
def sameKey (a b : Path × Path) : Bool := a.1 == b.1 && a.2 == b.2

theorem sameKey_comm (a b : Path × Path) : sameKey a b = sameKey b a := by
  rw [sameKey, sameKey, Path.beq_comm, Path.beq_comm a.2]

/-- The directories are in order, and the names in each of them. -/
structure NestedOrdered (m : PathMap (PathMap α)) : Prop where
  outer : m.Ordered
  inner : ∀ e ∈ m.entries, Ordered e.2

theorem nestedOrdered_empty : (empty : PathMap (PathMap α)).NestedOrdered :=
  ⟨ordered_empty, fun _ h => nomatch h⟩

/-- What is kept is in order by directory, and by name in each directory. -/
theorem NestedOrdered.listing_ascending {m : PathMap (PathMap α)} (h : m.NestedOrdered) :
    m.listing.Pairwise fun a b => (compare a.1 b.1).then (compare a.2.1 b.2.1) = .lt := by
  refine List.pairwise_flatMap.2 ⟨fun e he => ?_, h.outer.imp fun hlt x hx y hy => ?_⟩
  · refine List.pairwise_map.2 ((h.inner e he).imp fun hlt => ?_)
    rw [Std.ReflOrd.compare_self]
    exact hlt
  · obtain ⟨_, -, rfl⟩ := List.mem_map.1 hx
    obtain ⟨_, -, rfl⟩ := List.mem_map.1 hy
    rw [hlt]
    rfl

/-- What is kept in order has no two entries with the same directory and name. -/
theorem NestedOrdered.listing_apart {m : PathMap (PathMap α)} (h : m.NestedOrdered) :
    m.listing.Pairwise fun a b => sameKey (a.1, a.2.1) (b.1, b.2.1) = false := by
  refine h.listing_ascending.imp fun {a b} hlt => ?_
  rw [Bool.eq_false_iff]
  intro hsame
  obtain ⟨hdirectory, hfile⟩ := Bool.and_eq_true_iff.1 hsame
  rw [Path.compare_eq_iff.2 hdirectory, Path.compare_eq_iff.2 hfile] at hlt
  cases hlt

/-- What is kept is found under its directory and name. -/
theorem NestedOrdered.at?_of_mem {m : PathMap (PathMap α)} (h : m.NestedOrdered)
    {directory file : Path} {value : α} (hm : (directory, file, value) ∈ m.listing) :
    m.at? directory file = some value := by
  obtain ⟨⟨k, files⟩, he, hfile⟩ := List.mem_flatMap.1 hm
  obtain ⟨⟨name, v⟩, hv, heq⟩ := List.mem_map.1 hfile
  cases heq
  rw [at?, h.outer.get?_of_mem he]
  exact (h.inner _ he).get?_of_mem hv

/-- What is found under a directory and a name is kept there, perhaps in another spelling. -/
theorem exists_mem_listing {m : PathMap (PathMap α)} {directory file : Path} {value : α}
    (h : m.at? directory file = some value) :
    ∃ e ∈ m.listing, sameKey (directory, file) (e.1, e.2.1) = true ∧ e.2.2 = value := by
  obtain ⟨files, hfiles, hvalue⟩ := Option.bind_eq_some_iff.1 h
  obtain ⟨keptDirectory, hdirectory, hentry⟩ := exists_mem_of_get? hfiles
  obtain ⟨keptFile, hname, hfile⟩ := exists_mem_of_get? hvalue
  refine ⟨(keptDirectory, keptFile, value), ?_, Bool.and_eq_true_iff.2 ⟨hdirectory, hname⟩, rfl⟩
  exact List.mem_flatMap.2 ⟨_, hentry, List.mem_map.2 ⟨_, hfile, rfl⟩⟩

/-- The sum of what everything that is kept weighs. -/
def nestedWeight (g : α → Nat) (m : PathMap (PathMap α)) : Nat := m.weight (weight g)

theorem nestedWeight_eq (g : α → Nat) (m : PathMap (PathMap α)) :
    m.nestedWeight g = (m.listing.map fun e => g e.2.2).sum := by
  obtain ⟨entries⟩ := m
  simp only [nestedWeight, weight, listing]
  induction entries with
  | nil => rfl
  | cons e rest ih =>
    rw [List.map_cons, List.sum_cons, ih, List.flatMap_cons, List.map_append, List.sum_append,
      List.map_map]
    rfl

theorem at?_eq (m : PathMap (PathMap α)) (directory file : Path) :
    m.at? directory file = ((m.get? directory).getD .empty).get? file := by
  unfold at?
  cases m.get? directory <;> rfl

/-- What is found under a directory and a name after a value was put somewhere. -/
theorem at?_putAt (m : PathMap (PathMap α)) (key : Path × Path) (value : α)
    (other : Path × Path) :
    (m.putAt key.1 key.2 value).at? other.1 other.2 =
      if sameKey other key then some value else m.at? other.1 other.2 := by
  rw [at?, putAt, update, get?_insert, sameKey]
  by_cases hdir : (other.1 == key.1) = true
  · rw [if_pos hdir, hdir, Option.bind_some, get?_insert, Bool.true_and, at?_eq,
      get?_congr m hdir]
  · rw [if_neg hdir, Bool.eq_false_iff.2 hdir]
    rfl

theorem NestedOrdered.inner_get? {m : PathMap (PathMap α)} (h : m.NestedOrdered)
    (directory : Path) : ((m.get? directory).getD .empty).Ordered := by
  cases hget : m.get? directory with
  | none => exact ordered_empty
  | some files =>
    obtain ⟨k, -, hm⟩ := exists_mem_of_get? hget
    exact h.inner _ hm

theorem NestedOrdered.putAt {m : PathMap (PathMap α)} (h : m.NestedOrdered)
    (directory file : Path) (value : α) : (m.putAt directory file value).NestedOrdered where
  outer := h.outer.insert _ _
  inner := by
    intro e he
    rcases mem_insertEntry he with ⟨-, hfiles⟩ | he
    · rw [hfiles]
      exact (h.inner_get? directory).insert _ _
    · exact h.inner e he

/-- Maps by a directory and a name. -/
def nestedStore : LawfulStore (PathMap (PathMap α)) (Path × Path) α where
  get? m key := m.at? key.1 key.2
  put m key value := m.putAt key.1 key.2 value
  weigh := nestedWeight
  Sound := NestedOrdered
  same := sameKey
  same_refl _ := by simp [sameKey, Path.beq_iff.2]
  same_comm := sameKey_comm
  get?_put := at?_putAt
  sound_put _ key value h := h.putAt key.1 key.2 value
  weigh_put g m key value h := by
    have houter := h.outer.weight_insert (weight g) key.1
      (((m.get? key.1).getD .empty).insert key.2 value)
    have hinner := (h.inner_get? key.1).weight_insert g key.2 value
    have hold : ((m.get? key.1).map (weight g)).getD 0 =
        ((m.get? key.1).getD .empty).weight g := by
      cases m.get? key.1 <;> rfl
    rw [hold] at houter
    rw [at?_eq, nestedWeight, nestedWeight, putAt, update]
    omega

theorem count_nestedStore (m : PathMap (PathMap α)) : nestedStore.count m = m.listing.length := by
  show m.nestedWeight _ = _
  rw [nestedWeight_eq]
  simp [List.map_const']

end PathMap
end Schemata
