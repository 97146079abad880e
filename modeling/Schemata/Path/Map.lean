import Schemata.Path

/-!
# Maps keyed by paths

A map from paths to values, in the order of its keys. Keys that are the same path are one key, which
keeps its first spelling.

Results: `PathMap.get?_insert_self`.
-/
namespace Schemata

/-- Entries in the order of their keys. -/
structure PathMap (α : Type) where
  entries : List (Path × α)
  deriving Inhabited

namespace PathMap
variable {α : Type}

/-- The map without entries. -/
def empty : PathMap α := ⟨[]⟩

/-- Puts a value at its place among ordered entries. -/
def insertEntry (key : Path) (value : α) : List (Path × α) → List (Path × α)
  | [] => [(key, value)]
  | (k, v) :: rest =>
    match compare key k with
    | .lt => (key, value) :: (k, v) :: rest
    | .eq => (k, value) :: rest
    | .gt => (k, v) :: insertEntry key value rest

/-- The map with a value for a key, in the place of the one it had. -/
def insert (m : PathMap α) (key : Path) (value : α) : PathMap α :=
  ⟨insertEntry key value m.entries⟩

/-- The value of a key. -/
def get? (m : PathMap α) (key : Path) : Option α :=
  (m.entries.find? fun (k, _) => compare key k == .eq).map (·.2)

/-- The map with the value of a key changed; a missing value counts as `default`. -/
def update (m : PathMap α) (key : Path) (default : α) (f : α → α) : PathMap α :=
  m.insert key (f ((m.get? key).getD default))

/-- The number of keys. -/
def size (m : PathMap α) : Nat := m.entries.length

/-- The values in the order of their keys. -/
def values (m : PathMap α) : List α := m.entries.map (·.2)

/-- What was put under a key is found there. -/
theorem get?_insert_self (m : PathMap α) (key : Path) (value : α)
    (self : compare key key = .eq) : (m.insert key value).get? key = some value := by
  obtain ⟨entries⟩ := m
  simp only [insert, get?]
  induction entries with
  | nil => simp [insertEntry, self]
  | cons e rest ih =>
    obtain ⟨k, v⟩ := e
    rw [insertEntry]
    split
    · simp [self]
    · rename_i h
      simp [h]
    · rename_i h
      rw [List.find?_cons_of_neg (by simp [h])]
      exact ih

end PathMap
end Schemata
