import Schemata.Table.Resolve

/-!
# Addresses and statements

An address leads to at most one statement, and the statements of a table are exactly what its
addresses lead to. A definition is therefore known by its address.

Results:
* `Table.mem_allStatements_iff`: the statements of the table are those that addresses lead to.
* `Table.holds_iff`: a definition of the table is the one at its address.
-/
namespace Schemata
namespace Table

theorem statementsIn_child {t : Table} {a : Address} {index : Nat} {id : ElementId} {range : Range}
    {name : Identifier} {bases : List WrittenType} {metadata : Option Metadata}
    {children : List (Statement WrittenType)}
    (h : (t.statementsIn a)[index]? = some (.struct id range name bases metadata children)) :
    t.statementsIn (a.child index) = children := by
  obtain ⟨file, path⟩ := a
  simp only [statementsIn, Address.child, bodyAt] at h ⊢
  rw [h]

theorem statementAt?_child (t : Table) (a : Address) (index : Nat) :
    t.statementAt? (a.child index) = (t.statementsIn a)[index]? := rfl

theorem definitionAt?_child (t : Table) (a : Address) (index : Nat) :
    t.definitionAt? (a.child index) =
      ((t.statementsIn a)[index]?).bind (Definition.ofStatement? (a.child index)) := rfl

/-- The body that the address of a structure leads to holds its children. -/
theorem statementsIn_of_statementAt? {t : Table} {a : Address} {id : ElementId} {range : Range}
    {name : Identifier} {bases : List WrittenType} {metadata : Option Metadata}
    {children : List (Statement WrittenType)}
    (h : t.statementAt? a = some (.struct id range name bases metadata children)) :
    t.statementsIn a = children := by
  obtain ⟨file, path⟩ := a
  cases path with
  | nil => simp [statementAt?] at h
  | cons index outer => exact statementsIn_child (a := ⟨file, outer⟩) h

mutual

theorem file_of_mem_addressed (a : Address) (s : Statement WrittenType) :
    ∀ x ∈ addressed a s, x.1.file = a.file := by
  intro x hx
  cases s with
  | struct id range name bases metadata children =>
    rw [addressed] at hx
    rcases List.mem_cons.1 hx with rfl | hx
    · rfl
    · exact file_of_mem_addressedIn a 0 children x hx
  | item | extension | inclusion =>
    rw [addressed, List.mem_singleton] at hx
    · rw [hx]
    · nofun

/-- Addresses do not lead out of their file. -/
theorem file_of_mem_addressedIn (scope : Address) (first : Nat)
    (ss : List (Statement WrittenType)) :
    ∀ x ∈ addressedIn scope first ss, x.1.file = scope.file := by
  intro x hx
  match ss with
  | [] => cases hx
  | s :: rest =>
    rw [addressedIn, List.mem_append] at hx
    rcases hx with hx | hx
    · exact file_of_mem_addressed (scope.child first) s x hx
    · exact file_of_mem_addressedIn scope (first + 1) rest x hx

end

mutual

theorem statementAt?_of_mem_addressed {t : Table} {a : Address} {s : Statement WrittenType}
    (h : t.statementAt? a = some s) :
    ∀ x ∈ addressed a s, t.statementAt? x.1 = some x.2 := by
  intro x hx
  cases s with
  | struct id range name bases metadata children =>
    rw [addressed] at hx
    rcases List.mem_cons.1 hx with rfl | hx
    · exact h
    · refine statementAt?_of_mem_addressedIn children (fun i s hs => ?_) x hx
      rwa [Nat.zero_add, statementsIn_of_statementAt? h]
  | item | extension | inclusion =>
    simp only [addressed, List.mem_singleton] at hx
    subst hx
    exact h

/-- Statements that stand in a scope from a position on are found at the addresses that they are
listed with. -/
theorem statementAt?_of_mem_addressedIn {t : Table} {scope : Address} {first : Nat}
    (ss : List (Statement WrittenType))
    (h : ∀ i s, ss[i]? = some s → (t.statementsIn scope)[first + i]? = some s) :
    ∀ x ∈ addressedIn scope first ss, t.statementAt? x.1 = some x.2 := by
  intro x hx
  match ss with
  | [] => simp [addressedIn] at hx
  | s :: rest =>
    rw [addressedIn, List.mem_append] at hx
    rcases hx with hx | hx
    · refine statementAt?_of_mem_addressed (s := s) ?_ x hx
      rw [statementAt?_child]
      exact h 0 s rfl
    · refine statementAt?_of_mem_addressedIn rest (fun i s hs => ?_) x hx
      have := h (i + 1) s hs
      rwa [show first + (i + 1) = first + 1 + i by omega] at this

end

/-- The statements of the table are those that addresses lead to. -/
theorem mem_allStatements_iff {t : Table} {a : Address} {s : Statement WrittenType} :
    (a, s) ∈ t.allStatements ↔ t.statementAt? a = some s := by
  constructor
  · intro h
    obtain ⟨file, -, h⟩ := List.mem_flatMap.1 h
    refine statementAt?_of_mem_addressedIn _ (fun i s hs => ?_) _ h
    rwa [Nat.zero_add]
  · exact statementAt?_mem

/-- A definition of the table is the one at its address. -/
theorem holds_iff {t : Table} {d : Definition} :
    t.Holds d ↔ t.definitionAt? d.address = some d := by
  constructor
  · rintro ⟨s, hs, hd⟩
    rw [definitionAt?, mem_allStatements_iff.1 hs]
    exact hd
  · exact holds_of_definitionAt?

theorem Holds.eq_of_address {t : Table} {d e : Definition} (hd : t.Holds d) (he : t.Holds e)
    (h : d.address = e.address) : d = e := by
  have hd := holds_iff.1 hd
  rw [h, holds_iff.1 he, Option.some.injEq] at hd
  exact hd.symm

end Table
end Schemata
