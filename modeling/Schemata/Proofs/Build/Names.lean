import Schemata.Build
import Schemata.Outcome
import Mathlib.Data.List.Nodup

/-!
# The names of a built file

In every body of a built file, the root and the children of structures at any depth, each name is
brought into scope by one statement only.

Results:
* `Build.Accepted.children`: a body of an accepted body is accepted.
* `Build.Accepted.index_eq`: two statements of an accepted body that bring in the same name are one.
-/
namespace Schemata
namespace Build

/-- Statements that were built together and passed the check of their names. -/
def Accepted (ss : List (Statement WrittenType)) : Prop :=
  ∃ target number atRoot source, statements target number atRoot source = .ok ss ∧
    checkUniqueNames ss = .ok ()

theorem accepted_of_root {target : BuildTarget} {source : List Source.Statement}
    {r : Root WrittenType} (h : root target source = .ok r) : Accepted r.statements := by
  obtain ⟨_, -, h⟩ := bind_eq_ok_iff.1 h
  obtain ⟨ss, hs, h⟩ := bind_eq_ok_iff.1 h
  obtain ⟨u, hu, h⟩ := bind_eq_ok_iff.1 h
  injection h with h
  subst h
  exact ⟨target, 1, true, source, hs, hu⟩

theorem exists_source_of_mem {target : BuildTarget} {number : Nat} {atRoot : Bool}
    {source : List Source.Statement} {ss : List (Statement WrittenType)}
    (h : statements target number atRoot source = .ok ss) {s : Statement WrittenType}
    (hs : s ∈ ss) : ∃ n src, src ∈ source ∧ statement target n atRoot src = .ok s := by
  induction source generalizing number ss with
  | nil =>
    injection h with h
    subst h
    cases hs
  | cons src rest ih =>
    obtain ⟨first, hf, h⟩ := bind_eq_ok_iff.1 h
    obtain ⟨later, hl, h⟩ := bind_eq_ok_iff.1 h
    injection h with h
    subst h
    rcases List.mem_cons.1 hs with rfl | hs
    · exact ⟨number, src, List.mem_cons_self, hf⟩
    · obtain ⟨n, src', hm, hb⟩ := ih hl hs
      exact ⟨n, src', List.mem_cons_of_mem _ hm, hb⟩

/-- A body of an accepted body is accepted. -/
theorem Accepted.children {ss : List (Statement WrittenType)} (h : Accepted ss) {id : ElementId}
    {range : Range} {name : Identifier} {bases : List WrittenType} {metadata : Option Metadata}
    {children : List (Statement WrittenType)}
    (hs : .struct id range name bases metadata children ∈ ss) : Accepted children := by
  obtain ⟨target, number, atRoot, source, hb, -⟩ := h
  obtain ⟨n, src, -, h⟩ := exists_source_of_mem hb hs
  cases src with
  | struct span sname sbases m schildren =>
    obtain ⟨_, -, h⟩ := bind_eq_ok_iff.1 h
    obtain ⟨_, -, h⟩ := bind_eq_ok_iff.1 h
    obtain ⟨_, -, h⟩ := bind_eq_ok_iff.1 h
    obtain ⟨_, -, h⟩ := bind_eq_ok_iff.1 h
    obtain ⟨built, hbuilt, h⟩ := bind_eq_ok_iff.1 h
    obtain ⟨_, hu, h⟩ := bind_eq_ok_iff.1 h
    injection h with h
    injection h with _ _ _ _ _ h
    exact ⟨_, _, _, _, h ▸ hbuilt, h ▸ hu⟩
  | item span sname e =>
    obtain ⟨_, -, h⟩ := bind_eq_ok_iff.1 h
    obtain ⟨_, -, h⟩ := bind_eq_ok_iff.1 h
    obtain ⟨_, -, h⟩ := bind_eq_ok_iff.1 h
    cases h
  | extension span sname arguments named =>
    obtain ⟨_, -, h⟩ := bind_eq_ok_iff.1 h
    obtain ⟨_, -, h⟩ := bind_eq_ok_iff.1 h
    cases h
  | inclusion span filenameSpan filename items =>
    obtain ⟨_, -, h⟩ := bind_eq_ok_iff.1 h
    cases atRoot with
    | true =>
      obtain ⟨_, -, h⟩ := bind_eq_ok_iff.1 h
      cases h
    | false => cases h
  | root span inner =>
    obtain ⟨_, -, h⟩ := bind_eq_ok_iff.1 h
    cases h

theorem mem_scopeNames_of_definedName? {s : Statement WrittenType} {n : Identifier}
    (h : s.definedName? = some n) : n ∈ s.scopeNames := by
  cases s with
  | item | struct | extension => simpa [Statement.scopeNames] using h
  | inclusion => cases h

/-- Two statements of an accepted body that bring in the same name are one. -/
theorem Accepted.index_eq {ss : List (Statement WrittenType)} (h : Accepted ss) {i j : Nat}
    {s u : Statement WrittenType} (hi : ss[i]? = some s) (hj : ss[j]? = some u) {n m : Identifier}
    (hn : n ∈ s.scopeNames) (hm : m ∈ u.scopeNames) (hnm : n.name = m.name) : i = j := by
  obtain ⟨-, -, -, -, -, h⟩ := h
  rw [checkUniqueNames_eq_ok_iff, List.map_flatMap, List.nodup_flatMap] at h
  have hp := List.pairwise_iff_getElem.1 h.2
  obtain ⟨hi', rfl⟩ := List.getElem?_eq_some_iff.1 hi
  obtain ⟨hj', rfl⟩ := List.getElem?_eq_some_iff.1 hj
  have hs := List.mem_map_of_mem (f := Identifier.name) hn
  have hu := List.mem_map_of_mem (f := Identifier.name) hm
  rcases Nat.lt_trichotomy i j with hlt | rfl | hlt
  · exact absurd (hnm ▸ hu) (hp i j hi' hj' hlt hs)
  · rfl
  · exact absurd (hnm ▸ hu) (fun hu => hp j i hj' hi' hlt (hnm ▸ hu) hs)

end Build
end Schemata
