import Schemata.Proofs.Build.Names
import Schemata.Proofs.Table.Identity

/-!
# Bodies and what they define

A scope leads to a body: the root of a file, or the children of a structure. What a body defines
under a name is read off its statements. The table answers for a scope with exactly that, since no
name is brought into a body of a built file twice.

Results:
* `Table.statementsIn_of_isBody`: the table has the statements of every body.
* `Table.isBody_of_mem`, `Table.Holds.isBody`: the scopes in which statements of the table stand,
  and the addresses of its structures, lead to bodies.
* `Table.typeIn?_eq_some_iff`, `Table.fieldIn?_eq_some_iff`: the types and the fields that the table
  finds in a scope are those that its body defines.
-/
namespace Schemata

/-- The statements of the body that a scope among parsed files leads to. -/
inductive IsBody (files : List ParsedFile) : Address → List (Statement WrittenType) → Prop where
  /-- The root of a file. -/
  | root {file : Nat} {f : ParsedFile} {root : Root WrittenType} (hf : files[file]? = some f)
      (hr : f.root = .ok root) : IsBody files ⟨file, []⟩ root.statements
  /-- The children of a structure in another body. -/
  | children {scope : Address} {ss : List (Statement WrittenType)} {index : Nat} {id : ElementId}
      {range : Range} {name : Identifier} {bases : List WrittenType} {metadata : Option Metadata}
      {children : List (Statement WrittenType)} (outer : IsBody files scope ss)
      (hs : ss[index]? = some (.struct id range name bases metadata children)) :
      IsBody files (scope.child index) children

/-- A body itself defines a structure or an alias under a name, markers left out. -/
inductive DefinesType (files : List ParsedFile) (scope : Address) (name : String)
    (d : Definition) : Prop where
  | intro {ss : List (Statement WrittenType)} {index : Nat} {s : Statement WrittenType}
      (body : IsBody files scope ss) (hs : ss[index]? = some s)
      (hd : Definition.ofStatement? (scope.child index) s = some d) (hn : d.name.name = name) :
      DefinesType files scope name d

theorem DefinesType.name_eq {files : List ParsedFile} {scope : Address} {name : String}
    {d : Definition} (h : DefinesType files scope name d) : d.name.name = name := by
  cases h with
  | intro _ _ _ hn => exact hn

/-- A body itself defines a field under a name, markers left out. -/
inductive DefinesField (files : List ParsedFile) (scope : Address) (name : String)
    (f : Field) : Prop where
  | intro {ss : List (Statement WrittenType)} {s : Statement WrittenType}
      (body : IsBody files scope ss) (hs : s ∈ ss) (hf : Field.ofStatement? scope s = some f)
      (hn : f.name.name = name) : DefinesField files scope name f

namespace Table

/-- The table has the statements of the given files. -/
def Shows (t : Table) (files : List ParsedFile) : Prop :=
  ∀ file, t.rootStatements file = parsedStatements files file

theorem shows_declare (files : List ParsedFile) : (declare files).Shows files :=
  rootStatements_declare files

theorem shows_ofFiles (files : List ParsedFile) : (ofFiles files).Shows files :=
  rootStatements_ofFiles files

variable {t : Table} {files : List ParsedFile} {scope : Address}
  {ss : List (Statement WrittenType)} {name : String}

/-- The table has the statements of every body. -/
theorem statementsIn_of_isBody (ht : t.Shows files) (h : IsBody files scope ss) :
    t.statementsIn scope = ss := by
  induction h with
  | root hf hr =>
    show t.rootStatements _ = _
    rw [ht, parsedStatements, hf]
    simp only [hr]
  | children _ hs ih =>
    rw [← ih] at hs
    exact statementsIn_child hs

/-- A scope in which a statement of the table stands leads to a body. -/
theorem isBody_of_mem (ht : t.Shows files) {a : Address} {s : Statement WrittenType}
    (h : s ∈ t.statementsIn a) : IsBody files a (t.statementsIn a) := by
  obtain ⟨file, path⟩ := a
  induction path generalizing s with
  | nil =>
    have hroot : t.statementsIn ⟨file, []⟩ = parsedStatements files file := ht file
    rw [hroot] at h ⊢
    unfold parsedStatements at h ⊢
    cases hf : files[file]? with
    | none => rw [hf] at h; cases h
    | some f =>
      rw [hf] at h
      cases hr : f.root with
      | error e => simp only [hr] at h; cases h
      | ok root =>
        simp only [hr]
        exact .root hf hr
  | cons index outer ih =>
    simp only [statementsIn, bodyAt] at h ⊢
    split at h
    · rename_i hs
      exact .children (ih (List.mem_of_getElem? hs)) hs
    · cases h

/-- The address of a structure of the table leads to a body. -/
theorem Holds.isBody (ht : t.Shows files) {d : Definition} (h : t.Holds d)
    (hd : d.isStruct = true) : IsBody files d.address (t.statementsIn d.address) := by
  have h := holds_iff.1 h
  obtain ⟨s, hs, hsd⟩ := Option.bind_eq_some_iff.1 h
  cases s with
  | struct id range name bases metadata children =>
    rw [statementsIn_of_statementAt? hs]
    generalize d.address = a at hs
    obtain ⟨file, path⟩ := a
    cases path with
    | nil => cases hs
    | cons index outer =>
      have hs : (t.statementsIn ⟨file, outer⟩)[index]? = some _ := hs
      exact .children (isBody_of_mem ht (List.mem_of_getElem? hs)) hs
  | item id range name type =>
    rw [Definition.ofStatement?] at hsd
    split at hsd
    · injection hsd with hsd
      rw [← hsd] at hd
      cases hd
    · cases hsd
  | extension | inclusion => cases hsd

/-- The statements of a file are in the table. -/
theorem addressedIn_root_subset {file : Nat} {f : ParsedFile} {root : Root WrittenType}
    (hf : files[file]? = some f) (hr : f.root = .ok root) :
    addressedIn ⟨file, []⟩ 0 root.statements ⊆ (ofFiles files).allStatements := by
  rw [← statementsIn_of_isBody (shows_ofFiles files) (.root hf hr)]
  exact fun x hx => addressedIn_bodyAt_subset (ofFiles files) file [] x hx

theorem accepted_of_isBody (hb : EachBuilt files) (h : IsBody files scope ss) :
    Build.Accepted ss := by
  induction h with
  | root hf hr =>
    obtain ⟨_, _, hs⟩ := hb _ (List.mem_of_getElem? hf) _ hr
    exact Build.accepted_of_root hs
  | children _ hs ih => exact ih.children (List.mem_of_getElem? hs)

/-! ## What a statement defines -/

theorem ofStatement?_name {a : Address} {s : Statement WrittenType} {d : Definition}
    (h : Definition.ofStatement? a s = some d) :
    s.definesType = true ∧ s.definedName? = some d.name := by
  unfold Definition.ofStatement? at h
  split at h
  · split at h
    · rename_i hn
      injection h with h
      subst h
      exact ⟨hn, rfl⟩
    · cases h
  · injection h with h
    subst h
    exact ⟨rfl, rfl⟩
  · cases h

theorem fieldOfStatement?_name {a : Address} {s : Statement WrittenType} {f : Field}
    (h : Field.ofStatement? a s = some f) :
    s.isField = true ∧ s.definedName? = some f.name := by
  unfold Field.ofStatement? at h
  split at h
  · split at h
    · rename_i hn
      injection h with h
      subst h
      exact ⟨hn, rfl⟩
    · cases h
  · cases h

/-- A statement of a body that is found by a name is the one that defines it. -/
theorem index_eq_of_any (hb : EachBuilt files) (body : IsBody files scope ss) {i j : Nat}
    {s u : Statement WrittenType} {n : Identifier} (hi : ss[i]? = some s)
    (hs : s.definedName?.any (·.name == name) = true) (hj : ss[j]? = some u)
    (hu : u.definedName? = some n) (hn : n.name = name) : i = j := by
  obtain ⟨m, hm, hq⟩ := (Option.any_eq_true _ _).1 hs
  refine (accepted_of_isBody hb body).index_eq hi hj (Build.mem_scopeNames_of_definedName? hm)
    (Build.mem_scopeNames_of_definedName? hu) ?_
  rw [hn, eq_of_beq hq]

/-! ## What the table finds in a scope -/

theorem definesType_of_typeIn? (ht : t.Shows files) {d : Definition}
    (h : t.typeIn? scope name = some d) : DefinesType files scope name d := by
  obtain ⟨index, hi, hd⟩ := Option.bind_eq_some_iff.1 h
  rw [definitionAt?_child] at hd
  obtain ⟨s, hs, hd⟩ := Option.bind_eq_some_iff.1 hd
  obtain ⟨hlt, hp, -⟩ := List.findIdx?_eq_some_iff_getElem.1 hi
  have body := isBody_of_mem ht (List.mem_of_getElem? hs)
  obtain ⟨_, rfl⟩ := List.getElem?_eq_some_iff.1 hs
  rw [(ofStatement?_name hd).2] at hp
  exact ⟨body, hs, hd, by simpa using (Bool.and_eq_true_iff.1 hp).2⟩

theorem definesField_of_fieldIn? (ht : t.Shows files) {f : Field}
    (h : t.fieldIn? scope name = some f) : DefinesField files scope name f := by
  obtain ⟨s, hs, hf⟩ := Option.bind_eq_some_iff.1 h
  have hp := List.find?_some hs
  have hm := List.mem_of_find?_eq_some hs
  rw [(fieldOfStatement?_name hf).2] at hp
  exact ⟨isBody_of_mem ht hm, hm, hf, by simpa using (Bool.and_eq_true_iff.1 hp).2⟩

/-- The types that the table finds in a scope are those that its body defines. -/
theorem typeIn?_eq_some_iff (hb : EachBuilt files) (ht : t.Shows files)
    (body : IsBody files scope ss) {d : Definition} :
    t.typeIn? scope name = some d ↔ DefinesType files scope name d := by
  refine ⟨definesType_of_typeIn? ht, ?_⟩
  rintro ⟨body', hs, hd, hn⟩
  rename_i ss' index s
  have heq : ss' = ss := by
    rw [← statementsIn_of_isBody ht body, ← statementsIn_of_isBody ht body']
  subst heq
  obtain ⟨htype, hname⟩ := ofStatement?_name hd
  have hp : (s.definesType && s.definedName?.any (·.name == name)) = true := by
    simp [htype, hname, hn]
  cases hfind : t.typeIndex? scope name with
  | none =>
    rw [typeIndex?, statementsIn_of_isBody ht body, List.findIdx?_eq_none_iff] at hfind
    exact absurd hp (by simp [hfind s (List.mem_of_getElem? hs)])
  | some found =>
    -- the statement that is found first is the only one of the name
    have hfound := hfind
    rw [typeIndex?, statementsIn_of_isBody ht body] at hfind
    obtain ⟨hlt, hq, -⟩ := List.findIdx?_eq_some_iff_getElem.1 hfind
    have : found = index :=
      index_eq_of_any hb body (List.getElem?_eq_getElem hlt) (Bool.and_eq_true_iff.1 hq).2 hs hname
        hn
    rw [typeIn?, hfound, Option.bind_some, this, definitionAt?_child,
      statementsIn_of_isBody ht body, hs]
    exact hd

theorem typeIn?_eq_none_iff (hb : EachBuilt files) (ht : t.Shows files)
    (body : IsBody files scope ss) :
    t.typeIn? scope name = none ↔ ∀ d, ¬ DefinesType files scope name d := by
  simp only [← typeIn?_eq_some_iff hb ht body]
  cases t.typeIn? scope name <;> simp

/-- The fields that the table finds in a scope are those that its body defines. -/
theorem fieldIn?_eq_some_iff (hb : EachBuilt files) (ht : t.Shows files)
    (body : IsBody files scope ss) {f : Field} :
    t.fieldIn? scope name = some f ↔ DefinesField files scope name f := by
  constructor
  · exact definesField_of_fieldIn? ht
  · rintro ⟨body', hs, hf, hn⟩
    rename_i ss' s
    have heq : ss' = ss := by
      rw [← statementsIn_of_isBody ht body, ← statementsIn_of_isBody ht body']
    subst heq
    obtain ⟨hfield, hname⟩ := fieldOfStatement?_name hf
    have hp : (s.isField && s.definedName?.any (·.name == name)) = true := by
      simp [hfield, hname, hn]
    rw [fieldIn?, statementsIn_of_isBody ht body]
    cases hfind : ss'.find? fun s => s.isField && s.definedName?.any (·.name == name) with
    | none => exact absurd hp (by simpa using List.find?_eq_none.1 hfind s hs)
    | some found =>
      have hq := List.find?_some hfind
      obtain ⟨i, hi⟩ := List.mem_iff_getElem?.1 (List.mem_of_find?_eq_some hfind)
      obtain ⟨j, hj⟩ := List.mem_iff_getElem?.1 hs
      obtain rfl : i = j := index_eq_of_any hb body hi (Bool.and_eq_true_iff.1 hq).2 hj hname hn
      rw [hi, Option.some.injEq] at hj
      rw [Option.bind_some, hj, hf]

end Table
end Schemata
