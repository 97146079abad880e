import Schemata.Proofs.Table.Encapsulation

/-!
# Tables that agree on some files

A table reads a file and what the file includes, so two tables that hold the same for these mean
the same by every name that is written there. The set of files only has to be closed: what an
include of one of them binds stands in one of them.

**Results:**
* `Table.bindIncludes_congr`: includes bind the same if their targets are the same.
* `Table.Agree.lookup?_eq`, `Table.Agree.resolve_eq`: names and references mean the same.
* `Table.Agree.inside_of_resolve`: what they mean stands in the set.
-/
namespace Schemata
namespace Table

/-- The root of a file of the table, or why it has none. -/
def root? (t : Table) (file : Nat) : Option (Except Diagnostic (Root WrittenType)) :=
  t.files[file]?.map (·.root)

variable {t t' : Table}

/-! ## One file -/

theorem hasRoot_eq (t : Table) (file : Nat) :
    t.hasRoot file = (t.root? file).any fun root => root.isOk := by
  unfold hasRoot root?
  cases t.files[file]? <;> rfl

theorem rootStatements_eq (t : Table) (file : Nat) :
    t.rootStatements file =
      match t.root? file with
      | some (.ok root) => root.statements
      | _ => [] := by
  unfold rootStatements root?
  cases t.files[file]? with
  | none => rfl
  | some f => cases hr : f.root <;> simp [hr]

theorem hasRoot_congr {file : Nat} (h : t.root? file = t'.root? file) :
    t.hasRoot file = t'.hasRoot file := by
  rw [hasRoot_eq, hasRoot_eq, h]

theorem rootStatements_congr {file : Nat} (h : t.root? file = t'.root? file) :
    t.rootStatements file = t'.rootStatements file := by
  rw [rootStatements_eq, rootStatements_eq, h]

section Scope

variable (scope : Address) (h : t.root? scope.file = t'.root? scope.file)
include h

theorem statementsIn_congr : t.statementsIn scope = t'.statementsIn scope := by
  obtain ⟨file, path⟩ := scope
  unfold statementsIn
  induction path with
  | nil => exact rootStatements_congr h
  | cons index outer ih =>
    have houter : t.bodyAt file outer = t'.bodyAt file outer := ih h
    simp only [bodyAt, houter]

theorem statementAt?_congr : t.statementAt? scope = t'.statementAt? scope := by
  unfold statementAt?
  split
  · rfl
  · rw [statementsIn_congr scope.scope h]

theorem definitionAt?_congr : t.definitionAt? scope = t'.definitionAt? scope := by
  rw [definitionAt?, definitionAt?, statementAt?_congr scope h]

theorem typeIn?_congr (name : String) : t.typeIn? scope name = t'.typeIn? scope name := by
  have hindex : t.typeIndex? scope name = t'.typeIndex? scope name := by
    rw [typeIndex?, typeIndex?, statementsIn_congr scope h]
  have hchild : ∀ index,
      t.definitionAt? (scope.child index) = t'.definitionAt? (scope.child index) :=
    fun index => definitionAt?_congr (scope.child index) h
  simp only [typeIn?, hindex, hchild]

theorem fieldIn?_congr (name : String) : t.fieldIn? scope name = t'.fieldIn? scope name := by
  rw [fieldIn?, fieldIn?, statementsIn_congr scope h]

theorem definitionsIn_congr : t.definitionsIn scope = t'.definitionsIn scope := by
  rw [definitionsIn, definitionsIn, statementsIn_congr scope h]

end Scope

/-! ## Includes -/

section Includes

variable {i : Inclusion} (hfile : t.fileAt? i.target = t'.fileAt? i.target)
  (hroot : ∀ j, t.fileAt? i.target = some j → t.root? j = t'.root? j)
include hfile hroot

theorem includedFile_congr : t.includedFile i = t'.includedFile i := by
  unfold includedFile
  rw [← hfile]
  split
  · rfl
  · rename_i j hj
    have hsame := hroot j hj
    unfold root? at hsame
    cases hf : t.files[j]? with
    | none =>
      rw [hf, Option.map_none, eq_comm, Option.map_eq_none_iff] at hsame
      rw [hsame]
    | some f =>
      rw [hf, Option.map_some, eq_comm] at hsame
      obtain ⟨g, hg, hr⟩ := Option.map_eq_some_iff.1 hsame
      simp only [hg, hr]

theorem includeBindings_congr : t.includeBindings i = t'.includeBindings i := by
  rw [includeBindings, includeBindings, ← includedFile_congr hfile hroot]
  cases hj : t.includedFile i with
  | error d => rfl
  | ok j =>
    -- the file was found under the path, so the tables agree on it
    have hsame : t.root? j = t'.root? j := by
      refine hroot j ?_
      unfold includedFile at hj
      split at hj
      · cases hj
      · rename_i file hfound
        split at hj
        · split at hj
          · cases hj
            exact hfound
          · cases hj
        · cases hj
    have hstar : t.starBindings j i = t'.starBindings j i := by
      rw [starBindings, starBindings, definitionsIn_congr ⟨j, []⟩ hsame]
    have hitem : t.itemBinding j = t'.itemBinding j := by
      funext item
      rw [itemBinding, itemBinding, typeIn?_congr ⟨j, []⟩ hsame,
        fieldIn?_congr ⟨j, []⟩ hsame]
    simp only [bind, Except.bind, hstar, hitem]

end Includes

theorem addBindings_congr {file : Nat} (h : t.root? file = t'.root? file)
    (bound list : List Import) :
    t.addBindings file bound list = t'.addBindings file bound list := by
  induction list generalizing bound with
  | nil => rfl
  | cons i rest ih =>
    have hclash : t.clash? file bound i = t'.clash? file bound i := by
      rw [clash?, clash?, typeIn?_congr ⟨file, []⟩ h]
    rw [addBindings, addBindings, hclash]
    split
    · rfl
    · exact ih _

/-- Includes bind the same in two tables that have the same file and the same targets. -/
theorem bindIncludes_congr {file : Nat} (h : t.root? file = t'.root? file) {is : List Inclusion}
    (hfile : ∀ i ∈ is, t.fileAt? i.target = t'.fileAt? i.target)
    (hroot : ∀ i ∈ is, ∀ j, t.fileAt? i.target = some j → t.root? j = t'.root? j)
    (bound : List Import) : t.bindIncludes file bound is = t'.bindIncludes file bound is := by
  induction is generalizing bound with
  | nil => rfl
  | cons i rest ih =>
    have hfirst : t.bindInclude file bound i = t'.bindInclude file bound i := by
      rw [bindInclude, bindInclude, includeBindings_congr (hfile i List.mem_cons_self)
        (hroot i List.mem_cons_self)]
      split
      · exact addBindings_congr h bound _
      · rfl
    have hrest := ih (fun j hj => hfile j (List.mem_cons_of_mem _ hj))
      fun j hj => hroot j (List.mem_cons_of_mem _ hj)
    simp only [bindIncludes, hfirst, hrest]

/-! ## Files of members -/

theorem scope_of_fieldIn? {scope : Address} {name : String} {f : Field}
    (h : t.fieldIn? scope name = some f) : f.scope = scope := by
  obtain ⟨s, -, hf⟩ := Option.bind_eq_some_iff.1 h
  unfold Field.ofStatement? at hf
  split at hf
  · split at hf
    · cases hf
      rfl
    · cases hf
  · cases hf

theorem file_of_memberType? {d next : Definition} {name : String}
    (h : t.memberType? d name = some next) : next.address.file = d.address.file := by
  unfold memberType? at h
  split at h
  · exact file_of_typeIn? h
  · cases h

/-- Names behind a definition do not lead out of its file. -/
theorem file_of_resolveRest {isElement : Bool} {d : Definition} {names : List Identifier}
    {target : ReferenceTarget} (h : t.resolveRest isElement d names = .ok target) :
    target.file = d.address.file := by
  induction names generalizing d with
  | nil =>
    cases h
    rfl
  | cons name rest ih =>
    rw [resolveRest] at h
    split at h
    · cases h
    · split at h
      · split at h
        · rename_i f hf
          obtain ⟨-, -, h⟩ := bind_eq_ok_iff.1 h
          cases h
          unfold memberField? at hf
          split at hf
          · rw [ReferenceTarget.file, scope_of_fieldIn? hf]
          · cases hf
        · cases h
      · split at h
        · rename_i next hnext
          obtain ⟨-, -, h⟩ := bind_eq_ok_iff.1 h
          rw [ih h, file_of_memberType? hnext]
        · cases h

/-! ## Tables that agree -/

/-- The tables say the same about each file of a set. What includes of these files bind stands in
the set, and so does what has an id of one of them. -/
structure Agree (inside : Nat → Prop) (t t' : Table) : Prop where
  root : ∀ file, inside file → t.root? file = t'.root? file
  imports : ∀ file, inside file → t.importsOf file = t'.importsOf file
  fault : ∀ file, inside file → t.includeFault? file = t'.includeFault? file
  closed : ∀ file, inside file → ∀ i ∈ t.importsOf file, inside i.target.file
  home : ∀ d, t.Holds d → d.id.file = d.address.file
  definition : ∀ id, inside id.file → t.definitionOf? id = t'.definitionOf? id

namespace Agree

variable {inside : Nat → Prop} (h : Agree inside t t')
include h

theorem imported?_eq {file : Nat} (hs : inside file) (name : String) :
    t.imported? file name = t'.imported? file name := by
  rw [imported?, imported?, ← h.imports file hs]
  cases hi : (t.importsOf file).find? (·.name == name) with
  | none => rfl
  | some i =>
    exact definitionAt?_congr _ (h.root _ (h.closed file hs i (List.mem_of_find?_eq_some hi)))

/-- A name means the same in a scope of the set. -/
theorem lookup?_eq {scope : Address} (hs : inside scope.file) (name : String) :
    t.lookup? scope name = t'.lookup? scope name := by
  obtain ⟨file, path⟩ := scope
  have htype : ∀ path, t.typeIn? ⟨file, path⟩ name = t'.typeIn? ⟨file, path⟩ name :=
    fun path => typeIn?_congr ⟨file, path⟩ (h.root file hs) name
  unfold lookup?
  induction path with
  | nil => simp only [lookupFrom, htype, h.imported?_eq hs]
  | cons index outer ih =>
    have houter : t.lookupFrom file name outer = t'.lookupFrom file name outer := ih hs
    simp only [lookupFrom, htype, houter]

/-- What a name means in a scope of the set stands in the set. -/
theorem inside_of_lookup? {scope : Address} (hs : inside scope.file) {name : String}
    {d : Definition} (hd : t.lookup? scope name = some d) : inside d.address.file := by
  obtain ⟨file, path⟩ := scope
  induction path with
  | nil =>
    rw [lookup?_root] at hd
    rcases orElse_eq_some_iff.1 hd with hd | ⟨-, hd⟩
    · rw [file_of_typeIn? hd]
      exact hs
    · obtain ⟨i, hi, hd⟩ := Option.bind_eq_some_iff.1 hd
      obtain ⟨_, -, hof⟩ := Option.bind_eq_some_iff.1 hd
      rw [address_ofStatement? hof]
      exact h.closed file hs i (List.mem_of_find?_eq_some hi)
  | cons index outer ih =>
    rcases orElse_eq_some_iff.1 hd with hd | ⟨-, hd⟩
    · rw [file_of_typeIn? hd]
      exact hs
    · exact ih hs hd

theorem resolveRest_eq {isElement : Bool} {d : Definition} (hs : inside d.address.file)
    (names : List Identifier) :
    t.resolveRest isElement d names = t'.resolveRest isElement d names := by
  induction names generalizing d with
  | nil => rfl
  | cons name rest ih =>
    have hfield : t.memberField? d name.name = t'.memberField? d name.name := by
      rw [memberField?, memberField?, fieldIn?_congr _ (h.root _ hs)]
    have htype : t.memberType? d name.name = t'.memberType? d name.name := by
      rw [memberType?, memberType?, typeIn?_congr _ (h.root _ hs)]
    rw [resolveRest, resolveRest, hfield, htype]
    split
    · rfl
    · split
      · rfl
      · split
        · rename_i next hnext
          rw [← htype] at hnext
          have hsame : t.resolveRest isElement next rest = t'.resolveRest isElement next rest := by
            refine ih ?_
            rw [file_of_memberType? hnext]
            exact hs
          rw [hsame]
        · rfl

theorem inside_of_resolveFirst {reader : Nat} {scope : Address} (hs : inside scope.file)
    {name : Identifier} {d : Definition}
    (hd : t.resolveFirst reader scope false name = .ok d) : inside d.address.file := by
  unfold resolveFirst at hd
  split at hd
  · rename_i heq
    cases hd
    exact h.inside_of_lookup? hs heq
  · cases hd

/-- A reference that is not global means the same in a scope of the set. -/
theorem resolve_eq {reader : Nat} {r : Reference} (hlocal : r.isGlobal = false) (range : Range)
    {scope : Address} (hs : inside scope.file) :
    t.resolve reader r range scope = t'.resolve reader r range scope := by
  unfold resolve
  rw [hlocal]
  split
  · rfl
  · rename_i first rest hseg
    have hfirst : t.resolveFirst reader scope false first =
        t'.resolveFirst reader scope false first := by
      simp only [resolveFirst, h.lookup?_eq hs]
      split <;> rfl
    rw [← hfirst]
    cases hd : t.resolveFirst reader scope false first with
    | error e => rfl
    | ok d => exact h.resolveRest_eq (h.inside_of_resolveFirst hs hd) rest

/-- What a reference means in a scope of the set stands in the set, unless it is global. -/
theorem inside_of_resolve {reader : Nat} {r : Reference} (hlocal : r.isGlobal = false)
    {range : Range} {scope : Address} (hs : inside scope.file) {target : ReferenceTarget}
    (hr : t.resolve reader r range scope = .ok target) : inside target.file := by
  unfold resolve at hr
  split at hr
  · cases hr
  · obtain ⟨d, hd, hrest⟩ := bind_eq_ok_iff.1 hr
    rw [hlocal] at hd
    rw [file_of_resolveRest hrest]
    exact h.inside_of_resolveFirst hs hd

end Agree

end Table
end Schemata
