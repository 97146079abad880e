import Schemata.Proofs.Build.Numbering
import Schemata.Proofs.Table.Address
import Mathlib.Data.List.Nodup

/-!
# Identity of statements

When the file at each place of a list was built with the place as its ordinal, no two statements of
the table share an id. So an id stands for one statement, wherever it is kept: on a trail, in a
handle, or in a result.

Results:
* `Table.eq_of_id`: statements of the table with the same id are the same.
* `Table.definitionOf?_eq_some_iff`: an id leads to the definition that has it.
-/
namespace Schemata

/-- Each file that has a root was built as the file of its place. -/
def BuiltInOrder (files : List ParsedFile) : Prop :=
  ∀ (file : Nat) (f : ParsedFile) (root : Root WrittenType), files[file]? = some f →
    f.root = .ok root → ∃ source, Build.root ⟨f.path, file⟩ source = .ok root

/-- Each file that has a root was built. -/
def EachBuilt (files : List ParsedFile) : Prop :=
  ∀ f ∈ files, ∀ root, f.root = .ok root → ∃ target source, Build.root target source = .ok root

theorem BuiltInOrder.each {files : List ParsedFile} (h : BuiltInOrder files) : EachBuilt files := by
  intro f hf root hr
  obtain ⟨file, hfile⟩ := List.mem_iff_getElem?.1 hf
  exact ⟨_, h file f root hfile hr⟩

/-- The files of the given sources, each built as the file of its place. -/
def parseInOrder (sources : List (Path × List Source.Statement)) : List ParsedFile :=
  sources.zipIdx.map fun ((path, source), file) => ⟨path, Build.root ⟨path, file⟩ source⟩

theorem builtInOrder_parseInOrder (sources : List (Path × List Source.Statement)) :
    BuiltInOrder (parseInOrder sources) := by
  intro file f root hf hr
  simp only [parseInOrder, List.getElem?_map, List.getElem?_zipIdx, Option.map_map,
    Option.map_eq_some_iff] at hf
  obtain ⟨⟨path, source⟩, -, rfl⟩ := hf
  exact ⟨source, by simpa using hr⟩

/-- If the entries of a list are apart, only one place of it holds what is like an entry. -/
theorem index_eq_of_pairwise {α : Type} {like : α → α → Bool} {l : List α}
    (hsymm : ∀ a b, like a b = true → like b a = true)
    (h : l.Pairwise fun a b => like a b = false) {i j : Nat} {a b : α} (ha : l[i]? = some a)
    (hb : l[j]? = some b) (hab : like a b = true) : i = j := by
  obtain ⟨hi, rfl⟩ := List.getElem?_eq_some_iff.1 ha
  obtain ⟨hj, rfl⟩ := List.getElem?_eq_some_iff.1 hb
  have hapart := List.pairwise_iff_getElem.1 h
  rcases Nat.lt_trichotomy i j with hlt | heq | hgt
  · rw [hapart i j hi hj hlt] at hab
    cases hab
  · exact heq
  · have hba := hsymm _ _ hab
    rw [hapart j i hj hi hgt] at hba
    cases hba

namespace Table

/-! ## Files of a table -/

theorem bindFile_root (t : Table) (file : Nat) (f : TableFile) :
    (t.bindFile file f).root = f.root := by
  unfold bindFile
  split <;> rfl

theorem getElem?_declare (files : List ParsedFile) (file : Nat) :
    (declare files).files[file]? = files[file]?.map fun f => ⟨f.path, f.root, [], none⟩ := by
  simp [declare]

theorem getElem?_ofFiles (files : List ParsedFile) (file : Nat) :
    (ofFiles files).files[file]? =
      files[file]?.map fun f => (declare files).bindFile file ⟨f.path, f.root, [], none⟩ := by
  simp only [ofFiles, List.getElem?_map, List.getElem?_zipIdx, getElem?_declare, Option.map_map]
  cases files[file]? <;> simp

/-- The statements of a file among parsed ones. -/
def parsedStatements (files : List ParsedFile) (file : Nat) : List (Statement WrittenType) :=
  match files[file]? with
  | some f => match f.root with
    | .ok root => root.statements
    | .error _ => []
  | none => []

theorem rootStatements_declare (files : List ParsedFile) (file : Nat) :
    (declare files).rootStatements file = parsedStatements files file := by
  unfold rootStatements parsedStatements
  rw [getElem?_declare]
  cases files[file]? <;> rfl

theorem rootStatements_ofFiles (files : List ParsedFile) (file : Nat) :
    (ofFiles files).rootStatements file = parsedStatements files file := by
  unfold rootStatements parsedStatements
  rw [getElem?_ofFiles]
  cases files[file]? with
  | none => rfl
  | some f =>
    cases hr : f.root <;> simp only [Option.map_some, bindFile_root, hr]

/-! ## Distinct ids -/

mutual

theorem ids_addressed_sublist (a : Address) (s : Statement WrittenType) :
    ((addressed a s).map (·.2.id)).Sublist s.nodeIds := by
  cases s with
  | struct id range name bases metadata children =>
    rw [addressed, Statement.nodeIds, List.map_cons]
    refine List.Sublist.cons_cons _ ?_
    exact (ids_addressedIn_sublist a 0 children).trans (List.sublist_append_right _ _)
  | item id range name type =>
    exact List.Sublist.cons_cons _ (List.nil_sublist _)
  | extension | inclusion => exact List.Sublist.refl _

theorem ids_addressedIn_sublist (scope : Address) (index : Nat)
    (ss : List (Statement WrittenType)) :
    ((addressedIn scope index ss).map (·.2.id)).Sublist (Statement.nodeIdsOf ss) := by
  match ss with
  | [] => exact List.Sublist.refl _
  | s :: rest =>
    rw [addressedIn, Statement.nodeIdsOf, List.map_append]
    exact (ids_addressed_sublist _ s).append (ids_addressedIn_sublist scope (index + 1) rest)

end

/-- The ids of the statements of a built file are distinct and have its place. -/
theorem ids_of_parsedStatements {files : List ParsedFile} (hb : BuiltInOrder files) (file : Nat) :
    ((addressedIn ⟨file, []⟩ 0 (parsedStatements files file)).map (·.2.id)).Nodup ∧
      ∀ x ∈ addressedIn ⟨file, []⟩ 0 (parsedStatements files file), x.2.id.file = file := by
  have hs := ids_addressedIn_sublist ⟨file, []⟩ 0 (parsedStatements files file)
  unfold parsedStatements at hs ⊢
  split
  · rename_i f hf
    split
    · rename_i root hr
      simp only [hf, hr] at hs
      obtain ⟨source, hsrc⟩ := hb file f root hf hr
      rw [Build.nodeIds_of_root hsrc] at hs
      refine ⟨(Build.nodup_idsFrom _ _ _).sublist hs, fun x hx => ?_⟩
      have hm := hs.subset (List.mem_map_of_mem hx)
      obtain ⟨n, -, hn⟩ := List.mem_map.1 hm
      rw [← hn]
    · exact ⟨List.nodup_nil, fun x hx => by simp [addressedIn] at hx⟩
  · exact ⟨List.nodup_nil, fun x hx => by simp [addressedIn] at hx⟩

/-- No two statements of the table share an id. -/
theorem nodup_ids {files : List ParsedFile} (hb : BuiltInOrder files) :
    ((ofFiles files).allStatements.map (·.2.id)).Nodup := by
  unfold allStatements
  rw [List.map_flatMap, List.nodup_flatMap]
  simp only [rootStatements_ofFiles]
  refine ⟨fun file _ => (ids_of_parsedStatements hb file).1, ?_⟩
  refine List.nodup_range.imp_of_mem fun {i j} _ _ hne => ?_
  intro id hi hj
  obtain ⟨x, hx, rfl⟩ := List.mem_map.1 hi
  obtain ⟨y, hy, hxy⟩ := List.mem_map.1 hj
  have h1 := (ids_of_parsedStatements hb i).2 x hx
  have h2 := (ids_of_parsedStatements hb j).2 y hy
  rw [hxy, h1] at h2
  exact hne h2

/-- Statements of the table with the same id are the same. -/
theorem eq_of_id {files : List ParsedFile} (hb : BuiltInOrder files)
    {x y : Address × Statement WrittenType} (hx : x ∈ (ofFiles files).allStatements)
    (hy : y ∈ (ofFiles files).allStatements) (h : x.2.id = y.2.id) : x = y :=
  List.inj_on_of_nodup_map (nodup_ids hb) hx hy h

theorem id_ofStatement? {a : Address} {s : Statement WrittenType} {d : Definition}
    (h : Definition.ofStatement? a s = some d) : d.id = s.id := by
  unfold Definition.ofStatement? at h
  split at h
  · split at h
    · injection h with h; rw [← h]; rfl
    · cases h
  · injection h with h; rw [← h]; rfl
  · cases h

theorem Holds.eq_of_id {files : List ParsedFile} (hb : BuiltInOrder files) {d e : Definition}
    (hd : (ofFiles files).Holds d) (he : (ofFiles files).Holds e) (h : d.id = e.id) : d = e := by
  obtain ⟨s, hs, hsd⟩ := hd
  obtain ⟨u, hu, hue⟩ := he
  have heq := Table.eq_of_id hb hs hu (by rw [← id_ofStatement? hsd, ← id_ofStatement? hue, h])
  injection heq with ha hs'
  rw [← ha, ← hs', hsd, Option.some.injEq] at hue
  exact hue

theorem id_of_definitionOf? {t : Table} {id : ElementId} {d : Definition}
    (h : t.definitionOf? id = some d) : d.id = id := by
  have := (List.mem_filter.1 (List.mem_of_getLast? h)).2
  simpa using this

/-- An id leads to the definition that has it. -/
theorem definitionOf?_eq_some_iff {files : List ParsedFile} (hb : BuiltInOrder files)
    {id : ElementId} {d : Definition} :
    (ofFiles files).definitionOf? id = some d ↔ (ofFiles files).Holds d ∧ d.id = id := by
  refine ⟨fun h => ⟨holds_of_definitionOf? h, id_of_definitionOf? h⟩, ?_⟩
  rintro ⟨hd, rfl⟩
  cases he : (ofFiles files).definitionOf? d.id with
  | none =>
    rw [definitionOf?, List.getLast?_eq_none_iff, List.filter_eq_nil_iff] at he
    obtain ⟨s, hs, hsd⟩ := hd
    exact absurd (decide_eq_true rfl) (he d (List.mem_filterMap.2 ⟨_, hs, hsd⟩))
  | some e => rw [Holds.eq_of_id hb (holds_of_definitionOf? he) hd (id_of_definitionOf? he)]

/-- The id of a statement leads to the definition that it makes. -/
theorem definitionOf?_of_mem {files : List ParsedFile} (hb : BuiltInOrder files) {a : Address}
    {s : Statement WrittenType} (h : (a, s) ∈ (ofFiles files).allStatements) {d : Definition}
    (hd : Definition.ofStatement? a s = some d) :
    (ofFiles files).definitionOf? s.id = some d := by
  obtain rfl := address_ofStatement? hd
  exact (definitionOf?_eq_some_iff hb).2 ⟨⟨s, h, hd⟩, id_ofStatement? hd⟩

theorem eq_of_definitionOf? {files : List ParsedFile} (hb : BuiltInOrder files) {a : Address}
    {s : Statement WrittenType} (h : (a, s) ∈ (ofFiles files).allStatements) {d e : Definition}
    (hd : Definition.ofStatement? a s = some d) (he : (ofFiles files).definitionOf? s.id = some e) :
    e = d := by
  rw [definitionOf?_of_mem hb h hd] at he
  exact (Option.some.inj he).symm

end Table
end Schemata
