import Schemata.Proofs.Table.Binding

/-!
# What is reported about includes

An include is refused for its target, for one of the elements that it names, or for a name that it
would bind a second time. Whichever it is, the diagnostic has a range of the include itself.

**Results:**
* `Table.exists_of_addBindings`, `Table.exists_of_bindIncludes`: where binding stops.
* `Table.fault_of_includeFault?`: the ways in which the includes of a file fail.
-/
namespace Schemata

/-- What is reported about an include against the given files. -/
inductive Inclusion.Fault (files : List ParsedFile) (i : Inclusion) : Diagnostic → Prop where
  /-- None of the files is the target. -/
  | missing (h : ∀ g ∈ files, (g.path == i.target) = false) :
      Fault files i (.located i.filenameRange (.includeFileNotFound i.target))
  /-- The target has no root. -/
  | failed (context : List Range) :
      Fault files i ⟨.includedFileFailed i.target, i.filenameRange, context⟩
  /-- An element is no public type of the target. -/
  | element {x : IncludeItem} (hx : x ∈ i.items) {cause : Cause}
      (h : cause ∈ [.importedElementNotPublic x.element.name,
        .importedElementNotAType x.element.name, .unknownType x.element.name]) :
      Fault files i (.located x.element.range cause)
  /-- A name already means something else. -/
  | clash (name : String) (first : Range) {again : Range}
      (h : again = i.filenameRange ∨ ∃ x ∈ i.items, again = x.reference.range) :
      Fault files i ⟨.duplicateName name, first, [again]⟩

namespace Table
variable {files : List ParsedFile} {i : Inclusion} {d : Diagnostic}

theorem fileAt?_eq_none {path : Path} (h : (declare files).fileAt? path = none) {g : ParsedFile}
    (hg : g ∈ files) : (g.path == path) = false := by
  obtain ⟨target, hg⟩ := List.getElem?_of_mem hg
  rw [Bool.eq_false_iff]
  intro hp
  have hmem := mem_zipIdx_filter.2 ⟨g, hg, hp⟩
  rw [fileAt?, List.getLast?_eq_none_iff] at h
  rw [h] at hmem
  cases hmem

theorem fault_of_includedFile (h : (declare files).includedFile i = .error d) :
    i.Fault files d := by
  unfold includedFile at h
  split at h
  · rename_i hnone
    cases h
    exact .missing fun g hg => fileAt?_eq_none hnone hg
  · dsimp only at h
    split at h
    · split at h
      · cases h
      · cases h
        exact .failed _
    · cases h
      exact .failed []

theorem fault_of_itemBinding {t : Table} {file : Nat} {x : IncludeItem} (hx : x ∈ i.items)
    (h : t.itemBinding file x = .error d) : i.Fault files d := by
  unfold itemBinding at h
  dsimp only at h
  split at h
  · split at h
    · cases h
    · cases h
      exact .element hx (by simp)
  · split at h
    · cases h
      exact .element hx (by simp)
    · cases h
      exact .element hx (by simp)

theorem fault_of_includeBindings (h : (declare files).includeBindings i = .error d) :
    i.Fault files d := by
  rcases bind_eq_error_iff.1 h with h | ⟨file, -, h⟩
  · exact fault_of_includedFile h
  · split at h
    · cases h
    · obtain ⟨x, hx, h⟩ := exists_of_mapM_eq_error h
      exact fault_of_itemBinding hx h

/-- A binding is put where its name stands in the include. -/
theorem range_of_includeBindings {bs : List Import} (h : (declare files).includeBindings i = .ok bs)
    {b : Import} (hb : b ∈ bs) :
    b.range = i.filenameRange ∨ ∃ x ∈ i.items, b.range = x.reference.range := by
  obtain ⟨file, -, h⟩ := bind_eq_ok_iff.1 h
  split at h
  · cases h
    obtain ⟨_, -, rfl⟩ := List.mem_map.1 hb
    exact .inl rfl
  · obtain ⟨x, hx, h⟩ := (mem_of_mapM_eq_ok h).1 hb
    unfold itemBinding at h
    dsimp only at h
    split at h
    · split at h
      · cases h
        exact .inr ⟨x, hx, rfl⟩
      · cases h
    · split at h <;> cases h

/-- The bindings of a file with one more, unless its name is already bound. -/
def withBinding (bound : List Import) (b : Import) : List Import :=
  if bound.any (·.name == b.name) then bound else bound ++ [b]

/-- Bindings that fail to be added clash at one of them, and those before it stay. -/
theorem exists_of_addBindings {t : Table} {file : Nat} {bound list later : List Import}
    (h : t.addBindings file bound list = (later, some d)) :
    ∃ before b after first, list = before ++ b :: after ∧
      later = before.foldl withBinding bound ∧ t.clash? file later b = some first ∧
      d = ⟨.duplicateName b.name, first, [b.range]⟩ := by
  induction list generalizing bound with
  | nil => cases h
  | cons c rest ih =>
    rw [addBindings] at h
    split at h
    · rename_i first hclash
      cases h
      exact ⟨[], c, rest, first, rfl, rfl, hclash, rfl⟩
    · obtain ⟨before, b, after, first, rfl, hlater, hclash, hd⟩ := ih h
      exact ⟨c :: before, b, after, first, rfl, hlater, hclash, hd⟩

theorem fault_of_bindInclude {file : Nat} {bound later : List Import}
    (h : (declare files).bindInclude file bound i = (later, some d)) : i.Fault files d := by
  unfold bindInclude at h
  split at h
  · rename_i bs hbs
    obtain ⟨before, b, after, first, rfl, -, -, rfl⟩ := exists_of_addBindings h
    have hb : b ∈ before ++ b :: after := List.mem_append_right _ List.mem_cons_self
    exact .clash b.name first (range_of_includeBindings hbs hb)
  · rename_i hfault
    cases h
    exact fault_of_includeBindings hfault

/-- The failure of some includes is that of one of them, after those before it were bound. -/
theorem exists_of_bindIncludes {t : Table} {file : Nat} {bound : List Import}
    {is : List Inclusion} (h : (t.bindIncludes file bound is).2 = some d) :
    ∃ before i after, is = before ++ i :: after ∧ (t.bindIncludes file bound before).2 = none ∧
      (t.bindInclude file (t.bindIncludes file bound before).1 i).2 = some d := by
  induction is generalizing bound with
  | nil => cases h
  | cons i rest ih =>
    rw [bindIncludes] at h
    split at h
    · rename_i next hi
      obtain ⟨before, j, after, rfl, hnone, hj⟩ := ih h
      refine ⟨i :: before, j, after, rfl, ?_, ?_⟩
      · rw [bindIncludes, hi]
        exact hnone
      · rw [bindIncludes, hi]
        exact hj
    · rename_i hi
      exact ⟨[], i, rest, rfl, rfl, (congrArg Prod.snd hi).trans h⟩

/-- The ways in which the includes of a file fail. -/
theorem fault_of_includeFault? {file : Nat} {f : ParsedFile} {root : Root WrittenType}
    (hf : files[file]? = some f) (hr : f.root = .ok root)
    (h : (ofFiles files).includeFault? file = some d) :
    ∃ i ∈ root.inclusions, i.Fault files d := by
  rw [includeFault?_ofFiles hf hr] at h
  obtain ⟨before, i, after, his, -, hi⟩ := exists_of_bindIncludes h
  have hmem : i ∈ root.inclusions := his ▸ List.mem_append_right _ List.mem_cons_self
  exact ⟨i, hmem, fault_of_bindInclude (Prod.ext rfl hi)⟩

end Table
end Schemata
