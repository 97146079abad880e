import Schemata.Proofs.Table.Body
import Schemata.Table.Include

/-!
# What includes bind

An include takes elements of another file over under names of its own. When no include of a file
fails, the table binds each of those names to the element, unless the root of the file defines the
name itself, and it binds no other name.

Results:
* `Table.mem_includeBindings`, `Table.exists_binding`: what one include binds.
* `Table.mem_bindIncludes`, `Table.bindIncludes_spec`: what the includes of a file bind together.
* `Table.binds_of_imported?`: whatever a file has from includes, one of them binds.
* `Table.imported?_eq_some_iff`: the names that the table has from includes.
-/
namespace Schemata

/-- No two of the files have the same path. -/
def DistinctPaths (files : List ParsedFile) : Prop :=
  files.Pairwise fun f g => (f.path == g.path) = false

/-- An include takes an element over under a name: every public type under its own name, or the
listed elements under the names given to them. -/
inductive Inclusion.Takes (i : Inclusion) : (element name : String) → Prop where
  /-- Everything is taken over. -/
  | star {element : String} (h : i.isStar = true) : Takes i element element
  /-- The element is listed. -/
  | item {x : IncludeItem} (h : x ∈ i.items) : Takes i x.element.name x.reference.name

/-- An include of a file binds a name to a public type at the root of the file that it means. -/
inductive Binds (files : List ParsedFile) (file : Nat) (name : String) (d : Definition) : Prop where
  | intro {f g : ParsedFile} {root : Root WrittenType} {i : Inclusion} {target : Nat}
      {element : String} (hf : files[file]? = some f) (hr : f.root = .ok root)
      (hi : i ∈ root.inclusions) (hg : files[target]? = some g)
      (hp : (g.path == i.target) = true) (takes : i.Takes element name)
      (defines : DefinesType files ⟨target, []⟩ element d) (isPublic : d.isPublic = true) :
      Binds files file name d

namespace Table

/-! ## The included file -/

theorem mem_zipIdx_filter {files : List ParsedFile} {path : Path} {target : Nat} :
    target ∈ ((declare files).files.zipIdx.filter fun (f, _) => f.path == path).map (·.2) ↔
      ∃ g, files[target]? = some g ∧ (g.path == path) = true := by
  simp only [List.mem_map, List.mem_filter, Prod.exists, exists_eq_right,
    List.mem_zipIdx_iff_getElem?, getElem?_declare, Option.map_eq_some_iff]
  constructor
  · rintro ⟨_, ⟨g, hg, rfl⟩, hp⟩
    exact ⟨g, hg, hp⟩
  · rintro ⟨g, hg, hp⟩
    exact ⟨_, ⟨g, hg, rfl⟩, hp⟩

theorem index_eq_of_path {files : List ParsedFile} (hp : DistinctPaths files) {i j : Nat}
    {f g : ParsedFile} {path : Path} (hf : files[i]? = some f) (hg : files[j]? = some g)
    (hfp : (f.path == path) = true) (hgp : (g.path == path) = true) : i = j := by
  have hfg : (f.path == g.path) = true := Path.same_trans hfp (Path.same_symm hgp)
  exact index_eq_of_pairwise (fun _ _ => Path.same_symm) hp hf hg hfg

theorem path_of_fileAt? {files : List ParsedFile} {path : Path} {target : Nat}
    (h : (declare files).fileAt? path = some target) :
    ∃ g, files[target]? = some g ∧ (g.path == path) = true :=
  mem_zipIdx_filter.1 (List.mem_of_getLast? h)

theorem fileAt?_eq_some_iff {files : List ParsedFile} (hp : DistinctPaths files) {path : Path}
    {target : Nat} : (declare files).fileAt? path = some target ↔
      ∃ g, files[target]? = some g ∧ (g.path == path) = true := by
  refine ⟨path_of_fileAt?, fun h => ?_⟩
  rw [← mem_zipIdx_filter] at h
  rw [fileAt?]
  cases hl : (((declare files).files.zipIdx.filter fun (f, _) => f.path == path).map
      (·.2)).getLast? with
  | none =>
    rw [List.getLast?_eq_none_iff] at hl
    rw [hl] at h
    cases h
  | some j =>
    obtain ⟨g, hg, hgp⟩ := mem_zipIdx_filter.1 h
    obtain ⟨f, hf, hfp⟩ := mem_zipIdx_filter.1 (List.mem_of_getLast? hl)
    rw [index_eq_of_path hp hf hg hfp hgp]

theorem includedFile_eq_ok_iff {files : List ParsedFile} {i : Inclusion} {target : Nat} :
    (declare files).includedFile i = .ok target ↔
      (declare files).fileAt? i.target = some target ∧
        ∃ g root, files[target]? = some g ∧ g.root = .ok root := by
  unfold includedFile
  cases (declare files).fileAt? i.target with
  | none => simp
  | some j =>
    simp only [getElem?_declare, Option.some.injEq]
    constructor
    · intro h
      cases hg : files[j]? with
      | none => rw [hg] at h; cases h
      | some g =>
        rw [hg, Option.map_some] at h
        cases hr : g.root with
        | error e => simp only [hr] at h; cases h
        | ok root =>
          simp only [hr] at h
          injection h with h
          exact ⟨h, g, root, h ▸ hg, hr⟩
    · rintro ⟨rfl, g, root, hg, hr⟩
      simp only [hg, Option.map_some, hr]

/-! ## One include -/

theorem mem_definitionsIn {t : Table} {files : List ParsedFile} (ht : t.Shows files)
    {scope : Address} {ss : List (Statement WrittenType)} (body : IsBody files scope ss)
    {d : Definition} : d ∈ t.definitionsIn scope ↔ DefinesType files scope d.name.name d := by
  simp only [definitionsIn, statementsIn_of_isBody ht body, List.mem_filterMap, Prod.exists,
    List.mem_zipIdx_iff_getElem?]
  constructor
  · rintro ⟨s, index, hs, hd⟩
    exact ⟨body, hs, hd, rfl⟩
  · rintro ⟨body', hs, hd, -⟩
    rw [← statementsIn_of_isBody ht body', statementsIn_of_isBody ht body] at hs
    exact ⟨_, _, hs, hd⟩

variable {files : List ParsedFile} {i : Inclusion} {bs : List Import}

/-- What an include binds is a public type that it takes over. -/
theorem mem_includeBindings (h : (declare files).includeBindings i = .ok bs) {b : Import}
    (hm : b ∈ bs) : ∃ target g element d, (declare files).fileAt? i.target = some target ∧
      files[target]? = some g ∧ i.Takes element b.name ∧
      DefinesType files ⟨target, []⟩ element d ∧ d.isPublic = true ∧ b.target = d.address := by
  obtain ⟨target, ht, h⟩ := bind_eq_ok_iff.1 h
  obtain ⟨hp, g, root, hg, hr⟩ := includedFile_eq_ok_iff.1 ht
  have body : IsBody files ⟨target, []⟩ root.statements := .root hg hr
  split at h
  · rename_i hstar
    injection h with h
    subst h
    obtain ⟨d, hd, rfl⟩ := List.mem_map.1 hm
    obtain ⟨hd, hpub⟩ := List.mem_filter.1 (List.mem_mergeSort.1 hd)
    exact ⟨target, g, _, d, hp, hg, .star hstar,
      (mem_definitionsIn (shows_declare files) body).1 hd, hpub, rfl⟩
  · obtain ⟨x, hx, hb⟩ := (mem_of_mapM_eq_ok h).1 hm
    simp only [itemBinding] at hb
    split at hb
    · rename_i d hd
      split at hb
      · rename_i hpub
        injection hb with hb
        subst hb
        exact ⟨target, g, _, d, hp, hg, .item hx,
          definesType_of_typeIn? (shows_declare files) hd, hpub, rfl⟩
      · cases hb
    · split at hb <;> cases hb

/-- Every public type that an include takes over is bound by it. -/
theorem exists_binding (hb : EachBuilt files)
    (h : (declare files).includeBindings i = .ok bs) {target : Nat}
    (ht : (declare files).fileAt? i.target = some target) {element name : String} {d : Definition}
    (takes : i.Takes element name) (defines : DefinesType files ⟨target, []⟩ element d)
    (hpub : d.isPublic = true) : ∃ b ∈ bs, b.name = name ∧ b.target = d.address := by
  obtain ⟨target', ht', h⟩ := bind_eq_ok_iff.1 h
  obtain ⟨hp, g, root, hg, hr⟩ := includedFile_eq_ok_iff.1 ht'
  rw [hp, Option.some.injEq] at ht
  subst ht
  have body : IsBody files ⟨target', []⟩ root.statements := .root hg hr
  cases takes with
  | star hstar =>
    rw [if_pos hstar] at h
    injection h with h
    subst h
    have hn := defines.name_eq
    refine ⟨⟨d.name.name, d.address, i.filenameRange⟩, ?_, hn, rfl⟩
    refine List.mem_map.2 ⟨d, List.mem_mergeSort.2 (List.mem_filter.2 ⟨?_, hpub⟩), rfl⟩
    rw [mem_definitionsIn (shows_declare files) body, hn]
    exact defines
  | @item x hx =>
    have hstar : ¬ i.isStar = true := by
      intro hstar
      rw [Inclusion.isStar, List.isEmpty_iff] at hstar
      rw [hstar] at hx
      cases hx
    rw [if_neg hstar] at h
    refine ⟨⟨x.reference.name, d.address, x.reference.range⟩, (mem_of_mapM_eq_ok h).2 ⟨x, hx, ?_⟩,
      rfl, rfl⟩
    rw [itemBinding, (typeIn?_eq_some_iff hb (shows_declare files) body).2 defines]
    simp only [hpub, if_true]

/-! ## All includes of a file -/

/-- A binding counts: its name belongs to the file itself, or it is bound to the target. -/
def Settled (t : Table) (file : Nat) (bound : List Import) (b : Import) : Prop :=
  (t.typeIn? ⟨file, []⟩ b.name).isSome ∨
    ∃ i, bound.find? (·.name == b.name) = some i ∧ i.target = b.target

/-- `later` has the bindings of `earlier`, and each of them is still found first. -/
def Extends (earlier later : List Import) : Prop :=
  ∀ name i, earlier.find? (·.name == name) = some i → later.find? (·.name == name) = some i

theorem Settled.extends {t : Table} {file : Nat} {bound later : List Import} {b : Import}
    (h : Settled t file bound b) (he : Extends bound later) : Settled t file later b := by
  rcases h with h | ⟨i, hi, ht⟩
  · exact .inl h
  · exact .inr ⟨i, he _ _ hi, ht⟩

/-- A name without clash settles its binding. -/
theorem settled_of_clash? {t : Table} {file : Nat} {bound : List Import} {b : Import}
    (h : t.clash? file bound b = none) :
    Settled t file (if bound.any (·.name == b.name) then bound else bound ++ [b]) b := by
  unfold clash? at h
  split at h
  · rename_i own hown
    exact .inl (by rw [hown]; rfl)
  · right
    cases hfind : bound.find? (·.name == b.name) with
    | none =>
      have hany : ¬ bound.any (·.name == b.name) = true := by
        simpa using List.find?_eq_none.1 hfind
      rw [if_neg hany, List.find?_append, hfind]
      exact ⟨b, by simp, rfl⟩
    | some i =>
      have hin := List.find?_some hfind
      have hany : bound.any (·.name == b.name) = true :=
        List.any_eq_true.2 ⟨i, List.mem_of_find?_eq_some hfind, hin⟩
      rw [if_pos hany, hfind]
      rw [hfind] at h
      refine ⟨i, rfl, ?_⟩
      simpa [Option.filter] using h

/-- Adding bindings binds nothing else, also if one of them clashes. -/
theorem mem_addBindings {t : Table} {file : Nat} {list bound : List Import} {b : Import}
    (h : b ∈ (t.addBindings file bound list).1) : b ∈ bound ∨ b ∈ list := by
  induction list generalizing bound with
  | nil => exact .inl h
  | cons i rest ih =>
    rw [addBindings] at h
    split at h
    · exact .inl h
    · rcases ih h with h | h
      · split at h
        · exact .inl h
        · rcases List.mem_append.1 h with h | h
          · exact .inl h
          · exact .inr (List.mem_cons.2 (.inl (List.mem_singleton.1 h)))
      · exact .inr (List.mem_cons_of_mem _ h)

/-- The includes of a file bind nothing but what one of them binds, also if one of them fails. -/
theorem mem_bindIncludes {t : Table} {file : Nat} {is : List Inclusion} {bound : List Import}
    {b : Import} (h : b ∈ (t.bindIncludes file bound is).1) :
    b ∈ bound ∨ ∃ i ∈ is, ∃ bs, t.includeBindings i = .ok bs ∧ b ∈ bs := by
  induction is generalizing bound with
  | nil => exact .inl h
  | cons i rest ih =>
    have hfirst : ∀ x ∈ (t.bindInclude file bound i).1,
        x ∈ bound ∨ ∃ bs, t.includeBindings i = .ok bs ∧ x ∈ bs := by
      intro x hx
      unfold bindInclude at hx
      split at hx
      · rename_i bs hbs
        exact (mem_addBindings hx).imp_right fun hx => ⟨bs, hbs, hx⟩
      · exact .inl hx
    rw [bindIncludes] at h
    split at h
    · rename_i next hi
      rw [hi] at hfirst
      rcases ih h with h | ⟨j, hj, h⟩
      · exact (hfirst b h).imp_right fun h => ⟨i, List.mem_cons_self, h⟩
      · exact .inr ⟨j, List.mem_cons_of_mem _ hj, h⟩
    · rename_i next d hi
      rw [hi] at hfirst
      exact (hfirst b h).imp_right fun h => ⟨i, List.mem_cons_self, h⟩

theorem addBindings_spec {t : Table} {file : Nat} {list bound later : List Import}
    (h : t.addBindings file bound list = (later, none)) :
    (∀ b ∈ list, Settled t file later b) ∧ Extends bound later := by
  induction list generalizing bound with
  | nil =>
    injection h with h
    subst h
    exact ⟨fun b hb => (by cases hb), fun _ _ hi => hi⟩
  | cons b rest ih =>
    rw [addBindings] at h
    split at h
    · injection h with _ h
      cases h
    · rename_i hclash
      obtain ⟨hsettled, hext⟩ := ih h
      have hstep : Extends bound
          (if bound.any (·.name == b.name) then bound else bound ++ [b]) := by
        intro name i hi
        split
        · exact hi
        · rw [List.find?_append, hi]
          rfl
      refine ⟨fun x hx => ?_, fun name i hi => hext _ _ (hstep _ _ hi)⟩
      rcases List.mem_cons.1 hx with rfl | hx
      · exact (settled_of_clash? hclash).extends hext
      · exact hsettled x hx

/-- The includes of a file bind all of what they take over when none of them fails. -/
theorem bindIncludes_spec {t : Table} {file : Nat} {is : List Inclusion}
    {bound later : List Import} (h : t.bindIncludes file bound is = (later, none)) :
    (∀ i ∈ is, ∃ bs, t.includeBindings i = .ok bs ∧ ∀ b ∈ bs, Settled t file later b) ∧
      Extends bound later := by
  induction is generalizing bound with
  | nil =>
    injection h with h
    subst h
    exact ⟨fun i hi => (by cases hi), fun _ _ hi => hi⟩
  | cons i rest ih =>
    rw [bindIncludes] at h
    split at h
    · rename_i next hi
      unfold bindInclude at hi
      split at hi
      · rename_i bs hbs
        obtain ⟨hsettled, hext⟩ := ih h
        obtain ⟨hsettled', hext'⟩ := addBindings_spec hi
        refine ⟨fun j hj => ?_, fun name x hx => hext _ _ (hext' _ _ hx)⟩
        rcases List.mem_cons.1 hj with rfl | hj
        · exact ⟨bs, hbs, fun b hb => (hsettled' b hb).extends hext⟩
        · exact hsettled j hj
      · injection hi with _ hi
        cases hi
    · injection h with _ h
      cases h

/-! ## What the table has from includes -/

theorem importsOf_ofFiles {file : Nat} {f : ParsedFile} {root : Root WrittenType}
    (hf : files[file]? = some f) (hr : f.root = .ok root) :
    (ofFiles files).importsOf file =
      ((declare files).bindIncludes file [] root.inclusions).1 := by
  unfold importsOf
  rw [getElem?_ofFiles, hf]
  simp only [Option.map_some, bindFile, hr]

theorem includeFault?_ofFiles {file : Nat} {f : ParsedFile} {root : Root WrittenType}
    (hf : files[file]? = some f) (hr : f.root = .ok root) :
    (ofFiles files).includeFault? file =
      ((declare files).bindIncludes file [] root.inclusions).2 := by
  unfold includeFault?
  rw [getElem?_ofFiles, hf]
  simp only [Option.map_some, bindFile, hr, Option.bind_some]

/-- What the table has from includes was bound by an include of the file. -/
theorem mem_importsOf {file : Nat} {b : Import} (h : b ∈ (ofFiles files).importsOf file) :
    ∃ f root, files[file]? = some f ∧ f.root = .ok root ∧
      ∃ i ∈ root.inclusions, ∃ bs, (declare files).includeBindings i = .ok bs ∧ b ∈ bs := by
  match hf : files[file]? with
  | none =>
    simp only [importsOf, getElem?_ofFiles, hf, Option.map_none] at h
    cases h
  | some f =>
    match hr : f.root with
    | .error _ =>
      simp only [importsOf, getElem?_ofFiles, hf, Option.map_some, bindFile, hr] at h
      cases h
    | .ok root =>
      rw [importsOf_ofFiles hf hr] at h
      exact ⟨f, root, rfl, hr, (mem_bindIncludes h).resolve_left fun h => by cases h⟩

theorem definitionAt?_of_definesType {scope : Address} {name : String} {d : Definition}
    (h : DefinesType files scope name d) : (ofFiles files).definitionAt? d.address = some d := by
  obtain ⟨body, hs, hd, -⟩ := h
  rw [address_ofStatement? hd, definitionAt?_child,
    statementsIn_of_isBody (shows_ofFiles files) body, hs]
  exact hd

/-- A name that the table has from includes is bound by one of them. -/
theorem binds_of_imported? {file : Nat} {name : String} {d : Definition}
    (h : (ofFiles files).imported? file name = some d) : Binds files file name d := by
  obtain ⟨b, hb, hd⟩ := Option.bind_eq_some_iff.1 h
  have hbn : b.name = name := by simpa using List.find?_some hb
  obtain ⟨f, root, hf, hr, i, hi, bs, hbs, hm⟩ := mem_importsOf (List.mem_of_find?_eq_some hb)
  obtain ⟨target, g, element, e, hft, -, takes, defines, hpub, htarget⟩ :=
    mem_includeBindings hbs hm
  rw [htarget, definitionAt?_of_definesType defines, Option.some.injEq] at hd
  subst hd
  obtain ⟨g, hg, hgp⟩ := path_of_fileAt? hft
  exact ⟨hf, hr, hi, hg, hgp, hbn ▸ takes, defines, hpub⟩

/-- The names that a file has from includes, if none of them fails and the file does not define the
name itself. -/
theorem imported?_eq_some_iff (hb : EachBuilt files) (hp : DistinctPaths files) {file : Nat}
    {f : ParsedFile} {root : Root WrittenType} (hf : files[file]? = some f)
    (hr : f.root = .ok root) (hi : (ofFiles files).includeFault? file = none) {name : String}
    (hn : ∀ d, ¬ DefinesType files ⟨file, []⟩ name d) {d : Definition} :
    (ofFiles files).imported? file name = some d ↔ Binds files file name d := by
  have hbound : (declare files).bindIncludes file [] root.inclusions =
      ((ofFiles files).importsOf file, none) := by
    rw [importsOf_ofFiles hf hr, ← hi, includeFault?_ofFiles hf hr]
  obtain ⟨hsettled, -⟩ := bindIncludes_spec hbound
  refine ⟨binds_of_imported?, ?_⟩
  rintro ⟨hf', hr', hi, hg, hgp, takes, defines, hpub⟩
  rw [hf', Option.some.injEq] at hf
  subst hf
  rw [hr', Except.ok.injEq] at hr
  subst hr
  obtain ⟨bs, hbs, hall⟩ := hsettled _ hi
  obtain ⟨b, hb', hbn, htarget⟩ :=
    exists_binding hb hbs ((fileAt?_eq_some_iff hp).2 ⟨_, hg, hgp⟩) takes defines hpub
  rcases hall b hb' with hown | ⟨x, hx, hxt⟩
  · rw [hbn, (typeIn?_eq_none_iff hb (shows_declare files) (.root hf' hr')).2 hn] at hown
    cases hown
  · rw [hbn] at hx
    rw [imported?, hx, Option.bind_some, hxt, htarget]
    exact definitionAt?_of_definesType defines

end Table
end Schemata
