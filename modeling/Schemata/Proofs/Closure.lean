import Schemata.Proofs.Build.Sketch
import Schemata.Proofs.Link.Agreement

/-!
# Include closures

What comes of a file depends on the file and on what it includes, directly or not. The other files
may be parsed or not, fail in their includes or define the same names: as long as no reference in
the closure is global, the file is linked to the same root or fails with the same diagnostic.

**Results:**
* `Table.agree_ofFiles`: tables of files that are the same in a closure agree on the closure.
* `Table.linkFile_eq_of_closure`: a file is linked to the same result.
-/
namespace Schemata

/-- The include closure of a file: the file, and what a member that has a root includes. -/
inductive InClosure (files : List ParsedFile) (file : Nat) : Nat → Prop where
  | self : InClosure files file file
  | included {member target : Nat} {f g : ParsedFile} {root : Root WrittenType} {i : Inclusion}
      (h : InClosure files file member) (hf : files[member]? = some f) (hr : f.root = .ok root)
      (hi : i ∈ root.inclusions) (hg : files[target]? = some g)
      (hp : (g.path == i.target) = true) : InClosure files file target

/-- The files have the same paths in the same order. -/
def SamePaths (files files' : List ParsedFile) : Prop :=
  files.map (·.path.components) = files'.map (·.path.components)

/-- Parsing had the same outcome for each file in the closure of a file. -/
def SameInClosure (files files' : List ParsedFile) (file : Nat) : Prop :=
  ∀ i, InClosure files file i → files[i]?.map (·.root) = files'[i]?.map (·.root)

/-- No reference in the closure of a file is global. -/
def LocalInClosure (files : List ParsedFile) (file : Nat) : Prop :=
  ∀ i f root, InClosure files file i → files[i]? = some f → f.root = .ok root →
    NoneGlobal (Statement.referencesIn root.statements)

namespace Table

variable {files files' : List ParsedFile}

/-! ## Tables of files -/

theorem root?_declare (files : List ParsedFile) (file : Nat) :
    (declare files).root? file = files[file]?.map (·.root) := by
  rw [root?, getElem?_declare, Option.map_map]
  rfl

theorem root?_ofFiles (files : List ParsedFile) (file : Nat) :
    (ofFiles files).root? file = files[file]?.map (·.root) := by
  rw [root?, getElem?_ofFiles, Option.map_map]
  congr 1
  funext f
  exact bindFile_root _ _ _

/-- The file of a path can be told from the paths alone. -/
theorem fileAt?_congr (h : SamePaths files files') (path : Path) :
    (declare files).fileAt? path = (declare files').fileAt? path := by
  have hpaths : ∀ files : List ParsedFile, (declare files).fileAt? path =
      ((((files.map (·.path.components)).zipIdx.filter fun x =>
        decide (x.1 = path.components))).map (·.2)).getLast? := by
    intro files
    rw [fileAt?, declare, List.zipIdx_map, List.zipIdx_map, List.filter_map, List.filter_map,
      List.map_map, List.map_map]
    rfl
  rw [hpaths, hpaths, h]

/-- What the includes of a file bind, and the first failure. -/
theorem bound_ofFiles (files : List ParsedFile) (file : Nat) :
    ((ofFiles files).importsOf file, (ofFiles files).includeFault? file) =
      match files[file]?.map (·.root) with
      | some (.ok root) => (declare files).bindIncludes file [] root.inclusions
      | _ => ([], none) := by
  cases hf : files[file]? with
  | none => simp [importsOf, includeFault?, getElem?_ofFiles, hf]
  | some f =>
    cases hr : f.root with
    | error e => simp [importsOf, includeFault?, getElem?_ofFiles, hf, bindFile, hr]
    | ok root =>
      simp only [Option.map_some, hr]
      rw [importsOf_ofFiles hf hr, includeFault?_ofFiles hf hr]

/-- Definitions have ids of the files in which they stand. -/
theorem file_of_holds (hb : BuiltInOrder files) {d : Definition}
    (h : (ofFiles files).Holds d) : d.id.file = d.address.file := by
  obtain ⟨s, hs, hd⟩ := h
  obtain ⟨file, -, hs⟩ := List.mem_flatMap.1 hs
  rw [rootStatements_ofFiles] at hs
  rw [id_ofStatement? hd, (ids_of_parsedStatements hb file).2 _ hs,
    file_of_mem_addressedIn _ _ _ _ hs]

/-- What an include of a file in a closure binds stands in the closure. -/
theorem inClosure_of_mem_importsOf {file i : Nat} (hi : InClosure files file i) {b : Import}
    (hb : b ∈ (ofFiles files).importsOf i) : InClosure files file b.target.file := by
  obtain ⟨f, root, hf, hr, inclusion, hinclusion, bs, hbs, hm⟩ := mem_importsOf hb
  obtain ⟨target, g, element, d, hfile, -, -, defines, -, haddress⟩ := mem_includeBindings hbs hm
  obtain ⟨g, hg, hp⟩ := path_of_fileAt? hfile
  rw [haddress, defines.file_eq]
  exact .included hi hf hr hinclusion hg hp

/-! ## Closures -/

section

variable {file : Nat} (hpaths : SamePaths files files') (hsame : SameInClosure files files' file)
include hpaths hsame

theorem bound_eq_of_closure {i : Nat} (hi : InClosure files file i) :
    ((ofFiles files).importsOf i, (ofFiles files).includeFault? i) =
      ((ofFiles files').importsOf i, (ofFiles files').includeFault? i) := by
  rw [bound_ofFiles, bound_ofFiles, ← hsame i hi]
  split
  · rename_i root hroot
    obtain ⟨f, hf, hr⟩ := Option.map_eq_some_iff.1 hroot
    refine bindIncludes_congr ?_ (fun _ _ => fileAt?_congr hpaths _) ?_ []
    · rw [root?_declare, root?_declare]
      exact hsame i hi
    · intro x hx j hj
      obtain ⟨g, hg, hp⟩ := path_of_fileAt? hj
      rw [root?_declare, root?_declare]
      exact hsame j (.included hi hf hr hx hg hp)
  · rfl

/-- Tables of files that are the same in the closure of a file agree on the closure. -/
theorem agree_ofFiles (hb : BuiltInOrder files) (hb' : BuiltInOrder files') :
    Agree (InClosure files file) (ofFiles files) (ofFiles files') where
  root i hi := by
    rw [root?_ofFiles, root?_ofFiles]
    exact hsame i hi
  imports i hi := congrArg Prod.fst (bound_eq_of_closure hpaths hsame hi)
  fault i hi := congrArg Prod.snd (bound_eq_of_closure hpaths hsame hi)
  closed i hi _ hx := inClosure_of_mem_importsOf hi hx
  home _ hd := file_of_holds hb hd
  definition id hid := by
    have hroot : (ofFiles files).root? id.file = (ofFiles files').root? id.file := by
      rw [root?_ofFiles, root?_ofFiles]
      exact hsame _ hid
    -- wherever a definition has the id, it stands in the file of the id
    have hholds : ∀ d : Definition, d.id.file = d.address.file → d.id = id →
        ((ofFiles files).Holds d ↔ (ofFiles files').Holds d) := by
      rintro d hfile rfl
      rw [hfile] at hroot
      rw [holds_iff, holds_iff, definitionAt?_congr _ hroot]
    refine Option.ext fun d => ?_
    rw [definitionOf?_eq_some_iff hb, definitionOf?_eq_some_iff hb']
    constructor
    · rintro ⟨hd, heq⟩
      exact ⟨(hholds d (file_of_holds hb hd) heq).1 hd, heq⟩
    · rintro ⟨hd, heq⟩
      exact ⟨(hholds d (file_of_holds hb' hd) heq).2 hd, heq⟩

/-- What comes of a file depends on its include closure only. -/
theorem linkFile_eq_of_closure (hb : BuiltInOrder files) (hb' : BuiltInOrder files')
    (hlocal : LocalInClosure files file) {f f' : ParsedFile} (hf : files[file]? = some f)
    (hf' : files'[file]? = some f') :
    (ofFiles files').linkFile file f' = (ofFiles files).linkFile file f := by
  have hagree : AgreeLocally (InClosure files file) (ofFiles files) (ofFiles files') :=
    { agree_ofFiles hpaths hsame hb hb' with
      noneGlobal := by
        intro i hi
        rw [rootStatements_ofFiles, parsedStatements]
        split
        · rename_i g hg
          split
          · rename_i root hr
            exact hlocal i g root hi hg hr
          · exact List.forall_mem_nil _
        · exact List.forall_mem_nil _ }
  have hroot : f'.root = f.root := by
    have hfile := hsame file .self
    rw [hf, hf', Option.map_some, Option.map_some, Option.some.injEq] at hfile
    exact hfile.symm
  refine hagree.linkFile_eq .self (by rw [root?_ofFiles, hf, Option.map_some]) hroot ?_
  -- building gave the statements of a file ids of that file
  intro root hr id hid
  obtain ⟨source, hsource⟩ := hb file f root hf hr
  rw [Build.nodeIds_of_root hsource] at hid
  obtain ⟨n, -, rfl⟩ := List.mem_map.1 hid
  exact .self

end

/-- A file that includes another one, and a third file beside them. -/
def besideFiles (third : List Source.Statement) : List ParsedFile :=
  parseInOrder
    [(⟨"ws/a"⟩, [.takes 1 "b" "Point" "Place", .names 2 "x" (.named 2 ["Place"])]),
      (⟨"ws/b"⟩, [.record 1 "Point" [] []]), (⟨"ws/c"⟩, third)]

theorem inClosure_besideFiles {third : List Source.Statement} {i : Nat}
    (h : InClosure (besideFiles third) 0 i) : i = 0 ∨ i = 1 := by
  induction h with
  | self => exact .inl rfl
  | @included member target f g root x _ hf hr hx hg hp ih =>
    rcases ih with rfl | rfl
    · cases hf
      cases hr
      cases List.mem_singleton.1 hx
      match target with
      | 0 => exact .inl rfl
      | 1 => exact .inr rfl
      | 2 =>
        cases hg
        exact absurd (show ((⟨"ws/c"⟩ : Path) == ⟨"ws/b"⟩) = true from hp) (by decide)
      | n + 3 => cases hg
    · cases hf
      cases hr
      cases hx

/-- The third file defines the name that the first one takes over, or cannot be built. -/
theorem linkFile_eq_of_closure_besideFiles :
    let files := besideFiles [.record 1 "Place" [] []]
    let files' := besideFiles [.record 1 "Place" [] [], .record 2 "Place" [] []]
    BuiltInOrder files ∧ BuiltInOrder files' ∧ SamePaths files files' ∧
      SameInClosure files files' 0 ∧ LocalInClosure files 0 ∧ ∃ f f' g g' e,
        files[0]? = some f ∧ files'[0]? = some f' ∧ files[2]? = some g ∧ g.root.isOk = true ∧
        files'[2]? = some g' ∧ g'.root = .error e ∧
        (ofFiles files').linkFile 0 f' = (ofFiles files).linkFile 0 f := by
  intro files files'
  have hb : BuiltInOrder files := builtInOrder_parseInOrder _
  have hb' : BuiltInOrder files' := builtInOrder_parseInOrder _
  have hpaths : SamePaths files files' := rfl
  have hsame : SameInClosure files files' 0 := by
    intro i hi
    rcases inClosure_besideFiles hi with rfl | rfl <;> rfl
  have hlocal : LocalInClosure files 0 := by
    intro i f root hi hf hr x hx
    rcases inClosure_besideFiles hi with rfl | rfl
    · cases hf
      cases hr
      cases List.mem_singleton.1 hx
      rfl
    · cases hf
      cases hr
      cases hx
  exact ⟨hb, hb', hpaths, hsame, hlocal, _, _, _, _, _, rfl, rfl, rfl, rfl, rfl, rfl,
    linkFile_eq_of_closure hpaths hsame hb hb' hlocal rfl rfl⟩

end Table
end Schemata
