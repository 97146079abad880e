import Schemata.Proofs.Build.Sketch
import Schemata.Proofs.Order.Includes
import Schemata.Proofs.Table.Fault

/-!
# Which includes are accepted

The includes of a file are accepted if each of them finds what it takes over and if no name at the
root of the file then means two definitions. This is said of the parsed trees, without the order in
which names are bound. When it does not hold, the first include with which it fails is the one that
is reported.

**Results:**
* `Table.bindIncludes_eq_none_iff_valid`: includes are bound without a failure exactly if they are
  valid.
* `Table.includeFault_valid`: which file has a failure of an include, and of which one.
-/
namespace Schemata

/-- An include finds what it takes over: its target is a file with a root, and each element that it
lists is a public type there. -/
structure Inclusion.Found (files : List ParsedFile) (i : Inclusion) : Prop where
  target : ∃ g ∈ files, (g.path == i.target) = true ∧ ∃ root, g.root = .ok root
  elements : ∀ x ∈ i.items, ∃ target g d, files[target]? = some g ∧ (g.path == i.target) = true ∧
    DefinesType files ⟨target, []⟩ x.element.name d ∧ d.isPublic = true

/-- What a name means at the root of a file that has some includes. -/
inductive MeansAtRoot (files : List ParsedFile) (file : Nat) (is : List Inclusion) (name : String)
    (d : Definition) : Prop where
  /-- The file itself defines the name. -/
  | own (h : DefinesType files ⟨file, []⟩ name d)
  /-- An include takes a public type of its target over under the name. -/
  | taken {i : Inclusion} {target : Nat} {g : ParsedFile} {element : String} (hi : i ∈ is)
      (hg : files[target]? = some g) (hp : (g.path == i.target) = true)
      (takes : i.Takes element name) (defines : DefinesType files ⟨target, []⟩ element d)
      (isPublic : d.isPublic = true)

theorem MeansAtRoot.exists_definesType {files : List ParsedFile} {file : Nat} {is : List Inclusion}
    {name : String} {d : Definition} (h : MeansAtRoot files file is name d) :
    ∃ scope element, DefinesType files scope element d := by
  cases h with
  | own h => exact ⟨_, _, h⟩
  | taken _ _ _ _ defines _ => exact ⟨_, _, defines⟩

/-- Each of the includes finds what it takes over, and no name means two definitions. -/
structure ValidIncludes (files : List ParsedFile) (file : Nat) (is : List Inclusion) : Prop where
  found : ∀ i ∈ is, i.Found files
  unambiguous : ∀ name d e, MeansAtRoot files file is name d → MeansAtRoot files file is name e →
    d = e

namespace Table

variable {files : List ParsedFile} {i : Inclusion} {is : List Inclusion} {file : Nat}

/-! ## One include -/

theorem exists_itemBinding_iff {t : Table} {target : Nat} {x : IncludeItem} :
    (∃ b, t.itemBinding target x = .ok b) ↔
      ∃ d, t.typeIn? ⟨target, []⟩ x.element.name = some d ∧ d.isPublic = true := by
  unfold itemBinding
  dsimp only
  cases t.typeIn? ⟨target, []⟩ x.element.name with
  | some d => cases hd : d.isPublic <;> simp [hd]
  | none =>
    simp only [reduceCtorEq, false_and, exists_false, iff_false]
    rintro ⟨b, hb⟩
    split at hb <;> cases hb

/-- An include has bindings exactly if it finds what it takes over. -/
theorem exists_includeBindings_iff (hb : EachBuilt files) (hp : DistinctPaths files) :
    (∃ bs, (declare files).includeBindings i = .ok bs) ↔ i.Found files := by
  have helement : ∀ {target g root}, files[target]? = some g → g.root = .ok root →
      ∀ x : IncludeItem, (∃ b, (declare files).itemBinding target x = .ok b) ↔
        ∃ d, DefinesType files ⟨target, []⟩ x.element.name d ∧ d.isPublic = true := by
    intro target g root hg hr x
    simp only [exists_itemBinding_iff,
      typeIn?_eq_some_iff hb (shows_declare files) (.root hg hr)]
  constructor
  · rintro ⟨bs, hbs⟩
    obtain ⟨target, ht, hbs⟩ := bind_eq_ok_iff.1 hbs
    obtain ⟨hfile, g, root, hg, hr⟩ := includedFile_eq_ok_iff.1 ht
    obtain ⟨g', hg', hgp⟩ := path_of_fileAt? hfile
    cases hg.symm.trans hg'
    refine ⟨⟨g, List.mem_of_getElem? hg, hgp, root, hr⟩, fun x hx => ?_⟩
    have hlisted : ¬ i.isStar = true := fun hstar => by
      rw [List.isEmpty_iff.1 hstar] at hx
      cases hx
    rw [if_neg hlisted] at hbs
    obtain ⟨d, hd, hpub⟩ := (helement hg hr x).1 (exists_mapM_eq_ok_iff.1 ⟨bs, hbs⟩ x hx)
    exact ⟨target, g, d, hg, hgp, hd, hpub⟩
  · rintro ⟨⟨g, hmem, hgp, root, hr⟩, helements⟩
    obtain ⟨target, hg⟩ := List.mem_iff_getElem?.1 hmem
    have ht : (declare files).includedFile i = .ok target :=
      includedFile_eq_ok_iff.2 ⟨(fileAt?_eq_some_iff hp).2 ⟨g, hg, hgp⟩, g, root, hg, hr⟩
    unfold includeBindings
    rw [ht]
    by_cases hstar : i.isStar = true
    · exact ⟨_, if_pos hstar⟩
    · simp only [bind, Except.bind, if_neg hstar]
      refine exists_mapM_eq_ok_iff.2 fun x hx => (helement hg hr x).2 ?_
      obtain ⟨target', g', d, hg', hgp', hd, hpub⟩ := helements x hx
      cases index_eq_of_path hp hg' hg hgp' hgp
      exact ⟨d, hd, hpub⟩

/-! ## All includes of a file -/

theorem eq_of_definesType {scope scope' : Address} {name name' : String}
    {d e : Definition} (hd : DefinesType files scope name d) (he : DefinesType files scope' name' e)
    (h : d.address = e.address) : d = e := by
  have hat := definitionAt?_of_definesType hd
  rw [h, definitionAt?_of_definesType he] at hat
  exact (Option.some.inj hat).symm

/-- What the includes bind is what a name means with them. -/
theorem meansAtRoot_of_bindsOne (file : Nat) {b : Import} (h : (declare files).BindsOne is b) :
    ∃ d, MeansAtRoot files file is b.name d ∧ b.target = d.address := by
  obtain ⟨i, hi, bs, hbs, hm⟩ := h
  obtain ⟨target, -, element, d, ht, -, takes, defines, hpub, htarget⟩ := mem_includeBindings hbs hm
  obtain ⟨g, hg, hgp⟩ := path_of_fileAt? ht
  exact ⟨d, .taken hi hg hgp takes defines hpub, htarget⟩

/-- What a name means is the type of the file, or else an include binds it. -/
theorem address_of_meansAtRoot (hb : EachBuilt files) (hp : DistinctPaths files) {f : ParsedFile}
    {root : Root WrittenType} (hf : files[file]? = some f) (hr : f.root = .ok root)
    (hbound : ∀ i ∈ is, ∃ bs, (declare files).includeBindings i = .ok bs) {name : String}
    {d : Definition} (h : MeansAtRoot files file is name d) :
    (declare files).typeIn? ⟨file, []⟩ name = some d ∨
      ∃ b, (declare files).BindsOne is b ∧ b.name = name ∧ b.target = d.address := by
  cases h with
  | own h => exact .inl ((typeIn?_eq_some_iff hb (shows_declare files) (.root hf hr)).2 h)
  | @taken i target g element hi hg hgp takes defines hpub =>
    obtain ⟨bs, hbs⟩ := hbound i hi
    obtain ⟨b, hm, hname, htarget⟩ :=
      exists_binding hb hbs ((fileAt?_eq_some_iff hp).2 ⟨g, hg, hgp⟩) takes defines hpub
    exact .inr ⟨b, ⟨i, hi, bs, hbs, hm⟩, hname, htarget⟩

/-- Bindings that found what they take over are compatible exactly if no name means two
definitions. -/
theorem compatible_iff (hb : EachBuilt files) (hp : DistinctPaths files) {f : ParsedFile}
    {root : Root WrittenType} (hf : files[file]? = some f) (hr : f.root = .ok root)
    (hbound : ∀ i ∈ is, ∃ bs, (declare files).includeBindings i = .ok bs) :
    (declare files).Compatible file ((declare files).BindsOne is) ↔
      ∀ name d e, MeansAtRoot files file is name d → MeansAtRoot files file is name e → d = e := by
  have hown : ∀ {name d}, (declare files).typeIn? ⟨file, []⟩ name = some d →
      MeansAtRoot files file is name d :=
    fun h => .own (definesType_of_typeIn? (shows_declare files) h)
  constructor
  · intro hB name d e hd he
    obtain ⟨_, _, hdd⟩ := hd.exists_definesType
    obtain ⟨_, _, hde⟩ := he.exists_definesType
    refine eq_of_definesType hdd hde ?_
    rcases address_of_meansAtRoot hb hp hf hr hbound hd with hd | ⟨b, hbd, hbname, hbt⟩ <;>
      rcases address_of_meansAtRoot hb hp hf hr hbound he with he | ⟨c, hce, hcname, hct⟩
    · rw [Option.some.inj (hd.symm.trans he)]
    · rw [← hct]
      exact hB.own c d hce (hcname ▸ hd)
    · rw [← hbt]
      exact (hB.own b e hbd (hbname ▸ he)).symm
    · rw [← hbt, ← hct]
      cases hname : (declare files).typeIn? ⟨file, []⟩ name with
      | some o =>
        exact (hB.own b o hbd (hbname ▸ hname)).symm.trans (hB.own c o hce (hcname ▸ hname))
      | none => exact hB.same b c hbd hce (hbname.trans hcname.symm) (hbname ▸ hname)
  · intro hunique
    refine ⟨fun b d hbd hd => ?_, fun b c hbd hce hname _ => ?_⟩
    · obtain ⟨e, he, hbt⟩ := meansAtRoot_of_bindsOne file hbd
      rw [hbt, hunique _ _ _ (hown hd) he]
    · obtain ⟨d, hd, hbt⟩ := meansAtRoot_of_bindsOne file hbd
      obtain ⟨e, he, hct⟩ := meansAtRoot_of_bindsOne file hce
      rw [hbt, hct, hunique _ _ _ hd (hname ▸ he)]

/-- Includes are bound without a failure exactly if they are valid. -/
theorem bindIncludes_eq_none_iff_valid (hb : EachBuilt files) (hp : DistinctPaths files)
    {f : ParsedFile} {root : Root WrittenType} (hf : files[file]? = some f)
    (hr : f.root = .ok root) :
    ((declare files).bindIncludes file [] is).2 = none ↔ ValidIncludes files file is := by
  have hfound : (∀ i ∈ is, ∃ bs, (declare files).includeBindings i = .ok bs) ↔
      ∀ i ∈ is, i.Found files :=
    forall₂_congr fun i _ => exists_includeBindings_iff hb hp
  rw [bindIncludes_eq_none_iff]
  constructor
  · rintro ⟨hbound, hB⟩
    exact ⟨hfound.1 hbound, (compatible_iff hb hp hf hr hbound).1 hB⟩
  · rintro ⟨hall, hunique⟩
    have hbound := hfound.2 hall
    exact ⟨hbound, (compatible_iff hb hp hf hr hbound).2 hunique⟩

/-! ## The include that is reported -/

variable {t : Table} {bound : List Import}

theorem bindIncludes_concat {before : List Inclusion}
    (h : (t.bindIncludes file bound before).2 = none) (i : Inclusion) :
    (t.bindIncludes file bound (before ++ [i])).2 =
      (t.bindInclude file (t.bindIncludes file bound before).1 i).2 := by
  induction before generalizing bound with
  | nil =>
    simp only [List.nil_append, bindIncludes]
    split
    · rename_i hi
      exact (congrArg Prod.snd hi).symm
    · rename_i hi
      exact (congrArg Prod.snd hi).symm
  | cons j rest ih =>
    rw [bindIncludes] at h
    rw [List.cons_append, bindIncludes, bindIncludes]
    split at h
    · exact ih h
    · cases h

/-- A file has no failure of an include exactly if its includes are valid. Otherwise what is
reported is the failure of the first include that is not valid together with those before it. -/
theorem includeFault_valid (hb : EachBuilt files) (hp : DistinctPaths files) {f : ParsedFile}
    {root : Root WrittenType} (hf : files[file]? = some f) (hr : f.root = .ok root) :
    ((ofFiles files).includeFault? file = none ↔ ValidIncludes files file root.inclusions) ∧
      ∀ d, (ofFiles files).includeFault? file = some d → ∃ before i after,
        root.inclusions = before ++ i :: after ∧ ValidIncludes files file before ∧
        ¬ ValidIncludes files file (before ++ [i]) ∧ i.Fault files d ∧
        ((declare files).bindInclude file ((declare files).bindIncludes file [] before).1 i).2 =
          some d := by
  rw [includeFault?_ofFiles hf hr]
  refine ⟨bindIncludes_eq_none_iff_valid hb hp hf hr, fun d hd => ?_⟩
  obtain ⟨before, i, after, his, hnone, hi⟩ := exists_of_bindIncludes hd
  refine ⟨before, i, after, his, (bindIncludes_eq_none_iff_valid hb hp hf hr).1 hnone, ?_,
    fault_of_bindInclude (Prod.ext rfl hi), hi⟩
  rw [← bindIncludes_eq_none_iff_valid hb hp hf hr, bindIncludes_concat hnone, hi]
  nofun

/-- A file that takes everything of another file and of itself, and a file that takes everything of
a file and a type of another one under a name that it already has from there. -/
def starFiles : List ParsedFile :=
  parseInOrder
    [(⟨"ws/a"⟩, [.takesAll 1 "b", .takesAll 2 "a", .record 3 "Own" [] []]),
      (⟨"ws/b"⟩, [.record 1 "Line" [] []]),
      (⟨"ws/c"⟩, [.takesAll 1 "b", .takes 2 "a" "Own" "Line"])]

/-- The includes of the first file are valid. Of the third file only the first include is. -/
theorem includeFault_valid_starFiles :
    EachBuilt starFiles ∧ DistinctPaths starFiles ∧
      (∃ f root, starFiles[0]? = some f ∧ f.root = .ok root ∧ root.inclusions.length = 2 ∧
        ValidIncludes starFiles 0 root.inclusions) ∧
      ∃ f root first second, starFiles[2]? = some f ∧ f.root = .ok root ∧
        root.inclusions = [first, second] ∧ ValidIncludes starFiles 2 [first] ∧
        ¬ ValidIncludes starFiles 2 [first, second] := by
  have hb : EachBuilt starFiles := (builtInOrder_parseInOrder _).each
  have hp : DistinctPaths starFiles := by
    simp only [starFiles, parseInOrder, DistinctPaths]
    decide +kernel
  have hbound : ((ofFiles starFiles).includeFault? 0).isNone = true := by decide +kernel
  have hfault : ((ofFiles starFiles).includeFault? 2).isSome = true := by decide +kernel
  have ha : ∃ f root, starFiles[0]? = some f ∧ f.root = .ok root ∧ root.inclusions.length = 2 :=
    ⟨_, _, rfl, rfl, rfl⟩
  have hc : ∃ f root first second, starFiles[2]? = some f ∧ f.root = .ok root ∧
      root.inclusions = [first, second] :=
    ⟨_, _, _, _, rfl, rfl, rfl⟩
  have hfirst : (starFiles[2]?.bind fun f => f.root.toOption.bind fun root =>
      root.inclusions.head?.bind fun i => ((declare starFiles).bindInclude 2 [] i).2).isNone =
        true := by
    decide +kernel
  obtain ⟨f, root, first, second, hf, hr, his⟩ := hc
  simp only [hf, hr, his, Option.bind_some, Except.toOption, List.head?_cons,
    Option.isNone_iff_eq_none] at hfirst
  obtain ⟨d, hd⟩ := Option.isSome_iff_exists.1 hfault
  obtain ⟨before, i, after, hsplit, hvalid, hinvalid, -, hi⟩ :=
    (includeFault_valid hb hp hf hr).2 d hd
  refine ⟨hb, hp, ?_, f, root, first, second, hf, hr, his, ?_⟩
  · obtain ⟨g, root, hg, hr, hlength⟩ := ha
    exact ⟨g, root, hg, hr, hlength,
      (includeFault_valid hb hp hg hr).1.1 (Option.isNone_iff_eq_none.1 hbound)⟩
  rw [his] at hsplit
  rcases before with _ | ⟨j, _ | ⟨k, rest⟩⟩
  · injection hsplit with hj
    subst hj
    rw [bindIncludes, hfirst] at hi
    cases hi
  · injection hsplit with hj hsplit
    injection hsplit with hk
    subst hj hk
    exact ⟨hvalid, hinvalid⟩
  · simp at hsplit

end Table
end Schemata
