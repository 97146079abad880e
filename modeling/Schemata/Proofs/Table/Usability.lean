import Schemata.Proofs.Build.Acceptance
import Schemata.Proofs.Table.Lexical
import Schemata.Proofs.Table.Validation

/-!
# Which names can be used

An include binds the names that it gives to elements without looking at them. To use such a name, a
reference has to get past the builder first, which takes reserved names for those of fundamental
types and demands the names of types. So the name that an include gives is of use only if it is the
name of a type and not reserved, although no other name of a definition may be reserved. The names
that elements keep are those of definitions, and so are always of use.

**Results:**
* `Build.reference_plain_iff`: which plain names the builder leaves to be resolved.
* `Table.exists_lookup?_of_item`: the name that an include gives to an element leads to it.
* `Table.usable_iff`: under which condition such a name can be used.
* `Table.not_allUsable_takenAs`: includes with names that are of no use.
-/
namespace Schemata

/-- A name by itself, neither global nor that of an element. -/
def Reference.plain (name : Identifier) : Reference := ⟨[name], false, false⟩

namespace Build

/-! ## What is built of a plain name -/

/-- A plain name is left to be resolved exactly if it is that of a type and not reserved. -/
theorem reference_plain_iff {id : ElementId} {range : Range} {c : Cardinality}
    {m : Option Metadata} {name : Identifier} :
    reference id range c m (.plain name) =
        .ok (.reference ⟨id, range, c, m.bind Metadata.nonEmpty?⟩ (.plain name)) ↔
      name.isType = true ∧ name.value ∉ reservedNames := by
  rw [← Fundamental.ofConstraints_eq_none_iff (m := m), Reference.plain]
  cases htype : name.isType with
  | false =>
    have hsegments : checkSegments range [name] false = .error (expectedType name) :=
      if_neg (by simp [htype])
    simp [reference, hsegments, bind, Except.bind]
  | true =>
    rw [reference_plain_eq id range c m htype]
    rcases Fundamental.ofConstraints name.value m with e | - | found <;> simp [Except.map]

end Build

namespace Table

variable {files : List ParsedFile}

/-- The name of a definition of a built file is that of a type and not reserved. -/
theorem name_of_definesType (hb : EachBuilt files) {scope : Address} {name : String}
    {d : Definition} (h : DefinesType files scope name d) :
    d.name.isType = true ∧ d.name.name ∉ reservedNames := by
  obtain ⟨body, hs, hd, -⟩ := h
  obtain ⟨target, number, atRoot, source, hbuilt, -⟩ := accepted_of_isBody hb body
  obtain ⟨n, src, -, hstatement⟩ := Build.exists_source_of_mem hbuilt (List.mem_of_getElem? hs)
  have haccepts := Build.accepts_statement target n atRoot src
  have hkept := haccepts.of_ok _ hstatement
  have hwell := haccepts.ok_iff.1 ⟨_, hstatement⟩
  obtain ⟨htype, hname⟩ := ofStatement?_name hd
  cases hkept with
  | item _ hn =>
    obtain rfl := Option.some.inj hname
    have htype : Identifier.isType _ = true := htype
    rw [hn.name]
    exact ⟨htype, hwell.2.2.1 (Build.isType_eq hn.name ▸ htype)⟩
  | struct _ hn =>
    obtain rfl := Option.some.inj hname
    rw [hn.name, Build.isType_eq hn.name]
    exact hwell.2.1.2
  | extension | inclusion => cases htype

/-! ## What an include takes over -/

/-- The root of a built file does not define a name that one of its includes gives to an element. -/
theorem not_definesType_of_item (hb : EachBuilt files) {file : Nat} {f : ParsedFile}
    {root : Root WrittenType} (hf : files[file]? = some f) (hr : f.root = .ok root)
    {i : Inclusion} (hi : i ∈ root.inclusions) {x : IncludeItem} (hx : x ∈ i.items) (d : Definition) :
    ¬ DefinesType files ⟨file, []⟩ x.reference.name d := by
  rintro ⟨body, hs, hd, hn⟩
  rename_i ss index s
  have hroot : IsBody files ⟨file, []⟩ root.statements := .root hf hr
  rw [← statementsIn_of_isBody (shows_declare files) body,
    statementsIn_of_isBody (shows_declare files) hroot] at hs
  obtain ⟨u, hu, hui⟩ := List.mem_filterMap.1 hi
  obtain ⟨place, hplace⟩ := List.mem_iff_getElem?.1 hu
  have hnames : x.reference ∈ u.scopeNames := by
    cases u with
    | inclusion id range j =>
      obtain rfl := Option.some.inj hui
      exact List.mem_map_of_mem hx
    | _ => cases hui
  obtain ⟨htype, hname⟩ := ofStatement?_name hd
  -- the statement that defines the name would have to be the include itself
  have hsame := (accepted_of_isBody hb hroot).index_eq hs hplace
    (Build.mem_scopeNames_of_definedName? hname) hnames hn
  rw [hsame, hplace, Option.some.injEq] at hs
  subst hs
  cases u with
  | inclusion => cases htype
  | _ => cases hui

/-- The name that an include gives to an element leads to it, if no include of the file fails. -/
theorem exists_lookup?_of_item (hb : EachBuilt files) {file : Nat} {f : ParsedFile}
    {root : Root WrittenType} (hf : files[file]? = some f) (hr : f.root = .ok root)
    (hfault : (ofFiles files).includeFault? file = none) {i : Inclusion}
    (hi : i ∈ root.inclusions) {x : IncludeItem} (hx : x ∈ i.items) :
    ∃ target d, (declare files).fileAt? i.target = some target ∧
      DefinesType files ⟨target, []⟩ x.element.name d ∧
      (ofFiles files).lookup? ⟨file, []⟩ x.reference.name = some d := by
  have hbound : (declare files).bindIncludes file [] root.inclusions =
      ((ofFiles files).importsOf file, none) := by
    rw [importsOf_ofFiles hf hr, ← hfault, includeFault?_ofFiles hf hr]
  obtain ⟨bs, hbs, hsettled⟩ := (bindIncludes_spec hbound).1 i hi
  obtain ⟨target, ht, hitems⟩ := bind_eq_ok_iff.1 hbs
  obtain ⟨hfile, -⟩ := includedFile_eq_ok_iff.1 ht
  have hlisted : ¬ i.isStar = true := fun hstar => by
    rw [List.isEmpty_iff.1 hstar] at hx
    cases hx
  rw [if_neg hlisted] at hitems
  obtain ⟨d, hd, hpublic⟩ :=
    exists_itemBinding_iff.1 (exists_mapM_eq_ok_iff.1 ⟨bs, hitems⟩ x hx)
  have hdefines : DefinesType files ⟨target, []⟩ x.element.name d :=
    definesType_of_typeIn? (shows_declare files) hd
  obtain ⟨b, hmem, hname, htarget⟩ :=
    exists_binding hb hbs hfile (.item hx) hdefines hpublic
  have hown : ∀ t : Table, t.Shows files → t.typeIn? ⟨file, []⟩ x.reference.name = none :=
    fun t hshows => (typeIn?_eq_none_iff hb hshows (.root hf hr)).2
      (not_definesType_of_item hb hf hr hi hx)
  refine ⟨target, d, hfile, hdefines, ?_⟩
  rw [lookup?_root]
  refine orElse_eq_some_iff.2 (.inr ⟨hown _ (shows_ofFiles files), ?_⟩)
  rw [imported?]
  rcases hsettled b hmem with h | ⟨bound, hfound, hsame⟩
  · rw [hname, hown _ (shows_declare files)] at h
    cases h
  · rw [hname] at hfound
    rw [hfound, Option.bind_some, hsame, htarget]
    exact definitionAt?_of_definesType hdefines

/-- Written at the root of a file, the plain name is accepted as a reference, whatever is said about
it, and leads to the definition. -/
def Usable (t : Table) (file : Nat) (name : Identifier) (d : Definition) : Prop :=
  ∀ id range c m,
    Build.reference id range c m (.plain name) =
      .ok (.reference ⟨id, range, c, m.bind Metadata.nonEmpty?⟩ (.plain name)) ∧
    t.resolve file (.plain name) range ⟨file, []⟩ = .ok (.definition d)

theorem usable_of_lookup? {t : Table} {file : Nat} {name : Identifier} {d : Definition}
    (h : t.lookup? ⟨file, []⟩ name.name = some d) :
    t.Usable file name d ↔ name.isType = true ∧ name.value ∉ reservedNames := by
  have hresolve : ∀ range,
      t.resolve file (.plain name) range ⟨file, []⟩ = .ok (.definition d) := by
    intro range
    simp only [resolve, Reference.plain, resolveFirst, h]
    rfl
  constructor
  · intro husable
    exact Build.reference_plain_iff.1
      (husable default default (.defaultAt default) none).1
  · intro hname id range c m
    exact ⟨Build.reference_plain_iff.2 hname, hresolve range⟩

/-- What an include takes over can be used under the name that it gives to it exactly if that is the
name of a type and, as it is written, not reserved. An element that keeps its name can always be
used under it. -/
theorem usable_iff (hb : EachBuilt files) {file : Nat} {f : ParsedFile} {root : Root WrittenType}
    (hf : files[file]? = some f) (hr : f.root = .ok root)
    (hfault : (ofFiles files).includeFault? file = none) {i : Inclusion}
    (hi : i ∈ root.inclusions) {x : IncludeItem} (hx : x ∈ i.items) :
    ∃ target d, (declare files).fileAt? i.target = some target ∧
      DefinesType files ⟨target, []⟩ x.element.name d ∧
      ∀ name : Identifier, name.name = x.reference.name →
        ((ofFiles files).Usable file name d ↔
          name.isType = true ∧ name.value ∉ reservedNames) ∧
        (x.reference.name = x.element.name → name.markers = "" →
          (ofFiles files).Usable file name d) := by
  obtain ⟨target, d, hfile, hdefines, hlookup⟩ := exists_lookup?_of_item hb hf hr hfault hi hx
  refine ⟨target, d, hfile, hdefines, fun name hname => ?_⟩
  have husable : (ofFiles files).Usable file name d ↔
      name.isType = true ∧ name.value ∉ reservedNames :=
    usable_of_lookup? (hname ▸ hlookup)
  refine ⟨husable, fun hkept hmarkers => husable.2 ?_⟩
  obtain ⟨htype, hfree⟩ := name_of_definesType hb hdefines
  have hsame : name.name = d.name.name := by rw [hname, hkept, hdefines.name_eq]
  rw [Identifier.isType, hsame, Identifier.value, hmarkers, String.empty_append, hsame]
  exact ⟨htype, hfree⟩

/-- A file that takes the structure of another one over under some name. -/
def takenAs (name : String) : List ParsedFile :=
  parseInOrder
    [(⟨"ws/a"⟩, [.takes 1 "b" "Point" name]), (⟨"ws/b"⟩, [.record 1 "Point" [] []])]

/-- The first element that the first file takes over, if no include of the file fails. -/
def firstTaken? (files : List ParsedFile) :
    Option (Root WrittenType × Inclusion × IncludeItem) := do
  guard ((ofFiles files).includeFault? 0).isNone
  let f ← files[0]?
  let root ← f.root.toOption
  let i ← root.inclusions[0]?
  let x ← i.items[0]?
  return (root, i, x)

theorem exists_of_firstTaken? {root : Root WrittenType} {i : Inclusion} {x : IncludeItem}
    (h : firstTaken? files = some (root, i, x)) : ∃ f, files[0]? = some f ∧ f.root = .ok root ∧
      (ofFiles files).includeFault? 0 = none ∧ i ∈ root.inclusions ∧ x ∈ i.items := by
  simp only [firstTaken?, Option.bind_eq_bind, Option.bind_eq_some_iff] at h
  obtain ⟨_, hfault, f, hf, root, hr, i, hi, x, hx, h⟩ := h
  cases h
  refine ⟨f, hf, ?_, ?_, List.mem_of_getElem? hi, List.mem_of_getElem? hx⟩
  · cases hroot : f.root with
    | error e => simp [hroot, Except.toOption] at hr
    | ok root => simpa [hroot, Except.toOption] using hr
  · simpa using hfault

/-- Under another type name, the structure can be used. -/
theorem usable_iff_takenAs : ∃ f root i x target d,
    (takenAs "Place")[0]? = some f ∧ f.root = .ok root ∧
      (ofFiles (takenAs "Place")).includeFault? 0 = none ∧ i ∈ root.inclusions ∧ x ∈ i.items ∧
      DefinesType (takenAs "Place") ⟨target, []⟩ "Point" d ∧
      (ofFiles (takenAs "Place")).Usable 0 x.reference d := by
  have hb : BuiltInOrder (takenAs "Place") := builtInOrder_parseInOrder _
  have htaken : (firstTaken? (takenAs "Place")).any (fun (_, _, x) =>
      x.element.name == "Point" && x.reference.isType && !isReserved x.reference.value) = true := by
    decide +kernel
  obtain ⟨⟨root, i, x⟩, hfirst, hname⟩ := (Option.any_eq_true _ _).1 htaken
  simp only [Bool.and_eq_true, beq_iff_eq, Bool.not_eq_true', isReserved,
    List.contains_eq_mem, decide_eq_false_iff_not] at hname
  obtain ⟨⟨helement, htype⟩, hfree⟩ := hname
  obtain ⟨f, hf, hr, hfault, hi, hx⟩ := exists_of_firstTaken? hfirst
  obtain ⟨target, d, -, hdefines, hall⟩ := usable_iff hb.each hf hr hfault hi hx
  exact ⟨f, root, i, x, target, d, hf, hr, hfault, hi, hx, helement ▸ hdefines,
    ((hall x.reference rfl).1).2 ⟨htype, hfree⟩⟩

/-- Whatever an include takes over can be used under the name that it gives to it. -/
def AllUsable (files : List ParsedFile) : Prop :=
  ∀ file f root, files[file]? = some f → f.root = .ok root →
    (ofFiles files).includeFault? file = none → ∀ i ∈ root.inclusions, ∀ x ∈ i.items,
      ∃ target d, (declare files).fileAt? i.target = some target ∧
        DefinesType files ⟨target, []⟩ x.element.name d ∧
        (ofFiles files).Usable file x.reference d

theorem not_allUsable_of_firstTaken? (h : (firstTaken? files).any (fun (_, _, x) =>
    !(x.reference.isType && !isReserved x.reference.value)) = true) : ¬ AllUsable files := by
  intro hall
  obtain ⟨⟨root, i, x⟩, hfirst, hname⟩ := (Option.any_eq_true _ _).1 h
  obtain ⟨f, hf, hr, hfault, hi, hx⟩ := exists_of_firstTaken? hfirst
  obtain ⟨target, d, -, -, husable⟩ := hall 0 f root hf hr hfault i hi x hx
  obtain ⟨htype, hfree⟩ := Build.reference_plain_iff.1
    (husable default default (.defaultAt default) none).1
  simp [htype, isReserved, hfree] at hname

/-- A name may be of no use. Under the name of a fundamental type, that type is meant, and under the
name of a value, no type is. -/
theorem not_allUsable_takenAs :
    (EachBuilt (takenAs "String") ∧ ¬ AllUsable (takenAs "String")) ∧
      EachBuilt (takenAs "point") ∧ ¬ AllUsable (takenAs "point") :=
  ⟨⟨(builtInOrder_parseInOrder _).each, not_allUsable_of_firstTaken? (by decide +kernel)⟩,
    (builtInOrder_parseInOrder _).each, not_allUsable_of_firstTaken? (by decide +kernel)⟩

end Table
end Schemata
