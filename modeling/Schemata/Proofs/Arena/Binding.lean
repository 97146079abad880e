import Mathlib
import Schemata.Proofs.Arena.Numbering
import Schemata.Proofs.Path.Map

/-!
# Binding in an arena

The includes of an arena are bound as those of the table are: an id stands for an address in every
step, so that names clash in the one exactly if they clash in the other, the same diagnostics are
reported, and in the end every root has the bindings that the table has for its file.

Results:
* `Arena.includeBindings_bound`, `Arena.addBindings_bound`: one include.
* `Arena.ofFiles_eq`: the arena of files.
-/
namespace Schemata
namespace Arena

variable {files : List ParsedFile}

/-! ## Arenas with bindings -/

/-- A binding with the id of what it binds. -/
def bindingOf (ids : Ids) (i : Import) : String × Binding := (i.name, ⟨ids.symbol i.target, i.range⟩)

/-- The bindings of scopes: at the roots of files what is bound there, and none elsewhere. -/
def importsFor (ids : Ids) (known : Nat → List Import) (b : Address) : List (String × Binding) :=
  match b.path with
  | [] => (known b.file).map (bindingOf ids)
  | _ :: _ => []

/-- The arena of files in which names are bound at their roots. -/
def bound (files : List ParsedFile) (known : Nat → List Import)
    (faults : Dictionary FileId Diagnostic) : Arena :=
  laid (idsOf files) (importsFor (idsOf files) known) (bodies (logOf files))
    (definitions (logOf files)) (fields (logOf files))
    ⟨(files.zipIdx.map (fileFor (idsOf files))).toArray, #[], #[], indices files.zipIdx, .empty,
      faults⟩

section
variable {known : Nat → List Import} {faults : Dictionary FileId Diagnostic}

theorem declared_eq_bound :
    declared (idsOf files) files.zipIdx = bound files (fun _ => []) .empty := by
  have himports : importsFor (idsOf files) (fun _ => []) = fun _ => [] := by
    funext b
    unfold importsFor
    split <;> rfl
  rw [bound, himports]
  rfl

theorem files_bound (file : Nat) : (bound files known faults).files[file]? =
    files[file]?.map fun f => fileFor (idsOf files) (f, file) := by
  simp [bound, laid, List.getElem?_zipIdx, Option.map_map, Function.comp_def]

theorem scope_bound (h : (idsOf files).Number (logOf files)) {b : Address}
    (hb : b ∈ bodies (logOf files)) :
    (bound files known faults).scope ((idsOf files).scope b) =
      scopeFor (idsOf files) (importsFor (idsOf files) known) (definitions (logOf files))
        (fields (logOf files)) b := by
  simp [scope, bound, laid, h.getElem?_index hb]

theorem symbol_bound (h : (idsOf files).Number (logOf files))
    {x : Definition × Statement WrittenType} (hx : x ∈ definitions (logOf files)) :
    (bound files known faults).symbol ((idsOf files).symbol x.1.address) =
      symbolFor (idsOf files) x := by
  obtain ⟨k, hk⟩ := List.mem_iff_getElem?.1 hx
  simp [symbol, bound, laid, h.symbol_index hk, hk]

variable (known faults) in
/-- A definition of a body is in the log, so that its symbol is public if it is. -/
theorem isPublic_bound (h : (idsOf files).Number (logOf files)) {b : Address} {name : String}
    {d : Definition} (hd : DefinesType files b name d) :
    ((bound files known faults).symbol ((idsOf files).symbol d.address)).isPublic = d.isPublic := by
  obtain ⟨⟨s, hs⟩, -, -⟩ := definesType_iff.1 hd
  rw [symbol_bound h hs]
  rfl

/-- Different definitions have different ids. -/
theorem address_eq_of_symbol (h : (idsOf files).Number (logOf files))
    {x y : Definition × Statement WrittenType} (hx : x ∈ definitions (logOf files))
    (hy : y ∈ definitions (logOf files))
    (heq : (idsOf files).symbol x.1.address = (idsOf files).symbol y.1.address) :
    x.1.address = y.1.address := by
  obtain ⟨j, hj⟩ := List.mem_iff_getElem?.1 hx
  obtain ⟨k, hk⟩ := List.mem_iff_getElem?.1 hy
  have hjk := h.symbol_index hj
  rw [heq, h.symbol_index hk] at hjk
  rw [hjk, hj, Option.some.injEq] at hk
  rw [hk]

/-- The id of a file is its index. -/
theorem toNat_fileId (fits : Fits files) {file : Nat} {f : ParsedFile} (hf : files[file]? = some f) :
    (UInt32.ofNatClamp file).toNat = file :=
  toNat_ofNatClamp fits.few_files (List.getElem?_eq_some_iff.1 hf).1

/-! ## The target of an include -/

theorem get?_indices (path : Path) (xs : List (ParsedFile × Nat)) :
    (indices xs).get? path =
      (((xs.filter fun x => x.1.path == path).map (·.2)).getLast?).map .ofNatClamp := by
  induction xs using List.reverseRecOn with
  | nil => rfl
  | append_singleton xs x ih =>
    have hlast : indices (xs ++ [x]) = (indices xs).insert x.1.path (.ofNatClamp x.2) := by
      simp [indices]
    rw [hlast, PathMap.get?_insert, ih, List.filter_append, List.map_append, Path.beq_comm]
    by_cases h : (x.1.path == path) = true
    · simp [h]
    · simp [h]

theorem byPath_bound (path : Path) : (bound files known faults).byPath.get? path =
    ((Table.declare files).fileAt? path).map .ofNatClamp := by
  have hfiles : (Table.declare files).files.zipIdx =
      files.zipIdx.map fun x => (⟨x.1.path, x.1.root, [], none⟩, x.2) := by
    simp [Table.declare, List.zipIdx_map, Prod.map_def]
  show (indices files.zipIdx).get? path = _
  rw [get?_indices, Table.fileAt?, hfiles, List.filter_map, List.map_map]
  rfl

theorem includedScope_bound (fits : Fits files) (i : Inclusion) :
    (bound files known faults).includedScope i =
      ((Table.declare files).includedFile i).map fun file => (idsOf files).scope ⟨file, []⟩ := by
  rw [includedScope, byPath_bound, Table.includedFile]
  cases hat : (Table.declare files).fileAt? i.target with
  | none => rfl
  | some target =>
    obtain ⟨f, hf, -⟩ := Table.path_of_fileAt? hat
    have hi := toNat_fileId fits hf
    simp only [Option.map_some, hi, files_bound, hf, Option.getD_some, Table.getElem?_declare]
    cases hr : f.root with
    | ok root => simp only [fileFor, hr]; rfl
    | error d => simp only [fileFor, hr]; rfl

/-! ## The bindings of an include -/

variable {file : Nat} {ss : List (Statement WrittenType)}

theorem types_bound (hb : BuiltInOrder files) (fits : Fits files) {t : Table} (ht : t.Shows files)
    {b : Address} (body : IsBody files b ss) (name : String) :
    ((bound files known faults).scope ((idsOf files).scope b)).types.get? name =
      (t.typeIn? b name).map fun d => (idsOf files).symbol d.address := by
  rw [scope_bound (number_idsOf hb fits) (mem_bodies_iff.2 ⟨ss, body⟩)]
  exact get?_types hb ht body name

theorem fields_bound (hb : BuiltInOrder files) (fits : Fits files) {t : Table} (ht : t.Shows files)
    {b : Address} (body : IsBody files b ss) (name : String) :
    ((bound files known faults).scope ((idsOf files).scope b)).fields.get? name =
      (t.fieldIn? b name).map statementOf := by
  rw [scope_bound (number_idsOf hb fits) (mem_bodies_iff.2 ⟨ss, body⟩)]
  exact get?_fields hb ht body name

/-- The definitions of a body are listed once. -/
theorem nodup_definitionsIn (t : Table) (b : Address) : (t.definitionsIn b).Nodup := by
  have hsub : ((t.definitionsIn b).map (·.address)).Sublist
      ((t.statementsIn b).zipIdx.map fun x => b.child x.2) := by
    rw [Table.definitionsIn, List.map_filterMap]
    apply filterMap_sublist_map
    rintro ⟨s, index⟩ a h
    obtain ⟨d, hd, rfl⟩ := Option.map_eq_some_iff.1 h
    exact Table.address_ofStatement? hd
  refine List.Nodup.of_map (·.address) (List.Nodup.sublist hsub ?_)
  have hindices : ((t.statementsIn b).zipIdx.map fun x => b.child x.2) =
      (List.range' 0 (t.statementsIn b).length).map b.child := by
    rw [← List.zipIdx_map_snd, List.map_map]
    rfl
  rw [hindices]
  refine List.Nodup.map (fun i j hij => ?_) List.nodup_range'
  injection hij with _ hij
  injection hij

/-- Entries whose names are distinct are sorted in one way only, whatever they are made from. -/
theorem mergeSort_eq_map {α β : Type} {key : α → String × β} {xs : List (String × β)} {ys : List α}
    (hx : (xs.map (·.1)).Nodup) (hy : (ys.map key).Nodup) (hmem : ∀ x, x ∈ xs ↔ x ∈ ys.map key) :
    xs.mergeSort (fun x y => decide (x.1 ≤ y.1)) =
      (ys.mergeSort fun x y => decide ((key x).1 ≤ (key y).1)).map key := by
  have htrans : ∀ x y z : String × β, decide (x.1 ≤ y.1) = true → decide (y.1 ≤ z.1) = true →
      decide (x.1 ≤ z.1) = true := by
    intro x y z hxy hyz
    exact decide_eq_true (String.le_trans (of_decide_eq_true hxy) (of_decide_eq_true hyz))
  have htotal : ∀ x y : String × β, (decide (x.1 ≤ y.1) || decide (y.1 ≤ x.1)) = true := by
    intro x y
    simpa using String.le_total x.1 y.1
  have hsame := (List.perm_ext_iff_of_nodup hx.of_map hy).2 hmem
  have hperm := ((List.mergeSort_perm xs fun x y => decide (x.1 ≤ y.1)).trans hsame).trans
    ((List.mergeSort_perm ys fun x y => decide ((key x).1 ≤ (key y).1)).map key).symm
  refine List.Perm.eq_of_pairwise ?_ (List.pairwise_mergeSort htrans htotal xs) ?_ hperm
  · intro x y hxs hys hxy hyx
    have hxs := List.mem_mergeSort.1 hxs
    have hys := List.mem_mergeSort.1 (hperm.mem_iff.2 hys)
    exact List.inj_on_of_nodup_map hx hxs hys
      (String.le_antisymm (of_decide_eq_true hxy) (of_decide_eq_true hyx))
  · rw [List.pairwise_map]
    exact List.pairwise_mergeSort (fun x y z => htrans (key x) (key y) (key z))
      (fun x y => htotal (key x) (key y)) ys

/-- The name and the id of a definition. -/
def keyOf (ids : Ids) (d : Definition) : String × SymbolId := (d.name.name, ids.symbol d.address)

theorem types_entries_bound (hb : BuiltInOrder files) (fits : Fits files)
    (body : IsBody files ⟨file, []⟩ ss) :
    ((bound files known faults).scope ((idsOf files).scope ⟨file, []⟩)).types.entries =
      (typesIn (idsOf files) (definitions (logOf files)) ⟨file, []⟩).reverse := by
  rw [scope_bound (number_idsOf hb fits) (mem_bodies_iff.2 ⟨ss, body⟩), scopeFor,
    Dictionary.entries_ofList (nodup_typesIn hb body)]

variable (known faults) in
/-- The public types of a root are those of its public definitions. -/
theorem mem_publicTypes (hb : BuiltInOrder files) (fits : Fits files)
    (body : IsBody files ⟨file, []⟩ ss) (x : String × SymbolId) :
    x ∈ (typesIn (idsOf files) (definitions (logOf files)) ⟨file, []⟩).reverse.filter
        (fun x => ((bound files known faults).symbol x.2).isPublic) ↔
      x ∈ (((Table.declare files).definitionsIn ⟨file, []⟩).filter Definition.isPublic).map
        (keyOf (idsOf files)) := by
  have h := number_idsOf hb fits
  rw [List.mem_filter, List.mem_reverse, mem_typesIn]
  simp only [List.mem_map, List.mem_filter,
    Table.mem_definitionsIn (Table.shows_declare files) body]
  constructor
  · rintro ⟨⟨d, hd, hid⟩, hpub⟩
    rw [← hid, isPublic_bound known faults h hd] at hpub
    exact ⟨d, ⟨hd.name_eq.symm ▸ hd, hpub⟩, Prod.ext hd.name_eq hid⟩
  · rintro ⟨d, ⟨hd, hpub⟩, rfl⟩
    exact ⟨⟨d, hd, rfl⟩, (isPublic_bound known faults h hd).trans hpub⟩

/-- A star binds the same names in the arena as in the table, in the same order. -/
theorem starBindings_bound (hb : BuiltInOrder files) (fits : Fits files)
    (body : IsBody files ⟨file, []⟩ ss) (i : Inclusion) :
    (bound files known faults).starBindings ((idsOf files).scope ⟨file, []⟩) i =
      ((Table.declare files).starBindings file i).map (bindingOf (idsOf files)) := by
  have ht := Table.shows_declare files
  have hnames : ((typesIn (idsOf files) (definitions (logOf files))
      ⟨file, []⟩).reverse.map (·.1)).Nodup := by
    rw [List.map_reverse]
    exact List.nodup_reverse.2 (nodup_typesIn hb body)
  have hkeys : ((((Table.declare files).definitionsIn ⟨file, []⟩).filter Definition.isPublic).map
      (keyOf (idsOf files))).Nodup := by
    refine ((nodup_definitionsIn _ _).filter _).map_on fun d hd e he hde => ?_
    have hd := (List.mem_filter.1 hd).1
    have he := (List.mem_filter.1 he).1
    have hn : d.name.name = e.name.name := congrArg Prod.fst hde
    rw [Table.mem_definitionsIn ht body, ← Table.typeIn?_eq_some_iff hb.each ht body] at hd he
    rw [hn, he, Option.some.injEq] at hd
    exact hd.symm
  have hsorted := mergeSort_eq_map (hnames.sublist (List.filter_sublist.map _)) hkeys
    (mem_publicTypes known faults hb fits body)
  rw [starBindings, types_entries_bound hb fits body]
  simp only [hsorted, Table.starBindings, List.map_map]
  rfl

variable (known faults) in
theorem itemBinding_bound (hb : BuiltInOrder files) (fits : Fits files)
    (body : IsBody files ⟨file, []⟩ ss) (item : IncludeItem) :
    (bound files known faults).itemBinding ((idsOf files).scope ⟨file, []⟩) item =
      ((Table.declare files).itemBinding file item).map (bindingOf (idsOf files)) := by
  have ht := Table.shows_declare files
  rw [itemBinding, types_bound hb fits ht body, fields_bound hb fits ht body, Table.itemBinding]
  cases hd : (Table.declare files).typeIn? ⟨file, []⟩ item.element.name with
  | none =>
    simp only [Option.map_none, Option.isSome_map]
    split <;> rfl
  | some d =>
    have hpub := isPublic_bound known faults (number_idsOf hb fits)
      (Table.definesType_of_typeIn? ht hd)
    simp only [Option.map_some, hpub]
    split <;> rfl

theorem mapM_map {α β γ ε : Type} {f : α → Except ε β} {f' : α → Except ε γ} {g : β → γ}
    (h : ∀ x, f' x = (f x).map g) (l : List α) : l.mapM f' = (l.mapM f).map (List.map g) := by
  induction l with
  | nil => rfl
  | cons x l ih =>
    rw [List.mapM_cons, List.mapM_cons, ih, h]
    cases f x with
    | error e => rfl
    | ok y => cases l.mapM f <;> rfl

/-- An include binds the same names in the arena as in the table, or fails alike. -/
theorem includeBindings_bound (hb : BuiltInOrder files) (fits : Fits files) (i : Inclusion) :
    (bound files known faults).includeBindings i =
      ((Table.declare files).includeBindings i).map (List.map (bindingOf (idsOf files))) := by
  rw [includeBindings, includedScope_bound fits, Table.includeBindings]
  cases htarget : (Table.declare files).includedFile i with
  | error d => rfl
  | ok file =>
    obtain ⟨-, f, root, hf, hr⟩ := Table.includedFile_eq_ok_iff.1 htarget
    have body : IsBody files ⟨file, []⟩ root.statements := .root hf hr
    have hitems := mapM_map (itemBinding_bound known faults hb fits body)
      i.items
    cases hstar : i.isStar with
    | true =>
      have hnone : i.items = [] := List.isEmpty_iff.1 hstar
      simp [Except.map, hnone, starBindings_bound hb fits body]
    | false =>
      simp only [Except.map, Bool.false_eq_true, if_false, List.nil_append, bind_pure]
      exact hitems

/-! ## Binding names -/

/-- An import is of a definition of the files. -/
def Defined (files : List ParsedFile) (i : Import) : Prop :=
  ∃ x ∈ definitions (logOf files), x.1.address = i.target

/-- What may be bound at a root: each name once, and to a definition of the files. -/
structure Sound (files : List ParsedFile) (bs : List Import) : Prop where
  nodup : (bs.map (·.name)).Nodup
  defined : ∀ i ∈ bs, Defined files i

theorem sound_nil : Sound files [] := ⟨List.nodup_nil, fun _ h => (by cases h)⟩

theorem Sound.concat {bs : List Import} {i : Import} (h : Sound files bs) (hi : Defined files i)
    (hnew : ¬ bs.any (·.name == i.name) = true) : Sound files (bs ++ [i]) := by
  constructor
  · rw [List.map_append, List.map_singleton, List.nodup_append]
    refine ⟨h.nodup, List.nodup_singleton _, fun name hn other ho => ?_⟩
    obtain ⟨j, hj, rfl⟩ := List.mem_map.1 hn
    rw [List.mem_singleton.1 ho]
    intro heq
    exact hnew (List.any_eq_true.2 ⟨j, hj, by simpa using heq⟩)
  · intro j hj
    rcases List.mem_append.1 hj with hj | hj
    · exact h.defined j hj
    · exact List.mem_singleton.1 hj ▸ hi

theorem get?_imports {bs : List Import} (h : Sound files bs) (ids : Ids) (name : String) :
    (Dictionary.ofList (bs.map (bindingOf ids))).get? name =
      (bs.find? (·.name == name)).map fun i => ⟨ids.symbol i.target, i.range⟩ := by
  have hn : ((bs.map (bindingOf ids)).map (·.1)).Nodup := by
    rw [List.map_map]
    exact h.nodup
  rw [Dictionary.get?_ofList_of_nodup hn, List.find?_map, Option.map_map]
  rfl

variable (known faults) in
/-- A name is taken in the arena exactly if it is in the table. -/
theorem firstBinding?_bound (hb : BuiltInOrder files) (fits : Fits files)
    (body : IsBody files ⟨file, []⟩ ss) (hs : Sound files (known file)) {i : Import}
    (hi : Defined files i) :
    (bound files known faults).firstBinding? ((idsOf files).scope ⟨file, []⟩) i.name
        ((idsOf files).symbol i.target) =
      (Table.declare files).clash? file (known file) i := by
  have h := number_idsOf hb fits
  have ht := Table.shows_declare files
  obtain ⟨x, hx, hxi⟩ := hi
  have himports : ((bound files known faults).scope ((idsOf files).scope ⟨file, []⟩)).imports =
      .ofList ((known file).map (bindingOf (idsOf files))) := by
    rw [scope_bound h (mem_bodies_iff.2 ⟨ss, body⟩)]
    rfl
  rw [firstBinding?, types_bound hb fits ht body, himports, get?_imports hs, Table.clash?, ← hxi]
  cases hown : (Table.declare files).typeIn? ⟨file, []⟩ i.name with
  | some own =>
    obtain ⟨⟨s, hmem⟩, -, -⟩ := definesType_iff.1 (Table.definesType_of_typeIn? ht hown)
    have hiff : (idsOf files).symbol own.address = (idsOf files).symbol x.1.address ↔
        own.address = x.1.address := ⟨address_eq_of_symbol h hmem hx, congrArg _⟩
    have hname : ((bound files known faults).symbol ((idsOf files).symbol own.address)).name =
        own.name := by
      rw [symbol_bound h hmem]
      rfl
    simp only [Option.map_some, hiff, hname]
  | none =>
    cases hfind : (known file).find? (·.name == i.name) with
    | none => rfl
    | some j =>
      obtain ⟨y, hy, hyj⟩ := hs.defined j (List.mem_of_find?_eq_some hfind)
      have hiff : (idsOf files).symbol j.target = (idsOf files).symbol x.1.address ↔
          j.target = x.1.address := by
        rw [← hyj]
        exact ⟨address_eq_of_symbol h hy hx, congrArg _⟩
      by_cases heq : j.target = x.1.address
      · simp [Option.filter, heq]
      · simp [Option.filter, heq, hiff]

variable (known faults) in
/-- A name is bound at a root of the arena. -/
theorem addImport_bound (h : (idsOf files).Number (logOf files)) (body : IsBody files ⟨file, []⟩ ss)
    (i : Import) :
    (bound files known faults).addImport ((idsOf files).scope ⟨file, []⟩) i.name
        ⟨(idsOf files).symbol i.target, i.range⟩ =
      bound files (Function.update known file (if (known file).any (·.name == i.name) then known file
        else known file ++ [i])) faults := by
  have hopen := h.getElem?_index (mem_bodies_iff.2 ⟨ss, body⟩)
  have hany : ((known file).map (bindingOf (idsOf files))).any (·.1 == i.name) =
      (known file).any (·.name == i.name) := by
    rw [List.any_map]
    rfl
  have hscopes : ((bodies (logOf files)).map (scopeFor (idsOf files)
        (importsFor (idsOf files) known) (definitions (logOf files)) (fields (logOf files)))).modify
      ((idsOf files).scope ⟨file, []⟩).index (fun sc => { sc with
        imports := sc.imports.insertNew i.name ⟨(idsOf files).symbol i.target, i.range⟩ }) =
      (bodies (logOf files)).map (scopeFor (idsOf files) (importsFor (idsOf files)
        (Function.update known file (if (known file).any (·.name == i.name) then known file
          else known file ++ [i]))) (definitions (logOf files)) (fields (logOf files))) := by
    refine modify_map h.nodup hopen ?_ fun b hb => ?_
    · simp only [scopeFor, importsFor, Dictionary.insertNew_ofList, hany, Function.update_self]
      split
      · rfl
      · rw [List.map_append]
        rfl
    · obtain ⟨other, path⟩ := b
      cases path with
      | nil =>
        have hne : other ≠ file := fun heq => hb (heq ▸ rfl)
        simp only [scopeFor, importsFor, Function.update_of_ne hne]
      | cons index outer => rfl
  simp only [addImport, bound, laid, List.modify_toArray, hscopes]

variable (known faults) in
/-- Names are bound in the arena as they are in the table. -/
theorem addBindings_bound (hb : BuiltInOrder files) (fits : Fits files)
    (body : IsBody files ⟨file, []⟩ ss) (hs : Sound files (known file)) {bs : List Import}
    (hbs : ∀ i ∈ bs, Defined files i) :
    (bound files known faults).addBindings ((idsOf files).scope ⟨file, []⟩)
        (bs.map (bindingOf (idsOf files))) =
      (bound files (Function.update known file
        ((Table.declare files).addBindings file (known file) bs).1) faults,
        ((Table.declare files).addBindings file (known file) bs).2) ∧
      Sound files ((Table.declare files).addBindings file (known file) bs).1 := by
  induction bs generalizing known with
  | nil =>
    rw [List.map_nil, addBindings, Table.addBindings, Function.update_eq_self]
    exact ⟨rfl, hs⟩
  | cons i rest ih =>
    obtain ⟨hi, hrest⟩ := List.forall_mem_cons.1 hbs
    have hfirst := firstBinding?_bound known faults hb fits body hs hi
    rw [List.map_cons, bindingOf, addBindings, hfirst, Table.addBindings]
    cases hclash : (Table.declare files).clash? file (known file) i with
    | some first =>
      simp only [Function.update_eq_self]
      exact ⟨trivial, hs⟩
    | none =>
      have hnext : Sound files (if (known file).any (·.name == i.name) then known file
          else known file ++ [i]) := by
        split
        · exact hs
        · rename_i hnew
          exact hs.concat hi hnew
      have hadd := addImport_bound known faults (number_idsOf hb fits) body i
      simp only [hadd]
      have hrest := ih (Function.update known file _)
        (by rw [Function.update_self]; exact hnext) hrest
      simpa only [Function.update_self, Function.update_idem] using hrest

/-! ## All includes -/

variable {f : ParsedFile} {root : Root WrittenType}

theorem defined_of_includeBindings {i : Inclusion} {bs : List Import}
    (h : (Table.declare files).includeBindings i = .ok bs) : ∀ b ∈ bs, Defined files b := by
  intro b hb
  obtain ⟨_, _, _, d, -, -, -, hd, -, htarget⟩ := Table.mem_includeBindings h hb
  obtain ⟨⟨s, hs⟩, -, -⟩ := definesType_iff.1 hd
  exact ⟨_, hs, htarget.symm⟩

variable (known faults) in
/-- An include is bound in the arena as it is in the table. -/
theorem bindInclude_bound (hb : BuiltInOrder files) (fits : Fits files) (hf : files[file]? = some f)
    (hr : f.root = .ok root) (hs : Sound files (known file)) (i : Inclusion) :
    (bound files known faults).bindInclude (.ofNatClamp file) i =
        (bound files (Function.update known file
          ((Table.declare files).bindInclude file (known file) i).1) faults,
          ((Table.declare files).bindInclude file (known file) i).2) ∧
      Sound files ((Table.declare files).bindInclude file (known file) i).1 := by
  rw [bindInclude, includeBindings_bound hb fits, Table.bindInclude]
  cases hbs : (Table.declare files).includeBindings i with
  | error d =>
    simp only [Except.map, Function.update_eq_self]
    exact ⟨trivial, hs⟩
  | ok bs =>
    simp only [Except.map, toNat_fileId fits hf, files_bound, hf, Option.map_some,
      Option.getD_some, fileFor, hr]
    exact addBindings_bound known faults hb fits (.root hf hr) hs (defined_of_includeBindings hbs)

/-- Faults with one more, if there is one. -/
def withFault (faults : Dictionary FileId Diagnostic) (file : Nat) :
    Option Diagnostic → Dictionary FileId Diagnostic
  | none => faults
  | some d => faults.insertNew (.ofNatClamp file) d

variable (known faults) in
/-- The includes of a file are bound in the arena as they are in the table. -/
theorem bindIncludes_bound (hb : BuiltInOrder files) (fits : Fits files)
    (hf : files[file]? = some f) (hr : f.root = .ok root) (hs : Sound files (known file))
    (is : List Inclusion) :
    (bound files known faults).bindIncludes (.ofNatClamp file) is =
      bound files
        (Function.update known file ((Table.declare files).bindIncludes file (known file) is).1)
        (withFault faults file ((Table.declare files).bindIncludes file (known file) is).2) ∧
      Sound files ((Table.declare files).bindIncludes file (known file) is).1 := by
  induction is generalizing known with
  | nil =>
    rw [bindIncludes, Table.bindIncludes, Function.update_eq_self]
    exact ⟨rfl, hs⟩
  | cons i rest ih =>
    obtain ⟨hfirst, hnext⟩ := bindInclude_bound known faults hb fits hf hr
      hs i
    rw [bindIncludes, hfirst, Table.bindIncludes]
    cases hi : (Table.declare files).bindInclude file (known file) i with
    | mk later fault =>
      rw [hi] at hnext
      cases fault with
      | some d => exact ⟨rfl, hnext⟩
      | none =>
        have hrest := ih (Function.update known file later)
          (by rw [Function.update_self]; exact hnext)
        simpa only [Function.update_self, Function.update_idem] using hrest

/-- What is bound in the first files of a table. -/
def knownBefore (t : Table) (count file : Nat) : List Import :=
  if file < count then t.importsOf file else []

/-- The faults in the first files of a table. -/
def faultsBefore (t : Table) (count : Nat) : Dictionary FileId Diagnostic :=
  .ofList ((List.range count).filterMap fun file =>
    (t.includeFault? file).map fun d => (.ofNatClamp file, d))

theorem knownBefore_succ (t : Table) (count : Nat) :
    knownBefore t (count + 1) = Function.update (knownBefore t count) count (t.importsOf count) := by
  funext file
  by_cases h : file = count
  · rw [h, Function.update_self, knownBefore, if_pos (Nat.lt_succ_self count)]
  · rw [Function.update_of_ne h, knownBefore, knownBefore]
    simp only [show file < count + 1 ↔ file < count by omega]

theorem faultsBefore_succ (t : Table) {count : Nat} (h : count < 2 ^ 32) :
    faultsBefore t (count + 1) = withFault (faultsBefore t count) count (t.includeFault? count) := by
  rw [faultsBefore, List.range_succ, List.filterMap_append]
  cases hfault : t.includeFault? count with
  | none =>
    rw [List.filterMap_cons_none (by rw [hfault]; rfl), List.filterMap_nil, List.append_nil]
    rfl
  | some d =>
    rw [List.filterMap_cons_some (by rw [hfault]; rfl), List.filterMap_nil, withFault, faultsBefore,
      Dictionary.insertNew_ofList, if_neg]
    intro hany
    obtain ⟨x, hx, hkey⟩ := List.any_eq_true.1 hany
    obtain ⟨file, hfile, hx⟩ := List.mem_filterMap.1 hx
    obtain ⟨_, -, rfl⟩ := Option.map_eq_some_iff.1 hx
    have hlt := List.mem_range.1 hfile
    have hsame := congrArg UInt32.toNat (eq_of_beq hkey)
    rw [UInt32.toNat_ofNatClamp_of_lt (Nat.lt_trans hlt h), UInt32.toNat_ofNatClamp_of_lt h] at hsame
    omega

/-- The includes of one more file are bound. -/
theorem bindFile_bound (hb : BuiltInOrder files) (fits : Fits files) (hf : files[file]? = some f) :
    (bound files (knownBefore (Table.ofFiles files) file)
        (faultsBefore (Table.ofFiles files) file)).bindFile file f =
      bound files (knownBefore (Table.ofFiles files) (file + 1))
        (faultsBefore (Table.ofFiles files) (file + 1)) := by
  have hlt := Nat.lt_of_lt_of_le (List.getElem?_eq_some_iff.1 hf).1 fits.few_files
  have hnone : knownBefore (Table.ofFiles files) file file = [] := if_neg (Nat.lt_irrefl file)
  rw [knownBefore_succ, faultsBefore_succ _ hlt]
  cases hr : f.root with
  | error d =>
    have himports : (Table.ofFiles files).importsOf file = [] := by
      simp [Table.importsOf, Table.getElem?_ofFiles, hf, Table.bindFile, hr]
    have hfault : (Table.ofFiles files).includeFault? file = none := by
      simp [Table.includeFault?, Table.getElem?_ofFiles, hf, Table.bindFile, hr]
    simp only [bindFile, hr]
    rw [himports, hfault, ← hnone, Function.update_eq_self]
    rfl
  | ok root =>
    simp only [bindFile, hr]
    rw [(bindIncludes_bound _ _ hb fits hf hr (hnone ▸ sound_nil) _).1, hnone,
      Table.importsOf_ofFiles hf hr, Table.includeFault?_ofFiles hf hr]

theorem bindFiles_bound (hb : BuiltInOrder files) (fits : Fits files)
    (before rest : List ParsedFile) (h : before ++ rest = files) :
    (bound files (knownBefore (Table.ofFiles files) before.length)
        (faultsBefore (Table.ofFiles files) before.length)).bindFiles before.length rest =
      bound files (knownBefore (Table.ofFiles files) files.length)
        (faultsBefore (Table.ofFiles files) files.length) := by
  induction rest generalizing before with
  | nil =>
    rw [List.append_nil] at h
    rw [bindFiles, h]
  | cons f rest ih =>
    have hf : files[before.length]? = some f := by simp [← h]
    have hrest := ih (before ++ [f]) (by rw [List.append_assoc]; exact h)
    rw [List.length_append, List.length_singleton] at hrest
    rw [bindFiles, bindFile_bound hb fits hf, hrest]

/-- The arena of files has a scope for each body and a symbol for each definition, and at the roots
the bindings of the table. -/
theorem ofFiles_eq (hb : BuiltInOrder files) (fits : Fits files) :
    ofFiles files = bound files (Table.ofFiles files).importsOf
      (faultsBefore (Table.ofFiles files) files.length) := by
  have hstart : empty.declareFiles 0 files = bound files (knownBefore (Table.ofFiles files) 0)
      (faultsBefore (Table.ofFiles files) 0) := by
    rw [declareFiles_eq hb fits, declared_eq_bound]
    rfl
  have hknown : knownBefore (Table.ofFiles files) files.length = (Table.ofFiles files).importsOf := by
    funext file
    unfold knownBefore
    split
    · rfl
    · rename_i hlt
      rw [Table.importsOf, Table.getElem?_ofFiles, List.getElem?_eq_none (Nat.not_lt.1 hlt)]
      rfl
  rw [ofFiles, hstart, ← hknown]
  exact bindFiles_bound hb fits [] files rfl

end

end Arena
end Schemata
