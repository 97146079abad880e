import Mathlib
import Schemata.Proofs.Arena.Layout

/-!
# The numbers of bodies and definitions

In files that were built in order, every body and every definition has an address of its own. So the
place of an address in the order of reading is an id for it, as long as the places fit 32 bits, and
the arena in which the files have been declared is the one of these ids.

Results:
* `Arena.number_idsOf`: the places in the order of reading number a log through.
* `Arena.declareFiles_eq`: the arena in which files have been declared.
* `Arena.get?_types`, `Arena.get?_fields`: what a scope of it has under a name is what the body
  defines.
-/
namespace Schemata
namespace Arena

variable {files : List ParsedFile}

/-! ## The log of files -/

/-- What declaring files enters into the log. -/
def logOf (files : List ParsedFile) : List Entry := files.zipIdx.flatMap entriesOf

theorem mem_entries_statement {xs : List (Address × Statement WrittenType)} {a : Address}
    {s : Statement WrittenType} : .statement a s ∈ entries xs ↔ (a, s) ∈ xs := by
  simp only [entries, List.mem_map, Entry.statement.injEq, Prod.exists]
  constructor
  · rintro ⟨_, _, h, rfl, rfl⟩
    exact h
  · exact fun h => ⟨a, s, h, rfl, rfl⟩

theorem root_not_mem_entries {xs : List (Address × Statement WrittenType)} {file : Nat} :
    .root file ∉ entries xs := by
  simp [entries]

/-- The roots in the log are those of the files that have one. -/
theorem mem_logOf_root {file : Nat} :
    .root file ∈ logOf files ↔ ∃ f root, files[file]? = some f ∧ f.root = .ok root := by
  simp only [logOf, List.mem_flatMap, Prod.exists, List.mem_zipIdx_iff_getElem?, entriesOf]
  constructor
  · rintro ⟨f, i, hf, h⟩
    split at h
    · rename_i root hr
      rcases List.mem_cons.1 h with h | h
      · injection h with h
        exact ⟨f, root, h ▸ hf, hr⟩
      · exact absurd h root_not_mem_entries
    · cases h
  · rintro ⟨f, root, hf, hr⟩
    exact ⟨f, file, hf, by simp [hr]⟩

/-- The statements in the log are those of the table. -/
theorem mem_logOf_statement {a : Address} {s : Statement WrittenType} :
    .statement a s ∈ logOf files ↔ (a, s) ∈ (Table.ofFiles files).allStatements := by
  simp only [logOf, List.mem_flatMap, Prod.exists, List.mem_zipIdx_iff_getElem?,
    Table.allStatements, List.mem_range, Table.rootStatements_ofFiles, Table.parsedStatements]
  constructor
  · rintro ⟨f, i, hf, h⟩
    have hlt : i < (Table.ofFiles files).files.length := by
      have := (List.getElem?_eq_some_iff.1 hf).1
      simpa [Table.ofFiles, Table.declare] using this
    refine ⟨i, hlt, ?_⟩
    cases hr : f.root with
    | error d => simp [entriesOf, hr] at h
    | ok root =>
      simp only [entriesOf, hr, List.mem_cons, reduceCtorEq, false_or] at h
      simp only [hf, hr]
      exact mem_entries_statement.1 h
  · rintro ⟨i, -, h⟩
    cases hf : files[i]? with
    | none => simp [hf, Table.addressedIn] at h
    | some f =>
      refine ⟨f, i, hf, ?_⟩
      cases hr : f.root with
      | error d => simp [hf, hr, Table.addressedIn] at h
      | ok root =>
        simp only [hf, hr] at h
        simp only [entriesOf, hr, List.mem_cons, reduceCtorEq, false_or]
        exact mem_entries_statement.2 h

/-! ## Addresses are distinct -/

/-- The address that an entry is about. -/
def Entry.address : Entry → Address
  | root file => ⟨file, []⟩
  | statement a _ => a

theorem filterMap_sublist_map {α β : Type} {f : α → Option β} {g : α → β}
    (h : ∀ x y, f x = some y → y = g x) (l : List α) : (l.filterMap f).Sublist (l.map g) := by
  induction l with
  | nil => exact List.Sublist.refl _
  | cons x l ih =>
    cases hx : f x with
    | none =>
      rw [List.filterMap_cons_none hx]
      exact ih.cons _
    | some y =>
      rw [List.filterMap_cons_some hx, List.map_cons, h x y hx]
      exact ih.cons_cons _

theorem bodies_sublist (log : List Entry) : (bodies log).Sublist (log.map Entry.address) := by
  apply filterMap_sublist_map
  intro e b h
  cases e with
  | root file => exact (Option.some.inj h).symm
  | statement a s => cases s <;> first | exact (Option.some.inj h).symm | cases h

theorem addresses_sublist (log : List Entry) :
    ((definitions log).map (·.1.address)).Sublist (log.map Entry.address) := by
  rw [definitions, List.map_filterMap]
  apply filterMap_sublist_map
  intro e b h
  cases e with
  | root file => cases h
  | statement a s =>
    simp only [Entry.definition?, Option.map_map, Option.map_eq_some_iff] at h
    obtain ⟨d, hd, rfl⟩ := h
    exact Table.address_ofStatement? hd

theorem path_ne_nil_of_mem {a : Address} {s : Statement WrittenType}
    (h : (a, s) ∈ (Table.ofFiles files).allStatements) : a.path ≠ [] := by
  intro hpath
  have hat := Table.mem_allStatements_iff.1 h
  rw [Table.statementAt?, hpath] at hat
  cases hat

/-- Two statements of the table stand at different addresses. -/
theorem nodup_statementAddresses (hb : BuiltInOrder files) :
    ((Table.ofFiles files).allStatements.map (·.1)).Nodup := by
  have hn := (Table.nodup_ids hb).of_map
  refine hn.map_on fun x hx y hy hxy => ?_
  have hx := Table.mem_allStatements_iff.1 hx
  have hy := Table.mem_allStatements_iff.1 hy
  rw [hxy, hy, Option.some.injEq] at hx
  exact Prod.ext hxy hx.symm

/-- The addresses that the entries of a file are about are distinct. -/
theorem nodup_entriesOf (hb : BuiltInOrder files) {x : ParsedFile × Nat} (hx : x ∈ files.zipIdx) :
    ((entriesOf x).map Entry.address).Nodup := by
  obtain ⟨f, file⟩ := x
  have hf := List.mem_zipIdx_iff_getElem?.1 hx
  cases hr : f.root with
  | error d =>
    simp only [entriesOf, hr]
    exact List.nodup_nil
  | ok root =>
    have haddresses : (entries (Table.addressedIn ⟨file, []⟩ 0 root.statements)).map Entry.address =
        (Table.addressedIn ⟨file, []⟩ 0 root.statements).map (·.1) := by
      rw [entries, List.map_map]
      rfl
    simp only [entriesOf, hr, List.map_cons, haddresses]
    refine List.nodup_cons.2 ⟨fun hm => ?_, ?_⟩
    · obtain ⟨⟨a, s⟩, hs, ha⟩ := List.mem_map.1 hm
      have hpath := path_ne_nil_of_mem (Table.addressedIn_root_subset hf hr hs)
      exact hpath (congrArg Address.path ha)
    · have hn := nodup_statementAddresses hb
      rw [Table.allStatements, List.map_flatMap, List.nodup_flatMap] at hn
      have hlt : file < (Table.ofFiles files).files.length := by
        simpa [Table.ofFiles, Table.declare] using (List.getElem?_eq_some_iff.1 hf).1
      simpa only [Table.rootStatements_ofFiles, Table.parsedStatements, hf, hr] using
        hn.1 file (List.mem_range.2 hlt)

theorem file_of_mem_entriesOf {x : ParsedFile × Nat} {a : Address}
    (h : a ∈ (entriesOf x).map Entry.address) : a.file = x.2 := by
  obtain ⟨e, he, rfl⟩ := List.mem_map.1 h
  unfold entriesOf at he
  split at he
  · rcases List.mem_cons.1 he with rfl | he
    · rfl
    · obtain ⟨⟨a, s⟩, hs, rfl⟩ := List.mem_map.1 he
      exact Table.file_of_mem_addressedIn _ _ _ _ hs
  · cases he

/-- No two entries are about the same address. -/
theorem nodup_addresses (hb : BuiltInOrder files) : ((logOf files).map Entry.address).Nodup := by
  rw [logOf, List.map_flatMap, List.nodup_flatMap]
  refine ⟨fun x hx => nodup_entriesOf hb hx, ?_⟩
  have hindices : (files.zipIdx.map Prod.snd).Nodup := by
    rw [List.zipIdx_map_snd]
    exact List.nodup_range'
  refine (List.pairwise_map.1 hindices).imp fun {x y} hne => ?_
  intro a hx hy
  exact hne ((file_of_mem_entriesOf hx).symm.trans (file_of_mem_entriesOf hy))

/-! ## Ids -/

/-- The ids by places in the order of reading. -/
def idsOf (files : List ParsedFile) : Ids where
  scope b := .ofIndex ((bodies (logOf files)).idxOf b)
  symbol a := .ofIndex (((definitions (logOf files)).map (·.1.address)).idxOf a)

/-- The files, their bodies and their definitions can be numbered through with 32 bits each. Beyond
that ids are shared. -/
structure Fits (files : List ParsedFile) : Prop where
  few_files : files.length ≤ 2 ^ 32
  few_bodies : (bodies (logOf files)).length ≤ 2 ^ 32
  few_definitions : (definitions (logOf files)).length ≤ 2 ^ 32

theorem toNat_ofNatClamp {k n : Nat} (hn : n ≤ 2 ^ 32) (h : k < n) :
    (UInt32.ofNatClamp k).toNat = k :=
  UInt32.toNat_ofNatClamp_of_lt (Nat.lt_of_lt_of_le h hn)

/-- The places in the order of reading number the log of the files through. -/
theorem number_idsOf (hb : BuiltInOrder files) (fits : Fits files) :
    (idsOf files).Number (logOf files) := by
  have hbodies := (nodup_addresses hb).sublist (bodies_sublist _)
  have haddresses := (nodup_addresses hb).sublist (addresses_sublist _)
  have hscope : ∀ {k b}, (bodies (logOf files))[k]? = some b →
      (bodies (logOf files)).idxOf b = k := by
    intro k b hk
    obtain ⟨hlt, rfl⟩ := List.getElem?_eq_some_iff.1 hk
    exact hbodies.idxOf_getElem k hlt
  have hsymbol : ∀ {k x}, (definitions (logOf files))[k]? = some x →
      ((definitions (logOf files)).map (·.1.address)).idxOf x.1.address = k := by
    intro k x hk
    have hk : ((definitions (logOf files)).map (·.1.address))[k]? = some x.1.address := by
      rw [List.getElem?_map, hk]
      rfl
    obtain ⟨hlt, heq⟩ := List.getElem?_eq_some_iff.1 hk
    rw [← heq]
    exact haddresses.idxOf_getElem k hlt
  refine ⟨hbodies, fun hk => congrArg ScopeId.ofIndex (hscope hk), fun hk => ?_,
    fun hk => congrArg SymbolId.ofIndex (hsymbol hk),
    fun hk => ?_⟩
  · show (UInt32.ofNatClamp _).toNat = _
    rw [hscope hk]
    exact toNat_ofNatClamp fits.few_bodies (List.getElem?_eq_some_iff.1 hk).1
  · show (UInt32.ofNatClamp _).toNat = _
    rw [hsymbol hk]
    exact toNat_ofNatClamp fits.few_definitions (List.getElem?_eq_some_iff.1 hk).1

/-- The arena in which files have been declared. -/
theorem declareFiles_eq (hb : BuiltInOrder files) (fits : Fits files) :
    empty.declareFiles 0 files = declared (idsOf files) files.zipIdx :=
  (declareFiles_declared [] 0 files .nil (number_idsOf hb fits)).1

theorem closed_logOf (hb : BuiltInOrder files) (fits : Fits files) : Closed (logOf files) :=
  (declareFiles_declared [] 0 files .nil (number_idsOf hb fits)).2

/-! ## What is found -/

/-- There is a body for each scope of the log. -/
theorem mem_bodies_iff {b : Address} : b ∈ bodies (logOf files) ↔ ∃ ss, IsBody files b ss := by
  constructor
  · intro h
    obtain ⟨e, he, hb⟩ := List.mem_filterMap.1 h
    cases e with
    | root file =>
      obtain ⟨f, root, hf, hr⟩ := mem_logOf_root.1 he
      cases hb
      exact ⟨_, .root hf hr⟩
    | statement a s =>
      have hs := mem_logOf_statement.1 he
      cases s with
      | struct id range name bases metadata children =>
        cases hb
        have hd : (Table.ofFiles files).Holds ⟨b, id, name, .struct bases⟩ := ⟨_, hs, rfl⟩
        exact ⟨_, hd.isBody (Table.shows_ofFiles files) rfl⟩
      | item | extension | inclusion => cases hb
  · rintro ⟨ss, body⟩
    cases body with
    | root hf hr => exact List.mem_filterMap.2 ⟨.root _, mem_logOf_root.2 ⟨_, _, hf, hr⟩, rfl⟩
    | @children scope _ index id range name bases metadata _ outer hs =>
      rw [← Table.statementsIn_of_isBody (Table.shows_ofFiles files) outer,
        ← Table.statementAt?_child, ← Table.mem_allStatements_iff] at hs
      exact List.mem_filterMap.2 ⟨_, mem_logOf_statement.2 hs, rfl⟩

/-- The definitions of the log are those of the table. -/
theorem mem_definitions_iff {d : Definition} {s : Statement WrittenType} :
    (d, s) ∈ definitions (logOf files) ↔
      (Table.ofFiles files).statementAt? d.address = some s ∧
        Definition.ofStatement? d.address s = some d := by
  rw [← Table.mem_allStatements_iff]
  constructor
  · intro h
    obtain ⟨e, he, hd⟩ := List.mem_filterMap.1 h
    cases e with
    | root file => cases hd
    | statement a u =>
      obtain ⟨_, hof, heq⟩ := Option.map_eq_some_iff.1 hd
      cases heq
      have haddress := Table.address_ofStatement? hof
      rw [haddress]
      exact ⟨mem_logOf_statement.1 he, hof⟩
  · rintro ⟨hs, hd⟩
    refine List.mem_filterMap.2 ⟨_, mem_logOf_statement.2 hs, ?_⟩
    rw [Entry.definition?, hd]
    rfl

/-- The definitions of a scope are those that its body makes. -/
theorem definesType_iff {b : Address} {name : String} {d : Definition} :
    DefinesType files b name d ↔
      (∃ s, (d, s) ∈ definitions (logOf files)) ∧ d.address.scope = b ∧ d.name.name = name := by
  simp only [mem_definitions_iff]
  constructor
  · rintro ⟨body, hs, hd, hn⟩
    rw [Table.address_ofStatement? hd, Table.statementAt?_child,
      Table.statementsIn_of_isBody (Table.shows_ofFiles files) body]
    exact ⟨⟨_, hs, hd⟩, rfl, hn⟩
  · rintro ⟨⟨s, hs, hd⟩, rfl, hn⟩
    obtain ⟨⟨file, path⟩, id, ident, kind⟩ := d
    cases path with
    | nil => cases hs
    | cons index outer =>
      have hs : ((Table.ofFiles files).statementsIn ⟨file, outer⟩)[index]? = some s := hs
      exact ⟨Table.isBody_of_mem (Table.shows_ofFiles files) (List.mem_of_getElem? hs), hs, hd, hn⟩

section
variable {ids : Ids} {t : Table} {b : Address} {ss : List (Statement WrittenType)}

theorem mem_typesIn {name : String} {id : SymbolId} :
    (name, id) ∈ typesIn ids (definitions (logOf files)) b ↔
      ∃ d, DefinesType files b name d ∧ ids.symbol d.address = id := by
  simp only [typesIn, List.mem_map, List.mem_filter, decide_eq_true_eq, Prod.exists, Prod.mk.injEq,
    definesType_iff]
  constructor
  · rintro ⟨d, s, ⟨hd, hb⟩, hn, hid⟩
    exact ⟨d, ⟨⟨s, hd⟩, hb, hn⟩, hid⟩
  · rintro ⟨d, ⟨⟨s, hd⟩, hb, hn⟩, hid⟩
    exact ⟨d, s, ⟨hd, hb⟩, hn, hid⟩

theorem nodup_definitions (hb : BuiltInOrder files) : (definitions (logOf files)).Nodup :=
  ((nodup_addresses hb).sublist (addresses_sublist _)).of_map

/-- A scope has no name of a type twice. -/
theorem nodup_typesIn (hb : BuiltInOrder files) (body : IsBody files b ss) :
    ((typesIn ids (definitions (logOf files)) b).map (·.1)).Nodup := by
  rw [typesIn, List.map_map]
  refine ((nodup_definitions hb).filter _).map_on fun x hx y hy hxy => ?_
  obtain ⟨hx, hbx⟩ := List.mem_filter.1 hx
  obtain ⟨hy, hby⟩ := List.mem_filter.1 hy
  have dx := definesType_iff.2 ⟨⟨_, hx⟩, of_decide_eq_true hbx, rfl⟩
  have dy := definesType_iff.2 ⟨⟨_, hy⟩, of_decide_eq_true hby, rfl⟩
  have hn : x.1.name.name = y.1.name.name := hxy
  rw [← Table.typeIn?_eq_some_iff hb.each (Table.shows_ofFiles files) body] at dx dy
  rw [hn, dy, Option.some.injEq] at dx
  have hs := (mem_definitions_iff.1 hx).1
  rw [← dx, (mem_definitions_iff.1 hy).1, Option.some.injEq] at hs
  exact Prod.ext dx.symm hs.symm

/-- What a scope has as a type is what its body defines. -/
theorem get?_types (hb : BuiltInOrder files) (ht : t.Shows files) (body : IsBody files b ss)
    (name : String) :
    (Dictionary.ofList (typesIn ids (definitions (logOf files)) b)).get? name =
      (t.typeIn? b name).map fun d => ids.symbol d.address := by
  ext id
  rw [Dictionary.get?_ofList_eq_some_iff, mem_typesIn, Option.map_eq_some_iff]
  · simp only [Table.typeIn?_eq_some_iff hb.each ht body]
  · intro v w hv hw
    obtain ⟨d, hd, rfl⟩ := mem_typesIn.1 hv
    obtain ⟨e, he, rfl⟩ := mem_typesIn.1 hw
    rw [← Table.typeIn?_eq_some_iff hb.each ht body] at hd he
    rw [hd, Option.some.injEq] at he
    rw [he]

/-- The fields of the log are those of the table. -/
theorem mem_fields_iff {f : Field} {s : Statement WrittenType} :
    (f, s) ∈ fields (logOf files) ↔
      Field.ofStatement? f.scope s = some f ∧ s ∈ (Table.ofFiles files).statementsIn f.scope := by
  constructor
  · intro h
    obtain ⟨e, he, hf⟩ := List.mem_filterMap.1 h
    cases e with
    | root file => cases hf
    | statement a u =>
      obtain ⟨_, hof, heq⟩ := Option.map_eq_some_iff.1 hf
      cases heq
      rw [scope_fieldOfStatement? hof]
      refine ⟨hof, ?_⟩
      have hat := Table.mem_allStatements_iff.1 (mem_logOf_statement.1 he)
      obtain ⟨file, path⟩ := a
      cases path with
      | nil => cases hat
      | cons index outer => exact List.mem_of_getElem? hat
  · rintro ⟨hf, hs⟩
    obtain ⟨index, hi⟩ := List.mem_iff_getElem?.1 hs
    rw [← Table.statementAt?_child, ← Table.mem_allStatements_iff] at hi
    refine List.mem_filterMap.2 ⟨_, mem_logOf_statement.2 hi, ?_⟩
    have hf : Field.ofStatement? (f.scope.child index).scope s = some f := hf
    rw [Entry.field?, hf]
    rfl

theorem mem_fieldsIn (body : IsBody files b ss) {name : String} {s : Statement WrittenType} :
    (name, s) ∈ fieldsIn (fields (logOf files)) b ↔
      s ∈ ss ∧ ∃ f, Field.ofStatement? b s = some f ∧ f.name.name = name := by
  simp only [fieldsIn, List.mem_map, List.mem_filter, decide_eq_true_eq, Prod.exists,
    Prod.mk.injEq, mem_fields_iff]
  constructor
  · rintro ⟨f, _, ⟨⟨hf, hs⟩, rfl⟩, hn, rfl⟩
    rw [Table.statementsIn_of_isBody (Table.shows_ofFiles files) body] at hs
    exact ⟨hs, f, hf, hn⟩
  · rintro ⟨hs, f, hf, hn⟩
    obtain rfl := scope_fieldOfStatement? hf
    rw [← Table.statementsIn_of_isBody (Table.shows_ofFiles files) body] at hs
    exact ⟨f, s, ⟨⟨hf, hs⟩, rfl⟩, hn, rfl⟩

/-- The statement of a field. -/
def statementOf (f : Field) : Statement WrittenType := .item f.id f.range f.name f.type

theorem eq_statementOf {scope : Address} {s : Statement WrittenType} {f : Field}
    (h : Field.ofStatement? scope s = some f) : s = statementOf f := by
  unfold Field.ofStatement? at h
  split at h
  · split at h
    · injection h with h
      rw [← h]
      rfl
    · cases h
  · cases h

/-- What a scope has as a field is what its body defines. -/
theorem get?_fields (hb : BuiltInOrder files) (ht : t.Shows files) (body : IsBody files b ss)
    (name : String) :
    (Dictionary.ofList (fieldsIn (fields (logOf files)) b)).get? name =
      (t.fieldIn? b name).map statementOf := by
  have hmem : ∀ s, (name, s) ∈ fieldsIn (fields (logOf files)) b ↔
      ∃ f, t.fieldIn? b name = some f ∧ statementOf f = s := by
    intro s
    rw [mem_fieldsIn body]
    simp only [Table.fieldIn?_eq_some_iff hb.each ht body]
    constructor
    · rintro ⟨hs, f, hf, hn⟩
      exact ⟨f, ⟨body, hs, hf, hn⟩, (eq_statementOf hf).symm⟩
    · rintro ⟨f, ⟨body', hs, hf, hn⟩, rfl⟩
      obtain rfl := eq_statementOf hf
      rw [← Table.statementsIn_of_isBody ht body', Table.statementsIn_of_isBody ht body] at hs
      exact ⟨hs, f, hf, hn⟩
  ext s
  rw [Dictionary.get?_ofList_eq_some_iff, hmem, Option.map_eq_some_iff]
  intro v w hv hw
  obtain ⟨f, hf, rfl⟩ := (hmem v).1 hv
  obtain ⟨g, hg, rfl⟩ := (hmem w).1 hw
  rw [hf, Option.some.injEq] at hg
  rw [hg]

end

end Arena
end Schemata
