import Mathlib
import Schemata.Proofs.Arena.Binding
import Schemata.Proofs.Build.Sketch
import Schemata.Proofs.Table.Lexical

/-!
# Resolution in an arena

What is looked up in the arena of files is what is looked up in their table: a scope or a symbol of
the arena stands for the body or the definition at an address. So a name in the arena means what the
parsed trees designate by it.

**Results:**
* `Arena.lookupType?_ofFiles`, `Arena.memberType?_ofFiles`, `Arena.memberField?_ofFiles`,
  `Arena.globalCandidates_ofFiles`: the lookups of the arena are those of the table.
* `Arena.resolution_exact`: what the arena finds is what the trees designate.
* `Arena.Faithful.few_bodies`, `Arena.Faithful.few_definitions`: it could not be so for files that 32
  bits do not number through.
-/
namespace Schemata
namespace Arena

variable {files : List ParsedFile} {file : Nat} {f : ParsedFile} {root : Root WrittenType}
  {b : Address} {ss : List (Statement WrittenType)}

/-! ## Files -/

theorem includeFault?_ofFiles (hb : BuiltInOrder files) (fits : Fits files)
    (hf : files[file]? = some f) :
    (ofFiles files).includeFault? (.ofNatClamp file) =
      (Table.ofFiles files).includeFault? file := by
  have hlt := (List.getElem?_eq_some_iff.1 hf).1
  have hmem : ∀ d, (UInt32.ofNatClamp file, d) ∈ (List.range files.length).filterMap (fun file =>
      ((Table.ofFiles files).includeFault? file).map fun d => (UInt32.ofNatClamp file, d)) ↔
        (Table.ofFiles files).includeFault? file = some d := by
    intro d
    simp only [List.mem_filterMap, List.mem_range, Option.map_eq_some_iff, Prod.mk.injEq]
    constructor
    · rintro ⟨other, hother, _, hd, heq, rfl⟩
      have heq := congrArg UInt32.toNat heq
      rw [toNat_ofNatClamp fits.few_files hother, toNat_ofNatClamp fits.few_files hlt] at heq
      exact heq ▸ hd
    · exact fun hd => ⟨file, hlt, d, hd, rfl, rfl⟩
  have hfaults : (ofFiles files).includeFaults =
      faultsBefore (Table.ofFiles files) files.length := by
    rw [ofFiles_eq hb fits]
    rfl
  ext d
  rw [includeFault?, hfaults, faultsBefore, Dictionary.get?_ofList_eq_some_iff, hmem]
  intro v w hv hw
  rw [hmem] at hv hw
  rw [hv, Option.some.injEq] at hw
  exact hw

theorem rootScope?_ofFiles (hb : BuiltInOrder files) (fits : Fits files)
    (hf : files[file]? = some f) (hr : f.root = .ok root) :
    (ofFiles files).rootScope? (.ofNatClamp file) = some ((idsOf files).scope ⟨file, []⟩) := by
  rw [ofFiles_eq hb fits, rootScope?, toNat_fileId fits hf, files_bound, hf]
  simp only [Option.map_some, Option.bind_some, fileFor, hr]

/-! ## Names -/

theorem sound_importsOf (hb : BuiltInOrder files) (fits : Fits files) (file : Nat) :
    Sound files ((Table.ofFiles files).importsOf file) := by
  cases hf : files[file]? with
  | none =>
    rw [Table.importsOf, Table.getElem?_ofFiles, hf]
    exact sound_nil
  | some f =>
    cases hr : f.root with
    | error _ =>
      simp only [Table.importsOf, Table.getElem?_ofFiles, hf, Option.map_some, Table.bindFile, hr]
      exact sound_nil
    | ok root =>
      rw [Table.importsOf_ofFiles hf hr]
      exact (bindIncludes_bound (fun _ => []) .empty hb fits hf hr sound_nil _).2

/-- What an include binds a name to at a root of the arena. -/
theorem imports_ofFiles (hb : BuiltInOrder files) (fits : Fits files)
    (body : IsBody files ⟨file, []⟩ ss) (name : String) :
    (((ofFiles files).scope ((idsOf files).scope ⟨file, []⟩)).imports.get? name).map (·.symbol) =
      ((Table.ofFiles files).imported? file name).map fun d => (idsOf files).symbol d.address := by
  have hsound := sound_importsOf hb fits file
  rw [ofFiles_eq hb fits, scope_bound (number_idsOf hb fits) (mem_bodies_iff.2 ⟨ss, body⟩)]
  simp only [scopeFor, importsFor, get?_imports hsound, Table.imported?]
  cases hfind : ((Table.ofFiles files).importsOf file).find? (·.name == name) with
  | none => rfl
  | some i =>
    obtain ⟨⟨d, s⟩, hd, htarget⟩ := hsound.defined i (List.mem_of_find?_eq_some hfind)
    obtain ⟨hs, hof⟩ := mem_definitions_iff.1 hd
    have hat : (Table.ofFiles files).definitionAt? i.target = some d := by
      rw [← htarget, Table.definitionAt?, hs]
      exact hof
    simp only [Option.map_some, Option.bind_some, hat]
    rw [← htarget]

theorem types_ofFiles (hb : BuiltInOrder files) (fits : Fits files) (body : IsBody files b ss)
    (name : String) :
    ((ofFiles files).scope ((idsOf files).scope b)).types.get? name =
      ((Table.ofFiles files).typeIn? b name).map fun d => (idsOf files).symbol d.address := by
  rw [ofFiles_eq hb fits]
  exact types_bound hb fits (Table.shows_ofFiles files) body name

theorem parent_ofFiles (hb : BuiltInOrder files) (fits : Fits files) (body : IsBody files b ss) :
    ((ofFiles files).scope ((idsOf files).scope b)).parent =
      (outer? b).map (idsOf files).scope := by
  rw [ofFiles_eq hb fits, scope_bound (number_idsOf hb fits) (mem_bodies_iff.2 ⟨ss, body⟩)]
  rfl

/-- The scope around another one stands before it. -/
theorem index_lt (hb : BuiltInOrder files) (fits : Fits files) {scope : Address} {index : Nat}
    (body : IsBody files (scope.child index) ss) :
    ((idsOf files).scope scope).index < ((idsOf files).scope (scope.child index)).index := by
  have h := number_idsOf hb fits
  obtain ⟨k, hk⟩ := List.mem_iff_getElem?.1 (mem_bodies_iff.2 ⟨ss, body⟩)
  obtain ⟨j, hj, hscope⟩ := (closed_logOf hb fits).exists_outer hk
  rw [h.scope_index hk, h.scope_index hscope]
  exact hj

/-- A name means in a scope of the arena what it means in the table. -/
theorem lookupType?_ofFiles (hb : BuiltInOrder files) (fits : Fits files) (body : IsBody files b ss)
    (name : String) :
    (ofFiles files).lookupType? ((idsOf files).scope b) name =
      ((Table.ofFiles files).lookup? b name).map fun d => (idsOf files).symbol d.address := by
  induction body with
  | @root file f root hf hr =>
    have body := IsBody.root hf hr
    rw [lookupType?, types_ofFiles hb fits body, parent_ofFiles hb fits body, Table.lookup?_root]
    cases (Table.ofFiles files).typeIn? ⟨file, []⟩ name with
    | some d => rfl
    | none => exact imports_ofFiles hb fits body name
  | @children scope _ index _ _ _ _ _ _ outer hs ih =>
    have body := IsBody.children outer hs
    have hlt := index_lt hb fits body
    rw [lookupType?, types_ofFiles hb fits body, parent_ofFiles hb fits body, Table.lookup?_child]
    cases (Table.ofFiles files).typeIn? (scope.child index) name with
    | some d => rfl
    | none =>
      have hparent : (outer? (scope.child index)).map (idsOf files).scope =
          some ((idsOf files).scope scope) := rfl
      simp only [Option.map_none, hparent, if_pos hlt, ih]
      rfl

/-! ## Symbols -/

theorem symbol_ofFiles (hb : BuiltInOrder files) (fits : Fits files) {d : Definition}
    {s : Statement WrittenType} (hd : (d, s) ∈ definitions (logOf files)) :
    (ofFiles files).symbol ((idsOf files).symbol d.address) = symbolFor (idsOf files) (d, s) := by
  rw [ofFiles_eq hb fits]
  exact symbol_bound (x := (d, s)) (number_idsOf hb fits) hd

theorem body?_symbolFor (ids : Ids) (x : Definition × Statement WrittenType) :
    (symbolFor ids x).body? = if x.1.isStruct then some (ids.scope x.1.address) else none := by
  cases h : x.1.isStruct <;> simp [Symbol.body?, symbolFor, h]

/-- The id of a statement leads to the symbol of what it defines. -/
theorem symbolOf?_ofFiles (hb : BuiltInOrder files) (fits : Fits files) (id : ElementId) :
    (ofFiles files).symbolOf? id =
      ((Table.ofFiles files).definitionOf? id).map fun d => (idsOf files).symbol d.address := by
  have hmem : ∀ s, (id, s) ∈ symbolsById (idsOf files) (definitions (logOf files)) ↔
      ∃ d, (Table.ofFiles files).definitionOf? id = some d ∧ (idsOf files).symbol d.address = s := by
    intro s
    simp only [symbolsById, List.mem_map, Prod.mk.injEq, Prod.exists, mem_definitions_iff,
      Table.definitionOf?_eq_some_iff hb, Table.Holds, Table.mem_allStatements_iff]
    constructor
    · rintro ⟨d, u, hd, hid, hs⟩
      exact ⟨d, ⟨⟨u, hd⟩, hid⟩, hs⟩
    · rintro ⟨d, ⟨⟨u, hd⟩, hid⟩, hs⟩
      exact ⟨d, u, hd, hid, hs⟩
  have hids : (ofFiles files).byStatement =
      .ofList (symbolsById (idsOf files) (definitions (logOf files))) := by
    rw [ofFiles_eq hb fits]
    rfl
  ext s
  rw [symbolOf?, hids, Dictionary.get?_ofList_eq_some_iff, hmem, Option.map_eq_some_iff]
  intro v w hv hw
  obtain ⟨d, hd, rfl⟩ := (hmem v).1 hv
  obtain ⟨e, he, rfl⟩ := (hmem w).1 hw
  rw [hd, Option.some.injEq] at he
  rw [he]

/-- The types of a structure of the arena are those of the table. -/
theorem memberType?_ofFiles (hb : BuiltInOrder files) (fits : Fits files) {around name : String}
    {d : Definition} (hd : DefinesType files b around d) :
    (ofFiles files).memberType? ((idsOf files).symbol d.address) name =
      ((Table.ofFiles files).memberType? d name).map fun e => (idsOf files).symbol e.address := by
  obtain ⟨⟨s, hs⟩, -, -⟩ := definesType_iff.1 hd
  rw [memberType?, symbol_ofFiles hb fits hs, body?_symbolFor, Table.memberType?]
  split
  · rename_i hstruct
    obtain ⟨ss, body⟩ := (Table.isStruct_iff_exists_body hd).1 hstruct
    exact types_ofFiles hb fits body name
  · rfl

/-- The fields of a structure of the arena are those of the table. -/
theorem memberField?_ofFiles (hb : BuiltInOrder files) (fits : Fits files) {around name : String}
    {d : Definition} (hd : DefinesType files b around d) :
    (ofFiles files).memberField? ((idsOf files).symbol d.address) name =
      ((Table.ofFiles files).memberField? d name).map fun f =>
        (statementOf f, (idsOf files).scope d.address) := by
  obtain ⟨⟨s, hs⟩, -, -⟩ := definesType_iff.1 hd
  rw [memberField?, symbol_ofFiles hb fits hs, body?_symbolFor, Table.memberField?]
  split
  · rename_i hstruct
    obtain ⟨ss, body⟩ := (Table.isStruct_iff_exists_body hd).1 hstruct
    have hfields : ((ofFiles files).scope ((idsOf files).scope d.address)).fields.get? name =
        ((Table.ofFiles files).fieldIn? d.address name).map statementOf := by
      rw [ofFiles_eq hb fits]
      exact fields_bound hb fits (Table.shows_ofFiles files) body name
    simp only [Option.bind_some, hfields, Option.map_map]
    rfl
  · rfl

/-- The public type of a name at the root of a file, if there are such. -/
theorem candidate_ofFiles (hb : BuiltInOrder files) (fits : Fits files) (hf : files[file]? = some f)
    (name : String) :
    ((((ofFiles files).files[file]?.bind (·.root)).bind fun root =>
        ((ofFiles files).scope root).types.get? name).filter
          fun s => ((ofFiles files).symbol s).isPublic) =
      (((Table.ofFiles files).typeIn? ⟨file, []⟩ name).filter Definition.isPublic).map fun d =>
        (idsOf files).symbol d.address := by
  have hfile : (ofFiles files).files[file]? = some (fileFor (idsOf files) (f, file)) := by
    rw [ofFiles_eq hb fits, files_bound, hf]
    rfl
  cases hr : f.root with
  | error d =>
    have hnone : (Table.ofFiles files).typeIn? ⟨file, []⟩ name = none := by
      have hempty : (Table.ofFiles files).statementsIn ⟨file, []⟩ = [] := by
        show (Table.ofFiles files).rootStatements file = []
        simp only [Table.rootStatements_ofFiles, Table.parsedStatements, hf, hr]
      rw [Table.typeIn?, Table.typeIndex?, hempty]
      rfl
    simp only [hfile, Option.bind_some, fileFor, hr, hnone]
    rfl
  | ok root =>
    have body : IsBody files ⟨file, []⟩ root.statements := .root hf hr
    simp only [hfile, Option.bind_some, fileFor, hr, types_ofFiles hb fits body]
    cases hd : (Table.ofFiles files).typeIn? ⟨file, []⟩ name with
    | none => rfl
    | some d =>
      have hpub : ((ofFiles files).symbol ((idsOf files).symbol d.address)).isPublic =
          d.isPublic := by
        rw [ofFiles_eq hb fits]
        exact isPublic_bound _ _ (number_idsOf hb fits)
          (Table.definesType_of_typeIn? (Table.shows_ofFiles files) hd)
      cases h : d.isPublic <;> simp [Option.filter, hpub, h]

/-- The public types of a name in other files are those that the table has. -/
theorem globalCandidates_ofFiles (hb : BuiltInOrder files) (fits : Fits files)
    (hf : files[file]? = some f) (name : String) :
    (ofFiles files).globalCandidates (.ofNatClamp file) name =
      ((Table.ofFiles files).globalCandidates file name).map fun d =>
        (idsOf files).symbol d.address := by
  have hsize : (ofFiles files).files.size = files.length := by
    rw [ofFiles_eq hb fits]
    simp [bound, laid]
  have hlength : (Table.ofFiles files).files.length = files.length := by
    simp [Table.ofFiles, Table.declare]
  rw [globalCandidates, Table.globalCandidates, hsize, hlength, List.map_filterMap,
    toNat_fileId fits hf]
  have hothers : (List.range files.length).filter (fun other => decide (other ≠ file)) =
      (List.range files.length).filter (· != file) := by
    refine List.filter_congr fun other _ => ?_
    simp [bne, beq_eq_decide]
  rw [hothers]
  refine List.filterMap_congr fun other hother => ?_
  have hlt := List.mem_range.1 (List.mem_filter.1 hother).1
  exact candidate_ofFiles hb fits (List.getElem?_eq_getElem hlt) name

/-! ## Faithfulness -/

/-- What an arena keeps about a definition: a symbol, which is found by the id of the statement. -/
structure Presents (a : Arena) (ids : Ids) (d : Definition) : Prop where
  found : a.symbolOf? d.id = some (ids.symbol d.address)
  name : (a.symbol (ids.symbol d.address)).name = d.name
  file : (a.symbol (ids.symbol d.address)).file.toNat = d.address.file
  scope : (a.symbol (ids.symbol d.address)).scope = ids.scope d.address.scope
  statement : Definition.ofStatement? d.address (a.symbol (ids.symbol d.address)).statement = some d
  body : (a.symbol (ids.symbol d.address)).body? =
    if d.isStruct then some (ids.scope d.address) else none

/-- An arena resolves names as the parsed trees have it, with the given ids for what stands at an
address. -/
structure Faithful (files : List ParsedFile) (a : Arena) (ids : Ids) : Prop where
  /-- The roots of files are known. -/
  roots : ∀ file f root, files[file]? = some f → f.root = .ok root →
    a.rootScope? (.ofNatClamp file) = some (ids.scope ⟨file, []⟩)
  /-- Definitions have symbols, and structures have scopes for their bodies. -/
  presents : ∀ scope name d, DefinesType files scope name d → a.Presents ids d
  /-- Different bodies have different scopes. -/
  scopes : ∀ b c bs cs, IsBody files b bs → IsBody files c cs → ids.scope b = ids.scope c → b = c
  /-- Different definitions have different symbols. -/
  symbols : ∀ b c m n d e, DefinesType files b m d → DefinesType files c n e →
    ids.symbol d.address = ids.symbol e.address → d = e
  /-- In a file whose includes all succeed, a name means what the trees designate by it, and nothing
  if they designate nothing. -/
  types : ∀ scope ss, IsBody files scope ss →
    a.includeFault? (.ofNatClamp scope.file) = none → ∀ name s,
      a.lookupType? (ids.scope scope) name = some s ↔
        ∃ d, Designates files scope name d ∧ ids.symbol d.address = s
  /-- The types of a structure are those that stand in its body. -/
  memberTypes : ∀ scope outer d, DefinesType files scope outer d → ∀ name s,
    a.memberType? (ids.symbol d.address) name = some s ↔
      ∃ e, DefinesType files d.address name e ∧ ids.symbol e.address = s
  /-- The fields of a structure are those that stand in its body, and their types are meant there. -/
  memberFields : ∀ scope outer d, DefinesType files scope outer d → ∀ name s id,
    a.memberField? (ids.symbol d.address) name = some (s, id) ↔
      id = ids.scope d.address ∧ ∃ f, DefinesField files d.address name f ∧ statementOf f = s

/-- A body stands in a file that has a root. -/
theorem exists_file_of_isBody (body : IsBody files b ss) :
    ∃ f root, files[b.file]? = some f ∧ f.root = .ok root := by
  induction body with
  | root hf hr => exact ⟨_, _, hf, hr⟩
  | children _ _ ih => exact ih

theorem presents_ofFiles (hb : BuiltInOrder files) (fits : Fits files) {name : String}
    {d : Definition} (hd : DefinesType files b name d) :
    (ofFiles files).Presents (idsOf files) d := by
  obtain ⟨⟨s, hs⟩, -, -⟩ := definesType_iff.1 hd
  obtain ⟨hat, hof⟩ := mem_definitions_iff.1 hs
  have hsymbol := symbol_ofFiles hb fits hs
  have hholds : (Table.ofFiles files).Holds d := ⟨s, Table.mem_allStatements_iff.2 hat, hof⟩
  refine ⟨?_, ?_, ?_, ?_, ?_, ?_⟩
  · rw [symbolOf?_ofFiles hb fits, (Table.definitionOf?_eq_some_iff hb).2 ⟨hholds, rfl⟩]
    rfl
  · rw [hsymbol]
    rfl
  · obtain ⟨body, -, haddress, -⟩ := hd
    obtain ⟨f, -, hf, -⟩ := exists_file_of_isBody body
    rw [hsymbol]
    refine toNat_fileId fits (f := f) ?_
    rw [Table.address_ofStatement? haddress]
    exact hf
  · rw [hsymbol]
    rfl
  · rw [hsymbol]
    exact hof
  · rw [hsymbol]
    exact body?_symbolFor (idsOf files) (d, s)

theorem scope_inj (hb : BuiltInOrder files) (fits : Fits files) {c : Address}
    {cs : List (Statement WrittenType)} (hbody : IsBody files b ss) (hc : IsBody files c cs)
    (h : (idsOf files).scope b = (idsOf files).scope c) : b = c := by
  have hn := number_idsOf hb fits
  have hb := hn.getElem?_index (mem_bodies_iff.2 ⟨ss, hbody⟩)
  rw [h, hn.getElem?_index (mem_bodies_iff.2 ⟨cs, hc⟩), Option.some.injEq] at hb
  exact hb.symm

theorem symbol_inj (hb : BuiltInOrder files) (fits : Fits files) {c : Address} {m n : String}
    {d e : Definition} (hd : DefinesType files b m d) (he : DefinesType files c n e)
    (h : (idsOf files).symbol d.address = (idsOf files).symbol e.address) : d = e := by
  obtain ⟨⟨s, hs⟩, -, -⟩ := definesType_iff.1 hd
  obtain ⟨⟨u, hu⟩, -, -⟩ := definesType_iff.1 he
  have haddress := address_eq_of_symbol (number_idsOf hb fits) hs hu h
  have hat := Table.definitionAt?_of_definesType hd
  rw [haddress, Table.definitionAt?_of_definesType he, Option.some.injEq] at hat
  exact hat.symm

/-- Resolution in the arena of files is faithful to their trees. The files have to fit, since ids
have 32 bits: no other ids of that width would do for more (`Faithful.few_bodies`). -/
theorem resolution_exact (hb : BuiltInOrder files) (hp : DistinctPaths files) (fits : Fits files) :
    Faithful files (ofFiles files) (idsOf files) where
  roots _ _ _ hf hr := rootScope?_ofFiles hb fits hf hr
  presents _ _ _ hd := presents_ofFiles hb fits hd
  scopes _ _ _ _ hbody hc h := scope_inj hb fits hbody hc h
  symbols _ _ _ _ _ _ hd he h := symbol_inj hb fits hd he h
  types scope ss body hi name s := by
    obtain ⟨f, -, hf, -⟩ := exists_file_of_isBody body
    rw [includeFault?_ofFiles hb fits hf] at hi
    rw [lookupType?_ofFiles hb fits body, Option.map_eq_some_iff]
    simp only [Table.lookup?_eq_some_iff hb hp body hi]
  memberTypes scope outer d hd name s := by
    rw [memberType?_ofFiles hb fits hd, Option.map_eq_some_iff]
    simp only [Table.memberType?_eq_some_iff hb hd]
  memberFields scope outer d hd name s id := by
    rw [memberField?_ofFiles hb fits hd, Option.map_eq_some_iff]
    simp only [Table.memberField?_eq_some_iff hb hd, Prod.mk.injEq]
    constructor
    · rintro ⟨f, hf, hs, rfl⟩
      exact ⟨rfl, f, hf, hs⟩
    · rintro ⟨rfl, f, hf, hs⟩
      exact ⟨f, hf, hs, rfl⟩

/-! ## How much can be told apart -/

theorem length_le_of_words {α : Type} {l : List α} (word : α → UInt32) (hn : l.Nodup)
    (inj : ∀ x ∈ l, ∀ y ∈ l, word x = word y → x = y) : l.length ≤ 2 ^ 32 := by
  have hnodup : (l.map fun x => (word x).toNat).Nodup :=
    hn.map_on fun x hx y hy h => inj x hx y hy (UInt32.toNat_inj.1 h)
  have hsub : (l.map fun x => (word x).toNat) ⊆ List.range (2 ^ 32) := by
    intro n h
    obtain ⟨x, -, rfl⟩ := List.mem_map.1 h
    exact List.mem_range.2 (word x).toNat_lt
  simpa only [List.length_map, List.length_range] using hnodup.length_le_of_subset hsub

/-- Whatever the ids, resolution is faithful for no more than 2^32 bodies. -/
theorem Faithful.few_bodies {a : Arena} {ids : Ids} (hb : BuiltInOrder files)
    (h : Faithful files a ids) : (bodies (logOf files)).length ≤ 2 ^ 32 := by
  refine length_le_of_words (fun b => (ids.scope b).word)
    ((nodup_addresses hb).sublist (bodies_sublist _)) fun b hbody c hc hword => ?_
  obtain ⟨bs, hbody⟩ := mem_bodies_iff.1 hbody
  obtain ⟨cs, hc⟩ := mem_bodies_iff.1 hc
  exact h.scopes b c bs cs hbody hc (congrArg ScopeId.mk hword)

/-- Whatever the ids, resolution is faithful for no more than 2^32 definitions. -/
theorem Faithful.few_definitions {a : Arena} {ids : Ids} (hb : BuiltInOrder files)
    (h : Faithful files a ids) : (definitions (logOf files)).length ≤ 2 ^ 32 := by
  have hn := (nodup_addresses hb).sublist (addresses_sublist _)
  rw [← List.length_map (fun x : Definition × Statement WrittenType => x.1.address)]
  refine length_le_of_words (fun b => (ids.symbol b).word) hn fun b hbd c hcd hword => ?_
  obtain ⟨⟨d, s⟩, hd, rfl⟩ := List.mem_map.1 hbd
  obtain ⟨⟨e, u⟩, he, rfl⟩ := List.mem_map.1 hcd
  exact congrArg Definition.address (h.symbols _ _ _ _ d e (definesType_iff.2 ⟨⟨s, hd⟩, rfl, rfl⟩)
    (definesType_iff.2 ⟨⟨u, he⟩, rfl, rfl⟩) (congrArg SymbolId.mk hword))

/-- A structure within a structure whose field has a type of another file, taken over under another
name. -/
def nestedFiles : List ParsedFile :=
  parseInOrder
    [(⟨"ws/a"⟩, [.takes 1 "b" "Point" "Place",
        .record 2 "Outer" [] [.record 3 "Inner" [] [.names 4 "x" (.named 4 ["Place"])],
          .names 5 "Count" (.named 5 ["Integer"])]]),
      (⟨"ws/b"⟩, [.record 1 "Point" [] [], .record 2 "_Hidden" [] []])]

/-- In the scope of the inner structure, the third one of the arena, the name of the include leads to
the symbol of the structure of the other file, the name of the alias beside the inner structure to
the one of the alias, and the name that the other file uses leads nowhere. -/
theorem resolution_exact_nestedFiles :
    BuiltInOrder nestedFiles ∧ DistinctPaths nestedFiles ∧ Fits nestedFiles ∧
      Faithful nestedFiles (ofFiles nestedFiles) (idsOf nestedFiles) ∧
      (ofFiles nestedFiles).lookupType? (.ofIndex 2) "Place" = some (.ofIndex 3) ∧
      (ofFiles nestedFiles).lookupType? (.ofIndex 2) "Count" = some (.ofIndex 2) ∧
      (ofFiles nestedFiles).lookupType? (.ofIndex 2) "Point" = none := by
  have hb : BuiltInOrder nestedFiles := builtInOrder_parseInOrder _
  have hp : DistinctPaths nestedFiles := by
    simp only [nestedFiles, parseInOrder, DistinctPaths]
    decide +kernel
  have fits : Fits nestedFiles := ⟨by decide, by decide, by decide⟩
  have hfaithful := resolution_exact hb hp fits
  have hinner : ((Table.ofFiles nestedFiles).definitionAt? ⟨0, [0, 1]⟩).any Definition.isStruct =
      true := rfl
  obtain ⟨inner, hd, hs⟩ := (Option.any_eq_true _ _).1 hinner
  have body := (Table.holds_of_definitionAt? hd).isBody (Table.shows_ofFiles nestedFiles) hs
  obtain ⟨s, -, hof⟩ := Option.bind_eq_some_iff.1 hd
  rw [Table.address_ofStatement? hof] at body
  have hi : (ofFiles nestedFiles).includeFault? (.ofNatClamp 0) = none :=
    (includeFault?_ofFiles hb fits (List.getElem?_eq_getElem (by decide))).trans rfl
  have hscope : (idsOf nestedFiles).scope ⟨0, [0, 1]⟩ = .ofIndex 2 := by decide +kernel
  have hlook := hfaithful.types ⟨0, [0, 1]⟩ _ body hi
  rw [hscope] at hlook
  have htable : ∀ {name d}, (Table.ofFiles nestedFiles).lookup? ⟨0, [0, 1]⟩ name = some d ↔
      Designates nestedFiles ⟨0, [0, 1]⟩ name d := Table.lookup?_eq_some_iff hb hp body rfl
  have hfound : ∀ name a, ((Table.ofFiles nestedFiles).lookup? ⟨0, [0, 1]⟩ name).map (·.address) =
      some a → (ofFiles nestedFiles).lookupType? (.ofIndex 2) name =
        some ((idsOf nestedFiles).symbol a) := by
    intro name a h
    obtain ⟨d, hd, rfl⟩ := Option.map_eq_some_iff.1 h
    exact (hlook name _).2 ⟨d, htable.1 hd, rfl⟩
  have hplace : (idsOf nestedFiles).symbol ⟨1, [0]⟩ = .ofIndex 3 := by decide +kernel
  have hcount : (idsOf nestedFiles).symbol ⟨0, [1, 1]⟩ = .ofIndex 2 := by decide +kernel
  refine ⟨hb, hp, fits, hfaithful, hplace ▸ hfound "Place" ⟨1, [0]⟩ rfl,
    hcount ▸ hfound "Count" ⟨0, [1, 1]⟩ rfl, ?_⟩
  rw [Option.eq_none_iff_forall_ne_some]
  intro s h
  obtain ⟨d, hd, -⟩ := (hlook "Point" s).1 h
  have hpoint : (Table.ofFiles nestedFiles).lookup? ⟨0, [0, 1]⟩ "Point" = none := rfl
  rw [htable.2 hd] at hpoint
  cases hpoint

end Arena
end Schemata
