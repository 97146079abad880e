import Schemata.Proofs.Build.Markers
import Schemata.Proofs.Table.Identity
import Schemata.Proofs.Table.Agreement

/-!
# Markers in references, in the table

Whatever the markers in the references of the files are, the table of the files binds the same
names, finds the same definitions, and every reference means the same: what is looked up is a name
without its markers. All of it is said of dropping the markers, which every function on tables
commutes with.

**Results:**
* `Table.ofFiles_bare`: the table of files without markers is the table of the files without them.
* `Table.lookup?_bare`, `Table.resolve_bare`: names and references mean the same.
* `bare_parseInOrder`: files that are built alike are the same without markers.
-/
namespace Schemata

/-! ## Definitions without markers -/

/-- What a definition is, with the references in it without markers. -/
def DefinitionKind.bare : DefinitionKind → DefinitionKind
  | .struct bases => .struct (WrittenType.bares bases)
  | .alias type => .alias type.bare

/-- The definition with the references in it without markers. -/
def Definition.bare (d : Definition) : Definition := { d with kind := d.kind.bare }

/-- The field with the references in its type without markers. -/
def Field.bare (f : Field) : Field := { f with type := f.type.bare }

/-- What a reference means, with the references in it without markers. -/
def ReferenceTarget.bare : ReferenceTarget → ReferenceTarget
  | .definition d => .definition d.bare
  | .field f => .field f.bare

/-- The outcome of parsing, with the references in the file without markers and nothing quoted. -/
def bareRoot (root : Except Diagnostic (Root WrittenType)) : Except Diagnostic (Root WrittenType) :=
  (root.mapError Diagnostic.unquoted).map Root.bare

/-- The parsed file without markers. -/
def ParsedFile.bare (f : ParsedFile) : ParsedFile := ⟨f.path, bareRoot f.root⟩

/-- The file of a table without markers. -/
def TableFile.bare (f : TableFile) : TableFile := { f with root := bareRoot f.root }

/-- The table without markers. -/
def Table.bare (t : Table) : Table := ⟨t.files.map TableFile.bare⟩

theorem Definition.isStruct_bare (d : Definition) : d.bare.isStruct = d.isStruct := by
  obtain ⟨a, id, name, kind⟩ := d
  cases kind <;> rfl

theorem Definition.ofStatement?_bare (a : Address) (s : Statement WrittenType) :
    Definition.ofStatement? a s.bare = (Definition.ofStatement? a s).map Definition.bare := by
  cases s with
  | item id range name type =>
    rw [Statement.bare, Definition.ofStatement?, Definition.ofStatement?]
    split <;> rfl
  | struct | extension | inclusion => rfl

theorem Field.ofStatement?_bare (scope : Address) (s : Statement WrittenType) :
    Field.ofStatement? scope s.bare = (Field.ofStatement? scope s).map Field.bare := by
  cases s with
  | item id range name type =>
    rw [Statement.bare, Field.ofStatement?, Field.ofStatement?]
    split <;> rfl
  | struct | extension | inclusion => rfl

namespace Table

variable (t : Table)

/-! ## Scopes -/

theorem getElem?_bare (file : Nat) :
    t.bare.files[file]? = t.files[file]?.map TableFile.bare :=
  List.getElem?_map

theorem root?_bare (file : Nat) : t.bare.root? file = (t.root? file).map bareRoot := by
  rw [root?, root?, getElem?_bare, Option.map_map, Option.map_map]
  rfl

theorem hasRoot_bare (file : Nat) : t.bare.hasRoot file = t.hasRoot file := by
  rw [hasRoot_eq, hasRoot_eq, root?_bare]
  rcases t.root? file with - | (e | root) <;> rfl

theorem rootStatements_bare (file : Nat) :
    t.bare.rootStatements file = Statement.bares (t.rootStatements file) := by
  rw [rootStatements_eq, rootStatements_eq, root?_bare]
  rcases t.root? file with - | (e | root) <;> rfl

theorem bodyAt_bare (file : Nat) (path : List Nat) :
    t.bare.bodyAt file path = Statement.bares (t.bodyAt file path) := by
  induction path with
  | nil => exact t.rootStatements_bare file
  | cons index outer ih =>
    rw [bodyAt, bodyAt, ih, Statement.bares_eq_map, List.getElem?_map]
    rcases (t.bodyAt file outer)[index]? with - | (- | - | - | -) <;> rfl

theorem statementsIn_bare (scope : Address) :
    t.bare.statementsIn scope = (t.statementsIn scope).map Statement.bare := by
  rw [statementsIn, bodyAt_bare, Statement.bares_eq_map, statementsIn]

theorem statementAt?_bare (a : Address) :
    t.bare.statementAt? a = (t.statementAt? a).map Statement.bare := by
  unfold statementAt?
  split
  · rfl
  · rw [statementsIn_bare, List.getElem?_map]

theorem definitionAt?_bare (a : Address) :
    t.bare.definitionAt? a = (t.definitionAt? a).map Definition.bare := by
  rw [definitionAt?, definitionAt?, statementAt?_bare]
  cases t.statementAt? a with
  | none => rfl
  | some s => exact Definition.ofStatement?_bare a s

theorem typeIn?_bare (scope : Address) (name : String) :
    t.bare.typeIn? scope name = (t.typeIn? scope name).map Definition.bare := by
  have hindex : t.bare.typeIndex? scope name = t.typeIndex? scope name := by
    rw [typeIndex?, typeIndex?, statementsIn_bare, List.findIdx?_map]
    simp [Function.comp_def]
  rw [typeIn?, typeIn?, hindex]
  cases t.typeIndex? scope name with
  | none => rfl
  | some index => exact t.definitionAt?_bare _

theorem fieldIn?_bare (scope : Address) (name : String) :
    t.bare.fieldIn? scope name = (t.fieldIn? scope name).map Field.bare := by
  rw [fieldIn?, fieldIn?, statementsIn_bare, List.find?_map]
  simp only [Function.comp_def, Statement.isField_bare, Statement.definedName?_bare]
  cases (t.statementsIn scope).find? fun s =>
      s.isField && s.definedName?.any (·.name == name) with
  | none => rfl
  | some s => exact Field.ofStatement?_bare scope s

theorem definitionsIn_bare (scope : Address) :
    t.bare.definitionsIn scope = (t.definitionsIn scope).map Definition.bare := by
  rw [definitionsIn, definitionsIn, statementsIn_bare, List.zipIdx_map, List.filterMap_map,
    List.map_filterMap]
  exact congrArg (List.filterMap · _) (funext fun x => Definition.ofStatement?_bare _ x.1)

/-! ## Includes -/

theorem fileAt?_bare (path : Path) : t.bare.fileAt? path = t.fileAt? path := by
  unfold fileAt? bare
  rw [List.zipIdx_map, List.filter_map, List.map_map]
  rfl

theorem includedFile_bare (i : Inclusion) : t.bare.includedFile i = t.includedFile i := by
  unfold includedFile
  rw [fileAt?_bare]
  cases t.fileAt? i.target with
  | none => rfl
  | some file =>
    dsimp only
    rw [getElem?_bare]
    rcases t.files[file]? with - | ⟨path, root, imports, fault⟩
    · rfl
    · cases root <;> rfl

theorem starBindings_bare (file : Nat) (i : Inclusion) :
    t.bare.starBindings file i = t.starBindings file i := by
  have hpublic : Definition.isPublic ∘ Definition.bare = Definition.isPublic := rfl
  unfold starBindings
  dsimp only
  rw [definitionsIn_bare, List.filter_map, hpublic,
    ← List.map_mergeSort (r := fun a b => decide (a.name.name ≤ b.name.name)) fun _ _ _ _ => rfl,
    List.map_map]
  rfl

theorem itemBinding_bare (file : Nat) (item : IncludeItem) :
    t.bare.itemBinding file item = t.itemBinding file item := by
  unfold itemBinding
  dsimp only
  rw [typeIn?_bare, fieldIn?_bare, Option.isSome_map]
  cases t.typeIn? ⟨file, []⟩ item.element.name <;> rfl

theorem includeBindings_bare (i : Inclusion) : t.bare.includeBindings i = t.includeBindings i := by
  unfold includeBindings
  rw [includedFile_bare]
  simp only [starBindings_bare, funext (t.itemBinding_bare _)]

theorem clash?_bare (file : Nat) (bound : List Import) (i : Import) :
    t.bare.clash? file bound i = t.clash? file bound i := by
  unfold clash?
  rw [typeIn?_bare]
  cases t.typeIn? ⟨file, []⟩ i.name <;> rfl

theorem addBindings_bare (file : Nat) (bound list : List Import) :
    t.bare.addBindings file bound list = t.addBindings file bound list := by
  induction list generalizing bound with
  | nil => rfl
  | cons i rest ih => simp only [addBindings, clash?_bare, ih]

theorem bindIncludes_bare (file : Nat) (bound : List Import) (is : List Inclusion) :
    t.bare.bindIncludes file bound is = t.bindIncludes file bound is := by
  induction is generalizing bound with
  | nil => rfl
  | cons i rest ih =>
    simp only [bindIncludes, bindInclude, includeBindings_bare, addBindings_bare, ih]

end Table

/-! ## The table of some files -/

namespace Table

theorem declare_bare (files : List ParsedFile) :
    declare (files.map ParsedFile.bare) = (declare files).bare := by
  simp only [declare, bare, List.map_map]
  rfl

theorem bindFile_bare (t : Table) (file : Nat) (f : TableFile) :
    t.bare.bindFile file f.bare = (t.bindFile file f).bare := by
  obtain ⟨path, root, imports, fault⟩ := f
  cases root with
  | error e => rfl
  | ok root =>
    have hinclusions : root.bare.inclusions = root.inclusions := by
      rw [Root.inclusions, Root.inclusions, Root.bare, Statement.bares_eq_map, List.filterMap_map]
      simp only [Function.comp_def, Statement.inclusion?_bare]
    simp only [bindFile, TableFile.bare, bareRoot, Except.mapError, Except.map, hinclusions,
      bindIncludes_bare]

/-- The table of files without markers is the table of the files, without markers. -/
theorem ofFiles_bare (files : List ParsedFile) :
    ofFiles (files.map ParsedFile.bare) = (ofFiles files).bare := by
  rw [ofFiles, ofFiles, declare_bare]
  generalize declare files = t
  simp only [bare, List.zipIdx_map, List.map_map]
  congr 1
  exact List.map_congr_left fun x _ => bindFile_bare t x.2 x.1

/-! ## What names mean -/

variable (t : Table)

theorem includeFault?_bare (file : Nat) : t.bare.includeFault? file = t.includeFault? file := by
  rw [includeFault?, includeFault?, getElem?_bare, Option.bind_map]
  rfl

theorem imported?_bare (file : Nat) (name : String) :
    t.bare.imported? file name = (t.imported? file name).map Definition.bare := by
  have himports : t.bare.importsOf file = t.importsOf file := by
    unfold importsOf
    rw [getElem?_bare]
    cases t.files[file]? <;> rfl
  rw [imported?, imported?, himports]
  cases (t.importsOf file).find? (·.name == name) with
  | none => rfl
  | some i => exact t.definitionAt?_bare i.target

/-- A name means the same. -/
theorem lookup?_bare (scope : Address) (name : String) :
    t.bare.lookup? scope name = (t.lookup? scope name).map Definition.bare := by
  obtain ⟨file, path⟩ := scope
  unfold lookup?
  induction path with
  | nil =>
    simp only [lookupFrom, typeIn?_bare, imported?_bare]
    cases t.typeIn? ⟨file, []⟩ name <;> rfl
  | cons index outer ih =>
    dsimp only at ih
    simp only [lookupFrom, typeIn?_bare, ih]
    cases t.typeIn? ⟨file, index :: outer⟩ name <;> rfl

theorem globalCandidates_bare (reader : Nat) (name : String) :
    t.bare.globalCandidates reader name =
      (t.globalCandidates reader name).map Definition.bare := by
  have hlength : t.bare.files.length = t.files.length := List.length_map ..
  rw [globalCandidates, globalCandidates, hlength, List.map_filterMap]
  refine congrArg (List.filterMap · _) (funext fun file => ?_)
  rw [typeIn?_bare, Option.filter_map]
  rfl

theorem memberType?_bare (d : Definition) (name : String) :
    t.bare.memberType? d.bare name = (t.memberType? d name).map Definition.bare := by
  rw [memberType?, memberType?, Definition.isStruct_bare]
  split
  · exact t.typeIn?_bare d.address name
  · rfl

theorem memberField?_bare (d : Definition) (name : String) :
    t.bare.memberField? d.bare name = (t.memberField? d name).map Field.bare := by
  rw [memberField?, memberField?, Definition.isStruct_bare]
  split
  · exact t.fieldIn?_bare d.address name
  · rfl

theorem resolveFirst_bare (reader : Nat) (scope : Address) (isGlobal : Bool) (name : Identifier) :
    t.bare.resolveFirst reader scope isGlobal name.bare =
      (t.resolveFirst reader scope isGlobal name).map Definition.bare := by
  have hname : name.bare.name = name.name := rfl
  unfold resolveFirst
  rw [hname, lookup?_bare, globalCandidates_bare]
  cases t.lookup? scope name.name with
  | some d => rfl
  | none =>
    cases isGlobal with
    | false => rfl
    | true =>
      match t.globalCandidates reader name.name with
      | [] | [_] => rfl
      | d :: e :: rest =>
        have hranges : (rest.map Definition.bare).map (·.name.range) = rest.map (·.name.range) :=
          List.map_map
        simp only [List.map_cons, hranges]
        rfl

theorem resolveRest_bare (isElement : Bool) (d : Definition) (names : List Identifier) :
    t.bare.resolveRest isElement d.bare (names.map Identifier.bare) =
      (t.resolveRest isElement d names).map ReferenceTarget.bare := by
  induction names generalizing d with
  | nil => rfl
  | cons name rest ih =>
    have hname : name.bare.name = name.name := rfl
    rw [List.map_cons, resolveRest, resolveRest, Definition.isStruct_bare, List.isEmpty_map, hname,
      memberField?_bare, memberType?_bare]
    split
    · rfl
    · split
      · cases t.memberField? d name.name with
        | none => rfl
        | some f =>
          have hcheck : checkAccessible f.bare.name name.bare = checkAccessible f.name name := rfl
          simp only [Option.map_some, hcheck]
          cases checkAccessible f.name name <;> rfl
      · cases t.memberType? d name.name with
        | none => rfl
        | some next =>
          have hcheck : checkAccessible next.bare.name name.bare =
            checkAccessible next.name name := rfl
          simp only [Option.map_some, hcheck]
          cases checkAccessible next.name name with
          | error e => rfl
          | ok => exact ih next

/-- A reference means the same. -/
theorem resolve_bare (reader : Nat) (r : Reference) (range : Range) (scope : Address) :
    t.bare.resolve reader r.bare range scope =
      (t.resolve reader r range scope).map ReferenceTarget.bare := by
  obtain ⟨segments, isGlobal, isElement⟩ := r
  cases segments with
  | nil => rfl
  | cons first rest =>
    simp only [resolve, Reference.bare, List.map_cons, resolveFirst_bare]
    cases t.resolveFirst reader scope isGlobal first with
    | error e => rfl
    | ok d => exact t.resolveRest_bare isElement d rest

/-! ## All statements -/

mutual

theorem addressed_bare (a : Address) (s : Statement WrittenType) :
    addressed a s.bare = (addressed a s).map (Prod.map id Statement.bare) := by
  match s with
  | .struct id range name bases metadata children =>
    rw [Statement.bare, addressed, addressed, List.map_cons, addressedIn_bares a 0 children]
    rfl
  | .item .. | .extension .. | .inclusion .. => rfl

theorem addressedIn_bares (scope : Address) (index : Nat) (ss : List (Statement WrittenType)) :
    addressedIn scope index (Statement.bares ss) =
      (addressedIn scope index ss).map (Prod.map id Statement.bare) := by
  match ss with
  | [] => rfl
  | s :: ss =>
    rw [Statement.bares, addressedIn, addressedIn, List.map_append, addressed_bare,
      addressedIn_bares scope (index + 1) ss]

end

theorem allStatements_bare :
    t.bare.allStatements = t.allStatements.map (Prod.map id Statement.bare) := by
  have hlength : t.bare.files.length = t.files.length := List.length_map ..
  rw [allStatements, allStatements, hlength, List.map_flatMap]
  refine congrArg (List.flatMap · _) (funext fun file => ?_)
  rw [rootStatements_bare, addressedIn_bares]

/-- An id leads to the same definition. -/
theorem definitionOf?_bare (i : ElementId) :
    t.bare.definitionOf? i = (t.definitionOf? i).map Definition.bare := by
  have hdefined : t.bare.allStatements.filterMap (fun x => Definition.ofStatement? x.1 x.2) =
      (t.allStatements.filterMap fun x => Definition.ofStatement? x.1 x.2).map
        Definition.bare := by
    rw [allStatements_bare, List.filterMap_map, List.map_filterMap]
    exact congrArg (List.filterMap · _) (funext fun x => Definition.ofStatement?_bare x.1 x.2)
  show ((t.bare.allStatements.filterMap fun x => Definition.ofStatement? x.1 x.2).filter
    fun d => d.id = i).getLast? = _
  rw [hdefined, List.filter_map, List.getLast?_map]
  rfl

end Table

/-! ## Parsed files -/

/-- Sources that differ in nothing but the markers before the names in the references of the files.
A plain name may be asked for more. -/
def SourcesRespelled (P : Source.Name → Source.Name → Prop)
    (sources sources' : List (Path × List Source.Statement)) : Prop :=
  List.Forall₂ (fun source source' => source'.1 = source.1 ∧
    List.Forall₂ (Source.Statement.Respelled P) source.2 source'.2) sources sources'

/-- Files of such sources are the same without markers. -/
theorem bare_parseInOrder {sources sources' : List (Path × List Source.Statement)}
    (h : SourcesRespelled Source.Name.BothReserved sources sources') :
    (parseInOrder sources).map ParsedFile.bare = (parseInOrder sources').map ParsedFile.bare := by
  unfold parseInOrder
  generalize 0 = start
  induction h generalizing start with
  | nil => rfl
  | @cons source source' _ _ h _ ih =>
    obtain ⟨path, ss⟩ := source
    obtain ⟨path', ss'⟩ := source'
    obtain ⟨hpath, h⟩ := h
    obtain rfl : path = path' := hpath.symm
    have hroot : bareRoot (Build.root ⟨path, start⟩ ss) = bareRoot (Build.root ⟨path, start⟩ ss') :=
      SameOutcome.iff_map_eq.1 (Build.root_respelled ⟨path, start⟩ h)
    simp only [List.zipIdx_cons, List.map_cons, ih (start + 1), ParsedFile.bare, hroot]

end Schemata
