import Schemata.Proofs.Link.Ending
import Schemata.Proofs.Table.Markers

/-!
# Markers in references, while a file is linked

Files that differ in nothing but the markers in references are linked to the same results. A linked
type has no references, and a diagnostic of linking quotes names without their markers, so linking
without markers takes the very same steps. They are compared on the machine that has one changing
state, where both runs are over the same stacks.

The markers before the name of a fundamental type do matter, because such a name is reserved as it
is written: with a marker it is that of another type, which nobody may define.

**Results:**
* `Table.runs_bare`, `Table.searches_bare`: linking without markers takes the same steps.
* `Table.linkFile_eq_of_bare`: files that are the same without markers are linked alike.
* `Table.markersIgnored_of_bothReserved`: what markers do not matter for, and when.
* `Table.not_markersIgnored_fieldOf`: a marker that does matter.
-/
namespace Schemata

namespace Table

/-! ## Types and bases -/

/-- Linking without markers takes the same steps. -/
theorem runs_bare (t : Table) (reader : Nat) (reads : Bool) (depth : Nat) :
    (∀ scope type l,
      t.bare.runType reader reads depth scope type.bare l =
        t.runType reader reads depth scope type l) ∧
    (∀ d aliased via l,
      t.bare.runAlias reader reads depth d.bare aliased.bare via l =
        t.runAlias reader reads depth d aliased via l) ∧
    (∀ f o l,
      t.bare.runField reader reads depth f.bare o l = t.runField reader reads depth f o l) ∧
    ∀ scope types l,
      t.bare.runTypes reader reads depth scope (WrittenType.bares types) l =
        t.runTypes reader reads depth scope types l := by
  induction depth with
  | zero => simp only [runType, runAlias, runField, runTypes, implies_true, and_self]
  | succ depth ih =>
    obtain ⟨ihtype, ihalias, ihfield, ihtypes⟩ := ih
    refine ⟨?ofType, ?ofAlias, ?ofField, ?ofTypes⟩
    case ofType =>
      intro scope type l
      cases type with
      | fundamental o f => rfl
      | tuple o members | variant o members =>
        simp only [WrittenType.bare, runType, ihtypes]
      | reference o r =>
        rw [WrittenType.bare, runType, runType, resolve_bare]
        rcases t.resolve reader r o.range scope with e | d | f
        · rfl
        · obtain ⟨a, id, name, bases | aliased⟩ := d
          · rfl
          · exact congrArg (· >>= _) (ihalias ⟨a, id, name, .alias aliased⟩ aliased o.range l)
        · exact ihfield f o l
    case ofAlias =>
      intro d aliased via l
      simp only [runAlias, ihtype, Definition.bare]
      rfl
    case ofField =>
      intro f o l
      simp only [runField, ihtype, Field.bare]
    case ofTypes =>
      intro scope types l
      cases types with
      | nil => rfl
      | cons type rest => simp only [WrittenType.bares, runTypes, ihtype, ihtypes]

/-- The search for cycles of bases without markers takes the same steps. -/
theorem searches_bare (t : Table) (reader : Nat) (reads : Bool) (depth : Nat) :
    (∀ d via l,
      t.bare.runBaseCycles reader reads depth d.bare via l =
        t.runBaseCycles reader reads depth d via l) ∧
    ∀ scope bases l,
      t.bare.runBasesOf reader reads depth scope (WrittenType.bares bases) l =
        t.runBasesOf reader reads depth scope bases l := by
  induction depth with
  | zero => simp only [runBaseCycles, runBasesOf, implies_true, and_self]
  | succ depth ih =>
    obtain ⟨ihcycles, ihbases⟩ := ih
    refine ⟨?cycles, ?bases⟩
    case cycles =>
      intro d via l
      obtain ⟨a, id, name, bases | aliased⟩ := d
      · simp only [runBaseCycles, Definition.bare, DefinitionKind.bare, ihbases]
      · rfl
    case bases =>
      intro scope bases l
      cases bases with
      | nil => rfl
      | cons base rest =>
        have hbase : ∀ s : Option (ElementId × Identifier),
            (s.bind fun s => t.bare.definitionOf? s.1) =
              (s.bind fun s => t.definitionOf? s.1).map Definition.bare := by
          rintro (- | s)
          · rfl
          · exact t.definitionOf?_bare s.1
        rw [WrittenType.bares, runBasesOf, runBasesOf, (t.runs_bare reader reads depth).1]
        refine congrArg (_ >>= ·) (funext fun r => ?_)
        obtain ⟨x, l⟩ := r
        cases x with
        | error e => rfl
        | ok linked =>
          dsimp only
          rw [hbase]
          cases linked.structure?.bind fun s => t.definitionOf? s.1 with
          | none => exact ihbases scope rest l
          | some d =>
            simp only [Option.map_some, WrittenType.occurrence_bare, ihcycles, ihbases]

/-! ## Statements -/

section

variable (t : Table) (reader : Nat) (reads : Bool) (depth : Nat)

theorem runItem_bare (scope : Address) (id : ElementId) (name : Identifier) (type : WrittenType)
    (l : Linker) :
    t.bare.runItem reader reads depth scope id name type.bare l =
      t.runItem reader reads depth scope id name type l := by
  obtain ⟨htype, halias, -⟩ := t.runs_bare reader reads depth
  unfold runItem
  rw [definitionOf?_bare, htype]
  rcases t.definitionOf? id with - | ⟨a, i, n, bases | aliased⟩
  · rfl
  · cases name.isType <;> rfl
  · cases name.isType
    · rfl
    · exact halias ⟨a, i, n, .alias aliased⟩ aliased name.range l

theorem runBases_bare (scope : Address) (d : Definition) (name : Identifier)
    (bases : List WrittenType) (l : Linker) :
    t.bare.runBases reader reads depth scope d.bare name (WrittenType.bares bases) l =
      t.runBases reader reads depth scope d name bases l := by
  simp only [runBases, (t.runs_bare reader reads depth).2.2.2,
    (t.searches_bare reader reads depth).1]

mutual

theorem runStatement_bare (scope : Address) (s : Statement WrittenType) (l : Linker) :
    t.bare.runStatement reader reads depth scope s.bare l =
      t.runStatement reader reads depth scope s l := by
  match s with
  | .item id range name type => rw [Statement.bare, runStatement, runStatement, runItem_bare]
  | .struct id range name bases metadata children =>
    rw [Statement.bare, runStatement, runStatement, definitionOf?_bare]
    cases t.definitionOf? id with
    | none => rfl
    | some d =>
      simp only [Option.map_some, Definition.isStruct_bare, runBases_bare]
      split
      · refine congrArg (_ >>= ·) (funext fun r => ?_)
        obtain ⟨x, l⟩ := r
        cases x with
        | error e => rfl
        | ok linked =>
          dsimp only
          exact congrArg (· >>= _) (runStatements_bare d.address children l)
      · rfl
  | .extension .. | .inclusion .. => simp only [Statement.bare, runStatement]

theorem runStatements_bare (scope : Address) (ss : List (Statement WrittenType)) (l : Linker) :
    t.bare.runStatements reader reads depth scope (Statement.bares ss) l =
      t.runStatements reader reads depth scope ss l := by
  match ss with
  | [] => simp only [Statement.bares, runStatements]
  | s :: rest =>
    rw [Statement.bares, runStatements, runStatements, runStatement_bare]
    refine congrArg (_ >>= ·) (funext fun r => ?_)
    obtain ⟨x, l⟩ := r
    cases x with
    | error e => rfl
    | ok first =>
      dsimp only
      rw [runStatements_bare scope rest l]

end

/-- Linking a file without markers takes the same steps, if the file has a root. -/
theorem runFile_bare (file : Nat) {f : ParsedFile} {root : Root WrittenType}
    (hr : f.root = .ok root) :
    t.bare.runFile reads depth file f.bare = t.runFile reads depth file f := by
  have hroot : f.bare.root = .ok root.bare := by
    rw [ParsedFile.bare, hr]
    rfl
  unfold runFile
  rw [hroot, hr, includeFault?_bare, hasRoot_bare]
  simp only [Root.bare, runStatements_bare, ParsedFile.bare]

end

/-! ## Files -/

/-- Files that are the same without markers are linked to the same results. -/
theorem linkFile_eq_of_bare {files files' : List ParsedFile} (hb : BuiltInOrder files)
    (hb' : BuiltInOrder files')
    (hbare : files.map ParsedFile.bare = files'.map ParsedFile.bare) {i : Nat} {f f' : ParsedFile}
    (hf : files[i]? = some f) (hf' : files'[i]? = some f') :
    SameOutcome Eq ((ofFiles files).linkFile i f) ((ofFiles files').linkFile i f') := by
  have hsame : f.bare = f'.bare := by
    have hget := congrArg (·[i]?) hbare
    simpa [hf, hf'] using hget
  have htable : (ofFiles files).bare = (ofFiles files').bare := by
    rw [← ofFiles_bare, hbare, ofFiles_bare]
  have hroot : bareRoot f.root = bareRoot f'.root := congrArg ParsedFile.root hsame
  cases hr : f.root with
  | error e =>
    cases hr' : f'.root with
    | error e' =>
      rw [hr, hr'] at hroot
      simp only [linkFile, hr, hr']
      exact .error (Except.error.inj hroot)
    | ok root =>
      rw [hr, hr'] at hroot
      cases hroot
  | ok root =>
    cases hr' : f'.root with
    | error e =>
      rw [hr, hr'] at hroot
      cases hroot
    | ok root' =>
      -- both runs are the run without markers
      have hrun : ∀ n, (ofFiles files).runFile true n i f = (ofFiles files').runFile true n i f' := by
        intro n
        rw [← runFile_bare _ true n i hr, htable, hsame, runFile_bare _ true n i hr']
      obtain ⟨l, hl, -⟩ := runFile_runsTo hb hf true
      obtain ⟨l', hl', -⟩ := runFile_runsTo hb' hf' true
      simp only [hrun] at hl
      exact .of_eq (Prod.mk.inj (hl.unique hl')).1

/-- The markers before the names in references do not matter: the files are built alike, what is
linked is the same or fails alike, and references mean the same. -/
structure MarkersIgnored (sources sources' : List (Path × List Source.Statement)) : Prop where
  built : List.Forall₂ (fun f f' => f.path = f'.path ∧
    SameOutcome (fun root root' => root.bare = root'.bare) f.root f'.root)
      (parseInOrder sources) (parseInOrder sources')
  linked : List.Forall₂ (SameOutcome Eq)
    ((ofFiles (parseInOrder sources)).linkFiles (parseInOrder sources))
    ((ofFiles (parseInOrder sources')).linkFiles (parseInOrder sources'))
  meant : ∀ (reader : Nat) (r r' : Reference) (range : Range) (scope : Address), r.bare = r'.bare →
    ((ofFiles (parseInOrder sources)).resolve reader r range scope).map ReferenceTarget.bare =
      ((ofFiles (parseInOrder sources')).resolve reader r' range scope).map ReferenceTarget.bare

/-- The markers in references do not matter, as long as they do not make the plain name of a
fundamental type of another name or the other way round. -/
theorem markersIgnored_of_bothReserved {sources sources' : List (Path × List Source.Statement)}
    (h : SourcesRespelled Source.Name.BothReserved sources sources') :
    MarkersIgnored sources sources' := by
  have hbare := bare_parseInOrder h
  have hlength : (parseInOrder sources).length = (parseInOrder sources').length := by
    simpa using congrArg List.length hbare
  refine ⟨?built, ?linked, ?meant⟩
  case built =>
    refine List.forall₂_iff_get.2 ⟨hlength, fun i hi hi' => ?_⟩
    have hsame : (parseInOrder sources)[i].bare = (parseInOrder sources')[i].bare := by
      have hget := congrArg (·[i]?) hbare
      simpa [hi, hi'] using hget
    obtain ⟨hpath, hroot⟩ := ParsedFile.mk.inj hsame
    exact ⟨hpath, SameOutcome.iff_map_eq.2 hroot⟩
  case linked =>
    refine List.forall₂_iff_get.2 ⟨?_, fun i hi hi' => ?_⟩
    · simp only [linkFiles, List.length_map, List.length_zipIdx, hlength]
    · simp only [linkFiles, List.length_map, List.length_zipIdx] at hi hi'
      simp only [linkFiles, List.get_eq_getElem, List.getElem_map, List.getElem_zipIdx,
        Nat.zero_add]
      exact linkFile_eq_of_bare (builtInOrder_parseInOrder sources)
        (builtInOrder_parseInOrder sources') hbare (List.getElem?_eq_getElem hi)
        (List.getElem?_eq_getElem hi')
  case meant =>
    intro reader r r' range scope hr
    rw [← resolve_bare, ← resolve_bare, ← ofFiles_bare, ← ofFiles_bare, hbare, hr]

/-- A file with a structure and a field whose type is written as the given plain name. -/
def fieldOf (name : String) : List (Path × List Source.Statement) :=
  [(⟨"ws/a"⟩, [.record 1 "Point" [] [], .names 2 "x" (.named 2 [name])])]

theorem sourcesRespelled_fieldOf {P : Source.Name → Source.Name → Prop} {a b : String}
    (hkey : (Source.Name.onLine 2 a).Respelled (.onLine 2 b))
    (hplain : P (.onLine 2 a) (.onLine 2 b)) : SourcesRespelled P (fieldOf a) (fieldOf b) := by
  have htype : (Source.TypeExpr.named 2 [a]).Respelled P (.named 2 [b]) := by
    refine .reference (.cons hkey .nil) fun n n' hn hn' _ _ => ?_
    cases hn
    cases hn'
    exact hplain
  exact .cons ⟨rfl, .cons (.struct .nil .nil) (.cons (.item htype) .nil)⟩ .nil

/-- A marker before the name of a structure does not matter. -/
theorem markersIgnored_fieldOf :
    SourcesRespelled Source.Name.BothReserved (fieldOf "Point") (fieldOf "_Point") ∧
      MarkersIgnored (fieldOf "Point") (fieldOf "_Point") ∧
      ((ofFiles (parseInOrder (fieldOf "_Point"))).linkFiles
        (parseInOrder (fieldOf "_Point"))).map Except.isOk = [true] := by
  have h : SourcesRespelled Source.Name.BothReserved (fieldOf "Point") (fieldOf "_Point") := by
    refine sourcesRespelled_fieldOf ⟨rfl, by decide⟩ ?_
    simp [Source.Name.BothReserved, Source.Name.onLine, reservedNames]
  exact ⟨h, markersIgnored_of_bothReserved h, by cbv⟩

theorem MarkersIgnored.isOk_eq {sources sources' : List (Path × List Source.Statement)}
    (h : MarkersIgnored sources sources') :
    ((ofFiles (parseInOrder sources')).linkFiles (parseInOrder sources')).map Except.isOk =
      ((ofFiles (parseInOrder sources)).linkFiles (parseInOrder sources)).map Except.isOk := by
  refine map_eq_of_forall₂ h.linked fun x y hxy => ?_
  cases hxy <;> rfl

/-- A marker before the name of a fundamental type does matter: the name is not reserved then, and
no type is found for it. -/
theorem not_markersIgnored_fieldOf :
    SourcesRespelled (fun _ _ => True) (fieldOf "String") (fieldOf "_String") ∧
      ¬ MarkersIgnored (fieldOf "String") (fieldOf "_String") := by
  refine ⟨sourcesRespelled_fieldOf ⟨rfl, by decide⟩ trivial, fun h => ?_⟩
  have hok : ((ofFiles (parseInOrder (fieldOf "String"))).linkFiles
      (parseInOrder (fieldOf "String"))).map Except.isOk = [true] := by cbv
  have hrefused : ((ofFiles (parseInOrder (fieldOf "_String"))).linkFiles
      (parseInOrder (fieldOf "_String"))).map Except.isOk = [false] := by cbv
  have heq := h.isOk_eq
  rw [hok, hrefused] at heq
  cases heq

end Table
end Schemata
