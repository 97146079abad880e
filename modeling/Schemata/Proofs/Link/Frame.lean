import Mathlib
import Schemata.Proofs.Build.Sketch
import Schemata.Proofs.Link.Statements
import Schemata.Proofs.Link.Success

/-!
# What linking leaves as it is

Linking puts something in the place of references and leaves the rest of a file as it is. Statements
keep their ids, ranges and names, and each type that is written in them keeps its id, its range and
its cardinality, also where a copy of the type of a field is put in its place. Only such a copy may
have other metadata than what is written, namely that of the field, if there is none.

**Results:**
* `Table.MetadataOf.unique`: a type has its metadata from one place only.
* `Table.linkFile_frame`: a linked file is the parsed one but for the references.
-/
namespace Schemata
namespace Table

variable {t : Table} {reader : Nat}

/-- The metadata of a type that stands in a scope. It is what is written, but a reference to the
type of a field that has none takes that of the field. -/
inductive MetadataOf (t : Table) (reader : Nat) :
    Address → WrittenType → Option Metadata → Prop where
  | written {scope : Address} {type : WrittenType}
      (h : ∀ o r f, type = .reference o r → t.resolve reader r o.range scope ≠ .ok (.field f)) :
      MetadataOf t reader scope type type.occurrence.metadata
  | element {scope : Address} {o : Occurrence} {r : Reference} {f : Field} {m : Option Metadata}
      (he : r.isElement = true) (hr : t.resolve reader r o.range scope = .ok (.field f))
      (h : MetadataOf t reader f.scope f.type m) :
      MetadataOf t reader scope (.reference o r) (o.metadata <|> m)

/-- A type has its metadata from one place only. -/
theorem MetadataOf.unique {scope : Address} {type : WrittenType} {m m' : Option Metadata}
    (h : t.MetadataOf reader scope type m) (h' : t.MetadataOf reader scope type m') : m = m' := by
  induction h generalizing m' with
  | written h =>
    cases h' with
    | written => rfl
    | element _ hr _ => exact absurd hr (h _ _ _ rfl)
  | element _ hr _ ih =>
    cases h' with
    | written h' => exact absurd hr (h' _ _ _ rfl)
    | element _ hr' h' =>
      rw [hr] at hr'
      cases hr'
      rw [ih h']

mutual

/-- A linked type is the written one that stands in a scope, but for references: in the place of one
there may be any type, with the id, the range and the cardinality of the reference. -/
inductive Keeps (t : Table) (reader : Nat) : Address → WrittenType → LinkedType → Prop where
  | fundamental (scope : Address) (o : Occurrence) (f : Fundamental) :
      Keeps t reader scope (.fundamental o f) (.fundamental o f)
  | tuple {scope : Address} {o : Occurrence} {members : List WrittenType}
      {linked : List LinkedType} (h : KeepsAll t reader scope members linked) :
      Keeps t reader scope (.tuple o members) (.tuple o linked)
  | variant {scope : Address} {o : Occurrence} {members : List WrittenType}
      {linked : List LinkedType} (h : KeepsAll t reader scope members linked) :
      Keeps t reader scope (.variant o members) (.variant o linked)
  | reference {scope : Address} {o : Occurrence} {r : Reference} {linked : LinkedType}
      {m : Option Metadata} (hm : t.MetadataOf reader scope (.reference o r) m)
      (h : linked.occurrence = { o with metadata := m }) :
      Keeps t reader scope (.reference o r) linked

/-- Linked types are the written ones that stand in a scope, one by one, but for references. -/
inductive KeepsAll (t : Table) (reader : Nat) :
    Address → List WrittenType → List LinkedType → Prop where
  | nil (scope : Address) : KeepsAll t reader scope [] []
  | cons {scope : Address} {type : WrittenType} {linked : LinkedType} {types : List WrittenType}
      {rest : List LinkedType} (h : Keeps t reader scope type linked)
      (hs : KeepsAll t reader scope types rest) :
      KeepsAll t reader scope (type :: types) (linked :: rest)

end

/-! ## References to fields -/

theorem isElement_of_resolveRest {isElement : Bool} {d : Definition} {names : List Identifier}
    {f : Field} (h : t.resolveRest isElement d names = .ok (.field f)) : isElement = true := by
  induction names generalizing d with
  | nil => cases h
  | cons name rest ih =>
    rw [resolveRest] at h
    split at h
    · cases h
    · split at h
      · rename_i hlast
        exact (Bool.and_eq_true_iff.1 hlast).1
      · split at h
        · obtain ⟨_, _, h⟩ := bind_eq_ok_iff.1 h
          exact ih h
        · cases h

/-- Only an element reference means a field. -/
theorem isElement_of_resolve {r : Reference} {range : Range} {scope : Address} {f : Field}
    (h : t.resolve reader r range scope = .ok (.field f)) : r.isElement = true := by
  unfold resolve at h
  split at h
  · cases h
  · obtain ⟨_, _, h⟩ := bind_eq_ok_iff.1 h
    exact isElement_of_resolveRest h

/-! ## Types -/

theorem metadataOf_of_definition {scope : Address} {o : Occurrence} {r : Reference}
    {d : Definition} (hr : t.resolve reader r o.range scope = .ok (.definition d)) :
    t.MetadataOf reader scope (.reference o r) o.metadata := by
  refine .written fun o' r' f heq hf => ?_
  cases heq
  cases hr.symm.trans hf

/-- A type that is kept has the metadata of the written one. -/
theorem Keeps.metadataOf {scope : Address} {type : WrittenType} {linked : LinkedType}
    (h : t.Keeps reader scope type linked) :
    t.MetadataOf reader scope type linked.occurrence.metadata := by
  cases h with
  | fundamental | tuple | variant => exact .written fun _ _ _ heq => by cases heq
  | reference hm h =>
    rw [h]
    exact hm

mutual

/-- What a type means is the type itself, but for references. -/
theorem Means.keeps {scope : Address} {type : WrittenType} {linked : LinkedType}
    (h : t.Means reader scope type linked) : t.Keeps reader scope type linked := by
  match h with
  | .fundamental scope o f => exact .fundamental scope o f
  | .tuple h => exact .tuple h.keeps
  | .variant h _ => exact .variant h.keeps
  | .ofStruct hr _ | .ofAlias hr _ _ => exact .reference (metadataOf_of_definition hr) rfl
  | .ofField hr h hp =>
    refine .reference (.element (isElement_of_resolve hr) hr h.keeps.metadataOf) ?_
    rw [hp, LinkedType.occurrence_inPlaceOf]

theorem MeansAll.keeps {scope : Address} {types : List WrittenType} {linked : List LinkedType}
    (h : t.MeansAll reader scope types linked) : t.KeepsAll reader scope types linked := by
  match h with
  | .nil scope => exact .nil scope
  | .cons h hs => exact .cons h.keeps hs.keeps

end

/-! ## Files -/

variable {files : List ParsedFile}

/-- A linked file is the parsed one, but for the references: it has the same range and the same
statements, with the same types in them. -/
theorem linkFile_frame (hb : BuiltInOrder files) {file : Nat} {f : ParsedFile}
    (hf : files[file]? = some f) {root : Root LinkedType}
    (h : (ofFiles files).linkFile file f = .ok root) :
    ∃ source, f.root = .ok source ∧ root.range = source.range ∧
      CarriesFrom ((ofFiles files).Keeps file) ⟨file, []⟩ 0 source.statements root.statements := by
  obtain ⟨source, hsource, hcarries⟩ := linkFile_carries hb hf h
  obtain ⟨source', hsource', -, hrange, -⟩ := (linkFile_eq_ok_iff hb hf).1 h
  cases hsource.symm.trans hsource'
  have hkeeps : ∀ scope type linked, scope.file = file →
      (ofFiles files).Means file scope type linked → (ofFiles files).Keeps file scope type linked :=
    fun _ _ _ _ hmeans => hmeans.keeps
  exact ⟨source, hsource, hrange, hcarries.imp hkeeps rfl⟩

/-- A field whose type has metadata, an alias for it, and a structure with a base. -/
def framedFiles : List ParsedFile :=
  parseInOrder
    [(⟨"a"⟩, [.record 1 "S" [] [.names 2 "z" (.tuple (.noted 2 "old") [.named 2 ["Date"]])],
        .names 3 "A" (.element 3 ["S", "z"]), .record 4 "T" [.named 4 ["S"]] []])]

/-- The file is linked, and it is the parsed one but for the references. -/
theorem linkFile_frame_framedFiles :
    BuiltInOrder framedFiles ∧ ∃ f source root, framedFiles[0]? = some f ∧
      (ofFiles framedFiles).linkFile 0 f = .ok root ∧ f.root = .ok source ∧
      root.range = source.range ∧ CarriesFrom ((ofFiles framedFiles).Keeps 0) ⟨0, []⟩ 0
        source.statements root.statements := by
  have hb : BuiltInOrder framedFiles := builtInOrder_parseInOrder _
  obtain ⟨f, hf⟩ : ∃ f, framedFiles[0]? = some f := ⟨_, rfl⟩
  have hok : (framedFiles[0]?.all fun f => ((ofFiles framedFiles).linkFile 0 f).isOk) = true := by
    cbv
  rw [hf, Option.all_some] at hok
  obtain ⟨root, hroot⟩ := exists_of_isOk hok
  obtain ⟨source, hsource, hrange, hcarries⟩ := linkFile_frame hb hf hroot
  exact ⟨hb, f, source, root, hf, hroot, hsource, hrange, hcarries⟩

end Table
end Schemata
