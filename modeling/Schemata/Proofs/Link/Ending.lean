import Mathlib
import Schemata.Proofs.Link.Cycles
import Schemata.Proofs.Link.Simulation

/-!
# Linking ends

Linking a file with one changing state ends with the result of linking it on trails, with and
without memory. No definition is on a stack twice, so a stack never holds more definitions than
there are.

**Results:**
* `Table.linking_ends`: linking a file ends, on stacks that are bounded and always restored.
* `Table.linkFile_eq_forgetful`: linking a file without memory has the same result.
-/
namespace Schemata

theorem Trail.length_le {ids : List ElementId} (trail : Trail ids) :
    trail.steps.length ≤ ids.length := by
  rw [← List.length_map TrailStep.id]
  refine (List.subperm_of_subset trail.distinct fun id hid => ?_).length_le
  obtain ⟨step, hstep, rfl⟩ := List.mem_map.1 hid
  exact trail.known step hstep

namespace Table

variable {t : Table} {reader : Nat} {reads : Bool} {memory : LinkMemory} {l : Linker}
  {files : List ParsedFile}

/-! ## Statements -/

theorem runDefinition_runsTo (hb : BuiltInOrder files)
    (hm : (ofFiles files).Remembers reader memory)
    (hl : (ofFiles files).Agrees reads .empty .empty memory l) {d : Definition}
    (held : (ofFiles files).Holds d) (via : Range) :
    (ofFiles files).RunsTo reads .empty .empty
      (fun n => (ofFiles files).runDefinition reader reads n d via l)
      ((ofFiles files).linkDefinition reader memory d held via) := by
  unfold runDefinition linkDefinition
  split <;> rename_i hk <;> split <;> rename_i hk'
  · obtain rfl := DefinitionKind.alias.inj (hk.symm.trans hk')
    exact runAlias_runsTo hb held hk _ (enters_empty held hk _) hm.aliases hl
  · cases hk.symm.trans hk'
  · cases hk.symm.trans hk'
  · exact .now hl _

theorem runItem_runsTo (hb : BuiltInOrder files) (hm : (ofFiles files).Remembers reader memory)
    (hl : (ofFiles files).Agrees reads .empty .empty memory l) (scope : Address) (id : ElementId)
    (name : Identifier) (type : WrittenType) :
    (ofFiles files).RunsTo reads .empty .empty
      (fun n => (ofFiles files).runItem reader reads n scope id name type l)
      ((ofFiles files).linkItem reader memory scope id name type) := by
  unfold linkItem
  split
  · rename_i _ d hd hisType
    have hitem : ∀ n, (ofFiles files).runItem reader reads n scope id name type l =
        (ofFiles files).runDefinition reader reads n d name.range l := by
      intro n
      rw [runItem, hd, hisType]
    simp only [hitem]
    exact runDefinition_runsTo hb hm hl _ _
  · rename_i hnot
    have hitem : ∀ n, (ofFiles files).runItem reader reads n scope id name type l =
        (ofFiles files).runType reader reads n scope type l := by
      intro n
      unfold runItem
      split
      · rename_i hd hisType
        exact (hnot _ hd hisType).elim
      · rfl
    simp only [hitem]
    exact runType_runsTo hb type (.empty _ reader scope [type]) hm.aliases hl

theorem runBases_runsTo (hb : BuiltInOrder files) (hm : (ofFiles files).Remembers reader memory)
    (hl : (ofFiles files).Agrees reads .empty .empty memory l) (scope : Address) {d : Definition}
    (held : (ofFiles files).Holds d) (name : Identifier) (bases : List WrittenType) :
    (ofFiles files).RunsTo reads .empty .empty
      (fun n => (ofFiles files).runBases reader reads n scope d name bases l)
      ((ofFiles files).linkBases reader memory scope d held name bases) := by
  have htypes := runTypes_runsTo hb bases (.empty _ reader scope bases) hm.aliases hl
  have hm' := (linkTypes_decides hb hm scope bases).remembers
  refine htypes.bind fun l hl => ?_
  rw [linkBases]
  rcases hx : (ofFiles files).linkTypes reader .empty memory scope bases with ⟨x, m⟩
  rw [hx] at hl hm'
  cases x with
  | error e => exact .now hl _
  | ok linked =>
    dsimp only
    cases hc : checkBaseCombination name linked with
    | error e => exact .now hl _
    | ok =>
      have hcycles := runBaseCycles_runsTo hb held name.range
        ⟨.nil, fun u hu => by cases hu⟩ (fun u hu => by cases hu) hm' hl
      refine hcycles.bind fun l hl => ?_
      rcases hy : (ofFiles files).checkBaseCycles reader .empty m d held name.range with ⟨y, n⟩
      rw [hy] at hl
      cases y <;> exact .now hl _

mutual

/-- Linking a statement of the table with a changing state ends as linking it does. -/
theorem runStatement_runsTo (hb : BuiltInOrder files) {memory : LinkMemory} {l : Linker}
    (hm : (ofFiles files).Remembers reader memory)
    (hl : (ofFiles files).Agrees reads .empty .empty memory l) {a : Address}
    (s : Statement WrittenType) (hs : addressed a s ⊆ (ofFiles files).allStatements) :
    (ofFiles files).RunsTo reads .empty .empty
      (fun n => (ofFiles files).runStatement reader reads n a.scope s l)
      ((ofFiles files).linkStatement reader memory a.scope s) := by
  match s with
  | .item id range name type =>
    simp only [runStatement, linkStatement]
    refine (runItem_runsTo hb hm hl a.scope id name type).bind fun l hl => ?_
    rcases hx : (ofFiles files).linkItem reader memory a.scope id name type with ⟨x, m⟩
    rw [hx] at hl
    cases x <;> exact .now hl _
  | .struct id range name bases metadata children =>
    have hd : (ofFiles files).definitionOf? id = some ⟨a, id, name, .struct bases⟩ :=
      definitionOf?_of_mem hb (hs (mem_addressed_self a _)) rfl
    have hin : addressedIn a 0 children ⊆ (ofFiles files).allStatements :=
      fun x hx => hs (by rw [addressed]; exact List.mem_cons_of_mem _ hx)
    have hstruct : Definition.isStruct ⟨a, id, name, .struct bases⟩ = true := rfl
    have held := holds_of_definitionOf? hd
    rw [linkStatement_of_definition hd, if_pos hstruct]
    simp only [runStatement, hd, if_pos hstruct]
    have hm' := (linkBases_decides hb hm a.scope held name bases).remembers
    refine (runBases_runsTo hb hm hl a.scope held name bases).bind fun l hl => ?_
    rcases hx : (ofFiles files).linkBases reader memory a.scope ⟨a, id, name, .struct bases⟩ held
      name bases with ⟨x, m⟩
    rw [hx] at hl hm'
    cases x with
    | error e => exact .now hl _
    | ok linked =>
      refine (runStatements_runsTo hb hm' hl children hin).bind fun l hl => ?_
      dsimp only
      rcases hy : (ofFiles files).linkStatements reader m a children with ⟨y, n⟩
      rw [hy] at hl
      cases y <;> exact .now hl _
  | .extension id range call =>
    simp only [runStatement, linkStatement]
    exact .now hl _
  | .inclusion id range i =>
    simp only [runStatement, linkStatement]
    exact .now hl _

theorem runStatements_runsTo (hb : BuiltInOrder files) {memory : LinkMemory} {l : Linker}
    (hm : (ofFiles files).Remembers reader memory)
    (hl : (ofFiles files).Agrees reads .empty .empty memory l) {scope : Address} {index : Nat}
    (ss : List (Statement WrittenType))
    (hs : addressedIn scope index ss ⊆ (ofFiles files).allStatements) :
    (ofFiles files).RunsTo reads .empty .empty
      (fun n => (ofFiles files).runStatements reader reads n scope ss l)
      ((ofFiles files).linkStatements reader memory scope ss) := by
  match ss with
  | [] =>
    simp only [runStatements, linkStatements]
    exact .now hl _
  | s :: rest =>
    rw [addressedIn, List.append_subset] at hs
    have hfirst : (ofFiles files).RunsTo reads .empty .empty
        (fun n => (ofFiles files).runStatement reader reads n scope s l)
        ((ofFiles files).linkStatement reader memory scope s) :=
      runStatement_runsTo hb hm hl s hs.1
    have hm' : (ofFiles files).Remembers reader
        ((ofFiles files).linkStatement reader memory scope s).2 :=
      (linkStatement_decides hb hm s hs.1).remembers
    simp only [runStatements, linkStatements]
    refine hfirst.bind fun l hl => ?_
    rcases hx : (ofFiles files).linkStatement reader memory scope s with ⟨x, m⟩
    rw [hx] at hl hm'
    cases x with
    | error e => exact .now hl _
    | ok first =>
      refine (runStatements_runsTo hb hm' hl rest hs.2).bind fun l hl => ?_
      dsimp only
      rcases hy : (ofFiles files).linkStatements reader m scope rest with ⟨y, n⟩
      rw [hy] at hl
      cases y <;> exact .now hl _

end

/-! ## Files -/

/-- Linking a file with a changing state ends as linking it does, on trails at all times. -/
theorem runFile_runsTo (hb : BuiltInOrder files) {file : Nat} {f : ParsedFile}
    (hf : files[file]? = some f) (reads : Bool) :
    ∃ l, Finishes (fun n => (ofFiles files).runFile reads n file f)
        ((ofFiles files).linkFile file f, l) ∧
      ∀ s ∈ l.history, (ofFiles files).OnTrails s := by
  have hstart := agrees_start (ofFiles files) reads
  unfold runFile linkFile
  cases hr : f.root with
  | error e => exact ⟨_, .now _, hstart.history⟩
  | ok root =>
    cases hfault : (ofFiles files).includeFault? file with
    | some e => exact ⟨_, .now _, hstart.history⟩
    | none =>
      simp only [if_pos (hasRoot_of_root hf hr), linkRoot]
      obtain ⟨l, hrun, hl⟩ := runStatements_runsTo hb (remembers_empty _ file) hstart
        root.statements (addressedIn_root_subset hf hr)
      refine ⟨l, hrun.bind ?_, hl.history⟩
      rcases (ofFiles files).linkStatements file .empty ⟨file, []⟩ root.statements with ⟨x, m⟩
      cases x <;> exact .now _

/-- On each stack the definitions are distinct, and there are no more of them than there are aliases
and fields, or structures, in all files. -/
structure StacksFit (t : Table) (s : List TrailStep × List TrailStep) : Prop where
  items : (s.1.map TrailStep.id).Nodup
  structs : (s.2.map TrailStep.id).Nodup
  items_le : s.1.length ≤ t.itemIds.length
  structs_le : s.2.length ≤ t.structIds.length

theorem OnTrails.fit {s : List TrailStep × List TrailStep} (h : t.OnTrails s) : t.StacksFit s := by
  obtain ⟨items, structs, rfl⟩ := h
  exact ⟨items.distinct, structs.distinct, items.length_le, structs.length_le⟩

/-- Linking a file ends, cyclic or not. Its stacks hold distinct definitions at all times, and every
call for an alias, a field or the bases of a structure leaves them as it found them, whether it
fails or not. -/
theorem linking_ends (hb : BuiltInOrder files) {file : Nat} {f : ParsedFile}
    (hf : files[file]? = some f) :
    (∃ l, Finishes (fun n => (ofFiles files).runFile true n file f)
        ((ofFiles files).linkFile file f, l) ∧
      ∀ s ∈ l.history, (ofFiles files).StacksFit s) ∧
    ∀ n,
      (∀ d aliased via l x, (ofFiles files).runAlias file true n d aliased via l = some x →
        l.SameStacks x.2) ∧
      (∀ g o l x, (ofFiles files).runField file true n g o l = some x → l.SameStacks x.2) ∧
      ∀ d via l x, (ofFiles files).runBaseCycles file true n d via l = some x →
        l.SameStacks x.2 := by
  obtain ⟨l, hrun, hl⟩ := runFile_runsTo hb hf true
  refine ⟨⟨l, hrun, fun s hs => (hl s hs).fit⟩, fun n => ?_⟩
  obtain ⟨-, halias, hfield, -⟩ := runs_restore (ofFiles files) file true n
  exact ⟨halias, hfield, (searches_restore (ofFiles files) file true n).1⟩

/-- Linking the file with two aliases that stand for each other ends, with a diagnostic of the
cycle. -/
theorem linking_ends_mutualFiles :
    BuiltInOrder mutualFiles ∧ ∃ f e l, mutualFiles[0]? = some f ∧
      e.cause = .circularTypeReference "A" ∧
      Finishes (fun n => (ofFiles mutualFiles).runFile true n 0 f) (.error e, l) ∧
      ∀ s ∈ l.history, (ofFiles mutualFiles).StacksFit s := by
  have hb : BuiltInOrder mutualFiles := builtInOrder_parseInOrder _
  obtain ⟨f, hf⟩ : ∃ f, mutualFiles[0]? = some f := ⟨_, rfl⟩
  have hcause : (mutualFiles[0]?.map fun f =>
      (((ofFiles mutualFiles).linkFile 0 f).mapError Diagnostic.cause).map fun _ => ()) =
        some (.error (.circularTypeReference "A")) := by
    cbv
  rw [hf, Option.map_some] at hcause
  obtain ⟨l, hrun, hfit⟩ := (linking_ends hb hf).1
  cases hx : (ofFiles mutualFiles).linkFile 0 f with
  | ok root =>
    rw [hx] at hcause
    cases hcause
  | error e =>
    rw [hx] at hcause hrun
    exact ⟨hb, f, e, l, hf, Except.error.inj (Option.some.inj hcause), hrun, hfit⟩

/-- What is remembered cannot be observed: linking a file without reading it has the same
result. -/
theorem linkFile_eq_forgetful (hb : BuiltInOrder files) {file : Nat} {f : ParsedFile}
    (hf : files[file]? = some f) :
    ∃ l m, Finishes (fun n => (ofFiles files).runFile true n file f)
        ((ofFiles files).linkFile file f, l) ∧
      Finishes (fun n => (ofFiles files).runFile false n file f)
        ((ofFiles files).linkFile file f, m) := by
  obtain ⟨l, hl, -⟩ := runFile_runsTo hb hf true
  obtain ⟨m, hm, -⟩ := runFile_runsTo hb hf false
  exact ⟨l, m, hl, hm⟩

/-- An alias that is the type of two fields, and a structure that is a base of two structures, one
by way of the other. -/
def sharedFiles : List ParsedFile :=
  parseInOrder
    [(⟨"a"⟩, [.names 1 "A" (.named 1 ["Date"]), .names 2 "x" (.named 2 ["A"]),
      .names 3 "y" (.named 3 ["A"]), .record 4 "S" [] [], .record 5 "T" [.named 5 ["S"]] [],
      .record 6 "U" [.named 6 ["T"]] []])]

/-- Linking the alias twice and following the bases again gives the same linked file. -/
theorem linkFile_eq_forgetful_sharedFiles :
    BuiltInOrder sharedFiles ∧ ∃ f root l m, sharedFiles[0]? = some f ∧
      Finishes (fun n => (ofFiles sharedFiles).runFile true n 0 f) (.ok root, l) ∧
      Finishes (fun n => (ofFiles sharedFiles).runFile false n 0 f) (.ok root, m) := by
  have hb : BuiltInOrder sharedFiles := builtInOrder_parseInOrder _
  obtain ⟨f, hf⟩ : ∃ f, sharedFiles[0]? = some f := ⟨_, rfl⟩
  have hok : (sharedFiles[0]?.all fun f => ((ofFiles sharedFiles).linkFile 0 f).isOk) = true := by
    cbv
  rw [hf, Option.all_some] at hok
  obtain ⟨l, m, hl, hm⟩ := linkFile_eq_forgetful hb hf
  cases hx : (ofFiles sharedFiles).linkFile 0 f with
  | ok root =>
    rw [hx] at hl hm
    exact ⟨hb, f, root, l, m, hf, hl, hm⟩
  | error e =>
    rw [hx] at hok
    cases hok

end Table
end Schemata
