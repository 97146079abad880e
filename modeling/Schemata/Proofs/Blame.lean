import Schemata.Proofs.Handles
import Schemata.Proofs.Link.Blame

/-!
# Failures of a run

A run reports a failed file under its path. If the grammar accepts every text, what is reported has
a range in the file, whatever leads out of it. The exceptions are those of linking: cycles, and
bases that fail below a base in another file.

**Results:**
* `errors_pointInto`: what the diagnostic that is reported for a path points to.
* `errors_cycleElsewhere`: a cycle among the definitions of another file is reported for a file that
  takes one of them over, without a range in it.
-/
namespace Schemata

/-- A file with the path fails with the diagnostic, which is that of a base below a base in another
file. -/
def FailsElsewhere (entries : List ParsedEntry) (path : Path) (d : Diagnostic) : Prop :=
  ∃ i e, entries[i]? = some e ∧ (path == e.parsed.path) = true ∧
    (Table.ofFiles (entries.map (·.parsed))).FailsBelow i d

theorem Diagnostic.PointsInto.congr {d : Diagnostic} {file path : Path} (h : d.PointsInto file)
    (hsame : (path == file) = true) : d.PointsInto path := by
  obtain ⟨r, hr, hfile⟩ := h
  exact ⟨r, hr, Path.same_trans hfile (Path.same_symm hsame)⟩

theorem compile_of_check {o : Options} (check : o.check = .ok ()) (grammar : Grammar) (disk : Disk)
    (w : Workspace) : compile grammar disk w o = link (Discovery.all grammar disk w) o := by
  unfold compile parse
  rw [check]
  rfl

/-- If the listed files lead to no others, what comes of them is what comes of the run. -/
theorem compile_of_discovered_nil {grammar : Grammar} {disk : Disk} {w : Workspace} {o : Options}
    (check : o.check = .ok ()) (raise : o.raiseSingle = false)
    (h : Discovery.discovered disk (Discovery.start w).known
      (((Discovery.start w).parsePending grammar disk).map (·.parsed)) = []) :
    compile grammar disk w o = .ok (gather ((Discovery.start w).parsePending grammar disk)) := by
  rw [compile_of_check check, Discovery.all_of_discovered_nil _ _ _ h]
  exact link_of_not_raising check raise

/-- What comes of a run that does not raise is gathered from all its files. -/
theorem eq_gather_of_compile {grammar : Grammar} {disk : Disk} {w : Workspace} {o : Options}
    (raise : o.raiseSingle = false) {result : LinkedWorkspace}
    (h : compile grammar disk w o = .ok result) :
    result = gather (Discovery.all grammar disk w) := by
  cases hcheck : o.check with
  | error fault =>
    unfold compile parse at h
    rw [hcheck] at h
    cases h
  | ok =>
    rw [compile_of_check hcheck] at h
    exact eq_gather_of_link raise h

/-- If the grammar accepts every text, a file without a root fails where something in it does. -/
theorem blames_of_parse {grammar : Grammar} {disk : Disk}
    (hg : ∀ path text d, grammar path text ≠ .error d) {s : SourceFile} {ordinal : Nat}
    {d : Diagnostic} (h : (s.parse grammar disk ordinal).root = .error d) :
    d.PointsInto s.path := by
  refine Diagnostic.pointsInto_of_mem (r := d.primary) List.mem_cons_self ?_
  simp only [SourceFile.parse] at h
  rcases bind_eq_error_iff.1 h with h | ⟨text, -, h⟩
  · unfold SourceFile.read at h
    dsimp only at h
    split at h
    · cases h
    · cases h
      rfl
  · rcases bind_eq_error_iff.1 h with h | ⟨statements, -, h⟩
    · exact absurd h (hg _ _ _)
    · exact (Build.root_stays ⟨s.path, ordinal⟩ statements).error d h

/-- What the diagnostic of a failed file points to. -/
theorem errors_pointInto (grammar : Grammar) (disk : Disk)
    (hg : ∀ path text d, grammar path text ≠ .error d) (w : Workspace) (o : Options)
    (raise : o.raiseSingle = false) {result : LinkedWorkspace}
    (h : compile grammar disk w o = .ok result) {path : Path} {d : Diagnostic}
    (hm : (path, d) ∈ result.errors.entries) :
    d.PointsInto path ∨ d.IsCycle ∨ FailsElsewhere (Discovery.all grammar disk w) path d := by
  rw [eq_gather_of_compile raise h] at hm
  obtain ⟨e, hout, hpath⟩ := exists_outcome_of_mem_errors hm
  obtain ⟨i, hi⟩ := List.mem_iff_getElem?.1 hout
  obtain ⟨he, hfails⟩ := getElem?_outcomes_iff.1 hi
  have hb := Discovery.builtInOrder_all grammar disk w
  have hf : ((Discovery.all grammar disk w).map (·.parsed))[i]? = some e.parsed := by
    rw [List.getElem?_map, he, Option.map_some]
  cases hr : e.parsed.root with
  | error failure =>
    have heq : failure = d := by
      unfold Table.linkFile at hfails
      rw [hr] at hfails
      exact Except.error.inj hfails
    obtain ⟨s, hs⟩ := Discovery.numbered_run grammar disk (d := .start w)
      (fun _ _ h => nomatch h) Discovery.waveLimit i e he
    rw [hs] at hr hpath
    exact .inl ((blames_of_parse hg (heq ▸ hr)).congr hpath)
  | ok root =>
    rcases Table.linkFile_blames hb hf hr hfails with (hpoints | hcycle) | hbelow
    · exact .inl (hpoints.congr hpath)
    · exact .inr (.inl hcycle)
    · exact .inr (.inr ⟨i, e, he, hpath, hbelow⟩)

/-- In the run with a reference to nothing, that file is reported. -/
theorem errors_pointInto_takesOfFailed :
    ∃ result path d,
      compile twoTexts .empty (Workspace.ofFiles takesOfFailed) ⟨true, none, true, false⟩ =
        .ok result ∧ (path, d) ∈ result.errors.entries ∧
      (d.PointsInto path ∨ d.IsCycle ∨
        FailsElsewhere (Discovery.all twoTexts .empty (Workspace.ofFiles takesOfFailed)) path
          d) := by
  have hrun : compile twoTexts .empty (Workspace.ofFiles takesOfFailed)
      ⟨true, none, true, false⟩ = .ok (gather _) := compile_of_discovered_nil rfl rfl rfl
  have hfailed : (gather ((Discovery.start (Workspace.ofFiles takesOfFailed)).parsePending
      twoTexts .empty)).errors.entries.isEmpty = false := by
    cbv
  obtain ⟨⟨path, d⟩, hm⟩ := List.exists_mem_of_ne_nil _ (by simpa using hfailed)
  have haccepts : ∀ path text d, twoTexts path text ≠ .error d := by
    intro path text d h
    cases h
  exact ⟨_, path, d, hrun, hm, errors_pointInto twoTexts .empty haccepts _ _ rfl hrun hm⟩

/-- A grammar that knows two texts. The aliases of the second one stand for each other. -/
def cycleTexts : Grammar := fun _ text =>
  .ok (if text = "1" then [.takes 1 "b" "A" "A", .names 2 "x" (.named 2 ["A"])]
    else [.names 1 "A" (.named 1 ["B"]), .names 2 "B" (.named 2 ["A"])])

/-- A cycle is reported for a file that takes over one of its aliases, with no range in the file. -/
theorem errors_cycleElsewhere :
    (∀ path text d, cycleTexts path text ≠ .error d) ∧
    ∃ result path d,
      compile cycleTexts .empty (Workspace.ofFiles takesOfFailed) ⟨true, none, true, false⟩ =
        .ok result ∧ (path, d) ∈ result.errors.entries ∧ ¬ d.PointsInto path := by
  have hrun : compile cycleTexts .empty (Workspace.ofFiles takesOfFailed)
      ⟨true, none, true, false⟩ = .ok (gather _) := compile_of_discovered_nil rfl rfl rfl
  have hother : (gather ((Discovery.start (Workspace.ofFiles takesOfFailed)).parsePending
      cycleTexts .empty)).errors.entries.any
        (fun x => x.2.ranges.all fun r => !(r.file == x.1)) = true := by
    cbv
  obtain ⟨⟨path, d⟩, hm, houtside⟩ := List.any_eq_true.1 hother
  have haccepts : ∀ path text d, cycleTexts path text ≠ .error d := by
    intro path text d h
    cases h
  refine ⟨haccepts, _, path, d, hrun, hm, ?_⟩
  rintro ⟨r, hr, hfile⟩
  have := List.all_eq_true.1 houtside r hr
  rw [hfile] at this
  cases this

end Schemata
