import Schemata.Proofs.Build.Sketch
import Schemata.Proofs.Discovery.Includes
import Schemata.Proofs.Disk

/-!
# Files that are read twice

Discovery ends on every disk. Whether it reads a file twice depends on how includes spell it: a
target is new if no known path has its steps, and a path that leaves a directory and comes back has
other steps than the path that stays. So no file is read twice exactly if the listed paths mean
different files and every include spells a file as it was spelled before.

**Results:**
* `Discovery.ends_and_filesApart_iff`: discovery ends, and when it reads no file twice.
* `Discovery.filesTwice_detour`: a file that includes itself by a detour is read twice.
-/
namespace Schemata
namespace Discovery

/-- No two of the paths mean the same file. -/
def FilesApart (disk : Disk) (paths : List Path) : Prop :=
  paths.Pairwise fun p q => ¬ disk.SameFile p q

/-- An include of a file that was parsed under some path has the steps of that path. -/
def SpelledAlike (disk : Disk) (entries : List ParsedEntry) : Prop :=
  ∀ e ∈ entries, ∀ root, e.parsed.root = .ok root → ∀ i ∈ root.inclusions,
    disk.isFile i.target = true → ∀ g ∈ entries, disk.SameFile i.target g.parsed.path →
      (i.target == g.parsed.path) = true

theorem FilesApart.eq_of_sameFile {disk : Disk} {paths : List Path} (h : FilesApart disk paths)
    {p q : Path} (hp : p ∈ paths) (hq : q ∈ paths) (hsame : disk.SameFile p q) : p = q := by
  have hsymm : Std.Symm fun p q => ¬ disk.SameFile p q := ⟨fun _ _ hpq hqp => hpq hqp.symm⟩
  by_contra hne
  exact List.Pairwise.forall h hp hq hne hsame

variable (grammar : Grammar) (disk : Disk)

/-- Whatever was not listed is the target of an include. -/
theorem target_of_unlisted {w : Workspace} {p : Path}
    (hp : p ∈ (all grammar disk w).map (·.parsed.path)) (hnew : p ∉ w.files.map (·.path)) :
    ∃ e ∈ all grammar disk w, p ∈ targetsOf e.parsed := by
  obtain ⟨last, hlast⟩ := exists_last grammar disk w
  have hwave : ∀ p ∈ (wave grammar disk w last).known, p ∈ w.files.map (·.path) ∨
      ∃ e ∈ (wave grammar disk w last).parsed, p ∈ targetsOf e.parsed := by
    refine wave_induction grammar disk (P := fun d => ∀ p ∈ d.known, p ∈ w.files.map (·.path) ∨
      ∃ e ∈ d.parsed, p ∈ targetsOf e.parsed) ?_ ?_ last
    · intro p hp
      left
      simpa [start, SourceFile.ofListed, WorkspaceFile.path] using hp
    · intro d ih p hp
      rcases List.mem_append.1 hp with hp | hp
      · refine (ih p hp).imp_right ?_
        rintro ⟨e, he, ht⟩
        exact ⟨e, List.mem_append_left _ he, ht⟩
      · obtain ⟨f, hf, ht⟩ := target_of_discovered hp
        obtain ⟨e, he, rfl⟩ := List.mem_map.1 hf
        exact .inr ⟨e, List.mem_append_right _ he, ht⟩
  obtain ⟨hall, hknown⟩ := hlast last (Nat.le_refl _)
  rw [hall]
  exact (hwave p (hknown ▸ hp)).resolve_left hnew

/-- No file is read twice exactly if the listed files are apart and includes spell files alike. -/
theorem filesApart_all_iff (w : Workspace) :
    FilesApart disk ((all grammar disk w).map (·.parsed.path)) ↔
      FilesApart disk (w.files.map (·.path)) ∧ SpelledAlike disk (all grammar disk w) := by
  obtain ⟨found, hpaths, hnew, hapart⟩ := paths_all grammar disk w
  constructor
  · intro h
    refine ⟨?_, ?_⟩
    · rw [hpaths] at h
      exact (List.pairwise_append.1 h).1
    · intro e he root hr i hi hfile g hg hsame
      have ht : i.target ∈ targetsOf e.parsed := mem_targetsOf.2 ⟨root, hr, i, hi, rfl⟩
      obtain ⟨k, hk, hkt⟩ := exists_parsed_target grammar disk he ht (.inr hfile)
      -- the path under which the target was parsed means the file that the target means
      have hkg : disk.SameFile k.parsed.path g.parsed.path :=
        (Disk.sameFile_of_beq hfile (Path.same_symm hkt)).symm.trans hsame
      rw [← h.eq_of_sameFile (List.mem_map_of_mem hk) (List.mem_map_of_mem hg) hkg]
      exact Path.same_symm hkt
  · rintro ⟨hlisted, halike⟩
    have hfound : ∀ q ∈ found, ∀ p ∈ (all grammar disk w).map (·.parsed.path),
        disk.SameFile p q → (p == q) = true := by
      intro q hq p hp hsame
      have hmem : q ∈ (all grammar disk w).map (·.parsed.path) :=
        hpaths ▸ List.mem_append_right _ hq
      have hunlisted : q ∉ w.files.map (·.path) := by
        intro hlisted
        obtain ⟨f, hf, rfl⟩ := List.mem_map.1 hlisted
        have := (hnew _ hq).2 f hf
        rw [Path.beq_iff.2 rfl] at this
        cases this
      obtain ⟨e, he, ht⟩ := target_of_unlisted grammar disk hmem hunlisted
      obtain ⟨root, hr, i, hi, rfl⟩ := mem_targetsOf.1 ht
      obtain ⟨g, hg, rfl⟩ := List.mem_map.1 hp
      exact Path.same_symm (halike e he root hr i hi (hnew _ hq).1 g hg hsame.symm)
    rw [FilesApart, hpaths]
    refine List.pairwise_append.2 ⟨hlisted, hapart.imp_of_mem ?_, ?_⟩
    · intro p q hp hq hne hsame
      rw [hfound q hq p (hpaths ▸ List.mem_append_right _ hp) hsame] at hne
      cases hne
    · intro p hp q hq hsame
      obtain ⟨f, hf, rfl⟩ := List.mem_map.1 hp
      have hne := (hnew q hq).2 f hf
      rw [hfound q hq f.path (hpaths ▸ List.mem_append_left _ hp) hsame] at hne
      cases hne

/-- Discovery ends, and then it has read no file twice exactly if the listed paths mean different
files and every include of a file spells it as it was spelled when it was parsed. -/
theorem ends_and_filesApart_iff (w : Workspace) :
    (∃ n, (wave grammar disk w n).pending = [] ∧
      all grammar disk w = (wave grammar disk w n).parsed) ∧
    (FilesApart disk ((all grammar disk w).map (·.parsed.path)) ↔
      FilesApart disk (w.files.map (·.path)) ∧ SpelledAlike disk (all grammar disk w)) := by
  refine ⟨⟨waveLimit, pending_waveLimit grammar disk w, ?_⟩, filesApart_all_iff grammar disk w⟩
  exact congrArg parsed (run_eq_iterate grammar disk waveLimit (start w))

/-! ## A detour -/

/-- A grammar for which a file includes itself by a path out of its directory and back into it. -/
def detouring : Grammar := fun path _ =>
  if path.text = "ws/a.schema" then
    .ok [.inclusion (.onLine 1) (.onLine 1) "../ws/a.schema" []]
  else .ok []

/-- A disk with one empty file. -/
def oneFile : Disk := Disk.empty.insert ⟨"ws/a.schema"⟩ (.file [])

/-- The file of that disk, listed. -/
def oneListed : Workspace := .ofFiles [⟨⟨"ws"⟩, ⟨"a.schema"⟩, .text ""⟩]

/-- A file that includes itself by a detour is read twice, although it is listed once. -/
theorem filesTwice_detour :
    FilesApart oneFile (oneListed.files.map (·.path)) ∧
      ¬ FilesApart oneFile ((all detouring oneFile oneListed).map (·.parsed.path)) := by
  have hfile : oneFile.SameFile ⟨"ws/a.schema"⟩ ⟨"ws/../ws/a.schema"⟩ :=
    ⟨["a.schema", "ws", "current"], rfl, rfl⟩
  have hlisted : (oneListed.files.map (·.path)) = [⟨"ws/a.schema"⟩] := rfl
  refine ⟨hlisted ▸ List.pairwise_singleton _ _, fun h => ?_⟩
  obtain ⟨e, he, hpath, htargets⟩ : ∃ e ∈ all detouring oneFile oneListed,
      e.parsed.path = ⟨"ws/a.schema"⟩ ∧ targetsOf e.parsed = [⟨"ws/../ws/a.schema"⟩] :=
    ⟨_, mem_all_of_mem_wave (n := 1) detouring oneFile List.mem_cons_self, rfl, rfl⟩
  obtain ⟨g, hg, hsame⟩ := exists_parsed_target detouring oneFile he
    (htargets ▸ List.mem_cons_self) (.inr rfl)
  have hmeans : oneFile.SameFile e.parsed.path g.parsed.path :=
    hpath ▸ hfile.trans (Disk.sameFile_of_beq rfl (Path.same_symm hsame))
  rw [← h.eq_of_sameFile (List.mem_map_of_mem he) (List.mem_map_of_mem hg) hmeans, hpath] at hsame
  cases hsame

end Discovery
end Schemata
