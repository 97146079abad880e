import Schemata.Discovery
import Schemata.Proofs.Disk
import Schemata.Proofs.Path.Store
import Schemata.Proofs.Table.Identity

/-!
# What discovery keeps

Listed files come with a directory and a name, and discovered ones are filed under the parent of
their path and its last step. Either way directory and name, joined, are the path. So a discovered
file cannot take the place of another one: with the same directory and name it would have the same
path, and then it would have been known. What each wave does to the files known so far is one lemma,
and a run is a sequence of waves.

**Results:**
* `Disk.fileName?_of_isFile`: the path of a file ends in a name.
* `Discovery.Orderly.step`, `Discovery.orderly_run`: a wave, and a run, keep files apart.
* `Discovery.all_apart`: no two parsed files have the same directory and name.
* `Discovery.builtInOrder_all`: the ordinal of a parsed file is its place.
-/
namespace Schemata

/-! ## The paths of files -/

namespace Disk

/-- The path of a file ends in a name. -/
theorem fileName?_of_isFile {d : Disk} {p : Path} (h : d.isFile p = true) :
    ∃ name, p.fileName? = some name := by
  obtain ⟨content, hbytes⟩ := Option.isSome_iff_exists.1 h
  obtain ⟨names, hplace, hnode⟩ := bytes?_eq_some_iff.1 hbytes
  have hfile : d.isFileAt names = true := by
    rw [isFileAt, hnode]
    rfl
  unfold place? at hplace
  split at hplace
  · cases hplace
  obtain ⟨init, last, hsplit⟩ := (List.eq_nil_or_concat
    (splitOn '/' p.text.toList)).resolve_left (splitOn_ne_nil _ _)
  rw [List.concat_eq_append] at hsplit
  rw [hsplit, List.foldlM_append] at hplace
  obtain ⟨before, -, hlast⟩ := Option.bind_eq_some_iff.1 hplace
  obtain ⟨hidle, hparent⟩ := segment_of_isFileAt (by simpa using hlast) hfile
  refine ⟨String.ofList last, ?_⟩
  rw [Path.fileName?_eq_some_iff, Path.getLast?_components hsplit hidle, Component.ofSegment,
    if_neg hparent]

end Disk

/-! ## Discovered paths -/

namespace Discovery

/-- Paths put into a map under themselves stay there, perhaps in another spelling. -/
theorem distinct_entries (paths : List Path) :
    let m := paths.foldl (fun (m : PathMap Path) p => m.insert p p) .empty
    m.Ordered ∧ ∀ e ∈ m.entries, (e.1 == e.2) = true ∧ e.2 ∈ paths := by
  suffices h : ∀ (m : PathMap Path) (all : List Path), (∀ p ∈ paths, p ∈ all) → m.Ordered →
      (∀ e ∈ m.entries, (e.1 == e.2) = true ∧ e.2 ∈ all) →
      (paths.foldl (fun (m : PathMap Path) p => m.insert p p) m).Ordered ∧
      ∀ e ∈ (paths.foldl (fun (m : PathMap Path) p => m.insert p p) m).entries,
        (e.1 == e.2) = true ∧ e.2 ∈ all from
    h .empty paths (fun _ hp => hp) PathMap.ordered_empty fun _ he => nomatch he
  induction paths with
  | nil => exact fun m all _ hord hent => ⟨hord, hent⟩
  | cons p rest ih =>
    intro m all hall hord hent
    refine ih (m.insert p p) all (fun q hq => hall q (List.mem_cons_of_mem _ hq))
      (hord.insert p p) fun e he => ?_
    rcases PathMap.mem_insertEntry he with ⟨hkey, hvalue⟩ | he
    · rw [hvalue]
      exact ⟨Path.compare_eq_iff.1 hkey, hall p List.mem_cons_self⟩
    · exact hent e he

theorem mem_distinct {paths : List Path} {p : Path} (h : p ∈ distinct paths) : p ∈ paths := by
  obtain ⟨e, he, rfl⟩ := List.mem_map.1 h
  exact ((distinct_entries paths).2 e he).2

theorem distinct_apart (paths : List Path) :
    (distinct paths).Pairwise fun a b => (a == b) = false := by
  obtain ⟨hord, hent⟩ := distinct_entries paths
  refine List.pairwise_map.2 (hord.imp_of_mem fun {a b} ha hb hlt => ?_)
  -- a path and its key have the same steps
  rw [← Path.beq_congr (hent a ha).1, Path.beq_comm, ← Path.beq_congr (hent b hb).1, Path.beq_comm]
  exact Path.beq_of_lt hlt

/-- A discovered path leads to a file and was not known. -/
theorem mem_discovered {disk : Disk} {known : List Path} {files : List ParsedFile} {p : Path}
    (h : p ∈ discovered disk known files) :
    disk.isFile p = true ∧ ∀ k ∈ known, (k == p) = false := by
  have h := (List.mem_filter.1 (mem_distinct h)).2
  rw [Bool.and_eq_true, Bool.not_eq_true', List.any_eq_false] at h
  exact ⟨h.2, fun k hk => Bool.eq_false_iff.2 (h.1 k hk)⟩

/-- A file is filed under its path. -/
theorem join_ofPath {disk : Disk} {p : Path} (h : disk.isFile p = true) :
    ((SourceFile.ofPath p).directory.join (SourceFile.ofPath p).file == p) = true := by
  obtain ⟨name, hname⟩ := Disk.fileName?_of_isFile h
  simp only [SourceFile.ofPath, hname, Option.getD_some]
  cases hq : p.parent? with
  | some q => exact Path.join_parent? hq hname
  | none =>
    -- a path without a parent has no name
    rw [Path.fileName?_eq_some_iff] at hname
    rcases Path.parent?_eq_none hq with h | h <;> rw [h] at hname <;> cases hname

/-! ## Waves -/

/-- Directory, name and path of a file. -/
abbrev Filed := (Path × Path) × Path

/-- What a file is filed under. -/
def filing (s : SourceFile) : Filed := ((s.directory, s.file), s.path)

/-- The files known so far. -/
def filed (d : Discovery) : List Filed :=
  d.parsed.map (fun e => ((e.directory, e.file), e.parsed.path)) ++ d.pending.map filing

/-- The files known so far are filed under their paths and apart from each other. -/
structure Orderly (d : Discovery) : Prop where
  joined : ∀ f ∈ d.filed, (f.1.1.join f.1.2 == f.2) = true
  apart : d.filed.Pairwise fun a b => PathMap.sameKey a.1 b.1 = false
  known : d.known = d.filed.map (·.2)

variable (grammar : Grammar) (disk : Disk)

/-- A wave only adds files, and those are discovered ones. -/
theorem step_filed (d : Discovery) :
    ∃ paths, (∀ p ∈ paths, disk.isFile p = true ∧ ∀ k ∈ d.known, (k == p) = false) ∧
      paths.Pairwise (fun a b => (a == b) = false) ∧
      (d.step grammar disk).known = d.known ++ paths ∧
      (d.step grammar disk).filed = d.filed ++ paths.map fun p => filing (.ofPath p) := by
  refine ⟨_, fun p => mem_discovered, distinct_apart _, rfl, ?_⟩
  have hwave : (d.parsePending grammar disk).map (fun e => ((e.directory, e.file), e.parsed.path)) =
      d.pending.map filing := by
    simp only [parsePending, List.map_map]
    conv_rhs => rw [← List.zipIdx_map_fst 0 d.pending, List.map_map]
    rfl
  simp only [filed, step, List.map_append, hwave, List.map_map]
  rfl

/-- Files with the same directory and name have the same path. -/
theorem path_same (f g : Filed) (hf : (f.1.1.join f.1.2 == f.2) = true)
    (hg : (g.1.1.join g.1.2 == g.2) = true) (h : PathMap.sameKey f.1 g.1 = true) :
    (f.2 == g.2) = true := by
  obtain ⟨hdirectory, hfile⟩ := Bool.and_eq_true_iff.1 h
  rw [← Path.beq_congr hf, Path.beq_congr (Path.join_congr hdirectory hfile)]
  exact hg

/-- A wave keeps files apart. -/
theorem Orderly.step {d : Discovery} (h : d.Orderly) : (d.step grammar disk).Orderly := by
  obtain ⟨paths, hnew, hapart, hknown, hfiled⟩ := step_filed grammar disk d
  have hjoin : ∀ p ∈ paths,
      ((SourceFile.ofPath p).directory.join (SourceFile.ofPath p).file == p) = true :=
    fun p hp => join_ofPath (hnew p hp).1
  constructor
  · intro f hf
    rw [hfiled, List.mem_append] at hf
    rcases hf with hf | hf
    · exact h.joined f hf
    · obtain ⟨p, hp, rfl⟩ := List.mem_map.1 hf
      exact hjoin p hp
  · rw [hfiled, List.pairwise_append]
    refine ⟨h.apart, List.pairwise_map.2 (hapart.imp_of_mem ?_), ?_⟩
    · intro p q hp hq hne
      rw [Bool.eq_false_iff]
      intro hkey
      have hsame : (p == q) = true :=
        path_same (filing (.ofPath p)) (filing (.ofPath q)) (hjoin p hp) (hjoin q hq) hkey
      rw [hsame] at hne
      cases hne
    · intro f hf g hg
      obtain ⟨p, hp, rfl⟩ := List.mem_map.1 hg
      rw [Bool.eq_false_iff]
      intro hkey
      have hsame : (f.2 == p) = true :=
        path_same f (filing (.ofPath p)) (h.joined f hf) (hjoin p hp) hkey
      have hmem : f.2 ∈ d.known := h.known ▸ List.mem_map_of_mem hf
      rw [(hnew p hp).2 _ hmem] at hsame
      cases hsame
  · rw [hknown, hfiled, h.known, List.map_append, List.map_map]
    congr 1
    exact (List.map_id' paths).symm

/-- What each wave keeps, a run keeps. -/
theorem run_induction {P : Discovery → Prop} (hstep : ∀ d, P d → P (d.step grammar disk))
    {d : Discovery} (h : P d) (waves : Nat) : P (run grammar disk waves d) := by
  induction waves generalizing d with
  | zero => exact h
  | succ waves ih =>
    rw [run]
    split
    · exact h
    · exact ih (hstep d h)

theorem orderly_run {d : Discovery} (h : d.Orderly) (waves : Nat) :
    (run grammar disk waves d).Orderly :=
  run_induction grammar disk (fun _ hd => hd.step grammar disk) h waves

theorem nestedOrdered_ofFiles (listed : List WorkspaceFile) :
    (Workspace.ofFiles listed).directories.NestedOrdered := by
  suffices h : ∀ w : Workspace, w.directories.NestedOrdered →
      (listed.foldl (fun w f => w.addFile f.directory f.file f.content) w).directories.NestedOrdered
      from h .empty PathMap.nestedOrdered_empty
  induction listed with
  | nil => exact fun w h => h
  | cons f rest ih => exact fun w h => ih _ (h.putAt f.directory f.file f.content)

/-- The listed files are apart from each other. -/
theorem orderly_start (listed : List WorkspaceFile) :
    (start (Workspace.ofFiles listed)).Orderly := by
  have hfiled : (start (Workspace.ofFiles listed)).filed =
      (Workspace.ofFiles listed).directories.listing.map fun e =>
        ((e.1, e.2.1), e.1.join e.2.1) := by
    simp only [start, filed, Workspace.files, PathMap.listing, List.map_nil, List.nil_append,
      List.map_map, List.map_flatMap]
    rfl
  constructor
  · rw [hfiled]
    intro f hf
    obtain ⟨e, -, rfl⟩ := List.mem_map.1 hf
    exact Path.beq_iff.2 rfl
  · rw [hfiled]
    exact List.pairwise_map.2 (nestedOrdered_ofFiles listed).listing_apart
  · simp [start, filed, filing]

/-- No two files have the same directory and name. -/
def KeysApart (entries : List ParsedEntry) : Prop :=
  entries.Pairwise fun a b =>
    PathMap.sameKey (a.directory, a.file) (b.directory, b.file) = false

/-- No two parsed files have the same directory and name. -/
theorem all_apart (listed : List WorkspaceFile) :
    KeysApart (all grammar disk (Workspace.ofFiles listed)) := by
  have h := (orderly_run grammar disk (orderly_start listed) waveLimit).apart
  exact List.pairwise_map.1 (List.pairwise_append.1 h).1

theorem two_le_waveLimit : 2 ≤ waveLimit := by
  have hlimit : 1 ≤ Disk.pathLimit := by decide
  unfold waveLimit
  generalize Disk.pathLimit = limit at hlimit ⊢
  exact Nat.le_trans (show 2 ≤ Nat.pow 256 1 by decide) (Nat.pow_le_pow_right (by decide) hlimit)

/-- If the listed files include nothing new, they are all the files. -/
theorem all_of_discovered_nil (w : Workspace)
    (h : discovered disk (start w).known
      (((start w).parsePending grammar disk).map (·.parsed)) = []) :
    all grammar disk w = (start w).parsePending grammar disk := by
  have hpending : ((start w).step grammar disk).pending = [] := by
    rw [step, h]
    rfl
  have htwo := two_le_waveLimit
  rw [all]
  generalize waveLimit = limit at htwo ⊢
  obtain ⟨waves, rfl⟩ := Nat.exists_eq_add_of_le' htwo
  rw [run]
  split
  · rename_i hempty
    rw [parsePending, List.isEmpty_iff.1 hempty]
    rfl
  · rw [run, hpending]
    rfl

/-! ## Ordinals -/

/-- The parsed files are parsed with their places as ordinals. -/
def Numbered (d : Discovery) : Prop :=
  ∀ i e, d.parsed[i]? = some e → ∃ s : SourceFile, e.parsed = s.parse grammar disk i

theorem Numbered.step {d : Discovery} (h : d.Numbered grammar disk) :
    (d.step grammar disk).Numbered grammar disk := by
  intro i e he
  have he : (d.parsed ++ d.parsePending grammar disk)[i]? = some e := he
  by_cases hi : i < d.parsed.length
  · rw [List.getElem?_append_left hi] at he
    exact h i e he
  · rw [List.getElem?_append_right (Nat.le_of_not_lt hi), parsePending, List.getElem?_map,
      List.getElem?_zipIdx, Option.map_map] at he
    obtain ⟨s, -, rfl⟩ := Option.map_eq_some_iff.1 he
    have hplace : d.parsed.length + (0 + (i - d.parsed.length)) = i := by omega
    refine ⟨s, ?_⟩
    show s.parse grammar disk (d.parsed.length + (0 + (i - d.parsed.length))) = _
    rw [hplace]

theorem numbered_run {d : Discovery} (h : d.Numbered grammar disk) (waves : Nat) :
    (run grammar disk waves d).Numbered grammar disk :=
  run_induction grammar disk (fun _ hd => hd.step grammar disk) h waves

theorem parse_root {s : SourceFile} {ordinal : Nat} {root : Root WrittenType}
    (h : (s.parse grammar disk ordinal).root = .ok root) :
    ∃ source, Build.root ⟨s.path, ordinal⟩ source = .ok root := by
  simp only [SourceFile.parse, bind_eq_ok_iff] at h
  obtain ⟨text, -, statements, -, h⟩ := h
  exact ⟨statements, h⟩

/-- The ordinal of a parsed file is its place. -/
theorem builtInOrder_all (w : Workspace) :
    BuiltInOrder ((all grammar disk w).map (·.parsed)) := by
  intro file f root hf hr
  rw [List.getElem?_map] at hf
  obtain ⟨e, he, rfl⟩ := Option.map_eq_some_iff.1 hf
  obtain ⟨s, hs⟩ := numbered_run grammar disk (d := start w) (fun _ _ h => nomatch h) waveLimit
    file e he
  rw [hs] at hr ⊢
  exact parse_root grammar disk hr

end Discovery
end Schemata
