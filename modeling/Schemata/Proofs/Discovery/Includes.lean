import Schemata.Proofs.Build.Sketch
import Schemata.Proofs.Discovery.Waves
import Schemata.Proofs.Table.Fault

/-!
# What discovery finds

The wave `n` knows the paths that at most `n` includes lead to from the listing, and no others: the
targets of what it parses become known, and whatever a later wave parses was not known to it. So in
the end the parsed paths are closed under includes of files, nothing else is parsed, and the files
behind the listed ones stand in the order of their distance from the listing.

**Results:**
* `Discovery.within_iff_known`: what a wave knows.
* `Discovery.exists_parsed_iff`: the parsed paths are those that are needed.
* `Discovery.parsesClosure_all`: what the parsed files of a workspace are, and in which order.
-/
namespace Schemata
namespace Discovery

/-! ## Needed paths -/

/-- A path of the listing. -/
def Listed (w : Workspace) (p : Path) : Prop := ∃ f ∈ w.files, (f.path == p) = true

/-- One of the files has a root with an include of the path, and the path leads to a file. -/
inductive IncludedBy (disk : Disk) (entries : List ParsedEntry) (including target : Path) : Prop where
  | intro {e : ParsedEntry} {root : Root WrittenType} {i : Inclusion} (he : e ∈ entries)
      (hpath : (e.parsed.path == including) = true) (hr : e.parsed.root = .ok root)
      (hi : i ∈ root.inclusions) (hfile : disk.isFile i.target = true)
      (htarget : (i.target == target) = true) : IncludedBy disk entries including target

theorem mem_targetsOf {f : ParsedFile} {target : Path} :
    target ∈ targetsOf f ↔ ∃ root, f.root = .ok root ∧ ∃ i ∈ root.inclusions, i.target = target := by
  unfold targetsOf
  split <;> simp_all

theorem includedBy_of_target {disk : Disk} {entries : List ParsedEntry} {e : ParsedEntry}
    (he : e ∈ entries) {target : Path} (ht : target ∈ targetsOf e.parsed)
    (hfile : disk.isFile target = true) {p : Path} (hp : (target == p) = true) :
    IncludedBy disk entries e.parsed.path p := by
  obtain ⟨root, hr, i, hi, rfl⟩ := mem_targetsOf.1 ht
  exact ⟨he, Path.beq_iff.2 rfl, hr, hi, hfile, hp⟩

/-- The least set of paths that has the listed ones and, with the path of one of the files, the
files that this one includes. -/
inductive Needed (disk : Disk) (w : Workspace) (entries : List ParsedEntry) : Path → Prop where
  | listed {p : Path} (h : Listed w p) : Needed disk w entries p
  | included {p q : Path} (h : Needed disk w entries p) (hq : IncludedBy disk entries p q) :
      Needed disk w entries q

/-- At most so many includes lead to the path from the listing. -/
def Within (disk : Disk) (w : Workspace) (entries : List ParsedEntry) : Nat → Path → Prop
  | 0, p => Listed w p
  | n + 1, p => Within disk w entries n p ∨
      ∃ q, Within disk w entries n q ∧ IncludedBy disk entries q p

/-- The least number of includes that lead to the path from the listing. -/
def Distance (disk : Disk) (w : Workspace) (entries : List ParsedEntry) (n : Nat) (p : Path) :
    Prop :=
  Within disk w entries n p ∧ ∀ m, Within disk w entries m p → n ≤ m

/-- `p` is nearer to the listing than `q`, or as near to it and before `q` in the order of paths. -/
def Before (disk : Disk) (w : Workspace) (entries : List ParsedEntry) (p q : Path) : Prop :=
  ∃ m n, Distance disk w entries m p ∧ Distance disk w entries n q ∧
    (m < n ∨ m = n ∧ compare p q = .lt)

section Within
variable {disk : Disk} {w : Workspace} {entries : List ParsedEntry}

theorem Within.mono {m n : Nat} {p : Path} (h : Within disk w entries m p) (hmn : m ≤ n) :
    Within disk w entries n p := by
  induction n, hmn using Nat.le_induction with
  | base => exact h
  | succ n _ ih => exact .inl ih

theorem needed_iff_within {p : Path} :
    Needed disk w entries p ↔ ∃ n, Within disk w entries n p := by
  constructor
  · intro h
    induction h with
    | listed h => exact ⟨0, h⟩
    | included _ hq ih =>
      obtain ⟨n, hn⟩ := ih
      exact ⟨n + 1, .inr ⟨_, hn, hq⟩⟩
  · rintro ⟨n, h⟩
    induction n generalizing p with
    | zero => exact .listed h
    | succ n ih =>
      rcases h with h | ⟨q, hq, hqp⟩
      · exact ih h
      · exact .included (ih hq) hqp

/-- What is reached by one more include, and not by fewer, is at that distance. -/
theorem distance_succ {n : Nat} {p : Path} (h : Within disk w entries (n + 1) p)
    (hn : ¬ Within disk w entries n p) : Distance disk w entries (n + 1) p := by
  refine ⟨h, fun m hm => ?_⟩
  by_contra hlt
  exact hn (hm.mono (by omega))

end Within

/-! ## The new paths of a wave -/

theorem isSome_get?_insertAll {paths : List Path} {p : Path} (h : p ∈ paths) :
    ((paths.foldl (fun (m : PathMap Path) q => m.insert q q) .empty).get? p).isSome := by
  suffices hfold : ∀ m : PathMap Path, p ∈ paths ∨ (m.get? p).isSome →
      ((paths.foldl (fun (m : PathMap Path) q => m.insert q q) m).get? p).isSome from
    hfold .empty (.inl h)
  clear h
  induction paths with
  | nil => exact fun m h => h.resolve_left List.not_mem_nil
  | cons q rest ih =>
    intro m h
    refine ih (m.insert q q) ?_
    rw [PathMap.get?_insert]
    rcases h with h | h
    · rcases List.mem_cons.1 h with rfl | h
      · exact .inr (by simp [Path.beq_iff.2])
      · exact .inl h
    · right
      split
      · rfl
      · exact h

/-- Every path is kept, perhaps in another spelling. -/
theorem exists_mem_distinct {paths : List Path} {p : Path} (h : p ∈ paths) :
    ∃ q ∈ distinct paths, (q == p) = true := by
  obtain ⟨q, hq⟩ := Option.isSome_iff_exists.1 (isSome_get?_insertAll h)
  obtain ⟨key, hkey, hentry⟩ := PathMap.exists_mem_of_get? hq
  have hsame := ((distinct_entries paths).2 _ hentry).1
  exact ⟨q, List.mem_map.2 ⟨_, hentry, rfl⟩, Path.same_symm (Path.same_trans hkey hsame)⟩

theorem distinct_ascending (paths : List Path) :
    (distinct paths).Pairwise fun a b => compare a b = .lt := by
  obtain ⟨hord, hent⟩ := distinct_entries paths
  refine List.pairwise_map.2 (hord.imp_of_mem fun {a b} ha hb hlt => ?_)
  rw [Path.compare_def, ← Path.beq_iff.1 (hent a ha).1, ← Path.beq_iff.1 (hent b hb).1]
  exact hlt

/-- The files that the given ones include are known or discovered. -/
theorem known_or_discovered {disk : Disk} {known : List Path} {files : List ParsedFile}
    {f : ParsedFile} (hf : f ∈ files) {target : Path} (ht : target ∈ targetsOf f)
    (hfile : disk.isFile target = true) :
    ∃ k ∈ known ++ discovered disk known files, (k == target) = true := by
  by_cases hknown : known.any (· == target) = true
  · obtain ⟨k, hk, hsame⟩ := List.any_eq_true.1 hknown
    exact ⟨k, List.mem_append_left _ hk, hsame⟩
  · have hmem : target ∈ (files.flatMap targetsOf).filter
        fun p => !known.any (· == p) && disk.isFile p :=
      List.mem_filter.2 ⟨List.mem_flatMap.2 ⟨f, hf, ht⟩, by simp [hknown, hfile]⟩
    obtain ⟨q, hq, hsame⟩ := exists_mem_distinct hmem
    exact ⟨q, List.mem_append_right _ hq, hsame⟩

/-- A discovered path is the target of an include. -/
theorem target_of_discovered {disk : Disk} {known : List Path} {files : List ParsedFile} {p : Path}
    (h : p ∈ discovered disk known files) : ∃ f ∈ files, p ∈ targetsOf f :=
  List.mem_flatMap.1 (List.mem_filter.1 (mem_distinct h)).1

/-! ## What a wave knows -/

/-- The files that the parsed ones include are known. -/
def Closed (disk : Disk) (d : Discovery) : Prop :=
  ∀ e ∈ d.parsed, ∀ target ∈ targetsOf e.parsed, disk.isFile target = true →
    ∃ k ∈ d.known, (k == target) = true

variable (grammar : Grammar) (disk : Disk)

theorem Closed.step {d : Discovery} (h : d.Closed disk) : (d.step grammar disk).Closed disk := by
  intro e he target ht hfile
  rcases List.mem_append.1 he with he | he
  · obtain ⟨k, hk, hsame⟩ := h e he target ht hfile
    exact ⟨k, List.mem_append_left _ hk, hsame⟩
  · exact known_or_discovered (List.mem_map_of_mem he) ht hfile

theorem closed_wave (w : Workspace) (n : Nat) : (wave grammar disk w n).Closed disk :=
  wave_induction grammar disk (fun _ he => nomatch he) (fun _ hd => hd.step grammar disk) n

theorem parsed_wave_succ (w : Workspace) (n : Nat) :
    (wave grammar disk w (n + 1)).parsed =
      (wave grammar disk w n).parsed ++ (wave grammar disk w n).parsePending grammar disk := by
  rw [wave_succ]
  rfl

theorem parsedPaths_wave_succ (w : Workspace) (n : Nat) :
    (wave grammar disk w (n + 1)).parsedPaths = (wave grammar disk w n).known := by
  rw [wave_succ]
  exact parsedPaths_step grammar disk (consistent_wave grammar disk w n)

theorem mem_all_of_mem_wave {w : Workspace} {n : Nat} {e : ParsedEntry}
    (h : e ∈ (wave grammar disk w n).parsed) : e ∈ all grammar disk w := by
  obtain ⟨last, hlast⟩ := exists_last grammar disk w
  obtain ⟨entries, -, hparsed, -, -⟩ := grows_wave grammar disk w (Nat.le_add_left n last)
  rw [(hlast (last + n) (Nat.le_add_right _ _)).1, hparsed]
  exact List.mem_append_left _ h

/-- A file whose path is known to a wave is parsed by that wave at the latest. -/
theorem mem_parsed_of_known {w : Workspace} {n : Nat} {e : ParsedEntry}
    (he : e ∈ all grammar disk w) {k : Path} (hk : k ∈ (wave grammar disk w n).known)
    (hsame : (k == e.parsed.path) = true) : e ∈ (wave grammar disk w (n + 1)).parsed := by
  obtain ⟨last, hlast⟩ := exists_last grammar disk w
  obtain ⟨hall, hpaths⟩ := hlast (last + (n + 1)) (Nat.le_add_right _ _)
  obtain ⟨entries, -, hparsed, -, -⟩ := grows_wave grammar disk w (Nat.le_add_left (n + 1) last)
  obtain ⟨-, found, -, hknown, hnew, -⟩ := grows_wave grammar disk w
    (show n ≤ last + (n + 1) by omega)
  rw [hparsed] at hall
  -- what is parsed later has the paths that are found later
  have hlater : entries.map (·.parsed.path) = found := by
    have hfirst := parsedPaths_wave_succ grammar disk w n
    rw [parsedPaths] at hfirst
    rw [hall, hknown, List.map_append, hfirst] at hpaths
    exact List.append_cancel_left hpaths
  rw [hall] at he
  rcases List.mem_append.1 he with he | he
  · exact he
  · have hfound : e.parsed.path ∈ found := hlater ▸ List.mem_map_of_mem he
    rw [(hnew _ hfound).2 k hk] at hsame
    cases hsame

/-- A wave knows the paths that at most as many includes lead to. -/
theorem within_iff_known (w : Workspace) (n : Nat) {p : Path} :
    Within disk w (all grammar disk w) n p ↔
      ∃ k ∈ (wave grammar disk w n).known, (k == p) = true := by
  induction n generalizing p with
  | zero =>
    show Listed w p ↔ ∃ k ∈ (start w).known, _
    simp [Listed, start, SourceFile.ofListed]
  | succ n ih =>
    rw [Within, ih]
    constructor
    · rintro (⟨k, hk, hsame⟩ | ⟨q, hq, ⟨he, heq, hr, hi, hfile, htp⟩⟩)
      · refine ⟨k, ?_, hsame⟩
        rw [wave_succ]
        exact List.mem_append_left _ hk
      · obtain ⟨k, hk, hkq⟩ := ih.1 hq
        have hparsed := mem_parsed_of_known grammar disk he hk
          (Path.same_trans hkq (Path.same_symm heq))
        obtain ⟨k', hk', hsame⟩ := closed_wave grammar disk w (n + 1) _ hparsed _
          (mem_targetsOf.2 ⟨_, hr, _, hi, rfl⟩) hfile
        exact ⟨k', hk', Path.same_trans hsame htp⟩
    · rintro ⟨k, hk, hsame⟩
      rw [wave_succ] at hk
      rcases List.mem_append.1 hk with hk | hk
      · exact .inl ⟨k, hk, hsame⟩
      · right
        obtain ⟨f, hf, ht⟩ := target_of_discovered hk
        obtain ⟨e, he, rfl⟩ := List.mem_map.1 hf
        have hstep : e ∈ (wave grammar disk w (n + 1)).parsed := by
          rw [wave_succ]
          exact List.mem_append_right _ he
        have hknown : e.parsed.path ∈ (wave grammar disk w n).known := by
          rw [← parsedPaths_wave_succ]
          exact List.mem_map_of_mem hstep
        have hall := mem_all_of_mem_wave grammar disk hstep
        exact ⟨e.parsed.path, ih.2 ⟨_, hknown, Path.beq_iff.2 rfl⟩,
          includedBy_of_target hall ht (mem_discovered hk).1 hsame⟩

/-! ## The order of the files -/

/-- Files parsed one after the other; the ordinal of each is the number of files before it. -/
def parseSources (sources : List SourceFile) : List ParsedEntry :=
  sources.zipIdx.map fun (s, ordinal) => ⟨s.directory, s.file, s.parse grammar disk ordinal⟩

theorem parseSources_append (as bs : List SourceFile) :
    parseSources grammar disk (as ++ bs) = parseSources grammar disk as ++
      bs.zipIdx.map fun (s, i) => ⟨s.directory, s.file, s.parse grammar disk (as.length + i)⟩ := by
  simp only [parseSources, List.zipIdx_append, List.map_append]
  congr 1
  refine List.ext_getElem? fun i => ?_
  simp [List.getElem?_map, List.getElem?_zipIdx, Option.map_map, Function.comp_def]

/-- What a wave knows behind the listing, and what it has parsed then. -/
structure FoundBy (w : Workspace) (n : Nat) (found : List Path) : Prop where
  known : (wave grammar disk w n).known = w.files.map (·.path) ++ found
  parsed : (wave grammar disk w (n + 1)).parsed =
    parseSources grammar disk (w.files.map .ofListed ++ found.map .ofPath)
  files : ∀ p ∈ found, disk.isFile p = true
  distance : ∀ p ∈ found, ∃ m < n, Distance disk w (all grammar disk w) (m + 1) p
  ordered : found.Pairwise (Before disk w (all grammar disk w))

theorem exists_foundBy (w : Workspace) (n : Nat) : ∃ found, FoundBy grammar disk w n found := by
  induction n with
  | zero =>
    refine ⟨[], ?_, ?_, by simp, by simp, .nil⟩
    · simp [wave, start, SourceFile.ofListed, WorkspaceFile.path]
    · rw [wave_succ, List.map_nil, List.append_nil]
      simp [step, wave, start, parsePending, parseSources]
  | succ n ih =>
    obtain ⟨found, hknown, hparsed, hfiles, hdistance, hordered⟩ := ih
    let paths := discovered disk (wave grammar disk w n).known
      (((wave grammar disk w n).parsePending grammar disk).map (·.parsed))
    obtain ⟨hknown', hpending⟩ : (wave grammar disk w (n + 1)).known =
          (wave grammar disk w n).known ++ paths ∧
        (wave grammar disk w (n + 1)).pending = paths.map .ofPath := by
      rw [wave_succ]
      exact ⟨rfl, rfl⟩
    -- a path that this wave finds is one include further than what was known before it
    have hnew : ∀ p ∈ paths, Distance disk w (all grammar disk w) (n + 1) p := by
      intro p hp
      refine distance_succ ?_ ?_
      · rw [within_iff_known, hknown']
        exact ⟨p, List.mem_append_right _ hp, Path.beq_iff.2 rfl⟩
      · rw [within_iff_known]
        rintro ⟨k, hk, hsame⟩
        rw [(mem_discovered hp).2 k hk] at hsame
        cases hsame
    refine ⟨found ++ paths, ?_, ?_, ?_, ?_, ?_⟩
    · rw [hknown', hknown, List.append_assoc]
    · rw [parsed_wave_succ, List.map_append, ← List.append_assoc, parseSources_append, ← hparsed,
        parsePending, hpending, hparsed, parseSources, List.length_map, List.length_zipIdx]
    · exact fun p hp => (List.mem_append.1 hp).elim (hfiles p) fun hp => (mem_discovered hp).1
    · intro p hp
      rcases List.mem_append.1 hp with hp | hp
      · obtain ⟨m, hm, hdist⟩ := hdistance p hp
        exact ⟨m, by omega, hdist⟩
      · exact ⟨n, by omega, hnew p hp⟩
    · refine List.pairwise_append.2 ⟨hordered, ?_, fun p hp q hq => ?_⟩
      · exact (distinct_ascending _).imp_of_mem fun hp hq hlt =>
          ⟨n + 1, n + 1, hnew _ hp, hnew _ hq, .inr ⟨rfl, hlt⟩⟩
      · obtain ⟨m, hm, hdist⟩ := hdistance p hp
        exact ⟨m + 1, n + 1, hdist, hnew q hq, .inl (by omega)⟩

/-! ## What becomes of a file -/

/-- What becomes of a file that was read: what the grammar makes of its text is built under its path
and ordinal. A file without a text fails as a whole. -/
inductive Becomes (path : Path) (ordinal : Nat) :
    Except String String → Except Diagnostic (Root WrittenType) → Prop where
  | unreadable (reason : String) : Becomes path ordinal (.error reason)
      (.error (.located (.fileStart path) (.unreadableContent path reason)))
  | refused {text : String} {d : Diagnostic} (h : grammar path text = .error d) :
      Becomes path ordinal (.ok text) (.error d)
  | built {text : String} {statements : List Source.Statement}
      (h : grammar path text = .ok statements) :
      Becomes path ordinal (.ok text) (Build.root ⟨path, ordinal⟩ statements)

/-- What the bytes of a file say. -/
inductive Says (bytes : List UInt8) : Except String String → Prop where
  | text {s : String} (h : String.fromUTF8? ⟨bytes.toArray⟩ = some s) : Says bytes (.ok s)
  | garbled (h : String.fromUTF8? ⟨bytes.toArray⟩ = none) :
      Says bytes (.error "stream did not contain valid UTF-8")

/-- The listed files and then the found ones, each read, parsed and built with its place as its
ordinal: listed ones from their content, under their directory and name, and found ones from the
disk, under a directory and a name that make up their path. -/
structure InOrder (w : Workspace) (found : List Path) (entries : List ParsedEntry) : Prop where
  length : entries.length = w.files.length + found.length
  listed : ∀ i f, w.files[i]? = some f → ∃ e, entries[i]? = some e ∧
    e.directory = f.directory ∧ e.file = f.file ∧ e.parsed.path = f.path ∧
    Becomes grammar f.path i f.content.read e.parsed.root
  found : ∀ i p, found[i]? = some p → ∃ e, entries[w.files.length + i]? = some e ∧
    (e.directory.join e.file == p) = true ∧ e.parsed.path = p ∧
    ∃ bytes text, disk.bytes? p = some bytes ∧ Says bytes text ∧
      Becomes grammar p (w.files.length + i) text e.parsed.root

theorem becomes_of_text {path : Path} {ordinal : Nat} {text : String} :
    Becomes grammar path ordinal (.ok text)
      (grammar path text >>= fun statements => Build.root ⟨path, ordinal⟩ statements) := by
  cases h : grammar path text with
  | error d => exact .refused h
  | ok statements => exact .built h

theorem becomes_ofListed (f : WorkspaceFile) (ordinal : Nat) :
    Becomes grammar f.path ordinal f.content.read
      ((SourceFile.ofListed f).parse grammar disk ordinal).root := by
  simp only [SourceFile.parse, SourceFile.read, SourceFile.ofListed]
  cases f.content.read with
  | error reason => exact .unreadable reason
  | ok text => exact becomes_of_text grammar

theorem becomes_ofPath {p : Path} {bytes : List UInt8} (h : disk.bytes? p = some bytes)
    (ordinal : Nat) : ∃ text, Says bytes text ∧
      Becomes grammar p ordinal text ((SourceFile.ofPath p).parse grammar disk ordinal).root := by
  simp only [SourceFile.parse, SourceFile.read, SourceFile.ofPath, Disk.read, h]
  cases hs : String.fromUTF8? ⟨bytes.toArray⟩ with
  | none => exact ⟨_, .garbled hs, .unreadable _⟩
  | some text => exact ⟨_, .text hs, becomes_of_text grammar⟩

theorem getElem?_parseSources (sources : List SourceFile) (i : Nat) :
    (parseSources grammar disk sources)[i]? =
      sources[i]?.map fun s => ⟨s.directory, s.file, s.parse grammar disk i⟩ := by
  simp [parseSources, List.getElem?_map, List.getElem?_zipIdx, Option.map_map, Function.comp_def]

theorem inOrder_parseSources {w : Workspace} {found : List Path}
    (hfiles : ∀ p ∈ found, disk.isFile p = true) :
    InOrder grammar disk w found
      (parseSources grammar disk (w.files.map .ofListed ++ found.map .ofPath)) := by
  constructor
  case length => simp [parseSources]
  case listed =>
    intro i f hf
    have hi : i < (w.files.map SourceFile.ofListed).length := by
      simpa using (List.getElem?_eq_some_iff.1 hf).1
    have hsource : (w.files.map SourceFile.ofListed ++ found.map SourceFile.ofPath)[i]? =
        some (.ofListed f) := by
      rw [List.getElem?_append_left hi, List.getElem?_map, hf, Option.map_some]
    rw [getElem?_parseSources, hsource]
    exact ⟨_, rfl, rfl, rfl, rfl, becomes_ofListed grammar disk f i⟩
  case found =>
    intro i p hp
    have hsource : (w.files.map SourceFile.ofListed ++
        found.map SourceFile.ofPath)[w.files.length + i]? = some (.ofPath p) := by
      rw [List.getElem?_append_right (by simp), List.length_map, Nat.add_sub_cancel_left,
        List.getElem?_map, hp, Option.map_some]
    have hfile := hfiles p (List.mem_of_getElem? hp)
    obtain ⟨bytes, hbytes⟩ := Option.isSome_iff_exists.1 hfile
    obtain ⟨text, hsays, hbecomes⟩ := becomes_ofPath grammar disk hbytes (w.files.length + i)
    rw [getElem?_parseSources, hsource]
    exact ⟨_, rfl, join_ofPath hfile, rfl, bytes, text, hbytes, hsays, hbecomes⟩

/-! ## All files -/

/-- The parsed files of a workspace. -/
structure ParsesClosure (w : Workspace) (entries : List ParsedEntry) : Prop where
  /-- They have the needed paths, and no others. -/
  closure : ∀ p, (∃ e ∈ entries, (e.parsed.path == p) = true) ↔ Needed disk w entries p
  /-- A needed path that is not listed is parsed once. -/
  once : ∀ p, Needed disk w entries p → ¬ Listed w p →
    entries.countP (fun e => e.parsed.path == p) = 1
  /-- The listed files come first, in their order, and the found ones behind them, ordered by their
  distance from the listing and then by path. Each is built from what was read of it, with its place
  as its ordinal. -/
  ordered : ∃ found : List Path, found.Pairwise (Before disk w entries) ∧
    (∀ p ∈ found, ¬ Listed w p) ∧ InOrder grammar disk w found entries
  /-- An include of a file that has a root misses its target only if this is neither listed nor a
  file. -/
  missing : ∀ i e root d p, entries[i]? = some e → e.parsed.root = .ok root →
    (Table.ofFiles (entries.map (·.parsed))).includeFault? i = some d →
    d.cause = .includeFileNotFound p →
    ∃ x ∈ root.inclusions, d.primary = x.filenameRange ∧ p = x.target ∧ ¬ Listed w p ∧
      disk.isFile p = false

/-- The parsed paths are those that are needed. -/
theorem exists_parsed_iff (w : Workspace) (p : Path) :
    (∃ e ∈ all grammar disk w, (e.parsed.path == p) = true) ↔
      Needed disk w (all grammar disk w) p := by
  obtain ⟨last, hlast⟩ := exists_last grammar disk w
  have hwave : ∀ n, last ≤ n → ((∃ e ∈ all grammar disk w, (e.parsed.path == p) = true) ↔
      Within disk w (all grammar disk w) n p) := by
    intro n hn
    rw [within_iff_known, ← (hlast n hn).2]
    simp
  rw [needed_iff_within]
  constructor
  · exact fun h => ⟨last, (hwave last (Nat.le_refl _)).1 h⟩
  · rintro ⟨n, hn⟩
    exact (hwave (last + n) (Nat.le_add_right _ _)).2 (hn.mono (Nat.le_add_left _ _))

theorem countP_eq_one {paths : List Path} (hapart : paths.Pairwise fun a b => (a == b) = false)
    {k p : Path} (hk : k ∈ paths) (hsame : (k == p) = true) : paths.countP (· == p) = 1 := by
  induction paths with
  | nil => cases hk
  | cons q rest ih =>
    obtain ⟨hq, hrest⟩ := List.pairwise_cons.1 hapart
    rw [List.countP_cons]
    by_cases hqp : (q == p) = true
    · have hzero : rest.countP (· == p) = 0 := by
        refine List.countP_eq_zero.2 fun r hr hrp => ?_
        have hqr : (q == r) = true := Path.same_trans hqp (Path.same_symm hrp)
        rw [hq r hr] at hqr
        cases hqr
      simp [hzero, hqp]
    · rcases List.mem_cons.1 hk with rfl | hk
      · exact absurd hsame hqp
      · simp [ih hrest hk, hqp]

/-- Behind the listed paths come new ones, apart from each other. -/
theorem paths_all (w : Workspace) : ∃ found : List Path,
    (all grammar disk w).map (·.parsed.path) = w.files.map (·.path) ++ found ∧
      (∀ p ∈ found, disk.isFile p = true ∧ ∀ f ∈ w.files, (f.path == p) = false) ∧
      found.Pairwise fun a b => (a == b) = false := by
  obtain ⟨last, hlast⟩ := exists_last grammar disk w
  obtain ⟨-, found, -, hknown, hnew, hapart⟩ := grows_wave grammar disk w (Nat.zero_le last)
  have hstart : (wave grammar disk w 0).known = w.files.map (·.path) := by
    simp [wave, start, SourceFile.ofListed, WorkspaceFile.path]
  rw [hstart] at hknown hnew
  refine ⟨found, (hlast last (Nat.le_refl _)).2.trans hknown, fun p hp => ?_, hapart⟩
  exact ⟨(hnew p hp).1, fun f hf => (hnew p hp).2 _ (List.mem_map_of_mem hf)⟩

/-- A needed path that is not listed is parsed once. -/
theorem countP_all {w : Workspace} {p : Path} (hneeded : Needed disk w (all grammar disk w) p)
    (hp : ¬ Listed w p) : (all grammar disk w).countP (fun e => e.parsed.path == p) = 1 := by
  obtain ⟨found, hpaths, -, hapart⟩ := paths_all grammar disk w
  have hcount : ((all grammar disk w).map (·.parsed.path)).countP (· == p) = 1 := by
    have hzero : (w.files.map (·.path)).countP (· == p) = 0 := by
      refine List.countP_eq_zero.2 fun k hk hsame => hp ?_
      obtain ⟨f, hf, rfl⟩ := List.mem_map.1 hk
      exact ⟨f, hf, hsame⟩
    obtain ⟨e, he, hsame⟩ := (exists_parsed_iff grammar disk w p).2 hneeded
    have hmem : e.parsed.path ∈ w.files.map (·.path) ++ found := hpaths ▸ List.mem_map_of_mem he
    rw [hpaths, List.countP_append, hzero, Nat.zero_add]
    rcases List.mem_append.1 hmem with hmem | hmem
    · obtain ⟨f, hf, heq⟩ := List.mem_map.1 hmem
      exact absurd ⟨f, hf, heq ▸ hsame⟩ hp
    · exact countP_eq_one hapart hmem hsame
  rwa [List.countP_map] at hcount

/-- The target of an include is parsed if it is listed or a file. -/
theorem exists_parsed_target {w : Workspace} {e : ParsedEntry} (he : e ∈ all grammar disk w)
    {target : Path} (ht : target ∈ targetsOf e.parsed)
    (h : Listed w target ∨ disk.isFile target = true) :
    ∃ g ∈ all grammar disk w, (g.parsed.path == target) = true := by
  rw [exists_parsed_iff]
  rcases h with hlisted | hfile
  · exact .listed hlisted
  · have hself : (e.parsed.path == e.parsed.path) = true := Path.beq_iff.2 rfl
    have hneeded := (exists_parsed_iff grammar disk w e.parsed.path).1 ⟨e, he, hself⟩
    exact .included hneeded (includedBy_of_target he ht hfile (Path.beq_iff.2 rfl))

/-- An include is reported to miss its target only if that is neither listed nor a file. -/
theorem missing_all {w : Workspace} {i : Nat} {e : ParsedEntry} {root : Root WrittenType}
    {d : Diagnostic} {p : Path} (he : (all grammar disk w)[i]? = some e)
    (hr : e.parsed.root = .ok root)
    (hd : (Table.ofFiles ((all grammar disk w).map (·.parsed))).includeFault? i = some d)
    (hcause : d.cause = .includeFileNotFound p) :
    ∃ x ∈ root.inclusions, d.primary = x.filenameRange ∧ p = x.target ∧ ¬ Listed w p ∧
      disk.isFile p = false := by
  have hf : ((all grammar disk w).map (·.parsed))[i]? = some e.parsed := by
    rw [List.getElem?_map, he, Option.map_some]
  obtain ⟨x, hx, hfault⟩ := Table.fault_of_includeFault? hf hr hd
  cases hfault with
  | missing hmissing =>
    obtain rfl : x.target = p := by simpa [Diagnostic.located] using hcause
    have htarget : x.target ∈ targetsOf e.parsed := mem_targetsOf.2 ⟨root, hr, x, hx, rfl⟩
    have habsent : ¬ (Listed w x.target ∨ disk.isFile x.target = true) := by
      intro h
      obtain ⟨g, hg, hsame⟩ :=
        exists_parsed_target grammar disk (List.mem_of_getElem? he) htarget h
      rw [hmissing g.parsed (List.mem_map_of_mem hg)] at hsame
      cases hsame
    rw [not_or, Bool.not_eq_true] at habsent
    exact ⟨x, hx, rfl, rfl, habsent⟩
  | failed => cases hcause
  | element _ h =>
    simp only [Diagnostic.located] at hcause
    subst hcause
    simp at h
  | clash => cases hcause

/-- What the parsed files of a workspace are, and in which order. -/
theorem parsesClosure_all (w : Workspace) : ParsesClosure grammar disk w (all grammar disk w) := by
  obtain ⟨last, hlast⟩ := exists_last grammar disk w
  obtain ⟨found, -, hparsed, hfiles, hdistance, hordered⟩ := exists_foundBy grammar disk w last
  have hall := (hlast (last + 1) (Nat.le_succ last)).1.trans hparsed
  have hnew : ∀ p ∈ found, ¬ Listed w p := by
    intro p hp hlisted
    obtain ⟨m, -, -, hleast⟩ := hdistance p hp
    exact absurd (hleast 0 hlisted) (Nat.not_succ_le_zero m)
  exact {
    closure := exists_parsed_iff grammar disk w
    once := fun _ hneeded hp => countP_all grammar disk hneeded hp
    ordered := ⟨found, hordered, hnew, hall ▸ inOrder_parseSources grammar disk hfiles⟩
    missing := fun _ _ _ _ _ he hr hd hcause => missing_all grammar disk he hr hd hcause }

/-- A file that is listed in an absolute directory includes a file beside it. -/
example :
    let including : Grammar := fun path _ =>
      if path.text = "/home/main.schema" then
        .ok [.inclusion (.onLine 1) (.onLine 1) "library.schema" []]
      else .ok []
    (wave including (Disk.empty.insert ⟨"/home/library.schema"⟩ (.file []))
      (.ofFiles [⟨⟨"/home"⟩, ⟨"main.schema"⟩, .text ""⟩]) 2).parsed.map (·.parsed.path.text) =
        ["/home/main.schema", "/home/library.schema"] := by decide +kernel

end Discovery
end Schemata
