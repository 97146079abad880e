import Schemata.Compile
import Schemata.Proofs.Discovery

/-!
# What the merge of results keeps

Linking gives every parsed file an outcome, and gathering puts it away: a root under directory and
name, a diagnostic under the path of the file. Roots never collide, since no two parsed files have
the same directory and name. Diagnostics can: two listed files may have the same path, as `sub/a` in
`ws` and `a` in `ws/sub` do. Then only the later diagnostic is left, and a run in which two files
failed looks like one in which a single file did.

**Results:**
* `mergesExactly_iff_all`: every outcome is kept, and a failure is raised only if it is the only
  one, exactly if no two failed files have the same path.
-/
namespace Schemata

/-- What came of each parsed file. -/
abbrev Outcomes := List (ParsedEntry × Except Diagnostic (Root LinkedType))

/-- Each parsed file with the outcome of linking it. -/
def outcomes (entries : List ParsedEntry) : Outcomes :=
  let files := entries.map (·.parsed)
  entries.zip ((Table.ofFiles files).linkFiles files)

namespace Outcomes

/-- The linked files with their directories and names. -/
def roots (outs : Outcomes) : List ((Path × Path) × Root LinkedType) :=
  outs.filterMap fun (e, outcome) =>
    match outcome with
    | .ok root => some ((e.directory, e.file), root)
    | .error _ => none

/-- The failed files with their paths. -/
def failures (outs : Outcomes) : List (Path × Diagnostic) :=
  outs.filterMap fun (e, outcome) =>
    match outcome with
    | .ok _ => none
    | .error d => some (e.parsed.path, d)

variable {outs : Outcomes}

theorem mem_roots {key : Path × Path} {root : Root LinkedType} :
    (key, root) ∈ outs.roots ↔ ∃ e, (e, .ok root) ∈ outs ∧ key = (e.directory, e.file) := by
  simp only [roots, List.mem_filterMap, Prod.exists]
  constructor
  · rintro ⟨e, outcome, hm, h⟩
    cases outcome <;> simp_all
    exact ⟨e, hm, h.1.symm⟩
  · rintro ⟨e, hm, rfl⟩
    exact ⟨e, .ok root, hm, rfl⟩

theorem mem_failures {path : Path} {d : Diagnostic} :
    (path, d) ∈ outs.failures ↔ ∃ e, (e, .error d) ∈ outs ∧ path = e.parsed.path := by
  simp only [failures, List.mem_filterMap, Prod.exists]
  constructor
  · rintro ⟨e, outcome, hm, h⟩
    cases outcome <;> simp_all
    exact ⟨e, hm, h.1.symm⟩
  · rintro ⟨e, hm, rfl⟩
    exact ⟨e, .error d, hm, rfl⟩

/-- Every file was linked or failed. -/
theorem length_eq (outs : Outcomes) : outs.length = outs.roots.length + outs.failures.length := by
  induction outs with
  | nil => rfl
  | cons o rest ih =>
    obtain ⟨e, root | d⟩ := o <;> simp_all [roots, failures] <;> omega

end Outcomes

/-- What gathering puts away, where and in which order. -/
theorem foldl_add (outs : Outcomes) (w : LinkedWorkspace) :
    let gathered := outs.foldl (fun w (e, result) => w.add e result) w
    gathered.roots = PathMap.nestedStore.putAll w.roots outs.roots ∧
      gathered.errors = PathMap.store.putAll w.errors outs.failures := by
  induction outs generalizing w with
  | nil => exact ⟨rfl, rfl⟩
  | cons o rest ih =>
    obtain ⟨e, d | root⟩ := o
    · exact ih (w.addError e.parsed.path d)
    · exact ih (w.addRoot e.directory e.file root)

/-! ## What is kept -/

/-- Every outcome is stored once: a root under the key of its file, a diagnostic under the path of
its file, and nothing else. -/
structure StoresEach (entries : List ParsedEntry) (w : LinkedWorkspace) : Prop where
  root : ∀ e root, (e, .ok root) ∈ outcomes entries → w.root? e.directory e.file = some root
  error : ∀ e d, (e, .error d) ∈ outcomes entries → w.errors.get? e.parsed.path = some d
  rootsOnly : ∀ directory file root, (directory, file, root) ∈ w.allRoots →
    ∃ e, (e, .ok root) ∈ outcomes entries ∧
      PathMap.sameKey (directory, file) (e.directory, e.file) = true
  errorsOnly : ∀ path d, (path, d) ∈ w.errors.entries →
    ∃ e, (e, .error d) ∈ outcomes entries ∧ (path == e.parsed.path) = true
  count : w.allRoots.length + w.errors.size = entries.length

/-- Linking loses no outcome. Without raising it stores all of them, and with raising it fails with
the diagnostic of the only failed file, if there is just one, and otherwise does the same. -/
structure MergesExactly (entries : List ParsedEntry) : Prop where
  stores : ∀ o : Options, o.check = .ok () → o.raiseSingle = false →
    ∃ w, link entries o = .ok w ∧ StoresEach entries w
  raises : ∀ (o : Options) (d : Diagnostic), o.check = .ok () → o.raiseSingle = true →
    (link entries o = .error (.diagnostic d) ↔ ∃ path, (outcomes entries).failures = [(path, d)])
  otherwise : ∀ o : Options, o.check = .ok () → o.raiseSingle = true →
    (outcomes entries).failures.length ≠ 1 →
    link entries o = link entries { o with raiseSingle := false }

/-- No two failed files have the same path. -/
def FailuresApart (entries : List ParsedEntry) : Prop :=
  (outcomes entries).failures.Pairwise fun a b => (a.1 == b.1) = false

section
variable {entries : List ParsedEntry}

theorem map_fst_outcomes (entries : List ParsedEntry) :
    (outcomes entries).map (·.1) = entries := by
  refine List.map_fst_zip ?_
  simp [Table.linkFiles]

/-- The outcome at a place is that of linking the file at the place. -/
theorem getElem?_outcomes_iff {i : Nat} {e : ParsedEntry}
    {outcome : Except Diagnostic (Root LinkedType)} :
    (outcomes entries)[i]? = some (e, outcome) ↔
      entries[i]? = some e ∧
        (Table.ofFiles (entries.map (·.parsed))).linkFile i e.parsed = outcome := by
  unfold outcomes
  rw [List.getElem?_zip_eq_some, Table.linkFiles, List.getElem?_map, List.getElem?_zipIdx,
    List.getElem?_map]
  refine and_congr_right fun he => ?_
  simp [he]

theorem length_outcomes (entries : List ParsedEntry) :
    (outcomes entries).length = entries.length := by
  rw [← List.length_map (f := (·.1)), map_fst_outcomes]

theorem gather_roots (entries : List ParsedEntry) :
    (gather entries).roots = PathMap.nestedStore.putAll .empty (outcomes entries).roots :=
  (foldl_add (outcomes entries) .empty).1

theorem gather_errors (entries : List ParsedEntry) :
    (gather entries).errors = PathMap.store.putAll .empty (outcomes entries).failures :=
  (foldl_add (outcomes entries) .empty).2

/-- The root under a key is what is found among the roots put one after the other. -/
theorem root?_gather (entries : List ParsedEntry) (directory file : Path) :
    (gather entries).root? directory file = PathMap.nestedStore.get?
      (PathMap.nestedStore.putAll .empty (outcomes entries).roots) (directory, file) := by
  rw [← gather_roots]
  rfl

theorem error?_gather (entries : List ParsedEntry) (path : Path) :
    (gather entries).errors.get? path =
      PathMap.store.get? (PathMap.store.putAll .empty (outcomes entries).failures) path := by
  rw [← gather_errors]
  rfl

/-- Files with different keys have roots with different keys. -/
theorem roots_apart (h : Discovery.KeysApart entries) :
    PathMap.nestedStore.Apart (outcomes entries).roots := by
  rw [Discovery.KeysApart, ← map_fst_outcomes entries, List.pairwise_map] at h
  refine List.pairwise_filterMap.2 (h.imp fun {a b} hkey x hx y hy => ?_)
  obtain ⟨e, outcome⟩ := a
  obtain ⟨e', outcome'⟩ := b
  cases outcome <;> cases outcome' <;> simp_all
  obtain rfl := hx
  obtain rfl := hy
  exact hkey

theorem length_allRoots (h : Discovery.KeysApart entries) :
    (gather entries).allRoots.length = (outcomes entries).roots.length := by
  have hcount := (LawfulStore.count_putAll (S := PathMap.nestedStore) PathMap.nestedOrdered_empty
    (outcomes entries).roots).2 ⟨roots_apart h, fun _ _ => rfl⟩
  rw [← gather_roots, PathMap.count_nestedStore, PathMap.count_nestedStore] at hcount
  exact hcount.trans (Nat.zero_add _)

/-- No diagnostic is lost exactly if the paths of the failed files differ. -/
theorem size_errors_iff :
    (gather entries).errors.size = (outcomes entries).failures.length ↔ FailuresApart entries := by
  have hcount := LawfulStore.count_putAll (S := PathMap.store) PathMap.ordered_empty
    (outcomes entries).failures
  rw [← gather_errors, PathMap.count_store, PathMap.count_store] at hcount
  have hempty : (PathMap.empty : PathMap Diagnostic).size + (outcomes entries).failures.length =
      (outcomes entries).failures.length := Nat.zero_add _
  rw [hempty] at hcount
  rw [hcount]
  exact and_iff_left fun _ _ => rfl

theorem nestedOrdered_gather (entries : List ParsedEntry) :
    (gather entries).roots.NestedOrdered := by
  rw [gather_roots]
  exact LawfulStore.sound_putAll (S := PathMap.nestedStore) PathMap.nestedOrdered_empty

theorem ordered_gather (entries : List ParsedEntry) : (gather entries).errors.Ordered := by
  rw [gather_errors]
  exact LawfulStore.sound_putAll (S := PathMap.store) PathMap.ordered_empty

/-- A file is known by its directory and name. -/
theorem eq_of_sameKey (h : Discovery.KeysApart entries) {i j : Nat} {a b : ParsedEntry}
    (ha : entries[i]? = some a) (hb : entries[j]? = some b)
    (hkey : PathMap.sameKey (a.directory, a.file) (b.directory, b.file) = true) : i = j := by
  refine index_eq_of_pairwise ?_ h ha hb hkey
  exact fun a b hkey => (PathMap.sameKey_comm _ _).trans hkey

/-- The root under the key of a file is what came of that file. -/
theorem root?_gather_iff (h : Discovery.KeysApart entries) {i : Nat} {e : ParsedEntry}
    (he : entries[i]? = some e) {root : Root LinkedType} :
    (gather entries).root? e.directory e.file = some root ↔
      (outcomes entries)[i]? = some (e, .ok root) := by
  rw [root?_gather]
  constructor
  · intro hroot
    obtain ⟨⟨key, root⟩, hput, hkey, rfl⟩ :=
      (PathMap.nestedStore.exists_of_get?_putAll _ hroot).resolve_right nofun
    obtain ⟨e', hout, rfl⟩ := Outcomes.mem_roots.1 hput
    obtain ⟨j, hj⟩ := List.mem_iff_getElem?.1 hout
    have he' := (getElem?_outcomes_iff.1 hj).1
    -- the root came of some file with this key, and only one file has it
    obtain rfl := eq_of_sameKey h he he' hkey
    rw [he] at he'
    cases he'
    exact hj
  · intro hout
    have hmem := Outcomes.mem_roots.2 ⟨e, List.mem_of_getElem? hout, rfl⟩
    exact PathMap.nestedStore.get?_putAll (roots_apart h) hmem

/-- A root of the result came of a file with its key. -/
theorem exists_outcome_of_mem_allRoots {directory file : Path} {root : Root LinkedType}
    (hm : (directory, file, root) ∈ (gather entries).allRoots) :
    ∃ e, (e, .ok root) ∈ outcomes entries ∧
      PathMap.sameKey (directory, file) (e.directory, e.file) = true := by
  have hfound := (nestedOrdered_gather entries).at?_of_mem hm
  rw [gather_roots] at hfound
  obtain ⟨⟨key, root⟩, hroot, hkey, rfl⟩ :=
    (PathMap.nestedStore.exists_of_get?_putAll (directory, file) hfound).resolve_right nofun
  obtain ⟨e, he, rfl⟩ := Outcomes.mem_roots.1 hroot
  exact ⟨e, he, hkey⟩

/-- A diagnostic of the result came of a file with its path. -/
theorem exists_outcome_of_mem_errors {path : Path} {d : Diagnostic}
    (hm : (path, d) ∈ (gather entries).errors.entries) :
    ∃ e, (e, .error d) ∈ outcomes entries ∧ (path == e.parsed.path) = true := by
  have hfound := (ordered_gather entries).get?_of_mem hm
  rw [error?_gather] at hfound
  obtain ⟨⟨path', d⟩, hfailure, hkey, rfl⟩ :=
    (PathMap.store.exists_of_get?_putAll path hfound).resolve_right nofun
  obtain ⟨e, he, rfl⟩ := Outcomes.mem_failures.1 hfailure
  exact ⟨e, he, hkey⟩

/-- Without diagnostics every file was linked. -/
theorem not_error_of_isSuccess (h : (gather entries).isSuccess = true) {e : ParsedEntry}
    {d : Diagnostic} : (e, .error d) ∉ outcomes entries := by
  intro hm
  have hentries : (gather entries).errors.entries = [] := List.isEmpty_iff.1 h
  have hnone : (gather entries).errors.get? e.parsed.path = none := by
    rw [PathMap.get?, hentries]
    rfl
  have hfound := LawfulStore.isSome_get?_putAll (S := PathMap.store) (m := .empty)
    (Outcomes.mem_failures.2 ⟨e, hm, rfl⟩)
  rw [← error?_gather, hnone] at hfound
  cases hfound

/-- What came of the run is complete exactly if the paths of the failed files differ. -/
theorem storesEach_gather_iff (h : Discovery.KeysApart entries) :
    StoresEach entries (gather entries) ↔ FailuresApart entries := by
  have hlength := (outcomes entries).length_eq
  rw [length_outcomes] at hlength
  constructor
  · -- the roots are all there, so the count tells that the diagnostics are
    intro hstores
    have hcount := hstores.count
    rw [length_allRoots h] at hcount
    exact size_errors_iff.1 (by omega)
  · intro hapart
    refine ⟨?_, ?_, ?_, ?_, ?_⟩
    · intro e root hm
      obtain ⟨i, hi⟩ := List.mem_iff_getElem?.1 hm
      exact (root?_gather_iff h (getElem?_outcomes_iff.1 hi).1).2 hi
    · intro e d hm
      rw [error?_gather]
      exact PathMap.store.get?_putAll hapart (Outcomes.mem_failures.2 ⟨e, hm, rfl⟩)
    · exact fun _ _ _ => exists_outcome_of_mem_allRoots
    · exact fun _ _ => exists_outcome_of_mem_errors
    · rw [length_allRoots h, size_errors_iff.2 hapart, hlength]

/-- A result with a single diagnostic comes of a single failure. -/
theorem singleError?_gather_iff (h : FailuresApart entries) {d : Diagnostic} :
    (gather entries).singleError? = some d ↔
      ∃ path, (outcomes entries).failures = [(path, d)] := by
  have hsize := size_errors_iff.2 h
  have herrors := gather_errors entries
  constructor
  · intro hsingle
    unfold LinkedWorkspace.singleError? at hsingle
    split at hsingle
    · rename_i path d' hentries
      cases hsingle
      -- no diagnostic was lost, so there was only one
      rw [PathMap.size, hentries] at hsize
      obtain ⟨⟨path', d'⟩, hfailures⟩ := List.length_eq_one_iff.1 hsize.symm
      rw [hfailures] at herrors
      rw [herrors] at hentries
      cases hentries
      exact ⟨path', hfailures⟩
    · cases hsingle
  · rintro ⟨path, hfailures⟩
    rw [hfailures] at herrors
    rw [LinkedWorkspace.singleError?, herrors]
    rfl

theorem link_of_raising {o : Options} (check : o.check = .ok ()) (raise : o.raiseSingle = true) :
    link entries o = match (gather entries).singleError? with
      | some d => .error (.diagnostic d)
      | none => .ok (gather entries) := by
  unfold link
  rw [check, raise]
  cases h : (gather entries).singleError? with
  | none => simp [h]
  | some d =>
    simp [h]
    rfl

/-- The merge is exact if and only if the paths of the failed files differ. -/
theorem mergesExactly_iff (h : Discovery.KeysApart entries) :
    MergesExactly entries ↔ FailuresApart entries := by
  constructor
  · intro hmerges
    obtain ⟨w, hlink, hstores⟩ := hmerges.stores ⟨true, none, true, false⟩ rfl rfl
    rw [link_of_not_raising rfl rfl] at hlink
    cases hlink
    exact (storesEach_gather_iff h).1 hstores
  · intro hapart
    constructor
    · intro o check raise
      exact ⟨_, link_of_not_raising check raise, (storesEach_gather_iff h).2 hapart⟩
    · intro o d check raise
      rw [link_of_raising check raise, ← singleError?_gather_iff hapart]
      cases (gather entries).singleError? <;> simp
    · intro o check raise hfailures
      rw [link_of_raising check raise, link_of_not_raising (o := { o with raiseSingle := false })
        check rfl]
      cases hsingle : (gather entries).singleError? with
      | none => rfl
      | some d =>
        obtain ⟨path, hone⟩ := (singleError?_gather_iff hapart).1 hsingle
        rw [hone] at hfailures
        exact absurd rfl hfailures

end

/-- Every outcome is kept, and a failure is raised only if it is the only one, exactly if no two
failed files have the same path. -/
theorem mergesExactly_iff_all (grammar : Grammar) (disk : Disk) (listed : List WorkspaceFile) :
    MergesExactly (Discovery.all grammar disk (Workspace.ofFiles listed)) ↔
      FailuresApart (Discovery.all grammar disk (Workspace.ofFiles listed)) :=
  mergesExactly_iff (Discovery.all_apart grammar disk listed)

/-- A grammar that accepts no text. -/
def rejecting : Grammar := fun path text => .error (.located (.fileStart path) (.grammar text))

/-- A path that is listed twice, split at different places. -/
def listedTwice : List WorkspaceFile :=
  [⟨⟨"ws"⟩, ⟨"sub/a.schema"⟩, .text "1"⟩, ⟨⟨"ws/sub"⟩, ⟨"a.schema"⟩, .text "2"⟩]

/-- Two files fail, and the run fails as if only the second one had. -/
theorem not_mergesExactly_listedTwice :
    let entries := Discovery.all rejecting .empty (Workspace.ofFiles listedTwice)
    (outcomes entries).failures.length = 2 ∧
      link entries .default =
        .error (.diagnostic (.located (.fileStart ⟨"ws/sub/a.schema"⟩) (.grammar "2"))) ∧
      ¬ MergesExactly entries := by
  have hall : Discovery.all rejecting .empty (Workspace.ofFiles listedTwice) =
      (Discovery.start (Workspace.ofFiles listedTwice)).parsePending rejecting .empty :=
    Discovery.all_of_discovered_nil _ _ _ rfl
  have hlink : link (Discovery.all rejecting .empty (Workspace.ofFiles listedTwice)) .default =
      .error (.diagnostic (.located (.fileStart ⟨"ws/sub/a.schema"⟩) (.grammar "2"))) := by
    rw [hall]
    rfl
  have hfailures : (outcomes (Discovery.all rejecting .empty
      (Workspace.ofFiles listedTwice))).failures.length = 2 := by
    rw [hall]
    rfl
  refine ⟨hfailures, hlink, fun h => ?_⟩
  obtain ⟨path, hone⟩ := (h.raises .default _ rfl rfl).1 hlink
  rw [hone] at hfailures
  cases hfailures

end Schemata
