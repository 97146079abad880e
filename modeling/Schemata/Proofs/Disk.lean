import Schemata.Disk
import Schemata.Proofs.Path.Components
import Schemata.Proofs.Path.Map

/-!
# The file that a path means

A path may lead to a file in many ways: from the root or from the current directory, through `..`
out of a directory and back into it, or through a leading `.`. What a path leads to is the names
from the root to it, so two paths mean one file exactly if they lead to the same names. This depends
on the steps of a path alone.

**Results:**
* `Disk.fileOf?_congr`: the same path means the same file.
* `Disk.fileOf?_of_isFile`: a path that leads to a file means that file.
* `Disk.sameFile_iff_of_isFile`: paths that lead to files mean the same one if they lead to one place.
-/
namespace Schemata
namespace Disk

/-- One step of a path further from where names have led. The first step of an absolute path leads
to the root from anywhere. -/
def follow? (d : Disk) (names : List String) : Component → Option (List String)
  | .root => some []
  | .current => d.step? names ['.']
  | .parent => d.step? names ['.', '.']
  | .name text => d.step? names text.toList

/-- The names of the file that a path means, the innermost first. -/
def fileOf? (d : Disk) (p : Path) : Option (List String) :=
  (p.components.foldlM d.follow? d.current).filter d.isFileAt

/-- Two paths mean the same file of a disk. -/
def SameFile (d : Disk) (p q : Path) : Prop :=
  ∃ names, d.fileOf? p = some names ∧ d.fileOf? q = some names

variable {d : Disk} {p q r : Path} {names last : List String} {segment : List Char}

/-- The same path means the same file. -/
theorem fileOf?_congr (d : Disk) (h : (p == q) = true) : d.fileOf? p = d.fileOf? q := by
  rw [fileOf?, fileOf?, Path.beq_iff.1 h]

theorem SameFile.symm (h : d.SameFile p q) : d.SameFile q p := by
  obtain ⟨names, hp, hq⟩ := h
  exact ⟨names, hq, hp⟩

theorem SameFile.trans (h : d.SameFile p q) (k : d.SameFile q r) : d.SameFile p r := by
  obtain ⟨names, hp, hq⟩ := h
  obtain ⟨names', hq', hr⟩ := k
  rw [hq, Option.some.injEq] at hq'
  exact ⟨names, hp, hq' ▸ hr⟩

/-! ## One segment -/

theorem isDirectoryAt_of_step? (h : d.step? names segment = some last) :
    d.isDirectoryAt names = true := by
  unfold step? at h
  split at h
  · assumption
  · cases h

theorem eq_of_step?_idle (hidle : isIdle segment = true)
    (h : d.step? names segment = some last) : last = names := by
  have hdirectory := isDirectoryAt_of_step? h
  simp only [step?, hdirectory, hidle, if_true, Option.some.injEq] at h
  exact h.symm

/-- A segment that stands for a step is followed as that step. -/
theorem follow?_ofSegment (d : Disk) (names : List String) (segment : List Char) :
    d.follow? names (.ofSegment segment) = d.step? names segment := by
  unfold Component.ofSegment
  split
  · rename_i hparent
    rw [hparent, follow?]
  · rw [follow?, String.toList_ofList]

theorem isDirectoryAt_tail (h : d.isDirectoryAt names = true) :
    d.isDirectoryAt names.tail = true := by
  cases names with
  | nil => exact h
  | cons name outer =>
    obtain ⟨node, hnode, -⟩ := (Option.any_eq_true _ _).1 h
    exact isDirectoryAt_of_isSome (Option.isSome_iff_exists.2 ⟨node, hnode⟩)

theorem not_isFileAt_of_isDirectoryAt (h : d.isDirectoryAt names = true) :
    d.isFileAt names = false := by
  obtain ⟨node, hnode, hdirectory⟩ := (Option.any_eq_true _ _).1 h
  rw [isFileAt, hnode]
  cases node with
  | file content => cases hdirectory
  | directory entries => rfl

/-- Only a name leads to a file. -/
theorem segment_of_isFileAt (h : d.step? names segment = some last)
    (hfile : d.isFileAt last = true) : isIdle segment = false ∧ segment ≠ ['.', '.'] := by
  have hdirectory := isDirectoryAt_of_step? h
  refine ⟨?_, ?_⟩
  · by_contra hidle
    rw [eq_of_step?_idle (by simpa using hidle) h, not_isFileAt_of_isDirectoryAt hdirectory] at hfile
    cases hfile
  · rintro rfl
    obtain rfl : names.tail = last := by simpa [step?, hdirectory, isIdle] using h
    rw [not_isFileAt_of_isDirectoryAt (isDirectoryAt_tail hdirectory)] at hfile
    cases hfile

/-! ## Following segments and following steps -/

/-- Segments are followed as the steps that they stand for. -/
theorem follow_segments {segments : List (List Char)}
    (h : segments.foldlM d.step? names = some last) :
    ((segments.filter (!isIdle ·)).map Component.ofSegment).foldlM d.follow? names =
      some last := by
  induction segments generalizing names with
  | nil => exact h
  | cons segment rest ih =>
    rw [List.foldlM_cons] at h
    obtain ⟨next, hstep, hrest⟩ := Option.bind_eq_some_iff.1 h
    cases hidle : isIdle segment with
    | true =>
      obtain rfl := eq_of_step?_idle hidle hstep
      rw [List.filter_cons_of_neg (by simp [hidle])]
      exact ih hrest
    | false =>
      rw [List.filter_cons_of_pos (by simp [hidle]), List.map_cons, List.foldlM_cons,
        follow?_ofSegment, hstep]
      exact ih hrest

/-- A path is followed as its steps are. -/
theorem follow_of_place? (h : d.place? p = some names) :
    p.components.foldlM d.follow? d.current = some names := by
  unfold place? at h
  split at h
  · cases h
  rw [Path.components_eq]
  have hsteps := follow_segments h
  by_cases habsolute : p.isAbsolute = true
  · obtain ⟨rest, htext⟩ := Path.isAbsolute_iff.1 habsolute
    have hrest : segmentSteps ('/' :: rest) = segmentSteps rest := segmentSteps_cons rest
    rw [start, if_pos habsolute, htext] at hsteps
    rw [htext, textSteps, List.foldlM_cons, ← hrest]
    exact hsteps
  · have hrelative : p.text.toList.head? ≠ some '/' := by
      simpa [Path.isAbsolute] using habsolute
    rw [start, if_neg habsolute] at hsteps h
    rcases textSteps_relative hrelative with heq | heq
    · rw [heq]
      exact hsteps
    · -- a leading `.` needs a directory to stay in, and so does the first segment
      have hdirectory : d.isDirectoryAt d.current = true := by
        cases hsegments : splitOn '/' p.text.toList with
        | nil => exact absurd hsegments (splitOn_ne_nil _ _)
        | cons first others =>
          rw [hsegments, List.foldlM_cons] at h
          obtain ⟨next, hstep, -⟩ := Option.bind_eq_some_iff.1 h
          exact isDirectoryAt_of_step? hstep
      have hstay : d.follow? d.current .current = some d.current := by
        simp [follow?, step?, hdirectory, isIdle]
      rw [heq, List.foldlM_cons, hstay]
      exact hsteps

/-! ## Files -/

theorem bytes?_eq_some_iff {content : List UInt8} : d.bytes? p = some content ↔
    ∃ names, d.place? p = some names ∧ d.nodeAt? names = some (.file content) := by
  have hnode : d.bytes? p = some content ↔ d.node? p = some (.file content) := by
    unfold bytes?
    split <;> simp_all
  rw [hnode, node?, Option.bind_eq_some_iff]

/-- A path that leads to a file means that file. -/
theorem fileOf?_of_isFile (h : d.isFile p = true) : ∃ names content,
    d.place? p = some names ∧ d.fileOf? p = some names ∧ d.bytes? p = some content ∧
      d.nodeAt? names = some (.file content) := by
  obtain ⟨content, hbytes⟩ := Option.isSome_iff_exists.1 h
  obtain ⟨names, hplace, hnode⟩ := bytes?_eq_some_iff.1 hbytes
  have hfile : d.isFileAt names = true := by
    rw [isFileAt, hnode]
    rfl
  refine ⟨names, content, hplace, ?_, hbytes, hnode⟩
  rw [fileOf?, follow_of_place? hplace, Option.filter_some_pos hfile]

theorem sameFile_of_beq (h : d.isFile p = true) (hpq : (p == q) = true) : d.SameFile p q := by
  obtain ⟨names, -, -, hfile, -⟩ := fileOf?_of_isFile h
  exact ⟨names, hfile, fileOf?_congr d hpq ▸ hfile⟩

/-- Paths that lead to files mean the same one exactly if they lead to the same place. -/
theorem sameFile_iff_of_isFile (hp : d.isFile p = true) (hq : d.isFile q = true) :
    d.SameFile p q ↔ d.place? p = d.place? q := by
  obtain ⟨names, -, hplace, hfile, -⟩ := fileOf?_of_isFile hp
  obtain ⟨names', -, hplace', hfile', -⟩ := fileOf?_of_isFile hq
  rw [SameFile, hplace, hplace', hfile, hfile']
  simp [eq_comm]

/-- A file below the current directory is also reached from the root, and from the directory above
the current one. -/
example :
    let d := Disk.empty.insert ⟨"ws/a.schema"⟩ (.file [])
    d.SameFile ⟨"ws/a.schema"⟩ ⟨"/current/ws/a.schema"⟩ ∧
      d.SameFile ⟨"ws/a.schema"⟩ ⟨"../current//ws/./a.schema"⟩ :=
  ⟨⟨["a.schema", "ws", "current"], rfl, rfl⟩, ⟨["a.schema", "ws", "current"], rfl, rfl⟩⟩

end Disk
end Schemata
