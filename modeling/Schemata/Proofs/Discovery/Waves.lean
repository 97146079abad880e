import Mathlib
import Schemata.Proofs.Discovery

/-!
# Discovery ends

Every wave but the last one adds files, and the paths of added files are apart from each other. A
disk follows only paths with fewer bytes than `Disk.pathLimit`, and there are fewer of those than
`Discovery.waveLimit`. So after that many waves nothing is pending, and the state does not change
any more, however many waves follow.

**Results:**
* `Discovery.parsedPaths_step`: a wave parses the files that were known before it.
* `Discovery.Grows.step`, `Discovery.grows_wave`: what a wave, and several waves, add.
* `Discovery.pending_waveLimit`: in the end nothing is pending.
* `Discovery.exists_last`: all files are what waves enough have parsed.
-/
namespace Schemata

/-! ## Counting short paths -/

/-- The lists of bytes that are shorter than `n`. -/
def shortBytes : Nat → Finset (List UInt8)
  | 0 => ∅
  | n + 1 => insert [] ((Finset.univ ×ˢ shortBytes n).image fun x => x.1 :: x.2)

theorem mem_shortBytes {n : Nat} {bytes : List UInt8} (h : bytes.length < n) :
    bytes ∈ shortBytes n := by
  induction n generalizing bytes with
  | zero => omega
  | succ n ih =>
    cases bytes with
    | nil => exact Finset.mem_insert_self _ _
    | cons b bytes =>
      have hshort : bytes ∈ shortBytes n := ih (by simpa using h)
      refine Finset.mem_insert_of_mem (Finset.mem_image.2 ⟨(b, bytes), ?_, rfl⟩)
      exact Finset.mem_product.2 ⟨Finset.mem_univ b, hshort⟩

theorem card_shortBytes (n : Nat) : (shortBytes n).card < Nat.pow 256 n := by
  induction n with
  | zero => simp [shortBytes]
  | succ n ih =>
    have hbytes : (Finset.univ : Finset UInt8).card = 256 := by decide +kernel
    have himage : ((Finset.univ ×ˢ shortBytes n).image fun x => x.1 :: x.2).card ≤
        256 * (shortBytes n).card := by
      refine Finset.card_image_le.trans ?_
      rw [Finset.card_product, hbytes]
    have hinsert := Finset.card_insert_le ([] : List UInt8)
      ((Finset.univ ×ˢ shortBytes n).image fun x => x.1 :: x.2)
    rw [shortBytes, show Nat.pow 256 (n + 1) = Nat.pow 256 n * 256 from rfl]
    omega

/-- There are not many texts with fewer bytes than `n`. -/
theorem length_lt_of_short {n : Nat} {texts : List String} (hnodup : texts.Nodup)
    (hshort : ∀ t ∈ texts, t.utf8ByteSize < n) : texts.length < Nat.pow 256 n := by
  let bytes := fun t : String => t.toByteArray.data.toList
  have hinj : Function.Injective bytes := fun a b h =>
    String.toByteArray_inj.1 (ByteArray.ext (Array.toList_inj.1 h))
  have hsubset : (texts.map bytes).toFinset ⊆ shortBytes n := by
    intro b hb
    obtain ⟨t, ht, rfl⟩ := List.mem_map.1 (List.mem_toFinset.1 hb)
    exact mem_shortBytes (by simpa [bytes] using hshort t ht)
  calc texts.length = (texts.map bytes).length := (List.length_map _).symm
    _ = (texts.map bytes).toFinset.card :=
        (List.toFinset_card_of_nodup (hnodup.map hinj)).symm
    _ ≤ (shortBytes n).card := Finset.card_le_card hsubset
    _ < Nat.pow 256 n := card_shortBytes n

theorem Disk.size_of_isFile {d : Disk} {p : Path} (h : d.isFile p = true) :
    p.text.utf8ByteSize < pathLimit := by
  by_contra hlong
  have hnone : d.place? p = none := by
    rw [place?]
    exact if_pos (.inr (Nat.le_of_not_lt hlong))
  simp [isFile, bytes?, node?, hnone] at h

namespace Discovery

variable (grammar : Grammar) (disk : Disk)

/-! ## One wave -/

/-- The paths of the parsed files. -/
def parsedPaths (d : Discovery) : List Path := d.parsed.map (·.parsed.path)

/-- The known paths are those of the parsed files and then those of the pending ones. -/
def Consistent (d : Discovery) : Prop := d.known = d.parsedPaths ++ d.pending.map (·.path)

theorem paths_parsePending (d : Discovery) :
    (d.parsePending grammar disk).map (·.parsed.path) = d.pending.map (·.path) := by
  simp only [parsePending, List.map_map]
  conv_rhs => rw [← List.zipIdx_map_fst 0 d.pending, List.map_map]
  rfl

/-- A wave parses the files that were known before it. -/
theorem parsedPaths_step {d : Discovery} (h : d.Consistent) :
    (d.step grammar disk).parsedPaths = d.known := by
  rw [h, ← paths_parsePending grammar disk]
  exact List.map_append

theorem Consistent.step {d : Discovery} (h : d.Consistent) :
    (d.step grammar disk).Consistent := by
  rw [Consistent, parsedPaths_step grammar disk h]
  simp only [Discovery.step, List.map_map]
  exact congrArg _ (List.map_id' _).symm

/-- Without pending files nothing changes. -/
theorem step_of_done {d : Discovery} (h : d.pending = []) : d.step grammar disk = d := by
  obtain ⟨parsed, pending, known⟩ := d
  obtain rfl : pending = [] := h
  simp [step, parsePending, discovered, distinct, PathMap.values, PathMap.empty]

/-- `later` has the files of `earlier`, and behind them some that were not known there. -/
def Grows (earlier later : Discovery) : Prop :=
  ∃ entries found, later.parsed = earlier.parsed ++ entries ∧ later.known = earlier.known ++ found ∧
    (∀ p ∈ found, disk.isFile p = true ∧ ∀ k ∈ earlier.known, (k == p) = false) ∧
    found.Pairwise fun a b => (a == b) = false

theorem Grows.refl (d : Discovery) : Grows disk d d :=
  ⟨[], [], by simp, by simp, by simp, .nil⟩

theorem Grows.trans {a b c : Discovery} (hab : Grows disk a b) (hbc : Grows disk b c) :
    Grows disk a c := by
  obtain ⟨es, ps, hparsed, hknown, hnew, hapart⟩ := hab
  obtain ⟨es', ps', hparsed', hknown', hnew', hapart'⟩ := hbc
  refine ⟨es ++ es', ps ++ ps', by simp [hparsed, hparsed'], by simp [hknown, hknown'], ?_, ?_⟩
  · intro p hp
    rcases List.mem_append.1 hp with hp | hp
    · exact hnew p hp
    · refine ⟨(hnew' p hp).1, fun k hk => (hnew' p hp).2 k ?_⟩
      rw [hknown]
      exact List.mem_append_left _ hk
  · refine List.pairwise_append.2 ⟨hapart, hapart', fun p hp q hq => (hnew' q hq).2 p ?_⟩
    rw [hknown]
    exact List.mem_append_right _ hp

/-- What a wave adds. -/
theorem Grows.step (d : Discovery) : Grows disk d (d.step grammar disk) :=
  ⟨_, _, rfl, rfl, fun _ => mem_discovered, distinct_apart _⟩

/-! ## Waves -/

/-- The state after the given number of waves. -/
def wave (w : Workspace) (n : Nat) : Discovery := (step grammar disk)^[n] (start w)

theorem wave_succ (w : Workspace) (n : Nat) :
    wave grammar disk w (n + 1) = (wave grammar disk w n).step grammar disk :=
  Function.iterate_succ_apply' _ _ _

theorem run_eq_iterate (waves : Nat) (d : Discovery) :
    run grammar disk waves d = (step grammar disk)^[waves] d := by
  induction waves generalizing d with
  | zero => rfl
  | succ waves ih =>
    rw [run]
    split
    · rename_i hdone
      exact (Function.iterate_fixed (step_of_done grammar disk (List.isEmpty_iff.1 hdone)) _).symm
    · exact ih _

/-- What holds of the listed files and is kept by every wave. -/
theorem wave_induction {P : Discovery → Prop} {w : Workspace} (h : P (start w))
    (hstep : ∀ d, P d → P (d.step grammar disk)) (n : Nat) : P (wave grammar disk w n) := by
  induction n with
  | zero => exact h
  | succ n ih =>
    rw [wave_succ]
    exact hstep _ ih

theorem consistent_wave (w : Workspace) (n : Nat) : (wave grammar disk w n).Consistent :=
  wave_induction grammar disk (by simp [Consistent, start, parsedPaths])
    (fun _ hd => hd.step grammar disk) n

theorem grows_wave (w : Workspace) {m n : Nat} (h : m ≤ n) :
    Grows disk (wave grammar disk w m) (wave grammar disk w n) := by
  induction n, h using Nat.le_induction with
  | base => exact .refl disk _
  | succ n _ ih =>
    rw [wave_succ]
    exact ih.trans disk (.step grammar disk _)

/-- As long as something is pending, every wave has found at least one file. -/
theorem found_of_pending (w : Workspace) {n : Nat} (h : (wave grammar disk w n).pending ≠ []) :
    (start w).known.length + n ≤ (wave grammar disk w n).known.length := by
  induction n with
  | zero => exact Nat.le_refl _
  | succ n ih =>
    rw [wave_succ] at h ⊢
    have hbefore : (wave grammar disk w n).pending ≠ [] := by
      intro hdone
      rw [step_of_done grammar disk hdone] at h
      exact h hdone
    have hfound : discovered disk (wave grammar disk w n).known
        (((wave grammar disk w n).parsePending grammar disk).map (·.parsed)) ≠ [] :=
      fun hnil => h (by simp [step, hnil])
    have hlength := List.length_pos_iff.2 hfound
    have hbefore := ih hbefore
    simp only [step, List.length_append]
    omega

/-- There are not enough paths for more waves. -/
theorem pending_of_le (w : Workspace) {n : Nat} (h : Nat.pow 256 Disk.pathLimit ≤ n) :
    (wave grammar disk w n).pending = [] := by
  by_contra hpending
  obtain ⟨-, found, -, hknown, hnew, hapart⟩ := grows_wave grammar disk w (Nat.zero_le n)
  have hmany : n ≤ found.length := by
    have hlength := found_of_pending grammar disk w hpending
    rw [hknown, List.length_append] at hlength
    exact Nat.le_of_add_le_add_left hlength
  have hnodup : (found.map (·.text)).Nodup := by
    refine List.pairwise_map.2 (hapart.imp fun {a b} hab heq => ?_)
    obtain ⟨a⟩ := a
    obtain rfl : a = b.text := heq
    rw [Path.beq_iff.2 rfl] at hab
    cases hab
  have hfew := length_lt_of_short (n := Disk.pathLimit) hnodup fun t ht => by
    obtain ⟨p, hp, rfl⟩ := List.mem_map.1 ht
    exact Disk.size_of_isFile (hnew p hp).1
  rw [List.length_map] at hfew
  exact absurd (h.trans hmany) (Nat.not_le_of_lt hfew)

/-- In the end nothing is pending. -/
theorem pending_waveLimit (w : Workspace) : (wave grammar disk w waveLimit).pending = [] := by
  unfold waveLimit
  exact pending_of_le grammar disk w (Nat.le_refl _)

/-- Once nothing is pending, nothing changes. -/
theorem wave_of_done {w : Workspace} {m n : Nat} (hdone : (wave grammar disk w m).pending = [])
    (h : m ≤ n) : wave grammar disk w n = wave grammar disk w m := by
  obtain ⟨more, rfl⟩ := Nat.exists_eq_add_of_le' h
  rw [wave, Function.iterate_add_apply]
  exact Function.iterate_fixed (step_of_done grammar disk hdone) _

/-- From some wave on all files are parsed, and the known paths are theirs. -/
theorem exists_last (w : Workspace) : ∃ last, ∀ n, last ≤ n →
    all grammar disk w = (wave grammar disk w n).parsed ∧
      (all grammar disk w).map (·.parsed.path) = (wave grammar disk w n).known := by
  refine ⟨waveLimit, fun n h => ?_⟩
  have hdone := pending_waveLimit grammar disk w
  have hall : all grammar disk w = (wave grammar disk w waveLimit).parsed :=
    congrArg parsed (run_eq_iterate grammar disk waveLimit (start w))
  rw [wave_of_done grammar disk hdone h, consistent_wave grammar disk w, hdone, hall]
  exact ⟨rfl, (List.append_nil _).symm⟩

end Discovery
end Schemata
