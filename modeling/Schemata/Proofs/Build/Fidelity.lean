import Schemata.Proofs.Build.Acceptance
import Schemata.Proofs.Build.Sketch

/-!
# Nothing is lost

What is built of a file keeps its source: every statement, type, name, literal, filename and flag is
there in order, at the coordinates that the source has, apart from what the relation of both trees
lets differ. The root reaches from the start of the file over all of its statements, since it ends
where the last of them does.

**Results:**
* `Build.rootKept_of_root`: the root that is built keeps its source.
-/
namespace Schemata
namespace Build

/-! ## How far a root reaches -/

/-- A place of a text does not come after another one. -/
def UpTo (a b : Nat × Nat) : Prop := a.1 < b.1 ∨ a.1 = b.1 ∧ a.2 ≤ b.2

theorem UpTo.refl (a : Nat × Nat) : UpTo a a := .inr ⟨rfl, le_rfl⟩

theorem UpTo.trans {a b c : Nat × Nat} (hab : UpTo a b) (hbc : UpTo b c) : UpTo a c := by
  unfold UpTo at *
  omega

theorem upTo_later (a b : Nat × Nat) : UpTo a (later a b) ∧ UpTo b (later a b) := by
  unfold later UpTo
  split <;> constructor <;> omega

/-- No place comes after the latest one. -/
theorem upTo_foldl_later {first : Nat × Nat} {ends : List (Nat × Nat)} :
    ∀ e ∈ first :: ends, UpTo e (ends.foldl later first) := by
  induction ends generalizing first with
  | nil =>
    intro e he
    rw [List.mem_singleton.1 he]
    exact .refl first
  | cons next ends ih =>
    obtain ⟨hfirst, hnext⟩ := upTo_later first next
    have hlater := ih (later first next) List.mem_cons_self
    intro e he
    rcases List.mem_cons.1 he with rfl | he
    · exact hfirst.trans hlater
    · rcases List.mem_cons.1 he with rfl | he
      · exact hnext.trans hlater
      · exact ih e (List.mem_cons_of_mem _ he)

theorem upTo_extent {ss : List Source.Statement} {s : Source.Statement} (hs : s ∈ ss) :
    UpTo (s.span.stopLine, s.span.stopColumn) ((extent ss).stopLine, (extent ss).stopColumn) := by
  have hm := List.mem_map_of_mem
    (f := fun s : Source.Statement => (s.span.stopLine, s.span.stopColumn)) hs
  cases ss with
  | nil => cases hs
  | cons first rest => exact upTo_foldl_later _ hm

theorem eq_first {l : Location} (hl : l.line = 1) (hc : l.column = 1) : l = .first := by
  obtain ⟨line, column, _, _⟩ := l
  cases hl
  cases hc
  rfl

/-- The range of a file's extent contains what stands at the span of one of its statements. -/
theorem contains_of_marks {file : Path} {ss : List Source.Statement} {r range : Range}
    (hr : (extent ss).Marks file r) {s : Source.Statement} (hs : s ∈ ss)
    (hrange : s.span.Marks file range) : r.contains range = true := by
  have hstart : r.start.le range.start = true := by
    have hl : r.start.line = 1 := hr.startLine
    have hc : r.start.column = 1 := hr.startColumn
    have hl' := range.start.line_pos
    have hc' := range.start.column_pos
    exact decide_eq_true (by omega)
  have hstop : range.stop.le r.stop = true := by
    have h := upTo_extent hs
    rw [← hrange.stopLine, ← hrange.stopColumn, ← hr.stopLine, ← hr.stopColumn] at h
    exact decide_eq_true h
  have hfile : (r.file == range.file) = true := by
    rw [hr.file, hrange.file]
    exact Path.same_refl file
  simp only [Range.contains, hfile, hstart, hstop, Bool.and_self]

/-! ## What is built of a file -/

/-- The root that is built keeps its source: the same statements, node by node and in order, in a
root that contains them all. -/
theorem rootKept_of_root {target : BuildTarget} {ss : List Source.Statement}
    {r : Root WrittenType} (h : root target ss = .ok r) :
    Source.Statement.RootKept target.file ss r := by
  obtain ⟨range, hrange, h⟩ := bind_eq_ok_iff.1 h
  obtain ⟨built, hbuilt, h⟩ := bind_eq_ok_iff.1 h
  obtain ⟨_, -, h⟩ := bind_eq_ok_iff.1 h
  injection h with h
  subst h
  have hplace : (extent ss).Marks target.file range := (accepts_range (extent ss)).of_ok _ hrange
  have hkept := (accepts_statements target 1 true ss).of_ok built hbuilt
  refine ⟨hkept, hplace.file, ?_, fun s hs => ?_⟩
  · exact eq_first hplace.startLine hplace.startColumn
  · obtain ⟨src, hsrc, hs⟩ := exists_of_mem_forall₂ hkept hs
    exact contains_of_marks hplace hsrc hs.marks

/-- A file that takes an element over under its own name, and that has a text with bounds, a
constraint and a note, an empty block behind a structure, a tuple, and a call. -/
def variedSource : List Source.Statement :=
  [.inclusion (.onLine 1) (.onLine 1) "b" [⟨.onLine 1, .onLine 1 "_Point", none⟩],
    .item (.onLine 2) (.onLine 2 "_texts")
      (.reference ⟨.onLine 2, some ⟨.onLine 2, none, some ⟨.onLine 2, 3⟩, none⟩,
          some ⟨.onLine 2, [⟨.onLine 2, .onLine 2 "min_length", .integer (.onLine 2) 2⟩,
            ⟨.onLine 2, .onLine 2 "note", .list (.onLine 2) [.string (.onLine 2) "a"]⟩]⟩⟩
        [.onLine 2 "String"] false false),
    .struct (.onLine 3) (.onLine 3 "Line") [.named 3 ["Point"]] (some ⟨.onLine 3, []⟩)
      [.names 4 "ends" (.tuple (.onLine 4) [.named 4 ["Point"], .global 4 ["Point"]])],
    .extension (.onLine 5) (.onLine 5 "check") [.boolean (.onLine 5) true]
      [⟨.onLine 5, .onLine 5 "level", .integer (.onLine 5) 1⟩]]

/-- The file is built, and its root keeps the source. -/
theorem rootKept_of_root_variedSource : ∃ r, root ⟨⟨"ws/a"⟩, 0⟩ variedSource = .ok r ∧
    Source.Statement.RootKept ⟨"ws/a"⟩ variedSource r := by
  have hok : (root ⟨⟨"ws/a"⟩, 0⟩ variedSource).isOk = true := by decide +kernel
  obtain ⟨r, hr⟩ := exists_of_isOk hok
  exact ⟨r, hr, rootKept_of_root hr⟩

end Build
end Schemata
