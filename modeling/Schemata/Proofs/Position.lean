import Schemata.Position
import Schemata.Proofs.Path.Map

/-!
# The orders of ranges

Ranges are compared by the steps of their files, then by their begins, and then by their ends. One
contains another if it is in the same file and neither begins later nor ends earlier. A file may be
spelled in many ways, and the spelling does not count, so neither is an order up to equality: ranges
are alike in both if they are the same, having the same ends in files with the same steps.

**Results:**
* `Path.compare_eq_lt_iff`, `Range.compare_eq_lt_iff`: what comes first.
* `Range.contains_iff`: what is contained, by the same order of places.
* `Range.orders_exact`: both are orders up to sameness.
-/
namespace Schemata

/-! ## What comes first -/

/-- A step comes before another: the root before a leading `.`, that before `..`, these before all
names, and names by their characters. -/
inductive Component.Before : Component → Component → Prop where
  | kind {a b : Component} (h : a.rank < b.rank) : Before a b
  | name {s t : String} (h : s.toList < t.toList) : Before (.name s) (.name t)

/-- A path comes before another: by the first step in which they differ, or because the other goes
on where it ends. -/
def Path.Before (a b : Path) : Prop := List.Lex Component.Before a.components b.components

/-- A place comes before another: on an earlier line, or farther left on the same line. -/
def Location.Before (a b : Location) : Prop :=
  a.line < b.line ∨ a.line = b.line ∧ a.column < b.column

/-- A range comes before another: by its file, then by its begin, and then by its end. -/
inductive Range.Before (a b : Range) : Prop where
  | file (h : a.file.Before b.file)
  | start (file : a.file.components = b.file.components) (h : a.start.Before b.start)
  | stop (file : a.file.components = b.file.components) (start : a.start = b.start)
      (h : a.stop.Before b.stop)

/-! ## Paths -/

theorem Component.compare_eq_lt_iff {a b : Component} : compare a b = .lt ↔ a.Before b := by
  have hlex : compare a b = .lt ↔
      a.rank < b.rank ∨ a.rank = b.rank ∧ a.label.toList < b.label.toList := by
    rw [compare_eq_lex, compareLex, Ordering.then_eq_lt, compareOn, compareOn, Nat.compare_eq_lt,
      Nat.compare_eq_eq, Std.LawfulLTCmp.eq_lt_iff_lt, String.lt_iff]
  rw [hlex]
  constructor
  · rintro (h | ⟨hrank, hlabel⟩)
    · exact .kind h
    · -- steps of one kind that differ are names
      cases a <;> cases b
      case name.name => exact .name hlabel
      all_goals simp [rank, label] at hrank hlabel
  · rintro (h | h)
    · exact .inl h
    · exact .inr ⟨rfl, h⟩

theorem Path.compare_eq_lt_iff {a b : Path} : compare a b = .lt ↔ a.Before b := by
  rw [compare_def, Before]
  generalize a.components = as
  generalize b.components = bs
  induction as generalizing bs with
  | nil =>
    cases bs with
    | nil => simp [List.compareLex_nil_nil]
    | cons => simp [List.compareLex_nil_cons]
  | cons x xs ih =>
    cases bs with
    | nil => simp [List.compareLex_cons_nil]
    | cons y ys =>
      rw [List.compareLex_cons_cons, Ordering.then_eq_lt, Component.compare_eq_lt_iff,
        Std.LawfulEqCmp.compare_eq_iff_eq, ih, List.cons_lex_cons_iff]

/-- The root comes first, and names come last. -/
example : [(⟨"/b"⟩ : Path), ⟨"./b"⟩, ⟨"../b"⟩, ⟨"a"⟩, ⟨"a/b"⟩].Pairwise
    (fun p q => compare p q = .lt) := by decide +kernel

/-! ## Places -/

namespace Location

theorem compare_eq_lex : (compare : Location → Location → Ordering) =
    compareLex (compareOn line) (compareOn column) := rfl

instance : Std.TransOrd Location := by
  have h : Std.TransCmp (compareLex (compareOn line) (compareOn column)) := inferInstance
  rwa [← compare_eq_lex] at h

instance : Std.LawfulEqOrd Location where
  eq_of_compare := by
    intro a b h
    rw [compare_eq_lex] at h
    obtain ⟨hline, hcolumn⟩ := compareLex_eq_eq.1 h
    cases a
    cases b
    simp_all [compareOn]

theorem compare_eq_lt_iff {a b : Location} : compare a b = .lt ↔ a.Before b := by
  rw [compare_eq_lex, compareLex, Ordering.then_eq_lt, compareOn, compareOn, Nat.compare_eq_lt,
    Nat.compare_eq_eq, Nat.compare_eq_lt, Before]

/-- A place does not come after another exactly if that does not come before it. -/
theorem le_iff {a b : Location} : a.le b = true ↔ ¬ b.Before a := by
  rw [le, decide_eq_true_iff, Before]
  omega

theorem le_iff_isLE {a b : Location} : a.le b = true ↔ (compare a b).isLE = true := by
  rw [le_iff, ← compare_eq_lt_iff, ← Std.OrientedCmp.gt_iff_lt, Ordering.isLE_iff_ne_gt]

end Location

/-! ## Ranges -/

namespace Range
variable {a b c : Range}

theorem compare_eq_lex : (compare : Range → Range → Ordering) =
    compareLex (compareOn file) (compareLex (compareOn start) (compareOn stop)) := rfl

instance : Std.TransOrd Range := by
  have h : Std.TransCmp
      (compareLex (compareOn file) (compareLex (compareOn start) (compareOn stop))) := inferInstance
  rwa [← compare_eq_lex] at h

/-- Ranges are the same if they have the same ends in one file, however that is spelled. -/
theorem beq_iff : (a == b) = true ↔
    a.file.components = b.file.components ∧ a.start = b.start ∧ a.stop = b.stop := by
  show a.same b = true ↔ _
  rw [same, Bool.and_eq_true, Bool.and_eq_true, decide_eq_true_iff, decide_eq_true_iff,
    Path.beq_iff, and_assoc]

theorem compare_eq_eq_iff : compare a b = .eq ↔ (a == b) = true := by
  rw [compare_eq_lex, compareLex_eq_eq, compareLex_eq_eq, beq_iff, compareOn, compareOn, compareOn,
    Path.compare_eq_iff, Path.beq_iff, Std.LawfulEqCmp.compare_eq_iff_eq,
    Std.LawfulEqCmp.compare_eq_iff_eq]

/-- Ranges are compared by their files, then by their begins, and then by their ends. -/
theorem compare_eq_lt_iff : compare a b = .lt ↔ a.Before b := by
  have hlex : compare a b = .lt ↔ a.file.Before b.file ∨
      a.file.components = b.file.components ∧
        (a.start.Before b.start ∨ a.start = b.start ∧ a.stop.Before b.stop) := by
    rw [compare_eq_lex, compareLex, compareLex, Ordering.then_eq_lt, Ordering.then_eq_lt, compareOn,
      compareOn, compareOn, Path.compare_eq_lt_iff, Path.compare_eq_iff, Path.beq_iff,
      Location.compare_eq_lt_iff, Location.compare_eq_lt_iff, Std.LawfulEqCmp.compare_eq_iff_eq]
  rw [hlex]
  constructor
  · rintro (h | ⟨hfile, h | ⟨hstart, h⟩⟩)
    · exact .file h
    · exact .start hfile h
    · exact .stop hfile hstart h
  · rintro (h | ⟨hfile, h⟩ | ⟨hfile, hstart, h⟩)
    · exact .inl h
    · exact .inr ⟨hfile, .inl h⟩
    · exact .inr ⟨hfile, .inr ⟨hstart, h⟩⟩

theorem compare_eq_gt_iff : compare a b = .gt ↔ b.Before a := by
  rw [Std.OrientedCmp.gt_iff_lt, compare_eq_lt_iff]

theorem isLE_total (a b : Range) : (compare a b).isLE = true ∨ (compare b a).isLE = true := by
  have hswap : compare b a = (compare a b).swap := Std.OrientedCmp.eq_swap
  rw [hswap]
  cases compare a b <;> decide

/-! ## Containment -/

/-- What is contained is in the same file, and neither begins earlier nor ends later. -/
theorem contains_iff : a.contains b = true ↔
    a.file.components = b.file.components ∧ ¬ b.start.Before a.start ∧ ¬ a.stop.Before b.stop := by
  rw [contains, Bool.and_eq_true, Bool.and_eq_true, Path.beq_iff, Location.le_iff, Location.le_iff,
    and_assoc]

theorem contains_iff_isLE : a.contains b = true ↔ a.file.components = b.file.components ∧
    (compare a.start b.start).isLE = true ∧ (compare b.stop a.stop).isLE = true := by
  rw [contains, Bool.and_eq_true, Bool.and_eq_true, Path.beq_iff, Location.le_iff_isLE,
    Location.le_iff_isLE, and_assoc]

theorem contains_self (a : Range) : a.contains a = true :=
  contains_iff_isLE.2 ⟨rfl, Std.ReflCmp.isLE_rfl, Std.ReflCmp.isLE_rfl⟩

theorem contains_trans (hab : a.contains b = true) (hbc : b.contains c = true) :
    a.contains c = true := by
  obtain ⟨hfile, hstart, hstop⟩ := contains_iff_isLE.1 hab
  obtain ⟨hfile', hstart', hstop'⟩ := contains_iff_isLE.1 hbc
  exact contains_iff_isLE.2 ⟨hfile.trans hfile', Std.TransCmp.isLE_trans hstart hstart',
    Std.TransCmp.isLE_trans hstop' hstop⟩

/-- Ranges that contain each other are the same. -/
theorem contains_antisymm_iff : a.contains b = true ∧ b.contains a = true ↔ (a == b) = true := by
  rw [contains_iff_isLE, contains_iff_isLE, beq_iff]
  constructor
  · rintro ⟨⟨hfile, hstart, hstop⟩, -, hstart', hstop'⟩
    exact ⟨hfile, Std.LawfulEqCmp.eq_of_compare (Std.OrientedCmp.isLE_antisymm hstart hstart'),
      Std.LawfulEqCmp.eq_of_compare (Std.OrientedCmp.isLE_antisymm hstop' hstop)⟩
  · rintro ⟨hfile, hstart, hstop⟩
    rw [hfile, hstart, hstop]
    exact ⟨⟨rfl, Std.ReflCmp.isLE_rfl, Std.ReflCmp.isLE_rfl⟩,
      rfl, Std.ReflCmp.isLE_rfl, Std.ReflCmp.isLE_rfl⟩

/-! ## Both orders -/

/-- The comparison of ranges is a total order up to sameness, by the steps of the files, then by the
begins, and then by the ends. Containment is a partial order up to the same sameness. -/
theorem orders_exact (a b c : Range) :
    ((a == b) = true ↔
      a.file.components = b.file.components ∧ a.start = b.start ∧ a.stop = b.stop) ∧
    ((compare a b = .lt ↔ a.Before b) ∧ (compare a b = .eq ↔ (a == b) = true) ∧
      (compare a b = .gt ↔ b.Before a)) ∧
    (compare a a).isLE = true ∧
    ((compare a b).isLE = true ∨ (compare b a).isLE = true) ∧
    ((compare a b).isLE = true → (compare b c).isLE = true → (compare a c).isLE = true) ∧
    (a.contains b = true ↔ a.file.components = b.file.components ∧
      ¬ b.start.Before a.start ∧ ¬ a.stop.Before b.stop) ∧
    a.contains a = true ∧
    (a.contains b = true → b.contains c = true → a.contains c = true) ∧
    (a.contains b = true ∧ b.contains a = true ↔ (a == b) = true) :=
  ⟨beq_iff, ⟨compare_eq_lt_iff, compare_eq_eq_iff, compare_eq_gt_iff⟩, Std.ReflCmp.isLE_rfl,
    isLE_total a b, Std.TransCmp.isLE_trans, contains_iff, contains_self a, contains_trans,
    contains_antisymm_iff⟩

/-- A stretch of nine lines. -/
def nineLines : Range :=
  ⟨⟨"ws/a.schema"⟩, ⟨1, 1, Nat.one_pos, Nat.one_pos⟩, ⟨10, 1, Nat.succ_pos 9, Nat.one_pos⟩, rfl⟩

/-- Some of these lines, of the file in another spelling. -/
def threeLines : Range :=
  ⟨⟨"ws//a.schema"⟩, ⟨2, 3, Nat.succ_pos 1, Nat.succ_pos 2⟩, ⟨4, 1, Nat.succ_pos 3, Nat.one_pos⟩,
    rfl⟩

/-- The same lines, of the file in a third spelling. -/
def threeLinesRespelled : Range := { threeLines with file := ⟨"ws/./a.schema/"⟩ }

theorem orders_exact_nineLines :
    (compare nineLines threeLines = .lt ∧ compare threeLines threeLinesRespelled = .eq ∧
      (compare nineLines threeLinesRespelled).isLE = true) ∧
    nineLines.contains threeLines = true ∧ threeLines.contains threeLinesRespelled = true ∧
      nineLines.contains threeLinesRespelled = true := by
  obtain ⟨-, -, -, -, htrans, -, -, hcontained, -⟩ :=
    orders_exact nineLines threeLines threeLinesRespelled
  have hlt : compare nineLines threeLines = .lt := by decide +kernel
  have heq : compare threeLines threeLinesRespelled = .eq := by decide +kernel
  have hin : nineLines.contains threeLines = true := by decide +kernel
  have hagain : threeLines.contains threeLinesRespelled = true := by decide +kernel
  refine ⟨⟨hlt, heq, htrans ?_ ?_⟩, hin, hagain, hcontained hin hagain⟩
  · rw [hlt]
    rfl
  · rw [heq]
    rfl

end Range
end Schemata
