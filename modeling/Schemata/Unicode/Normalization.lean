import Schemata.Unicode.Decomposition

/-!
# Normal form

Equivalent texts have one normal form: every character is taken apart, the marks behind a letter are
sorted by their combining classes, and then what can be put together is put together again.

Results: `insertByClass_perm`, `inCanonicalOrder_perm` (sorting keeps the characters),
`composeFrom_ne_nil`.
-/
namespace Schemata.Unicode

/-- Puts a code point before the first one that it must not follow. -/
def insertByClass (n : Nat) : List Nat → List Nat
  | [] => [n]
  | m :: ms =>
    if combiningClass m ≠ 0 && combiningClass m < combiningClass n then m :: insertByClass n ms
    else n :: m :: ms

/-- Sorts the marks between two characters that are no marks by class, and keeps the order of marks
of one class. -/
def inCanonicalOrder (ns : List Nat) : List Nat := ns.foldr insertByClass []

theorem insertByClass_perm (n : Nat) (ms : List Nat) : (insertByClass n ms).Perm (n :: ms) := by
  induction ms with
  | nil => exact .refl _
  | cons m ms ih =>
    rw [insertByClass]
    split
    · exact (ih.cons m).trans (.swap n m ms)
    · exact .refl _

theorem inCanonicalOrder_perm (ns : List Nat) : (inCanonicalOrder ns).Perm ns := by
  induction ns with
  | nil => exact .refl _
  | cons n ns ih => exact (insertByClass_perm n _).trans (ih.cons n)

/-- Puts code points together with the last one that is no mark, of which the marks that stay apart
are kept. A mark combines unless one of its class or a higher one stands between. -/
def composeFrom (starter : Nat) (kept : List Nat) : List Nat → List Nat
  | [] => starter :: kept
  | n :: ns =>
    let blocked := kept.getLast?.any fun m => combiningClass n ≤ combiningClass m
    match (if blocked then none else compose? starter n) with
    | some whole => composeFrom whole kept ns
    | none =>
      if combiningClass n = 0 then starter :: kept ++ composeFrom n [] ns
      else composeFrom starter (kept ++ [n]) ns

theorem composeFrom_ne_nil (starter : Nat) (kept ns : List Nat) :
    composeFrom starter kept ns ≠ [] := by
  induction ns generalizing starter kept with
  | nil => simp [composeFrom]
  | cons n ns ih =>
    rw [composeFrom]
    split
    · exact ih _ _
    · split
      · simp
      · exact ih _ _

/-- Puts together what can be put together. -/
def compose : List Nat → List Nat
  | [] => []
  | n :: ns => composeFrom n [] ns

/-- The number of times that the first part of a composite can be a composite. -/
def decompositionDepth : Nat := 4

/-- The normal form of a sequence of code points. -/
def normalize (ns : List Nat) : List Nat :=
  compose (inCanonicalOrder (ns.flatMap (decompose decompositionDepth)))

end Schemata.Unicode
