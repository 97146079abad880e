import Schemata.Text.Split
import Schemata.Unicode.Blank
import Mathlib.Algebra.Group.Nat.Defs

/-!
# Decimal digits

A number in decimal digits, with or without zeros in front, reads back as itself. Digits take one
byte each, and a run of them ends where something else begins.

Results:
* `digitsValue_toDigits`, `digitsValue_padded`: written digits read back.
* `toList_repr`, `toList_repr_negSucc`: the digits of an integer.
* `digitsValue_lt`: digits stand for less than the power of ten of their number.
* `length_padded`: a number with no more digits than the width fills it exactly.
* `takeWhile_isDigit_append`, `dropWhile_isDigit_append`: where a run of digits ends.
-/
namespace Schemata

/-- Nothing but digits, and at least one. -/
structure IsDigits (cs : List Char) : Prop where
  ne_nil : cs ≠ []
  isDigit : ∀ c ∈ cs, c.isDigit = true

theorem isDigits_iff {cs : List Char} : IsDigits cs ↔ ¬ (cs = [] ∨ ¬ cs.all Char.isDigit) := by
  rw [not_or, Decidable.not_not, List.all_eq_true]
  exact ⟨fun h => ⟨h.ne_nil, h.isDigit⟩, fun h => ⟨h.1, h.2⟩⟩

/-! ## Single digits -/

theorem toNat_of_isDigit {c : Char} (h : c.isDigit = true) : 48 ≤ c.toNat ∧ c.toNat ≤ 57 :=
  Char.isDigit_iff_toNat.1 h

theorem utf8Size_of_isDigit {c : Char} (h : c.isDigit = true) : c.utf8Size = 1 := by
  rw [Char.utf8Size, if_pos]
  rw [UInt32.le_iff_toNat_le]
  exact Nat.le_trans (toNat_of_isDigit h).2 (by decide)

theorem isBlank_of_isDigit {c : Char} (h : c.isDigit = true) : isBlank c = false := by
  have hrange := toNat_of_isDigit h
  simp [isBlank]
  omega

theorem not_mem_of_isDigit {cs : List Char} (h : ∀ c ∈ cs, c.isDigit = true) {mark : Char}
    (hmark : mark.isDigit = false) : mark ∉ cs := by
  intro hm
  rw [h mark hm] at hmark
  cases hmark

theorem byteLength_digits {cs : List Char} (h : ∀ c ∈ cs, c.isDigit = true) :
    byteLength cs = cs.length :=
  byteLength_eq_length fun c hc => utf8Size_of_isDigit (h c hc)

/-! ## Runs of digits -/

/-- The text does not go on with a digit. -/
def EndsDigits (rest : List Char) : Prop := ∀ c ∈ rest.head?, c.isDigit = false

@[simp] theorem endsDigits_nil : EndsDigits [] := nofun

@[simp] theorem endsDigits_cons {c : Char} {cs : List Char} :
    EndsDigits (c :: cs) ↔ c.isDigit = false := by simp [EndsDigits]

section Runs

variable {ds rest : List Char}

theorem takeWhile_isDigit_append (hds : ∀ c ∈ ds, c.isDigit = true) (hrest : EndsDigits rest) :
    (ds ++ rest).takeWhile Char.isDigit = ds := by
  rw [List.takeWhile_append_of_pos hds]
  cases rest with
  | nil => simp
  | cons c cs => simp [endsDigits_cons.1 hrest]

theorem dropWhile_isDigit_append (hds : ∀ c ∈ ds, c.isDigit = true) (hrest : EndsDigits rest) :
    (ds ++ rest).dropWhile Char.isDigit = rest := by
  rw [List.dropWhile_append_of_pos hds]
  cases rest with
  | nil => rfl
  | cons c cs => simp [endsDigits_cons.1 hrest]

/-- There are no blanks before digits. -/
theorem dropWhile_isBlank_append (hds : IsDigits ds) :
    (ds ++ rest).dropWhile isBlank = ds ++ rest := by
  cases ds with
  | nil => exact absurd rfl hds.ne_nil
  | cons d ds => simp [isBlank_of_isDigit (hds.isDigit d List.mem_cons_self)]

/-- Digits do not begin with a mark. -/
theorem append_ne_cons (hds : IsDigits ds) {mark : Char} (hmark : mark.isDigit = false)
    (cs : List Char) : ds ++ rest ≠ mark :: cs := by
  intro h
  cases ds with
  | nil => exact absurd rfl hds.ne_nil
  | cons d ds =>
    obtain rfl := (List.cons.inj h).1
    rw [hds.isDigit d List.mem_cons_self] at hmark
    cases hmark

end Runs

/-! ## Values -/

theorem digitsValue_eq (cs : List Char) : digitsValue cs = Nat.ofDigitChars 10 cs 0 := rfl

theorem digitsValue_cons (c : Char) (cs : List Char) :
    digitsValue (c :: cs) = 10 ^ cs.length * (c.toNat - 48) + digitsValue cs := by
  rw [digitsValue_eq, Nat.ofDigitChars_cons, Nat.ofDigitChars_eq_ofDigitChars_zero, Nat.mul_zero,
    Nat.zero_add]
  rfl

/-- Digits stand for less than the power of ten of their number. -/
theorem digitsValue_lt {cs : List Char} (h : ∀ c ∈ cs, c.isDigit = true) :
    digitsValue cs < 10 ^ cs.length := by
  induction cs with
  | nil => decide
  | cons c cs ih =>
    rw [List.forall_mem_cons] at h
    have hrest := ih h.2
    have hrange := toNat_of_isDigit h.1
    have hfirst : 10 ^ cs.length * (c.toNat - 48) ≤ 10 ^ cs.length * 9 :=
      Nat.mul_le_mul_left _ (by omega)
    rw [digitsValue_cons, List.length_cons, Nat.pow_succ]
    omega

@[simp] theorem digitsValue_toDigits (n : Nat) : digitsValue (Nat.toDigits 10 n) = n :=
  Nat.ofDigitChars_ten_toDigits

@[simp] theorem digitsValue_padded (width n : Nat) : digitsValue (padded width n) = n := by
  rw [padded, digitsValue_eq, Nat.ofDigitChars_append, Nat.ofDigitChars_replicate_zero,
    Nat.mul_zero, Nat.ofDigitChars_ten_toDigits]

theorem isDigits_toDigits (n : Nat) : IsDigits (Nat.toDigits 10 n) where
  ne_nil := Nat.toDigits_ne_nil
  isDigit _ hc := Nat.isDigit_of_mem_toDigits (by decide) (by decide) hc

theorem isDigits_padded (width n : Nat) : IsDigits (padded width n) where
  ne_nil := by simp [padded, Nat.toDigits_ne_nil]
  isDigit c hc := by
    rcases List.mem_append.1 hc with hc | hc
    · rw [List.eq_of_mem_replicate hc]
      rfl
    · exact (isDigits_toDigits n).isDigit c hc

theorem toList_repr (n : Nat) : (n : Int).repr.toList = Nat.toDigits 10 n := by
  rw [show (n : Int).repr = toString n from rfl, Nat.toString_eq_ofList_toDigits,
    String.toList_ofList]

theorem toList_repr_negSucc (n : Nat) :
    (Int.negSucc n).repr.toList = '-' :: Nat.toDigits 10 (n + 1) := by
  rw [show (Int.negSucc n).repr = "-" ++ toString (n + 1) from rfl, String.toList_append,
    Nat.toString_eq_ofList_toDigits, String.toList_ofList (l := Nat.toDigits 10 (n + 1))]
  rfl

/-- A number with no more digits than the width fills it exactly. -/
theorem length_padded {width n : Nat} (hw : 0 < width) (h : n < 10 ^ width) :
    (padded width n).length = width := by
  have hdigits := (Nat.length_toDigits_le_iff (by decide) hw).2 h
  rw [padded, List.length_append, List.length_replicate]
  omega

end Schemata
