import Schemata.Cardinality
import Schemata.Proofs.Text.Digits

/-!
# Suffixes of cardinalities

The name of a type ends in a suffix that tells how often the type occurs: nothing, one of three
marks, or bounds in brackets. There are seven formats, and the bounds can be read back from each of
them, because what ends a run of digits tells how it goes on. So cardinalities with different bounds
have different suffixes.

Results:
* `Cardinality.bounds_eq_iff`: bounds of 64 bits, and the integers that they are.
* `Cardinality.readSuffix_suffix`: a suffix says what the bounds are.
-/
namespace Schemata
namespace Cardinality

/-! ## Bounds as integers -/

/-- The least count. -/
def least (c : Cardinality) : Int := c.min.value.toInt

/-- The greatest count, if there is one. -/
def greatest? (c : Cardinality) : Option Int := c.max.map (·.value.toInt)

variable {c d : Cardinality}

theorem greatest?_eq (c : Cardinality) : c.greatest? = c.bounds.2.map Int64.toInt := by
  rw [greatest?, bounds, Option.map_map]
  rfl

theorem bounds_eq_iff {min : Int64} {max : Option Int64} :
    c.bounds = (min, max) ↔ c.least = min.toInt ∧ c.greatest? = max.map Int64.toInt := by
  rw [greatest?_eq, (Option.map_injective fun _ _ => Int64.toInt.inj).eq_iff, least,
    Int64.toInt_inj, Prod.ext_iff]
  rfl

theorem isSingle_iff : c.isSingle = true ↔ c.least = 1 ∧ c.greatest? = some 1 := by
  rw [isSingle, beq_iff_eq, bounds_eq_iff]
  rfl

theorem isOptional_iff : c.isOptional = true ↔ c.least = 0 ∧ c.greatest? = some 1 := by
  rw [isOptional, beq_iff_eq, bounds_eq_iff]
  rfl

theorem isZeroOrMore_iff : c.isZeroOrMore = true ↔ c.least = 0 ∧ c.greatest? = none := by
  rw [isZeroOrMore, beq_iff_eq, bounds_eq_iff]
  rfl

theorem isOneOrMore_iff : c.isOneOrMore = true ↔ c.least = 1 ∧ c.greatest? = none := by
  rw [isOneOrMore, beq_iff_eq, bounds_eq_iff]
  rfl

/-! ## Reading a suffix -/

/-- The bounds between brackets, behind the digits of the least count. -/
def readBound (min : Nat) : List Char → Option (Nat × Option Nat)
  | [']'] => some (min, some min)
  | ['+', ']'] => some (min, none)
  | ',' :: ' ' :: cs => some (min, some (digitsValue (cs.takeWhile Char.isDigit)))
  | _ => none

/-- The bounds that a suffix stands for. -/
def readSuffix : List Char → Option (Nat × Option Nat)
  | [] => some (1, some 1)
  | ['?'] => some (0, some 1)
  | ['*'] => some (0, none)
  | ['+'] => some (1, none)
  | '[' :: cs => readBound (digitsValue (cs.takeWhile Char.isDigit)) (cs.dropWhile Char.isDigit)
  | _ => none

theorem readSuffix_brackets (n : Nat) {rest : List Char} (h : EndsDigits rest) :
    readSuffix ('[' :: (Nat.toDigits 10 n ++ rest)) = readBound n rest := by
  have hdigits := (isDigits_toDigits n).isDigit
  rw [readSuffix, takeWhile_isDigit_append hdigits h, dropWhile_isDigit_append hdigits h,
    digitsValue_toDigits]

theorem readBound_between (n m : Nat) :
    readBound n (',' :: ' ' :: (Nat.toDigits 10 m ++ [']'])) = some (n, some m) := by
  have hclose : EndsDigits [']'] := endsDigits_cons.2 rfl
  rw [readBound, takeWhile_isDigit_append (isDigits_toDigits m).isDigit hclose,
    digitsValue_toDigits]

/-- Bounds that have no mark of their own are written in brackets. -/
theorem readSuffix_bracketed {min : Nat} {max : Option Nat} (hmin : c.least = min)
    (hmax : c.greatest? = max.map Nat.cast) (hsingle : c.isSingle = false)
    (hoptional : c.isOptional = false) (hany : c.isZeroOrMore = false)
    (hsome : c.isOneOrMore = false) : readSuffix c.suffix.toList = some (min, max) := by
  have hleast : c.min.value.toInt = min := hmin
  have hgreatest : c.bounds.2.map Int64.toInt = max.map Nat.cast := c.greatest?_eq ▸ hmax
  simp only [suffix, hsingle, hoptional, hany, hsome, Bool.false_eq_true, if_false, hleast]
  cases hbound : c.bounds.2 with
  | none =>
    obtain rfl : max = none := by
      rw [hbound] at hgreatest
      exact Option.map_eq_none_iff.1 hgreatest.symm
    have hend : EndsDigits ['+', ']'] := endsDigits_cons.2 rfl
    simpa [toList_repr, readBound] using readSuffix_brackets min hend
  | some greatest =>
    obtain ⟨m, rfl, hm⟩ : ∃ m, max = some m ∧ greatest.toInt = m := by
      rw [hbound] at hgreatest
      cases max with
      | none => cases hgreatest
      | some m => exact ⟨m, rfl, Option.some.inj hgreatest⟩
    have heq : c.min.value = greatest ↔ min = m := by
      rw [← Int64.toInt_inj, hleast, hm, Int.ofNat_inj]
    by_cases h : min = m
    · have hend : EndsDigits [']'] := endsDigits_cons.2 rfl
      simpa [heq, h, toList_repr, readBound] using readSuffix_brackets m hend
    · have hend : EndsDigits (',' :: ' ' :: (Nat.toDigits 10 m ++ [']'])) := endsDigits_cons.2 rfl
      have hread := (readSuffix_brackets min hend).trans (readBound_between min m)
      simpa [heq, h, hm, toList_repr, readBound] using hread

/-- A suffix says what the bounds are. -/
theorem readSuffix_suffix {min : Nat} {max : Option Nat} (hmin : c.least = min)
    (hmax : c.greatest? = max.map Nat.cast) : readSuffix c.suffix.toList = some (min, max) := by
  -- each mark stands for one pair of bounds
  have hmark : ∀ (n : Nat) (g : Option Nat), c.least = n ∧ c.greatest? = g.map Nat.cast →
      some (n, g) = some (min, max) := by
    rintro n g ⟨hn, hg⟩
    rw [hmin, Int.ofNat_inj] at hn
    rw [hmax, (Option.map_injective fun _ _ => Int.ofNat_inj.1).eq_iff] at hg
    rw [hn, hg]
  cases hsingle : c.isSingle with
  | true => simpa [suffix, hsingle, readSuffix] using hmark 1 (some 1) (isSingle_iff.1 hsingle)
  | false =>
  cases hoptional : c.isOptional with
  | true =>
    simpa [suffix, hsingle, hoptional, readSuffix] using
      hmark 0 (some 1) (isOptional_iff.1 hoptional)
  | false =>
  cases hany : c.isZeroOrMore with
  | true =>
    simpa [suffix, hsingle, hoptional, hany, readSuffix] using
      hmark 0 none (isZeroOrMore_iff.1 hany)
  | false =>
  cases hsome : c.isOneOrMore with
  | true =>
    simpa [suffix, hsingle, hoptional, hany, hsome, readSuffix] using
      hmark 1 none (isOneOrMore_iff.1 hsome)
  | false => exact readSuffix_bracketed hmin hmax hsingle hoptional hany hsome

/-- No bound is negative. -/
structure Nonnegative (c : Cardinality) : Prop where
  least : 0 ≤ c.least
  greatest : ∀ g, c.greatest? = some g → 0 ≤ g

theorem Nonnegative.exists_nat (h : c.Nonnegative) :
    ∃ (min : Nat) (max : Option Nat), c.least = min ∧ c.greatest? = max.map Nat.cast := by
  obtain ⟨min, hmin⟩ := Int.eq_ofNat_of_zero_le h.least
  cases hmax : c.greatest? with
  | none => exact ⟨min, none, hmin, rfl⟩
  | some g =>
    obtain ⟨max, rfl⟩ := Int.eq_ofNat_of_zero_le (h.greatest g hmax)
    exact ⟨min, some max, hmin, rfl⟩

/-- Cardinalities with different bounds have different suffixes. -/
theorem Nonnegative.bounds_eq_of_suffix_eq (hc : c.Nonnegative) (hd : d.Nonnegative)
    (h : c.suffix = d.suffix) : c.bounds = d.bounds := by
  obtain ⟨min, max, hmin, hmax⟩ := hc.exists_nat
  obtain ⟨min', max', hmin', hmax'⟩ := hd.exists_nat
  have hread := readSuffix_suffix hmin hmax
  rw [h, readSuffix_suffix hmin' hmax'] at hread
  obtain ⟨rfl, rfl⟩ := Prod.mk.inj (Option.some.inj hread)
  exact bounds_eq_iff.2 ⟨hmin.trans hmin'.symm, hmax.trans (d.greatest?_eq ▸ hmax'.symm)⟩

end Cardinality
end Schemata
