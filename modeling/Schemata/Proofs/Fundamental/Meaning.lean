import Schemata.Proofs.Build.Constraints
import Schemata.Proofs.Fundamental

/-!
# What constraints mean

The constraints behind the name of a fundamental type are read once, when the type is built, and
checked whenever a literal is converted. The type takes exactly the literals that meet what its
block says: an integer lies between the bounds and in the two's complement of the width, a text has
as many characters as its lengths ask for and matches the pattern.

**Results:**
* `Fundamental.fitsBits_iff_of_le`: which integers fit a width of at most 64 bits.
* `Fundamental.readsAs_constraints`: when integers and texts are read out of a block, and which
  literals they take then.
-/
namespace Schemata

/-- The integer meets what a block says about integers. -/
structure IntegerMeets (terms : Terms) (n : Int) : Prop where
  min : ∀ a, terms "min" = some (.integer () a) → a.toInt ≤ n
  max : ∀ b, terms "max" = some (.integer () b) → n ≤ b.toInt
  bits : ∀ width, terms "bits" = some (.integer () width) →
    -(Nat.pow 2 (width.toInt.toNat - 1) : Int) ≤ n ∧ n < Nat.pow 2 (width.toInt.toNat - 1)

/-- The text meets what a block says about texts. Its length is its number of characters. -/
structure TextMeets (terms : Terms) (s : String) : Prop where
  unsaid : terms "min_length" = none → 1 ≤ s.length
  min : ∀ a, terms "min_length" = some (.integer () a) → a.toInt ≤ s.length
  max : ∀ b, terms "max_length" = some (.integer () b) → s.length ≤ b.toInt
  pattern : ∀ source p, terms "pattern" = some (.string () source) →
    Pattern.compile source = some p → p.accepts s = true

namespace Fundamental

/-! ## Faults -/

/-- Nothing is wrong exactly if the constraint is not violated, where there is one, and nothing else
is wrong. -/
theorem violated_orElse_eq_none_iff {α : Type} {constraint : Option α} {violated : α → Bool}
    {cause : α → Cause} {others : Option Cause} :
    ((constraint.filter violated).map cause <|> others) = none ↔
      (∀ a, constraint = some a → violated a = false) ∧ others = none := by
  cases constraint with
  | none => simp
  | some a => cases h : violated a <;> simp [Option.filter, h]

theorem integerFault_eq_none_iff {min max : Option Int64} {bits : Option Nat} {n : Int64} :
    integerFault min max bits n = none ↔
      (∀ a, min = some a → a.toInt ≤ n.toInt) ∧ (∀ b, max = some b → n.toInt ≤ b.toInt) ∧
        ∀ width, bits = some width → fitsBits n width = true := by
  unfold integerFault
  rw [violated_orElse_eq_none_iff, violated_orElse_eq_none_iff]
  simp [Int64.lt_iff_toInt_lt, Option.filter_eq_none_iff]

theorem stringFault_eq_none_iff {least : Nat} {most : Option Nat} {pattern : Option Pattern}
    {s : String} :
    stringFault least most pattern s = none ↔
      least ≤ s.length ∧ (∀ b, most = some b → s.length ≤ b) ∧
        ∀ p, pattern = some p → p.accepts s = true := by
  unfold stringFault
  extract_lets length
  by_cases hshort : length < least
  · rw [if_pos hshort]
    refine ⟨nofun, fun h => ?_⟩
    exact absurd h.1 (Nat.not_le.2 hshort)
  · rw [if_neg hshort]
    change ((most.filter (· < length)).map _ <|> (pattern.filter _).map _) = none ↔ _
    rw [violated_orElse_eq_none_iff]
    simp [Option.filter_eq_none_iff, Nat.not_lt.1 hshort, length]

/-- The integers of a width are those of its two's complement. -/
theorem fitsBits_iff_of_le {n : Int64} {width : Nat} (h : width ≤ 64) :
    fitsBits n width = true ↔
      -(Nat.pow 2 (width - 1) : Int) ≤ n.toInt ∧ n.toInt < Nat.pow 2 (width - 1) := by
  rcases Nat.lt_or_eq_of_le h with h | rfl
  · exact fitsBits_iff h
  · have hlow := n.le_toInt
    have hhigh := n.toInt_lt
    simp only [fitsBits, Nat.le_refl, decide_true, Bool.true_or, true_iff, Nat.pow_eq]
    omega

/-! ## What is said and what is read -/

section

variable {terms : Terms} {name : String}

theorem forall_read_integer_iff {read : Option Int64}
    (h : Stands (fun e value => e = .integer () value) (terms name) read) {P : Int64 → Prop} :
    (∀ a, read = some a → P a) ↔ ∀ a, terms name = some (.integer () a) → P a := by
  generalize terms name = said at h
  cases h with
  | none => simp
  | some h =>
    subst h
    simp

theorem forall_read_count_iff {read : Option Nat} (h : Stands IsCount (terms name) read)
    {P : Nat → Prop} :
    (∀ n, read = some n → P n) ↔ ∀ a, terms name = some (.integer () a) → P a.toInt.toNat := by
  generalize terms name = said at h
  cases h with
  | none => simp
  | some h =>
    obtain ⟨value, rfl, -, rfl⟩ := h
    simp

theorem forall_read_pattern_iff {read : Option Pattern}
    (h : Stands (fun e p => ∃ source, e = .string () source ∧ Pattern.compile source = some p)
      (terms name) read) {P : Pattern → Prop} :
    (∀ p, read = some p → P p) ↔
      ∀ source p, terms name = some (.string () source) → Pattern.compile source = some p → P p := by
  generalize terms name = said at h
  cases h with
  | none => simp
  | some h =>
    obtain ⟨source, rfl, hp⟩ := h
    refine ⟨fun hall _ _ => ?_, fun hall _ => ?_⟩
    · rintro ⟨⟩ hp'
      exact hall _ (hp.symm.trans hp')
    · rintro ⟨⟩
      exact hall source _ rfl hp

end

/-! ## Types and their literals -/

/-- A type of the name is read out of a block exactly on the condition, and it takes the literals
that stand for the values. -/
structure ReadsAs (name : String) (m : Option Metadata) (condition : Prop)
    (StandsFor : Literal → Value → Prop) : Prop where
  read_iff : (∃ type rest, ofConstraints name m = .ok (some (type, rest))) ↔ condition
  parse_iff : ∀ type rest, ofConstraints name m = .ok (some (type, rest)) →
    ∀ disk e v, type.parse disk e = .ok v ↔ StandsFor e v

variable {m rest : Option Metadata} {name : String} {type : Fundamental}

/-- A reserved name is always that of a type, if the constraints hold together. -/
theorem exists_read_iff (hname : name ∈ reservedNames) :
    (∃ type rest, ofConstraints name m = .ok (some (type, rest))) ↔
      ConstraintsHold name (Metadata.terms m) := by
  rw [← (accepts_ofConstraints name m).ok_iff]
  constructor
  · rintro ⟨type, rest, h⟩
    exact ⟨_, h⟩
  · rintro ⟨_ | ⟨type, rest⟩, h⟩
    · exact absurd hname (ofConstraints_eq_none_iff.1 h)
    · exact ⟨type, rest, h⟩

theorem readFrom_of_read (h : ofConstraints name m = .ok (some (type, rest))) :
    ReadFrom name m (type, rest) :=
  (accepts_ofConstraints name m).of_ok _ h

/-- An integer violates nothing that was read exactly if it meets what was said. -/
theorem integerFault_eq_none_iff_meets {terms : Terms} (hterms : IntegerTerms terms)
    {min max : Option Int64} {bits : Option Nat}
    (hmin : Stands (fun e value => e = .integer () value) (terms "min") min)
    (hmax : Stands (fun e value => e = .integer () value) (terms "max") max)
    (hbits : Stands IsCount (terms "bits") bits) {n : Int64} :
    integerFault min max bits n = none ↔ IntegerMeets terms n.toInt := by
  have hfits : ∀ width, terms "bits" = some (.integer () width) →
      (fitsBits n width.toInt.toNat = true ↔
        -(Nat.pow 2 (width.toInt.toNat - 1) : Int) ≤ n.toInt ∧
          n.toInt < Nat.pow 2 (width.toInt.toNat - 1)) := by
    intro width hwidth
    obtain ⟨_, ⟨⟩, -, hle⟩ := hterms.bits _ hwidth
    exact fitsBits_iff_of_le (by omega)
  rw [integerFault_eq_none_iff, forall_read_integer_iff hmin, forall_read_integer_iff hmax,
    forall_read_count_iff hbits]
  constructor
  · rintro ⟨hlow, hhigh, hwidth⟩
    exact ⟨hlow, hhigh, fun width h => (hfits width h).1 (hwidth width h)⟩
  · rintro ⟨hlow, hhigh, hwidth⟩
    exact ⟨hlow, hhigh, fun width h => (hfits width h).2 (hwidth width h)⟩

/-- A length that is at least the one that was read, or else 1. -/
theorem least_le_iff {terms : Terms} {least : Option Nat}
    (h : Stands IsCount (terms "min_length") least) {count : Nat} :
    least.getD 1 ≤ count ↔ (terms "min_length" = none → 1 ≤ count) ∧
      ∀ a, terms "min_length" = some (.integer () a) → a.toInt ≤ count := by
  generalize terms "min_length" = said at h
  cases h with
  | none => simp
  | some h =>
    obtain ⟨value, rfl, hvalue, rfl⟩ := h
    simp only [Option.getD_some, reduceCtorEq, false_implies, Option.some.injEq,
      Expression.integer.injEq, true_and, forall_eq']
    omega

/-- A text violates nothing that was read exactly if it meets what was said. -/
theorem stringFault_eq_none_iff_meets {terms : Terms} (hterms : StringTerms terms)
    {least most : Option Nat} {pattern : Option Pattern}
    (hmin : Stands IsCount (terms "min_length") least)
    (hmax : Stands IsCount (terms "max_length") most)
    (hpattern : Stands (fun e p => ∃ source, e = .string () source ∧
      Pattern.compile source = some p) (terms "pattern") pattern) {s : String} :
    stringFault (least.getD 1) most pattern s = none ↔ TextMeets terms s := by
  have hmost : ∀ b, terms "max_length" = some (.integer () b) →
      (s.length ≤ b.toInt.toNat ↔ (s.length : Int) ≤ b.toInt) := by
    intro b hb
    obtain ⟨_, ⟨⟩, hnatural⟩ := hterms.max _ hb
    omega
  rw [stringFault_eq_none_iff, least_le_iff hmin, forall_read_count_iff hmax,
    forall_read_pattern_iff hpattern]
  constructor
  · rintro ⟨⟨hunsaid, hlow⟩, hhigh, hmatch⟩
    exact ⟨hunsaid, hlow, fun b h => (hmost b h).1 (hhigh b h), hmatch⟩
  · rintro ⟨hunsaid, hlow, hhigh, hmatch⟩
    exact ⟨⟨hunsaid, hlow⟩, fun b h => (hmost b h).2 (hhigh b h), hmatch⟩

theorem readsAs_integer (m : Option Metadata) :
    ReadsAs "Integer" m (IntegerTerms (Metadata.terms m)) fun e v =>
      ∃ place n, e = .integer place n ∧ v = .integer n ∧
        IntegerMeets (Metadata.terms m) n.toInt := by
  refine ⟨exists_read_iff (by decide), fun type rest h disk e v => ?_⟩
  have hterms : IntegerTerms (Metadata.terms m) :=
    (exists_read_iff (by decide)).1 ⟨type, rest, h⟩
  obtain ⟨hsaid, -, hname⟩ := readFrom_of_read h
  dsimp only at hsaid hname
  cases hsaid
  case integer hmin hmax hbits =>
    rw [parse_iff_denotes]
    constructor
    · intro h
      cases h with
      | integer place h =>
        exact ⟨place, _, rfl, rfl, (integerFault_eq_none_iff_meets hterms hmin hmax hbits).1 h⟩
    · rintro ⟨place, n, rfl, rfl, h⟩
      exact .integer place ((integerFault_eq_none_iff_meets hterms hmin hmax hbits).2 h)
  all_goals simp [Fundamental.name] at hname

theorem readsAs_string (m : Option Metadata) :
    ReadsAs "String" m (StringTerms (Metadata.terms m)) fun e v =>
      ∃ place s, e = .string place s ∧ v = .string s ∧ TextMeets (Metadata.terms m) s := by
  refine ⟨exists_read_iff (by decide), fun type rest h disk e v => ?_⟩
  have hterms : StringTerms (Metadata.terms m) :=
    (exists_read_iff (by decide)).1 ⟨type, rest, h⟩
  obtain ⟨hsaid, -, hname⟩ := readFrom_of_read h
  dsimp only at hsaid hname
  cases hsaid
  case string hmin hmax hpattern =>
    rw [parse_iff_denotes]
    constructor
    · intro h
      cases h with
      | string place h =>
        exact ⟨place, _, rfl, rfl, (stringFault_eq_none_iff_meets hterms hmin hmax hpattern).1 h⟩
    · rintro ⟨place, s, rfl, rfl, h⟩
      exact .string place ((stringFault_eq_none_iff_meets hterms hmin hmax hpattern).2 h)
  all_goals simp [Fundamental.name] at hname

/-- Integers are read out of a block exactly if its bounds are integers in order and its width is
one of 1 to 64 bits, and they take exactly the integer literals between the bounds and within the
width. Texts are read exactly if their lengths are natural numbers in order, the least one being 1
unless it is said, and their pattern is one; they take exactly the texts of such a length that match
the pattern, as they are. -/
theorem readsAs_constraints (m : Option Metadata) :
    (ReadsAs "Integer" m (IntegerTerms (Metadata.terms m)) fun e v =>
      ∃ place n, e = .integer place n ∧ v = .integer n ∧
        IntegerMeets (Metadata.terms m) n.toInt) ∧
    ReadsAs "String" m (StringTerms (Metadata.terms m)) fun e v =>
      ∃ place s, e = .string place s ∧ v = .string s ∧ TextMeets (Metadata.terms m) s :=
  ⟨readsAs_integer m, readsAs_string m⟩

end Fundamental
end Schemata
