import Schemata.Proofs.Build.Acceptance
import Schemata.Proofs.Cardinality.Suffix
import Schemata.Proofs.Denotation
import Mathlib.Order.Interval.Finset.Nat
import Mathlib.Order.Interval.Set.Infinite

/-!
# What cardinalities there are

Bounds of 64 bits may be missing, and then others are meant. They make a cardinality if some count
lies between them and if a single element carries no metadata; otherwise the diagnostic stands at
what is wrong. A cardinality that was made is of one of three classes, and its suffix tells it from
those with other bounds.

Counts have 64 bits and no sign, so half of them are beyond every bound that can be stated. Such a
count is taken for the greatest bound. That is right unless this is the maximum itself: then it
takes in counts that are greater than it.

**Results:**
* `Cardinality.create_eq_error_iff`: what is refused, and where.
* `Cardinality.create_exact`: what makes a cardinality, and of which class it is.
* `Cardinality.accepts_iff_within_iff`: which counts are compared as they should be.
* `Cardinality.accepts_exact`: what a cardinality accepts.
* `Cardinality.not_within_of_accepts_widest`: a count that is accepted beyond the maximum.
-/
namespace Schemata
namespace Cardinality

/-! ## The bounds that are meant -/

/-- The least count that is meant by a minimum and a maximum, if they are given. -/
def leastOf : Option IntegerLiteral → Option IntegerLiteral → Int
  | some min, _ => min.value.toInt
  | none, some _ => 0
  | none, none => 1

/-- The greatest count that is meant by a minimum and a maximum, if they are given. -/
def greatestOf : Option IntegerLiteral → Option IntegerLiteral → Option Int
  | _, some max => some max.value.toInt
  | some _, none => none
  | none, none => some 1

variable {range : Range} {min max : Option IntegerLiteral} {m : Option Metadata}
  {c : Cardinality}

theorem leastOf_eq (range : Range) (min max : Option IntegerLiteral) :
    (defaulted range min max).1.value.toInt = leastOf min max := by
  cases min <;> cases max <;> rfl

theorem greatestOf_eq (range : Range) (min max : Option IntegerLiteral) :
    (defaulted range min max).2.map (·.value.toInt) = greatestOf min max := by
  cases min <;> cases max <;> rfl

theorem nonEmpty?_eq_some_iff {block : Metadata} :
    m.bind Metadata.nonEmpty? = some block ↔ m = some block ∧ block.items ≠ [] := by
  cases m with
  | none => simp
  | some block' =>
    simp only [Option.bind_some, Metadata.nonEmpty?, Metadata.isEmpty, List.isEmpty_iff,
      Option.ite_none_left_eq_some, Option.some.injEq]
    constructor
    · rintro ⟨hitems, rfl⟩
      exact ⟨rfl, hitems⟩
    · rintro ⟨rfl, hitems⟩
      exact ⟨hitems, rfl⟩

theorem nonEmpty?_eq_none_iff :
    m.bind Metadata.nonEmpty? = none ↔ ¬ ∃ block, m = some block ∧ block.items ≠ [] := by
  simp only [Option.eq_none_iff_forall_ne_some, ne_eq, nonEmpty?_eq_some_iff, not_exists]

/-- Some count lies between the bounds, and a single element has no metadata. -/
structure Meaningful (min max : Option IntegerLiteral) (m : Option Metadata) : Prop where
  least : 0 ≤ leastOf min max
  greatest : ∀ g, greatestOf min max = some g → leastOf min max ≤ g ∧ 1 ≤ g
  plain : ¬ (leastOf min max = 1 ∧ greatestOf min max = some 1 ∧
    ∃ block, m = some block ∧ block.items ≠ [])

theorem exists_create_iff : (∃ c, create range min max m = .ok c) ↔ Meaningful min max m := by
  have h := (@Build.accepts_create range min max m).ok_iff
  rw [leastOf_eq, greatestOf_eq, nonEmpty?_eq_none_iff] at h
  rw [h]
  constructor
  · rintro ⟨hleast, hgreatest, hplain⟩
    exact ⟨hleast, hgreatest, fun ⟨hone, hsome, hblock⟩ => hplain hone hsome hblock⟩
  · rintro ⟨hleast, hgreatest, hplain⟩
    exact ⟨hleast, hgreatest, fun hone hsome hblock => hplain ⟨hone, hsome, hblock⟩⟩

theorem bounds_of_create (h : create range min max m = .ok c) :
    c.least = leastOf min max ∧ c.greatest? = greatestOf min max := by
  obtain rfl := Build.accepts_create.of_ok c h
  exact ⟨leastOf_eq range min max, greatestOf_eq range min max⟩

/-! ## What is refused -/

/-- Why bounds and metadata make no cardinality, with the diagnostic for it. -/
inductive Refused (min max : Option IntegerLiteral) (m : Option Metadata) : Diagnostic → Prop where
  /-- The minimum is negative. -/
  | negative {bound : IntegerLiteral} (hmin : min = some bound) (h : bound.value.toInt < 0) :
      Refused min max m
        (.located bound.range (.invalidCardinality bound.value (max.map (·.value))))
  /-- The maximum is zero or below the minimum. -/
  | low {bound : IntegerLiteral} {least : Int64} (hmax : max = some bound)
      (hleast : least.toInt = leastOf min max) (hmin : 0 ≤ leastOf min max)
      (h : bound.value.toInt < leastOf min max ∨ bound.value.toInt < 1) :
      Refused min max m (.located bound.range (.invalidCardinality least (some bound.value)))
  /-- The metadata stands at a single element. -/
  | noted {block : Metadata} (hm : m = some block) (hitems : block.items ≠ [])
      (hleast : leastOf min max = 1) (hgreatest : greatestOf min max = some 1) :
      Refused min max m (.located block.range .metadataOnSingleElement)

theorem faultyBound_eq_some_iff {least bound : IntegerLiteral} {greatest : Option IntegerLiteral} :
    faultyBound least greatest = some bound ↔
      least.value.toInt < 0 ∧ bound = least ∨
      0 ≤ least.value.toInt ∧ greatest = some bound ∧
        (bound.value.toInt < least.value.toInt ∨ bound.value.toInt < 1) := by
  have hz : (0 : Int64).toInt = 0 := rfl
  have hneg : least.value < 0 ↔ least.value.toInt < 0 := by rw [Int64.lt_iff_toInt_lt, hz]
  rw [faultyBound]
  by_cases h : least.value.toInt < 0
  · have hn : ¬ 0 ≤ least.value.toInt := Int.not_le.2 h
    simp [hneg, h, hn, eq_comm]
  · have hn : 0 ≤ least.value.toInt := Int.not_lt.1 h
    have hlow : (bound.value < least.value || bound.value == 0) = true ↔
        bound.value.toInt < least.value.toInt ∨ bound.value.toInt < 1 := by
      simp only [Bool.or_eq_true, decide_eq_true_eq, Int64.lt_iff_toInt_lt, beq_iff_eq,
        ← Int64.toInt_inj, hz]
      omega
    simp only [hneg, h, hn, if_false, false_and, false_or, true_and, Option.filter_eq_some_iff,
      ← hlow]

/-- A missing maximum is not below the minimum. -/
theorem max_eq_of_low {bound : IntegerLiteral} (hmax : (defaulted range min max).2 = some bound)
    (h : bound.value.toInt < (defaulted range min max).1.value.toInt ∨ bound.value.toInt < 1) :
    max = some bound := by
  cases min <;> cases max
  case none.none =>
    obtain rfl := Option.some.inj hmax
    rcases h with h | h <;> cases h
  all_goals exact hmax

theorem defaulted_some_max (min : Option IntegerLiteral) (max : IntegerLiteral) :
    (defaulted range min (some max)).2 = some max := by
  cases min <;> rfl

/-- The diagnostic of a faulty bound. -/
theorem refused_iff_of_faulty {bound : IntegerLiteral} {d : Diagnostic}
    (h : faultyBound (defaulted range min max).1 (defaulted range min max).2 = some bound) :
    Refused min max m d ↔ d = .located bound.range
      (.invalidCardinality (defaulted range min max).1.value
        ((defaulted range min max).2.map (·.value))) := by
  have hfaulty := faultyBound_eq_some_iff.1 h
  constructor
  · intro hd
    cases hd with
    | negative hmin hneg =>
      subst hmin
      rcases hfaulty with ⟨-, rfl⟩ | ⟨hn, -⟩
      · rfl
      · exact absurd hneg (Int.not_lt.2 hn)
    | low hmax hleast hmin hlow =>
      subst hmax
      rw [leastOf_eq, defaulted_some_max] at hfaulty
      rcases hfaulty with ⟨hneg, -⟩ | ⟨-, heq, -⟩
      · exact absurd hneg (Int.not_lt.2 hmin)
      · obtain rfl := Option.some.inj heq
        obtain rfl := Int64.toInt_inj.1 (hleast.trans (leastOf_eq range _ _).symm)
        rw [defaulted_some_max]
        rfl
    | noted hm hitems hleast hgreatest =>
      have hnone := (Build.faultyBound_eq_none_iff (defaulted range min max).1
        (defaulted range min max).2).2 (by rw [leastOf_eq, greatestOf_eq, hleast, hgreatest]; simp)
      rw [h] at hnone
      cases hnone
  · rintro rfl
    rcases hfaulty with ⟨hneg, rfl⟩ | ⟨hn, hmax, hlow⟩
    · -- a missing minimum is not negative
      cases min with
      | some min => exact .negative rfl hneg
      | none => cases max <;> cases hneg
    · obtain rfl := max_eq_of_low hmax hlow
      rw [leastOf_eq] at hn hlow
      rw [hmax]
      exact .low rfl (leastOf_eq range _ _) hn hlow

/-- Without a faulty bound, only metadata is refused. -/
theorem refused_iff_of_sound {d : Diagnostic}
    (h : faultyBound (defaulted range min max).1 (defaulted range min max).2 = none) :
    Refused min max m d ↔ (leastOf min max = 1 ∧ greatestOf min max = some 1) ∧
      ∃ block, m.bind Metadata.nonEmpty? = some block ∧
        d = .located block.range .metadataOnSingleElement := by
  constructor
  · intro hd
    have hfaulty : ∀ bound, faultyBound (defaulted range min max).1 (defaulted range min max).2 ≠
        some bound := by simp [h]
    cases hd with
    | negative hmin hneg =>
      subst hmin
      exact absurd (faultyBound_eq_some_iff.2 (.inl ⟨hneg, rfl⟩)) (hfaulty _)
    | low hmax hleast hmin hlow =>
      subst hmax
      rw [← leastOf_eq range] at hmin hlow
      exact absurd (faultyBound_eq_some_iff.2 (.inr ⟨hmin, defaulted_some_max _ _, hlow⟩))
        (hfaulty _)
    | noted hm hitems hleast hgreatest =>
      exact ⟨⟨hleast, hgreatest⟩, _, nonEmpty?_eq_some_iff.2 ⟨hm, hitems⟩, rfl⟩
  · rintro ⟨⟨hleast, hgreatest⟩, block, hblock, rfl⟩
    obtain ⟨hm, hitems⟩ := nonEmpty?_eq_some_iff.1 hblock
    exact .noted hm hitems hleast hgreatest

theorem create_eq_error_iff {d : Diagnostic} :
    create range min max m = .error d ↔ Refused min max m d := by
  rw [create]
  dsimp only
  cases hfaulty : faultyBound (defaulted range min max).1 (defaulted range min max).2 with
  | some bound => rw [refused_iff_of_faulty hfaulty, Except.error.injEq, eq_comm]
  | none =>
    have hsingle : leastOf min max = 1 ∧ greatestOf min max = some 1 ↔
        isSingle ⟨range, (defaulted range min max).1, (defaulted range min max).2,
          m.bind Metadata.nonEmpty?⟩ = true := by
      rw [isSingle_iff, ← leastOf_eq range, ← greatestOf_eq range]
      rfl
    rw [refused_iff_of_sound hfaulty, hsingle]
    dsimp only
    cases isSingle _ with
    | false => simp
    | true => cases m.bind Metadata.nonEmpty? <;> simp [eq_comm]

/-! ## Classes -/

/-- One class has the cardinality, and the named collections are collections. -/
structure Classified (c : Cardinality) : Prop where
  one : [c.isSingle, c.isOptional, c.isCollection].count true = 1
  zeroOrMore : c.isZeroOrMore = true → c.isCollection = true
  oneOrMore : c.isOneOrMore = true → c.isCollection = true

theorem isCollection_iff_greatest :
    c.isCollection = true ↔ ∀ g, c.greatest? = some g → 1 < g := by
  rw [isCollection_iff, greatest?]
  cases c.max <;> simp

theorem isCollection_of_none (h : c.greatest? = none) : c.isCollection = true :=
  isCollection_iff_greatest.2 (by simp [h])

/-- Two or more values at most make a collection, and nothing else. -/
theorem count_of_isCollection (h : c.isCollection = true) :
    [c.isSingle, c.isOptional, c.isCollection].count true = 1 := by
  have hgreatest : c.greatest? ≠ some 1 := by
    intro hone
    exact absurd (isCollection_iff_greatest.1 h 1 hone) (by decide)
  have hsingle : c.isSingle = false := by
    rw [← Bool.not_eq_true, isSingle_iff]
    exact fun h => hgreatest h.2
  have hoptional : c.isOptional = false := by
    rw [← Bool.not_eq_true, isOptional_iff]
    exact fun h => hgreatest h.2
  rw [hsingle, hoptional, h]
  rfl

/-- With one value at most, the least count tells the other two classes apart. -/
theorem count_of_greatest_one (hgreatest : c.greatest? = some 1) (hzero : 0 ≤ c.least)
    (hone : c.least ≤ 1) : [c.isSingle, c.isOptional, c.isCollection].count true = 1 := by
  have hmany : c.isCollection = false := by
    rw [← Bool.not_eq_true, isCollection_iff_greatest]
    exact fun h => absurd (h 1 hgreatest) (by decide)
  have hsingle : c.isSingle = decide (c.least = 1) := by
    rw [Bool.eq_iff_iff, isSingle_iff, decide_eq_true_eq]
    simp [hgreatest]
  have hoptional : c.isOptional = decide (c.least = 0) := by
    rw [Bool.eq_iff_iff, isOptional_iff, decide_eq_true_eq]
    simp [hgreatest]
  rw [hmany, hsingle, hoptional]
  rcases (show c.least = 0 ∨ c.least = 1 by omega) with h | h <;> rw [h] <;> rfl

/-- Bounds between which a count lies put a cardinality into one class. -/
theorem classified_of_bounds (hleast : 0 ≤ c.least)
    (hgreatest : ∀ g, c.greatest? = some g → c.least ≤ g ∧ 1 ≤ g) : c.Classified where
  one := by
    cases hmany : c.isCollection with
    | true => exact hmany ▸ count_of_isCollection hmany
    | false =>
      -- a cardinality that is no collection has a greatest count, and this is one
      obtain ⟨g, hg, hle⟩ : ∃ g, ∃ _ : c.greatest? = some g, ¬ 1 < g := by
        simpa only [ne_eq, isCollection_iff_greatest, not_forall] using Bool.eq_false_iff.1 hmany
      obtain ⟨hleg, hone⟩ := hgreatest g hg
      obtain rfl : g = 1 := by omega
      exact hmany ▸ count_of_greatest_one hg hleast hleg
  zeroOrMore h := isCollection_of_none (isZeroOrMore_iff.1 h).2
  oneOrMore h := isCollection_of_none (isOneOrMore_iff.1 h).2

theorem nonnegative_of_create (h : create range min max m = .ok c) : c.Nonnegative := by
  have hmeant := exists_create_iff.1 ⟨c, h⟩
  obtain ⟨hleast, hgreatest⟩ := bounds_of_create h
  constructor
  · rw [hleast]
    exact hmeant.least
  · intro g hg
    rw [hgreatest] at hg
    exact Int.le_trans (by decide) (hmeant.greatest g hg).2

theorem classified_of_create (h : create range min max m = .ok c) : c.Classified := by
  have hmeant := exists_create_iff.1 ⟨c, h⟩
  obtain ⟨hleast, hgreatest⟩ := bounds_of_create h
  refine classified_of_bounds (hleast ▸ hmeant.least) fun g hg => ?_
  rw [hleast]
  exact hmeant.greatest g (hgreatest ▸ hg)

/-- What makes a cardinality, what is refused instead and where, and of which class the cardinality
is. Its suffix tells it from every cardinality with other bounds. -/
theorem create_exact (range : Range) (min max : Option IntegerLiteral) (m : Option Metadata) :
    ((∃ c, create range min max m = .ok c) ↔
      0 ≤ leastOf min max ∧
      (∀ g, greatestOf min max = some g → leastOf min max ≤ g ∧ 1 ≤ g) ∧
      ¬ (leastOf min max = 1 ∧ greatestOf min max = some 1 ∧
        ∃ block, m = some block ∧ block.items ≠ [])) ∧
    (∀ d, create range min max m = .error d ↔ Refused min max m d) ∧
    ∀ c, create range min max m = .ok c →
      c.least = leastOf min max ∧ c.greatest? = greatestOf min max ∧ c.Classified ∧
      ∀ range' min' max' m' c', create range' min' max' m' = .ok c' →
        c'.bounds ≠ c.bounds → c'.suffix ≠ c.suffix := by
  refine ⟨?_, fun d => create_eq_error_iff, fun c hc => ?_⟩
  · rw [exists_create_iff]
    exact ⟨fun h => ⟨h.least, h.greatest, h.plain⟩, fun ⟨hleast, hgreatest, hplain⟩ =>
      ⟨hleast, hgreatest, hplain⟩⟩
  · obtain ⟨hleast, hgreatest⟩ := bounds_of_create hc
    refine ⟨hleast, hgreatest, classified_of_create hc, ?_⟩
    intro range' min' max' m' c' hc' hbounds hsuffix
    have hnonnegative := nonnegative_of_create hc'
    exact hbounds (hnonnegative.bounds_eq_of_suffix_eq (nonnegative_of_create hc) hsuffix)

/-- A bound at the start of a file. -/
def boundAtStart (value : Int64) : IntegerLiteral := ⟨Range.fileStart ⟨"orders.schema"⟩, value⟩

/-- The cardinality of two bounds at the start of a file. -/
def betweenAtStart (min max : Int64) : Cardinality :=
  ⟨Range.fileStart ⟨"orders.schema"⟩, boundAtStart min, some (boundAtStart max), none⟩

example : (betweenAtStart 2 5).suffix = "[2, 5]" := by decide

/-! ## Counts -/

/-- A count lies between the bounds. -/
def Within (c : Cardinality) (count : Nat) : Prop :=
  c.least ≤ count ∧ ∀ g, c.greatest? = some g → (count : Int) ≤ g

theorem accepts_iff_within (count : Nat) :
    c.accepts count = true ↔ c.Within (Min.min count countLimit) := by
  have h : c.accepts count = c.accepts (Min.min count countLimit) := by
    simp only [accepts, Nat.min_assoc, Nat.min_self]
  rw [h, accepts_iff (Nat.min_le_right _ _), Within, least, greatest?]
  cases c.max <;> simp

theorem toInt_le_countLimit (x : Int64) : x.toInt ≤ countLimit :=
  Int.le_trans x.toInt_le (by decide)

theorem greatest_le_countLimit {g : Int} (h : c.greatest? = some g) : g ≤ countLimit := by
  obtain ⟨max, -, rfl⟩ := Option.map_eq_some_iff.1 h
  exact toInt_le_countLimit max.value

/-- A count is compared as it should be, unless the maximum is the greatest bound and the count is
beyond it. -/
theorem accepts_iff_within_iff (c : Cardinality) (count : Nat) :
    (c.accepts count = true ↔ c.Within count) ↔
      ¬ (c.greatest? = some (countLimit : Int) ∧ countLimit < count) := by
  rw [accepts_iff_within]
  by_cases hcount : count ≤ countLimit
  · simp [Nat.min_eq_left hcount, Nat.not_lt.2 hcount]
  · have hbeyond : countLimit < count := Nat.not_le.1 hcount
    have hleast : c.least ≤ countLimit := toInt_le_countLimit c.min.value
    rw [Nat.min_eq_right hbeyond.le, Within, Within]
    cases hmax : c.greatest? with
    | none => simp [hleast]; omega
    | some g =>
      have hg := greatest_le_countLimit hmax
      simp [hleast, hbeyond]
      omega

/-- No end is set to the counts exactly if there is no maximum or if it is the greatest bound. -/
theorem finite_accepts_iff (c : Cardinality) :
    {count : Nat | c.accepts count = true}.Finite ↔
      ∃ g, c.greatest? = some g ∧ g ≠ countLimit := by
  constructor
  · intro hfinite
    by_contra hnone
    rw [not_exists] at hnone
    have hall : Set.Ici countLimit ⊆ {count : Nat | c.accepts count = true} := by
      intro count hcount
      refine (accepts_iff_within count).2 ?_
      rw [Nat.min_eq_right hcount]
      exact ⟨toInt_le_countLimit c.min.value, fun g hg =>
        (not_not.1 (not_and.1 (hnone g) hg)).ge⟩
    exact (Set.Ici_infinite countLimit).mono hall hfinite
  · rintro ⟨g, hg, hne⟩
    refine (Set.finite_Iic g.toNat).subset fun count hcount => ?_
    have hexact := (accepts_iff_within_iff c count).2 fun hlimit =>
      hne (Option.some.inj (hg.symm.trans hlimit.1))
    have hle := (hexact.1 hcount).2 g hg
    exact Int.le_toNat (by omega) |>.2 hle

/-- A cardinality that was made accepts the counts between its bounds and no others, unless its
maximum is the greatest bound; then it accepts every greater count, too. -/
theorem accepts_exact (h : create range min max m = .ok c) :
    (∀ count : UInt64, (c.accepts count.toNat = true ↔ c.Within count.toNat) ↔
      ¬ (c.greatest? = some (countLimit : Int) ∧ countLimit < count.toNat)) ∧
    (∃ count : UInt64, c.accepts count.toNat = true ∧ c.Within count.toNat) ∧
    ({count : Nat | c.accepts count = true}.Finite ↔
      ∃ g, c.greatest? = some g ∧ g ≠ countLimit) := by
  refine ⟨fun count => accepts_iff_within_iff c count.toNat, ?_, finite_accepts_iff c⟩
  obtain ⟨hleast, hgreatest, -⟩ := exists_create_iff.1 ⟨c, h⟩
  obtain ⟨hl, hg⟩ := bounds_of_create h
  rw [← hl] at hleast
  obtain ⟨n, hn⟩ := Int.eq_ofNat_of_zero_le hleast
  have hlimit : n ≤ countLimit := by
    have := toInt_le_countLimit c.min.value
    rw [show c.min.value.toInt = n from hn] at this
    omega
  have hcount : (UInt64.ofNat n).toNat = n := by
    refine UInt64.toNat_ofNat_of_lt' (Nat.lt_of_le_of_lt hlimit ?_)
    decide
  -- the minimum is between the bounds, and no greater than any count that is compared as it is
  have hwithin : c.Within n := by
    refine ⟨hn.le, fun g hmax => ?_⟩
    rw [← hn, hl]
    exact (hgreatest g (hg ▸ hmax)).1
  refine ⟨UInt64.ofNat n, ?_, hcount.symm ▸ hwithin⟩
  rw [hcount, accepts_iff_within, Nat.min_eq_left hlimit]
  exact hwithin

/-- From three to five orders are accepted, and no others. -/
theorem accepts_exact_threeToFive :
    create (Range.fileStart ⟨"orders.schema"⟩) (some (boundAtStart 3)) (some (boundAtStart 5)) none =
      .ok (betweenAtStart 3 5) ∧
    (∀ count : UInt64, (betweenAtStart 3 5).accepts count.toNat = true ↔
      (betweenAtStart 3 5).Within count.toNat) ∧
    {count : Nat | (betweenAtStart 3 5).accepts count = true}.Finite := by
  have hcreate : create (Range.fileStart ⟨"orders.schema"⟩) (some (boundAtStart 3))
      (some (boundAtStart 5)) none = .ok (betweenAtStart 3 5) := rfl
  obtain ⟨hexact, -, hfinite⟩ := accepts_exact hcreate
  have hne : (5 : Int) ≠ countLimit := by decide
  refine ⟨hcreate, fun count => (hexact count).2 fun h => hne (Option.some.inj h.1), ?_⟩
  exact hfinite.2 ⟨5, rfl, hne⟩

/-- The greatest bound accepts a count that is greater than it. -/
theorem not_within_of_accepts_widest :
    create (Range.fileStart ⟨"orders.schema"⟩) (some (boundAtStart 0))
      (some (boundAtStart 9223372036854775807)) none =
        .ok (betweenAtStart 0 9223372036854775807) ∧
    (betweenAtStart 0 9223372036854775807).accepts (9223372036854775808 : UInt64).toNat = true ∧
    ¬ (betweenAtStart 0 9223372036854775807).Within (9223372036854775808 : UInt64).toNat := by
  refine ⟨rfl, rfl, fun h => ?_⟩
  exact absurd (h.2 9223372036854775807 rfl) (by decide)

end Cardinality
end Schemata
