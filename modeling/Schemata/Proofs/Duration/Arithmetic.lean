import Schemata.Proofs.Duration.Notation
import Mathlib.Algebra.Group.Int.Defs

/-!
# Durations in numbers of fixed width

A text is read once more with numbers of 64 bits, one operation after the other. Those whose results
may be too large are checked, and refuse the text; the others are not checked, and they never
overflow.

Results:
* `Duration.stepwise_eq`: reading stepwise is reading, so no operation overflows.
* `Duration.read_exact`: which texts are read and as what, without an overflow.
-/
namespace Schemata
namespace Duration

/-! ## Numbers of fixed width -/

/-- How a computation with numbers of fixed width stops. -/
inductive Halt where
  /-- The text is refused. -/
  | refused (fault : Fault)
  /-- A result that is not checked is too large for its width. -/
  | overflow
  deriving DecidableEq, Repr

/-- The result of an operation, if it lies in the range of its width. -/
def fit (low high : Int) (halt : Halt) (n : Int) : Except Halt Int :=
  if low ≤ n ∧ n ≤ high then .ok n else .error halt

/-- The result of a checked operation in 64 bits; a text whose value gets too large is refused. -/
def checked (n : Int) : Except Halt Int := fit (-2 ^ 63) (2 ^ 63 - 1) (.refused .outOfRange) n

/-- The result of an operation in 64 bits that nothing checks. -/
def unchecked (n : Int) : Except Halt Int := fit (-2 ^ 63) (2 ^ 63 - 1) .overflow n

/-- A part of the reading that does not compute. -/
def refusing {α : Type} (reading : Except Fault α) : Except Halt α := reading.mapError .refused

/-- A reading that computes with unbounded numbers. -/
def unbounded (reading : Except Fault Nat) : Except Halt Int :=
  (refusing reading).map fun n => (n : Int)

/-- Reads the fraction of a second. The power has an unsigned exponent of 32 bits. -/
def stepwiseFraction : Option (List Char) → Except Halt Int
  | none => .ok 0
  | some cs =>
    if byteLength cs ≤ 6 then do
      let n ← refusing (readPart .fraction cs)
      let places ← fit 0 (2 ^ 32 - 1) .overflow (6 - byteLength cs)
      let scale ← unchecked (10 ^ places.toNat)
      unchecked (n * scale)
    else .error (.refused .fractionTooLong)

/-- The microseconds of the parts together, one operation after the other. -/
def stepwiseTotal (days hours minutes seconds fraction : Int) : Except Halt Int := do
  let total ← checked (days * 86400)
  let inDay ← checked (hours * 3600)
  let total ← checked (total + inDay)
  let inHour ← unchecked (minutes * 60)
  let inHour ← unchecked (inHour + seconds)
  let total ← checked (total + inHour)
  let total ← checked (total * 1000000)
  checked (total + fraction)

/-- Reads the parts of a text, with every operation in its width. -/
def stepwiseParts (days : Option (List Char)) (hours minutes seconds : List Char)
    (fraction : Option (List Char)) : Except Halt Int := do
  let days ← refusing (readDays days)
  let hours ← refusing (readPart .hours hours)
  let (minutes, seconds) ← refusing (readSixtieths minutes seconds)
  let fraction ← stepwiseFraction fraction
  stepwiseTotal days hours minutes seconds fraction

/-- Reads a duration, in microseconds, with every operation in its width. -/
def stepwise (s : String) : Except Halt Int :=
  match splitOn ':' (splitFraction (splitDays s.toList).2).1 with
  | [hours, minutes, seconds] =>
    stepwiseParts (splitDays s.toList).1 hours minutes seconds
      (splitFraction (splitDays s.toList).2).2
  | _ => .error (.refused .shape)

theorem refusing_ok {α : Type} (a : α) : refusing (.ok a) = .ok a := rfl

theorem unbounded_ok (n : Nat) : unbounded (.ok n) = .ok (n : Int) := rfl

section Steps

variable {n : Int} {next : Int → Except Halt Int}

theorem fit_bind {low high : Int} {halt : Halt} (h : low ≤ n ∧ n ≤ high) :
    (fit low high halt n >>= next) = next n := by
  rw [fit, if_pos h]
  rfl

theorem checked_bind (h : -2 ^ 63 ≤ n ∧ n ≤ 2 ^ 63 - 1) : (checked n >>= next) = next n :=
  fit_bind h

theorem unchecked_bind (h : -2 ^ 63 ≤ n ∧ n ≤ 2 ^ 63 - 1) : (unchecked n >>= next) = next n :=
  fit_bind h

/-- A text whose value gets too large later is refused, whether or not this result fits. -/
theorem checked_bind_of_outOfRange (h : next n = .error (.refused .outOfRange)) :
    (checked n >>= next) = .error (.refused .outOfRange) := by
  unfold checked fit
  split
  · exact h
  · rfl

end Steps

/-- Of the operations on the parts only checked ones can have a result that does not fit. -/
theorem stepwiseTotal_eq {days hours minutes seconds fraction : Nat} (hm : minutes < 60)
    (hs : seconds < 60) :
    stepwiseTotal days hours minutes seconds fraction =
      unbounded (withinLimit ((days * 86400 + hours * 3600 + minutes * 60 + seconds) * 1000000 +
        fraction)) := by
  have hlimit : limit = 2 ^ 63 - 1 := rfl
  unfold stepwiseTotal withinLimit
  split
  case isTrue hlarge =>
    rw [hlimit] at hlarge
    refine checked_bind_of_outOfRange (checked_bind_of_outOfRange (checked_bind_of_outOfRange ?_))
    rw [unchecked_bind (by omega), unchecked_bind (by omega)]
    refine checked_bind_of_outOfRange (checked_bind_of_outOfRange ?_)
    exact if_neg (by omega)
  case isFalse hsmall =>
    rw [hlimit] at hsmall
    rw [checked_bind (by omega), checked_bind (by omega), checked_bind (by omega),
      unchecked_bind (by omega), unchecked_bind (by omega), checked_bind (by omega),
      checked_bind (by omega), checked, fit, if_pos (by omega)]
    rw [unbounded_ok]
    exact congrArg Except.ok (by omega)

theorem stepwiseFraction_eq (fraction : Option (List Char)) :
    stepwiseFraction fraction = unbounded (readFraction fraction) := by
  cases fraction with
  | none => rfl
  | some ds =>
    unfold stepwiseFraction readFraction
    dsimp only
    split
    case isTrue hbytes =>
      cases hn : readPart .fraction ds with
      | error f => rfl
      | ok n =>
        obtain ⟨hdigits, -⟩ := (accepts_readPart .fraction ds).ok_iff.1 ⟨n, hn⟩
        obtain rfl := (accepts_readPart .fraction ds).of_ok n hn
        have hplaces : (6 - byteLength ds : Int) = (6 - byteLength ds : Nat) := by omega
        have hpow : 10 ^ (6 - byteLength ds) ≤ 10 ^ 6 :=
          Nat.pow_le_pow_right (by decide) (Nat.sub_le _ _)
        have hvalue : digitsValue ds * 10 ^ (6 - byteLength ds) < 1000000 := by
          rw [byteLength_digits hdigits.isDigit] at hbytes ⊢
          have hparts : ∀ cs ∈ some ds, IsDigits cs ∧ cs.length ≤ 6 := by simp [hdigits, hbytes]
          exact fractionValue_lt hparts
        change (fit 0 (2 ^ 32 - 1) .overflow (6 - byteLength ds) >>= fun places =>
          unchecked (10 ^ places.toNat) >>= fun scale => unchecked (digitsValue ds * scale)) =
            .ok (digitsValue ds * 10 ^ (6 - byteLength ds) : Nat)
        have hscale : (10 : Int) ^ (6 - byteLength ds) = (10 ^ (6 - byteLength ds) : Nat) := by simp
        rw [fit_bind (by omega), hplaces, Int.toNat_natCast, hscale]
        generalize 10 ^ (6 - byteLength ds) = scale at hpow hvalue ⊢
        rw [unchecked_bind (by omega), ← Int.natCast_mul]
        exact if_pos (by omega)
    case isFalse hbytes => rfl

/-- No unchecked operation on the parts of a text overflows. -/
theorem stepwiseParts_eq (days : Option (List Char)) (hours minutes seconds : List Char)
    (fraction : Option (List Char)) :
    stepwiseParts days hours minutes seconds fraction =
      unbounded (readParts days hours minutes seconds fraction) := by
  unfold stepwiseParts readParts
  rw [stepwiseFraction_eq]
  cases readDays days with
  | error f => rfl
  | ok days =>
    rw [refusing_ok, ok_bind, ok_bind]
    cases readPart .hours hours with
    | error f => rfl
    | ok hours =>
      rw [refusing_ok, ok_bind, ok_bind]
      cases hsixtieths : readSixtieths minutes seconds with
      | error f => rfl
      | ok sixtieths =>
        have hread := accepts_readSixtieths minutes seconds
        obtain ⟨hm, hs⟩ := hread.ok_iff.1 ⟨_, hsixtieths⟩
        obtain rfl := hread.of_ok _ hsixtieths
        rw [refusing_ok, ok_bind, ok_bind]
        dsimp only
        cases readFraction fraction with
        | error f => rfl
        | ok fraction =>
          rw [unbounded_ok, ok_bind, ok_bind]
          exact stepwiseTotal_eq hm.value_lt hs.value_lt

/-- Every operation on numbers of fixed width has a result that fits, unless it is a checked one. -/
theorem stepwise_eq (s : String) :
    stepwise s = unbounded (readMicroseconds s) := by
  rw [readMicroseconds_eq]
  unfold stepwise
  rcases splitOn ':' _ with _ | ⟨hours, _ | ⟨minutes, _ | ⟨seconds, _ | ⟨_, _⟩⟩⟩⟩
  case cons.cons.cons.nil => exact stepwiseParts_eq ..
  all_goals rfl

/-- A text is read exactly if it is a written duration of at most 2^63 - 1 microseconds, and it is
read as just as many; no operation on the way overflows. -/
theorem read_exact (s : String) :
    (∀ d, read s = .ok d ↔ ∃ w : Written, s.toList = w.chars ∧ w.microseconds ≤ 2 ^ 63 - 1 ∧
      d = ofMicroseconds w.microseconds) ∧
    stepwise s ≠ .error .overflow ∧
    stepwise s = unbounded (readMicroseconds s) := by
  refine ⟨fun d => ?_, ?_, stepwise_eq s⟩
  · rw [read_eq_ok_iff]
    constructor
    · rintro ⟨n, hn, rfl⟩
      obtain ⟨w, hw, hlimit, rfl⟩ := readMicroseconds_eq_ok_iff.1 hn
      exact ⟨w, hw, hlimit, rfl⟩
    · rintro ⟨w, hw, hlimit, rfl⟩
      exact ⟨_, readMicroseconds_eq_ok_iff.2 ⟨w, hw, hlimit, rfl⟩, rfl⟩
  · rw [stepwise_eq]
    cases readMicroseconds s <;> exact nofun

-- the first point belongs to the days only if a colon follows it
example : read "1.2:03:04.5" = .ok (ofMicroseconds 93784500000) := rfl

end Duration
end Schemata
