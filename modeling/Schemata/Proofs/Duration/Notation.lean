import Schemata.Duration
import Schemata.Outcome
import Schemata.Proofs.Text.Digits

/-!
# Written durations

The texts that are read as durations are exactly those of the form `[D.]H:MM:SS[.f]` whose value
fits 64 bits. What a point means depends on whether a colon follows it: days stand before colons,
and a fraction does not.

Results:
* `Duration.accepts_readParts`: which parts are read, and what they stand for together.
* `Duration.Written.split`: the parts of a written duration are found in its text.
* `Duration.readMicroseconds_eq_ok_iff`: which texts are read, and as what.
-/
namespace Schemata
namespace Duration

/-! ## The notation -/

/-- Two digits below 60. -/
structure IsSixtieth (cs : List Char) : Prop extends IsDigits cs where
  length_eq : cs.length = 2
  value_lt : digitsValue cs < 60

/-- A duration as it is written: the digits of its parts. -/
structure Written where
  /-- The days, if they are stated. -/
  days : Option (List Char)
  hours : List Char
  minutes : List Char
  seconds : List Char
  /-- The digits behind the second point, if there are any. -/
  fraction : Option (List Char)
  days_digits : ∀ ds ∈ days, IsDigits ds
  hours_digits : IsDigits hours
  minutes_sixtieth : IsSixtieth minutes
  seconds_sixtieth : IsSixtieth seconds
  fraction_digits : ∀ ds ∈ fraction, IsDigits ds ∧ ds.length ≤ 6

/-- The text `[D.]H:MM:SS[.f]` with the given parts. -/
def assemble (days : Option (List Char)) (hours minutes seconds : List Char)
    (fraction : Option (List Char)) : List Char :=
  days.elim [] (· ++ ['.']) ++ List.intercalate [':'] [hours, minutes, seconds] ++
    fraction.elim [] ('.' :: ·)

/-- The microseconds that the digits of a fraction stand for. -/
def fractionValue (fraction : Option (List Char)) : Nat :=
  fraction.elim 0 fun ds => digitsValue ds * 10 ^ (6 - ds.length)

/-- The microseconds that the parts stand for together. -/
def total (days : Option (List Char)) (hours minutes seconds : List Char)
    (fraction : Option (List Char)) : Nat :=
  (days.elim 0 digitsValue * 86400 + digitsValue hours * 3600 + digitsValue minutes * 60 +
    digitsValue seconds) * 1000000 + fractionValue fraction

namespace Written

/-- The duration as text. -/
def chars (w : Written) : List Char := assemble w.days w.hours w.minutes w.seconds w.fraction

/-- The duration in microseconds. -/
def microseconds (w : Written) : Nat := total w.days w.hours w.minutes w.seconds w.fraction

end Written

/-! ## Reading the parts -/

/-- Reads the days, which may be missing. -/
def readDays (days : Option (List Char)) : Except Fault Nat :=
  days.elim (.ok 0) (readPart .days)

/-- Reads the minutes and seconds. -/
def readSixtieths (minutes seconds : List Char) : Except Fault (Nat × Nat) :=
  if byteLength minutes ≠ 2 ∨ byteLength seconds ≠ 2 then .error .notTwoDigits
  else do
    let minutes ← readPart .minutes minutes
    let seconds ← readPart .seconds seconds
    if 59 < minutes ∨ 59 < seconds then .error .notBelowSixty else .ok (minutes, seconds)

/-- A number of microseconds, if it fits 64 bits. -/
def withinLimit (microseconds : Nat) : Except Fault Nat :=
  if limit < microseconds then .error .outOfRange else .ok microseconds

/-- What the parts of a text are read as. -/
def readParts (days : Option (List Char)) (hours minutes seconds : List Char)
    (fraction : Option (List Char)) : Except Fault Nat := do
  let days ← readDays days
  let hours ← readPart .hours hours
  let (minutes, seconds) ← readSixtieths minutes seconds
  let fraction ← readFraction fraction
  withinLimit ((days * 86400 + hours * 3600 + minutes * 60 + seconds) * 1000000 + fraction)

/-- The text is taken apart at its marks, and then its parts are read. -/
theorem readMicroseconds_eq (s : String) :
    readMicroseconds s =
      match splitOn ':' (splitFraction (splitDays s.toList).2).1 with
      | [hours, minutes, seconds] =>
        readParts (splitDays s.toList).1 hours minutes seconds
          (splitFraction (splitDays s.toList).2).2
      | _ => .error .shape := by
  unfold readMicroseconds
  obtain ⟨days, rest⟩ := splitDays s.toList
  dsimp only
  obtain ⟨clock, fraction⟩ := splitFraction rest
  dsimp only
  rcases splitOn ':' clock with _ | ⟨hours, _ | ⟨minutes, _ | ⟨seconds, _ | ⟨_, _⟩⟩⟩⟩ <;> try rfl
  -- the two cases differ in how the days come about, and in nothing behind that
  cases days
  all_goals
    refine bind_congr fun days => bind_congr fun hours => ?_
    unfold readSixtieths withinLimit
    split
    · rfl
    · rw [bind_assoc]
      refine bind_congr fun minutes => ?_
      rw [bind_assoc]
      refine bind_congr fun seconds => ?_
      split
      · rfl
      · refine bind_congr fun fraction => ?_
        split <;> rfl

theorem accepts_readPart (part : Part) (cs : List Char) :
    Accepts (readPart part cs) (IsDigits cs ∧ digitsValue cs ≤ limit) (· = digitsValue cs) := by
  unfold readPart
  split
  case isTrue h => exact accepts_error fun hd => isDigits_iff.1 hd.1 h
  case isFalse h =>
    split
    case isTrue hlarge => exact accepts_error fun hd => Nat.not_le.2 hlarge hd.2
    case isFalse hsmall => exact accepts_ok ⟨isDigits_iff.2 h, Nat.not_lt.1 hsmall⟩ rfl

theorem accepts_readDays (days : Option (List Char)) :
    Accepts (readDays days) (∀ ds ∈ days, IsDigits ds ∧ digitsValue ds ≤ limit)
      (· = days.elim 0 digitsValue) := by
  cases days with
  | none => exact accepts_ok nofun rfl
  | some ds => exact (accepts_readPart .days ds).congr (by simp)

theorem isSixtieth_iff {cs : List Char} :
    IsSixtieth cs ↔ byteLength cs = 2 ∧ IsDigits cs ∧ digitsValue cs < 60 := by
  constructor
  · intro h
    exact ⟨(byteLength_digits h.isDigit).trans h.length_eq, h.toIsDigits, h.value_lt⟩
  · rintro ⟨hlength, hdigits, hvalue⟩
    exact ⟨hdigits, (byteLength_digits hdigits.isDigit).symm.trans hlength, hvalue⟩

theorem accepts_readSixtieths (minutes seconds : List Char) :
    Accepts (readSixtieths minutes seconds) (IsSixtieth minutes ∧ IsSixtieth seconds)
      (· = (digitsValue minutes, digitsValue seconds)) := by
  unfold readSixtieths
  split
  case isTrue hlength =>
    refine accepts_error fun h => ?_
    rcases hlength with hlength | hlength
    · exact hlength (isSixtieth_iff.1 h.1).1
    · exact hlength (isSixtieth_iff.1 h.2).1
  case isFalse hlength =>
    rw [not_or, Decidable.not_not, Decidable.not_not] at hlength
    have hcheck : Accepts (if 59 < digitsValue minutes ∨ 59 < digitsValue seconds
          then .error .notBelowSixty else .ok (digitsValue minutes, digitsValue seconds) :
          Except Fault (Nat × Nat))
        (digitsValue minutes < 60 ∧ digitsValue seconds < 60)
        (· = (digitsValue minutes, digitsValue seconds)) := by
      split
      case isTrue h => exact accepts_error (by omega)
      case isFalse h => exact accepts_ok (by omega) rfl
    have hread : Accepts (do
        let m ← readPart .minutes minutes
        let s ← readPart .seconds seconds
        if 59 < m ∨ 59 < s then .error .notBelowSixty else .ok (m, s)) _ _ :=
      (accepts_readPart .minutes minutes).bind fun m hm =>
        (accepts_readPart .seconds seconds).bind fun s hs => by
          subst hm hs
          exact hcheck
    refine hread.congr ⟨?_, ?_⟩
    · rintro ⟨⟨hm, -⟩, ⟨hs, -⟩, hm', hs'⟩
      exact ⟨isSixtieth_iff.2 ⟨hlength.1, hm, hm'⟩, isSixtieth_iff.2 ⟨hlength.2, hs, hs'⟩⟩
    · have hsmall : ∀ {n : Nat}, n < 60 → n ≤ limit :=
        fun h => Nat.le_trans (Nat.le_of_lt h) (by decide)
      rintro ⟨hm, hs⟩
      exact ⟨⟨hm.toIsDigits, hsmall hm.value_lt⟩, ⟨hs.toIsDigits, hsmall hs.value_lt⟩,
        hm.value_lt, hs.value_lt⟩

theorem fractionValue_lt {fraction : Option (List Char)}
    (h : ∀ ds ∈ fraction, IsDigits ds ∧ ds.length ≤ 6) : fractionValue fraction < 1000000 := by
  cases fraction with
  | none => decide
  | some ds =>
    obtain ⟨hds, hlength⟩ := h ds rfl
    calc
      digitsValue ds * 10 ^ (6 - ds.length) < 10 ^ ds.length * 10 ^ (6 - ds.length) :=
        Nat.mul_lt_mul_of_pos_right (digitsValue_lt hds.isDigit) (Nat.pow_pos (by decide))
      _ = 10 ^ (ds.length + (6 - ds.length)) := (Nat.pow_add ..).symm
      _ = 10 ^ 6 := by rw [Nat.add_sub_cancel' hlength]
      _ = 1000000 := rfl

theorem accepts_readFraction (fraction : Option (List Char)) :
    Accepts (readFraction fraction) (∀ ds ∈ fraction, IsDigits ds ∧ ds.length ≤ 6)
      (· = fractionValue fraction) := by
  cases fraction with
  | none => exact accepts_ok nofun rfl
  | some ds =>
    unfold readFraction
    simp only [Option.mem_some_iff, forall_eq']
    split
    case isTrue hbytes =>
      have hread : Accepts ((readPart .fraction ds).map (· * 10 ^ (6 - byteLength ds))) _
          (· = fractionValue (some ds)) :=
        (accepts_readPart .fraction ds).and_of_ok.map fun n hn => by
          rw [hn.2, byteLength_digits hn.1.1.isDigit]
          rfl
      refine hread.congr ⟨fun h => ?_, fun h => ?_⟩
      · exact ⟨h.1, byteLength_digits h.1.isDigit ▸ hbytes⟩
      · have hvalue := digitsValue_lt h.1.isDigit
        have hpow : 10 ^ ds.length ≤ 10 ^ 6 := Nat.pow_le_pow_right (by decide) h.2
        exact ⟨h.1, Nat.le_trans (Nat.le_of_lt hvalue) (Nat.le_trans hpow (by decide))⟩
    case isFalse hbytes =>
      exact accepts_error fun h => hbytes (byteLength_digits h.1.isDigit ▸ h.2)

theorem accepts_withinLimit (n : Nat) : Accepts (withinLimit n) (n ≤ limit) (· = n) := by
  unfold withinLimit
  split
  case isTrue h => exact accepts_error (Nat.not_le.2 h)
  case isFalse h => exact accepts_ok (Nat.not_lt.1 h) rfl

/-- Parts are read if they are digits as the notation has them, and their value fits. -/
theorem accepts_readParts (days : Option (List Char)) (hours minutes seconds : List Char)
    (fraction : Option (List Char)) :
    Accepts (readParts days hours minutes seconds fraction)
      (((∀ ds ∈ days, IsDigits ds) ∧ IsDigits hours ∧ (IsSixtieth minutes ∧ IsSixtieth seconds) ∧
        ∀ ds ∈ fraction, IsDigits ds ∧ ds.length ≤ 6) ∧
        total days hours minutes seconds fraction ≤ limit)
      (· = total days hours minutes seconds fraction) := by
  have hread := (accepts_readDays days).bind fun d hd =>
    (accepts_readPart .hours hours).bind fun h hh =>
      (accepts_readSixtieths minutes seconds).bind fun ms hms =>
        (accepts_readFraction fraction).bind fun f hf =>
          show Accepts (withinLimit ((d * 86400 + h * 3600 + ms.1 * 60 + ms.2) * 1000000 + f))
            (total days hours minutes seconds fraction ≤ limit)
            (· = total days hours minutes seconds fraction) by
          subst hd hh hms hf
          exact accepts_withinLimit _
  refine hread.congr ⟨?_, ?_⟩
  · rintro ⟨hd, hh, hms, hf, htotal⟩
    exact ⟨⟨fun ds hds => (hd ds hds).1, hh.1, hms, hf⟩, htotal⟩
  · -- no part alone exceeds the total
    rintro ⟨⟨hd, hh, hms, hf⟩, htotal⟩
    refine ⟨fun ds hds => ⟨hd ds hds, ?_⟩, ⟨hh, ?_⟩, hms, hf, htotal⟩
    · rw [Option.mem_def] at hds
      subst hds
      simp only [total, Option.elim] at htotal
      omega
    · simp only [total] at htotal
      omega

/-! ## Taking a text apart -/

/-- What is taken apart at the first point makes up the text. -/
theorem splitDays_join (cs : List Char) :
    (splitDays cs).1.elim [] (· ++ ['.']) ++ (splitDays cs).2 = cs := by
  unfold splitDays
  cases h : splitFirst '.' cs with
  | none => rfl
  | some parts =>
    obtain ⟨days, rest⟩ := parts
    dsimp only
    split
    · simpa using (splitFirst_eq_some_iff.1 h).1.symm
    · rfl

theorem splitFraction_join (cs : List Char) :
    (splitFraction cs).1 ++ (splitFraction cs).2.elim [] ('.' :: ·) = cs := by
  unfold splitFraction
  cases h : splitFirst '.' cs with
  | none => exact List.append_nil cs
  | some parts => exact (splitFirst_eq_some_iff.1 h).1.symm

theorem splitFraction_eq {clock : List Char} {fraction : Option (List Char)} (h : '.' ∉ clock) :
    splitFraction (clock ++ fraction.elim [] ('.' :: ·)) = (clock, fraction) := by
  unfold splitFraction
  cases fraction with
  | none => simp [splitFirst_eq_none_iff.2 h]
  | some ds => simp [splitFirst_eq_some_iff.2 ⟨rfl, h⟩]

/-- A point is that of the days if colons follow it, and that of the fraction if they do not. -/
theorem splitDays_eq {days fraction : Option (List Char)} {clock : List Char}
    (hdays : ∀ ds ∈ days, '.' ∉ ds) (hpoint : '.' ∉ clock) (hcolon : ':' ∈ clock)
    (hfraction : ∀ ds ∈ fraction, ':' ∉ ds) :
    splitDays (days.elim [] (· ++ ['.']) ++ (clock ++ fraction.elim [] ('.' :: ·))) =
      (days, clock ++ fraction.elim [] ('.' :: ·)) := by
  unfold splitDays
  cases days with
  | some ds =>
    have hsplit : splitFirst '.' (ds ++ '.' :: (clock ++ fraction.elim [] ('.' :: ·))) =
        some (ds, clock ++ fraction.elim [] ('.' :: ·)) :=
      splitFirst_eq_some_iff.2 ⟨rfl, hdays ds rfl⟩
    simp [hsplit, hcolon]
  | none =>
    cases fraction with
    | none => simp [splitFirst_eq_none_iff.2 hpoint]
    | some ds => simp [splitFirst_eq_some_iff.2 ⟨rfl, hpoint⟩, hfraction ds rfl]

/-- The parts of a written duration are found in its text. -/
theorem Written.split (w : Written) :
    (splitDays w.chars).1 = w.days ∧
      splitFraction (splitDays w.chars).2 =
        (List.intercalate [':'] [w.hours, w.minutes, w.seconds], w.fraction) ∧
      splitOn ':' (List.intercalate [':'] [w.hours, w.minutes, w.seconds]) =
        [w.hours, w.minutes, w.seconds] := by
  have hpoint : ∀ {ds : List Char}, IsDigits ds → '.' ∉ ds := fun h =>
    not_mem_of_isDigit h.isDigit rfl
  have hcolon : ∀ {ds : List Char}, IsDigits ds → ':' ∉ ds := fun h =>
    not_mem_of_isDigit h.isDigit rfl
  have hclock : '.' ∉ List.intercalate [':'] [w.hours, w.minutes, w.seconds] := by
    simp [List.intercalate, hpoint w.hours_digits, hpoint w.minutes_sixtieth.toIsDigits,
      hpoint w.seconds_sixtieth.toIsDigits]
  have hdays : splitDays w.chars = (w.days,
      List.intercalate [':'] [w.hours, w.minutes, w.seconds] ++ w.fraction.elim [] ('.' :: ·)) := by
    rw [chars, assemble, List.append_assoc]
    exact splitDays_eq (fun ds hds => hpoint (w.days_digits ds hds)) hclock
      (by simp [List.intercalate]) fun ds hds => hcolon (w.fraction_digits ds hds).1
  refine ⟨congrArg Prod.fst hdays, ?_, ?_⟩
  · rw [hdays]
    exact splitFraction_eq hclock
  · refine splitOn_intercalate (List.cons_ne_nil _ _) ?_
    simp [hcolon w.hours_digits, hcolon w.minutes_sixtieth.toIsDigits,
      hcolon w.seconds_sixtieth.toIsDigits]

/-- The texts that are read are the written durations whose value fits 64 bits. -/
theorem readMicroseconds_eq_ok_iff {s : String} {n : Nat} :
    readMicroseconds s = .ok n ↔
      ∃ w : Written, s.toList = w.chars ∧ w.microseconds ≤ limit ∧ n = w.microseconds := by
  rw [readMicroseconds_eq]
  constructor
  · intro h
    split at h
    case h_1 hours minutes seconds hclock =>
      have hread := accepts_readParts (splitDays s.toList).1 hours minutes seconds
        (splitFraction (splitDays s.toList).2).2
      obtain ⟨⟨hdays, hhours, hsixtieths, hfraction⟩, htotal⟩ := hread.ok_iff.1 ⟨n, h⟩
      have hjoin : s.toList = assemble (splitDays s.toList).1 hours minutes seconds
          (splitFraction (splitDays s.toList).2).2 := by
        rw [assemble, (splitOn_eq_iff.1 hclock).2.1, List.append_assoc, splitFraction_join,
          splitDays_join]
      exact ⟨⟨_, hours, minutes, seconds, _, hdays, hhours, hsixtieths.1, hsixtieths.2, hfraction⟩,
        hjoin, htotal, hread.of_ok n h⟩
    case h_2 => cases h
  · rintro ⟨w, hs, htotal, rfl⟩
    obtain ⟨hdays, hfraction, hclock⟩ := w.split
    have hread := accepts_readParts w.days w.hours w.minutes w.seconds w.fraction
    obtain ⟨n, hn⟩ := hread.ok_iff.2 ⟨⟨w.days_digits, w.hours_digits,
      ⟨w.minutes_sixtieth, w.seconds_sixtieth⟩, w.fraction_digits⟩, htotal⟩
    rw [hs, hfraction, hclock, hdays]
    exact hn.trans (congrArg Except.ok (hread.of_ok n hn))

theorem read_eq_ok_iff {s : String} {d : Duration} :
    read s = .ok d ↔ ∃ n, readMicroseconds s = .ok n ∧ d = ofMicroseconds n := by
  unfold read
  cases readMicroseconds s with
  | error f => exact ⟨nofun, nofun⟩
  | ok n =>
    constructor
    · intro h
      exact ⟨n, rfl, (Except.ok.inj h).symm⟩
    · rintro ⟨_, hn, rfl⟩
      cases hn
      rfl

end Duration
end Schemata
