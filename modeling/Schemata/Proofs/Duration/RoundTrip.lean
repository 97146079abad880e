import Schemata.Proofs.Duration.Notation

/-!
# Durations are read back

A duration that is not negative is written in one way among those in which it can be read: with its
days and its fraction only if they are not zero, and with as few digits of the hours as there are.

Results:
* `Duration.canonical_chars`, `Duration.canonical_microseconds`: how a duration is written.
* `Duration.read_text`: every number of microseconds that fits 64 bits is read back.
* `Duration.roundTrip`: what is read and written again stands for the same duration.
-/
namespace Schemata
namespace Duration

theorem isSixtieth_padded {n : Nat} (h : n < 60) : IsSixtieth (padded 2 n) where
  toIsDigits := isDigits_padded 2 n
  length_eq := length_padded (by decide) (by omega)
  value_lt := by rwa [digitsValue_padded]

/-- The parts with which so many microseconds are written. -/
def canonical (n : Nat) : Written where
  days := if 0 < n / 86400000000 then some (Nat.toDigits 10 (n / 86400000000)) else none
  hours := Nat.toDigits 10 (n / 1000000 % 86400 / 3600)
  minutes := padded 2 (n / 1000000 % 3600 / 60)
  seconds := padded 2 (n / 1000000 % 60)
  fraction := if 0 < n % 1000000 then some (padded 6 (n % 1000000)) else none
  days_digits := by
    intro ds hds
    obtain ⟨-, hds⟩ := Option.ite_none_right_eq_some.1 hds
    cases hds
    exact isDigits_toDigits _
  hours_digits := isDigits_toDigits _
  minutes_sixtieth := isSixtieth_padded (by omega)
  seconds_sixtieth := isSixtieth_padded (by omega)
  fraction_digits := by
    intro ds hds
    obtain ⟨-, hds⟩ := Option.ite_none_right_eq_some.1 hds
    cases hds
    exact ⟨isDigits_padded .., Nat.le_of_eq (length_padded (by decide) (by omega))⟩

theorem canonical_chars (n : Nat) : (canonical n).chars = magnitudeText (n * 1000) := by
  have hseconds : n * 1000 / 1000000000 = n / 1000000 := by omega
  have hmicros : n * 1000 % 1000000000 / 1000 = n % 1000000 := by omega
  have hdays : n / 1000000 / 86400 = n / 86400000000 := by omega
  have hday : (canonical n).days.elim [] (· ++ ['.']) = if 0 < n / 86400000000
      then Nat.toDigits 10 (n / 86400000000) ++ ['.'] else [] := by
    dsimp only [canonical]
    split <;> rfl
  have hfraction : (canonical n).fraction.elim [] ('.' :: ·) =
      if 0 < n % 1000000 then '.' :: padded 6 (n % 1000000) else [] := by
    dsimp only [canonical]
    split <;> rfl
  simp only [magnitudeText, hseconds, hmicros, hdays]
  rw [Written.chars, assemble, hday, hfraction]
  simp [canonical, List.intercalate]

theorem canonical_microseconds (n : Nat) : (canonical n).microseconds = n := by
  have hdays : (canonical n).days.elim 0 digitsValue = n / 86400000000 := by
    dsimp only [canonical]
    split
    · exact digitsValue_toDigits _
    · exact (Nat.eq_zero_of_not_pos ‹_›).symm
  have hfraction : fractionValue (canonical n).fraction = n % 1000000 := by
    dsimp only [canonical]
    split
    · have hlength : (padded 6 (n % 1000000)).length = 6 := length_padded (by decide) (by omega)
      rw [fractionValue, Option.elim_some, hlength, digitsValue_padded]
      exact Nat.mul_one _
    · exact (Nat.eq_zero_of_not_pos ‹_›).symm
  rw [Written.microseconds, total, hdays, hfraction]
  simp only [canonical, digitsValue_toDigits, digitsValue_padded]
  omega

theorem text_ofMicroseconds (n : Nat) :
    (ofMicroseconds n).text = String.ofList (canonical n).chars := by
  have hsign : ¬ ((n : Int) * 1000 < 0) := by omega
  have habs : ((n : Int) * 1000).natAbs = n * 1000 := by omega
  rw [text, ofMicroseconds_nanoseconds, if_neg hsign, habs, canonical_chars, List.nil_append]

/-- Every number of microseconds that fits 64 bits is read back from what is written for it. -/
theorem read_text {n : Nat} (h : n ≤ limit) :
    read (ofMicroseconds n).text = .ok (ofMicroseconds n) := by
  refine read_eq_ok_iff.2 ⟨n, readMicroseconds_eq_ok_iff.2 ⟨canonical n, ?_, ?_, ?_⟩, rfl⟩
  · rw [text_ofMicroseconds, String.toList_ofList]
  · rwa [canonical_microseconds]
  · rw [canonical_microseconds]

theorem read_text_of_read {s : String} {d : Duration} (h : read s = .ok d) :
    read d.text = .ok d := by
  obtain ⟨n, hn, rfl⟩ := read_eq_ok_iff.1 h
  obtain ⟨w, -, hlimit, rfl⟩ := readMicroseconds_eq_ok_iff.1 hn
  exact read_text hlimit

/-- What is written for a number of microseconds that fits 64 bits is read as that number; so what
is written for a text that is read stands for the same duration, and is written again as it is. -/
theorem roundTrip :
    (∀ n : Nat, n ≤ 2 ^ 63 - 1 → read (ofMicroseconds n).text = .ok (ofMicroseconds n)) ∧
    ∀ (s : String) (d : Duration), read s = .ok d →
      read d.text = .ok d ∧ (read d.text).map text = .ok d.text := by
  refine ⟨fun n h => read_text h, fun s d h => ?_⟩
  rw [read_text_of_read h]
  exact ⟨rfl, rfl⟩

/-- The longest duration, and one that is written otherwise than it was read. -/
theorem roundTrip_longest :
    read (ofMicroseconds 9223372036854775807).text = .ok (ofMicroseconds 9223372036854775807) ∧
    read "00.25:00:00.5" = .ok (ofMicroseconds 90000500000) ∧
    read (ofMicroseconds 90000500000).text = .ok (ofMicroseconds 90000500000) := by
  have hread : read "00.25:00:00.5" = .ok (ofMicroseconds 90000500000) := rfl
  exact ⟨roundTrip.1 9223372036854775807 (by decide), hread, (roundTrip.2 _ _ hread).1⟩

end Duration
end Schemata
