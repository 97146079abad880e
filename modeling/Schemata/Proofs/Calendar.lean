import Schemata.Calendar
import Schemata.Outcome
import Schemata.Proofs.Text.Digits

/-!
# Dates and times are read back

What is written for a date, a time or a date-time is read item by item: each number has just as many
digits as its item takes, and what follows it is no digit. A date-time that states its offset has a
year of four digits; one without an offset is refused by the reader of offsets only at its end, or
at its year if that has a sign.

Results:
* `Date.read_text`, `TimeOfDay.read_text`: every date and every time is read back.
* `DateTime.stateable_of_read`: which date-times come of reading.
* `DateTime.read_text`: these are read back, with the offset that they state or without one.
-/
namespace Schemata

/-! ## Items -/

/-- The digits that a text begins with, as many as may be read. -/
def digitsAhead (most : Option Nat) (cs : List Char) : List Char :=
  match most with
  | some most => (cs.takeWhile Char.isDigit).take most
  | none => cs.takeWhile Char.isDigit

theorem readDigits_eq (least : Nat) (most : Option Nat) (cs : List Char) :
    readDigits least most cs =
      if byteLength cs < least then .error .premature
      else if (digitsAhead most cs).length < least then .error .invalid
      else if Nat.pow 2 63 - 1 < digitsValue (digitsAhead most cs) then .error .outOfRange
      else .ok (digitsValue (digitsAhead most cs), cs.drop (digitsAhead most cs).length) := rfl

section Items

variable {ds rest : List Char}

theorem digitsAhead_append {most : Option Nat} (hds : ∀ c ∈ ds, c.isDigit = true)
    (hmost : ∀ m ∈ most, ds.length ≤ m) (hrest : EndsDigits rest) :
    digitsAhead most (ds ++ rest) = ds := by
  rw [digitsAhead.eq_def, takeWhile_isDigit_append hds hrest]
  cases most with
  | none => rfl
  | some m => exact List.take_of_length_le (hmost m rfl)

/-- Digits that are as many as may be read are read, if no digit follows them. -/
theorem readDigits_append {least : Nat} {most : Option Nat} (hds : ∀ c ∈ ds, c.isDigit = true)
    (hleast : least ≤ ds.length) (hmost : ∀ m ∈ most, ds.length ≤ m)
    (hvalue : digitsValue ds < 2 ^ 63) (hrest : EndsDigits rest) :
    readDigits least most (ds ++ rest) = .ok (digitsValue ds, rest) := by
  have hbytes : ¬ byteLength (ds ++ rest) < least := by
    have := length_le_byteLength (ds ++ rest)
    rw [List.length_append] at this
    omega
  have hlarge : ¬ Nat.pow 2 63 - 1 < digitsValue ds := by
    rw [Nat.pow_eq]
    omega
  rw [readDigits_eq, digitsAhead_append hds hmost hrest, if_neg hbytes,
    if_neg (Nat.not_lt.2 hleast), if_neg hlarge, List.drop_left]

/-- Where no digit stands no number is read. -/
theorem readDigits_of_endsDigits {least : Nat} {most : Option Nat} (hleast : 0 < least)
    (hrest : EndsDigits rest) : ∃ f, readDigits least most rest = .error f := by
  have hnone : digitsAhead most rest = [] :=
    digitsAhead_append (List.forall_mem_nil _) (fun _ _ => Nat.zero_le _) hrest
  rw [readDigits_eq, hnone]
  split
  · exact ⟨_, rfl⟩
  · exact ⟨_, if_pos hleast⟩

theorem readExactly_padded (count : Nat) {low high n : Nat} (hn : low ≤ n ∧ n ≤ high)
    (hcount : 0 < count ∧ high < 10 ^ count ∧ high < 2 ^ 63) (hrest : EndsDigits rest) :
    readExactly count low high (padded count n ++ rest) = .ok (n, rest) := by
  have hlength : (padded count n).length = count := length_padded hcount.1 (by omega)
  have hread : readDigits count (some count) (padded count n ++ rest) =
      .ok (digitsValue (padded count n), rest) :=
    readDigits_append (isDigits_padded count n).isDigit (Nat.le_of_eq hlength.symm)
      (fun m hm => by cases hm; omega) (by rw [digitsValue_padded]; omega) hrest
  rw [readExactly, hread, digitsValue_padded]
  exact if_pos hn

theorem readItem_padded {low high n : Nat} (hn : low ≤ n ∧ n ≤ high) (hhigh : high < 100)
    (hrest : EndsDigits rest) : readItem low high (padded 2 n ++ rest) = .ok (n, rest) := by
  have hlength : (padded 2 n).length = 2 := length_padded (by decide) (by omega)
  have hread : readDigits 1 (some 2) (padded 2 n ++ rest) = .ok (digitsValue (padded 2 n), rest) :=
    readDigits_append (isDigits_padded 2 n).isDigit (by omega) (fun m hm => by cases hm; omega)
      (by rw [digitsValue_padded]; omega) hrest
  rw [readItem, dropWhile_isBlank_append (isDigits_padded 2 n), hread, digitsValue_padded]
  exact if_pos hn

/-- The digits of a fraction, read as nanoseconds. -/
theorem readFractionDigits_padded (width : Nat) {n : Nat} (hwidth : 0 < width ∧ width ≤ 9)
    (hn : n < 10 ^ width) (hrest : EndsDigits rest) :
    readFractionDigits (padded width n ++ rest) = .ok (n * 10 ^ (9 - width), rest) := by
  have hlength := length_padded hwidth.1 hn
  have hdigits := (isDigits_padded width n).isDigit
  have hpow : 10 ^ width ≤ 10 ^ 9 := Nat.pow_le_pow_right (by decide) hwidth.2
  have hread : readDigits 1 (some 9) (padded width n ++ rest) =
      .ok (digitsValue (padded width n), rest) :=
    readDigits_append hdigits (by omega) (fun m hm => by cases hm; omega)
      (by rw [digitsValue_padded]; omega) hrest
  rw [readFractionDigits, hread, ok_bind, digitsValue_padded,
    takeWhile_isDigit_append hdigits hrest, dropWhile_isDigit_append hdigits hrest,
    List.take_of_length_le (by omega), hlength]
  rfl

theorem readFraction?_fractionChars {n : Nat} (hn : n < 1000000000) (hrest : EndsDigits rest)
    (hpoint : '.' ∉ rest.head?) : readFraction? (fractionChars n ++ rest) = .ok (n, rest) := by
  unfold fractionChars
  split
  case isTrue hzero =>
    subst hzero
    rw [List.nil_append]
    unfold readFraction?
    split
    · exact absurd rfl hpoint
    · rfl
  case isFalse =>
    split
    case isTrue hmilli =>
      rw [List.cons_append, readFraction?,
        readFractionDigits_padded 3 (by decide) (by omega) hrest]
      exact congrArg (fun n => Except.ok (n, rest)) (by omega)
    case isFalse =>
      split
      case isTrue hmicro =>
        rw [List.cons_append, readFraction?,
          readFractionDigits_padded 6 (by decide) (by omega) hrest]
        exact congrArg (fun n => Except.ok (n, rest)) (by omega)
      case isFalse =>
        rw [List.cons_append, readFraction?,
          readFractionDigits_padded 9 (by decide) (by omega) hrest]
        exact congrArg (fun n => Except.ok (n, rest)) (by omega)

/-! ## Years -/

/-- The digits of a year. -/
theorem readDigits_year {most : Option Nat} {n : Nat} (hn : n ≤ 262143)
    (hmost : ∀ m ∈ most, (padded 4 n).length ≤ m) (hrest : EndsDigits rest) :
    readDigits 1 most (padded 4 n ++ rest) = .ok (n, rest) := by
  have hread := readDigits_append (isDigits_padded 4 n).isDigit
    (List.length_pos_iff.2 (isDigits_padded 4 n).ne_nil) hmost
    (by rw [digitsValue_padded]; omega) hrest
  rwa [digitsValue_padded] at hread

theorem readYear_minus {n : Nat} (hn : n ≤ 262143) (hrest : EndsDigits rest) :
    readYear ('-' :: padded 4 n ++ rest) = .ok (-(n : Int), rest) := by
  have hblank : ('-' :: padded 4 n ++ rest).dropWhile isBlank = '-' :: (padded 4 n ++ rest) := rfl
  unfold readYear
  rw [hblank]
  split
  case h_1 h =>
    obtain rfl := (List.cons.inj h).2
    rw [readDigits_year hn (fun m hm => by cases hm) hrest]
    exact if_pos (by omega)
  case h_2 h => exact absurd (List.cons.inj h).1 (by decide)
  case h_3 h _ => exact absurd rfl (h _)

theorem readYear_plus {n : Nat} (hn : n ≤ 262143) (hrest : EndsDigits rest) :
    readYear ('+' :: padded 4 n ++ rest) = .ok ((n : Int), rest) := by
  have hblank : ('+' :: padded 4 n ++ rest).dropWhile isBlank = '+' :: (padded 4 n ++ rest) := rfl
  unfold readYear
  rw [hblank]
  split
  case h_1 h => exact absurd (List.cons.inj h).1 (by decide)
  case h_2 h =>
    obtain rfl := (List.cons.inj h).2
    rw [readDigits_year hn (fun m hm => by cases hm) hrest]
    exact if_pos (by omega)
  case h_3 _ h => exact absurd rfl (h _)

theorem readYear_padded {n : Nat} (hn : n ≤ 9999) (hrest : EndsDigits rest) :
    readYear (padded 4 n ++ rest) = .ok ((n : Int), rest) := by
  have hlength : (padded 4 n).length = 4 := length_padded (by decide) (by omega)
  have hread : readDigits 1 (some 4) (padded 4 n ++ rest) = .ok (n, rest) :=
    readDigits_year (by omega) (fun m hm => by cases hm; omega) hrest
  have hdigits := isDigits_padded 4 n
  unfold readYear
  rw [dropWhile_isBlank_append hdigits]
  split
  case h_1 h => exact absurd h (append_ne_cons hdigits rfl _)
  case h_2 h => exact absurd h (append_ne_cons hdigits rfl _)
  case h_3 =>
    rw [hread]
    exact if_pos (by omega)

theorem readYear_yearChars {year : Int} (hyear : -262143 ≤ year ∧ year ≤ 262142)
    (hrest : EndsDigits rest) : readYear (yearChars year ++ rest) = .ok (year, rest) := by
  unfold yearChars
  dsimp only
  split
  case isTrue hneg =>
    rw [readYear_minus (by omega) hrest]
    exact congrArg (fun n => Except.ok (n, rest)) (by omega)
  case isFalse hneg =>
    split
    case isTrue hlarge =>
      rw [readYear_plus (by omega) hrest]
      exact congrArg (fun n => Except.ok (n, rest)) (by omega)
    case isFalse hlarge =>
      rw [readYear_padded (by omega) hrest]
      exact congrArg (fun n => Except.ok (n, rest)) (by omega)

/-! ## Dates and times -/

theorem daysInMonth_le (year : Int) (month : Nat) : daysInMonth year month ≤ 31 := by
  unfold daysInMonth
  split
  · split <;> decide
  · split <;> decide

theorem Date.day_mem_month (d : Date) : 1 ≤ d.day ∧ d.day ≤ 31 :=
  ⟨d.day_mem.1, Nat.le_trans d.day_mem.2 (daysInMonth_le _ _)⟩

theorem TimeOfDay.hour_mem (t : TimeOfDay) : 0 ≤ t.hour ∧ t.hour ≤ 23 :=
  ⟨Nat.zero_le _, Nat.le_of_lt_succ t.hour_lt⟩

theorem TimeOfDay.minute_mem (t : TimeOfDay) : 0 ≤ t.minute ∧ t.minute ≤ 59 :=
  ⟨Nat.zero_le _, Nat.le_of_lt_succ t.minute_lt⟩

theorem TimeOfDay.second_mem (t : TimeOfDay) : 0 ≤ t.second ∧ t.second ≤ 60 :=
  ⟨Nat.zero_le _, t.second_le⟩

theorem readMark_cons (mark : Char) (rest : List Char) :
    readMark mark (mark :: rest) = .ok ((), rest) := if_pos rfl

theorem readDateNumbers_chars (d : Date) (hrest : EndsDigits rest) :
    readDateNumbers (d.chars ++ rest) = .ok ((d.year, d.month, d.day), rest) := by
  simp [readDateNumbers, Date.chars, ok_bind, readMark_cons, readYear_yearChars d.year_mem,
    readItem_padded d.month_mem (by decide), readItem_padded d.day_mem_month (by decide), hrest]

theorem endsDigits_fractionChars (n : Nat) (hrest : EndsDigits rest) :
    EndsDigits (fractionChars n ++ rest) := by
  unfold fractionChars
  split
  · exact hrest
  · split
    · simp
    · split <;> simp

theorem readTimeNumbers_chars (t : TimeOfDay) (hrest : EndsDigits rest)
    (hpoint : '.' ∉ rest.head?) : readTimeNumbers (t.chars ++ rest) =
      .ok ((t.hour, t.minute, t.second, t.nanosecond), rest) := by
  simp [readTimeNumbers, TimeOfDay.chars, ok_bind, readMark_cons,
    readItem_padded t.hour_mem (by decide), readItem_padded t.minute_mem (by decide),
    readItem_padded t.second_mem (by decide), endsDigits_fractionChars _ hrest,
    readFraction?_fractionChars t.nanosecond_lt hrest hpoint]

end Items

theorem TimeOfDay.ofNumbers_self (t : TimeOfDay) :
    TimeOfDay.ofNumbers t.hour t.minute t.second t.nanosecond = .ok t :=
  dif_pos ⟨t.hour_lt, t.minute_lt, t.second_le, t.nanosecond_lt⟩

theorem Date.ofNumbers_self (d : Date) : Date.ofNumbers d.year d.month d.day = .ok d :=
  Date.ofNumbers_eq_ok_iff.2 ⟨rfl, rfl, rfl⟩

/-- A date is read back from what is written for it. -/
theorem Date.read_text (d : Date) : Date.read d.text = .ok d := by
  have hread := readDateNumbers_chars d endsDigits_nil
  rw [List.append_nil] at hread
  rw [Date.read, Date.text, String.toList_ofList, hread]
  exact d.ofNumbers_self

-- what is read may lack zeros, and what is written does not
example : (Date.read "+2024-2-29").map Date.text = .ok "2024-02-29" := rfl

/-- A time is read back from what is written for it. -/
theorem TimeOfDay.read_text (t : TimeOfDay) : TimeOfDay.read t.text = .ok t := by
  have hread := readTimeNumbers_chars t endsDigits_nil nofun
  rw [List.append_nil] at hread
  rw [TimeOfDay.read, TimeOfDay.text, String.toList_ofList, hread]
  exact t.ofNumbers_self

namespace DateTime

/-- A date-time without an offset is read back by the reader that expects none. -/
theorem readNaive_text (date : Date) (time : TimeOfDay) :
    readNaive (text ⟨date, time, none⟩) = .ok ⟨date, time, none⟩ := by
  have hend : EndsDigits ('T' :: time.chars) := endsDigits_cons.2 rfl
  have htime := readTimeNumbers_chars time endsDigits_nil nofun
  rw [List.append_nil] at htime
  simp [readNaive, text, chars, ok_bind, readDateNumbers_chars date hend, readMark_cons, htime,
    complete, date.ofNumbers_self, time.ofNumbers_self]

/-! ## Offsets -/

/-- The numbers of a date-time that states its offset. -/
abbrev Numbers := (Int × Nat × Nat) × (Nat × Nat × Nat × Nat) × Int

/-- Reads the numbers of a date-time that states its offset. -/
def readNumbers (cs : List Char) : Except CalendarFault (Numbers × List Char) := do
  let (year, cs) ← readExactly 4 0 9999 cs
  let (_, cs) ← readMark '-' cs
  let (month, cs) ← readExactly 2 1 12 cs
  let (_, cs) ← readMark '-' cs
  let (day, cs) ← readExactly 2 1 31 cs
  let (_, cs) ← readDateEnd cs
  let (hour, cs) ← readExactly 2 0 23 cs
  let (_, cs) ← readMark ':' cs
  let (minute, cs) ← readExactly 2 0 59 cs
  let (_, cs) ← readMark ':' cs
  let (second, cs) ← readExactly 2 0 60 cs
  let (nanosecond, cs) ← readFraction? cs
  let (offset, cs) ← Schemata.readOffset cs
  .ok ((((year : Int), month, day), (hour, minute, second, nanosecond), offset), cs)

/-- The date-time with the given numbers, if it exists. -/
def ofNumbers (numbers : Numbers) : Except CalendarFault DateTime := do
  let date ← Date.ofNumbers numbers.1.1 numbers.1.2.1 numbers.1.2.2
  let (hour, minute, second, nanosecond) := numbers.2.1
  let time ← TimeOfDay.ofNumbers hour minute second nanosecond
  .ok ⟨date, time, some numbers.2.2⟩

theorem readOffset_eq (s : String) :
    readOffset s = complete (readNumbers s.toList) >>= ofNumbers := rfl

/-- Of a year of four digits, what is written is read up to the offset. -/
theorem readNumbers_chars {date : Date} (time : TimeOfDay) {rest : List Char}
    (hyear : 0 ≤ date.year ∧ date.year ≤ 9999) (hrest : EndsDigits rest)
    (hpoint : '.' ∉ rest.head?) :
    readNumbers (date.chars ++ 'T' :: (time.chars ++ rest)) =
      Schemata.readOffset rest >>= fun (offset, cs) =>
        .ok (((date.year, date.month, date.day),
          (time.hour, time.minute, time.second, time.nanosecond), offset), cs) := by
  have hyearChars : yearChars date.year = padded 4 date.year.natAbs := by
    rw [yearChars, if_neg (by omega), if_neg (by omega)]
  have hnat : 0 ≤ date.year.natAbs ∧ date.year.natAbs ≤ 9999 := by omega
  have hcast : ((date.year.natAbs : Nat) : Int) = date.year := by omega
  have hdateEnd : ∀ cs, readDateEnd ('T' :: cs) = .ok ((), cs) := fun cs => rfl
  simp only [readNumbers, Date.chars, TimeOfDay.chars, hyearChars, List.append_assoc,
    List.cons_append]
  simp [ok_bind, readMark_cons, hdateEnd, hcast,
    readExactly_padded 4 hnat (by decide),
    readExactly_padded 2 date.month_mem (by decide),
    readExactly_padded 2 date.day_mem_month (by decide),
    readExactly_padded 2 time.hour_mem (by decide),
    readExactly_padded 2 time.minute_mem (by decide),
    readExactly_padded 2 time.second_mem (by decide),
    endsDigits_fractionChars _ hrest, readFraction?_fractionChars time.nanosecond_lt hrest hpoint]

/-- A year with a sign is no year of four digits. -/
theorem readNumbers_of_sign {date : Date} (hyear : ¬ (0 ≤ date.year ∧ date.year ≤ 9999))
    (rest : List Char) : ∃ f, readNumbers (date.chars ++ rest) = .error f := by
  have hends : EndsDigits (date.chars ++ rest) := by
    simp only [Date.chars, yearChars]
    split
    · simp
    · rw [if_pos (by omega)]
      simp
  obtain ⟨f, hf⟩ : ∃ f, readExactly 4 0 9999 (date.chars ++ rest) = .error f := by
    obtain ⟨f, hf⟩ : ∃ f, readDigits 4 (some 4) (date.chars ++ rest) = .error f :=
      readDigits_of_endsDigits (by decide) hends
    exact ⟨f, by rw [readExactly, hf]; rfl⟩
  exact ⟨f, by rw [readNumbers, hf]; rfl⟩

/-- What is written without an offset is refused where an offset is expected. -/
theorem readOffset_of_naive (date : Date) (time : TimeOfDay) :
    ∃ f, readOffset (text ⟨date, time, none⟩) = .error f := by
  have hchars : chars ⟨date, time, none⟩ = date.chars ++ 'T' :: (time.chars ++ []) := by
    simp [chars]
  rw [readOffset_eq, text, String.toList_ofList, hchars]
  -- a year of four digits is read, and the text ends where the offset should stand
  by_cases hyear : 0 ≤ date.year ∧ date.year ≤ 9999
  · rw [readNumbers_chars time hyear endsDigits_nil nofun]
    exact ⟨_, rfl⟩
  · obtain ⟨f, hf⟩ := readNumbers_of_sign hyear ('T' :: (time.chars ++ []))
    rw [hf]
    exact ⟨_, rfl⟩

theorem readOffset_sign {sign : Char} (hsign : sign = '+' ∨ sign = '-') {hours minutes : Nat}
    (hhours : hours ≤ 23) (hminutes : minutes ≤ 59) :
    Schemata.readOffset (sign :: (padded 2 hours ++ ':' :: padded 2 minutes)) =
      .ok (if sign = '+' then ((hours * 60 + minutes : Nat) : Int)
        else -((hours * 60 + minutes : Nat) : Int), []) := by
  have hread := readExactly_padded 2 ⟨Nat.zero_le _, hminutes⟩ (by decide) endsDigits_nil
  rw [List.append_nil] at hread
  rcases hsign with rfl | rfl <;>
    simp [Schemata.readOffset, ok_bind, readMark_cons, hread,
      readExactly_padded 2 ⟨Nat.zero_le _, hhours⟩ (by decide)]

theorem readOffset_offsetChars {minutes : Int} (h : minutes.natAbs < 1440) :
    Schemata.readOffset (offsetChars minutes) = .ok (minutes, []) := by
  have hhours : minutes.natAbs / 60 ≤ 23 := by omega
  have hrest : minutes.natAbs % 60 ≤ 59 := by omega
  unfold offsetChars
  split
  · rw [readOffset_sign (.inr rfl) hhours hrest, if_neg (by decide)]
    exact congrArg (fun n => Except.ok (n, [])) (by omega)
  · rw [readOffset_sign (.inl rfl) hhours hrest, if_pos rfl]
    exact congrArg (fun n => Except.ok (n, [])) (by omega)

theorem mem_of_readExactly {count low high n : Nat} {cs rest : List Char}
    (h : readExactly count low high cs = .ok (n, rest)) : low ≤ n ∧ n ≤ high := by
  obtain ⟨⟨m, rest'⟩, -, h⟩ := bind_eq_ok_iff.1 h
  dsimp only at h
  split at h
  case isTrue hmem =>
    cases h
    exact hmem
  case isFalse => cases h

/-- An offset that is read is less than a day. -/
theorem offset_lt_of_readOffset {cs rest : List Char} {minutes : Int}
    (h : Schemata.readOffset cs = .ok (minutes, rest)) : minutes.natAbs < 1440 := by
  unfold Schemata.readOffset at h
  split at h
  · cases h
  · split at h
    · cases h
      decide
    · split at h
      · simp only [bind_eq_ok_iff] at h
        obtain ⟨hours, hhours, _, -, rest', hminutes, h⟩ := h
        have hhours := mem_of_readExactly hhours
        have hminutes := mem_of_readExactly hminutes
        cases h
        split <;> omega
      · cases h

/-- A date-time that a text can state: with an offset its year has four digits, and the offset is
less than a day. -/
structure Stateable (d : DateTime) : Prop where
  year_mem : d.offset.isSome → 0 ≤ d.date.year ∧ d.date.year ≤ 9999
  offset_lt : ∀ minutes ∈ d.offset, minutes.natAbs < 1440

/-- A date-time with an offset is read back by the reader that expects one. -/
theorem readOffset_text {date : Date} (time : TimeOfDay) {minutes : Int}
    (hyear : 0 ≤ date.year ∧ date.year ≤ 9999) (hminutes : minutes.natAbs < 1440) :
    readOffset (text ⟨date, time, some minutes⟩) = .ok ⟨date, time, some minutes⟩ := by
  have hchars : chars ⟨date, time, some minutes⟩ =
      date.chars ++ 'T' :: (time.chars ++ offsetChars minutes) := by simp [chars]
  have hends : EndsDigits (offsetChars minutes) := by
    rw [offsetChars, endsDigits_cons]
    split <;> rfl
  have hpoint : '.' ∉ (offsetChars minutes).head? := by
    simp only [offsetChars]
    split <;> simp
  rw [readOffset_eq, text, String.toList_ofList, hchars,
    readNumbers_chars time hyear hends hpoint, readOffset_offsetChars hminutes]
  simp [ok_bind, complete, ofNumbers, date.ofNumbers_self, time.ofNumbers_self]

/-- The numbers of a date-time that states its offset lie in their ranges. -/
theorem numbers_mem_of_readNumbers {cs rest : List Char} {numbers : Numbers}
    (h : readNumbers cs = .ok (numbers, rest)) :
    (0 ≤ numbers.1.1 ∧ numbers.1.1 ≤ 9999) ∧ numbers.2.2.natAbs < 1440 := by
  unfold readNumbers at h
  simp only [bind_eq_ok_iff] at h
  obtain ⟨year, hyear, _, -, _, -, _, -, _, -, _, -, _, -, _, -, _, -, _, -, _, -, _, -, offset,
    hoffset, h⟩ := h
  have hyear := mem_of_readExactly hyear
  have hoffset := offset_lt_of_readOffset hoffset
  cases h
  exact ⟨⟨Int.natCast_nonneg _, Int.ofNat_le.2 hyear.2⟩, hoffset⟩

theorem eq_ok_of_complete {α : Type} {reading : Except CalendarFault (α × List Char)} {a : α}
    (h : complete reading = .ok a) : reading = .ok (a, []) := by
  obtain ⟨⟨b, rest⟩, hreading, h⟩ := bind_eq_ok_iff.1 h
  dsimp only at h
  split at h
  case isTrue hrest =>
    cases h
    rw [hreading, hrest]
  case isFalse => cases h

theorem stateable_of_readOffset {s : String} {d : DateTime} (h : readOffset s = .ok d) :
    d.Stateable := by
  rw [readOffset_eq] at h
  obtain ⟨numbers, hnumbers, h⟩ := bind_eq_ok_iff.1 h
  obtain ⟨hyear, hoffset⟩ := numbers_mem_of_readNumbers (eq_ok_of_complete hnumbers)
  obtain ⟨date, hdate, h⟩ := bind_eq_ok_iff.1 h
  obtain ⟨time, -, h⟩ := bind_eq_ok_iff.1 h
  obtain ⟨hdateYear, -⟩ := Date.ofNumbers_eq_ok_iff.1 hdate
  cases h
  exact ⟨fun _ => by rwa [hdateYear], fun minutes hm => by cases hm; exact hoffset⟩

/-- What is read can be stated. -/
theorem stateable_of_read {s : String} {d : DateTime} (h : read s = .ok d) : d.Stateable := by
  unfold read at h
  split at h
  case h_1 d' hd =>
    cases h
    exact stateable_of_readOffset hd
  case h_2 =>
    obtain ⟨_, -, h⟩ := bind_eq_ok_iff.1 h
    obtain ⟨date, -, h⟩ := bind_eq_ok_iff.1 h
    obtain ⟨time, -, h⟩ := bind_eq_ok_iff.1 h
    cases h
    exact ⟨nofun, nofun⟩

/-- A date-time that was read is read back from what is written for it. -/
theorem read_text {d : DateTime} (h : d.Stateable) : read d.text = .ok d := by
  obtain ⟨date, time, offset⟩ := d
  unfold read
  cases offset with
  | none =>
    obtain ⟨f, hf⟩ := readOffset_of_naive date time
    rw [hf]
    exact readNaive_text date time
  | some minutes => rw [readOffset_text time (h.year_mem rfl) (h.offset_lt minutes rfl)]

end DateTime

end Schemata
