import Schemata.Fundamental.Conversion

/-!
# What literals stand for in fundamental types

Each fundamental type takes literals of one kind, apart from numbers, for which integers stand as
well. A literal of that kind stands for a value unless a constraint speaks against it, a reader
refuses its text, or a path is not there that has to be.

**Results:**
* `Fundamental.convert_iff_denotes`: conversion finds exactly what a literal stands for.
-/
namespace Schemata
namespace Fundamental

/-- Which literals stand for which values in which types. -/
inductive Denotes (disk : Disk) : Fundamental → Literal → Value → Prop where
  | boolean (place : Range) (b : Bool) : Denotes disk .boolean (.boolean place b) (.boolean b)
  | integer {min max : Option Int64} {bits : Option Nat} (place : Range) {n : Int64}
      (h : integerFault min max bits n = none) :
      Denotes disk (.integer min max bits) (.integer place n) (.integer n)
  /-- An integer stands for a number. -/
  | wholeNumber {min max : Option Float} {bits : Option Nat} (place : Range) {n : Int64}
      (h : numberFault min max bits n.toFloat = none) :
      Denotes disk (.number min max bits) (.integer place n) (.number n.toFloat)
  | number {min max : Option Float} {bits : Option Nat} (place : Range) {x : Float}
      (h : numberFault min max bits x = none) :
      Denotes disk (.number min max bits) (.number place x) (.number x)
  | string {minLength : Nat} {maxLength : Option Nat} {pattern : Option Pattern} (place : Range)
      {s : String} (h : stringFault minLength maxLength pattern s = none) :
      Denotes disk (.string minLength maxLength pattern) (.string place s) (.string s)
  | date (place : Range) {s : String} {d : Date} (h : Date.read s = .ok d) :
      Denotes disk .date (.string place s) (.date d)
  | dateTime (place : Range) {s : String} {d : DateTime} (h : DateTime.read s = .ok d) :
      Denotes disk .dateTime (.string place s) (.dateTime d)
  | time (place : Range) {s : String} {t : TimeOfDay} (h : TimeOfDay.read s = .ok t) :
      Denotes disk .time (.string place s) (.time t)
  | duration (place : Range) {s : String} {d : Duration} (h : Duration.read s = .ok d) :
      Denotes disk .duration (.string place s) (.duration d)
  | directory {ensureExists : Bool} (place : Range) {s : String}
      (h : ensureExists = true → disk.isDirectory ⟨s⟩ = true) :
      Denotes disk (.directory ensureExists) (.string place s) (.directory ⟨s⟩)
  | filename {ensureExists matchAny : Bool} (place : Range) {s : String}
      (h : ensureExists = true →
        (if matchAny then disk.holds ⟨s⟩ else disk.isFile ⟨s⟩) = true) :
      Denotes disk (.filename ensureExists matchAny) (.string place s) (.filename ⟨s⟩)
  | guid (place : Range) {s : String} {g : Guid} (h : Guid.read s = .ok g) :
      Denotes disk .guid (.string place s) (.guid g)
  | uri (place : Range) {s : String} {u : Uri} (h : Uri.read s = .ok u) :
      Denotes disk .uri (.string place s) (.uri u)

variable {v : Value}

theorem checked_eq_ok_iff {fault : Option Cause} {value : Value} :
    checked fault value = .ok v ↔ fault = none ∧ value = v := by
  cases fault <;> simp [checked]

theorem ofReading_eq_ok_iff {ε α : Type} {typeName text : String} {message : ε → String}
    {value : α → Value} {reading : Except ε α} :
    ofReading typeName message value text reading = .ok v ↔ ∃ a, reading = .ok a ∧ value a = v := by
  cases reading <;> simp [ofReading]

theorem ofPath_eq_ok_iff {ensureExists found : Bool} {path : Path} {value : Path → Value} :
    ofPath ensureExists found path value = .ok v ↔
      (ensureExists = true → found = true) ∧ value path = v := by
  cases ensureExists <;> cases found <;> simp [ofPath]

/-- Conversion finds exactly what a literal stands for. -/
theorem convert_iff_denotes {disk : Disk} {type : Fundamental} {e : Literal} :
    type.convert disk e = .ok v ↔ type.Denotes disk e v := by
  constructor
  · intro h
    unfold convert at h
    split at h
    · cases h
      exact .boolean ..
    · obtain ⟨hfault, rfl⟩ := checked_eq_ok_iff.1 h
      exact .integer _ hfault
    · obtain ⟨hfault, rfl⟩ := checked_eq_ok_iff.1 h
      exact .wholeNumber _ hfault
    · obtain ⟨hfault, rfl⟩ := checked_eq_ok_iff.1 h
      exact .number _ hfault
    · obtain ⟨hfault, rfl⟩ := checked_eq_ok_iff.1 h
      exact .string _ hfault
    · obtain ⟨d, hread, rfl⟩ := ofReading_eq_ok_iff.1 h
      exact .date _ hread
    · obtain ⟨d, hread, rfl⟩ := ofReading_eq_ok_iff.1 h
      exact .dateTime _ hread
    · obtain ⟨t, hread, rfl⟩ := ofReading_eq_ok_iff.1 h
      exact .time _ hread
    · obtain ⟨d, hread, rfl⟩ := ofReading_eq_ok_iff.1 h
      exact .duration _ hread
    · obtain ⟨hfound, rfl⟩ := ofPath_eq_ok_iff.1 h
      exact .directory _ hfound
    · obtain ⟨hfound, rfl⟩ := ofPath_eq_ok_iff.1 h
      exact .filename _ hfound
    · obtain ⟨g, hread, rfl⟩ := ofReading_eq_ok_iff.1 h
      exact .guid _ hread
    · obtain ⟨u, hread, rfl⟩ := ofReading_eq_ok_iff.1 h
      exact .uri _ hread
    · cases h
  · intro h
    unfold convert
    cases h with
    | boolean => rfl
    | integer _ h | wholeNumber _ h | number _ h | string _ h =>
      exact checked_eq_ok_iff.2 ⟨h, rfl⟩
    | date _ h | dateTime _ h | time _ h | duration _ h | guid _ h | uri _ h =>
      exact ofReading_eq_ok_iff.2 ⟨_, h, rfl⟩
    | directory _ h | filename _ h => exact ofPath_eq_ok_iff.2 ⟨h, rfl⟩

theorem parse_iff_denotes {disk : Disk} {type : Fundamental} {e : Literal} :
    type.parse disk e = .ok v ↔ type.Denotes disk e v := by
  rw [← convert_iff_denotes, parse]
  cases type.convert disk e with
  | ok w => simp
  | error cause => exact ⟨nofun, nofun⟩

end Fundamental
end Schemata
