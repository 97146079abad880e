import Schemata.Expression
import Schemata.Proofs.Text.Digits

/-!
# Lines

Lines that are each ended by a line feed are read back if no line holds one, and only then there are
as many line feeds as lines. What literals are written as stands on one line: numbers are digits and
a few marks, and a line feed in a text is written with a backslash.

**Results:**
* `splitOn_lines`, `count_lines_eq_iff`: lines are read back, and counted by their ends.
* `Expression.oneLine_text`: a literal is written on one line.
-/
namespace Schemata

/-! ## Texts of several lines -/

theorem length_splitOn (separator : Char) (cs : List Char) :
    (splitOn separator cs).length = cs.count separator + 1 := by
  induction cs with
  | nil => rfl
  | cons c cs ih =>
    rw [splitOn, List.count_cons]
    by_cases h : c = separator
    · simp [h, ih]
    · rw [if_neg h]
      cases hs : splitOn separator cs with
      | nil => exact absurd hs (splitOn_ne_nil _ _)
      | cons s ss =>
        rw [hs] at ih
        simpa [h] using ih

/-- Lines, each with its end. -/
def joinLines (lines : List (List Char)) : List Char := lines.flatMap (· ++ ['\n'])

theorem joinLines_cons (l : List Char) (ls : List (List Char)) :
    joinLines (l :: ls) = l ++ '\n' :: joinLines ls := by simp [joinLines]

/-- Lines are read back, and nothing is found behind the last of them. -/
theorem splitOn_lines {lines : List (List Char)} (h : ∀ l ∈ lines, '\n' ∉ l) :
    splitOn '\n' (joinLines lines) = lines ++ [[]] := by
  induction lines with
  | nil => rfl
  | cons l ls ih =>
    rw [List.forall_mem_cons] at h
    rw [joinLines_cons, splitOn_append, splitOn_of_not_mem h.1, ih h.2]
    rfl

theorem length_le_count_lines (lines : List (List Char)) :
    lines.length ≤ (joinLines lines).count '\n' := by
  induction lines with
  | nil => exact Nat.le_refl 0
  | cons l ls ih =>
    simp only [joinLines_cons, List.length_cons, List.count_append, List.count_cons_self]
    omega

/-- There are as many ends as lines only if no line holds an end. -/
theorem count_lines_eq_iff {lines : List (List Char)} :
    (joinLines lines).count '\n' = lines.length ↔ ∀ l ∈ lines, '\n' ∉ l := by
  induction lines with
  | nil => simp [joinLines]
  | cons l ls ih =>
    have hle := length_le_count_lines ls
    rw [List.forall_mem_cons, ← ih, ← List.count_eq_zero, joinLines_cons, List.length_cons,
      List.count_append, List.count_cons_self]
    omega

/-! ## Texts of one line -/

/-- A text that does not break the line on which it is written. -/
def OneLine (s : String) : Prop := '\n' ∉ s.toList

theorem oneLine_append_iff {s t : String} : OneLine (s ++ t) ↔ OneLine s ∧ OneLine t := by
  rw [OneLine, String.toList_append, List.mem_append, not_or]
  rfl

theorem OneLine.append {s t : String} (hs : OneLine s) (ht : OneLine t) : OneLine (s ++ t) :=
  oneLine_append_iff.2 ⟨hs, ht⟩

theorem oneLine_intercalate {separator : String} {texts : List String} (hs : OneLine separator)
    (h : ∀ t ∈ texts, OneLine t) : OneLine (String.intercalate separator texts) := by
  induction texts with
  | nil => simp [OneLine]
  | cons t ts ih =>
    rw [List.forall_mem_cons] at h
    cases ts with
    | nil => simpa [OneLine, List.intercalate] using h.1
    | cons u us =>
      have hrest := ih h.2
      have hjoin : String.intercalate separator (t :: u :: us) =
          t ++ separator ++ String.intercalate separator (u :: us) := by
        rw [← String.toList_inj]
        simp [List.intercalate]
      rw [hjoin]
      exact (h.1.append hs).append hrest

theorem not_mem_toDigits (n : Nat) : '\n' ∉ Nat.toDigits 10 n :=
  not_mem_of_isDigit (isDigits_toDigits n).isDigit rfl

theorem oneLine_repr (n : Int) : OneLine n.repr := by
  rw [OneLine]
  cases n with
  | ofNat k =>
    have hdigits : (Int.ofNat k).repr.toList = Nat.toDigits 10 k := toList_repr k
    rw [hdigits]
    exact not_mem_toDigits k
  | negSucc k =>
    rw [toList_repr_negSucc, List.mem_cons, not_or]
    exact ⟨by decide, not_mem_toDigits (k + 1)⟩

theorem Decimal.oneLine_digits (s : Decimal.Digits) : OneLine s.text := by
  have hzeros : ∀ n, '\n' ∉ List.replicate n '0' := by simp
  have hpadded : ∀ n, '\n' ∉ List.replicate n '0' ++ Nat.toDigits 10 s.value := by
    intro n
    rw [List.mem_append, not_or]
    exact ⟨hzeros n, not_mem_toDigits s.value⟩
  rw [OneLine, Digits.text]
  split
  · rw [String.toList_ofList, List.mem_append, not_or]
    exact ⟨not_mem_toDigits s.value, hzeros _⟩
  · extract_lets places padded cut fraction
    have hwhole : '\n' ∉ padded.take cut := fun h => hpadded _ (List.mem_of_mem_take h)
    have hfraction : '\n' ∉ fraction := by
      intro h
      have h := (List.dropWhile_sublist _).subset (List.mem_reverse.1 h)
      exact hpadded _ (List.mem_of_mem_drop (List.mem_reverse.1 h))
    split
    · rwa [String.toList_ofList]
    · simp [hwhole, hfraction]

theorem Decimal.oneLine_text (x : Float) : OneLine (Decimal.text x) := by
  have hsign : OneLine (if x.toBits.toNat / Nat.pow 2 63 = 1 then "-" else "") := by
    split <;> simp [OneLine]
  rw [Decimal.text]
  split
  · simp [OneLine]
  · dsimp only
    split
    · exact hsign.append (by simp [OneLine])
    · split
      · exact hsign.append (by simp [OneLine])
      · exact hsign.append (oneLine_digits _)

theorem oneLine_quoted (s : String) : OneLine (quoted s) := by
  have hescape : ∀ c, '\n' ∉ Text.Quoted.escape c := by
    intro c
    unfold Text.Quoted.escape
    split <;> simp_all [eq_comm]
  simp [OneLine, quoted, Text.Quoted.encode, hescape]

mutual

/-- A literal is written on one line. -/
theorem Expression.oneLine_text {ρ : Type} (e : Expression ρ) : OneLine e.text := by
  have hsequence : ∀ (opening closing : String) (texts : List String), OneLine opening →
      OneLine closing → (∀ t ∈ texts, OneLine t) → OneLine (sequenceText opening closing texts) :=
    fun opening closing texts ho hc ht =>
      (ho.append (oneLine_intercalate (by simp [OneLine]) ht)).append hc
  cases e with
  | boolean p value => cases value <;> simp [Expression.text, OneLine]
  | integer p value => exact oneLine_repr value.toInt
  | number p value => exact Decimal.oneLine_text value
  | string p value => exact oneLine_quoted value
  | tuple p members =>
    exact hsequence _ _ _ (by simp [OneLine]) (by simp [OneLine]) (oneLine_texts members)
  | list p elements =>
    exact hsequence _ _ _ (by simp [OneLine]) (by simp [OneLine]) (oneLine_texts elements)

theorem Expression.oneLine_texts {ρ : Type} (es : List (Expression ρ)) :
    ∀ t ∈ Expression.texts es, OneLine t := by
  match es with
  | [] => exact nofun
  | e :: es =>
    rw [Expression.texts, List.forall_mem_cons]
    exact ⟨oneLine_text e, oneLine_texts es⟩

end

end Schemata
