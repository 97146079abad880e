/-!
# Splitting text

A text is cut at every occurrence, or at the first occurrence, of a separator.

Results: `splitOn_ne_nil` (there is always a piece), `splitOn_append` (a separator is a cut),
`splitOn_eq_iff` (the pieces are the ones without separators that make up the text),
`splitFirst_eq_some_iff` (the first cut is at the first separator).
-/
namespace Schemata

/-- The pieces of a text between its separators; there is one more of them than separators. -/
def splitOn (separator : Char) : List Char → List (List Char)
  | [] => [[]]
  | c :: cs =>
    if c = separator then [] :: splitOn separator cs
    else match splitOn separator cs with
      | [] => [[c]]
      | s :: ss => (c :: s) :: ss

theorem splitOn_ne_nil (separator : Char) (cs : List Char) : splitOn separator cs ≠ [] := by
  cases cs with
  | nil => simp [splitOn]
  | cons c cs =>
    rw [splitOn]
    split
    · simp
    · split <;> simp

/-- Text around a separator is cut there. -/
theorem splitOn_append (separator : Char) (before after : List Char) :
    splitOn separator (before ++ separator :: after) =
      splitOn separator before ++ splitOn separator after := by
  induction before with
  | nil => simp [splitOn]
  | cons c cs ih =>
    rw [List.cons_append, splitOn, splitOn]
    split
    · rw [ih]
      rfl
    · rw [ih]
      cases h : splitOn separator cs with
      | nil => exact absurd h (splitOn_ne_nil _ _)
      | cons s ss => rfl

/-- Text without the separator is one piece. -/
theorem splitOn_of_not_mem {separator : Char} {cs : List Char} (h : separator ∉ cs) :
    splitOn separator cs = [cs] := by
  induction cs with
  | nil => rfl
  | cons c cs ih =>
    rw [List.mem_cons, not_or] at h
    rw [splitOn, if_neg (Ne.symm h.1), ih h.2]

/-- No piece holds the separator. -/
theorem not_mem_of_mem_splitOn {separator : Char} {cs piece : List Char}
    (h : piece ∈ splitOn separator cs) : separator ∉ piece := by
  induction cs generalizing piece with
  | nil =>
    rw [splitOn, List.mem_singleton] at h
    subst h
    exact List.not_mem_nil
  | cons c cs ih =>
    rw [splitOn] at h
    split at h
    · rcases List.mem_cons.1 h with rfl | h
      · exact List.not_mem_nil
      · exact ih h
    · rename_i hc
      cases hs : splitOn separator cs with
      | nil => exact absurd hs (splitOn_ne_nil _ _)
      | cons s ss =>
        rw [hs] at h
        rcases List.mem_cons.1 h with rfl | h
        · have hs : separator ∉ s := ih (hs ▸ List.mem_cons_self)
          simp [hs, Ne.symm hc]
        · exact ih (hs ▸ List.mem_cons_of_mem _ h)

/-- Pieces that are put together are found again. -/
theorem splitOn_intercalate {separator : Char} {pieces : List (List Char)} (h : pieces ≠ [])
    (hp : ∀ piece ∈ pieces, separator ∉ piece) :
    splitOn separator (List.intercalate [separator] pieces) = pieces := by
  induction pieces with
  | nil => exact absurd rfl h
  | cons p ps ih =>
    have hfirst := splitOn_of_not_mem (hp p List.mem_cons_self)
    cases ps with
    | nil => simpa [List.intercalate] using hfirst
    | cons q qs =>
      have hrest := ih (List.cons_ne_nil _ _) fun piece hm => hp piece (List.mem_cons_of_mem _ hm)
      have hjoin : List.intercalate [separator] (p :: q :: qs) =
          p ++ separator :: List.intercalate [separator] (q :: qs) := by
        simp [List.intercalate]
      rw [hjoin, splitOn_append, hfirst, hrest]
      rfl

/-- Pieces put together again give the text. -/
theorem intercalate_splitOn (separator : Char) (cs : List Char) :
    List.intercalate [separator] (splitOn separator cs) = cs := by
  induction cs with
  | nil => rfl
  | cons c cs ih =>
    rw [splitOn]
    cases hs : splitOn separator cs with
    | nil => exact absurd hs (splitOn_ne_nil _ _)
    | cons s ss =>
      rw [hs] at ih
      split
      · rename_i hc
        rw [← ih, hc]
        simp [List.intercalate]
      · rw [← ih]
        cases ss <;> simp [List.intercalate]

/-- The pieces are the ones without separators that make up the text. -/
theorem splitOn_eq_iff {separator : Char} {cs : List Char} {pieces : List (List Char)} :
    splitOn separator cs = pieces ↔
      pieces ≠ [] ∧ List.intercalate [separator] pieces = cs ∧
        ∀ piece ∈ pieces, separator ∉ piece := by
  constructor
  · rintro rfl
    exact ⟨splitOn_ne_nil _ _, intercalate_splitOn _ _, fun _ h => not_mem_of_mem_splitOn h⟩
  · rintro ⟨hne, rfl, hp⟩
    exact splitOn_intercalate hne hp

/-- What stands before and after the first separator. -/
def splitFirst (separator : Char) : List Char → Option (List Char × List Char)
  | [] => none
  | c :: cs =>
    if c = separator then some ([], cs)
    else (splitFirst separator cs).map fun (before, after) => (c :: before, after)

theorem splitFirst_eq_some_iff {separator : Char} {cs before after : List Char} :
    splitFirst separator cs = some (before, after) ↔
      cs = before ++ separator :: after ∧ separator ∉ before := by
  induction cs generalizing before with
  | nil => simp [splitFirst]
  | cons c cs ih =>
    rw [splitFirst]
    by_cases h : c = separator
    · subst h
      cases before with
      | nil => simp [eq_comm]
      | cons b bs => simp; intro hb; simp_all
    · rw [if_neg h]
      cases before with
      | nil => simp [h]
      | cons b bs =>
        simp only [Option.map_eq_some_iff, Prod.mk.injEq, Prod.exists, List.cons.injEq,
          List.cons_append, List.mem_cons, not_or]
        constructor
        · rintro ⟨x, y, hxy, ⟨rfl, rfl⟩, rfl⟩
          have := (@ih x).1 hxy
          exact ⟨⟨rfl, this.1⟩, fun e => h e.symm, this.2⟩
        · rintro ⟨⟨rfl, hcs⟩, _, hn⟩
          exact ⟨bs, after, ih.2 ⟨hcs, hn⟩, ⟨rfl, rfl⟩, rfl⟩

theorem splitFirst_eq_none_iff {separator : Char} {cs : List Char} :
    splitFirst separator cs = none ↔ separator ∉ cs := by
  induction cs with
  | nil => simp [splitFirst]
  | cons c cs ih =>
    rw [splitFirst]
    by_cases h : c = separator
    · simp [h]
    · simp [h, ih, Ne.symm h]

/-- The number of bytes of a text in UTF-8. -/
def byteLength (cs : List Char) : Nat := cs.foldr (fun c n => c.utf8Size + n) 0

/-- Characters of one byte are as many as their bytes. -/
theorem byteLength_eq_length {cs : List Char} (h : ∀ c ∈ cs, c.utf8Size = 1) :
    byteLength cs = cs.length := by
  induction cs with
  | nil => rfl
  | cons c cs ih =>
    rw [List.forall_mem_cons] at h
    have hrest := ih h.2
    simp only [byteLength, List.foldr_cons, List.length_cons, h.1] at hrest ⊢
    omega

theorem length_le_byteLength (cs : List Char) : cs.length ≤ byteLength cs := by
  induction cs with
  | nil => exact Nat.le_refl 0
  | cons c cs ih =>
    have hc := c.utf8Size_pos
    simp only [byteLength, List.foldr_cons, List.length_cons] at ih ⊢
    omega

/-- A natural in decimal digits, with zeros in front up to a width. -/
def padded (width n : Nat) : List Char :=
  let ds := Nat.toDigits 10 n
  List.replicate (width - ds.length) '0' ++ ds

/-- The value of a run of decimal digits. -/
def digitsValue (cs : List Char) : Nat :=
  cs.foldl (fun n c => 10 * n + (c.toNat - '0'.toNat)) 0

end Schemata
