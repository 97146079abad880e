import Schemata.Proofs.Build.WellFormed
import Schemata.Proofs.Text.Digits

/-!
# Reading literals

The text of a literal that has no numbers in it can be read: the first character tells what kind of
literal it is, quoting can be undone, and a run of digits ends where no digit follows. What is read
is the literal without its places, whatever comes behind it, so texts of literals are told apart,
and nothing inside a text can pass for a comma, a bracket or a quote around it. A number may be
written as an integer is, and is therefore left out.

**Results:**
* `Expression.readFrom_text`: a literal is read back, whatever follows.
* `Expression.text_unambiguous`: literals with the same text are the same literal.
-/
namespace Schemata

/-! ## Integers -/

/-- Reads the digits at the beginning of a text, and gives what follows them. -/
def readNatural (cs : List Char) : Option (Nat × List Char) :=
  let digits := cs.takeWhile Char.isDigit
  if digits = [] then none else some (digitsValue digits, cs.dropWhile Char.isDigit)

/-- Reads an integer at the beginning of a text. -/
def readInteger : List Char → Option (Int × List Char)
  | '-' :: cs => (readNatural cs).map fun (n, rest) => (-n, rest)
  | cs => (readNatural cs).map fun (n, rest) => (n, rest)

theorem readNatural_toDigits (n : Nat) {rest : List Char} (h : EndsDigits rest) :
    readNatural (Nat.toDigits 10 n ++ rest) = some (n, rest) := by
  have hdigits := isDigits_toDigits n
  rw [readNatural, takeWhile_isDigit_append hdigits.isDigit h,
    dropWhile_isDigit_append hdigits.isDigit h, digitsValue_toDigits]
  exact if_neg hdigits.ne_nil

theorem readInteger_repr (z : Int) {rest : List Char} (h : EndsDigits rest) :
    readInteger (z.repr.toList ++ rest) = some (z, rest) := by
  cases z with
  | ofNat n =>
    show readInteger ((n : Int).repr.toList ++ rest) = _
    rw [toList_repr, readInteger, readNatural_toDigits n h]
    · rfl
    · exact append_ne_cons (isDigits_toDigits n) rfl
  | negSucc n =>
    rw [toList_repr_negSucc, List.cons_append, readInteger, readNatural_toDigits _ h]
    rfl

namespace Expression

/-! ## The reader -/

mutual

/-- Reads a literal at the beginning of a text, and gives what follows it. Only so many steps may be
taken for it. -/
def readFrom : Nat → List Char → Option (Expression Unit × List Char)
  | 0, _ => none
  | _ + 1, 't' :: 'r' :: 'u' :: 'e' :: rest => some (boolean () true, rest)
  | _ + 1, 'f' :: 'a' :: 'l' :: 's' :: 'e' :: rest => some (boolean () false, rest)
  | _ + 1, '"' :: cs =>
    (Text.Quoted.decodeBody cs).map fun (s, rest) => (string () (String.ofList s), rest)
  | steps + 1, '(' :: cs => (readMembers steps ')' cs).map fun (es, rest) => (tuple () es, rest)
  | steps + 1, '[' :: cs => (readMembers steps ']' cs).map fun (es, rest) => (list () es, rest)
  | _ + 1, cs => (readInteger cs).map fun (z, rest) => (integer () (Int64.ofInt z), rest)

/-- Reads literals with commas between them, up to a closing bracket. -/
def readMembers : Nat → Char → List Char → Option (List (Expression Unit) × List Char)
  | 0, _, _ => none
  | steps + 1, closing, cs =>
    if cs.head? = some closing then some ([], cs.tail)
    else do
      let (e, cs) ← readFrom steps cs
      let (es, rest) ← readMore steps closing cs
      return (e :: es, rest)

/-- Reads literals with a comma in front of each, up to a closing bracket. -/
def readMore : Nat → Char → List Char → Option (List (Expression Unit) × List Char)
  | 0, _, _ => none
  | steps + 1, closing, ',' :: ' ' :: cs => do
    let (e, cs) ← readFrom steps cs
    let (es, rest) ← readMore steps closing cs
    return (e :: es, rest)
  | _ + 1, closing, cs => if cs.head? = some closing then some ([], cs.tail) else none

end

/-- Reads a text that is a literal; every step of it takes a character. -/
def read (text : String) : Option (Expression Unit) :=
  match readFrom text.toList.length text.toList with
  | some (e, []) => some e
  | _ => none

/-! ## Literals without numbers -/

variable {ρ σ : Type}

mutual

/-- There is no floating-point number in a literal. -/
def NumberFree : Expression ρ → Prop
  | number _ _ => False
  | tuple _ es | list _ es => NumberFreeAll es
  | boolean _ _ | integer _ _ | string _ _ => True

/-- There is no floating-point number in any of the literals. -/
def NumberFreeAll : List (Expression ρ) → Prop
  | [] => True
  | e :: es => e.NumberFree ∧ NumberFreeAll es

end

/-! ## The texts of literals -/

/-- Literals as texts, with a comma and a blank in front of each. -/
def moreText (es : List (Expression ρ)) : List Char :=
  es.flatMap fun e => ',' :: ' ' :: e.text.toList

/-- Literals as texts, with a comma and a blank between each two. -/
def memberText : List (Expression ρ) → List Char
  | [] => []
  | e :: es => e.text.toList ++ moreText es

theorem toList_intercalate_texts (e : Expression ρ) (es : List (Expression ρ)) :
    (String.intercalate ", " (texts (e :: es))).toList = e.text.toList ++ moreText es := by
  induction es generalizing e with
  | nil => simp [texts, moreText]
  | cons f fs ih =>
    rw [texts, texts, String.intercalate_cons_cons, ← texts, String.toList_append,
      String.toList_append, ih, moreText, moreText, List.flatMap_cons, List.append_assoc]
    rfl

theorem toList_sequenceText (opening closing : String) (es : List (Expression ρ)) :
    (sequenceText opening closing (texts es)).toList =
      opening.toList ++ (memberText es ++ closing.toList) := by
  have hjoin : (String.intercalate ", " (texts es)).toList = memberText es := by
    cases es with
    | nil => rfl
    | cons e es => exact toList_intercalate_texts e es
  rw [sequenceText, String.toList_append, String.toList_append, hjoin, List.append_assoc]

theorem toList_text_tuple (p : ρ) (es : List (Expression ρ)) :
    (tuple p es).text.toList = '(' :: (memberText es ++ [')']) :=
  toList_sequenceText "(" ")" es

theorem toList_text_list (p : ρ) (es : List (Expression ρ)) :
    (list p es).text.toList = '[' :: (memberText es ++ [']']) :=
  toList_sequenceText "[" "]" es

/-- An integer begins with its sign or with a digit. -/
theorem exists_repr_cons (z : Int) :
    ∃ c cs, z.repr.toList = c :: cs ∧ (c = '-' ∨ c.isDigit = true) := by
  cases z with
  | ofNat n =>
    have hdigits := isDigits_toDigits n
    obtain ⟨c, cs, hcs⟩ := List.exists_cons_of_ne_nil hdigits.ne_nil
    exact ⟨c, cs, (toList_repr n).trans hcs, .inr (hdigits.isDigit c (hcs ▸ List.mem_cons_self))⟩
  | negSucc n => exact ⟨_, _, toList_repr_negSucc n, .inl rfl⟩

/-- A literal is neither empty nor does it begin with a closing bracket. -/
theorem NumberFree.exists_text_cons {e : Expression ρ} (he : e.NumberFree) :
    ∃ c cs, e.text.toList = c :: cs ∧ c ≠ ')' ∧ c ≠ ']' := by
  cases e with
  | boolean p value => cases value <;> simp [text]
  | integer p value =>
    obtain ⟨c, cs, hcs, hc⟩ := exists_repr_cons value.toInt
    refine ⟨c, cs, hcs, ?_, ?_⟩
    · rintro rfl
      simp at hc
    · rintro rfl
      simp at hc
  | number p value => exact he.elim
  | string p value => exact ⟨_, _, String.toList_ofList, by decide, by decide⟩
  | tuple p es => exact ⟨_, _, toList_text_tuple p es, by decide, by decide⟩
  | list p es => exact ⟨_, _, toList_text_list p es, by decide, by decide⟩

/-! ## Reading a text back -/

/-- What does not begin as another literal does is read as an integer. -/
theorem readFrom_other (steps : Nat) {c : Char} (cs : List Char)
    (hc : c ∉ ['t', 'f', '"', '(', '[']) : readFrom (steps + 1) (c :: cs) =
      (readInteger (c :: cs)).map fun (z, rest) => (integer () (Int64.ofInt z), rest) := by
  unfold readFrom
  split <;> simp_all

theorem readFrom_repr (steps : Nat) (z : Int) {rest : List Char} (h : EndsDigits rest) :
    readFrom (steps + 1) (z.repr.toList ++ rest) = some (integer () (Int64.ofInt z), rest) := by
  have hread := readInteger_repr z h
  obtain ⟨c, cs, hcs, hc⟩ := exists_repr_cons z
  have hmarks : ∀ d ∈ ['t', 'f', '"', '(', '['], ¬ (d = '-' ∨ d.isDigit = true) := by simp
  rw [hcs, List.cons_append] at hread ⊢
  rw [readFrom_other steps _ fun hm => hmarks c hm hc, hread]
  rfl

theorem readFrom_quoted (steps : Nat) (s : String) (rest : List Char) :
    readFrom (steps + 1) ((quoted s).toList ++ rest) = some (string () s, rest) := by
  have hdecode := Text.Quoted.decodeBody_flatMap_escape s.toList rest
  rw [quoted, String.toList_ofList, Text.Quoted.encode, List.cons_append, List.append_assoc,
    List.singleton_append, readFrom, hdecode, Option.map_some]
  exact congrArg (fun t => some (string () t, rest)) String.ofList_toList

/-- What follows a member is no digit. -/
theorem endsDigits_moreText (es : List (Expression ρ)) {closing : Char}
    (hclosing : closing ∈ [')', ']']) (rest : List Char) :
    EndsDigits (moreText es ++ closing :: rest) := by
  cases es with
  | nil =>
    have hmarks : ∀ c ∈ [')', ']'], c.isDigit = false := by simp
    exact endsDigits_cons.2 (hmarks closing hclosing)
  | cons e es => exact endsDigits_cons.2 rfl

mutual

/-- A literal is read back, whatever follows it. -/
theorem readFrom_text {e : Expression ρ} (he : e.NumberFree) (steps : Nat)
    (hsteps : e.text.toList.length ≤ steps) {rest : List Char} (hrest : EndsDigits rest) :
    readFrom steps (e.text.toList ++ rest) = some (e.shape, rest) := by
  obtain ⟨steps, rfl⟩ : ∃ n, steps = n + 1 := by
    obtain ⟨c, cs, htext, -⟩ := he.exists_text_cons
    rw [htext, List.length_cons] at hsteps
    exact ⟨steps - 1, by omega⟩
  cases e with
  | boolean p value => cases value <;> simp [text, readFrom, shape]
  | integer p value =>
    have hread := readFrom_repr steps value.toInt hrest
    rwa [Int64.ofInt_toInt] at hread
  | number p value => exact he.elim
  | string p value => exact readFrom_quoted steps value rest
  | tuple p es =>
    rw [toList_text_tuple, List.length_cons, List.length_append, List.length_singleton] at hsteps
    have hread := readMembers_text he steps (by omega) ')' (by decide) rest
    rw [toList_text_tuple, List.cons_append, List.append_assoc, List.singleton_append, readFrom,
      hread, shape]
    rfl
  | list p es =>
    rw [toList_text_list, List.length_cons, List.length_append, List.length_singleton] at hsteps
    have hread := readMembers_text he steps (by omega) ']' (by decide) rest
    rw [toList_text_list, List.cons_append, List.append_assoc, List.singleton_append, readFrom,
      hread, shape]
    rfl

/-- The members of a sequence are read back, up to its closing bracket. -/
theorem readMembers_text {es : List (Expression ρ)} (hes : NumberFreeAll es) (steps : Nat)
    (hsteps : (memberText es).length < steps) (closing : Char) (hclosing : closing ∈ [')', ']'])
    (rest : List Char) :
    readMembers steps closing (memberText es ++ closing :: rest) = some (shapes es, rest) := by
  obtain ⟨steps, rfl⟩ : ∃ n, steps = n + 1 := ⟨steps - 1, by omega⟩
  cases es with
  | nil =>
    rw [memberText, List.nil_append, readMembers, List.head?_cons, if_pos rfl]
    rfl
  | cons e es =>
    obtain ⟨c, cs, htext, hround, hsquare⟩ := hes.1.exists_text_cons
    have hopen : c ≠ closing := by
      rintro rfl
      simp [hround, hsquare] at hclosing
    have hfirst : (memberText (e :: es) ++ closing :: rest).head? ≠ some closing := by
      rw [memberText, htext]
      exact fun h => hopen (Option.some.inj h)
    have hlength : 1 ≤ e.text.toList.length := by
      rw [htext, List.length_cons]
      omega
    rw [memberText, List.length_append] at hsteps
    have hread := readFrom_text hes.1 steps (by omega) (endsDigits_moreText es hclosing rest)
    have hmore := readMore_text hes.2 steps (by omega) closing hclosing rest
    rw [readMembers, if_neg hfirst, memberText, List.append_assoc, hread]
    simp [hmore, shapes]

theorem readMore_text {es : List (Expression ρ)} (hes : NumberFreeAll es) (steps : Nat)
    (hsteps : (moreText es).length < steps) (closing : Char) (hclosing : closing ∈ [')', ']'])
    (rest : List Char) :
    readMore steps closing (moreText es ++ closing :: rest) = some (shapes es, rest) := by
  obtain ⟨steps, rfl⟩ : ∃ n, steps = n + 1 := ⟨steps - 1, by omega⟩
  cases es with
  | nil =>
    have hcomma : closing ≠ ',' := by
      rintro rfl
      simp at hclosing
    rw [moreText, List.flatMap_nil, List.nil_append, readMore, List.head?_cons, if_pos rfl]
    · rfl
    · exact fun cs h => hcomma (List.cons.inj h).1
  | cons e es =>
    have hsplit : moreText (e :: es) = ',' :: ' ' :: (e.text.toList ++ moreText es) := by
      rw [moreText, List.flatMap_cons]
      rfl
    rw [hsplit, List.length_cons, List.length_cons, List.length_append] at hsteps
    have hread := readFrom_text hes.1 steps (by omega) (endsDigits_moreText es hclosing rest)
    have hmore := readMore_text hes.2 steps (by omega) closing hclosing rest
    rw [hsplit, List.cons_append, List.cons_append, List.append_assoc, readMore, hread]
    simp [hmore, shapes]

end

theorem read_text {e : Expression ρ} (he : e.NumberFree) : read e.text = some e.shape := by
  have hread := readFrom_text he _ (Nat.le_refl _) endsDigits_nil
  rw [List.append_nil] at hread
  rw [read, hread]

mutual

/-- Places do not show in a text. -/
theorem text_shape (e : Expression ρ) : e.shape.text = e.text := by
  cases e with
  | boolean | integer | number | string => rfl
  | tuple p es => rw [shape, text, text, texts_shapes es]
  | list p es => rw [shape, text, text, texts_shapes es]

theorem texts_shapes (es : List (Expression ρ)) : texts (shapes es) = texts es := by
  match es with
  | [] => rfl
  | e :: es => rw [shapes, texts, texts, text_shape e, texts_shapes es]

end

/-- What two literals are is seen from their texts, whatever follows these. -/
theorem append_text_eq_iff {e : Expression ρ} {f : Expression σ} (he : e.NumberFree)
    (hf : f.NumberFree) {rest rest' : List Char} (hrest : EndsDigits rest)
    (hrest' : EndsDigits rest') :
    e.text.toList ++ rest = f.text.toList ++ rest' ↔ e.shape = f.shape ∧ rest = rest' := by
  constructor
  · intro h
    -- both are read in as many steps as the longer one takes
    have hread := readFrom_text he _ (Nat.le_max_left _ f.text.toList.length) hrest
    have hread' := readFrom_text hf _ (Nat.le_max_right e.text.toList.length _) hrest'
    rw [h, hread'] at hread
    exact (Prod.mk.inj (Option.some.inj hread)).imp Eq.symm Eq.symm
  · rintro ⟨hshape, rfl⟩
    rw [← e.text_shape, hshape, f.text_shape]

/-- Two literals without numbers have the same text exactly if they are the same literal up to
places, and so it is whatever follows the texts: a literal can be read off its text, and quoting can
be undone. -/
theorem text_unambiguous {e : Expression ρ} {f : Expression σ} (he : e.NumberFree)
    (hf : f.NumberFree) :
    (e.text = f.text ↔ e.shape = f.shape) ∧
    (∀ rest rest', EndsDigits rest → EndsDigits rest' →
      (e.text.toList ++ rest = f.text.toList ++ rest' ↔ e.shape = f.shape ∧ rest = rest')) ∧
    read e.text = some e.shape ∧
    ∀ (s : String) (rest : List Char),
      Text.Quoted.decode ((quoted s).toList ++ rest) = some (s.toList, rest) := by
  refine ⟨?_, fun _ _ hrest hrest' => append_text_eq_iff he hf hrest hrest', read_text he,
    fun s rest => ?_⟩
  · have htexts := append_text_eq_iff he hf endsDigits_nil endsDigits_nil
    rwa [List.append_nil, List.append_nil, String.toList_inj, and_iff_left rfl] at htexts
  · rw [quoted, String.toList_ofList, Text.Quoted.decode_encode]

/-- A tuple of one text, in which quotes stand around a comma. -/
def oneText : Expression Unit := .tuple () [.string () "a\", \"b"]

/-- A tuple of two texts. -/
def twoTexts : Expression Unit := .tuple () [.string () "a", .string () "b"]

/-- What would be the same without the backslashes is told apart. -/
theorem text_unambiguous_oneText :
    oneText.NumberFree ∧ twoTexts.NumberFree ∧ oneText.shape ≠ twoTexts.shape ∧
      oneText.text ≠ twoTexts.text := by
  have hone : oneText.NumberFree := by simp [oneText, NumberFree, NumberFreeAll]
  have htwo : twoTexts.NumberFree := by simp [twoTexts, NumberFree, NumberFreeAll]
  have hshape : oneText.shape ≠ twoTexts.shape := by simp [oneText, twoTexts, shape, shapes]
  exact ⟨hone, htwo, hshape, fun h => hshape ((text_unambiguous hone htwo).1.1 h)⟩

/-- A number may look like an integer. -/
example : (number () 1 : Expression Unit).text = (integer () 1 : Expression Unit).text := by
  decide +kernel

end Expression
end Schemata
