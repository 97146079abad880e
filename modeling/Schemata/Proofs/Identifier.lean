import Mathlib
import Schemata.Identifier
import Schemata.Outcome

/-!
# How identifiers are split

An identifier is spelled as a run of markers, an ASCII letter, and anything. Since no letter is a
marker, a text has one such spelling at most, and its markers and its name are those of its
spelling: the length of the run gives the visibility, and the case of the letter the kind. The name
by itself is spelled without markers, so it is read as itself, and as a public name.

**Results:**
* `Identifier.exists_spelling_iff`: which texts have a spelling.
* `Identifier.Spelling.parse_text`: what a spelling is read as.
* `Identifier.parse_exact`: which texts are read, and what they are read as.
* `Identifier.Whole.parse_eq`, `Identifier.Whole.ofIdentifier_injective`: an identifier may as well be
  kept as one text with the byte at which its name begins.
-/
namespace Schemata

/-! ## Markers and letters -/

theorem isMarker_iff {c : Char} : isMarker c = true ↔ c ∈ ['_', '@', '$', '&'] := by
  simp [isMarker, or_assoc]

theorem isUpper_iff {c : Char} : c.isUpper = true ↔ 'A' ≤ c ∧ c ≤ 'Z' := by
  show decide ('A'.val ≤ c.val ∧ c.val ≤ 'Z'.val) = true ↔ _
  rw [decide_eq_true_iff]
  rfl

theorem isLower_iff {c : Char} : c.isLower = true ↔ 'a' ≤ c ∧ c ≤ 'z' := by
  show (decide ('a'.val ≤ c.val) && decide (c.val ≤ 'z'.val)) = true ↔ _
  rw [Bool.and_eq_true, decide_eq_true_iff, decide_eq_true_iff]
  rfl

theorem isAlpha_iff {c : Char} :
    c.isAlpha = true ↔ ('A' ≤ c ∧ c ≤ 'Z') ∨ ('a' ≤ c ∧ c ≤ 'z') := by
  show (c.isUpper || c.isLower) = true ↔ _
  rw [Bool.or_eq_true, isUpper_iff, isLower_iff]

/-- No letter is both an uppercase and a lowercase one. -/
theorem not_lowercase_of_uppercase {c : Char} (h : 'A' ≤ c ∧ c ≤ 'Z') :
    ¬ ('a' ≤ c ∧ c ≤ 'z') := by
  rintro ⟨hlower, -⟩
  have hgap : 'a' ≤ 'Z' := Char.le_trans hlower h.2
  exact absurd hgap (by decide)

theorem isMarker_of_isAlpha {c : Char} (h : c.isAlpha = true) : isMarker c = false := by
  cases hm : isMarker c with
  | false => rfl
  | true =>
    simp only [isMarker_iff, List.mem_cons, List.not_mem_nil, or_false] at hm
    rcases hm with rfl | rfl | rfl | rfl <;> simp at h

/-- Behind its markers a text begins with a letter exactly if it is some markers, a letter and
anything. -/
theorem head?_dropWhile_isAlpha_iff (cs : List Char) :
    (cs.dropWhile isMarker).head?.any Char.isAlpha = true ↔
      ∃ markers letter rest, cs = markers ++ letter :: rest ∧
        (∀ c ∈ markers, isMarker c = true) ∧ letter.isAlpha = true := by
  constructor
  · intro h
    cases hd : cs.dropWhile isMarker with
    | nil => simp [hd] at h
    | cons letter rest =>
      refine ⟨cs.takeWhile isMarker, letter, rest, ?_, fun c hc => ?_, ?_⟩
      · rw [← hd, List.takeWhile_append_dropWhile]
      · exact List.mem_takeWhile_imp hc
      · simpa [hd] using h
  · rintro ⟨markers, letter, rest, rfl, hm, hl⟩
    have hd : (letter :: rest).dropWhile isMarker = letter :: rest := by
      simp [isMarker_of_isAlpha hl]
    rw [List.dropWhile_append_of_pos hm, hd]
    simpa using hl

/-- The visibility tells whether there are no markers, one, or more. -/
theorem Visibility.ofMarkerCount_eq_iff (count : Nat) :
    (ofMarkerCount count = .isPublic ↔ count = 0) ∧
    (ofMarkerCount count = .isProtected ↔ count = 1) ∧
    (ofMarkerCount count = .isPrivate ↔ 2 ≤ count) := by
  match count with
  | 0 | 1 => simp [ofMarkerCount]
  | n + 2 => simp [ofMarkerCount]

namespace Identifier

/-! ## Spellings -/

/-- A way to write an identifier: a run of markers, a letter, and anything. -/
structure Spelling where
  markers : List Char
  letter : Char
  rest : List Char
  markers_mem : ∀ c ∈ markers, c ∈ ['_', '@', '$', '&']
  isLetter : ('A' ≤ letter ∧ letter ≤ 'Z') ∨ ('a' ≤ letter ∧ letter ≤ 'z')

namespace Spelling

/-- The text without its markers. -/
def name (s : Spelling) : String := String.ofList (s.letter :: s.rest)

/-- The text that is written. -/
def text (s : Spelling) : String := String.ofList s.markers ++ s.name

/-- The name alone. -/
def unmarked (s : Spelling) : Spelling := { s with markers := [], markers_mem := nofun }

theorem text_unmarked (s : Spelling) : s.unmarked.text = s.name := by
  simp [text, unmarked, name]

theorem toList_text (s : Spelling) : s.text.toList = s.markers ++ s.letter :: s.rest := by
  simp [text, name]

theorem isMarker_of_mem (s : Spelling) : ∀ c ∈ s.markers, isMarker c = true :=
  fun c hc => isMarker_iff.2 (s.markers_mem c hc)

theorem isMarker_letter (s : Spelling) : isMarker s.letter = false :=
  isMarker_of_isAlpha (isAlpha_iff.2 s.isLetter)

/-- What a spelling is read as. -/
theorem parse_text (s : Spelling) (range : Range) : parse range s.text =
    .ok ⟨range, String.ofList s.markers, s.name, .ofMarkerCount s.markers.length⟩ := by
  have htake : s.text.toList.takeWhile isMarker = s.markers := by
    rw [toList_text, List.takeWhile_append_of_pos s.isMarker_of_mem]
    simp [s.isMarker_letter]
  have hdrop : s.text.toList.dropWhile isMarker = s.letter :: s.rest := by
    rw [toList_text, List.dropWhile_append_of_pos s.isMarker_of_mem]
    simp [s.isMarker_letter]
  rw [parse_eq_ok_iff, htake, hdrop]
  exact ⟨isAlpha_iff.2 s.isLetter, rfl⟩

/-- A text has one spelling at most. -/
theorem text_injective : Function.Injective text := by
  intro s t h
  have hread := Except.ok.inj ((s.parse_text default).symm.trans (h ▸ t.parse_text default))
  have hmarkers := String.ofList_injective (congrArg Identifier.markers hread)
  have hname := String.ofList_injective (congrArg Identifier.name hread)
  obtain ⟨hletter, hrest⟩ := List.cons.inj hname
  cases s
  cases t
  simp_all

end Spelling

/-- The texts that have a spelling. -/
theorem exists_spelling_iff {text : String} : (∃ s : Spelling, s.text = text) ↔
    (text.toList.dropWhile isMarker).head?.any Char.isAlpha = true := by
  rw [head?_dropWhile_isAlpha_iff]
  constructor
  · rintro ⟨s, rfl⟩
    exact ⟨s.markers, s.letter, s.rest, s.toList_text, s.isMarker_of_mem, isAlpha_iff.2 s.isLetter⟩
  · rintro ⟨markers, letter, rest, htext, hmarkers, hletter⟩
    refine ⟨⟨markers, letter, rest, fun c hc => isMarker_iff.1 (hmarkers c hc),
      isAlpha_iff.1 hletter⟩, ?_⟩
    rw [← String.toList_inj, Spelling.toList_text, htext]

theorem exists_parse_iff {range : Range} {text : String} :
    (∃ i, parse range text = .ok i) ↔ ∃ s : Spelling, s.text = text := by
  rw [exists_spelling_iff]
  simp only [parse_eq_ok_iff, exists_and_left, exists_eq, and_true]

theorem parse_eq_error_iff {range : Range} {text : String} :
    parse range text = .error (.located range (.invalidIdentifier text)) ↔
      ¬ ∃ s : Spelling, s.text = text := by
  rw [exists_spelling_iff, parse]
  split <;> simp_all

/-- A derived name is a name that is read, without its markers. -/
theorem withVisibility_eq_ok_iff {range : Range} {text : String} {v : Visibility}
    {i : Identifier} : withVisibility range text v = .ok i ↔
      ∃ j, parse range text = .ok j ∧ ⟨j.range, "", j.name, v⟩ = i := by
  rw [withVisibility, bind_eq_ok_iff]
  simp only [pure, Except.pure, Except.ok.injEq]

/-! ## What is read -/

namespace Spelling

/-- The identifier has the markers and the name of the spelling, and is classified by them. -/
structure Splits (s : Spelling) (i : Identifier) : Prop where
  value : i.value = s.text
  name : i.name = s.name
  value_eq : i.value = String.ofList s.markers ++ i.name
  unmarked : ∀ c ∈ i.name.toList.head?, c ∉ ['_', '@', '$', '&']
  isPublic : i.visibility = .isPublic ↔ s.markers.length = 0
  isProtected : i.visibility = .isProtected ↔ s.markers.length = 1
  isPrivate : i.visibility = .isPrivate ↔ 2 ≤ s.markers.length
  isType : i.isType = true ↔ 'A' ≤ s.letter ∧ s.letter ≤ 'Z'
  isExpression : i.isExpression = true ↔ 'a' ≤ s.letter ∧ s.letter ≤ 'z'
  oneKind : i.isExpression = true ↔ ¬ i.isType = true

theorem splits (s : Spelling) (range : Range) :
    s.Splits ⟨range, String.ofList s.markers, s.name, .ofMarkerCount s.markers.length⟩ := by
  have hhead : s.name.toList.head? = some s.letter := by
    rw [name, String.toList_ofList, List.head?_cons]
  have htype : s.name.toList.head?.any Char.isUpper = true ↔ 'A' ≤ s.letter ∧ s.letter ≤ 'Z' := by
    rw [hhead, Option.any_some, isUpper_iff]
  obtain ⟨hpublic, hprotected, hprivate⟩ := Visibility.ofMarkerCount_eq_iff s.markers.length
  constructor
  case value => rfl
  case name => rfl
  case value_eq => rfl
  case unmarked =>
    intro c hc
    rw [hhead, Option.mem_some_iff] at hc
    rw [← hc, ← isMarker_iff, s.isMarker_letter]
    decide
  case isPublic => exact hpublic
  case isProtected => exact hprotected
  case isPrivate => exact hprivate
  case isType => exact htype
  case isExpression =>
    rw [Identifier.isExpression, Identifier.isType, Bool.not_eq_true', ← Bool.not_eq_true, htype]
    exact ⟨s.isLetter.resolve_left, fun hlower hupper => not_lowercase_of_uppercase hupper hlower⟩
  case oneKind => rw [Identifier.isExpression, Bool.not_eq_true', Bool.not_eq_true]

end Spelling

/-- A text is read exactly if it has a spelling, and it is split as that says. The name alone is read
as the same name, of the same kind and public, and derived names are names without markers. -/
theorem parse_exact (range : Range) :
    Function.Injective Spelling.text ∧
    (∀ text, (∃ i, parse range text = .ok i) ↔ ∃ s : Spelling, s.text = text) ∧
    (∀ text, parse range text = .error (.located range (.invalidIdentifier text)) ↔
      ¬ ∃ s : Spelling, s.text = text) ∧
    (∀ s : Spelling, ∃ i, parse range s.text = .ok i ∧ i.range = range ∧ s.Splits i ∧
      ∀ range', ∃ j, parse range' i.name = .ok j ∧ j.name = i.name ∧ j.value = i.name ∧
        j.isType = i.isType ∧ j.isExpression = i.isExpression ∧ j.visibility = .isPublic) ∧
    ∀ v, (∀ text, (∃ i, withVisibility range text v = .ok i) ↔ ∃ i, parse range text = .ok i) ∧
      ∀ s : Spelling, ∃ i, withVisibility range s.text v = .ok i ∧ i.range = range ∧
        i.value = s.name ∧ i.name = s.name ∧ i.visibility = v := by
  refine ⟨Spelling.text_injective, fun text => exists_parse_iff, fun text => parse_eq_error_iff,
    fun s => ?_, fun v => ⟨fun text => ?_, fun s => ?_⟩⟩
  · refine ⟨_, s.parse_text range, rfl, s.splits range, fun range' => ?_⟩
    -- the name alone is spelled without markers
    have hname := s.unmarked.parse_text range'
    rw [s.text_unmarked] at hname
    exact ⟨_, hname, rfl, String.empty_append, rfl, rfl, rfl⟩
  · simp only [withVisibility_eq_ok_iff]
    exact ⟨fun ⟨_, i, hi, _⟩ => ⟨i, hi⟩, fun ⟨i, hi⟩ => ⟨_, i, hi, rfl⟩⟩
  · exact ⟨_, withVisibility_eq_ok_iff.2 ⟨_, s.parse_text range, rfl⟩, rfl, String.empty_append, rfl,
      rfl⟩

/-- Anything may follow the letter. -/
example : (parse default "@$Aé b").toOption.map (fun i => (i.markers, i.name, i.visibility)) =
    some ("@$", "Aé b", .isPrivate) := by decide +kernel

/-! ## Identifiers kept as one text -/

/-- An identifier that is kept as it is written, with the byte at which its name begins. -/
structure Whole where
  range : Range
  value : String
  /-- The first byte behind the markers. -/
  nameStart : Nat
  visibility : Visibility

namespace Whole

/-- The text up to a byte. -/
def upTo (text : String) (byte : Nat) : String := String.Pos.Raw.extract text ⟨0⟩ ⟨byte⟩

/-- The text from a byte on. -/
def fromOn (text : String) (byte : Nat) : String :=
  String.Pos.Raw.extract text ⟨byte⟩ ⟨text.utf8ByteSize⟩

/-- The name, by which it is looked up. -/
def name (w : Whole) : String := fromOn w.value w.nameStart

/-- The byte of the first character that is no marker, or the end. -/
def startOf : List Char → Nat
  | [] => 0
  | c :: cs => if isMarker c then startOf cs + c.utf8Size else 0

/-- Reads an identifier; its visibility is that of its markers. -/
def parse (range : Range) (text : String) : Except Diagnostic Whole :=
  let start := startOf text.toList
  if (fromOn text start).toList.head?.any Char.isAlpha then
    .ok ⟨range, text, start, .ofMarkerCount (upTo text start).length⟩
  else .error (.located range (.invalidIdentifier text))

/-- A derived name: without markers, and of the given visibility. -/
def withVisibility (range : Range) (text : String) (visibility : Visibility) :
    Except Diagnostic Whole := do
  let w ← parse range text
  return ⟨w.range, w.name, 0, visibility⟩

/-- The identifier with its markers and its name put together. -/
def ofIdentifier (i : Identifier) : Whole :=
  ⟨i.range, i.value, i.markers.utf8ByteSize, i.visibility⟩

theorem upTo_append (a b : String) : upTo (a ++ b) a.utf8ByteSize = a := by
  have h := String.extract_of_valid [] a.toList b.toList
  rw [← String.utf8ByteSize_ofList, ← String.utf8ByteSize_ofList] at h
  simpa [upTo] using h

theorem fromOn_append (a b : String) : fromOn (a ++ b) a.utf8ByteSize = b := by
  have h := String.extract_of_valid a.toList b.toList []
  rw [← String.utf8ByteSize_ofList, ← String.utf8ByteSize_ofList] at h
  simpa [fromOn, String.utf8ByteSize_append] using h

theorem name_ofIdentifier (i : Identifier) : (ofIdentifier i).name = i.name :=
  fromOn_append i.markers i.name

/-- Both ways to keep an identifier tell the same ones apart. -/
theorem ofIdentifier_injective : Function.Injective ofIdentifier := by
  intro i j h
  have hvalue : i.value = j.value := congrArg value h
  have hstart : i.markers.utf8ByteSize = j.markers.utf8ByteSize := congrArg nameStart h
  have hmarkers : i.markers = j.markers := by
    rw [← upTo_append i.markers i.name, ← upTo_append j.markers j.name, ← hstart]
    exact congrArg (upTo · _) hvalue
  have hname : i.name = j.name := by
    rw [← name_ofIdentifier i, h, name_ofIdentifier]
  cases i
  cases j
  simp_all [ofIdentifier]

theorem startOf_eq (cs : List Char) : startOf cs = String.utf8Len (cs.takeWhile isMarker) := by
  induction cs with
  | nil => rfl
  | cons c cs ih =>
    rw [startOf, List.takeWhile_cons]
    split
    · rw [String.utf8Len_cons, ih]
    · rfl

/-- An identifier is read alike in both ways. -/
theorem parse_eq (range : Range) (text : String) :
    parse range text = (Identifier.parse range text).map ofIdentifier := by
  generalize hm : String.ofList (text.toList.takeWhile isMarker) = markers
  generalize hn : String.ofList (text.toList.dropWhile isMarker) = name
  have htext : markers ++ name = text := by
    rw [← hm, ← hn, ← String.ofList_append, List.takeWhile_append_dropWhile, String.ofList_toList]
  have hstart : startOf text.toList = markers.utf8ByteSize := by
    rw [startOf_eq, ← hm, String.utf8ByteSize_ofList]
  have hup : upTo text markers.utf8ByteSize = markers := htext ▸ upTo_append markers name
  have hfrom : fromOn text markers.utf8ByteSize = name := htext ▸ fromOn_append markers name
  have hhead : name.toList = text.toList.dropWhile isMarker := by rw [← hn, String.toList_ofList]
  have hlength : markers.length = (text.toList.takeWhile isMarker).length := by
    rw [← hm, String.length_ofList]
  rw [parse, Identifier.parse]
  simp only [hstart, hup, hfrom, hhead, hm, hn, hlength]
  split
  · simp only [Except.map, ofIdentifier, Identifier.value, htext]
  · rfl

theorem withVisibility_eq (range : Range) (text : String) (visibility : Visibility) :
    withVisibility range text visibility =
      (Identifier.withVisibility range text visibility).map ofIdentifier := by
  rw [withVisibility, parse_eq, Identifier.withVisibility]
  cases Identifier.parse range text with
  | error d => rfl
  | ok i =>
    show Except.ok (⟨i.range, (ofIdentifier i).name, 0, visibility⟩ : Whole) =
      .ok ⟨i.range, "" ++ i.name, 0, visibility⟩
    rw [name_ofIdentifier, String.empty_append]

end Whole

end Identifier
end Schemata
