import Schemata.Conversion
import Schemata.Proofs.Calendar
import Schemata.Proofs.Duration.RoundTrip
import Schemata.Proofs.Fundamental
import Schemata.Proofs.Guid

/-!
# How values are written

A value of an exact type is written as the literal that it comes from: a truth value, an integer, a
text or a path. Values of other types have forms of their own. Dates, times, durations and GUIDs may
be spelled in several ways and are written in one of these between quotes, so that reading them once
more changes nothing. What a literal stands for in a type that is built from exact ones is written
as the literal, whatever lists, tuples, alternatives and aliases lie between.

**Results:**
* `Fundamental.parse_canonical`: what is written in a form of its own stands for the same value.
* `LinkedType.text_eq_of_convert`: built from exact types, a type keeps what is written.
-/
namespace Schemata

variable {disk : Disk} {e : Literal} {v : Value}

namespace Fundamental

/-! ## Forms of their own -/

/-- Values of the type are written between quotes, in one of the ways in which they are read. -/
def HasForm : Fundamental → Prop
  | date | dateTime | time | duration | guid => True
  | boolean | integer .. | number .. | string .. | directory _ | filename .. | uri => False

/-- What is written for a value of a type with forms of its own, taken out of its quotes, is
accepted by the type again and stands for the same value: its kind, the offset that it states and
what is written for it stay. -/
theorem parse_canonical {type : Fundamental} (htype : type.HasForm)
    (h : type.parse disk e = .ok v) :
    ∃ text, v.text = Value.plainQuoted text ∧
      ∀ disk' place, type.parse disk' (.string place text) = .ok v := by
  simp only [parse_iff_denotes] at h ⊢
  cases h with
  | @date place s d h => exact ⟨d.text, rfl, fun _ place => .date place d.read_text⟩
  | @dateTime place s d h =>
    have hread := DateTime.read_text (DateTime.stateable_of_read h)
    exact ⟨d.text, rfl, fun _ place => .dateTime place hread⟩
  | @time place s t h => exact ⟨t.text, rfl, fun _ place => .time place t.read_text⟩
  | @duration place s d h =>
    exact ⟨d.text, rfl, fun _ place => .duration place (Duration.read_text_of_read h)⟩
  | @guid place s g h => exact ⟨g.text, rfl, fun _ place => .guid place g.read_text⟩
  | boolean | integer | wholeNumber | number | string | directory | filename | uri => cases htype

/-- A leap second with an offset, written neither with the mark nor with the fraction that it was
read with. -/
theorem parse_canonical_leapSecond :
    let second : Value := .dateTime
      ⟨⟨2016, 12, 31, by decide, by decide, by decide⟩,
        ⟨23, 59, 60, 250000000, by decide, by decide, by decide, by decide⟩, some (-30)⟩
    dateTime.parse .empty (.string default "2016-12-31 23:59:60.2500-00:30") = .ok second ∧
      second.text = "\"2016-12-31T23:59:60.250-00:30\"" ∧
      ∃ text, second.text = Value.plainQuoted text ∧
        ∀ disk place, dateTime.parse disk (.string place text) = .ok second := by
  intro second
  have hread : dateTime.parse .empty (.string default "2016-12-31 23:59:60.2500-00:30") =
      .ok second := rfl
  have hform : dateTime.HasForm := trivial
  exact ⟨hread, rfl, parse_canonical hform hread⟩

/-! ## Exact types -/

/-- Values of the type are written as the literals that they come from. -/
def IsExact : Fundamental → Prop
  | boolean | integer .. | string .. | directory _ | filename .. => True
  | number .. | date | dateTime | time | duration | guid | uri => False

/-- An exact type keeps what is written. -/
theorem text_of_parse {type : Fundamental} (htype : type.IsExact)
    (h : type.parse disk e = .ok v) : v.text = e.text := by
  rw [parse_iff_denotes] at h
  cases h with
  | boolean | integer | string | directory | filename => rfl
  | wholeNumber | number | date | dateTime | time | duration | guid | uri => cases htype

end Fundamental

/-! ## Types that are built from exact ones -/

/-- Values that are written as the literals at the same positions. -/
theorem texts_of_mapM {element : Literal → Except Diagnostic Value} {es : List Literal}
    {vs : List Value} (helement : ∀ e v, element e = .ok v → v.text = e.text)
    (h : es.mapM element = .ok vs) : Value.texts vs = Expression.texts es := by
  induction es generalizing vs with
  | nil =>
    cases h
    rfl
  | cons e es ih =>
    rw [List.mapM_cons] at h
    obtain ⟨v, hv, h⟩ := bind_eq_ok_iff.1 h
    obtain ⟨rest, hrest, h⟩ := bind_eq_ok_iff.1 h
    cases h
    rw [Value.texts, Expression.texts, helement e v hv, ih hrest]

/-- As often as a cardinality says, what is written is kept if it is kept of an element. -/
theorem Cardinality.text_of_convert {c : Cardinality} {element : Literal → Except Diagnostic Value}
    (helement : ∀ e v, element e = .ok v → v.text = e.text) (h : c.convert element e = .ok v) :
    v.text = e.text := by
  unfold Cardinality.convert at h
  split at h
  case isTrue =>
    cases e with
    | list place es =>
      dsimp only at h
      split at h
      case isTrue =>
        obtain ⟨vs, hvs, rfl⟩ := map_eq_ok_iff.1 h
        rw [Value.text, Expression.text, texts_of_mapM helement hvs]
      case isFalse => cases h
    | boolean | integer | number | string | tuple => cases h
  case isFalse => exact helement e v h

namespace LinkedType

mutual

/-- The fundamental types that a type is built from are exact. -/
def LeavesExact : LinkedType → Prop
  | fundamental _ type => type.IsExact
  | struct .. => True
  | tuple _ members => AllLeavesExact members
  | variant _ members => AllLeavesExact members
  | .alias _ _ aliased => aliased.LeavesExact

/-- The fundamental types that some types are built from are exact. -/
def AllLeavesExact : List LinkedType → Prop
  | [] => True
  | t :: ts => t.LeavesExact ∧ AllLeavesExact ts

end

mutual

theorem text_of_convertElement {t : LinkedType} (ht : t.LeavesExact) {e : Literal} {v : Value}
    (h : t.convertElement disk e = .ok v) : v.text = e.text := by
  match t with
  | fundamental o type =>
    rw [convertElement] at h
    exact Fundamental.text_of_parse ht h
  | struct o id name => cases h
  | .alias o name aliased =>
    rw [convertElement] at h
    exact Cardinality.text_of_convert (fun e v => text_of_convertElement (t := aliased) ht) h
  | tuple o members =>
    cases e with
    | tuple place es =>
      rw [convertElement] at h
      split at h
      case isTrue => cases h
      case isFalse hfew =>
        split at h
        case isTrue => cases h
        case isFalse hmany =>
          obtain ⟨vs, hvs, rfl⟩ := map_eq_ok_iff.1 h
          -- no literal is left over, so the texts are those of all of them
          have hlength : es.length = members.length := by omega
          rw [Value.text, Expression.text, texts_of_convertMembers ht hlength hvs]
    | boolean | integer | number | string | list => cases h
  | variant o members =>
    rw [convertElement] at h
    split at h
    case h_1 w hw =>
      cases h
      exact text_of_convertFirst ht hw
    case h_2 => cases h

theorem texts_of_convertMembers {ts : List LinkedType} (hts : AllLeavesExact ts)
    {es : List Literal} (hlength : es.length = ts.length) {vs : List Value}
    (h : convertMembers disk ts es = .ok vs) : Value.texts vs = Expression.texts es := by
  match ts, es with
  | [], [] =>
    cases h
    rfl
  | t :: ts, e :: es =>
    obtain ⟨ht, hts⟩ := hts
    rw [convertMembers] at h
    obtain ⟨v, hv, h⟩ := bind_eq_ok_iff.1 h
    obtain ⟨rest, hrest, h⟩ := bind_eq_ok_iff.1 h
    cases h
    rw [Value.texts, Expression.texts,
      Cardinality.text_of_convert (fun e v => text_of_convertElement ht) hv,
      texts_of_convertMembers hts (Nat.succ.inj hlength) hrest]

theorem text_of_convertFirst {ts : List LinkedType} (hts : AllLeavesExact ts) {e : Literal}
    {v : Value} (h : convertFirst disk ts e = some v) : v.text = e.text := by
  match ts with
  | [] => cases h
  | t :: ts =>
    obtain ⟨ht, hts⟩ := hts
    rw [convertFirst] at h
    split at h
    case h_1 w hw =>
      cases h
      exact Cardinality.text_of_convert (fun e v => text_of_convertElement ht) hw
    case h_2 => exact text_of_convertFirst hts h

end

/-- What a literal stands for in a type that is built from exact types is written as the literal. -/
theorem text_eq_of_convert {t : LinkedType} (ht : t.LeavesExact) (h : t.convert disk e = .ok v) :
    v.text = e.text :=
  Cardinality.text_of_convert (fun _ _ => text_of_convertElement ht) h

/-- Pairs of a name and a place, which is a directory or else a file. -/
def namedPlaces : LinkedType :=
  let once : Occurrence := ⟨⟨0, 1⟩, default, .defaultAt default, none⟩
  let many : Cardinality := ⟨default, ⟨default, 1⟩, none, none⟩
  .alias once ⟨default, "", "Places", .isPublic⟩
    (.tuple { once with cardinality := many }
      [.fundamental once (.string 1 none none),
        .variant once
          [.fundamental once (.directory true), .fundamental once (.filename false true)]])

/-- A name that needs escapes, and a place that is no directory. -/
theorem text_eq_of_convert_namedPlaces :
    let written : Literal :=
      .list default [.tuple default [.string default "a\"b\n", .string default "x\\y"]]
    let value : Value := .list [.tuple [.string "a\"b\n", .filename ⟨"x\\y"⟩]]
    namedPlaces.LeavesExact ∧ namedPlaces.convert .empty written = .ok value ∧
      value.text = written.text := by
  intro written value
  have hleaves : namedPlaces.LeavesExact := ⟨trivial, ⟨trivial, trivial, trivial⟩, trivial⟩
  have hvalue : namedPlaces.convert .empty written = .ok value := rfl
  exact ⟨hleaves, hvalue, text_eq_of_convert hleaves hvalue⟩

end LinkedType
end Schemata
