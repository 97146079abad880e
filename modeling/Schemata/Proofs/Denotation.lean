import Schemata.Conversion
import Schemata.Outcome
import Mathlib.Data.List.Forall2

/-!
# What literals denote

A type says which literals stand for which values, by what it is built from: a collection for lists
of what its element denotes, a tuple for tuples member by member, a variant for what the first of
its alternatives that takes the literal makes of it, an alias for what its own type denotes.
Conversion finds exactly these values.

**Results:**
* `Cardinality.convert_iff_repeated`: conversion as often as a cardinality says.
* `LinkedType.convert_eq_ok_iff_denotes`: conversion finds exactly what a type denotes.
-/
namespace Schemata

/-! ## Denotations -/

/-- Which literals stand for which values. -/
abbrev Denotation := Literal → Value → Prop

namespace Denotation

/-- As often as a cardinality says: a literal stands for itself if there is at most one, and else
for a list whose length lies between the bounds. -/
inductive Repeated (c : Cardinality) (element : Denotation) : Denotation where
  | alone {max : IntegerLiteral} {e : Literal} {v : Value} (hmax : c.max = some max)
      (hone : max.value.toInt ≤ 1) (h : element e v) : Repeated c element e v
  | several {place : Range} {es : List Literal} {vs : List Value}
      (hmany : ∀ max, c.max = some max → 1 < max.value.toInt)
      (hmin : c.min.value.toInt ≤ es.length)
      (hmax : ∀ max, c.max = some max → (es.length : Int) ≤ max.value.toInt)
      (h : List.Forall₂ element es vs) : Repeated c element (.list place es) (.list vs)

/-- Literals that stand for values one by one, each in a denotation of its own. -/
inductive Memberwise : List Denotation → List Literal → List Value → Prop where
  | nil : Memberwise [] [] []
  | cons {d : Denotation} {ds : List Denotation} {e : Literal} {es : List Literal} {v : Value}
      {vs : List Value} (h : d e v) (hs : Memberwise ds es vs) :
      Memberwise (d :: ds) (e :: es) (v :: vs)

theorem Memberwise.length {ds : List Denotation} {es : List Literal} {vs : List Value}
    (h : Memberwise ds es vs) : es.length = ds.length := by
  induction h with
  | nil => rfl
  | cons _ _ ih => rw [List.length_cons, List.length_cons, ih]

/-- A tuple stands for a tuple, member by member. -/
inductive Tupled (members : List Denotation) : Denotation where
  | intro {place : Range} {es : List Literal} {vs : List Value} (h : Memberwise members es vs) :
      Tupled members (.tuple place es) (.tuple vs)

/-- A literal stands for what the first denotation that takes it makes of it. -/
inductive FirstOf : List Denotation → Denotation where
  | here {d : Denotation} {ds : List Denotation} {e : Literal} {v : Value} (h : d e v) :
      FirstOf (d :: ds) e v
  | later {d : Denotation} {ds : List Denotation} {e : Literal} {v : Value}
      (hrefused : ∀ w, ¬ d e w) (h : FirstOf ds e v) : FirstOf (d :: ds) e v

end Denotation

namespace LinkedType
open Denotation

mutual

/-- The literals that stand for values of a type, its cardinality left aside. None stands for a
structure. -/
def denotesElement (disk : Disk) : LinkedType → Denotation
  | fundamental _ type => fun e v => type.parse disk e = .ok v
  | struct _ _ _ => fun _ _ => False
  | tuple _ members => Tupled (denotesAll disk members)
  | variant _ members => FirstOf (denotesAll disk members)
  | .alias _ _ aliased => Repeated aliased.occurrence.cardinality (aliased.denotesElement disk)

/-- The denotations of types with their cardinalities, one by one. -/
def denotesAll (disk : Disk) : List LinkedType → List Denotation
  | [] => []
  | t :: ts => Repeated t.occurrence.cardinality (t.denotesElement disk) :: denotesAll disk ts

end

/-- The literals that stand for values of a type. -/
def denotes (t : LinkedType) (disk : Disk) : Denotation :=
  Repeated t.occurrence.cardinality (t.denotesElement disk)

end LinkedType

/-! ## Lists of bounded length -/

namespace Expression
variable {ρ : Type}

mutual

/-- Each list in a literal has a length that a bound can state. -/
def ListsStateable : Expression ρ → Prop
  | list _ elements => elements.length < 2 ^ 63 ∧ AllListsStateable elements
  | tuple _ members => AllListsStateable members
  | boolean .. | integer .. | number .. | string .. => True

/-- Each list in some literals has a length that a bound can state. -/
def AllListsStateable : List (Expression ρ) → Prop
  | [] => True
  | e :: es => e.ListsStateable ∧ AllListsStateable es

end

theorem AllListsStateable.of_mem {es : List (Expression ρ)} (h : AllListsStateable es)
    {e : Expression ρ} (he : e ∈ es) : e.ListsStateable := by
  induction es with
  | nil => cases he
  | cons first rest ih =>
    obtain ⟨hfirst, hrest⟩ := h
    rcases List.mem_cons.1 he with rfl | he
    · exact hfirst
    · exact ih hrest he

end Expression

/-! ## Conversion -/

/-- A list of results holds the result of each element, in order. -/
theorem mapM_eq_ok_iff {ε α β : Type} {f : α → Except ε β} {as : List α} {bs : List β} :
    as.mapM f = .ok bs ↔ List.Forall₂ (fun a b => f a = .ok b) as bs := by
  induction as generalizing bs with
  | nil =>
    rw [List.forall₂_nil_left_iff]
    exact ⟨fun h => (Except.ok.inj h).symm, fun h => h ▸ rfl⟩
  | cons a as ih =>
    rw [List.mapM_cons, List.forall₂_cons_left_iff, bind_eq_ok_iff]
    constructor
    · rintro ⟨b, hb, h⟩
      obtain ⟨rest, hrest, h⟩ := bind_eq_ok_iff.1 h
      exact ⟨b, rest, hb, ih.1 hrest, (Except.ok.inj h).symm⟩
    · rintro ⟨b, rest, hb, hrest, rfl⟩
      exact ⟨b, hb, bind_eq_ok_iff.2 ⟨rest, ih.2 hrest, rfl⟩⟩

theorem forall₂_iff_of_mem {α β : Type} {R S : α → β → Prop} {as : List α} {bs : List β}
    (h : ∀ a ∈ as, ∀ b, R a b ↔ S a b) : List.Forall₂ R as bs ↔ List.Forall₂ S as bs := by
  induction as generalizing bs with
  | nil => simp only [List.forall₂_nil_left_iff]
  | cons a as ih =>
    have hrest : ∀ bs, List.Forall₂ R as bs ↔ List.Forall₂ S as bs :=
      fun bs => ih fun x hx => h x (List.mem_cons_of_mem _ hx)
    simp only [List.forall₂_cons_left_iff, hrest, h a List.mem_cons_self]

open Denotation

theorem Cardinality.isCollection_iff {c : Cardinality} :
    c.isCollection = true ↔ ∀ max, c.max = some max → 1 < max.value.toInt := by
  have hone : ∀ x : Int64, (1 : Int64) < x ↔ 1 < x.toInt := fun x => Int64.lt_iff_toInt_lt
  unfold isCollection
  cases c.max with
  | none => simp
  | some max => simp [hone]

theorem Cardinality.isCollection_eq_false_iff {c : Cardinality} :
    c.isCollection = false ↔ ∃ max, c.max = some max ∧ max.value.toInt ≤ 1 := by
  rw [← Bool.not_eq_true, isCollection_iff]
  simp only [not_forall, exists_prop, Int.not_lt]

/-- If the element is converted to what it denotes, it is so as often as a cardinality says. -/
theorem Cardinality.convert_iff_repeated {c : Cardinality} {d : Denotation}
    {element : Literal → Except Diagnostic Value}
    (h : ∀ e, e.ListsStateable → ∀ v, element e = .ok v ↔ d e v) {e : Literal}
    (he : e.ListsStateable) {v : Value} : c.convert element e = .ok v ↔ Repeated c d e v := by
  unfold Cardinality.convert
  split
  case isTrue hmany =>
    rw [isCollection_iff] at hmany
    -- a literal that is alone would have a maximum of one
    have halone : ∀ max, c.max = some max → ¬ max.value.toInt ≤ 1 :=
      fun max hmax => Int.not_le.2 (hmany max hmax)
    cases e with
    | list place es =>
      obtain ⟨hlength, hes⟩ := he
      have hcount : es.length ≤ countLimit := by
        simp only [countLimit, Nat.pow_eq]
        omega
      have heach : List.Forall₂ (fun e v => element e = .ok v) es =
          List.Forall₂ d es :=
        funext fun vs => propext (forall₂_iff_of_mem fun e he => h e (hes.of_mem he))
      simp only [accepts_iff hcount]
      split
      case isTrue hbounds =>
        constructor
        · intro hv
          cases hmap : es.mapM element with
          | error e => rw [hmap] at hv; cases hv
          | ok vs =>
            rw [hmap] at hv
            cases hv
            exact .several hmany hbounds.1 hbounds.2 (heach ▸ mapM_eq_ok_iff.1 hmap)
        · intro hv
          cases hv with
          | alone hmax hone => exact absurd hone (halone _ hmax)
          | several _ _ _ hvs => rw [mapM_eq_ok_iff.2 (heach ▸ hvs)]; rfl
      case isFalse hbounds =>
        refine ⟨nofun, fun hv => ?_⟩
        cases hv with
        | alone hmax hone => exact absurd hone (halone _ hmax)
        | several _ hmin hmax => exact absurd ⟨hmin, hmax⟩ hbounds
    | boolean | integer | number | string | tuple =>
      refine ⟨nofun, fun hv => ?_⟩
      cases hv with
      | alone hmax hone => exact absurd hone (halone _ hmax)
  case isFalse hsingle =>
    obtain ⟨max, hmax, hone⟩ := isCollection_eq_false_iff.1 (Bool.eq_false_iff.2 hsingle)
    rw [h e he]
    refine ⟨.alone hmax hone, fun hv => ?_⟩
    cases hv with
    | alone _ _ hv => exact hv
    | several hmany => exact absurd (hmany max hmax) (Int.not_lt.2 hone)

namespace LinkedType

variable {disk : Disk}

theorem length_denotesAll (ts : List LinkedType) : (denotesAll disk ts).length = ts.length := by
  induction ts with
  | nil => rfl
  | cons t ts ih => rw [denotesAll, List.length_cons, List.length_cons, ih]

theorem length_eq_of_tupled {members : List LinkedType} {place : Range} {es : List Literal}
    {v : Value} (h : Tupled (denotesAll disk members) (.tuple place es) v) :
    es.length = members.length := by
  cases h with
  | intro h => rw [h.length, length_denotesAll]

mutual

/-- Conversion finds what a type denotes, its cardinality left aside. -/
theorem convertElement_eq_ok_iff (t : LinkedType) (e : Literal) (he : e.ListsStateable)
    (v : Value) : t.convertElement disk e = .ok v ↔ t.denotesElement disk e v := by
  match t with
  | fundamental o type => rw [convertElement, denotesElement]
  | struct o id name => exact ⟨nofun, nofun⟩
  | .alias o name aliased =>
    rw [convertElement, denotesElement]
    exact Cardinality.convert_iff_repeated (convertElement_eq_ok_iff aliased) he
  | tuple o members =>
    rw [denotesElement]
    cases e with
    | tuple place es =>
      have harity : ¬ es.length = members.length →
          ¬ Tupled (denotesAll disk members) (.tuple place es) v :=
        fun hne h => hne (length_eq_of_tupled h)
      rw [convertElement]
      split
      case isTrue hfew => exact ⟨nofun, fun h => absurd h (harity (by omega))⟩
      case isFalse hfew =>
        split
        case isTrue hmany => exact ⟨nofun, fun h => absurd h (harity (by omega))⟩
        case isFalse hmany =>
          have hlength : es.length = members.length := by omega
          constructor
          · intro h
            cases hvs : convertMembers disk members es with
            | error d => rw [hvs] at h; cases h
            | ok vs =>
              rw [hvs] at h
              cases h
              exact .intro ((convertMembers_eq_ok_iff members hlength he).1 hvs)
          · intro h
            cases h with
            | intro h => rw [(convertMembers_eq_ok_iff members hlength he).2 h]; rfl
    | boolean | integer | number | string | list => exact ⟨nofun, nofun⟩
  | variant o members =>
    rw [convertElement, denotesElement, ← convertFirst_eq_some_iff members e he]
    cases convertFirst disk members e with
    | none => exact ⟨nofun, nofun⟩
    | some w => simp

theorem convertMembers_eq_ok_iff (ts : List LinkedType) {es : List Literal}
    (hlength : es.length = ts.length) (he : Expression.AllListsStateable es) {vs : List Value} :
    convertMembers disk ts es = .ok vs ↔ Memberwise (denotesAll disk ts) es vs := by
  match ts, es with
  | [], [] =>
    refine ⟨fun h => ?_, fun h => ?_⟩
    · cases h
      exact .nil
    · cases h
      rfl
  | t :: ts, e :: es =>
    have hfirst : ∀ v, t.convert disk e = .ok v ↔ _ :=
      fun v => Cardinality.convert_iff_repeated (convertElement_eq_ok_iff t) he.1 (v := v)
    have hrest : ∀ vs, convertMembers disk ts es = .ok vs ↔ _ :=
      fun vs => convertMembers_eq_ok_iff ts (Nat.succ.inj hlength) he.2
    rw [convertMembers, denotesAll, bind_eq_ok_iff]
    constructor
    · rintro ⟨v, hv, h⟩
      obtain ⟨vs, hvs, h⟩ := bind_eq_ok_iff.1 h
      cases h
      exact .cons ((hfirst v).1 hv) ((hrest vs).1 hvs)
    · intro h
      cases h with
      | cons h hs =>
        exact ⟨_, (hfirst _).2 h, bind_eq_ok_iff.2 ⟨_, (hrest _).2 hs, rfl⟩⟩

theorem convertFirst_eq_some_iff (ts : List LinkedType) (e : Literal) (he : e.ListsStateable)
    {v : Value} : convertFirst disk ts e = some v ↔ FirstOf (denotesAll disk ts) e v := by
  match ts with
  | [] => exact ⟨nofun, nofun⟩
  | t :: ts =>
    have hfirst : ∀ v, t.convert disk e = .ok v ↔ _ :=
      fun v => Cardinality.convert_iff_repeated (convertElement_eq_ok_iff t) he (v := v)
    have hrest := convertFirst_eq_some_iff ts e he (v := v)
    rw [convertFirst, denotesAll]
    change (match t.convert disk e with
      | .ok value => some value
      | .error _ => convertFirst disk ts e) = some v ↔ _
    cases hw : t.convert disk e with
    | ok w =>
      have hd := (hfirst w).1 hw
      constructor
      · intro h
        cases h
        exact .here hd
      · intro h
        cases h with
        | here h =>
          rw [← hfirst, hw] at h
          cases h
          rfl
        | later hrefused _ => exact absurd hd (hrefused w)
    | error d =>
      have hrefused : ∀ w, ¬ Repeated t.occurrence.cardinality (t.denotesElement disk) e w := by
        intro w hd
        rw [← hfirst, hw] at hd
        cases hd
      dsimp only
      rw [hrest]
      constructor
      · exact .later hrefused
      · intro h
        cases h with
        | here h => exact absurd h (hrefused v)
        | later _ h => exact h

end

/-- Conversion finds exactly what a type denotes, if no list in the literal is longer than a bound
can state. -/
theorem convert_eq_ok_iff_denotes {t : LinkedType} {disk : Disk} {e : Literal}
    (he : e.ListsStateable) {v : Value} : t.convert disk e = .ok v ↔ t.denotes disk e v :=
  Cardinality.convert_iff_repeated t.convertElement_eq_ok_iff he

/-- A truth value, or else one or more integers behind an alias that is itself optional. -/
def flagOrCounts : LinkedType :=
  let place : Range := default
  let once : Occurrence := ⟨⟨0, 1⟩, place, .defaultAt place, none⟩
  let optional : Cardinality := ⟨place, ⟨place, 0⟩, some ⟨place, 1⟩, none⟩
  let many : Cardinality := ⟨place, ⟨place, 1⟩, none, none⟩
  .variant once
    [.fundamental once .boolean,
      .alias { once with cardinality := optional } ⟨place, "", "Counts", .isPublic⟩
        (.fundamental { once with cardinality := many } (.integer none none none))]

/-- A list of two integers is no truth value, but denotes a list of counts. -/
theorem convert_eq_ok_iff_denotes_flagOrCounts :
    let counts : Literal := .list default [.integer default 1, .integer default 2]
    counts.ListsStateable ∧
      flagOrCounts.denotes .empty counts (.list [.integer 1, .integer 2]) := by
  have hlists : Expression.ListsStateable
      (.list default [.integer default 1, .integer default 2] : Literal) :=
    ⟨by decide, trivial, trivial, trivial⟩
  exact ⟨hlists, (convert_eq_ok_iff_denotes hlists).1 rfl⟩

end LinkedType
end Schemata
