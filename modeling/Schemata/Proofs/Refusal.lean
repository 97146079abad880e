import Schemata.Proofs.Denotation
import Mathlib.Logic.Relation

/-!
# Where a conversion is refused

A literal is compared with a type, and its parts with the parts of the type: the elements of a list
with the element of a collection, the members of a tuple with those of a tuple, the literal itself
with what an alias stands for. The first comparison that fails ends the conversion. It fails either
because of another one that it takes, or by itself, and then it is reported at its own literal. What
the alternatives of a variant say against a literal is not reported, so that a variant fails by
itself.

**Results:**
* `Comparison.outcome_eq_error_iff`: a comparison fails exactly if it leads to one that fails by
  itself, and as that one does.
* `LinkedType.convert_refused`: a failed conversion is reported at one place, that of the literal
  whose comparison failed by itself; for a variant this is the literal that it was given.
-/
namespace Schemata

/-- The one literal is the other one or stands in it, at any depth. -/
inductive Expression.IsPart {ρ : Type} (part : Expression ρ) : Expression ρ → Prop where
  | self : IsPart part part
  | tuple {place : ρ} {members : List (Expression ρ)} {member : Expression ρ}
      (hm : member ∈ members) (h : IsPart part member) : IsPart part (.tuple place members)
  | list {place : ρ} {elements : List (Expression ρ)} {element : Expression ρ}
      (he : element ∈ elements) (h : IsPart part element) : IsPart part (.list place elements)

theorem Expression.IsPart.trans {ρ : Type} {a b c : Expression ρ} (h : a.IsPart b)
    (h' : b.IsPart c) : a.IsPart c := by
  induction h' with
  | self => exact h
  | tuple hm _ ih => exact .tuple hm ih
  | list he _ ih => exact .list he ih

/-! ## Comparisons -/

/-- A literal and the type with which it is compared, or the type with its cardinality left
aside. -/
inductive Comparison where
  | whole (t : LinkedType) (e : Literal)
  | element (t : LinkedType) (e : Literal)

namespace Comparison

/-- The literal that is compared. -/
def literal : Comparison → Literal
  | whole _ e | element _ e => e

/-- The value of the literal, or what speaks against it. -/
def outcome (disk : Disk) : Comparison → Except Diagnostic Value
  | whole t e => t.convert disk e
  | element t e => t.convertElement disk e

/-- A comparison takes another one, all that it takes before having succeeded. A list or a tuple
whose length does not fit is compared no further, and neither is what is given to a variant. -/
inductive Takes (disk : Disk) : Comparison → Comparison → Prop where
  | alone {t : LinkedType} {e : Literal}
      (hsingle : t.occurrence.cardinality.isCollection = false) :
      Takes disk (whole t e) (element t e)
  | each {t : LinkedType} {place : Range} {es before after : List Literal} {e : Literal}
      (hmany : t.occurrence.cardinality.isCollection = true)
      (hcount : t.occurrence.cardinality.accepts es.length = true)
      (hparts : es = before ++ e :: after)
      (hbefore : ∀ b ∈ before, ∃ v, t.convertElement disk b = .ok v) :
      Takes disk (whole t (.list place es)) (element t e)
  | aliased {o : Occurrence} {name : Identifier} {t : LinkedType} {e : Literal} :
      Takes disk (element (.alias o name t) e) (whole t e)
  | member {o : Occurrence} {ts : List LinkedType} {place : Range} {es : List Literal}
      {before after : List (LinkedType × Literal)} {t : LinkedType} {e : Literal}
      (harity : es.length = ts.length) (hparts : ts.zip es = before ++ (t, e) :: after)
      (hbefore : ∀ b ∈ before, ∃ v, b.1.convert disk b.2 = .ok v) :
      Takes disk (element (.tuple o ts) (.tuple place es)) (whole t e)

/-- A comparison leads to another one by any number of others, each taken by the one before. -/
abbrev Leads (disk : Disk) : Comparison → Comparison → Prop :=
  Relation.ReflTransGen (Takes disk)

/-- A comparison fails by itself, and not because of one that it takes. -/
structure FailsAlone (disk : Disk) (c : Comparison) (d : Diagnostic) : Prop where
  failed : c.outcome disk = .error d
  alone : ∀ next, ¬ c.Takes disk next

variable {disk : Disk} {c next : Comparison} {d : Diagnostic}

theorem Takes.isPart (h : c.Takes disk next) : next.literal.IsPart c.literal := by
  cases h with
  | alone | aliased => exact .self
  | each _ _ hparts => exact .list (hparts ▸ List.mem_append_right _ List.mem_cons_self) .self
  | member _ hparts =>
    have hm := hparts ▸ List.mem_append_right _ List.mem_cons_self
    exact .tuple (List.of_mem_zip hm).2 .self

theorem Leads.isPart (h : c.Leads disk next) : next.literal.IsPart c.literal := by
  induction h with
  | refl => exact .self
  | tail _ hstep ih => exact hstep.isPart.trans ih

/-! ## One comparison -/

/-- What is wrong with a literal of a fundamental type is reported at the literal. -/
theorem ranges_of_parse {type : Fundamental} {e : Literal} (h : type.parse disk e = .error d) :
    d.ranges = [e.place] := by
  unfold Fundamental.parse at h
  split at h <;> cases h
  rfl

theorem convert_of_single {c : Cardinality} (h : c.isCollection = false)
    (element : Literal → Except Diagnostic Value) (e : Literal) :
    c.convert element e = element e := by
  unfold Cardinality.convert
  rw [if_neg (by simp [h])]

theorem convert_list {c : Cardinality} (h : c.isCollection = true)
    (element : Literal → Except Diagnostic Value) (place : Range) (es : List Literal) :
    c.convert element (.list place es) =
      if c.accepts es.length then (es.mapM element).map .list
      else refuse (.list place es) (.cardinalityMismatch c.boundsText es.length) := by
  unfold Cardinality.convert
  rw [if_pos h]

theorem outcome_tuple (disk : Disk) (o : Occurrence) (ts : List LinkedType) (place : Range)
    (es : List Literal) : (element (.tuple o ts) (.tuple place es)).outcome disk =
      if es.length < ts.length then
        refuse (.tuple place es) (.notEnoughTupleValues ts.length es.length)
      else if ts.length < es.length then
        refuse (.tuple place es) (.tooManyTupleValues ts.length es.length)
      else ((ts.zip es).mapM fun p : LinkedType × Literal => p.1.convert disk p.2).map .tuple := by
  rw [← LinkedType.convertMembers_eq_mapM, outcome, LinkedType.convertElement]

/-- A comparison fails as one that it takes. -/
theorem Takes.outcome_eq_error (h : c.Takes disk next) (hd : next.outcome disk = .error d) :
    c.outcome disk = .error d := by
  cases h with
  | alone hsingle =>
    rw [outcome, LinkedType.convert, convert_of_single hsingle]
    exact hd
  | each hmany hcount hparts hbefore =>
    have hfirst := mapM_eq_error_iff.2 ⟨_, _, _, hparts, hbefore, hd⟩
    rw [outcome, LinkedType.convert, convert_list hmany, if_pos hcount]
    exact map_eq_error_iff.2 hfirst
  | aliased => exact hd
  | member harity hparts hbefore =>
    have hfirst := mapM_eq_error_iff.2 ⟨_, _, _, hparts, hbefore, hd⟩
    rw [outcome_tuple, if_neg (by omega), if_neg (by omega)]
    exact map_eq_error_iff.2 hfirst

/-- What is refused at its literal, and takes no other comparison, fails by itself. -/
theorem failsAlone_of_refuse {cause : Cause} (hr : c.outcome disk = refuse c.literal cause)
    (halone : ∀ next, ¬ c.Takes disk next) (hd : c.outcome disk = .error d) :
    c.FailsAlone disk d ∧ d.ranges = [c.literal.place] := by
  refine ⟨⟨hd, halone⟩, ?_⟩
  rw [hr] at hd
  cases hd
  rfl

/-- A comparison with a type fails by itself if the literal is no list, or one of the wrong length,
where a collection is meant. -/
theorem takes_or_failsAlone_whole {t : LinkedType} {e : Literal}
    (hd : (whole t e).outcome disk = .error d) :
    (∃ next, (whole t e).Takes disk next ∧ next.outcome disk = .error d) ∨
      (whole t e).FailsAlone disk d ∧ d.ranges = [e.place] := by
  cases hmany : t.occurrence.cardinality.isCollection with
  | false =>
    rw [outcome, LinkedType.convert, convert_of_single hmany] at hd
    exact .inl ⟨_, .alone hmany, hd⟩
  | true =>
    cases e with
    | list place es =>
      have hlist : (whole t (.list place es)).outcome disk = _ := convert_list hmany _ place es
      by_cases hcount : t.occurrence.cardinality.accepts es.length = true
      · rw [hlist, if_pos hcount, map_eq_error_iff] at hd
        obtain ⟨before, e, after, hparts, hbefore, he⟩ := mapM_eq_error_iff.1 hd
        exact .inl ⟨element t e, .each hmany hcount hparts hbefore, he⟩
      · rw [if_neg hcount] at hlist
        refine .inr (failsAlone_of_refuse hlist ?_ hd)
        rintro next (hsingle | ⟨-, haccepted, -⟩)
        · simp [hmany] at hsingle
        · exact hcount haccepted
    | boolean | integer | number | string | tuple =>
      refine .inr (failsAlone_of_refuse (if_pos hmany) ?_ hd)
      rintro next (hsingle | -)
      simp [hmany] at hsingle

/-- A comparison with a type whose cardinality is left aside fails by itself if the type is
fundamental, a structure or a variant, or if the literal is no tuple, or one of the wrong length,
where a tuple is meant. -/
theorem takes_or_failsAlone_element {t : LinkedType} {e : Literal}
    (hd : (element t e).outcome disk = .error d) :
    (∃ next, (element t e).Takes disk next ∧ next.outcome disk = .error d) ∨
      (element t e).FailsAlone disk d ∧ d.ranges = [e.place] := by
  cases t with
  | fundamental o type => exact .inr ⟨⟨hd, nofun⟩, ranges_of_parse hd⟩
  | struct o id name => exact .inr (failsAlone_of_refuse rfl nofun hd)
  | «alias» o name t => exact .inl ⟨_, .aliased, hd⟩
  | variant o alternatives =>
    cases hfirst : LinkedType.convertFirst disk alternatives e with
    | some v =>
      rw [outcome, LinkedType.convertElement, hfirst] at hd
      cases hd
    | none =>
      let name := (LinkedType.variant o alternatives).displayName
      have hrefused : (element (.variant o alternatives) e).outcome disk =
          refuse e (.noVariantAlternativeMatched name) := by
        rw [outcome, LinkedType.convertElement, hfirst]
      exact .inr (failsAlone_of_refuse hrefused nofun hd)
  | tuple o ts =>
    cases e with
    | tuple place es =>
      have htuple := outcome_tuple disk o ts place es
      by_cases hfew : es.length < ts.length
      · rw [if_pos hfew] at htuple
        refine .inr (failsAlone_of_refuse htuple ?_ hd)
        rintro next (- | - | - | harity)
        omega
      · by_cases hmany : ts.length < es.length
        · rw [if_neg hfew, if_pos hmany] at htuple
          refine .inr (failsAlone_of_refuse htuple ?_ hd)
          rintro next (- | - | - | harity)
          omega
        · rw [htuple, if_neg hfew, if_neg hmany, map_eq_error_iff] at hd
          obtain ⟨before, p, after, hparts, hbefore, hp⟩ := mapM_eq_error_iff.1 hd
          exact .inl ⟨whole p.1 p.2, .member (by omega) hparts hbefore, hp⟩
    | boolean | integer | number | string | list => exact .inr (failsAlone_of_refuse rfl nofun hd)

/-! ## Chains of comparisons -/

/-- The type that is compared with. -/
def type : Comparison → LinkedType
  | whole t _ | element t _ => t

/-- Whether the cardinality of the type is still to be compared. -/
def counts : Comparison → Bool
  | whole _ _ => true
  | element _ _ => false

/-- Each comparison is with less than the one that takes it: with a part of its type, or with the
type without its cardinality. -/
theorem Takes.lt (h : c.Takes disk next) :
    2 * sizeOf next.type + next.counts.toNat < 2 * sizeOf c.type + c.counts.toNat := by
  cases h with
  | alone | each => simp [type, counts]
  | aliased =>
    simp only [type, counts, LinkedType.alias.sizeOf_spec, Bool.toNat_true, Bool.toNat_false]
    omega
  | member _ hparts =>
    have hm := hparts ▸ List.mem_append_right _ List.mem_cons_self
    have hlt := List.sizeOf_lt_of_mem (List.of_mem_zip hm).1
    simp only [type, counts, LinkedType.tuple.sizeOf_spec, Bool.toNat_true, Bool.toNat_false]
    omega

/-- A comparison that fails takes one that fails in the same way, or it fails by itself, and then it
is reported at its literal. -/
theorem takes_or_failsAlone (hd : c.outcome disk = .error d) :
    (∃ next, c.Takes disk next ∧ next.outcome disk = .error d) ∨
      c.FailsAlone disk d ∧ d.ranges = [c.literal.place] := by
  cases c with
  | whole => exact takes_or_failsAlone_whole hd
  | element => exact takes_or_failsAlone_element hd

/-- A comparison that fails leads to one that fails by itself, in the same way, and it is reported
at the literal of that one. -/
theorem leads_to_failsAlone (hd : c.outcome disk = .error d) :
    ∃ last, c.Leads disk last ∧ last.FailsAlone disk d ∧ d.ranges = [last.literal.place] := by
  induction hn : 2 * sizeOf c.type + c.counts.toNat using Nat.strongRecOn generalizing c with
  | ind n ih =>
    rcases takes_or_failsAlone hd with ⟨next, hnext, hd'⟩ | ⟨hlast, hranges⟩
    · obtain ⟨last, hleads, hlast⟩ := ih _ (hn ▸ hnext.lt) hd' rfl
      exact ⟨last, .head hnext hleads, hlast⟩
    · exact ⟨c, .refl, hlast, hranges⟩

theorem Leads.outcome_eq_error (h : c.Leads disk next) (hd : next.outcome disk = .error d) :
    c.outcome disk = .error d := by
  induction h using Relation.ReflTransGen.head_induction_on with
  | refl => exact hd
  | head hstep _ ih => exact hstep.outcome_eq_error ih

/-- A comparison fails exactly if it leads to one that fails by itself, and as that one does. -/
theorem outcome_eq_error_iff :
    c.outcome disk = .error d ↔ ∃ last, c.Leads disk last ∧ last.FailsAlone disk d :=
  ⟨fun hd => have ⟨last, hleads, hlast, _⟩ := leads_to_failsAlone hd; ⟨last, hleads, hlast⟩,
    fun ⟨_, hleads, hlast⟩ => hleads.outcome_eq_error hlast.failed⟩

end Comparison

namespace LinkedType
open Comparison

variable {t : LinkedType} {disk : Disk} {e : Literal} {d : Diagnostic}

/-- A conversion that fails is reported at one place. It is that of the literal, or of one that
stands in it, at which the comparisons of the one with the type end: its own conversion fails, and
it takes none that does. If they come to a variant that refuses what it is given, it is the place of
the whole of that. -/
theorem convert_refused (hd : t.convert disk e = .error d) :
    (∃ c, (whole t e).Leads disk c ∧ c.literal.IsPart e ∧ c.FailsAlone disk d ∧
        d.ranges = [c.literal.place]) ∧
      ∀ o alternatives given refused,
        (whole t e).Leads disk (element (.variant o alternatives) given) →
        (variant o alternatives).convertElement disk given = .error refused →
        d.ranges = [given.place] := by
  have hfailed : (whole t e).outcome disk = .error d := hd
  obtain ⟨c, hleads, hlast, hranges⟩ := leads_to_failsAlone hfailed
  refine ⟨⟨c, hleads, hleads.isPart, hlast, hranges⟩, ?_⟩
  intro o alternatives given refused hvariant hrefused
  have hsame : d = refused := by
    have hd' := hvariant.outcome_eq_error hrefused
    rw [hfailed] at hd'
    exact Except.error.inj hd'
  subst hsame
  -- a variant takes no other comparison, so that it fails by itself
  have hvariant : (element (.variant o alternatives) given).outcome disk = .error d := hrefused
  rcases takes_or_failsAlone hvariant with ⟨next, hnext, -⟩ | ⟨-, hranges⟩
  · cases hnext
  · exact hranges

/-- Any number of pairs of a count and a flag or one or more counts. -/
def readings : LinkedType :=
  let once : Occurrence := ⟨⟨0, 1⟩, default, .defaultAt default, none⟩
  let many : Cardinality := ⟨default, ⟨default, 1⟩, none, none⟩
  .alias once ⟨default, "", "Readings", .isPublic⟩
    (.tuple { once with cardinality := many }
      [.fundamental once (.integer none none none),
        .variant once
          [.fundamental once .boolean,
            .fundamental { once with cardinality := many } (.integer none none none)]])

/-- A list of a count and a flag, on the fifth line. -/
def mixedList : Literal :=
  .list ⟨default, ⟨5, 1, Nat.succ_pos 4, Nat.succ_pos 0⟩, ⟨5, 9, Nat.succ_pos 4, Nat.succ_pos 8⟩, rfl⟩
    [.integer default 3, .boolean default true]

/-- The second reading ends in such a list. No alternative takes it, and this is reported at the
list. -/
theorem convert_refused_readings :
    let written : Literal :=
      .list default [.tuple default [.integer default 1, .boolean default true],
        .tuple default [.integer default 2, mixedList]]
    ∃ d, readings.convert .empty written = .error d ∧ d.ranges = [mixedList.place] ∧
      ∃ c, (whole readings written).Leads .empty c ∧ c.literal.IsPart written ∧
        c.FailsAlone .empty d ∧ d.ranges = [c.literal.place] := by
  intro written
  exact ⟨_, rfl, rfl, (convert_refused rfl).1⟩

end LinkedType
end Schemata
