import Schemata.Identifier
import Schemata.ElementId

/-!
# Trails

While a definition is worked on, its id is on a trail together with the reference by which it was
entered. Meeting an id that is on the trail is a cycle, which is reported with the references that
form it, innermost first. No id is on a trail twice, so a trail cannot grow for ever.

Results: `Trail.remaining_push_lt` (a longer trail leaves fewer definitions to enter).
-/
namespace Schemata

/-- One step of a trail: what was entered, and the reference by which. -/
structure TrailStep where
  /-- The id of the definition. -/
  id : ElementId
  /-- The reference. -/
  range : Range
  deriving Inhabited

/-- The definitions that are being worked on, innermost first. They are distinct, and all of them
are among the given ids. -/
structure Trail (ids : List ElementId) where
  /-- The steps, innermost first. -/
  steps : List TrailStep
  distinct : (steps.map TrailStep.id).Nodup
  known : ∀ s ∈ steps, s.id ∈ ids

namespace Trail
variable {ids : List ElementId}

/-- Nothing is being worked on. -/
def empty : Trail ids := ⟨[], by simp, by simp⟩

/-- The ids on a trail. -/
def stepIds (t : Trail ids) : List ElementId := t.steps.map TrailStep.id

/-- The ids that may still be entered. -/
def remaining (t : Trail ids) : Nat := (ids.filter (· ∉ t.stepIds)).length

/-- A trail with one more step. -/
def push (t : Trail ids) (s : TrailStep) (fresh : s.id ∉ t.stepIds) (known : s.id ∈ ids) :
    Trail ids where
  steps := s :: t.steps
  distinct := List.nodup_cons.2 ⟨fresh, t.distinct⟩
  known := by
    intro x hx
    rcases List.mem_cons.1 hx with rfl | hx
    · exact known
    · exact t.known x hx

/-- A longer trail leaves fewer definitions to enter. -/
theorem remaining_push_lt (t : Trail ids) (s : TrailStep) (fresh : s.id ∉ t.stepIds)
    (known : s.id ∈ ids) : (t.push s fresh known).remaining < t.remaining := by
  have hsub : ids.filter (· ∉ (t.push s fresh known).stepIds) =
      (ids.filter (· ∉ t.stepIds)).filter (· ≠ s.id) := by
    rw [List.filter_filter]
    apply List.filter_congr
    intro x _
    simp [stepIds, push]
  unfold remaining
  rw [hsub]
  refine List.length_filter_lt_length_iff_exists.2 ⟨s.id, ?_, by simp⟩
  simp [List.mem_filter, known, fresh]

/-- The references by which the definitions after the given one were entered, innermost first. -/
def since (t : Trail ids) (id : ElementId) : List Range :=
  (t.steps.takeWhile (·.id ≠ id)).map (·.range)

/-- The cycle that entering a definition on the trail closes. -/
def cycle (t : Trail ids) (id : ElementId) (name : Identifier) (via : Range) : Diagnostic :=
  ⟨.circularTypeReference name.name, via, t.since id⟩

end Trail

end Schemata
