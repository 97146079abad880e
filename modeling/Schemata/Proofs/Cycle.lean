import Schemata.Trail
import Mathlib.Data.List.Nodup

/-!
# Cycles and trails

Definitions refer to each other along edges that are labelled with the references. A trail records
the edges by which the definitions that are being worked on were entered, so meeting one of them
again closes a simple cycle, and the trail spells it.

**Results:**
* `Grounded.not_onCycle`: no cycle is reached where every way ends.
* `Threads.spells_cycle`: the diagnostic for a node that is on the trail spells a simple cycle
  through the node.
-/
namespace Schemata

variable {ν : Type}

/-! ## Ways -/

/-- A way along labelled edges. Each of its steps has the label of its edge and the node to which it
leads. -/
inductive Way (Edge : ν → Range → ν → Prop) : ν → List (Range × ν) → ν → Prop where
  | nil (u : ν) : Way Edge u [] u
  | cons {u v w : ν} {r : Range} {way : List (Range × ν)} (e : Edge u r v) (h : Way Edge v way w) :
      Way Edge u ((r, v) :: way) w

/-- Some way leads from the one node to the other. -/
def Reaches (Edge : ν → Range → ν → Prop) (u v : ν) : Prop := ∃ way, Way Edge u way v

/-- A way that is not empty leads from the node back to itself. -/
def OnCycle (Edge : ν → Range → ν → Prop) (u : ν) : Prop := ∃ way, way ≠ [] ∧ Way Edge u way u

/-- The way goes around a simple cycle: it leads back to where it began and meets no node twice. -/
structure IsCircuit (Edge : ν → Range → ν → Prop) (u : ν) (way : List (Range × ν)) : Prop where
  closed : Way Edge u way u
  ne_nil : way ≠ []
  distinct : (way.map Prod.snd).Nodup

/-- Every way from the node ends. -/
def Grounded (Edge : ν → Range → ν → Prop) (u : ν) : Prop := Acc (fun v u => ∃ r, Edge u r v) u

/-- The diagnostic names the node and spells a simple cycle through it, the innermost label
first. -/
def SpellsCycle (Edge : ν → Range → ν → Prop) (name : ν → Identifier) (u : ν) (e : Diagnostic) :
    Prop :=
  e.cause = .circularTypeReference (name u).name ∧
    ∃ way, IsCircuit Edge u way ∧ e.ranges = (way.map Prod.fst).reverse

variable {Edge : ν → Range → ν → Prop}

theorem Way.append {u v w : ν} {way rest : List (Range × ν)} (h : Way Edge u way v)
    (h' : Way Edge v rest w) : Way Edge u (way ++ rest) w := by
  induction h with
  | nil => exact h'
  | cons e _ ih => exact .cons e (ih h')

theorem Way.snoc {u v w : ν} {r : Range} {way : List (Range × ν)} (h : Way Edge u way v)
    (e : Edge v r w) : Way Edge u (way ++ [(r, w)]) w :=
  h.append (.cons e (.nil w))

theorem Reaches.refl (u : ν) : Reaches Edge u u := ⟨[], .nil u⟩

theorem Reaches.head {u v w : ν} {r : Range} (e : Edge u r v) (h : Reaches Edge v w) :
    Reaches Edge u w := by
  obtain ⟨way, h⟩ := h
  exact ⟨_, .cons e h⟩

theorem Reaches.snoc {u v w : ν} {r : Range} (h : Reaches Edge u v) (e : Edge v r w) :
    Reaches Edge u w := by
  obtain ⟨way, h⟩ := h
  exact ⟨_, h.snoc e⟩

/-- What holds of a node and is passed on along edges holds of all that is reached. -/
theorem Reaches.closed {P : ν → Prop} (hc : ∀ u r v, Edge u r v → P u → P v) {u v : ν}
    (h : Reaches Edge u v) (hu : P u) : P v := by
  obtain ⟨way, h⟩ := h
  induction h with
  | nil => exact hu
  | cons e _ ih => exact ih (hc _ _ _ e hu)

theorem IsCircuit.onCycle {u : ν} {way : List (Range × ν)} (h : IsCircuit Edge u way) :
    OnCycle Edge u := ⟨way, h.ne_nil, h.closed⟩

/-! ## Ways that end -/

theorem grounded_iff {u : ν} : Grounded Edge u ↔ ∀ r v, Edge u r v → Grounded Edge v := by
  constructor
  · intro h r v e
    exact h.inv ⟨r, e⟩
  · intro h
    refine Acc.intro u ?_
    rintro v ⟨r, e⟩
    exact h r v e

theorem Grounded.of_reaches {u v : ν} (hu : Grounded Edge u) (h : Reaches Edge u v) :
    Grounded Edge v :=
  h.closed (fun _ r v e hu => grounded_iff.1 hu r v e) hu

/-- A node is on no cycle if every way from it ends. -/
theorem Grounded.not_onCycle {u : ν} (h : Grounded Edge u) : ¬ OnCycle Edge u := by
  induction h with
  | intro u _ ih =>
    rintro ⟨way, hne, hway⟩
    cases hway with
    | nil => exact hne rfl
    | @cons _ v _ r rest e h => exact ih v ⟨r, e⟩ ⟨rest ++ [(r, v)], by simp, h.snoc e⟩

/-! ## Trails along edges -/

/-- The steps of a trail entered the given nodes, innermost first, each along an edge from the one
before it. -/
inductive Threads (Edge : ν → Range → ν → Prop) (key : ν → ElementId) :
    List TrailStep → List ν → Prop where
  | nil : Threads Edge key [] []
  | cons {steps : List TrailStep} {us : List ν} {v : ν} {via : Range}
      (h : Threads Edge key steps us) (e : ∀ u, us.head? = some u → Edge u via v) :
      Threads Edge key (⟨key v, via⟩ :: steps) (v :: us)

variable {key : ν → ElementId}

/-- From a node whose id is on a trail, the later steps of the trail lead to the innermost one. -/
theorem Threads.exists_way {steps : List TrailStep} {us : List ν} (h : Threads Edge key steps us)
    {id : ElementId} (hon : id ∈ steps.map TrailStep.id) :
    ∃ v ∈ us, key v = id ∧ ∃ w way, us.head? = some w ∧ Way Edge v way w ∧
      way.map Prod.fst = ((steps.takeWhile (·.id ≠ id)).map (·.range)).reverse ∧
      way.map (fun s => key s.2) = ((steps.takeWhile (·.id ≠ id)).map (·.id)).reverse := by
  induction h with
  | nil => simp at hon
  | @cons steps us v via h e ih =>
    by_cases hv : key v = id
    · refine ⟨v, List.mem_cons_self, hv, v, [], rfl, .nil v, ?_, ?_⟩ <;> simp [hv]
    · rw [List.map_cons, List.mem_cons] at hon
      obtain ⟨u, hu, hid, w, way, hw, hway, hfst, hkey⟩ := ih (hon.resolve_left (Ne.symm hv))
      refine ⟨u, List.mem_cons_of_mem _ hu, hid, v, way ++ [(via, v)], rfl, hway.snoc (e w hw),
        ?_, ?_⟩
      · simp [hv, hfst]
      · simp [hv, hkey]

/-- Entering a node whose id is on the trail closes a simple cycle: its labels are the references of
the trail since then and the one by which the node would be entered. -/
theorem Threads.exists_circuit {ids : List ElementId} {trail : Trail ids} {us : List ν}
    (h : Threads Edge key trail.steps us) {v : ν} {via : Range}
    (hinj : ∀ u ∈ us, key u = key v → u = v) (hon : key v ∈ trail.stepIds)
    (e : ∀ u, us.head? = some u → Edge u via v) :
    ∃ way, IsCircuit Edge v way ∧ via :: trail.since (key v) = (way.map Prod.fst).reverse := by
  obtain ⟨u, hu, hid, w, way, hw, hway, hfst, hkey⟩ := h.exists_way hon
  obtain rfl := hinj u hu hid
  refine ⟨way ++ [(via, u)], ⟨hway.snoc (e w hw), by simp, ?_⟩, ?_⟩
  · refine List.Nodup.of_map key ?_
    simp only [List.map_append, List.map_map, List.map_cons, List.map_nil]
    rw [show way.map (key ∘ Prod.snd) = _ from hkey]
    have hlater : ((trail.steps.takeWhile (·.id ≠ key u)).map (·.id)).Nodup :=
      trail.distinct.sublist ((List.takeWhile_sublist _).map _)
    refine List.Nodup.append (List.nodup_reverse.2 hlater) (List.nodup_singleton _) ?_
    intro id hl hs
    obtain rfl := List.mem_singleton.1 hs
    obtain ⟨s, hs, hsid⟩ := List.mem_map.1 (List.mem_reverse.1 hl)
    have hother := List.all_eq_true.1 List.all_takeWhile s hs
    simp [hsid] at hother
  · simp [hfst, Trail.since]

/-- The diagnostic for a node that is on the trail spells a simple cycle through the node. -/
theorem Threads.spells_cycle {ids : List ElementId} {trail : Trail ids} {us : List ν}
    (h : Threads Edge key trail.steps us) {name : ν → Identifier} {v : ν} {via : Range}
    (hinj : ∀ u ∈ us, key u = key v → u = v) (hon : key v ∈ trail.stepIds)
    (e : ∀ u, us.head? = some u → Edge u via v) :
    SpellsCycle Edge name v (trail.cycle (key v) (name v) via) := by
  obtain ⟨way, hway, hranges⟩ := h.exists_circuit hinj hon e
  exact ⟨rfl, way, hway, hranges⟩

/-- A node from which every way ends is not on the trail. -/
theorem Threads.not_mem_of_grounded {ids : List ElementId} {trail : Trail ids} {us : List ν}
    (h : Threads Edge key trail.steps us) {v : ν} {via : Range}
    (hinj : ∀ u ∈ us, key u = key v → u = v) (e : ∀ u, us.head? = some u → Edge u via v)
    (hv : Grounded Edge v) : key v ∉ trail.stepIds := by
  intro hon
  obtain ⟨way, hway, -⟩ := h.exists_circuit hinj hon e
  exact hv.not_onCycle hway.onCycle

end Schemata
