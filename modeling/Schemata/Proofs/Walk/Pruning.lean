import Mathlib
import Schemata.Link
import Schemata.LinkedWorkspace
import Schemata.Proofs.Build.Sketch
import Schemata.Proofs.Table.Identity
import Schemata.Proofs.Walk.Ownership

/-!
# Pruned walks

A visitor that never stops the walk can only leave calls out. Its answers are compared with those of
the visitor that goes on everywhere, whose walk enters everything that is owned: a call is kept
exactly if no element around it skips its parts, and the element at which it would be made has not
skipped it.

**Results:**
* `Walks.calls_eq_filter`: a trace without stops has the calls that its answers keep.
* `Visitor.calls_prunes`: a walk makes the calls of the walk that goes on everywhere, less those
  that its answers prune; and that walk enters everything once, in order.
-/
namespace Schemata

/-- The element that a call is about. -/
def Call.element : Call → Element
  | enter e | beforeDetails e | detail e _ | beforeParts e | leave e => e

/-- The calls enter everything that the element owns, each once, parents before children and
children in the order of declaration. -/
structure EntersEach (top : Element) (calls : List (Lineage × Call)) : Prop where
  once : (entered calls).Nodup
  owned : ∀ l, l ∈ entered calls ↔ Owned [(0, top)] l
  ascending : (entered calls).Pairwise Lineage.Before
  /-- Every call is about the element at which it is made. -/
  element : ∀ x ∈ calls, x.1.head?.map Prod.snd = some x.2.element

/-! ## Rules for answers -/

/-- An answer for every call that may be made at a lineage. -/
abbrev Rule := Lineage → Call → Control

namespace Rule

variable (rule : Rule)

/-- The details of the element are not skipped on entering it. -/
def opensDetails (l : Lineage) (e : Element) : Bool := rule l (.enter e) != .skipDetails

/-- The detail is shown: nothing before it skips the rest of the details. -/
def shows (l : Lineage) (e : Element) (d : Detail) : Bool :=
  rule.opensDetails l e && rule l (.beforeDetails e) != .skipDetails &&
    (e.details.takeWhile (· != d)).all fun before => rule l (.detail e before) != .skipDetails

/-- A call before that for the parts skips them. -/
def skipsEarly (l : Lineage) (e : Element) : Bool :=
  rule l (.enter e) == .skipParts ||
    (rule.opensDetails l e && rule l (.beforeDetails e) == .skipParts) ||
      e.details.any fun d => rule.shows l e d && rule l (.detail e d) == .skipParts

/-- Some call at the element skips its parts. -/
def skipsParts (l : Lineage) (e : Element) : Bool :=
  rule.skipsEarly l e || rule l (.beforeParts e) == .skipParts

/-- No element of the lineage skips its parts. -/
def reaches : Lineage → Bool
  | [] => true
  | (index, e) :: above => !rule.skipsParts ((index, e) :: above) e && reaches above

/-- The element itself does not skip the call. -/
def keepsOwn (l : Lineage) : Call → Bool
  | .enter _ | .leave _ => true
  | .beforeDetails e => rule.opensDetails l e
  | .detail e d => rule.shows l e d
  | .beforeParts e => !rule.skipsEarly l e

/-- Neither the element nor one around it skips the call. -/
def keeps (x : Lineage × Call) : Bool := rule.reaches x.1.tail && rule.keepsOwn x.1 x.2

/-- The events are answered by the rule, and none of the answers stops the walk. -/
def Answers (xs : List Event) : Prop :=
  ∀ x ∈ xs, x.answer = rule x.lineage x.call ∧ x.answer ≠ .stop

variable {rule}

theorem Answers.left {xs ys : List Event} (h : rule.Answers (xs ++ ys)) : rule.Answers xs :=
  (List.forall_mem_append.1 h).1

theorem Answers.right {xs ys : List Event} (h : rule.Answers (xs ++ ys)) : rule.Answers ys :=
  (List.forall_mem_append.1 h).2

theorem Answers.tail {x : Event} {xs : List Event} (h : rule.Answers (x :: xs)) :
    rule.Answers xs := (List.forall_mem_cons.1 h).2

theorem Answers.head {x : Event} {xs : List Event} (h : rule.Answers (x :: xs)) :
    x.answer = rule x.lineage x.call ∧ x.answer ≠ .stop := (List.forall_mem_cons.1 h).1

theorem reaches_of_append (below : Lineage) {l : Lineage} (h : rule.reaches (below ++ l) = true) :
    rule.reaches l = true := by
  induction below with
  | nil => exact h
  | cons x below ih =>
    rw [List.cons_append, reaches, Bool.and_eq_true] at h
    exact ih h.2

end Rule

/-! ## The calls of a tree -/

namespace Tree

/-- The calls for the details of an element. -/
def detailCalls (l : Lineage) (e : Element) : List (Lineage × Call) :=
  (l, .beforeDetails e) :: e.details.map fun d => (l, .detail e d)

mutual

/-- All calls that a walk of a tree can make, in order. -/
def calls (l : Lineage) : Tree → List (Lineage × Call)
  | node e parts =>
    (l, .enter e) ::
      ((detailCalls l e ++ (l, .beforeParts e) :: callsOf l 0 parts) ++ [(l, .leave e)])

/-- All calls for trees that are the parts of an element from a position on. -/
def callsOf (l : Lineage) (index : Nat) : List Tree → List (Lineage × Call)
  | [] => []
  | t :: ts => t.calls ((index, t.element) :: l) ++ callsOf l (index + 1) ts

end

theorem entered_detailCalls (l : Lineage) (e : Element) : entered (detailCalls l e) = [] := by
  rw [entered, List.filterMap_eq_nil_iff]
  intro x hx
  rcases List.mem_cons.1 hx with rfl | hx
  · rfl
  · obtain ⟨d, -, rfl⟩ := List.mem_map.1 hx
    rfl

mutual

theorem entered_calls (t : Tree) (l : Lineage) : entered (t.calls l) = t.lineages l := by
  match t with
  | .node e parts =>
    rw [calls, lineages, ← entered_callsOf parts l 0, entered_around, entered_append,
      entered_detailCalls]
    rfl

theorem entered_callsOf (ts : List Tree) (l : Lineage) (index : Nat) :
    entered (callsOf l index ts) = lineagesOf l index ts := by
  match ts with
  | [] => rfl
  | t :: ts =>
    rw [callsOf, lineagesOf, entered_append, entered_calls t, entered_callsOf ts]

end

mutual

theorem lineage_of_mem_calls (t : Tree) {l : Lineage} {x : Lineage × Call} (hx : x ∈ t.calls l) :
    x.1 = l ∨ ∃ below position f, x.1 = below ++ (position, f) :: l := by
  match t with
  | .node e parts =>
    simp only [calls, detailCalls, List.mem_cons, List.mem_append, List.mem_map,
      List.not_mem_nil, or_false] at hx
    rcases hx with rfl | ((rfl | ⟨d, -, rfl⟩) | rfl | hx) | rfl
    · exact .inl rfl
    · exact .inl rfl
    · exact .inl rfl
    · exact .inl rfl
    · exact .inr (lineage_of_mem_callsOf parts hx)
    · exact .inl rfl

theorem lineage_of_mem_callsOf (ts : List Tree) {l : Lineage} {index : Nat} {x : Lineage × Call}
    (hx : x ∈ callsOf l index ts) : ∃ below position f, x.1 = below ++ (position, f) :: l := by
  match ts with
  | [] => cases hx
  | t :: ts =>
    rw [callsOf, List.mem_append] at hx
    rcases hx with hx | hx
    · rcases lineage_of_mem_calls t hx with h | ⟨below, position, f, h⟩
      · exact ⟨[], index, t.element, h⟩
      · exact ⟨below ++ [(position, f)], index, t.element, by rw [h]; simp⟩
    · exact lineage_of_mem_callsOf ts hx

end

mutual

theorem element_of_mem_calls (t : Tree) {index : Nat} {above : Lineage} {x : Lineage × Call}
    (hx : x ∈ t.calls ((index, t.element) :: above)) :
    x.1.head?.map Prod.snd = some x.2.element := by
  match t with
  | .node e parts =>
    simp only [calls, detailCalls, List.mem_cons, List.mem_append, List.mem_map,
      List.not_mem_nil, or_false] at hx
    rcases hx with rfl | ((rfl | ⟨d, -, rfl⟩) | rfl | hx) | rfl
    · rfl
    · rfl
    · rfl
    · rfl
    · exact element_of_mem_callsOf parts hx
    · rfl

theorem element_of_mem_callsOf (ts : List Tree) {l : Lineage} {index : Nat}
    {x : Lineage × Call} (hx : x ∈ callsOf l index ts) :
    x.1.head?.map Prod.snd = some x.2.element := by
  match ts with
  | [] => cases hx
  | t :: ts =>
    rw [callsOf, List.mem_append] at hx
    rcases hx with hx | hx
    · exact element_of_mem_calls t hx
    · exact element_of_mem_callsOf ts hx

end

/-- The calls of the tree of an element enter each thing that the element owns. -/
theorem entersEach_calls (top : Element) :
    EntersEach top ((ofElement top).calls [(0, top)]) where
  once := by
    rw [entered_calls]
    exact (lineages_ascending _ _).imp fun h => h.ne
  owned l := by rw [entered_calls, mem_lineages_iff_owned]
  ascending := by
    rw [entered_calls]
    exact lineages_ascending _ _
  element x hx := by
    have hx : x ∈ (ofElement top).calls [(0, (ofElement top).element)] := by
      rwa [element_ofElement]
    exact element_of_mem_calls (ofElement top) hx

end Tree

/-! ## Details -/

theorem Element.details_nodup (e : Element) : e.details.Nodup := by
  cases e with
  | statement s => cases s <;> simp [Element.details, Statement.details]
  | type t => cases t <;> simp [Element.details, LinkedType.details]
  | expression l => cases l <;> simp [Element.details, Literal.details]
  | _ => simp [Element.details]

theorem not_mem_of_nodup {before after : List Detail} {d : Detail}
    (h : (before ++ d :: after).Nodup) : d ∉ before :=
  fun hd => (List.nodup_append.1 h).2.2 d hd d List.mem_cons_self rfl

theorem takeWhile_bne {before after : List Detail} {d : Detail} (h : d ∉ before) :
    (before ++ d :: after).takeWhile (· != d) = before := by
  rw [List.takeWhile_append_of_pos]
  · simp
  · intro x hx
    exact bne_iff_ne.2 fun heq => h (heq ▸ hx)

section Pruned

variable {rule : Rule} {l : Lineage} {e : Element}

namespace Rule

/-- A detail is shown if nothing before it skips the rest. -/
theorem shows_of_details {before after : List Detail} {d : Detail}
    (hds : e.details = before ++ d :: after) (hopen : rule.opensDetails l e = true)
    (hb : rule l (.beforeDetails e) ≠ .skipDetails)
    (hbefore : ∀ x ∈ before, rule l (.detail e x) ≠ .skipDetails) :
    rule.shows l e d = true := by
  have hd : d ∉ before := not_mem_of_nodup (hds ▸ e.details_nodup)
  simp only [shows, hopen, hds, takeWhile_bne hd, Bool.true_and, Bool.and_eq_true, bne_iff_ne,
    List.all_eq_true]
  exact ⟨hb, hbefore⟩

/-- Behind a detail that skips the rest, none is shown. -/
theorem not_shows_of_details {before after : List Detail} {d d' : Detail}
    (hds : e.details = before ++ d :: after) (hd : rule l (.detail e d) = .skipDetails)
    (hd' : d' ∈ after) : rule.shows l e d' = false := by
  obtain ⟨between, rest, rfl⟩ := List.append_of_mem hd'
  have hsplit : e.details = (before ++ d :: between) ++ d' :: rest := by
    rw [hds, List.append_assoc, List.cons_append]
  have hfirst : d' ∉ before ++ d :: between := not_mem_of_nodup (hsplit ▸ e.details_nodup)
  have hall : ((e.details.takeWhile (· != d')).all fun x =>
      rule l (.detail e x) != .skipDetails) = false := by
    rw [hsplit, takeWhile_bne hfirst, List.all_eq_false]
    exact ⟨d, by simp, by simp [hd]⟩
  rw [shows, hall, Bool.and_false]

end Rule

/-- Details are shown as far as the rule shows them, and the parts are skipped as it says. -/
theorem Shows.eq_filter {skipParts : Bool} {ds : List Detail} {xs : List Event}
    {flow : Visitor.DetailsFlow} (h : Shows l e skipParts ds xs flow) (before : List Detail)
    (hds : e.details = before ++ ds) (hopen : rule.opensDetails l e = true)
    (hb : rule l (.beforeDetails e) ≠ .skipDetails)
    (hbefore : ∀ x ∈ before, rule l (.detail e x) ≠ .skipDetails) (hx : rule.Answers xs) :
    xs.map Event.at = (ds.filter (rule.shows l e)).map (fun d => (l, .detail e d)) ∧
      flow = .shown (skipParts ||
        ds.any fun d => rule.shows l e d && rule l (.detail e d) == .skipParts) := by
  induction h generalizing before with
  | done => simp
  | stopped skipParts d ds => exact absurd rfl hx.head.2
  | enough skipParts d ds =>
    have hd : .skipDetails = rule l (.detail e d) := hx.head.1
    have hafter : ∀ d' ∈ ds, rule.shows l e d' = false :=
      fun d' hd' => rule.not_shows_of_details hds hd.symm hd'
    have hshown := rule.shows_of_details hds hopen hb hbefore
    have hnone : ds.filter (rule.shows l e) = [] := by
      rw [List.filter_eq_nil_iff]
      intro d' hd'
      simp [hafter d' hd']
    have hany : (ds.any fun d => rule.shows l e d && rule l (.detail e d) == .skipParts) =
        false := by
      rw [List.any_eq_false]
      intro d' hd'
      simp [hafter d' hd']
    rw [List.filter_cons_of_pos hshown, hnone, List.any_cons, hany, hshown, ← hd]
    simp [Event.at]
  | @noParts skipParts d ds xs flow h ih =>
    have hd : .skipParts = rule l (.detail e d) := hx.head.1
    have hshown := rule.shows_of_details hds hopen hb hbefore
    obtain ⟨hcalls, hflow⟩ := ih (before ++ [d]) (by simpa using hds)
      (List.forall_mem_append.2 ⟨hbefore, List.forall_mem_singleton.2 (hd ▸ nofun)⟩) hx.tail
    rw [List.filter_cons_of_pos hshown, List.any_cons, hshown, ← hd, List.map_cons, List.map_cons,
      hcalls, hflow]
    exact ⟨rfl, by cases skipParts <;> rfl⟩
  | @next skipParts d ds xs flow h ih =>
    have hd : .goOn = rule l (.detail e d) := hx.head.1
    have hshown := rule.shows_of_details hds hopen hb hbefore
    obtain ⟨hcalls, hflow⟩ := ih (before ++ [d]) (by simpa using hds)
      (List.forall_mem_append.2 ⟨hbefore, List.forall_mem_singleton.2 (hd ▸ nofun)⟩) hx.tail
    rw [List.filter_cons_of_pos hshown, List.any_cons, hshown, ← hd, List.map_cons, List.map_cons,
      hcalls, hflow]
    exact ⟨rfl, by cases skipParts <;> rfl⟩

/-- The calls for the details of an element, as far as it keeps them. -/
def Rule.shownCalls (rule : Rule) (l : Lineage) (e : Element) : List (Lineage × Call) :=
  if rule.opensDetails l e then
    (l, .beforeDetails e) :: (e.details.filter (rule.shows l e)).map fun d => (l, .detail e d)
  else []

theorem Rule.opensDetails_iff : rule.opensDetails l e = true ↔ rule l (.enter e) ≠ .skipDetails :=
  bne_iff_ne

/-- Nothing is shown of an element that skips its details from the start. -/
theorem Rule.not_shows {d : Detail}
    (h : rule.opensDetails l e = false ∨ .skipDetails = rule l (.beforeDetails e)) :
    rule.shows l e d = false := by
  rcases h with h | h
  · simp [Rule.shows, h]
  · simp [Rule.shows, ← h]

/-- The details of an element are gone through as the rule says. -/
theorem ShowsAll.eq_filter {answer : Control} {xs : List Event} {flow : Visitor.DetailsFlow}
    (h : ShowsAll l e answer xs flow) (hanswer : answer = rule l (.enter e))
    (hx : rule.Answers xs) :
    xs.map Event.at = rule.shownCalls l e ∧ flow = .shown (rule.skipsEarly l e) := by
  have hopen : answer ≠ .skipDetails → rule.opensDetails l e = true :=
    fun h => Rule.opensDetails_iff.2 (hanswer ▸ h)
  cases h with
  | none =>
    have hclosed : rule.opensDetails l e = false := by simp [Rule.opensDetails, ← hanswer]
    have hnone : ∀ d, rule.shows l e d = false := fun d => rule.not_shows (.inl hclosed)
    simp [Rule.shownCalls, Rule.skipsEarly, hclosed, hnone, ← hanswer]
  | stopped h => exact absurd rfl hx.head.2
  | enough h =>
    have hb : .skipDetails = rule l (.beforeDetails e) := hx.head.1
    have hnone : ∀ d, rule.shows l e d = false := fun d => rule.not_shows (.inr hb)
    have hne : (Control.skipDetails == .skipParts) = false := rfl
    simp [Rule.shownCalls, Rule.skipsEarly, hopen h, hnone, hne, ← hb, ← hanswer, Event.at]
  | noParts h hs =>
    have hb : .skipParts = rule l (.beforeDetails e) := hx.head.1
    obtain ⟨hcalls, hflow⟩ := hs.eq_filter [] rfl (hopen h) (hb ▸ nofun) nofun hx.tail
    simp [Rule.shownCalls, Rule.skipsEarly, hopen h, hcalls, hflow, ← hb, Event.at]
  | each h hs =>
    have hb : .goOn = rule l (.beforeDetails e) := hx.head.1
    obtain ⟨hcalls, hflow⟩ := hs.eq_filter [] rfl (hopen h) (hb ▸ nofun) nofun hx.tail
    have hne : (Control.goOn == .skipParts) = false := rfl
    simp [Rule.shownCalls, Rule.skipsEarly, hopen h, hcalls, hflow, hne, ← hb, ← hanswer, Event.at]

end Pruned

/-! ## Trees -/

section Trees

variable {rule : Rule}

theorem Rule.reaches_cons {l above : Lineage} {index : Nat} {e : Element}
    (hl : l = (index, e) :: above) :
    rule.reaches l = (!rule.skipsParts l e && rule.reaches above) := by
  rw [hl, Rule.reaches]

/-- Calls below an element that skips its parts are not kept. -/
theorem filter_callsOf_of_skipsParts {l above : Lineage} {index : Nat} {e : Element}
    (hl : l = (index, e) :: above) (h : rule.skipsParts l e = true) (ts : List Tree) :
    (Tree.callsOf l 0 ts).filter rule.keeps = [] := by
  rw [List.filter_eq_nil_iff]
  intro x hx hkeeps
  obtain ⟨below, position, f, hlineage⟩ := Tree.lineage_of_mem_callsOf ts hx
  rw [Rule.keeps, Bool.and_eq_true, hlineage] at hkeeps
  have hreaches : rule.reaches l = true := by
    cases below with
    | nil => exact hkeeps.1
    | cons x below =>
      refine Rule.reaches_of_append (below ++ [(position, f)]) ?_
      simpa using hkeeps.1
  rw [Rule.reaches_cons hl, h] at hreaches
  exact absurd hreaches nofun

/-- Where the lineage is reached, an element decides on its own calls. -/
theorem keeps_own {l : Lineage} (h : rule.reaches l.tail = true) (c : Call) :
    rule.keeps (l, c) = rule.keepsOwn l c := by
  rw [Rule.keeps, h, Bool.true_and]

theorem filter_detailCalls {l : Lineage} (h : rule.reaches l.tail = true) (e : Element) :
    (Tree.detailCalls l e).filter rule.keeps = rule.shownCalls l e := by
  have hdetail : (rule.keeps ∘ fun d => (l, Call.detail e d)) = rule.shows l e :=
    funext fun d => keeps_own h _
  rw [Tree.detailCalls, List.filter_cons, keeps_own h, List.filter_map, hdetail, Rule.keepsOwn,
    Rule.shownCalls]
  split
  · rfl
  · rename_i hclosed
    rw [Bool.not_eq_true] at hclosed
    rw [List.filter_eq_nil_iff.2 (by simp [rule.not_shows (.inl hclosed)])]
    rfl

mutual

/-- A trace that is answered by a rule without stops has the calls that the rule keeps. -/
theorem Walks.calls_eq_filter {l : Lineage} {t : Tree} {xs : List Event} {flow : Flow}
    (h : Walks l t xs flow) {index : Nat} {above : Lineage} (hl : l = (index, t.element) :: above)
    (hreaches : rule.reaches above = true) (hx : rule.Answers xs) :
    xs.map Event.at = (t.calls l).filter rule.keeps ∧ flow = .through := by
  match h with
  | .refused l e parts => exact absurd rfl hx.head.2
  | @Walks.entered _ e parts _ _ _ hstop hw =>
    obtain ⟨hcalls, hflow⟩ := hw.calls_eq_filter hl hreaches hx.head.1 hx.tail.left
    refine ⟨?_, hflow⟩
    have hown : ∀ c, rule.keeps (l, c) = rule.keepsOwn l c := keeps_own (hl ▸ hreaches)
    rw [Tree.calls, List.filter_cons_of_pos (hown (.enter e)), List.filter_append,
      List.filter_cons_of_pos (hown (.leave e)), List.map_cons, List.map_append, hcalls]
    rfl

theorem WalksWithin.calls_eq_filter {l : Lineage} {e : Element} {parts : List Tree}
    {answer : Control} {xs : List Event} {flow : Flow} (h : WalksWithin l e parts answer xs flow)
    {index : Nat} {above : Lineage} (hl : l = (index, e) :: above)
    (hreaches : rule.reaches above = true) (hanswer : answer = rule l (.enter e))
    (hx : rule.Answers xs) :
    xs.map Event.at = (Tree.detailCalls l e ++
        (l, .beforeParts e) :: Tree.callsOf l 0 parts).filter rule.keeps ∧ flow = .through := by
  have htail : rule.reaches l.tail = true := hl ▸ hreaches
  have hown : rule.keeps (l, .beforeParts e) = !rule.skipsEarly l e :=
    keeps_own htail (.beforeParts e)
  rw [List.filter_append, filter_detailCalls htail, List.filter_cons, hown]
  match h with
  | .stopped hd =>
    obtain ⟨-, hflow⟩ := hd.eq_filter hanswer hx
    cases hflow
  | .skipped hd =>
    obtain ⟨hcalls, hflow⟩ := hd.eq_filter hanswer hx
    injection hflow with hskips
    have hparts : rule.skipsParts l e = true := by
      rw [Rule.skipsParts, ← hskips, Bool.true_or]
    rw [hcalls, ← hskips, filter_callsOf_of_skipsParts hl hparts]
    exact ⟨(List.append_nil _).symm, rfl⟩
  | .stoppedAfter hd => exact absurd rfl hx.right.head.2
  | .skippedAfter hd =>
    obtain ⟨hcalls, hflow⟩ := hd.eq_filter hanswer hx.left
    injection hflow with hskips
    have hb : .skipParts = rule l (.beforeParts e) := hx.right.head.1
    have hparts : rule.skipsParts l e = true := by
      rw [Rule.skipsParts, ← hskips, ← hb]
      rfl
    rw [List.map_append, hcalls, ← hskips, filter_callsOf_of_skipsParts hl hparts]
    exact ⟨rfl, rfl⟩
  | .parts hd hstop hskip hy =>
    obtain ⟨hcalls, hflow⟩ := hd.eq_filter hanswer hx.left
    injection hflow with hskips
    have hb := hx.right.head.1
    dsimp only at hb
    have hbelow : rule.reaches l = true := by
      rw [Rule.reaches_cons hl, hreaches, Rule.skipsParts, ← hskips, ← hb, beq_false_of_ne hskip]
      rfl
    obtain ⟨hcalls', hflow'⟩ := hy.calls_eq_filter hbelow hx.right.tail
    rw [List.map_append, List.map_cons, hcalls, hcalls', ← hskips]
    exact ⟨rfl, hflow'⟩

theorem WalksAll.calls_eq_filter {l : Lineage} {index : Nat} {ts : List Tree} {xs : List Event}
    {flow : Flow} (h : WalksAll l index ts xs flow) (hreaches : rule.reaches l = true)
    (hx : rule.Answers xs) :
    xs.map Event.at = (Tree.callsOf l index ts).filter rule.keeps ∧ flow = .through := by
  match h with
  | .nil l index => exact ⟨rfl, rfl⟩
  | .stopped hw =>
    obtain ⟨-, hflow⟩ := hw.calls_eq_filter rfl hreaches hx
    cases hflow
  | .next hw hs =>
    obtain ⟨hcalls, -⟩ := hw.calls_eq_filter rfl hreaches hx.left
    obtain ⟨hcalls', hflow⟩ := hs.calls_eq_filter hreaches hx.right
    rw [List.map_append, hcalls, hcalls', Tree.callsOf, List.filter_append]
    exact ⟨rfl, hflow⟩

end

end Trees

/-! ## Visitors -/

namespace Visitor

variable {σ : Type}

/-- Whatever its state, the visitor answers a call as said. Leaving is not answered; it counts as
going on. -/
structure AnswersBy (v : Visitor σ) (answer : Call → Control) : Prop where
  enter : ∀ e s, (v.enter e s).1 = answer (.enter e)
  beforeDetails : ∀ e s, (v.beforeDetails e s).1 = answer (.beforeDetails e)
  detail : ∀ e d s, (v.detail e d s).1 = answer (.detail e d)
  beforeParts : ∀ e s, (v.beforeParts e s).1 = answer (.beforeParts e)
  leave : ∀ e, answer (.leave e) = .goOn

variable {v : Visitor σ} {answer : Call → Control}

theorem AnswersBy.of_gives (h : v.AnswersBy answer) {x : Event} (hx : v.Gives x) :
    x.answer = answer x.call := by
  rcases x with ⟨l, call, given⟩
  cases call with
  | leave e => exact Eq.trans hx (h.leave e).symm
  | enter e =>
    obtain ⟨s, hs⟩ := hx
    exact hs.symm.trans (h.enter e s)
  | beforeDetails e =>
    obtain ⟨s, hs⟩ := hx
    exact hs.symm.trans (h.beforeDetails e s)
  | detail e d =>
    obtain ⟨s, hs⟩ := hx
    exact hs.symm.trans (h.detail e d s)
  | beforeParts e =>
    obtain ⟨s, hs⟩ := hx
    exact hs.symm.trans (h.beforeParts e s)

end Visitor

/-- The rule that does not look at where a call is made. -/
def Rule.fixed (answer : Call → Control) : Rule := fun _ call => answer call

namespace Visitor

variable {σ : Type} {v : Visitor σ} {answer : Call → Control}

/-- The calls of a visitor with a fixed rule are those that the rule keeps. -/
theorem AnswersBy.calls_eq_filter (h : v.AnswersBy answer) (hstop : ∀ c, answer c ≠ .stop)
    (top : Element) (s : σ) :
    v.calls (Tree.ofElement top) s =
      ((Tree.ofElement top).calls [(0, top)]).filter (Rule.fixed answer).keeps := by
  obtain ⟨hwalks, hgives⟩ := v.walks_trace (Tree.ofElement top) s
  rw [Tree.element_ofElement] at hwalks
  have hanswers : (Rule.fixed answer).Answers (v.trace (Tree.ofElement top) s) := by
    intro x hx
    have hanswer := h.of_gives (hgives x hx)
    exact ⟨hanswer, hanswer ▸ hstop x.call⟩
  exact (hwalks.calls_eq_filter (by rw [Tree.element_ofElement]) rfl hanswers).1

theorem passive_answersBy : (passive : Visitor σ).AnswersBy fun _ => .goOn :=
  ⟨fun _ _ => rfl, fun _ _ => rfl, fun _ _ _ => rfl, fun _ _ => rfl, fun _ => rfl⟩

theorem keeps_goOn (x : Lineage × Call) : (Rule.fixed fun _ => .goOn).keeps x = true := by
  have hopens : ∀ l e, (Rule.fixed fun _ => .goOn).opensDetails l e = true := fun _ _ => rfl
  have hshows : ∀ l e d, (Rule.fixed fun _ => .goOn).shows l e d = true := by
    intro l e d
    simp [Rule.shows, hopens, Rule.fixed]
  have hearly : ∀ l e, (Rule.fixed fun _ => .goOn).skipsEarly l e = false := by
    intro l e
    have hne : (Control.goOn == .skipParts) = false := rfl
    simp [Rule.skipsEarly, Rule.fixed, hne]
  have hreaches : ∀ l, (Rule.fixed fun _ => .goOn).reaches l = true := by
    intro l
    induction l with
    | nil => rfl
    | cons x above ih =>
      rw [Rule.reaches, ih, Rule.skipsParts, hearly]
      rfl
  rcases x with ⟨l, call⟩
  rw [Rule.keeps, hreaches]
  cases call with
  | enter | leave => rfl
  | beforeDetails e => exact hopens l e
  | detail e d => exact hshows l e d
  | beforeParts e => simp [Rule.keepsOwn, hearly]

/-- The visitor that goes on everywhere gets all calls. -/
theorem calls_passive (top : Element) (s : σ) :
    passive.calls (Tree.ofElement top) s = (Tree.ofElement top).calls [(0, top)] := by
  rw [passive_answersBy.calls_eq_filter (fun _ => nofun), List.filter_eq_self]
  exact fun x _ => keeps_goOn x

/-- A visitor that answers by a fixed rule and never stops gets the calls of the visitor that goes
on everywhere, less those that its answers prune; and the visitor that goes on everywhere enters
everything that is owned once, parents before children in the order of declaration. -/
theorem calls_prunes (v : Visitor σ) (answer : Call → Control) (h : v.AnswersBy answer)
    (hstop : ∀ c, answer c ≠ .stop) (top : Element) (s : σ) :
    v.calls (Tree.ofElement top) s =
        ((passive : Visitor Unit).calls (Tree.ofElement top) ()).filter
          (Rule.fixed answer).keeps ∧
      EntersEach top ((passive : Visitor Unit).calls (Tree.ofElement top) ()) := by
  rw [calls_passive]
  exact ⟨h.calls_eq_filter hstop top s, Tree.entersEach_calls top⟩

end Visitor

namespace LinkedWorkspace

/-- How the collector of structures answers. -/
def collectorAnswer : Call → Control
  | .enter (.type _) => .skipParts
  | .beforeDetails _ => .skipDetails
  | _ => .goOn

theorem structCollector_answersBy : structCollector.AnswersBy collectorAnswer where
  enter e s := by
    cases e with
    | statement s => cases s <;> rfl
    | _ => rfl
  beforeDetails _ _ := rfl
  detail _ _ _ := rfl
  beforeParts _ _ := rfl
  leave _ := rfl

theorem collectorAnswer_ne_stop (c : Call) : collectorAnswer c ≠ .stop := by
  unfold collectorAnswer
  split <;> exact nofun

/-- A structure with a field. -/
def walkedFiles : List ParsedFile :=
  parseInOrder [(⟨"a"⟩, [.record 1 "S" [] [.names 2 "x" (.named 2 ["Date"])]])]

/-- Of the calls for the linked file, the collector of structures gets some only: those that its
answers keep. -/
theorem calls_prunes_walkedFiles :
    structCollector.AnswersBy collectorAnswer ∧ (∀ c, collectorAnswer c ≠ .stop) ∧
      ∃ f root, walkedFiles[0]? = some f ∧ (Table.ofFiles walkedFiles).linkFile 0 f = .ok root ∧
        (structCollector.calls (Tree.ofRoot root) []).length <
          ((Visitor.passive : Visitor Unit).calls (Tree.ofRoot root) ()).length ∧
        structCollector.calls (Tree.ofRoot root) [] =
          ((Visitor.passive : Visitor Unit).calls (Tree.ofRoot root) ()).filter
            (Rule.fixed collectorAnswer).keeps ∧
        EntersEach (.root root)
          ((Visitor.passive : Visitor Unit).calls (Tree.ofRoot root) ()) := by
  obtain ⟨f, hf⟩ : ∃ f, walkedFiles[0]? = some f := ⟨_, rfl⟩
  have hless : (walkedFiles[0]?.all fun f =>
      ((Table.ofFiles walkedFiles).linkFile 0 f).toOption.any fun root =>
        decide ((structCollector.calls (Tree.ofRoot root) []).length <
          ((Visitor.passive : Visitor Unit).calls (Tree.ofRoot root) ()).length)) = true := by
    cbv
  rw [hf, Option.all_some] at hless
  cases hroot : (Table.ofFiles walkedFiles).linkFile 0 f with
  | ok root =>
    rw [hroot] at hless
    obtain ⟨hcalls, henters⟩ := structCollector.calls_prunes collectorAnswer
      structCollector_answersBy collectorAnswer_ne_stop (.root root) []
    exact ⟨structCollector_answersBy, collectorAnswer_ne_stop, f, root, hf, hroot,
      of_decide_eq_true hless, hcalls, henters⟩
  | error e =>
    rw [hroot] at hless
    cases hless

end LinkedWorkspace
end Schemata
