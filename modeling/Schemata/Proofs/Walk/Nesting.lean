import Schemata.Proofs.Walk.Ownership

/-!
# Nested walks

Entering and leaving are brackets around what happens at an element and at its parts. An event is a
step on the elements that are open: entering opens one unless it is refused, leaving closes the
innermost one, and every other call is made at the innermost one. Stopping a walk closes what is
open, and does nothing else.

**Results:**
* `Walks.balanced`: every trace that the rules allow leaves the same elements open as before, and
  after the first stop it only closes.
* `Nested.open_of_mem`: what happens, happens at an element that is open.
* `Visitor.walk_wellNested`: what this says of the walk of an element by any visitor.
-/
namespace Schemata

/-- An event while the elements of the first lineage are open; afterwards, those of the second one
are. -/
inductive Event.Step : Lineage → Event → Lineage → Prop where
  | enter {l : Lineage} {index : Nat} {e : Element} {answer : Control} (h : answer ≠ .stop) :
      Step l ⟨(index, e) :: l, .enter e, answer⟩ ((index, e) :: l)
  | refuse {l : Lineage} {index : Nat} {e : Element} :
      Step l ⟨(index, e) :: l, .enter e, .stop⟩ l
  | beforeDetails {l : Lineage} {index : Nat} {e : Element} {answer : Control} :
      Step ((index, e) :: l) ⟨(index, e) :: l, .beforeDetails e, answer⟩ ((index, e) :: l)
  | detail {l : Lineage} {index : Nat} {e : Element} {d : Detail} {answer : Control} :
      Step ((index, e) :: l) ⟨(index, e) :: l, .detail e d, answer⟩ ((index, e) :: l)
  | beforeParts {l : Lineage} {index : Nat} {e : Element} {answer : Control} :
      Step ((index, e) :: l) ⟨(index, e) :: l, .beforeParts e, answer⟩ ((index, e) :: l)
  | leave {l : Lineage} {index : Nat} {e : Element} :
      Step ((index, e) :: l) ⟨(index, e) :: l, .leave e, .goOn⟩ l

/-- Events one after the other. -/
inductive Nested : Lineage → List Event → Lineage → Prop where
  | nil (l : Lineage) : Nested l [] l
  | cons {l m n : Lineage} {x : Event} {xs : List Event} (h : x.Step l m) (hs : Nested m xs n) :
      Nested l (x :: xs) n

/-- The elements that are open are left, the innermost one first. -/
def leaving : Lineage → List Event
  | [] => []
  | (index, e) :: above => ⟨(index, e) :: above, .leave e, .goOn⟩ :: leaving above

theorem Nested.single {l m : Lineage} {x : Event} (h : x.Step l m) : Nested l [x] m :=
  .cons h (.nil m)

theorem Nested.append {l m n : Lineage} {xs ys : List Event} (hx : Nested l xs m)
    (hy : Nested m ys n) : Nested l (xs ++ ys) n := by
  induction hx with
  | nil => exact hy
  | cons h _ ih => exact .cons h (ih hy)

/-- The same elements are open afterwards. Unless the walk is stopped nothing is answered by a stop;
if it is, then after the first stop everything that is open then is left, and nothing else
happens. -/
structure Balanced (l : Lineage) (xs : List Event) (flow : Flow) : Prop where
  nested : Nested l xs l
  through : flow = .through → ∀ x ∈ xs, x.answer ≠ .stop
  stopped : flow = .stopped → ∃ before x opened,
    xs ++ leaving l = before ++ x :: leaving opened ∧ x.answer = .stop ∧
      (∀ y ∈ before, y.answer ≠ .stop) ∧ Nested l (before ++ [x]) opened

namespace Balanced

variable {l : Lineage} {xs ys : List Event} {flow : Flow}

theorem nil (l : Lineage) : Balanced l [] .through where
  nested := .nil l
  through _ := List.forall_mem_nil _
  stopped := nofun

theorem append (hx : Balanced l xs .through) (hy : Balanced l ys flow) :
    Balanced l (xs ++ ys) flow where
  nested := hx.nested.append hy.nested
  through hflow := List.forall_mem_append.2 ⟨hx.through rfl, hy.through hflow⟩
  stopped hflow := by
    obtain ⟨before, x, opened, hsplit, hstop, hbefore, hnested⟩ := hy.stopped hflow
    refine ⟨xs ++ before, x, opened, ?_, hstop, ?_, ?_⟩
    · rw [List.append_assoc, hsplit, List.append_assoc]
    · exact List.forall_mem_append.2 ⟨hx.through rfl, hbefore⟩
    · rw [List.append_assoc]
      exact hx.nested.append hnested

/-- A call that opens nothing and does not stop the walk. -/
theorem call {x : Event} (h : x.Step l l) (hanswer : x.answer ≠ .stop) :
    Balanced l [x] .through where
  nested := .single h
  through _ := List.forall_mem_singleton.2 hanswer
  stopped := nofun

/-- A call that stops the walk. -/
theorem stop {x : Event} (h : x.Step l l) (hanswer : x.answer = .stop) :
    Balanced l [x] .stopped where
  nested := .single h
  through := nofun
  stopped _ := ⟨[], x, l, rfl, hanswer, List.forall_mem_nil _, .single h⟩

theorem cons {x : Event} (h : x.Step l l) (hanswer : x.answer ≠ .stop) (hx : Balanced l xs flow) :
    Balanced l (x :: xs) flow := (call h hanswer).append hx

/-- An element is entered and left. -/
theorem around {index : Nat} {e : Element} {answer : Control} (hanswer : answer ≠ .stop)
    (hx : Balanced ((index, e) :: l) xs flow) :
    Balanced l (⟨(index, e) :: l, .enter e, answer⟩ :: (xs ++ [⟨(index, e) :: l, .leave e, .goOn⟩]))
      flow where
  nested := .cons (.enter hanswer) (hx.nested.append (.single .leave))
  through hflow := by
    rw [List.forall_mem_cons, List.forall_mem_append, List.forall_mem_singleton]
    exact ⟨hanswer, hx.through hflow, nofun⟩
  stopped hflow := by
    obtain ⟨before, x, opened, hsplit, hstop, hbefore, hnested⟩ := hx.stopped hflow
    refine ⟨⟨(index, e) :: l, .enter e, answer⟩ :: before, x, opened, ?_, hstop, ?_, ?_⟩
    · rw [List.cons_append, List.append_assoc]
      exact congrArg _ hsplit
    · exact List.forall_mem_cons.2 ⟨hanswer, hbefore⟩
    · exact .cons (.enter hanswer) hnested

end Balanced

/-! ## Walks -/

/-- Whether the walk goes on after the details. -/
def Visitor.DetailsFlow.flow : Visitor.DetailsFlow → Flow
  | shown _ => .through
  | stopped => .stopped

section Walks

variable {index : Nat} {e : Element} {above : Lineage} {xs : List Event}

theorem Shows.balanced {skipParts : Bool} {ds : List Detail} {flow : Visitor.DetailsFlow}
    (h : Shows ((index, e) :: above) e skipParts ds xs flow) :
    Balanced ((index, e) :: above) xs flow.flow := by
  induction h with
  | done => exact .nil _
  | stopped => exact .stop .detail rfl
  | enough => exact .call .detail nofun
  | noParts _ ih => exact .cons .detail nofun ih
  | next _ ih => exact .cons .detail nofun ih

theorem ShowsAll.balanced {answer : Control} {flow : Visitor.DetailsFlow}
    (h : ShowsAll ((index, e) :: above) e answer xs flow) :
    Balanced ((index, e) :: above) xs flow.flow := by
  cases h with
  | none => exact .nil _
  | stopped => exact .stop .beforeDetails rfl
  | enough => exact .call .beforeDetails nofun
  | noParts _ hs => exact .cons .beforeDetails nofun hs.balanced
  | each _ hs => exact .cons .beforeDetails nofun hs.balanced

mutual

/-- A walk leaves the same elements open as before, and after its first stop it only closes. -/
theorem Walks.balanced {l : Lineage} {t : Tree} {xs : List Event} {flow : Flow}
    (h : Walks l t xs flow) {index : Nat} {above : Lineage}
    (hl : l = (index, t.element) :: above) : Balanced above xs flow := by
  match h with
  | .refused l e parts =>
    subst hl
    exact .stop .refuse rfl
  | .entered hstop hw =>
    have hwithin := hw.balanced hl
    subst hl
    exact .around hstop hwithin

theorem WalksWithin.balanced {l : Lineage} {e : Element} {parts : List Tree} {answer : Control}
    {xs : List Event} {flow : Flow} (h : WalksWithin l e parts answer xs flow) {index : Nat}
    {above : Lineage} (hl : l = (index, e) :: above) : Balanced l xs flow := by
  match h with
  | .stopped hd | .skipped hd =>
    subst hl
    exact hd.balanced
  | .stoppedAfter hd =>
    subst hl
    exact hd.balanced.append (.stop .beforeParts rfl)
  | .skippedAfter hd =>
    subst hl
    exact hd.balanced.append (.call .beforeParts nofun)
  | .parts hd hstop _ hy =>
    have hparts := hy.balanced
    subst hl
    exact hd.balanced.append (.cons .beforeParts hstop hparts)

theorem WalksAll.balanced {l : Lineage} {index : Nat} {ts : List Tree} {xs : List Event}
    {flow : Flow} (h : WalksAll l index ts xs flow) : Balanced l xs flow := by
  match h with
  | .nil l index => exact .nil l
  | .stopped hw => exact hw.balanced rfl
  | .next hw hs => exact (hw.balanced rfl).append hs.balanced

end

/-! ## What is entered -/

theorem Shows.entered_eq_nil {l : Lineage} {skipParts : Bool} {ds : List Detail}
    {flow : Visitor.DetailsFlow} (h : Shows l e skipParts ds xs flow) :
    entered (xs.map Event.at) = [] := by
  induction h with
  | done | stopped | enough => rfl
  | noParts _ ih | next _ ih => exact ih

theorem ShowsAll.entered_eq_nil {l : Lineage} {answer : Control} {flow : Visitor.DetailsFlow}
    (h : ShowsAll l e answer xs flow) : entered (xs.map Event.at) = [] := by
  cases h with
  | none | stopped | enough => rfl
  | noParts _ hs | each _ hs => exact hs.entered_eq_nil

mutual

/-- A walk enters elements of the tree, in order. -/
theorem Walks.entered_sublist {l : Lineage} {t : Tree} {xs : List Event} {flow : Flow}
    (h : Walks l t xs flow) : (entered (xs.map Event.at)).Sublist (t.lineages l) := by
  match h with
  | .refused l e parts => exact (List.nil_sublist _).cons_cons l
  | .entered hstop hw =>
    rw [Tree.lineages, List.map_cons, List.map_append]
    exact entered_around l _ _ ▸ hw.entered_sublist.cons_cons l

theorem WalksWithin.entered_sublist {l : Lineage} {e : Element} {parts : List Tree}
    {answer : Control} {xs : List Event} {flow : Flow} (h : WalksWithin l e parts answer xs flow) :
    (entered (xs.map Event.at)).Sublist (Tree.lineagesOf l 0 parts) := by
  match h with
  | .stopped hd | .skipped hd =>
    rw [hd.entered_eq_nil]
    exact List.nil_sublist _
  | .stoppedAfter hd | .skippedAfter hd =>
    rw [List.map_append, entered_append, hd.entered_eq_nil]
    exact List.nil_sublist _
  | .parts hd hstop _ hy =>
    rw [List.map_append, entered_append, hd.entered_eq_nil]
    exact hy.entered_sublist

theorem WalksAll.entered_sublist {l : Lineage} {index : Nat} {ts : List Tree} {xs : List Event}
    {flow : Flow} (h : WalksAll l index ts xs flow) :
    (entered (xs.map Event.at)).Sublist (Tree.lineagesOf l index ts) := by
  match h with
  | .nil l index => exact List.nil_sublist _
  | .stopped hw => exact hw.entered_sublist.trans (List.sublist_append_left _ _)
  | .next hw hs =>
    rw [List.map_append, entered_append, Tree.lineagesOf]
    exact hw.entered_sublist.append hs.entered_sublist

end

end Walks

/-! ## What is open -/

/-- What happens is that an element is entered, or it happens at an element that was open from the
start or has been entered and not refused. -/
theorem Nested.open_of_mem {l m : Lineage} {xs : List Event} (h : Nested l xs m) {y : Event}
    (hy : y ∈ xs) :
    (∃ e, y.call = .enter e) ∨ (y.lineage ≠ [] ∧ y.lineage <:+ l) ∨
      ∃ z ∈ xs, (∃ e, z.call = .enter e) ∧ z.answer ≠ .stop ∧ z.lineage = y.lineage := by
  induction h with
  | nil => cases hy
  | @cons l m n x xs h _ ih =>
    rcases List.mem_cons.1 hy with rfl | hy
    · cases h with
      | enter | refuse => exact .inl ⟨_, rfl⟩
      | beforeDetails | detail | beforeParts | leave =>
        exact .inr (.inl ⟨nofun, List.suffix_refl _⟩)
    · rcases ih hy with henter | ⟨hne, hopen⟩ | ⟨z, hz, hentered⟩
      · exact .inl henter
      · cases h with
        | refuse | beforeDetails | detail | beforeParts => exact .inr (.inl ⟨hne, hopen⟩)
        | leave => exact .inr (.inl ⟨hne, hopen.trans (List.suffix_cons _ _)⟩)
        | enter hanswer =>
          rcases List.suffix_cons_iff.1 hopen with heq | hopen
          · exact .inr (.inr ⟨_, List.mem_cons_self, ⟨_, rfl⟩, hanswer, heq.symm⟩)
          · exact .inr (.inl ⟨hne, hopen⟩)
      · exact .inr (.inr ⟨z, List.mem_cons_of_mem _ hz, hentered⟩)

theorem mem_entered {xs : List Event} {l : Lineage} :
    l ∈ entered (xs.map Event.at) ↔ ∃ x ∈ xs, (∃ e, x.call = .enter e) ∧ x.lineage = l := by
  simp only [entered, List.mem_filterMap, List.mem_map]
  constructor
  · rintro ⟨_, ⟨x, hx, rfl⟩, hl⟩
    rcases x with ⟨m, call, answer⟩
    cases call with
    | enter e => exact ⟨_, hx, ⟨e, rfl⟩, Option.some.inj hl⟩
    | _ => cases hl
  · rintro ⟨x, hx, ⟨e, hcall⟩, rfl⟩
    exact ⟨x.at, ⟨x, hx, rfl⟩, by simp only [Event.at, hcall]⟩

/-- Of two events that enter at the same place, both are the same one. -/
theorem eq_of_entered {xs : List Event} (h : (entered (xs.map Event.at)).Nodup) {x y : Event}
    (hx : x ∈ xs) (hy : y ∈ xs) (hex : ∃ e, x.call = .enter e) (hey : ∃ e, y.call = .enter e)
    (hxy : x.lineage = y.lineage) : x = y := by
  obtain ⟨before, after, rfl⟩ := List.append_of_mem hx
  rw [List.append_cons, List.map_append, List.map_append, entered_append, entered_append,
    List.nodup_append, List.nodup_append] at h
  obtain ⟨⟨-, -, hbefore⟩, -, hafter⟩ := h
  have hat : x.lineage ∈ entered ([x].map Event.at) :=
    mem_entered.2 ⟨x, List.mem_singleton_self x, hex, rfl⟩
  rcases List.mem_append.1 hy with hy | hy
  · exact absurd hxy.symm (hbefore _ (mem_entered.2 ⟨y, hy, hey, rfl⟩) _ hat)
  · rcases List.mem_cons.1 hy with rfl | hy
    · rfl
    · exact absurd hxy (hafter _ (List.mem_append_right _ hat) _ (mem_entered.2 ⟨y, hy, hey, rfl⟩))

theorem answer_of_mem_leaving {l : Lineage} {x : Event} (h : x ∈ leaving l) :
    x.answer = .goOn := by
  induction l with
  | nil => cases h
  | cons step above ih =>
    rcases List.mem_cons.1 h with rfl | h
    · rfl
    · exact ih h

/-- There is one stop at most. -/
theorem eq_of_split {before before' after after' : List Event} {x x' : Event}
    (h : before ++ x :: after = before' ++ x' :: after') (hx : x.answer = .stop)
    (hbefore : ∀ y ∈ before', y.answer ≠ .stop) (hafter : ∀ y ∈ after', y.answer ≠ .stop) :
    before = before' ∧ x = x' ∧ after = after' := by
  rcases List.append_eq_append_iff.1 h with ⟨between, rfl, hrest⟩ | ⟨between, rfl, hrest⟩
  · cases between with
    | nil =>
      cases hrest
      exact ⟨(List.append_nil _).symm, rfl, rfl⟩
    | cons y between =>
      cases hrest
      exact absurd hx (hbefore x (by simp))
  · cases between with
    | nil =>
      cases hrest
      exact ⟨List.append_nil _, rfl, rfl⟩
    | cons y between =>
      cases hrest
      exact absurd hx (hafter x (by simp))

namespace Balanced

variable {xs : List Event} {flow : Flow}

/-- Around a whole walk nothing is open, so the first stop is the only one, and what is open then is
all that is left after it. -/
theorem final (h : Balanced [] xs flow) {before after : List Event} {x : Event}
    (hsplit : xs = before ++ x :: after) (hstop : x.answer = .stop) :
    ∃ opened, Nested [] (before ++ [x]) opened ∧ after = leaving opened := by
  cases flow with
  | through => exact absurd hstop (h.through rfl x (hsplit ▸ by simp))
  | stopped =>
    obtain ⟨before', x', opened, hsplit', -, hbefore, hnested⟩ := h.stopped rfl
    rw [leaving, List.append_nil, hsplit] at hsplit'
    obtain ⟨rfl, rfl, rfl⟩ := eq_of_split hsplit' hstop hbefore fun y hy => by
      rw [answer_of_mem_leaving hy]
      nofun
    exact ⟨opened, hnested, rfl⟩

theorem stopped_iff (h : Balanced [] xs flow) :
    flow = .stopped ↔ ∃ x ∈ xs, x.answer = .stop := by
  constructor
  · intro hflow
    obtain ⟨before, x, opened, hsplit, hstop, -, -⟩ := h.stopped hflow
    rw [leaving, List.append_nil] at hsplit
    exact ⟨x, hsplit ▸ by simp, hstop⟩
  · rintro ⟨x, hx, hstop⟩
    cases flow with
    | through => exact absurd hstop (h.through rfl x hx)
    | stopped => rfl

end Balanced

/-- The events of a walk of the element. -/
structure WellNested (top : Element) (xs : List Event) (flow : Flow) : Prop where
  /-- Elements are entered and left like brackets. -/
  nested : Nested [] xs []
  /-- Everything that is open is a part of what is open around it. -/
  owned : ∀ x ∈ xs, Owned [(0, top)] x.lineage
  /-- Each element is entered once at most, in the order of reading. -/
  ascending : (entered (xs.map Event.at)).Pairwise Lineage.Before
  /-- An element is not left if entering it stopped the walk. -/
  refused : ∀ x ∈ xs, (∃ e, x.call = .enter e) → x.answer = .stop →
    ∀ y ∈ xs, (∃ e, y.call = .leave e) → y.lineage ≠ x.lineage
  /-- After a stop, the elements that are open are left, and nothing else happens. -/
  final : ∀ before x after, xs = before ++ x :: after → x.answer = .stop →
    ∃ opened, Nested [] (before ++ [x]) opened ∧ after = leaving opened
  stopped_iff : flow = .stopped ↔ ∃ x ∈ xs, x.answer = .stop

/-- Every walk is well nested, and a stop is final. -/
theorem Visitor.walk_wellNested {σ : Type} (v : Visitor σ) (top : Element) (s : σ) :
    WellNested top (v.trace (Tree.ofElement top) s) (v.walk (Tree.ofElement top) s).1 := by
  have hwalks := (v.walks_trace (Tree.ofElement top) s).1
  rw [Tree.element_ofElement] at hwalks
  have hbalanced := hwalks.balanced (by rw [Tree.element_ofElement])
  have hsublist := hwalks.entered_sublist
  generalize v.trace (Tree.ofElement top) s = xs at hwalks hbalanced hsublist
  generalize (v.walk (Tree.ofElement top) s).1 = flow at hwalks hbalanced
  have hascending : (entered (xs.map Event.at)).Pairwise Lineage.Before :=
    (Tree.lineages_ascending _ _).sublist hsublist
  have howned : ∀ l ∈ entered (xs.map Event.at), Owned [(0, top)] l :=
    fun l hl => Tree.mem_lineages_iff_owned.1 (hsublist.subset hl)
  -- No lineage is open at the start, so what happens elsewhere than on entering was entered.
  have hopen : ∀ y ∈ xs, (∃ e, y.call = .enter e) ∨
      ∃ z ∈ xs, (∃ e, z.call = .enter e) ∧ z.answer ≠ .stop ∧ z.lineage = y.lineage := by
    intro y hy
    rcases hbalanced.nested.open_of_mem hy with henter | ⟨hne, hsuffix⟩ | hentered
    · exact .inl henter
    · exact absurd (List.suffix_nil.1 hsuffix) hne
    · exact .inr hentered
  refine ⟨hbalanced.nested, ?owned, hascending, ?refused, fun _ _ _ => hbalanced.final,
    hbalanced.stopped_iff⟩
  case owned =>
    intro y hy
    rcases hopen y hy with henter | ⟨z, hz, hentered, -, hzy⟩
    · exact howned _ (mem_entered.2 ⟨y, hy, henter, rfl⟩)
    · exact howned _ (mem_entered.2 ⟨z, hz, hentered, hzy⟩)
  case refused =>
    rintro x hx henter hstop y hy ⟨e, hleave⟩ hyx
    rcases hopen y hy with ⟨f, henter'⟩ | ⟨z, hz, hentered, hanswer, hzy⟩
    · rw [hleave] at henter'
      cases henter'
    · have hnodup := hascending.imp fun h => h.ne
      rw [eq_of_entered hnodup hz hx hentered henter (hzy.trans hyx)] at hanswer
      exact hanswer hstop

end Schemata
