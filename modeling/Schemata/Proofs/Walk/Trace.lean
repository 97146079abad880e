import Schemata.Walk

/-!
# Traces of walks

Every call that a walk makes is recorded with the elements around it and with its answer. Which
traces a walk of a tree can have is said by rules that know nothing of the visitor: its state only
shows in its answers.

**Results:**
* `Visitor.walk_recorded`: recording leaves the walk as it is.
* `Visitor.walks_trace`: the trace of a walk is one that the rules allow, and its answers are those
  of the visitor.
-/
namespace Schemata

/-- A call of a visitor. -/
inductive Call where
  | enter (e : Element)
  | beforeDetails (e : Element)
  | detail (e : Element) (d : Detail)
  | beforeParts (e : Element)
  | leave (e : Element)

/-- An element with everything in which it stands, innermost first, each with its position among the
parts of the one around it. -/
abbrev Lineage := List (Nat × Element)

/-- A call with the lineage of the element at which it was made, and how it was answered. Leaving is
not answered; it counts as going on. -/
structure Event where
  lineage : Lineage
  call : Call
  /-- The answer. -/
  answer : Control

/-- What has been recorded of a walk. -/
structure Recording where
  /-- The innermost element that is open. -/
  here : Lineage
  /-- The position of its next part. -/
  next : Nat
  /-- The calls so far, in their order. -/
  events : List Event

namespace Recording

/-- Nothing has been recorded. -/
def empty : Recording := ⟨[], 0, []⟩

/-- An element is entered; it is open unless the walk is stopped there. -/
def enter (r : Recording) (e : Element) (answer : Control) : Recording :=
  let inner := (r.next, e) :: r.here
  let events := r.events ++ [⟨inner, .enter e, answer⟩]
  if answer = .stop then ⟨r.here, r.next + 1, events⟩ else ⟨inner, 0, events⟩

/-- A call is made at the innermost open element. -/
def add (r : Recording) (call : Call) (answer : Control) : Recording :=
  { r with events := r.events ++ [⟨r.here, call, answer⟩] }

/-- More events have been recorded. -/
def extend (r : Recording) (xs : List Event) : Recording := { r with events := r.events ++ xs }

theorem extend_nil (r : Recording) : r.extend [] = r := by
  simp [extend]

theorem extend_add (r : Recording) (call : Call) (answer : Control) (xs : List Event) :
    (r.add call answer).extend xs = r.extend (⟨r.here, call, answer⟩ :: xs) := by
  simp [extend, add]

/-- An element is left. -/
def leave (r : Recording) (e : Element) : Recording :=
  let events := r.events ++ [⟨r.here, .leave e, .goOn⟩]
  match r.here with
  | [] => ⟨[], r.next, events⟩
  | (index, _) :: above => ⟨above, index + 1, events⟩

end Recording

namespace Visitor

variable {σ : Type}

/-- The visitor together with a recording of its calls. -/
def recorded (v : Visitor σ) : Visitor (σ × Recording) where
  enter e x := ((v.enter e x.1).1, (v.enter e x.1).2, x.2.enter e (v.enter e x.1).1)
  beforeDetails e x :=
    ((v.beforeDetails e x.1).1, (v.beforeDetails e x.1).2,
      x.2.add (.beforeDetails e) (v.beforeDetails e x.1).1)
  detail e d x :=
    ((v.detail e d x.1).1, (v.detail e d x.1).2, x.2.add (.detail e d) (v.detail e d x.1).1)
  beforeParts e x :=
    ((v.beforeParts e x.1).1, (v.beforeParts e x.1).2,
      x.2.add (.beforeParts e) (v.beforeParts e x.1).1)
  leave e x := (v.leave e x.1, x.2.leave e)

/-- The calls that the visitor gets on a walk of the tree. -/
def trace (v : Visitor σ) (t : Tree) (s : σ) : List Event :=
  (v.recorded.walk t (s, .empty)).2.2.events

end Visitor

/-- The call of an event and where it was made. -/
def Event.at (x : Event) : Lineage × Call := (x.lineage, x.call)

/-- The calls that the visitor gets on a walk of the tree, and where. -/
def Visitor.calls {σ : Type} (v : Visitor σ) (t : Tree) (s : σ) : List (Lineage × Call) :=
  (v.trace t s).map Event.at

/-- The lineages of the elements that are entered, in the order of the calls. -/
def entered (calls : List (Lineage × Call)) : List Lineage :=
  calls.filterMap fun
    | (l, .enter _) => some l
    | _ => none

theorem entered_append (xs ys : List (Lineage × Call)) :
    entered (xs ++ ys) = entered xs ++ entered ys :=
  List.filterMap_append

theorem entered_around (l : Lineage) (e : Element) (xs : List (Lineage × Call)) :
    entered ((l, .enter e) :: (xs ++ [(l, .leave e)])) = l :: entered xs := by
  change l :: entered _ = _
  rw [entered_append]
  exact congrArg _ (List.append_nil _)

/-! ## Which traces there are -/

section Rules

/-- The details of an element are shown one by one. The first list is that of the details, and the
truth value tells whether the parts are already to be skipped. -/
inductive Shows (l : Lineage) (e : Element) :
    Bool → List Detail → List Event → Visitor.DetailsFlow → Prop where
  | done (skipParts : Bool) : Shows l e skipParts [] [] (.shown skipParts)
  | stopped (skipParts : Bool) (d : Detail) (ds : List Detail) :
      Shows l e skipParts (d :: ds) [⟨l, .detail e d, .stop⟩] .stopped
  | enough (skipParts : Bool) (d : Detail) (ds : List Detail) :
      Shows l e skipParts (d :: ds) [⟨l, .detail e d, .skipDetails⟩] (.shown skipParts)
  | noParts {skipParts : Bool} {d : Detail} {ds : List Detail} {xs : List Event}
      {flow : Visitor.DetailsFlow} (h : Shows l e true ds xs flow) :
      Shows l e skipParts (d :: ds) (⟨l, .detail e d, .skipParts⟩ :: xs) flow
  | next {skipParts : Bool} {d : Detail} {ds : List Detail} {xs : List Event}
      {flow : Visitor.DetailsFlow} (h : Shows l e skipParts ds xs flow) :
      Shows l e skipParts (d :: ds) (⟨l, .detail e d, .goOn⟩ :: xs) flow

/-- The details of an element that was entered with the answer. -/
inductive ShowsAll (l : Lineage) (e : Element) :
    Control → List Event → Visitor.DetailsFlow → Prop where
  | none : ShowsAll l e .skipDetails [] (.shown false)
  | stopped {entered : Control} (h : entered ≠ .skipDetails) :
      ShowsAll l e entered [⟨l, .beforeDetails e, .stop⟩] .stopped
  | enough {entered : Control} (h : entered ≠ .skipDetails) :
      ShowsAll l e entered [⟨l, .beforeDetails e, .skipDetails⟩] (.shown (entered == .skipParts))
  | noParts {entered : Control} {xs : List Event} {flow : Visitor.DetailsFlow}
      (h : entered ≠ .skipDetails) (hx : Shows l e true e.details xs flow) :
      ShowsAll l e entered (⟨l, .beforeDetails e, .skipParts⟩ :: xs) flow
  | each {entered : Control} {xs : List Event} {flow : Visitor.DetailsFlow}
      (h : entered ≠ .skipDetails) (hx : Shows l e (entered == .skipParts) e.details xs flow) :
      ShowsAll l e entered (⟨l, .beforeDetails e, .goOn⟩ :: xs) flow

mutual

/-- A tree whose element has the lineage is walked. -/
inductive Walks : Lineage → Tree → List Event → Flow → Prop where
  | refused (l : Lineage) (e : Element) (parts : List Tree) :
      Walks l (.node e parts) [⟨l, .enter e, .stop⟩] .stopped
  | entered {l : Lineage} {e : Element} {parts : List Tree} {answer : Control} {xs : List Event}
      {flow : Flow} (h : answer ≠ .stop) (hx : WalksWithin l e parts answer xs flow) :
      Walks l (.node e parts) (⟨l, .enter e, answer⟩ :: (xs ++ [⟨l, .leave e, .goOn⟩])) flow

/-- What happens between entering an element, which had the answer, and leaving it. -/
inductive WalksWithin : Lineage → Element → List Tree → Control → List Event → Flow → Prop where
  | stopped {l : Lineage} {e : Element} {parts : List Tree} {entered : Control} {xs : List Event}
      (h : ShowsAll l e entered xs .stopped) : WalksWithin l e parts entered xs .stopped
  | skipped {l : Lineage} {e : Element} {parts : List Tree} {entered : Control} {xs : List Event}
      (h : ShowsAll l e entered xs (.shown true)) : WalksWithin l e parts entered xs .through
  | stoppedAfter {l : Lineage} {e : Element} {parts : List Tree} {entered : Control}
      {xs : List Event} (h : ShowsAll l e entered xs (.shown false)) :
      WalksWithin l e parts entered (xs ++ [⟨l, .beforeParts e, .stop⟩]) .stopped
  | skippedAfter {l : Lineage} {e : Element} {parts : List Tree} {entered : Control}
      {xs : List Event} (h : ShowsAll l e entered xs (.shown false)) :
      WalksWithin l e parts entered (xs ++ [⟨l, .beforeParts e, .skipParts⟩]) .through
  | parts {l : Lineage} {e : Element} {parts : List Tree} {entered answer : Control}
      {xs ys : List Event} {flow : Flow} (h : ShowsAll l e entered xs (.shown false))
      (hstop : answer ≠ .stop) (hskip : answer ≠ .skipParts)
      (hy : WalksAll l 0 parts ys flow) :
      WalksWithin l e parts entered (xs ++ ⟨l, .beforeParts e, answer⟩ :: ys) flow

/-- Trees that are parts of the element with the lineage, from a position on, are walked up to the
one where the walk is stopped. -/
inductive WalksAll : Lineage → Nat → List Tree → List Event → Flow → Prop where
  | nil (l : Lineage) (index : Nat) : WalksAll l index [] [] .through
  | stopped {l : Lineage} {index : Nat} {t : Tree} {ts : List Tree} {xs : List Event}
      (h : Walks ((index, t.element) :: l) t xs .stopped) :
      WalksAll l index (t :: ts) xs .stopped
  | next {l : Lineage} {index : Nat} {t : Tree} {ts : List Tree} {xs ys : List Event} {flow : Flow}
      (h : Walks ((index, t.element) :: l) t xs .through)
      (hs : WalksAll l (index + 1) ts ys flow) :
      WalksAll l index (t :: ts) (xs ++ ys) flow

end

end Rules

namespace Visitor

variable {σ : Type}

/-- The visitor may give the answer of the event, in some state. -/
def Gives (v : Visitor σ) (x : Event) : Prop :=
  match x.call with
  | .enter e => ∃ s, (v.enter e s).1 = x.answer
  | .beforeDetails e => ∃ s, (v.beforeDetails e s).1 = x.answer
  | .detail e d => ∃ s, (v.detail e d s).1 = x.answer
  | .beforeParts e => ∃ s, (v.beforeParts e s).1 = x.answer
  | .leave _ => x.answer = .goOn

variable {v : Visitor σ}

/-! ## Recording -/

theorem showDetails_recorded (e : Element) (skipParts : Bool) (ds : List Detail) (s : σ)
    (r : Recording) :
    ∃ xs, v.recorded.showDetails e skipParts ds (s, r) =
        ((v.showDetails e skipParts ds s).1, (v.showDetails e skipParts ds s).2,
          r.extend xs) ∧
      Shows r.here e skipParts ds xs (v.showDetails e skipParts ds s).1 ∧ ∀ x ∈ xs, v.Gives x := by
  induction ds generalizing skipParts s r with
  | nil => exact ⟨[], by rw [r.extend_nil]; rfl, .done skipParts, List.forall_mem_nil _⟩
  | cons d ds ih =>
    have hrecorded : v.recorded.detail e d (s, r) =
        ((v.detail e d s).1, (v.detail e d s).2, r.add (.detail e d) (v.detail e d s).1) := rfl
    rcases hd : v.detail e d s with ⟨answer, s'⟩
    have hgives : v.Gives ⟨r.here, .detail e d, answer⟩ := ⟨s, by rw [hd]⟩
    rw [showDetails, showDetails, hrecorded, hd]
    cases answer with
    | stop | skipDetails =>
      refine ⟨[_], rfl, ?_, by simpa using hgives⟩
      constructor
    | skipParts =>
      obtain ⟨xs, hx, hs, hg⟩ := ih true s' (r.add (.detail e d) .skipParts)
      refine ⟨_ :: xs, ?_, .noParts hs, List.forall_mem_cons.2 ⟨hgives, hg⟩⟩
      rw [← Recording.extend_add]
      exact hx
    | goOn =>
      obtain ⟨xs, hx, hs, hg⟩ := ih skipParts s' (r.add (.detail e d) .goOn)
      refine ⟨_ :: xs, ?_, .next hs, List.forall_mem_cons.2 ⟨hgives, hg⟩⟩
      rw [← Recording.extend_add]
      exact hx

theorem detailsStep_recorded (e : Element) (entered : Control) (s : σ) (r : Recording) :
    ∃ xs, v.recorded.detailsStep e entered (s, r) =
        ((v.detailsStep e entered s).1, (v.detailsStep e entered s).2,
          r.extend xs) ∧
      ShowsAll r.here e entered xs (v.detailsStep e entered s).1 ∧ ∀ x ∈ xs, v.Gives x := by
  by_cases hentered : entered = .skipDetails
  · subst hentered
    exact ⟨[], by rw [r.extend_nil]; rfl, .none, List.forall_mem_nil _⟩
  · have hrecorded : v.recorded.beforeDetails e (s, r) =
        ((v.beforeDetails e s).1, (v.beforeDetails e s).2,
          r.add (.beforeDetails e) (v.beforeDetails e s).1) := rfl
    have hne : (entered == .skipDetails) = false := beq_false_of_ne hentered
    rcases hb : v.beforeDetails e s with ⟨answer, s'⟩
    have hgives : v.Gives ⟨r.here, .beforeDetails e, answer⟩ := ⟨s, by rw [hb]⟩
    rw [detailsStep, detailsStep, hrecorded, hb]
    simp only [hne, Bool.false_eq_true, if_false]
    cases answer with
    | stop => exact ⟨[_], rfl, .stopped hentered, by simpa using hgives⟩
    | skipDetails => exact ⟨[_], rfl, .enough hentered, by simpa using hgives⟩
    | skipParts =>
      obtain ⟨xs, hx, hs, hg⟩ := showDetails_recorded e true e.details s'
        (r.add (.beforeDetails e) .skipParts)
      refine ⟨_ :: xs, ?_, .noParts hentered hs, List.forall_mem_cons.2 ⟨hgives, hg⟩⟩
      rw [← Recording.extend_add]
      exact hx
    | goOn =>
      obtain ⟨xs, hx, hs, hg⟩ := showDetails_recorded e (entered == .skipParts) e.details s'
        (r.add (.beforeDetails e) .goOn)
      refine ⟨_ :: xs, ?_, .each hentered hs, List.forall_mem_cons.2 ⟨hgives, hg⟩⟩
      rw [← Recording.extend_add]
      exact hx

/-- What a walk does between entering an element and leaving it. -/
def walkWithin (v : Visitor σ) (e : Element) (parts : List Tree) (entered : Control) (s : σ) :
    Flow × σ :=
  match v.detailsStep e entered s with
  | (.stopped, s) => (.stopped, s)
  | (.shown true, s) => (.through, s)
  | (.shown false, s) =>
    match v.beforeParts e s with
    | (.stop, s) => (.stopped, s)
    | (.skipParts, s) => (.through, s)
    | (_, s) => v.walkAll parts s

/-- An element that is entered is left after what happens within. -/
theorem walk_of_entered {e : Element} {parts : List Tree} {s s' : σ} {answer : Control}
    (h : v.enter e s = (answer, s')) (hstop : answer ≠ .stop) :
    v.walk (.node e parts) s =
      ((v.walkWithin e parts answer s').1, v.leave e (v.walkWithin e parts answer s').2) := by
  cases answer with
  | stop => exact absurd rfl hstop
  | goOn | skipDetails | skipParts =>
    rw [walk, h, walkWithin]
    dsimp only
    rcases v.detailsStep e _ s' with ⟨details, shown⟩
    cases details with
    | stopped => rfl
    | shown skipsParts =>
      cases skipsParts with
      | true => rfl
      | false =>
        dsimp only
        rcases v.beforeParts e shown with ⟨answer, ready⟩
        cases answer <;> rfl

/-- The parts of an element are walked unless their walk is refused. -/
theorem walkWithin_of_shown {e : Element} {parts : List Tree} {entered answer : Control}
    {s s' s'' : σ} (hd : v.detailsStep e entered s = (.shown false, s'))
    (hb : v.beforeParts e s' = (answer, s'')) (hstop : answer ≠ .stop)
    (hskip : answer ≠ .skipParts) : v.walkWithin e parts entered s = v.walkAll parts s'' := by
  rw [walkWithin, hd]
  dsimp only
  rw [hb]
  cases answer with
  | stop => exact absurd rfl hstop
  | skipParts => exact absurd rfl hskip
  | goOn | skipDetails => rfl

mutual

/-- A walk is recorded: it goes as it would without the recording, and what is recorded is a trace
that the rules allow, with answers of the visitor. -/
theorem walk_recorded (t : Tree) (s : σ) (r : Recording) :
    ∃ xs, v.recorded.walk t (s, r) =
        ((v.walk t s).1, (v.walk t s).2, { r with next := r.next + 1 }.extend xs) ∧
      Walks ((r.next, t.element) :: r.here) t xs (v.walk t s).1 ∧ ∀ x ∈ xs, v.Gives x := by
  match t with
  | .node e parts =>
    rcases ha : v.enter e s with ⟨answer, s'⟩
    have hrecorded : v.recorded.enter e (s, r) = (answer, s', r.enter e answer) := by
      simp only [recorded, ha]
    have hgives : v.Gives ⟨(r.next, e) :: r.here, .enter e, answer⟩ := ⟨s, by rw [ha]⟩
    by_cases hstop : answer = .stop
    · subst hstop
      rw [walk_of_stop v e parts s s' ha, walk_of_stop _ e parts _ _ hrecorded]
      exact ⟨[_], rfl, .refused _ e parts, by simpa using hgives⟩
    · have henter : r.enter e answer =
          ⟨(r.next, e) :: r.here, 0, r.events ++ [⟨(r.next, e) :: r.here, .enter e, answer⟩]⟩ :=
        if_neg hstop
      obtain ⟨xs, next, hx, hs, hg⟩ := walkWithin_recorded e parts answer s' (r.enter e answer)
      rw [walk_of_entered ha hstop, walk_of_entered hrecorded hstop, hx]
      rw [henter] at hs
      refine ⟨_, ?_, .entered hstop (hs rfl), ?_⟩
      · simp only [recorded, henter, Recording.extend, Recording.leave, Tree.element,
          List.append_assoc, List.cons_append, List.nil_append]
      · simp only [List.mem_cons, List.mem_append, List.not_mem_nil, or_false]
        rintro x (rfl | hx | rfl)
        · exact hgives
        · exact hg x hx
        · rfl

theorem walkWithin_recorded (e : Element) (parts : List Tree) (entered : Control) (s : σ)
    (r : Recording) :
    ∃ xs next, v.recorded.walkWithin e parts entered (s, r) =
        ((v.walkWithin e parts entered s).1, (v.walkWithin e parts entered s).2,
          { r with next := next }.extend xs) ∧
      (r.next = 0 → WalksWithin r.here e parts entered xs (v.walkWithin e parts entered s).1) ∧
      ∀ x ∈ xs, v.Gives x := by
  obtain ⟨xs, hx, hs, hg⟩ := detailsStep_recorded (v := v) e entered s r
  rcases hd : v.detailsStep e entered s with ⟨details, s'⟩
  rw [hd] at hx hs
  match details with
  | .stopped =>
    rw [walkWithin, walkWithin, hx, hd]
    exact ⟨xs, r.next, rfl, fun _ => .stopped hs, hg⟩
  | .shown true =>
    rw [walkWithin, walkWithin, hx, hd]
    exact ⟨xs, r.next, rfl, fun _ => .skipped hs, hg⟩
  | .shown false =>
    rcases hb : v.beforeParts e s' with ⟨answer, s''⟩
    have hrecorded : v.recorded.beforeParts e (s', r.extend xs) =
        (answer, s'', (r.extend xs).add (.beforeParts e) answer) := by
      simp only [recorded, hb]
    have hgives : ∀ x ∈ xs ++ [⟨r.here, .beforeParts e, answer⟩], v.Gives x := by
      rw [List.forall_mem_append, List.forall_mem_singleton]
      exact ⟨hg, s', by rw [hb]⟩
    by_cases hstop : answer = .stop
    · subst hstop
      rw [walkWithin, walkWithin, hx, hd]
      dsimp only
      rw [hrecorded, hb]
      exact ⟨_, r.next, by simp [Recording.extend, Recording.add], fun _ => .stoppedAfter hs,
        hgives⟩
    · by_cases hskip : answer = .skipParts
      · subst hskip
        rw [walkWithin, walkWithin, hx, hd]
        dsimp only
        rw [hrecorded, hb]
        exact ⟨_, r.next, by simp [Recording.extend, Recording.add], fun _ => .skippedAfter hs,
          hgives⟩
      · obtain ⟨ys, next, hy, hys, hgy⟩ := walkAll_recorded parts s''
          ((r.extend xs).add (.beforeParts e) answer)
        rw [walkWithin_of_shown hd hb hstop hskip, walkWithin_of_shown hx hrecorded hstop hskip, hy]
        refine ⟨xs ++ ⟨r.here, .beforeParts e, answer⟩ :: ys, next, ?_, fun h0 => ?_, ?_⟩
        · simp [Recording.extend, Recording.add]
        · refine .parts hs hstop hskip ?_
          rw [← h0]
          exact hys
        · rw [List.append_cons, List.forall_mem_append]
          exact ⟨hgives, hgy⟩

theorem walkAll_recorded (ts : List Tree) (s : σ) (r : Recording) :
    ∃ xs next, v.recorded.walkAll ts (s, r) =
        ((v.walkAll ts s).1, (v.walkAll ts s).2, { r with next := next }.extend xs) ∧
      WalksAll r.here r.next ts xs (v.walkAll ts s).1 ∧ ∀ x ∈ xs, v.Gives x := by
  match ts with
  | [] =>
    refine ⟨[], r.next, ?_, .nil .., List.forall_mem_nil _⟩
    rw [walkAll, walkAll, Recording.extend_nil]
  | t :: ts =>
    obtain ⟨xs, hx, hs, hg⟩ := walk_recorded t s r
    rw [walkAll, walkAll, hx]
    rcases hw : v.walk t s with ⟨flow, s'⟩
    rw [hw] at hs
    cases flow with
    | stopped => exact ⟨xs, r.next + 1, rfl, .stopped hs, hg⟩
    | through =>
      obtain ⟨ys, next, hy, hys, hgy⟩ := walkAll_recorded ts s'
        ({ r with next := r.next + 1 }.extend xs)
      dsimp only
      rw [hy]
      refine ⟨xs ++ ys, next, ?_, .next hs hys, ?_⟩
      · simp [Recording.extend]
      · rw [List.forall_mem_append]
        exact ⟨hg, hgy⟩

end

/-- The trace of a walk is one that the rules allow, and its answers are those of the visitor. -/
theorem walks_trace (v : Visitor σ) (t : Tree) (s : σ) :
    Walks [(0, t.element)] t (v.trace t s) (v.walk t s).1 ∧ ∀ x ∈ v.trace t s, v.Gives x := by
  obtain ⟨xs, hx, hs, hg⟩ := walk_recorded (v := v) t s .empty
  have htrace : v.trace t s = xs := by
    rw [trace, hx]
    exact List.nil_append xs
  rw [htrace]
  exact ⟨hs, hg⟩

end Visitor
end Schemata
