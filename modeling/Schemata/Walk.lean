import Schemata.Element

/-!
# Walks

A walk enters an element, shows its details one by one, walks its parts, and leaves it. A visitor
answers every call but the last: it may go on, skip the rest of the details or the parts of the
element, or stop the whole walk. Elements that were entered are left even when the walk stops, but
an element whose entering stops the walk is not.

Results: `Visitor.walk_of_stop` (stopping on entering ends the walk there).
-/
namespace Schemata

/-- The answer of a visitor. -/
inductive Control where
  | goOn
  /-- Skip the details of the element that are still to be shown. -/
  | skipDetails
  /-- Skip the parts of the element. -/
  | skipParts
  /-- Stop the walk. -/
  | stop
  deriving DecidableEq, Repr, Inhabited

/-- How a walk went. -/
inductive Flow where
  /-- It went through. -/
  | through
  /-- The visitor stopped it. -/
  | stopped
  deriving DecidableEq, Repr, Inhabited

/-- What looks at elements, with a state of its own. -/
structure Visitor (σ : Type) where
  enter : Element → σ → Control × σ
  /-- The details of an element are about to be shown. -/
  beforeDetails : Element → σ → Control × σ
  /-- A detail of an element is shown. -/
  detail : Element → Detail → σ → Control × σ
  /-- The parts of an element are about to be walked. -/
  beforeParts : Element → σ → Control × σ
  /-- An element is left. -/
  leave : Element → σ → σ

namespace Visitor
variable {σ : Type}

/-- The visitor that goes on everywhere. -/
def passive : Visitor σ where
  enter _ s := (.goOn, s)
  beforeDetails _ s := (.goOn, s)
  detail _ _ s := (.goOn, s)
  beforeParts _ s := (.goOn, s)
  leave _ s := s

/-- How the details of an element went. -/
inductive DetailsFlow where
  /-- Go on with the parts, or skip them. -/
  | shown (skipParts : Bool)
  /-- The visitor stopped the walk. -/
  | stopped
  deriving DecidableEq, Repr

/-- Shows details in order; `skipParts` tells whether the parts are already to be skipped. -/
def showDetails (v : Visitor σ) (e : Element) (skipParts : Bool) :
    List Detail → σ → DetailsFlow × σ
  | [], s => (.shown skipParts, s)
  | d :: ds, s =>
    match v.detail e d s with
    | (.stop, s) => (.stopped, s)
    | (.skipDetails, s) => (.shown skipParts, s)
    | (.skipParts, s) => v.showDetails e true ds s
    | (.goOn, s) => v.showDetails e skipParts ds s

/-- Shows the details of an element, after the answer to entering it. -/
def detailsStep (v : Visitor σ) (e : Element) (entered : Control) (s : σ) : DetailsFlow × σ :=
  let skipParts := entered == .skipParts
  if entered == .skipDetails then (.shown skipParts, s)
  else
    match v.beforeDetails e s with
    | (.stop, s) => (.stopped, s)
    | (.skipDetails, s) => (.shown skipParts, s)
    | (.skipParts, s) => v.showDetails e true e.details s
    | (.goOn, s) => v.showDetails e skipParts e.details s

mutual

/-- Walks a tree. -/
def walk (v : Visitor σ) : Tree → σ → Flow × σ
  | .node e parts, s =>
    match v.enter e s with
    | (.stop, s) => (.stopped, s)
    | (entered, s) =>
      match v.detailsStep e entered s with
      | (.stopped, s) => (.stopped, v.leave e s)
      | (.shown true, s) => (.through, v.leave e s)
      | (.shown false, s) =>
        match v.beforeParts e s with
        | (.stop, s) => (.stopped, v.leave e s)
        | (.skipParts, s) => (.through, v.leave e s)
        | (_, s) =>
          match v.walkAll parts s with
          | (flow, s) => (flow, v.leave e s)

/-- Walks trees in order, up to the one where the walk is stopped. -/
def walkAll (v : Visitor σ) : List Tree → σ → Flow × σ
  | [], s => (.through, s)
  | t :: ts, s =>
    match v.walk t s with
    | (.stopped, s) => (.stopped, s)
    | (.through, s) => v.walkAll ts s

end

theorem walk_of_stop (v : Visitor σ) (e : Element) (parts : List Tree) (s s' : σ)
    (h : v.enter e s = (.stop, s')) : v.walk (.node e parts) s = (.stopped, s') := by
  simp [walk, h]

end Visitor
end Schemata
