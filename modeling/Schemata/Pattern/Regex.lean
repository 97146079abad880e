import Schemata.Pattern.CharSet

/-!
# Regular expressions

A regular expression takes places in a text to places in it: where a match of it that begins at one
place may end. All of them are followed at once, so a match is found exactly if there is one.

Results: `Regex.run_nil` (from no place nothing is reached), `Regex.mem_spread_of_mem`.
-/
namespace Schemata

/-- A condition on a place in a text that takes no characters. -/
inductive Assertion where
  /-- The begin of the text. -/
  | textStart
  | textEnd
  /-- The begin of a line. With `crlf` a carriage return also ends lines. -/
  | lineStart (crlf : Bool)
  | lineEnd (crlf : Bool)
  /-- A word begins or ends. -/
  | boundary (word : CharSet)
  /-- No word begins or ends. -/
  | noBoundary (word : CharSet)
  /-- A word begins. -/
  | wordStart (word : CharSet)
  | wordEnd (word : CharSet)
  /-- Before the place there is no character of a word. -/
  | noWordBefore (word : CharSet)
  /-- Behind the place there is no character of a word. -/
  | noWordAfter (word : CharSet)
  deriving DecidableEq, Repr, Inhabited

namespace Assertion

/-- The assertion holds between two characters, either of which may be missing. -/
def holds : Assertion → Option Char → Option Char → Bool
  | textStart, before, _ => before.isNone
  | textEnd, _, after => after.isNone
  | lineStart false, before, _ => before.all (· == '\n')
  | lineStart true, before, after =>
    before.all fun c => c == '\n' || c == '\r' && after != some '\n'
  | lineEnd false, _, after => after.all (· == '\n')
  | lineEnd true, before, after =>
    after.all fun c => c == '\r' || c == '\n' && before != some '\r'
  | boundary word, before, after => before.any word.holds != after.any word.holds
  | noBoundary word, before, after => before.any word.holds == after.any word.holds
  | wordStart word, before, after => !before.any word.holds && after.any word.holds
  | wordEnd word, before, after => before.any word.holds && !after.any word.holds
  | noWordBefore word, before, _ => !before.any word.holds
  | noWordAfter word, _, after => !after.any word.holds

end Assertion

/-- A regular expression. -/
inductive Regex where
  /-- Nothing. -/
  | empty
  | one (set : CharSet)
  /-- Nothing, at a place where the assertion holds. -/
  | assertion (a : Assertion)
  /-- One expression after the other. -/
  | seq (a b : Regex)
  /-- Either expression. -/
  | alt (a b : Regex)
  /-- An expression at least `min` times, and at most `max` times if that is given. -/
  | times (a : Regex) (min : Nat) (max : Option Nat)
  deriving DecidableEq, Repr, Inhabited

namespace Regex

/-- Adds places to places, without repeats. -/
def merge (places more : List Nat) : List Nat :=
  places ++ (more.filter (!places.contains ·)).eraseDups

/-- Takes a step a number of times, or until it changes nothing. -/
def repeatStep (step : List Nat → List Nat) : Nat → List Nat → List Nat
  | 0, places => places
  | count + 1, places =>
    let next := step places
    if next = places then places else repeatStep step count next

/-- The places that are reached by taking a step up to a number of times. -/
def spread (step : List Nat → List Nat) : Nat → List Nat → List Nat
  | 0, places => places
  | count + 1, places =>
    let next := merge places (step places)
    if next.length = places.length then places else spread step count next

theorem mem_merge_of_mem {place : Nat} {places more : List Nat} (h : place ∈ places) :
    place ∈ merge places more := List.mem_append_left _ h

theorem mem_spread_of_mem {step : List Nat → List Nat} {count place : Nat} {places : List Nat}
    (h : place ∈ places) : place ∈ spread step count places := by
  induction count generalizing places with
  | zero => exact h
  | succ count ih =>
    rw [spread]
    split
    · exact h
    · exact ih (mem_merge_of_mem h)

/-- The places where matches end that begin at the given places. -/
def run (text : Array Char) : Regex → List Nat → List Nat
  | empty, places => places
  | one set, places => (places.filter fun i => (text[i]?).any set.holds).map (· + 1)
  | assertion a, places =>
    places.filter fun i => a.holds (if i = 0 then none else text[i - 1]?) text[i]?
  | seq a b, places => b.run text (a.run text places)
  | alt a b, places => merge (a.run text places) (b.run text places)
  | times a min max, places =>
    let least := repeatStep (a.run text) min places
    match max with
    | some max => spread (a.run text) (max - min) least
    | none => spread (a.run text) (text.size + 1) least

theorem repeatStep_nil {step : List Nat → List Nat} (h : step [] = []) (count : Nat) :
    repeatStep step count [] = [] := by
  cases count <;> simp [repeatStep, h]

theorem spread_nil {step : List Nat → List Nat} (h : step [] = []) (count : Nat) :
    spread step count [] = [] := by
  cases count <;> simp [spread, merge, h]

/-- From no place nothing is reached. -/
theorem run_nil (text : Array Char) (r : Regex) : r.run text [] = [] := by
  induction r with
  | empty => rfl
  | one => rfl
  | assertion => rfl
  | seq a b ha hb => rw [run, ha, hb]
  | alt a b ha hb => rw [run, ha, hb]; rfl
  | times a min max ih =>
    cases max <;> simp only [run, repeatStep_nil ih, spread_nil ih]

/-- A match begins at some place of a text. -/
def isMatch (r : Regex) (text : String) : Bool :=
  let text := text.toList.toArray
  !(r.run text (List.range (text.size + 1))).isEmpty

/-- About how many bytes it takes to prepare an expression: its sets, and the states that join
them. -/
def weight : Regex → Nat
  | empty => 0
  | one set => set.weight
  | assertion _ => 32
  | seq a b => a.weight + b.weight
  | alt a b => a.weight + b.weight + 36
  | times a min max =>
    match max with
    | some max => a.weight * max + 40 * (max - min)
    | none => a.weight * (if min = 0 then 1 else min) + 40

/-- Whatever the expression matches, it takes no characters. -/
def takesNothing : Regex → Bool
  | empty | assertion _ => true
  | one _ => false
  | seq a b | alt a b => a.takesNothing && b.takesNothing
  | times a _ max => a.takesNothing || max == some 0

/-- An expression at least `min` times, and at most `max` times if that is given. One that takes no
characters is not repeated more than once. -/
def repeated (a : Regex) (min : Nat) (max : Option Nat) : Regex :=
  if a.takesNothing then times a (Nat.min min 1) (some (Nat.min (max.getD 1) 1))
  else times a min max

/-- All expressions in order. -/
def seqAll : List Regex → Regex
  | [] => empty
  | [r] => r
  | r :: rs => seq r (seqAll rs)

/-- Any of one or more expressions. -/
def altAll (first : Regex) : List Regex → Regex
  | [] => first
  | r :: rs => alt first (altAll r rs)

end Regex
end Schemata
