import Schemata.Pattern.Escape

/-!
# Bracketed classes

A class in brackets is a set of characters: what is listed in it, or with `^` every other character.
Classes may contain classes, and `&&`, `--` and `~~` between two lists stand for the intersection,
the difference and the symmetric difference of what they list; they group to the left.

Results: `ClassLevel.close?_depth_of_single` (a class with one item nests one deeper than the item).
-/
namespace Schemata.Pattern

/-- An operation between two lists. -/
inductive SetOperation where
  /-- The characters of both. -/
  | intersection
  /-- The characters of the left one only. -/
  | difference
  /-- The characters of just one. -/
  | symmetricDifference
  deriving DecidableEq, Repr, Inhabited

/-- The set that an operation makes of two. -/
def SetOperation.apply : SetOperation → CharSet → CharSet → CharSet
  | intersection, a, b => .intersection a b
  | difference, a, b => CharSet.difference a b
  | symmetricDifference, a, b => .symmetricDifference a b

/-- A set, and how deep the classes nest by which it is written. -/
structure ClassItem where
  set : CharSet
  /-- How deep its parts nest. -/
  depth : Nat
  deriving Inhabited

/-- A class whose closing bracket has not been reached. -/
structure ClassLevel where
  /-- All other characters are meant. -/
  negated : Bool
  /-- What stands left of the current list, with the operation between them. -/
  left : Option (SetOperation × ClassItem)
  /-- The items of the current list, the last one first. -/
  items : List ClassItem
  deriving Inhabited

/-- One deeper than the deepest of several. -/
def deeper (depths : List Nat) : Nat := depths.foldl max 0 + 1

namespace ClassLevel

/-- What the current list lists. -/
def list (l : ClassLevel) : ClassItem :=
  match l.items with
  | [item] => item
  | [] => ⟨.empty, 0⟩
  | items => ⟨.unionAll (items.reverse.map (·.set)), deeper (items.map (·.depth))⟩

/-- The current list together with what stands left of it. -/
def value (f : Flags) (l : ClassLevel) : ClassItem :=
  match l.left with
  | none => l.list
  | some (op, a) =>
    ⟨op.apply (f.fold a.set) (f.fold l.list.set), deeper [a.depth, l.list.depth]⟩

/-- The class as a whole. -/
def close? (f : Flags) (l : ClassLevel) : Option ClassItem :=
  let item := l.value f
  (f.negate? l.negated (f.fold item.set)).map fun set => ⟨set, item.depth + 1⟩

theorem close?_depth_of_single {f : Flags} {l : ClassLevel} {item out : ClassItem}
    (left : l.left = none) (items : l.items = [item]) (h : l.close? f = some out) :
    out.depth = item.depth + 1 := by
  obtain ⟨set, _, rfl⟩ := Option.map_eq_some_iff.1 h
  simp [value, left, list, items]

/-- The class with one more item. -/
def add (l : ClassLevel) (item : ClassItem) : ClassLevel := { l with items := item :: l.items }

/-- The class with an operation behind what it has so far. -/
def operate (f : Flags) (l : ClassLevel) (op : SetOperation) : ClassLevel :=
  { l with left := some (op, l.value f), items := [] }

end ClassLevel

/-- A single character of a class. -/
def itemOfChar (c : Char) : ClassItem := ⟨.single c, 0⟩

/-- Hyphens that stand for themselves at the begin of a class, with blanks between them. -/
def readHyphens (verbose : Bool) : Nat → List Char → List ClassItem × List Char
  | fuel + 1, '-' :: cs =>
    let (items, rest) := readHyphens verbose fuel (skipBlank verbose cs)
    (itemOfChar '-' :: items, rest)
  | _, cs => ([], cs)

/-- The begin of a class behind its opening bracket: `^`, hyphens, and a closing bracket that comes
first, which stands for itself. -/
def openClass (f : Flags) (cs : List Char) : ClassLevel × List Char :=
  let (negated, cs) := match skipBlank f.verbose cs with
    | '^' :: cs => (true, skipBlank f.verbose cs)
    | cs => (false, cs)
  let (items, cs) := readHyphens f.verbose cs.length cs
  match items, cs with
  | [], ']' :: cs => (⟨negated, none, [itemOfChar ']']⟩, skipBlank f.verbose cs)
  | items, cs => (⟨negated, none, items⟩, cs)

/-- A named set of ASCII characters behind an opening bracket: a name between colons, which `^`
negates. -/
def readAsciiName (cs : List Char) : Option (CharSet × Bool × List Char) :=
  match cs with
  | ':' :: cs =>
    let (negated, cs) := match cs with
      | '^' :: cs => (true, cs)
      | cs => (false, cs)
    match cs.dropWhile (· != ':') with
    | ':' :: ']' :: rest =>
      (CharSet.asciiNamed? (String.ofList (cs.takeWhile (· != ':')))).map (·, negated, rest)
    | _ => none
  | _ => none

/-- A character of a class, or what an escape stands for. -/
def readClassAtom (f : Flags) : List Char → Option (Escaped × List Char)
  | [] => none
  | '\\' :: cs => readEscape f cs
  | c :: cs => some (.char c false, cs)

/-- A character that may stand in a class: without the Unicode flag one of ASCII. -/
def classChar? (f : Flags) : Escaped → Option Char
  | .char c _ => if f.unicode || c.toNat < 0x80 then some c else none
  | _ => none

/-- What an atom contributes to a class. -/
def classItem? (f : Flags) : Escaped → Option ClassItem
  | .set s => some ⟨s, 0⟩
  | e => (classChar? f e).map itemOfChar

/-- A hyphen between two characters makes a range, unless a closing bracket or another hyphen
follows it. -/
def isRangeHyphen (f : Flags) : List Char → Bool
  | '-' :: cs =>
    match skipBlank f.verbose cs with
    | ']' :: _ | '-' :: _ => false
    | _ => true
  | _ => false

/-- A range, or a single item. -/
def readClassItem (f : Flags) (cs : List Char) : Option (ClassItem × List Char) := do
  let (first, rest) ← readClassAtom f cs
  let rest := skipBlank f.verbose rest
  if isRangeHyphen f rest then
    let (last, rest) ← readClassAtom f (skipBlank f.verbose rest.tail)
    let a ← classChar? f first
    let b ← classChar? f last
    if a ≤ b then some (⟨.range a b, 0⟩, rest) else none
  else return (← classItem? f first, rest)

/-- Reads a class to its closing bracket; `outer` are the classes around it, innermost first. -/
def readClassFrom (f : Flags) :
    Nat → ClassLevel → List ClassLevel → List Char → Option (ClassItem × List Char)
  | 0, _, _, _ => none
  | fuel + 1, level, outer, cs =>
    match skipBlank f.verbose cs with
    | [] => none
    | '[' :: cs =>
      match readAsciiName cs with
      | some (set, negated, rest) => do
        let set ← f.negate? negated (f.fold set)
        readClassFrom f fuel (level.add ⟨set, 0⟩) outer rest
      | none =>
        let (inner, rest) := openClass f cs
        readClassFrom f fuel inner (level :: outer) rest
    | ']' :: cs => do
      let item ← level.close? f
      match outer with
      | [] => return (item, cs)
      | around :: outer => readClassFrom f fuel (around.add item) outer cs
    | '&' :: '&' :: cs => readClassFrom f fuel (level.operate f .intersection) outer cs
    | '-' :: '-' :: cs => readClassFrom f fuel (level.operate f .difference) outer cs
    | '~' :: '~' :: cs => readClassFrom f fuel (level.operate f .symmetricDifference) outer cs
    | cs => do
      let (item, rest) ← readClassItem f cs
      readClassFrom f fuel (level.add item) outer rest

/-- Reads a class behind its opening bracket. -/
def readClass (f : Flags) (cs : List Char) : Option (ClassItem × List Char) :=
  let (level, rest) := openClass f cs
  readClassFrom f (cs.length + 1) level [] rest

end Schemata.Pattern
