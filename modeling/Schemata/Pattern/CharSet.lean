import Schemata.Unicode.Blank
import Schemata.Unicode.CaseFolding
import Schemata.Unicode.Property

/-!
# Sets of characters

The sets that a pattern can denote: ranges, properties, and what is built from them. A set may be
closed under changes of case, among all characters or among those of ASCII.

Results: `CharSet.holds_closed_of_holds` (closing a set keeps its characters).
-/
namespace Schemata

/-- A set of characters. -/
inductive CharSet where
  /-- No character. -/
  | empty
  /-- The characters between two, inclusive. -/
  | range (first last : Char)
  /-- The characters with a property. -/
  | property (p : Unicode.Property)
  /-- The characters of either set. -/
  | union (a b : CharSet)
  /-- The characters of both sets. -/
  | intersection (a b : CharSet)
  /-- The characters of just one of the sets. -/
  | symmetricDifference (a b : CharSet)
  /-- The characters that are not in the set. -/
  | complement (a : CharSet)
  /-- The characters that differ from one of the set at most in case. -/
  | closed (a : CharSet)
  /-- The same among the letters of ASCII. -/
  | asciiClosed (a : CharSet)
  deriving DecidableEq, Repr, Inhabited

namespace CharSet

/-- The characters that differ from the given one at most in case, itself first. -/
def variants (c : Char) : List Char := c :: (Unicode.caseVariants c.toNat).map Char.ofNat

/-- The same among the letters of ASCII. -/
def asciiVariants (c : Char) : List Char := [c, c.toLower, c.toUpper]

/-- A character is in a set. -/
def holds : CharSet → Char → Bool
  | empty, _ => false
  | range first last, c => first ≤ c && c ≤ last
  | property p, c => p.holds c
  | union a b, c => a.holds c || b.holds c
  | intersection a b, c => a.holds c && b.holds c
  | symmetricDifference a b, c => a.holds c != b.holds c
  | complement a, c => !a.holds c
  | closed a, c => (variants c).any a.holds
  | asciiClosed a, c => (asciiVariants c).any a.holds

theorem holds_closed_of_holds {a : CharSet} {c : Char} (h : a.holds c = true) :
    (closed a).holds c = true :=
  List.any_eq_true.2 ⟨c, List.mem_cons_self, h⟩

theorem holds_asciiClosed_of_holds {a : CharSet} {c : Char} (h : a.holds c = true) :
    (asciiClosed a).holds c = true :=
  List.any_eq_true.2 ⟨c, List.mem_cons_self, h⟩

/-- The characters of one set that are not in another. -/
def difference (a b : CharSet) : CharSet := intersection a (complement b)

/-- A single character. -/
def single (c : Char) : CharSet := range c c

theorem holds_single {a c : Char} : (single a).holds c = true ↔ c = a := by
  simp only [single, holds, Bool.and_eq_true, decide_eq_true_eq]
  exact ⟨fun ⟨h, k⟩ => Char.le_antisymm k h, fun h => h ▸ ⟨Char.le_refl _, Char.le_refl _⟩⟩

/-- The union of several sets. -/
def unionAll (sets : List CharSet) : CharSet := sets.foldr union empty

/-- About how many sequences of byte ranges the UTF-8 forms of the characters are made of; what a
complement adds lies in blocks of all lengths. -/
def sequenceCount : CharSet → Nat
  | empty => 0
  | range .. => 1
  | property p => p.rangeCount
  | union a b | intersection a b | symmetricDifference a b => a.sequenceCount + b.sequenceCount
  | complement a => a.sequenceCount + 14
  | closed a | asciiClosed a => 2 * a.sequenceCount

/-- The way a set is built shows that all of its characters are of ASCII. -/
def isAscii : CharSet → Bool
  | empty => true
  | range _ last => last.toNat < 128
  | property _ | complement _ => false
  | union a b | symmetricDifference a b => a.isAscii && b.isAscii
  | intersection a b => a.isAscii || b.isAscii
  | closed a | asciiClosed a => a.isAscii

/-- About how many bytes it takes to prepare the match of a character of the set: 32 for a state, of
which a single character needs one for each byte, ASCII two in all, and anything else two for each
sequence. -/
def weight (s : CharSet) : Nat :=
  if s.isAscii then
    match s with
    | range first last => if first = last then 32 else 72
    | s => 64 + 8 * s.sequenceCount
  else
    match s with
    | range first last => if first = last then 32 * first.utf8Size else 64
    | s => 64 * s.sequenceCount

/-! ## Named sets -/

/-- The digits of all decimal systems. -/
def digit : CharSet := property (.category [.decimalNumber])

/-- White space. -/
def space : CharSet := property (.binary Unicode.BinaryProperty.whiteSpace)

/-- The characters of words: letters, marks, digits, connectors and joiners. -/
def word : CharSet :=
  unionAll [property (.binary Unicode.BinaryProperty.alphabetic),
    property (.category [.nonspacingMark, .spacingMark, .enclosingMark, .decimalNumber,
      .connectorPunctuation]),
    property (.binary Unicode.BinaryProperty.joinControl)]

/-- The digits of ASCII. -/
def asciiDigit : CharSet := range '0' '9'

/-- The white space of ASCII. -/
def asciiSpace : CharSet := union (range '\t' '\r') (single ' ')

/-- The characters of words in ASCII. -/
def asciiWord : CharSet :=
  unionAll [range 'a' 'z', range 'A' 'Z', asciiDigit, single '_']

/-- The sets of ASCII characters that have names. -/
def asciiNamed? (name : String) : Option CharSet :=
  let lower := range 'a' 'z'
  let upper := range 'A' 'Z'
  let alpha := union upper lower
  match name with
  | "alnum" => some (union asciiDigit alpha)
  | "alpha" => some alpha
  | "ascii" => some (range '\x00' '\x7f')
  | "blank" => some (union (single '\t') (single ' '))
  | "cntrl" => some (union (range '\x00' '\x1f') (single '\x7f'))
  | "digit" => some asciiDigit
  | "graph" => some (range '!' '~')
  | "lower" => some lower
  | "print" => some (range ' ' '~')
  | "punct" => some (unionAll [range '!' '/', range ':' '@', range '[' '\x60', range '\x7b' '~'])
  | "space" => some asciiSpace
  | "upper" => some upper
  | "word" => some asciiWord
  | "xdigit" => some (unionAll [asciiDigit, range 'A' 'F', range 'a' 'f'])
  | _ => none

end CharSet
end Schemata
