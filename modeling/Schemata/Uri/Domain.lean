import Schemata.Text.Split
import Schemata.Unicode.BidiClass
import Schemata.Unicode.Category
import Schemata.Unicode.JoiningType
import Schemata.Uri.DomainName
import Schemata.Uri.Punycode

/-!
# Domains

A domain is a sequence of labels with dots between them. A label with other characters than those of
ASCII is written in Punycode behind `xn--`. A label must not begin with a mark, a joiner must have
something to join, and where a label is written from right to left no label may mix directions.

Results: `domain?_eq_some` (what a domain that is accepted consists of), `Label.text?_eq_self`.
-/
namespace Schemata.Uri

open Unicode

/-- A character that no label may contain: a blank, a control, or one with a meaning elsewhere in a
URI. -/
def isForbiddenInDomain (c : Char) : Bool := c ≤ ' ' || c == '\x7f' || "%#/:<>?@[\\]^|".contains c

/-- The characters of ASCII. -/
def isAscii (c : Char) : Bool := c.toNat < 128

namespace Label

/-- What the label of a name stands for: Punycode, of other characters than those of ASCII alone and
without a character that would be replaced, is read. -/
def text? : List Char → Option (List Char)
  | 'x' :: 'n' :: '-' :: '-' :: digits => do
    let ns ← Punycode.decode? digits
    guard (ns.any (128 ≤ ·) && domainName? ns == some ns)
    pure (ns.map Char.ofNat)
  | label => some label

theorem text?_eq_self {label : List Char} (h : ¬"xn--".toList.isPrefixOf label) :
    text? label = some label := by
  unfold text?
  split
  · simp [List.isPrefixOf] at h
  · rfl

/-- A label as it is written with ASCII alone. -/
def encode (label : List Char) : List Char :=
  if label.all isAscii then label else "xn--".toList ++ Punycode.encode (label.map Char.toNat)

/-! ## Marks and joiners -/

/-- The character combines with the one before it. -/
def isMark (c : Char) : Bool :=
  [Category.nonspacingMark, .spacingMark, .enclosingMark].contains (Category.of c)

/-- The next character that is not passed over joins to the side that is looked from. -/
def joinsAcross (types : List JoiningType) (cs : List Char) : Bool :=
  ((cs.map (JoiningType.of ·.toNat)).dropWhile (· == .transparent)).head?.any types.contains

/-- The character is a sign that takes the vowel from a consonant. -/
def isVirama (c : Char) : Bool := combiningClass c.toNat == 9

/-- Each joiner stands behind a virama, or, if it keeps letters apart, between letters that would be
joined; `before` are the characters before, last first. -/
def joinersFit (before : List Char) : List Char → Bool
  | [] => true
  | c :: cs =>
    (if c == '\u200c' then
        before.head?.any isVirama ||
          joinsAcross [.left, .dual] before && joinsAcross [.right, .dual] cs
      else c != '\u200d' || before.head?.any isVirama) &&
      joinersFit (c :: before) cs

/-! ## Direction -/

/-- The classes of characters in a label. -/
def classes (label : List Char) : List BidiClass := label.map (BidiClass.of ·.toNat)

/-- A character is written from right to left. -/
def isRightToLeft (b : BidiClass) : Bool := [.rightToLeft, .arabicLetter, .arabicNumber].contains b

/-- The classes that may stand in a label of either direction. -/
def neutral : List BidiClass :=
  [.europeanNumber, .europeanSeparator, .commonSeparator, .europeanTerminator, .otherNeutral,
    .boundaryNeutral, .nonspacingMark]

/-- All characters are of given classes, and the last one that is no mark is of others. -/
def consistsOf (all final : List BidiClass) (bs : List BidiClass) : Bool :=
  bs.all all.contains && (bs.reverse.dropWhile (· == .nonspacingMark)).head?.any final.contains

/-- The label keeps to the direction that its first character sets. -/
def keepsDirection (bs : List BidiClass) : Bool :=
  match bs.head? with
  | none => true
  | some .leftToRight =>
    consistsOf (.leftToRight :: neutral) [.leftToRight, .europeanNumber] bs
  | some b =>
    [.rightToLeft, .arabicLetter].contains b &&
    consistsOf ([.rightToLeft, .arabicLetter, .arabicNumber] ++ neutral)
      [.rightToLeft, .arabicLetter, .europeanNumber, .arabicNumber] bs &&
    !(bs.contains .europeanNumber && bs.contains .arabicNumber)

/-- The label may stand in a domain. -/
def isValid (label : List Char) : Bool :=
  !label.any isForbiddenInDomain && !label.head?.any isMark && joinersFit [] label

end Label

/-- Labels may stand in a domain together. -/
def labelsFit (labels : List (List Char)) : Bool :=
  labels.all Label.isValid &&
  (!(labels.any fun label => (Label.classes label).any Label.isRightToLeft) ||
    labels.all fun label => Label.keepsDirection (Label.classes label))

/-- A domain in ASCII, from a text that denotes it. -/
def domain? (cs : List Char) : Option (List Char) := do
  let ns ← domainName? (cs.map Char.toNat)
  let labels ← (splitOn '.' (ns.map Char.ofNat)).mapM Label.text?
  guard (labelsFit labels)
  pure (['.'].intercalate (labels.map Label.encode))

theorem domain?_eq_some {cs domain : List Char} (h : domain? cs = some domain) :
    ∃ labels, labelsFit labels = true ∧ domain = ['.'].intercalate (labels.map Label.encode) := by
  rw [domain?] at h
  obtain ⟨ns, -, h⟩ := Option.bind_eq_some_iff.1 h
  obtain ⟨labels, -, h⟩ := Option.bind_eq_some_iff.1 h
  obtain ⟨_, hg, hd⟩ := Option.bind_eq_some_iff.1 h
  refine ⟨labels, ?_, (Option.some.inj hd).symm⟩
  by_cases hf : labelsFit labels = true
  · exact hf
  · rw [show guard (labelsFit labels) = (none : Option Unit) from if_neg hf] at hg
    cases hg

end Schemata.Uri
