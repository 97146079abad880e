import Schemata.Unicode.BinaryProperty
import Schemata.Unicode.Category

/-!
# Escaped text

A text between quotes in which every character can be told apart: quotes and backslashes have a
backslash in front of them, and what cannot be seen, or would be drawn onto the character before it,
is written as its code point.

Results: `escape_ne_nil` (no character is lost), `encode_of_visible` (visible characters are kept).
-/
namespace Schemata.Text.Escaped

open Unicode

/-- The categories of characters that cannot be seen. -/
def invisible : List Category :=
  [.control, .format, .surrogate, .privateUse, .unassigned, .lineSeparator, .paragraphSeparator,
    .spaceSeparator]

/-- A character that stands for itself unless it has a meaning between quotes. -/
def isVisible (c : Char) : Bool :=
  c == ' ' || !BinaryProperty.graphemeExtend.contains c && !invisible.contains (Category.of c)

/-- The code point of a character, in hexadecimal digits between braces. -/
def codeEscape (c : Char) : List Char :=
  ['\\', 'u', '\x7b'] ++ Nat.toDigits 16 c.toNat ++ ['\x7d']

/-- How a character is written. -/
def escape (c : Char) : List Char :=
  match c with
  | '\x00' => ['\\', '0']
  | '\t' => ['\\', 't']
  | '\x0d' => ['\\', 'r']
  | '\n' => ['\\', 'n']
  | '"' => ['\\', '"']
  | '\\' => ['\\', '\\']
  | c => if isVisible c then [c] else codeEscape c

/-- A text between quotes. -/
def encode (s : String) : String := String.ofList ('"' :: s.toList.flatMap escape ++ ['"'])

theorem escape_ne_nil (c : Char) : escape c ≠ [] := by
  unfold escape
  split <;> try simp
  split <;> simp [codeEscape]

/-- The characters that have a short escape. -/
def shortEscaped : List Char := ['\x00', '\t', '\x0d', '\n', '"', '\\']

theorem escape_of_visible {c : Char} (hv : isVisible c = true) (hs : c ∉ shortEscaped) :
    escape c = [c] := by
  unfold escape
  split <;> simp_all [shortEscaped]

theorem encode_of_visible {s : String}
    (h : ∀ c ∈ s.toList, isVisible c = true ∧ c ∉ shortEscaped) :
    encode s = String.ofList ('"' :: s.toList ++ ['"']) := by
  have : ∀ cs : List Char, (∀ c ∈ cs, isVisible c = true ∧ c ∉ shortEscaped) →
      cs.flatMap escape = cs := by
    intro cs hcs
    induction cs with
    | nil => rfl
    | cons c cs ih =>
      rw [List.flatMap_cons, ih fun d hd => hcs d (List.mem_cons_of_mem _ hd),
        escape_of_visible (hcs c List.mem_cons_self).1 (hcs c List.mem_cons_self).2]
      rfl
  rw [encode, this _ h]

end Schemata.Text.Escaped
