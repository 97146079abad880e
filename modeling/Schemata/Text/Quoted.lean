/-!
# Quoted text

A text literal stands between double quotes. A quote, a backslash, a line feed and a tab inside it
are written with a backslash; every other character stands for itself.

Results: `decode_encode` (quoting can be undone, whatever follows the closing quote).
-/
namespace Schemata.Text.Quoted

/-- How one character is written between quotes. -/
def escape : Char → List Char
  | '"' => ['\\', '"']
  | '\\' => ['\\', '\\']
  | '\n' => ['\\', 'n']
  | '\t' => ['\\', 't']
  | c => [c]

/-- A text between quotes. -/
def encode (cs : List Char) : List Char :=
  '"' :: (cs.flatMap escape ++ ['"'])

/-- The text up to the closing quote, and what follows that. -/
def decodeBody : List Char → Option (List Char × List Char)
  | [] => none
  | '"' :: rest => some ([], rest)
  | '\\' :: 'n' :: rest => (decodeBody rest).map fun (s, r) => ('\n' :: s, r)
  | '\\' :: 't' :: rest => (decodeBody rest).map fun (s, r) => ('\t' :: s, r)
  | '\\' :: c :: rest => (decodeBody rest).map fun (s, r) => (c :: s, r)
  | c :: rest => (decodeBody rest).map fun (s, r) => (c :: s, r)

/-- Reads a quoted text. -/
def decode : List Char → Option (List Char × List Char)
  | '"' :: rest => decodeBody rest
  | _ => none

theorem decodeBody_escape (c : Char) (rest : List Char) :
    decodeBody (escape c ++ rest) = (decodeBody rest).map fun (s, r) => (c :: s, r) := by
  unfold escape
  split
  · rfl
  · rfl
  · rfl
  · rfl
  · rename_i h1 h2 h3 h4
    exact decodeBody.eq_6 c rest (by simpa using h1) (by simp_all) (by simp_all) (by simp_all)

theorem decodeBody_flatMap_escape (cs rest : List Char) :
    decodeBody (cs.flatMap escape ++ '"' :: rest) = some (cs, rest) := by
  induction cs with
  | nil => rfl
  | cons c cs ih => simp [List.flatMap_cons, List.append_assoc, decodeBody_escape, ih]

/-- Quoting can be undone, whatever follows. -/
theorem decode_encode (cs rest : List Char) : decode (encode cs ++ rest) = some (cs, rest) := by
  simp [encode, decode, decodeBody_flatMap_escape]

end Schemata.Text.Quoted

namespace Schemata

/-- A text as a literal. -/
def quoted (s : String) : String :=
  String.ofList (Text.Quoted.encode s.toList)

end Schemata
