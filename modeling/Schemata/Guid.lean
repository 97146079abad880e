import Schemata.Text.Split
import Schemata.Text.Hex

/-!
# Globally unique identifiers

A GUID is 32 hexadecimal digits. It is read plain, or in groups of 8, 4, 4, 4 and 12 digits with
hyphens between them, and the groups may stand in braces or behind `urn:uuid:`. It is written in
groups, in lowercase.
-/
namespace Schemata

/-- 32 hexadecimal digits. -/
structure Guid where
  digits : List (Fin 16)
  length_eq : digits.length = 32
  deriving DecidableEq, Repr

namespace Guid

/-- Why a text is no GUID. -/
inductive Fault where
  /-- The number of bytes fits no form. -/
  | length (found : Nat)
  /-- Neither a hexadecimal digit nor a hyphen. -/
  | character (found : Char) (index : Nat)
  /-- There are not five groups. -/
  | groupCount (found : Nat)
  /-- A group is too short or too long. -/
  | groupLength (group expected found : Nat)
  deriving DecidableEq, Repr

/-- The wording of a fault. -/
def Fault.message : Fault → String
  | length found => "invalid length: found " ++ toString found
  | character found index =>
    "invalid character: found `" ++ found.toString ++ "` at " ++ toString index
  | groupCount found => "invalid group count: expected 5, found " ++ toString found
  | groupLength group expected found =>
    "invalid group length in group " ++ toString group ++ ": expected " ++ toString expected ++
      ", found " ++ toString found

/-- The digits of a text without separators. -/
def readPlain (cs : List Char) : Option Guid :=
  match cs.mapM hexDigit? with
  | some ds => if h : ds.length = 32 then some ⟨ds, h⟩ else none
  | none => none

/-- The numbers of digits of the groups. -/
def groupLengths : List Nat := [8, 4, 4, 4, 12]

/-- The digits of a text in groups. -/
def readGroups (cs : List Char) : Option Guid :=
  let groups := splitOn '-' cs
  if groups.map List.length = groupLengths then readPlain groups.flatten else none

/-- What stands in braces. -/
def inBraces? : List Char → Option (List Char)
  | '\x7b' :: rest => if rest.getLast? = some '\x7d' then some rest.dropLast else none
  | _ => none

/-- The scheme before a GUID that is a name. -/
def scheme : List Char := "urn:uuid:".toList

/-- What stands behind the scheme, in whatever case that is. -/
def afterScheme? (cs : List Char) : Option (List Char) :=
  if (cs.take 9).map Char.toLower = scheme then some (cs.drop 9) else none

/-- The text with the wrapping that its form has, if any. -/
def unwrap? (cs : List Char) : Option (List Char) :=
  inBraces? cs <|> afterScheme? cs

/-- The first character that has no place in a GUID, with its byte index. -/
def strayFrom (index : Nat) : List Char → Option (Char × Nat)
  | [] => none
  | c :: cs =>
    if (hexDigit? c).isSome ∨ c = '-' then strayFrom (index + c.utf8Size) cs else some (c, index)

/-- The group, from the given one on, whose end is not where it belongs: with the length it should
have and the one it has. `ends` are the indexes of the hyphens. -/
def misplacedFrom (group start : Nat) : List Nat → List Nat → Option (Nat × Nat × Nat)
  | expected :: lengths, stop :: ends =>
    if stop = start + expected then misplacedFrom (group + 1) (start + expected + 1) lengths ends
    else some (group, expected, stop - start)
  | _, _ => none

/-- The indexes of the hyphens of a text. -/
def hyphens (cs : List Char) : List Nat :=
  (cs.zipIdx.filter (·.1 = '-')).map (·.2)

/-- Why `inner`, taken out of a text of `size` bytes, is no GUID. -/
def explain (size : Nat) (grouped : Bool) (inner : List Char) : Fault :=
  match strayFrom 0 inner with
  | some (c, index) => .character c index
  | none =>
    let ends := hyphens inner
    if ends = [] ∧ ¬ grouped then .length size
    else if ends.length ≠ 4 then .groupCount (ends.length + 1)
    else match misplacedFrom 0 0 groupLengths ends with
      | some (group, expected, found) => .groupLength group expected found
      | none => .groupLength 4 12 (size - 24)

/-- Reads a GUID in any of its forms. -/
def read (s : String) : Except Fault Guid :=
  let cs := s.toList
  let size := byteLength cs
  let unwrapped := unwrap? cs
  let inner := unwrapped.getD cs
  if size = 0 ∨ 45 < size then .error (.length size)
  else if size = 32 then
    match readPlain cs with
    | some g => .ok g
    | none => .error (explain size unwrapped.isSome inner)
  else if byteLength inner = 36 then
    match readGroups inner with
    | some g => .ok g
    | none => .error (explain size true inner)
  else .error (explain size unwrapped.isSome inner)

/-- The digits in groups with hyphens between them. -/
def chars (g : Guid) : List Char :=
  let cs := g.digits.map hexChar
  cs.take 8 ++ '-' :: (cs.drop 8).take 4 ++ '-' :: (cs.drop 12).take 4 ++ '-' ::
    (cs.drop 16).take 4 ++ '-' :: cs.drop 20

/-- A GUID as text. -/
def text (g : Guid) : String := String.ofList g.chars

instance : ToString Guid := ⟨text⟩

end Guid
end Schemata
