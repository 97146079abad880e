import Schemata.Unicode.BinaryProperty
import Schemata.Unicode.Category
import Schemata.Unicode.Script

/-!
# Properties by name

A property of characters is looked up by name: a binary property, a category or a group of them, or
a script. Case, blanks, underscores, hyphens and a leading `is` do not count in names.

Results: `Property.holds_any` (one property holds of every character).
-/
namespace Schemata.Unicode

/-- A property of characters. -/
inductive Property where
  /-- Every character. -/
  | any
  /-- Every code point with a character. -/
  | assigned
  /-- The characters of ASCII. -/
  | ascii
  /-- The characters of some categories. -/
  | category (categories : List Category)
  /-- The characters of a script. -/
  | script (script : Nat)
  /-- The characters that are used with a script. -/
  | usedWith (script : Nat)
  /-- The characters of a set. -/
  | binary (set : CodeSet)
  deriving DecidableEq, Repr, Inhabited

namespace Property

/-- A character has a property. -/
def holds : Property → Char → Bool
  | any, _ => true
  | assigned, c => Category.of c != .unassigned
  | ascii, c => decide (c.toNat < 0x80)
  | category categories, c => categories.contains (Category.of c)
  | script s, c => Script.of c == some s
  | usedWith s, c => Script.isUsedWith s c
  | binary set, c => set.contains c

theorem holds_any (c : Char) : holds any c = true := rfl

/-- About how many runs of characters have a property. -/
def rangeCount : Property → Nat
  | any | ascii => 1
  | assigned => Category.table.length / 5
  | category categories =>
    (Category.table.filter fun (_, label) =>
      (Category.order[label]?).any (categories.contains ·)).length
  | script s | usedWith s =>
    (Script.table.filter fun (_, label) => label == s + 1).length
  | binary set => set.rangeCount

/-- A name in lower case without separators and characters beyond ASCII. -/
def foldName (cs : List Char) : String :=
  let isKept (c : Char) : Bool := !(c == ' ' || c == '_' || c == '-') && decide (c.toNat < 0x80)
  String.ofList ((cs.filter isKept).map Char.toLower)

/-- A name without the `is` that it may begin with, unless only the name of a category is left. -/
def normalName (cs : List Char) : String :=
  match cs with
  | i :: s :: rest =>
    if i.toLower == 'i' && s.toLower == 's' then
      let name := foldName rest
      if name == "c" then "isc" else name
    else foldName cs
  | _ => foldName cs

/-- The categories of a normal name, with the names for all, the assigned and the ASCII ones. -/
def categoryNamed? (name : String) : Option Property :=
  if name == "any" then some any
  else if name == "assigned" then some assigned
  else if name == "ascii" then some ascii
  else (Category.named? name).map category

/-- The property of a name: a binary property before a category, and a category before a script. -/
def named? (cs : List Char) : Option Property :=
  let name := normalName cs
  (BinaryProperty.named? name).map binary <|> categoryNamed? name <|>
    (Script.named? name).map script

/-- The property that a property with values takes a value for. -/
def valueNamed? (property value : List Char) : Option Property :=
  let value := normalName value
  let property := normalName property
  if property == "gc" || property == "generalcategory" then categoryNamed? value
  else if property == "sc" || property == "script" then (Script.named? value).map script
  else if property == "scx" || property == "scriptextensions" then
    (Script.named? value).map usedWith
  else none

end Property
end Schemata.Unicode
