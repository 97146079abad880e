/-!
# Element ids

Every statement and type node has an id: the ordinal of its file and a number within the file. The
numbers of a file are handed out in order, from 1.
-/
namespace Schemata

/-- The identity of a statement or a type node. -/
structure ElementId where
  /-- The ordinal of the file. -/
  file : Nat
  /-- The number within the file, from 1. -/
  number : Nat
  deriving DecidableEq, Repr, Inhabited

namespace ElementId

/-- An id is written as its two numbers. -/
def text (id : ElementId) : String :=
  toString id.file ++ ":" ++ toString id.number

instance : ToString ElementId := ⟨text⟩

end ElementId

/-- Hands out the ids of one file. -/
structure Numbering where
  /-- The ordinal of the file. -/
  file : Nat
  /-- The number handed out next. -/
  next : Nat
  deriving DecidableEq, Repr, Inhabited

namespace Numbering

/-- The numbering of a file of which no id has been handed out. -/
def start (file : Nat) : Numbering := ⟨file, 1⟩

/-- The next id, and the numbering after it. -/
def take (n : Numbering) : ElementId × Numbering :=
  (⟨n.file, n.next⟩, { n with next := n.next + 1 })

/-- The next `count` ids, in order. -/
def takeMany (n : Numbering) : Nat → List ElementId
  | 0 => []
  | count + 1 => n.take.1 :: n.take.2.takeMany count

theorem takeMany_eq (n : Numbering) (count : Nat) :
    n.takeMany count = (List.range' n.next count).map (ElementId.mk n.file) := by
  induction count generalizing n with
  | zero => rfl
  | succ count ih => simp [takeMany, ih, take, List.range'_succ]

end Numbering
end Schemata
