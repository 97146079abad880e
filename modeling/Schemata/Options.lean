import Schemata.Document

/-!
# Options

How a run is carried out. Options are read from a document: an object whose missing members take
their defaults and whose other members are ignored, or an array of the members in order.
-/
namespace Schemata

/-- How a run is carried out. -/
structure Options where
  /-- Everything is done one after the other. -/
  singleThreaded : Bool
  /-- The number of workers, if it is limited. -/
  maxThreads : Option Nat
  /-- Failures of files are not logged. -/
  quiet : Bool
  /-- The failure of a single file is the failure of the run. -/
  raiseSingle : Bool
  deriving DecidableEq, Repr

namespace Options

/-- The options of a run for which none are given. -/
def default : Options := ⟨false, none, false, true⟩

instance : Inhabited Options := ⟨default⟩

/-- A truth value. -/
def readBoolean : Document → Option Bool
  | .boolean value => some value
  | _ => none

/-- A number of workers, which fits 64 bits, or none. -/
def readCount : Document → Option (Option Nat)
  | .null => some none
  | .integer n => if 0 ≤ n ∧ n < Nat.pow 2 64 then some (some n.toNat) else none
  | _ => none

/-- Reads what is given, and takes the default for what is not. -/
def orDefault {α : Type} (read : Document → Option α) (default : α) : Option Document → Option α
  | some d => read d
  | none => some default

/-- The options whose members are given where `get` has something. -/
def ofMembers (single count quiet raise : Option Document) : Option Options := do
  let singleThreaded ← orDefault readBoolean default.singleThreaded single
  let maxThreads ← orDefault readCount default.maxThreads count
  let quiet ← orDefault readBoolean default.quiet quiet
  let raiseSingle ← orDefault readBoolean default.raiseSingle raise
  return ⟨singleThreaded, maxThreads, quiet, raiseSingle⟩

/-- Reads options. -/
def ofDocument? : Document → Option Options
  | .object members =>
    let get (name : String) := (members.find? (·.1 == name)).map (·.2)
    ofMembers (get "single_threaded") (get "max_num_threads") (get "quiet")
      (get "raise_if_single_exception")
  | .array elements =>
    if elements.length ≤ 4 then
      ofMembers elements[0]? elements[1]? elements[2]? elements[3]?
    else none
  | _ => none

end Options
end Schemata
