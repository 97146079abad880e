import Schemata.Path.Map
import Schemata.Walk

/-!
# Results of a run

The linked files by directory and name, the diagnostics of the files that failed by path, and all
structures by the id of their statement, so that handles on them can be followed.

Results: `LinkedWorkspace.find?_addStruct_self` (what was added last under an id is found).
-/
namespace Schemata

/-- What came of a run. -/
structure LinkedWorkspace where
  /-- The linked files by directory and name. -/
  roots : PathMap (PathMap (Root LinkedType))
  /-- The diagnostics of the failed files by path. -/
  errors : PathMap Diagnostic
  /-- The structures by the id of their statement. -/
  structs : List (ElementId × Statement LinkedType)
  deriving Inhabited

namespace LinkedWorkspace

/-- Nothing has come of the run yet. -/
def empty : LinkedWorkspace := ⟨.empty, .empty, []⟩

/-- A structure in the place of one with the same id. -/
def addStruct (structs : List (ElementId × Statement LinkedType))
    (s : ElementId × Statement LinkedType) : List (ElementId × Statement LinkedType) :=
  s :: structs.filter (·.1 ≠ s.1)

/-- Collects the structure statements that are walked. Types hold none, so they are not walked. -/
def structCollector : Visitor (List (ElementId × Statement LinkedType)) where
  enter
    | .statement (.struct id range name bases metadata children), structs =>
      (.goOn, addStruct structs (id, .struct id range name bases metadata children))
    | .type _, structs => (.skipParts, structs)
    | _, structs => (.goOn, structs)
  beforeDetails _ structs := (.skipDetails, structs)
  detail _ _ structs := (.goOn, structs)
  beforeParts _ structs := (.goOn, structs)
  leave _ structs := structs

/-- Adds a linked file. -/
def addRoot (w : LinkedWorkspace) (directory file : Path) (root : Root LinkedType) :
    LinkedWorkspace :=
  { w with
    roots := w.roots.update directory .empty fun files => files.insert file root
    structs := (structCollector.walk (Tree.ofRoot root) w.structs).2 }

/-- Adds the diagnostic of a failed file. -/
def addError (w : LinkedWorkspace) (path : Path) (d : Diagnostic) : LinkedWorkspace :=
  { w with errors := w.errors.insert path d }

/-- Every file was linked. -/
def isSuccess (w : LinkedWorkspace) : Bool := w.errors.entries.isEmpty

/-- The linked file of a directory and a name. -/
def root? (w : LinkedWorkspace) (directory file : Path) : Option (Root LinkedType) :=
  (w.roots.get? directory).bind (·.get? file)

/-- The linked files with their directories and names, in order. -/
def allRoots (w : LinkedWorkspace) : List (Path × Path × Root LinkedType) :=
  w.roots.entries.flatMap fun (directory, files) =>
    files.entries.map fun (file, root) => (directory, file, root)

/-- The structure of a statement's id. -/
def struct? (w : LinkedWorkspace) (id : ElementId) : Option (Statement LinkedType) :=
  (w.structs.find? (·.1 = id)).map (·.2)

/-- The number of structures. -/
def structCount (w : LinkedWorkspace) : Nat := w.structs.length

/-- The diagnostic of the only failed file, if there is just one. -/
def singleError? (w : LinkedWorkspace) : Option Diagnostic :=
  match w.errors.entries with
  | [(_, d)] => some d
  | _ => none

theorem find?_addStruct_self (structs : List (ElementId × Statement LinkedType))
    (s : ElementId × Statement LinkedType) :
    (addStruct structs s).find? (·.1 = s.1) = some s := by
  simp [addStruct]

end LinkedWorkspace
end Schemata
