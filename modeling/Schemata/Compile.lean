import Schemata.Discovery
import Schemata.Link
import Schemata.LinkedWorkspace
import Schemata.Options

/-!
# Runs

A run parses the files of a workspace and those that they include, links each of them against the
table of all, and gathers what came of every file. The number of workers never shows in the result.

Results: `link_of_not_raising` (unless a single failure is to be raised, linking has a result).
-/
namespace Schemata

/-- Why a run has no result. -/
inductive RunFault where
  /-- The only file that failed. -/
  | diagnostic (d : Diagnostic)
  /-- The run could not be set up. -/
  | infrastructure (reason : String)
  deriving Inhabited

/-- The wording of a fault. -/
def RunFault.message : RunFault → String
  | diagnostic d => d.text
  | infrastructure reason => "infrastructure failure: " ++ reason

/-- A run with several workers needs at least one. -/
def Options.check (o : Options) : Except RunFault Unit :=
  if !o.singleThreaded && o.maxThreads == some 0 then
    .error (.infrastructure "`max_num_threads` must be at least 1")
  else .ok ()

/-- Parses the files of a workspace and those that they include. -/
def parse (grammar : Grammar) (disk : Disk) (w : Workspace) (o : Options) :
    Except RunFault (List ParsedEntry) := do
  o.check
  return Discovery.all grammar disk w

/-- Adds what came of a file. -/
def LinkedWorkspace.add (w : LinkedWorkspace) (e : ParsedEntry)
    (result : Except Diagnostic (Root LinkedType)) : LinkedWorkspace :=
  match result with
  | .ok root => w.addRoot e.directory e.file root
  | .error d => w.addError e.parsed.path d

/-- What came of all files. -/
def gather (entries : List ParsedEntry) : LinkedWorkspace :=
  let files := entries.map (·.parsed)
  let table := Table.ofFiles files
  (entries.zip (table.linkFiles files)).foldl (fun w (e, result) => w.add e result) .empty

/-- Links parsed files. The failure of a single file is raised if that is wanted. -/
def link (entries : List ParsedEntry) (o : Options) : Except RunFault LinkedWorkspace := do
  o.check
  let w := gather entries
  match o.raiseSingle, w.singleError? with
  | true, some d => .error (.diagnostic d)
  | _, _ => return w

theorem link_of_not_raising {entries : List ParsedEntry} {o : Options} (check : o.check = .ok ())
    (raise : o.raiseSingle = false) : link entries o = .ok (gather entries) := by
  unfold link
  rw [check, raise]
  rfl

/-- Parses and links a workspace. -/
def compile (grammar : Grammar) (disk : Disk) (w : Workspace) (o : Options) :
    Except RunFault LinkedWorkspace := do
  let entries ← parse grammar disk w o
  link entries o

end Schemata
