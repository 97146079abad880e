import Schemata.Build
import Schemata.Table
import Schemata.Disk
import Schemata.Workspace

/-!
# Discovery

The files of a run are the listed ones and those on the disk that they include, directly or not.
They are parsed in waves: first the listed files, then what those include, and so on until nothing
new turns up. The ordinal of a file is the number of files parsed before it. Ordinals are unbounded
here: that a run fails as a whole for the file number 2^32, whose ordinal does not fit 32 bits, is
left out.
-/
namespace Schemata

/-- What makes statements of the text of a file. -/
abbrev Grammar := Path → String → Except Diagnostic (List Source.Statement)

/-- Where the text of a file comes from. -/
inductive Origin where
  | listed (content : Content)
  /-- The disk. -/
  | discovered
  deriving Inhabited

/-- A file that is to be parsed. -/
structure SourceFile where
  directory : Path
  /-- Its name there. -/
  file : Path
  /-- The path by which it is known. -/
  path : Path
  /-- Where its text comes from. -/
  origin : Origin
  deriving Inhabited

namespace SourceFile

/-- The source file of a listed file. -/
def ofListed (f : WorkspaceFile) : SourceFile := ⟨f.directory, f.file, f.path, .listed f.content⟩

/-- The source file of a path that was included. -/
def ofPath (path : Path) : SourceFile :=
  ⟨path.parent?.getD ⟨""⟩, ⟨path.fileName?.getD ""⟩, path, .discovered⟩

/-- The text of a file. A failure concerns the file as a whole. -/
def read (disk : Disk) (s : SourceFile) : Except Diagnostic String :=
  let outcome := match s.origin with
    | .listed content => content.read
    | .discovered => (disk.read s.path).mapError Disk.ReadFault.message
  match outcome with
  | .ok text => .ok text
  | .error reason => .error (.located (.fileStart s.path) (.unreadableContent s.path reason))

/-- Reads, parses and builds a file. -/
def parse (grammar : Grammar) (disk : Disk) (ordinal : Nat) (s : SourceFile) : ParsedFile :=
  let root := do
    let text ← s.read disk
    let statements ← grammar s.path text
    Build.root ⟨s.path, ordinal⟩ statements
  ⟨s.path, root⟩

end SourceFile

/-- A parsed file with the directory and the name under which its result is kept. -/
structure ParsedEntry where
  directory : Path
  /-- The name. -/
  file : Path
  parsed : ParsedFile
  deriving Inhabited

/-- How far the files of a run are known. -/
structure Discovery where
  /-- The parsed files, in the order of their ordinals. -/
  parsed : List ParsedEntry
  /-- The files that are to be parsed next. -/
  pending : List SourceFile
  /-- The paths of all these files. -/
  known : List Path
  deriving Inhabited

namespace Discovery

/-- Only the listed files are known. -/
def start (w : Workspace) : Discovery :=
  let pending := w.files.map SourceFile.ofListed
  ⟨[], pending, pending.map (·.path)⟩

/-- The targets of the includes of a file that has a root. -/
def targetsOf (f : ParsedFile) : List Path :=
  match f.root with
  | .ok root => root.inclusions.map Inclusion.target
  | .error _ => []

/-- Ordered paths without repeats; of the spellings of a path the last one counts. -/
def distinct (paths : List Path) : List Path :=
  let m := paths.foldl (fun (m : PathMap Path) p => m.insert p p) .empty
  m.values

/-- The files that parsed ones include and that are not known yet, in the order of their paths. -/
def discovered (disk : Disk) (known : List Path) (files : List ParsedFile) : List Path :=
  distinct ((files.flatMap targetsOf).filter fun p => !known.any (· == p) && disk.isFile p)

/-- Parses the pending files. -/
def parsePending (grammar : Grammar) (disk : Disk) (d : Discovery) : List ParsedEntry :=
  d.pending.zipIdx.map fun (s, index) =>
    ⟨s.directory, s.file, s.parse grammar disk (d.parsed.length + index)⟩

/-- One wave: the pending files are parsed, and what they include becomes pending. -/
def step (grammar : Grammar) (disk : Disk) (d : Discovery) : Discovery :=
  let wave := d.parsePending grammar disk
  let paths := discovered disk d.known (wave.map (·.parsed))
  ⟨d.parsed ++ wave, paths.map SourceFile.ofPath, d.known ++ paths⟩

/-- Wave after wave until nothing is pending, at most the given number of them. -/
def run (grammar : Grammar) (disk : Disk) : Nat → Discovery → Discovery
  | 0, d => d
  | waves + 1, d => if d.pending.isEmpty then d else run grammar disk waves (d.step grammar disk)

/-- More waves than there are paths short enough for a disk. -/
def waveLimit : Nat := Nat.pow 256 Disk.pathLimit

/-- All files of a workspace, and those that they include. -/
def all (grammar : Grammar) (disk : Disk) (w : Workspace) : List ParsedEntry :=
  (run grammar disk waveLimit (start w)).parsed

end Discovery
end Schemata
