import Schemata.Path

/-!
# The files at hand

A disk has a root directory with everything below it, and a current directory. A path is followed
segment by segment, from the root if it is absolute and else from the current directory; every
segment needs a directory to start from, and `..` leads out of one. There are no links, so a place
on the disk is known by the names from the root to it.

Results: `Disk.isDirectoryAt_of_isSome` (whatever stands in something stands in a directory).
-/
namespace Schemata

/-- A file with its bytes, or a directory with named nodes. -/
inductive DiskNode where
  | file (content : List UInt8)
  | directory (entries : List (String × DiskNode))
  deriving Inhabited

namespace DiskNode

/-- The node of the given name in a directory. -/
def entry? (name : String) : DiskNode → Option DiskNode
  | directory entries => (entries.find? (·.1 == name)).map (·.2)
  | file _ => none

/-- A node is a directory. -/
def isDirectory : DiskNode → Bool
  | directory _ => true
  | file _ => false

/-- A node is a file. -/
def isFile : DiskNode → Bool
  | directory _ => false
  | file _ => true

/-- The node with `leaf` put at the end of a chain of names; directories on the way are made. -/
def insert (leaf : DiskNode) : List String → DiskNode → DiskNode
  | [], node =>
    match leaf, node with
    | directory [], directory entries => directory entries
    | _, _ => leaf
  | name :: names, node =>
    let entries := match node with
      | directory entries => entries
      | file _ => []
    let old := ((entries.find? (·.1 == name)).map (·.2)).getD (directory [])
    directory (entries.filter (·.1 != name) ++ [(name, insert leaf names old)])

end DiskNode

/-- All files and directories there are, and the directory that relative paths start from. -/
structure Disk where
  /-- What stands in the root directory. -/
  entries : List (String × DiskNode)
  /-- The names from the root to the current directory, the innermost first. -/
  current : List String
  deriving Inhabited

namespace Disk

/-- The root directory. -/
def root (d : Disk) : DiskNode := .directory d.entries

/-- A disk without files. -/
def empty : Disk := ⟨[("current", .directory [])], ["current"]⟩

/-- The disk with a node at a path of names; directories on the way are made. -/
def insert (d : Disk) (path : Path) (leaf : DiskNode) : Disk :=
  let start := if path.isAbsolute then [] else d.current.reverse
  let names := path.components.filterMap fun
    | .name text => some text
    | _ => none
  match DiskNode.insert leaf (start ++ names) d.root with
  | .directory entries => { d with entries }
  | .file _ => d

/-- The node that names lead to from the root, the innermost name first. -/
def nodeAt? (d : Disk) : List String → Option DiskNode
  | [] => some d.root
  | name :: outer => (d.nodeAt? outer).bind fun node => node.entry? name

/-- Names lead to a directory. -/
def isDirectoryAt (d : Disk) (names : List String) : Bool :=
  (d.nodeAt? names).any DiskNode.isDirectory

/-- Names lead to a file. -/
def isFileAt (d : Disk) (names : List String) : Bool :=
  (d.nodeAt? names).any DiskNode.isFile

/-- One segment further from where names have led, which has to be a directory. The root is the
directory around itself. -/
def step? (d : Disk) (names : List String) (segment : List Char) : Option (List String) :=
  if d.isDirectoryAt names then
    if isIdle segment then some names
    else if segment = ['.', '.'] then some names.tail
    else
      let inner := String.ofList segment :: names
      if (d.nodeAt? inner).isSome then some inner else none
  else none

/-- Where a path starts: at the root, or in the current directory. -/
def start (d : Disk) (path : Path) : List String := if path.isAbsolute then [] else d.current

/-- Paths of so many bytes or more lead nowhere. -/
def pathLimit : Nat := 4096

/-- The names that a path leads to from the root, the innermost first. -/
def place? (d : Disk) (path : Path) : Option (List String) :=
  if path.text = "" ∨ pathLimit ≤ path.text.utf8ByteSize then none
  else (splitOn '/' path.text.toList).foldlM d.step? (d.start path)

/-- What a path leads to. -/
def node? (d : Disk) (path : Path) : Option DiskNode := (d.place? path).bind d.nodeAt?

/-- A path leads to something. -/
def holds (d : Disk) (path : Path) : Bool := (d.node? path).isSome

/-- A path leads to a directory. -/
def isDirectory (d : Disk) (path : Path) : Bool := (d.node? path).any DiskNode.isDirectory

/-- The bytes of the file that a path leads to. -/
def bytes? (d : Disk) (path : Path) : Option (List UInt8) :=
  match d.node? path with
  | some (.file content) => some content
  | _ => none

/-- A path leads to a file. -/
def isFile (d : Disk) (path : Path) : Bool := (d.bytes? path).isSome

/-- Whatever stands in something stands in a directory. -/
theorem isDirectoryAt_of_isSome {d : Disk} {name : String} {names : List String}
    (h : (d.nodeAt? (name :: names)).isSome) : d.isDirectoryAt names = true := by
  rw [isDirectoryAt]
  rw [nodeAt?] at h
  cases hn : d.nodeAt? names with
  | none => simp [hn] at h
  | some node =>
    cases node with
    | file content => simp [hn, DiskNode.entry?] at h
    | directory entries => rfl

/-- Why a file has no text. -/
inductive ReadFault where
  /-- There is no such file. -/
  | missing
  /-- The bytes are not UTF-8. -/
  | encoding
  deriving DecidableEq, Repr

/-- The wording of a fault. -/
def ReadFault.message : ReadFault → String
  | missing => "No such file or directory (os error 2)"
  | encoding => "stream did not contain valid UTF-8"

/-- The text of the file that a path leads to. -/
def read (d : Disk) (path : Path) : Except ReadFault String :=
  match d.bytes? path with
  | none => .error .missing
  | some content =>
    match String.fromUTF8? ⟨content.toArray⟩ with
    | some text => .ok text
    | none => .error .encoding

end Disk
end Schemata
