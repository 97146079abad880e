import Schemata.Path.Map
import Schemata.Text.Escaped

/-!
# Workspaces

A workspace lists files by directory and name, with their content. The content of a file is a text,
or is produced when it is asked for, which may fail.

Results: `Workspace.size_eq_length_files` (the size counts the listing).
-/
namespace Schemata

/-- The content of a listed file. -/
inductive Content where
  | text (s : String)
  /-- What comes of producing it: the text, or the messages of the failure, outermost first. -/
  | deferred (outcome : Except (List String) String)
  deriving Inhabited

namespace Content

/-- The text, or why there is none: the messages with colons between them. -/
def read : Content → Except String String
  | text s => .ok s
  | deferred (.ok s) => .ok s
  | deferred (.error messages) => .error (String.intercalate ": " messages)

/-- The content for programmers to look at; what has not been asked for is not shown. -/
def debugText : Content → String
  | text s => "Text(" ++ Text.Escaped.encode s ++ ")"
  | deferred _ => "Lazy"

end Content

/-- A listed file. -/
structure WorkspaceFile where
  directory : Path
  file : Path
  content : Content
  deriving Inhabited

/-- The path by which diagnostics and includes know the file. -/
def WorkspaceFile.path (f : WorkspaceFile) : Path := f.directory.join f.file

/-- Files by directory and name. -/
structure Workspace where
  /-- The directories with their files. -/
  directories : PathMap (PathMap Content)
  deriving Inhabited

namespace Workspace

/-- The workspace without files. -/
def empty : Workspace := ⟨.empty⟩

/-- The workspace with one more file, in the place of one with the same directory and name. -/
def addFile (w : Workspace) (directory file : Path) (content : Content) : Workspace :=
  ⟨w.directories.update directory .empty fun files => files.insert file content⟩

/-- The workspace of the given files, added in order. -/
def ofFiles (files : List WorkspaceFile) : Workspace :=
  files.foldl (fun w f => w.addFile f.directory f.file f.content) empty

/-- All files, ordered by directory and then by name. -/
def files (w : Workspace) : List WorkspaceFile :=
  w.directories.entries.flatMap fun (directory, files) =>
    files.entries.map fun (file, content) => ⟨directory, file, content⟩

/-- The number of files. -/
def size (w : Workspace) : Nat := w.directories.values.foldr (fun files n => files.size + n) 0

/-- There is no file. -/
def isEmpty (w : Workspace) : Bool := w.size == 0

theorem size_eq_length_files (w : Workspace) : w.size = w.files.length := by
  obtain ⟨⟨entries⟩⟩ := w
  simp only [size, files, PathMap.values]
  induction entries with
  | nil => rfl
  | cons e rest ih => simp_all [PathMap.size]

end Workspace
end Schemata
