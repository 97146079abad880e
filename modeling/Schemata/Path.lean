import Schemata.Text.Split

/-!
# File paths

A path is kept as written, and it is compared, ordered and looked up by its components: repeated
separators, a trailing separator and inner `.` segments do not count.

Results: `Path.same_refl`, `Path.same_symm`, `Path.same_trans` (sameness is an equivalence).
-/
namespace Schemata

/-- A segment that stands for no step: nothing between two separators, or a single dot. -/
def isIdle (segment : List Char) : Bool :=
  segment == [] || segment == ['.']

/-- One step of a path. The order of the constructors is the order of paths. -/
inductive Component where
  /-- The leading separator. -/
  | root
  /-- A leading `.`. -/
  | current
  /-- The segment `..`. -/
  | parent
  /-- Any other segment. -/
  | name (text : String)
  deriving DecidableEq, Repr, Inhabited, Ord

/-- The step that a segment which is not idle stands for. -/
def Component.ofSegment (segment : List Char) : Component :=
  if segment = ['.', '.'] then .parent else .name (String.ofList segment)

/-- A path as it is written. -/
structure Path where
  text : String
  deriving DecidableEq, Repr, Inhabited

namespace Path

/-- A path that begins with a separator starts at the root. -/
def isAbsolute (p : Path) : Bool :=
  p.text.toList.head? == some '/'

/-- The leading part of a path that its body follows: the root separator, a leading `.` segment, or
nothing; and the body. -/
def split (p : Path) : List Char × List Char :=
  match p.text.toList with
  | '/' :: rest => (['/'], rest)
  | ['.'] => (['.'], [])
  | '.' :: '/' :: rest => (['.'], '/' :: rest)
  | cs => ([], cs)

/-- The steps of a path, outermost first. -/
def components (p : Path) : List Component :=
  let body := ((splitOn '/' p.split.2).filter (!isIdle ·)).map Component.ofSegment
  match p.split.1 with
  | ['/'] => .root :: body
  | ['.'] => .current :: body
  | _ => body

/-- Paths are ordered step by step; a path comes before its extensions. -/
instance : Ord Path where
  compare a b := List.compareLex compare a.components b.components

/-- Two paths are the same if they have the same steps. -/
def same (a b : Path) : Bool :=
  decide (a.components = b.components)

instance : BEq Path := ⟨same⟩

theorem same_iff {a b : Path} : same a b = true ↔ a.components = b.components := by
  simp [same]

theorem same_refl (a : Path) : same a a = true := same_iff.2 rfl

theorem same_symm {a b : Path} (h : same a b = true) : same b a = true :=
  same_iff.2 (same_iff.1 h).symm

theorem same_trans {a b c : Path} (h : same a b = true) (k : same b c = true) :
    same a c = true :=
  same_iff.2 ((same_iff.1 h).trans (same_iff.1 k))

/-- The path `q` seen from the directory `p`: an absolute `q` stands alone, and otherwise a
separator is put between the two unless `p` is empty or ends in one. -/
def join (p q : Path) : Path :=
  if q.isAbsolute then q
  else match p.text.toList.getLast? with
    | none => q
    | some '/' => ⟨p.text ++ q.text⟩
    | some _ => ⟨p.text ++ "/" ++ q.text⟩

/-- A list of segments without the idle ones at its end. -/
def dropIdleEnd (ss : List (List Char)) : List (List Char) :=
  (ss.reverse.dropWhile isIdle).reverse

/-- The segments of the body up to the last one that is a step. -/
def bodySegments (p : Path) : List (List Char) :=
  dropIdleEnd (splitOn '/' p.split.2)

/-- A path without its last step; neither the root nor the empty path has a parent. -/
def parent? (p : Path) : Option Path :=
  match p.bodySegments with
  | [] => if p.split.1 = ['.'] then some ⟨""⟩ else none
  | ss =>
    let body := List.intercalate ['/'] (dropIdleEnd ss.dropLast)
    some ⟨String.ofList (p.split.1 ++ body)⟩

/-- The last step of a path, if it is a name. -/
def fileName? (p : Path) : Option String :=
  match p.components.getLast? with
  | some (.name text) => some text
  | _ => none

instance : ToString Path := ⟨text⟩

end Path
end Schemata
