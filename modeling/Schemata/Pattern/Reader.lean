import Schemata.Pattern.Class

/-!
# Reading patterns

A pattern is read from left to right. What is read belongs to the innermost open group: to the last
of its branches, which bars separate. Flags that are set within a group hold to its end.

Results: `Level.whole_of_single` (a group of one piece is that piece).
-/
namespace Schemata.Pattern

/-- A part of a branch. -/
structure Piece where
  regex : Regex
  /-- How deep its parts nest. -/
  depth : Nat
  /-- It can be repeated; a setting of flags cannot. -/
  repeatable : Bool
  deriving Inhabited

/-- A group that is open, or the pattern as a whole. -/
structure Level where
  /-- The flags that hold behind the group. -/
  restored : Flags
  /-- The finished branches, the last one first. -/
  branches : List Piece
  /-- The pieces of the current branch, the last one first. -/
  pieces : List Piece
  deriving Inhabited

namespace Level

/-- The current branch. -/
def branch (l : Level) : Piece :=
  match l.pieces with
  | [] => ⟨.empty, 0, false⟩
  | [piece] => piece
  | pieces => ⟨.seqAll (pieces.reverse.map (·.regex)), deeper (pieces.map (·.depth)), true⟩

/-- The branches together. -/
def whole (l : Level) : Piece :=
  match l.branches.reverse with
  | [] => l.branch
  | first :: rest =>
    ⟨.altAll first.regex ((rest ++ [l.branch]).map (·.regex)),
      deeper (l.branch.depth :: l.branches.map (·.depth)), true⟩

theorem whole_of_single {l : Level} {piece : Piece} (branches : l.branches = [])
    (pieces : l.pieces = [piece]) : l.whole = piece := by
  simp [whole, branch, branches, pieces]

/-- The group with one more piece. -/
def add (l : Level) (piece : Piece) : Level := { l with pieces := piece :: l.pieces }

/-- The group with its current branch finished. -/
def bar (l : Level) : Level := { l with branches := l.branch :: l.branches, pieces := [] }

/-- The group with its last piece repeated. -/
def repeated? (l : Level) (min : Nat) (max : Option Nat) : Option Level :=
  match l.pieces with
  | piece :: pieces =>
    if piece.repeatable then
      some { l with pieces := ⟨.repeated piece.regex min max, piece.depth + 1, true⟩ :: pieces }
    else none
  | [] => none

end Level

/-- How far a pattern has been read. -/
structure ReaderState where
  /-- The flags that are set. -/
  flags : Flags
  /-- The names of groups so far. -/
  names : List String
  /-- The innermost open group. -/
  level : Level
  /-- The groups around it, innermost first. -/
  outer : List Level
  /-- What is still to be read. -/
  rest : List Char
  deriving Inhabited

namespace ReaderState

/-- Nothing has been read. -/
def initial (cs : List Char) : ReaderState := ⟨.initial, [], ⟨.initial, [], []⟩, [], cs⟩

/-- One more piece, with what follows it. -/
def add (s : ReaderState) (regex : Regex) (depth : Nat) (rest : List Char) : ReaderState :=
  { s with level := s.level.add ⟨regex, depth, true⟩, rest := rest }

/-- A group is opened under the given flags. -/
def openGroup (s : ReaderState) (flags : Flags) (rest : List Char) : ReaderState :=
  { s with flags := flags, level := ⟨s.flags, [], []⟩, outer := s.level :: s.outer, rest := rest }

/-- The innermost group is closed. -/
def closeGroup? (s : ReaderState) (rest : List Char) : Option ReaderState :=
  match s.outer with
  | [] => none
  | around :: outer =>
    let whole := s.level.whole
    some { s with
      flags := s.level.restored
      level := around.add ⟨whole.regex, whole.depth + 1, true⟩
      outer := outer
      rest := rest }

end ReaderState

/-! ## Groups -/

/-- A character of a group's name. -/
def isNameChar (first : Bool) (c : Char) : Bool :=
  let letter := Unicode.BinaryProperty.alphabetic.contains c
  let number := [Unicode.Category.decimalNumber, .letterNumber, .otherNumber].contains
    (Unicode.Category.of c)
  c == '_' || letter || !first && (number || c == '.' || c == '[' || c == ']')

/-- The name of a group up to the angle bracket that closes it. -/
def readGroupName (cs : List Char) : Option (String × List Char) :=
  let name := cs.takeWhile (· != '>')
  match name, cs.dropWhile (· != '>') with
  | first :: others, _ :: rest =>
    if isNameChar true first && others.all (isNameChar false) then
      some (String.ofList name, rest)
    else none
  | _, _ => none

/-- The flags with the one of a letter set or cleared. `U` swaps what is tried first, which does not
matter for whether there is a match. -/
def Flags.set? (f : Flags) (value : Bool) : Char → Option Flags
  | 'i' => some { f with ignoreCase := value }
  | 'm' => some { f with multiLine := value }
  | 's' => some { f with dotAll := value }
  | 'R' => some { f with crlf := value }
  | 'u' => some { f with unicode := value }
  | 'x' => some { f with verbose := value }
  | 'U' => some f
  | _ => none

/-- Sets flags letter by letter; those behind a hyphen are cleared. -/
def Flags.setAll? (value : Bool) : List Char → Flags → Option Flags
  | [], f => some f
  | '-' :: cs, f => Flags.setAll? false cs f
  | c :: cs, f => (f.set? value c).bind (Flags.setAll? value cs)

/-- The letters of flags up to the colon or the parenthesis behind them: no letter and no hyphen
comes twice, and a hyphen does not come last. -/
def readFlags (f : Flags) (cs : List Char) : Option (Flags × List Char × Char × List Char) :=
  let isEnd (c : Char) : Bool := c == ':' || c == ')'
  let letters := cs.takeWhile (!isEnd ·)
  match cs.dropWhile (!isEnd ·) with
  | stop :: rest =>
    if letters.Nodup ∧ letters.getLast? ≠ some '-' then
      (f.setAll? true letters).map (·, letters, stop, rest)
    else none
  | [] => none

/-- Reads the begin of a group behind its parenthesis, or a setting of flags. -/
def readGroup (s : ReaderState) (cs : List Char) : Option ReaderState :=
  let named (cs : List Char) : Option ReaderState := do
    let (name, rest) ← readGroupName cs
    if s.names.contains name then none
    else some { s.openGroup s.flags rest with names := name :: s.names }
  match skipBlank s.flags.verbose cs with
  | '?' :: 'P' :: '<' :: cs => named cs
  | '?' :: '<' :: '=' :: _ => none
  | '?' :: '<' :: '!' :: _ => none
  | '?' :: '<' :: cs => named cs
  | '?' :: cs => do
    let (flags, letters, stop, rest) ← readFlags s.flags cs
    if stop == ':' then some (s.openGroup flags rest)
    else if letters.isEmpty then none
    else some { s with flags := flags, level := s.level.add ⟨.empty, 0, false⟩, rest := rest }
  | cs => some (s.openGroup s.flags cs)

/-! ## Repetitions -/

/-- What stands behind a repetition, without the question mark that prefers fewer turns. -/
def skipLazy : List Char → List Char
  | '?' :: cs => cs
  | cs => cs

/-- A number of 32 bits with blanks around it. -/
def readCount (cs : List Char) : Option Nat :=
  let cs := cs.dropWhile isBlank
  let digits := cs.takeWhile Char.isDigit
  let value := digitsValue digits
  if digits.isEmpty || !(cs.drop digits.length).all isBlank || Nat.pow 2 32 ≤ value then none
  else some value

/-- The numbers of turns between braces: a number, one with a comma behind it, or two of them in
order. -/
def readCounts (cs : List Char) : Option (Nat × Option Nat) :=
  match splitFirst ',' cs with
  | none => (readCount cs).map fun n => (n, some n)
  | some (least, []) => (readCount least).map (·, none)
  | some (least, most) => do
    let min ← readCount least
    let max ← readCount most
    if min ≤ max then some (min, some max) else none

/-- Repeats the last piece. -/
def readRepetition (s : ReaderState) (min : Nat) (max : Option Nat) (rest : List Char) :
    Option ReaderState := do
  let level ← s.level.repeated? min max
  return { s with level := level, rest := skipLazy rest }

/-! ## Patterns -/

/-- The set of a single character. Without the Unicode flag two hexadecimal digits stand for a byte,
which has to be a character of ASCII. -/
def charSet? (f : Flags) (c : Char) (isByte : Bool) : Option CharSet :=
  if !f.unicode && isByte && 0x80 ≤ c.toNat then none else some (f.fold (.single c))

/-- The characters that a dot stands for. -/
def dotSet? (f : Flags) : Option CharSet :=
  if !f.unicode then none
  else if f.dotAll then some (.complement .empty)
  else if f.crlf then some (.complement (.union (.single '\n') (.single '\r')))
  else some (.complement (.single '\n'))

/-- What a backslash or any other single character stands for. -/
def readAtom (f : Flags) : List Char → Option (Regex × List Char)
  | [] => none
  | '\\' :: cs => do
    let (e, rest) ← readEscape f cs
    match e with
    | .char c isByte => return (.one (← charSet? f c isByte), rest)
    | .set s => return (.one s, rest)
    | .assertion a => return (.assertion a, rest)
  | '.' :: cs => (dotSet? f).map fun s => (.one s, cs)
  | '^' :: cs => some (.assertion (if f.multiLine then .lineStart f.crlf else .textStart), cs)
  | '$' :: cs => some (.assertion (if f.multiLine then .lineEnd f.crlf else .textEnd), cs)
  | c :: cs => (charSet? f c false).map fun s => (.one s, cs)

/-- Reads one piece, bar, parenthesis or repetition. -/
def readStep (s : ReaderState) : Option ReaderState :=
  match s.rest with
  | '(' :: cs => readGroup s cs
  | ')' :: cs => s.closeGroup? cs
  | '|' :: cs => some { s with level := s.level.bar, rest := cs }
  | '[' :: cs =>
    (readClass s.flags cs).map fun (item, rest) => s.add (.one item.set) item.depth rest
  | '?' :: cs => readRepetition s 0 (some 1) cs
  | '*' :: cs => readRepetition s 0 none cs
  | '+' :: cs => readRepetition s 1 none cs
  | '\x7b' :: cs => do
    let (inner, rest) ← readBraced s.flags.verbose false cs
    let (min, max) ← readCounts inner
    readRepetition s min max (skipBlank s.flags.verbose rest)
  | cs => (readAtom s.flags cs).map fun (r, rest) => s.add r 0 rest

/-- Reads to the end, at most the given number of steps. -/
def readSteps : Nat → ReaderState → Option ReaderState
  | 0, _ => none
  | fuel + 1, s =>
    let s := { s with rest := skipBlank s.flags.verbose s.rest }
    if s.rest.isEmpty then some s else (readStep s).bind (readSteps fuel)

/-- How deep a pattern may nest. -/
def depthLimit : Nat := 250

/-- Reads a pattern. All groups have to be closed. -/
def read? (cs : List Char) : Option Regex := do
  let s ← readSteps (cs.length + 1) (.initial cs)
  if s.outer.isEmpty && s.level.whole.depth ≤ depthLimit then some s.level.whole.regex else none

end Schemata.Pattern
