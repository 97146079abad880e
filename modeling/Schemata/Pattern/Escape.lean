import Schemata.Pattern.Regex
import Schemata.Text.Hex
import Schemata.Text.Split

/-!
# Escapes

What stands behind a backslash in a pattern: a character, a set of characters, or an assertion. What
sets and assertions mean depends on the flags that are set there. Without the Unicode flag only sets
of ASCII characters can be written.

Results: `skipBlank_false` (blanks count unless the verbose flag is set).
-/
namespace Schemata.Pattern

/-- What changes the meaning of a pattern from some place on. -/
structure Flags where
  /-- Letters stand for themselves in either case. -/
  ignoreCase : Bool
  /-- `^` and `$` stand for the ends of lines. -/
  multiLine : Bool
  /-- `.` also stands for the end of a line. -/
  dotAll : Bool
  /-- A carriage return also ends lines. -/
  crlf : Bool
  /-- Sets are sets of all characters. -/
  unicode : Bool
  /-- Blanks and comments are passed over. -/
  verbose : Bool
  deriving DecidableEq, Repr, Inhabited

namespace Flags

/-- The flags at the begin of a pattern. -/
def initial : Flags := ⟨false, false, false, false, true, false⟩

/-- The characters of words. -/
def word (f : Flags) : CharSet := if f.unicode then .word else .asciiWord

/-- A set that takes no account of case, if the flags say so. -/
def fold (f : Flags) (s : CharSet) : CharSet :=
  if f.ignoreCase then if f.unicode then .closed s else .asciiClosed s else s

/-- The rest of a set, which has to be taken among all characters. -/
def negate? (f : Flags) (negated : Bool) (s : CharSet) : Option CharSet :=
  if negated then if f.unicode then some (.complement s) else none else some s

end Flags

/-- What follows blanks and comments, or the rest of a comment. -/
def skipComments (inComment : Bool) : List Char → List Char
  | [] => []
  | c :: cs =>
    if inComment then skipComments (c != '\n') cs
    else if isBlank c then skipComments false cs
    else if c == '#' then skipComments true cs
    else c :: cs

/-- What follows blanks and comments, if these do not count. -/
def skipBlank (verbose : Bool) (cs : List Char) : List Char :=
  if verbose then skipComments false cs else cs

theorem skipBlank_false (cs : List Char) : skipBlank false cs = cs := rfl

/-- What stands before the next closing brace, and what follows it. -/
def readBraced (verbose inComment : Bool) : List Char → Option (List Char × List Char)
  | [] => none
  | c :: cs =>
    if inComment then readBraced verbose (c != '\n') cs
    else if verbose && isBlank c then readBraced verbose false cs
    else if verbose && c == '#' then readBraced verbose true cs
    else if c == '\x7d' then some ([], cs)
    else (readBraced verbose false cs).map fun (inner, rest) => (c :: inner, rest)

/-- What a backslash and what follows it stand for. -/
inductive Escaped where
  /-- A character; `isByte` if it is written with two hexadecimal digits. -/
  | char (c : Char) (isByte : Bool)
  | set (s : CharSet)
  | assertion (a : Assertion)
  deriving Inhabited

/-- The character with a code. -/
def charOfCode? (n : Nat) : Option Char :=
  if n.isValidChar then some (Char.ofNat n) else none

/-- The value of so many hexadecimal digits. -/
def readHexDigits (verbose : Bool) : Nat → Nat → List Char → Option (Nat × List Char)
  | 0, value, cs => some (value, cs)
  | _ + 1, _, [] => none
  | count + 1, value, c :: cs =>
    match hexDigit? c with
    | some d => readHexDigits verbose count (16 * value + d.val) (skipBlank verbose cs)
    | none => none

/-- A character by its code: so many hexadecimal digits, or any number of them in braces. -/
def readCode (verbose : Bool) (count : Nat) (cs : List Char) : Option (Escaped × List Char) :=
  match skipBlank verbose cs with
  | '\x7b' :: cs => do
    let (inner, rest) ← readBraced verbose false cs
    let c ← if inner.isEmpty then none else (hexValue? inner).bind charOfCode?
    return (.char c false, skipBlank verbose rest)
  | cs => do
    let (value, rest) ← readHexDigits verbose count 0 cs
    return (.char (← charOfCode? value) (count == 2), rest)

/-- What stands before and after the first `!=`. -/
def splitUnequal : List Char → Option (List Char × List Char)
  | [] => none
  | c :: cs =>
    match c, cs with
    | '!', '=' :: rest => some ([], rest)
    | _, _ => (splitUnequal cs).map fun (before, after) => (c :: before, after)

/-- The set that a property in braces denotes: a name, or a name and a value with `=`, `:` or `!=`
between them. -/
def namedSet? (text : List Char) : Option CharSet :=
  match splitUnequal text with
  | some (name, value) =>
    (Unicode.Property.valueNamed? name value).map fun p => .complement (.property p)
  | none =>
    match splitFirst ':' text <|> splitFirst '=' text with
    | some (name, value) => (Unicode.Property.valueNamed? name value).map .property
    | none => (Unicode.Property.named? text).map .property

/-- A property by a letter or by a text in braces. -/
def readProperty (f : Flags) (negated : Bool) (cs : List Char) : Option (Escaped × List Char) := do
  let (name, rest) ← match skipBlank f.verbose cs with
    | [] => none
    | '\x7b' :: cs => readBraced f.verbose false cs
    | '\\' :: _ => none
    | c :: cs => some ([c], skipBlank f.verbose cs)
  let set ← if f.unicode then namedSet? name else none
  return (.set (← f.negate? negated (f.fold set)), rest)

/-- The set that a letter stands for; in upper case it stands for all other characters. -/
def letterSet? (f : Flags) (c : Char) : Option CharSet :=
  let set? := match c.toLower with
    | 'd' => some (if f.unicode then CharSet.digit else .asciiDigit)
    | 's' => some (if f.unicode then CharSet.space else .asciiSpace)
    | 'w' => some f.word
    | _ => none
  set?.bind (f.negate? c.isUpper)

/-- The characters between the braces of an assertion about words. -/
def isAssertionChar (c : Char) : Bool := c.isAlpha || c == '-'

/-- The assertion that stands behind `\b`: one by its name in braces, or else that a word begins or
ends. What cannot be a name is left for a repetition. -/
def readBoundary (f : Flags) (cs : List Char) : Option (Escaped × List Char) :=
  let plain := some (Escaped.assertion (.boundary f.word), cs)
  match cs with
  | '\x7b' :: inner =>
    match skipBlank f.verbose inner with
    | [] => none
    | c :: _ =>
      if isAssertionChar c then do
        let (name, rest) ← readBraced f.verbose false inner
        let a ← match String.ofList name with
          | "start" => some (Assertion.wordStart f.word)
          | "end" => some (.wordEnd f.word)
          | "start-half" => some (.noWordBefore f.word)
          | "end-half" => some (.noWordAfter f.word)
          | _ => none
        return (.assertion a, rest)
      else plain
  | _ => plain

/-- The control characters that letters stand for. -/
def controlChar? : Char → Option Char
  | 'a' => some '\x07'
  | 'f' => some '\x0c'
  | 't' => some '\t'
  | 'n' => some '\n'
  | 'r' => some '\r'
  | 'v' => some '\x0b'
  | _ => none

/-- The assertions that single characters stand for. -/
def assertion? (f : Flags) : Char → Option Assertion
  | 'A' => some .textStart
  | 'z' => some .textEnd
  | 'B' => some (.noBoundary f.word)
  | '<' => some (.wordStart f.word)
  | '>' => some (.wordEnd f.word)
  | _ => none

/-- A character that stands for itself behind a backslash: one of ASCII that is neither a letter nor
a digit nor an angle bracket. -/
def isEscapable (c : Char) : Bool :=
  c.toNat < 0x80 && !c.isAlphanum && c != '<' && c != '>'

/-- Reads what stands behind a backslash. -/
def readEscape (f : Flags) : List Char → Option (Escaped × List Char)
  | [] => none
  | 'x' :: cs => readCode f.verbose 2 cs
  | 'u' :: cs => readCode f.verbose 4 cs
  | 'U' :: cs => readCode f.verbose 8 cs
  | 'p' :: cs => readProperty f false cs
  | 'P' :: cs => readProperty f true cs
  | 'b' :: cs => readBoundary f cs
  | c :: cs =>
    if isEscapable c then some (.char c false, cs)
    else
      ((letterSet? f c).map Escaped.set <|> (controlChar? c).map (Escaped.char · false) <|>
        (assertion? f c).map Escaped.assertion).map (·, cs)

end Schemata.Pattern
