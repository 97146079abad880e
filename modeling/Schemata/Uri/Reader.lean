import Schemata.Uri

/-!
# Reading URIs

A text is read as a URI in the forgiving way of the web: blanks around it and line breaks inside it
are left out, what may not stand in a part is escaped, and a backslash is a slash where the scheme
is one of the web.

What is proved elsewhere holds for any way to read URIs, so reading is sealed.

Results: `scheme?_eq_some` (a text with a scheme consists of it, a colon and the rest),
`read_of_noScheme` (a text without one is refused).
-/
namespace Schemata.Uri

/-! ## Schemes -/

/-- What a scheme makes of the rest of a URI. -/
inductive SchemeKind where
  /-- A file with a path that may begin with a drive. -/
  | file
  /-- A resource on a host of the web, with the port that is used unless one is given. -/
  | web (port : Nat)
  /-- Anything else. -/
  | other
  deriving DecidableEq, Repr

/-- The kind of a scheme. -/
def SchemeKind.of : String → SchemeKind
  | "file" => file
  | "http" => web 80
  | "https" => web 443
  | "ws" => web 80
  | "wss" => web 443
  | "ftp" => web 21
  | _ => other

/-- A character that may stand in a scheme. -/
def isSchemeCharacter (c : Char) : Bool := c.isAlphanum || c == '+' || c == '-' || c == '.'

/-- The scheme in lowercase, and what follows the colon behind it. -/
def scheme? (cs : List Char) : Option (String × List Char) :=
  if cs.head?.any Char.isAlpha then
    match cs.dropWhile isSchemeCharacter with
    | ':' :: rest => some (String.ofList ((cs.takeWhile isSchemeCharacter).map Char.toLower), rest)
    | _ => none
  else none

theorem scheme?_eq_some {cs rest : List Char} {scheme : String}
    (h : scheme? cs = some (scheme, rest)) :
    cs = cs.takeWhile isSchemeCharacter ++ ':' :: rest := by
  rw [scheme?] at h
  split at h
  · split at h
    · rename_i hd
      simp only [Option.some.injEq, Prod.mk.injEq] at h
      rw [← h.2, ← hd, List.takeWhile_append_dropWhile]
    · simp at h
  · simp at h

/-! ## What is escaped -/

/-- What is escaped in a fragment. -/
def isEscapedInFragment (c : Char) : Bool := isHidden c || " \"<>\x60".contains c

/-- What is escaped in a segment of a path. -/
def isEscapedInPath (c : Char) : Bool := isEscapedInFragment c || "#?\x7b\x7d".contains c

/-- What is escaped in the name of a user and in a password. -/
def isEscapedInUser (c : Char) : Bool := isEscapedInPath c || "/:;=@[\\]^|".contains c

/-- What is escaped in a query. -/
def isEscapedInQuery (kind : SchemeKind) (c : Char) : Bool :=
  isHidden c || " \"#<>".contains c || kind != .other && c == '\''

/-- A text with escapes. -/
def escaped (hidden : Char → Bool) (cs : List Char) : String :=
  String.ofList (Text.Percent.encode hidden cs)

/-! ## Authorities -/

/-- A character that separates segments. -/
def isSeparator (kind : SchemeKind) (c : Char) : Bool := c == '/' || kind != .other && c == '\\'

/-- What stands before and after the last occurrence of a character. -/
def splitLast (separator : Char) (cs : List Char) : Option (List Char × List Char) :=
  (splitFirst separator cs.reverse).map fun (after, before) => (before.reverse, after.reverse)

/-- The name of a host, and what follows it from a colon outside brackets on. -/
def splitPort (inBrackets : Bool) : List Char → List Char × List Char
  | [] => ([], [])
  | c :: cs =>
    if c = ':' ∧ !inBrackets then ([], c :: cs)
    else
      let (host, rest) := splitPort (c == '[' || inBrackets && c != ']') cs
      (c :: host, rest)

/-- A port of the digits behind a colon, and what follows them: nothing, or a backslash. -/
def readPort (kind : SchemeKind) : List Char → Except Fault (Option Nat × List Char)
  | ':' :: cs =>
    let digits := cs.takeWhile Char.isDigit
    let rest := cs.dropWhile Char.isDigit
    let port := digitsValue digits
    if 65535 < port || rest.head?.any (· != '\\') then .error .port
    else .ok (if digits = [] ∨ kind = .web port then none else some port, rest)
  | cs => .ok (none, cs)

/-- A host and a port, and what follows them. -/
def readHost (kind : SchemeKind) (cs : List Char) :
    Except Fault (Option Host × Option Nat × List Char) := do
  let (name, rest) := splitPort false cs
  if name = [] ∧ (kind ≠ .other ∨ rest ≠ []) then .error .emptyHost
  else
    let host ← if kind = .other then Host.readPlain name else Host.readMeaningful name
    let (port, rest) ← readPort kind rest
    pure (if name = [] then none else some host, port, rest)

/-- An authority, and what follows it: nothing, or a backslash. A user needs a host; `isLast` tells
whether the text ends here. -/
def readAuthority (kind : SchemeKind) (isLast : Bool) (cs : List Char) :
    Except Fault (Authority × List Char) :=
  match splitLast '@' cs with
  | none => do
    let (host, port, rest) ← readHost kind cs
    pure (⟨"", "", host, port⟩, rest)
  | some (user, cs) => do
    if user = [] ∧ cs = [] ∧ !isLast then .error .emptyHost
    let (host, port, rest) ← readHost kind cs
    let (user, password) := (splitFirst ':' user).getD (user, [])
    if (user ≠ [] ∨ password ≠ []) ∧ host = none then .error .emptyHost
    pure (⟨escaped isEscapedInUser user, escaped isEscapedInUser password, host, port⟩, rest)

/-! ## Paths -/

/-- The segments between separators, with dots followed. -/
def readSegments (kind : SchemeKind) (cs : List Char) : List Segment :=
  let cs := if kind = .other then cs else cs.map fun c => if c = '\\' then '/' else c
  resolve (kind == .file) [] (splitOn '/' cs)

/-- The path of segments. -/
def pathOf (segments : List Segment) : Path :=
  .segments (segments.map (escaped isEscapedInPath))

/-- A text without a separator in front. -/
def dropSeparator (kind : SchemeKind) : List Char → List Char
  | c :: cs => if isSeparator kind c then cs else c :: cs
  | [] => []

/-! ## What follows the scheme -/

/-- An authority and a path. -/
def readHierarchy (kind : SchemeKind) (isLast : Bool) (cs : List Char) :
    Except Fault (Option Authority × Path) := do
  let server := cs.takeWhile (!isSeparator kind ·)
  let path := cs.dropWhile (!isSeparator kind ·)
  let (authority, rest) ← readAuthority kind (isLast && path.isEmpty) server
  let path := rest ++ path
  pure (some authority,
    if kind = .other ∧ path = [] then .plain ""
    else pathOf (readSegments kind (dropSeparator kind path)))

/-- The host of a file, unless it is the machine itself. -/
def readFileHost (cs : List Char) : Except Fault (Option Host) :=
  if cs = [] then .ok none
  else (Host.readMeaningful cs).map fun host =>
    if host = .domain "localhost" then none else some host

/-- The path of a file, which does not begin with an empty segment. A drive has no host. -/
def fileOf (host : Option Host) (cs : List Char) : Option Authority × Path :=
  let segments := readSegments .file (dropSeparator .file cs)
  let host := if segments.head?.any Segment.isDrive then none else host
  let segments := segments.dropWhile (· = [])
  (some ⟨"", "", host, none⟩, pathOf (if segments = [] then [[]] else segments))

/-- The host and the path of a file. -/
def readFile (cs : List Char) : Except Fault (Option Authority × Path) := do
  match cs with
  | a :: b :: rest =>
    if isSeparator .file a && isSeparator .file b then
      let server := rest.takeWhile (!isSeparator .file ·)
      if Segment.isDrive server then pure (fileOf none rest)
      else
        let host ← readFileHost server
        pure (fileOf host (rest.dropWhile (!isSeparator .file ·)))
    else pure (fileOf none cs)
  | cs => pure (fileOf none cs)

/-- What follows the scheme, up to the query. -/
def readBody (kind : SchemeKind) (isLast : Bool) (cs : List Char) :
    Except Fault (Option Authority × Path) :=
  match kind with
  | .file => readFile cs
  | .web _ => readHierarchy kind isLast (cs.dropWhile (isSeparator kind))
  | .other =>
    match cs with
    | '/' :: '/' :: cs => readHierarchy kind isLast cs
    | '/' :: cs => .ok (none, pathOf (readSegments kind cs))
    | cs => .ok (none, .plain (escaped isHidden cs))

/-- The query and the fragment. -/
def readSuffix (kind : SchemeKind) (cs : List Char) : Option String × Option String :=
  let query := cs.takeWhile (· ≠ '#')
  let fragment := cs.dropWhile (· ≠ '#')
  (if query = [] then none else some (escaped (isEscapedInQuery kind) query.tail),
    if fragment = [] then none else some (escaped isEscapedInFragment fragment.tail))

/-- A text without blanks and controls around it, and without line breaks and tabs. -/
def clean (cs : List Char) : List Char :=
  let cs := (cs.dropWhile (· ≤ ' ')).reverse
  (cs.dropWhile (· ≤ ' ')).reverse.filter fun c => c ≠ '\t' ∧ c ≠ '\n' ∧ c ≠ '\x0d'

/-- The URI that a text denotes. -/
@[irreducible]
def read (s : String) : Except Fault Uri :=
  match scheme? (clean s.toList) with
  | none => .error .noScheme
  | some (scheme, cs) => do
    let kind := SchemeKind.of scheme
    let isSuffix (c : Char) : Bool := c == '?' || c == '#'
    let suffix := cs.dropWhile (!isSuffix ·)
    let (authority, path) ← readBody kind suffix.isEmpty (cs.takeWhile (!isSuffix ·))
    let (query, fragment) := readSuffix kind suffix
    pure ⟨scheme, authority, path, query, fragment⟩

theorem read_of_noScheme {s : String} (h : scheme? (clean s.toList) = none) :
    read s = .error .noScheme := by rw [read, h]

end Schemata.Uri
