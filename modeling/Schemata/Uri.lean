import Schemata.Uri.Host
import Schemata.Uri.Segments

/-!
# Uniform resource identifiers

A URI has a scheme and a path, and may have an authority, a query and a fragment. All of its parts
are kept with their escapes.

Results: `text_of_plain` (the text of a URI that is a scheme and a path alone).
-/
namespace Schemata

namespace Uri

/-- Who is responsible for what a URI denotes. -/
structure Authority where
  /-- The name of a user, which may be empty. -/
  user : String
  /-- The password, which may be empty. -/
  password : String
  host : Option Host
  /-- The port, unless it is that of the scheme. -/
  port : Option Nat
  deriving DecidableEq, Repr, Inhabited

/-- The text of an authority. -/
def Authority.text (a : Authority) : String :=
  a.user ++ (if a.password = "" then "" else ":" ++ a.password) ++
    (if a.user = "" ∧ a.password = "" then "" else "@") ++
    (a.host.map Host.text).getD "" ++ (a.port.map fun p => ":" ++ toString p).getD ""

/-- The path of a URI. -/
inductive Path where
  /-- A text without a meaning. -/
  | plain (text : String)
  /-- Segments below the root. -/
  | segments (segments : List String)
  deriving DecidableEq, Repr, Inhabited

/-- The text of a path. -/
def Path.text : Path → String
  | plain text => text
  | segments ss => "/" ++ "/".intercalate ss

/-- The text of the path begins like an authority does. -/
def Path.looksLikeAuthority : Path → Bool
  | segments ("" :: _ :: _) => true
  | _ => false

end Uri

/-- A uniform resource identifier. -/
structure Uri where
  /-- The scheme, in lowercase. -/
  scheme : String
  authority : Option Uri.Authority
  path : Uri.Path
  /-- What follows a question mark. -/
  query : Option String
  /-- What follows a number sign. -/
  fragment : Option String
  deriving DecidableEq, Repr, Inhabited

namespace Uri

/-- The text of a URI. A path that would be taken for an authority begins with a dot. -/
def text (u : Uri) : String :=
  u.scheme ++ ":" ++
    (match u.authority with
      | some a => "//" ++ a.text
      | none => if u.path.looksLikeAuthority then "/." else "") ++
    u.path.text ++ (u.query.map ("?" ++ ·)).getD "" ++ (u.fragment.map ("#" ++ ·)).getD ""

theorem text_of_plain (scheme path : String) :
    (⟨scheme, none, .plain path, none, none⟩ : Uri).text = scheme ++ ":" ++ path := by
  simp [text, Path.looksLikeAuthority, Path.text]

end Uri
end Schemata
