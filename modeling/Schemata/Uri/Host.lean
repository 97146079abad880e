import Schemata.Text.Percent
import Schemata.Uri.Domain
import Schemata.Uri.Ipv4
import Schemata.Uri.Ipv6

/-!
# Hosts

Under the schemes of the web a host is a domain or an address. Under other schemes it is an address
in brackets or a name without a meaning.

Results: `Host.ofBrackets_eq_none_iff` (which texts are no address in brackets),
`Host.readName_eq_ok_iff` (which names are accepted).
-/
namespace Schemata.Uri

/-- Why a text is no URI. -/
inductive Fault where
  | noScheme
  /-- There is no host where one is needed. -/
  | emptyHost
  /-- The host is no domain. -/
  | domain
  /-- The host should be an IPv4 address. -/
  | ipv4
  /-- The host should be an IPv6 address. -/
  | ipv6
  /-- The name of the host contains a character that it must not contain. -/
  | hostCharacter
  /-- The port is no number, or too great. -/
  | port
  deriving DecidableEq, Repr

/-- The wording of a fault. -/
def Fault.message : Fault → String
  | noScheme => "relative URL without a base"
  | emptyHost => "empty host"
  | domain => "invalid international domain name"
  | ipv4 => "invalid IPv4 address"
  | ipv6 => "invalid IPv6 address"
  | hostCharacter => "invalid domain character"
  | port => "invalid port number"

/-- A character that has to be escaped everywhere. -/
def isHidden (c : Char) : Bool := c < ' ' || '\x7f' ≤ c

/-- A host that is not empty. -/
inductive Host where
  | domain (text : String)
  | ipv4 (address : Ipv4)
  | ipv6 (address : Ipv6)
  /-- A name without a meaning. -/
  | name (text : String)
  deriving DecidableEq, Repr, Inhabited

namespace Host

/-- The text of a host. -/
def text : Host → String
  | domain text => text
  | ipv4 a => a.text
  | ipv6 a => "[" ++ a.text ++ "]"
  | name text => text

/-- The address in brackets, if there is an opening one. -/
def ofBrackets : List Char → Option (Except Fault Host)
  | '[' :: cs =>
    some <| if cs.getLast? = some ']' then
      match Ipv6.read? cs.dropLast with
      | some a => .ok (ipv6 a)
      | none => .error .ipv6
    else .error .ipv6
  | _ => none

theorem ofBrackets_eq_none_iff {cs : List Char} : ofBrackets cs = none ↔ cs.head? ≠ some '[' := by
  unfold ofBrackets
  split
  · simp
  · rename_i h
    cases cs with
    | nil => simp
    | cons c cs => simp; rintro rfl; exact h cs rfl

/-- A character that no name of a host may contain. -/
def isForbiddenInName (c : Char) : Bool := "\x00\t\n\x0d #/:<>?@[\\]^|".contains c

/-- A host of which the name has no meaning. -/
def readName (cs : List Char) : Except Fault Host :=
  if cs.any isForbiddenInName then .error .hostCharacter
  else .ok (name (String.ofList (Text.Percent.encode isHidden cs)))

theorem readName_eq_ok_iff {cs : List Char} :
    (∃ h, readName cs = .ok h) ↔ ∀ c ∈ cs, isForbiddenInName c = false := by
  rw [readName]
  cases h : cs.any isForbiddenInName with
  | true =>
    obtain ⟨c, hc, hf⟩ := List.any_eq_true.1 h
    refine ⟨fun ⟨_, e⟩ => by simp at e, fun e => ?_⟩
    simp [e c hc] at hf
  | false =>
    exact ⟨fun _ c hc => by simpa using List.any_eq_false.1 h c hc, fun _ => ⟨_, rfl⟩⟩

/-- A host that is a domain or an IPv4 address. Escapes are read first. -/
def readDomain (cs : List Char) : Except Fault Host :=
  match (String.fromUTF8? ⟨(Text.Percent.decode cs).toArray⟩).bind fun s => domain? s.toList with
  | none => .error .domain
  | some [] => .error .emptyHost
  | some ds =>
    if Ipv4.isMeant ds then
      match Ipv4.read? ds with
      | some a => .ok (ipv4 a)
      | none => .error .ipv4
    else .ok (domain (String.ofList ds))

/-- A host under a scheme of the web. -/
def readMeaningful (cs : List Char) : Except Fault Host := (ofBrackets cs).getD (readDomain cs)

/-- A host under another scheme. -/
def readPlain (cs : List Char) : Except Fault Host := (ofBrackets cs).getD (readName cs)

end Host
end Schemata.Uri
