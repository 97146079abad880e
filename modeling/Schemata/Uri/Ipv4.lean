import Schemata.Text.Hex
import Schemata.Text.Split

/-!
# IPv4 addresses

An address is written as up to four numbers with dots between them. A number is decimal, octal
behind a zero, or hexadecimal behind `0x`; the last one stands for all of the bytes that are left.

Results: `isMeant_of_digits` (a name that ends in digits must be an address), `bytes_lt`.
-/
namespace Schemata.Uri

/-- An IPv4 address. -/
structure Ipv4 where
  /-- The four bytes as one number. -/
  value : UInt32
  deriving DecidableEq, Repr, Inhabited

namespace Ipv4

/-- The number that a part stands for. -/
def number? : List Char → Option Nat
  | [] => none
  | '0' :: 'x' :: cs => hexValue? cs
  | '0' :: 'X' :: cs => hexValue? cs
  | '0' :: c :: cs =>
    if (c :: cs).all fun d => '0' ≤ d ∧ d ≤ '7' then
      some ((c :: cs).foldl (fun n d => 8 * n + (d.toNat - '0'.toNat)) 0)
    else none
  | cs => if cs.all Char.isDigit then some (digitsValue cs) else none

/-- The parts between the dots, without an empty one at the end. -/
def parts (cs : List Char) : List (List Char) :=
  let parts := splitOn '.' cs
  if 1 < parts.length ∧ parts.getLast? = some [] then parts.dropLast else parts

/-- A name whose last part is a number must be an address. -/
def isMeant (cs : List Char) : Bool :=
  match (parts cs).getLast? with
  | some last => last ≠ [] && last.all Char.isDigit || (number? last).isSome
  | none => false

theorem isMeant_of_digits {cs last : List Char} (h : (parts cs).getLast? = some last)
    (hne : last ≠ []) (hd : last.all Char.isDigit = true) : isMeant cs = true := by
  simp [isMeant, h, hne, hd]

/-- The address of numbers: all but the last one are bytes. -/
def ofNumbers? (ns : List Nat) : Option Ipv4 := do
  let last ← ns.getLast?
  let bytes := ns.dropLast
  guard (ns.length ≤ 4 ∧ last < Nat.pow 256 (5 - ns.length) ∧ ∀ b ∈ bytes, b < 256)
  let high := bytes.foldl (fun n b => 256 * n + b) 0
  pure ⟨UInt32.ofNat (high * Nat.pow 256 (5 - ns.length) + last)⟩

/-- The address that a text denotes. -/
def read? (cs : List Char) : Option Ipv4 := do
  let ns ← (parts cs).mapM number?
  ofNumbers? ns

/-- The four bytes. -/
def bytes (a : Ipv4) : List Nat :=
  let n := a.value.toNat
  [n >>> 24, (n >>> 16) % 256, (n >>> 8) % 256, n % 256]

theorem bytes_lt {a : Ipv4} {b : Nat} (h : b ∈ a.bytes) : b < 256 := by
  have := a.value.toNat_lt
  simp only [bytes, List.mem_cons, List.not_mem_nil, or_false] at h
  omega

/-- The four bytes in decimal digits. -/
def text (a : Ipv4) : String := ".".intercalate (a.bytes.map toString)

end Ipv4
end Schemata.Uri
