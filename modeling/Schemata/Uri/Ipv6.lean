import Schemata.Text.Hex
import Schemata.Text.Split

/-!
# IPv6 addresses

An address is written as eight pieces with colons between them, where a double colon stands for a
run of zeros, and the last two pieces may be written as an IPv4 address. It is printed with the
first of the longest runs of zeros left out.

Results: `cut_eq_some` (a text is cut at a double colon), `longestRun_le` (the run that is left out
lies in the address).
-/
namespace Schemata.Uri

/-- An IPv6 address. -/
structure Ipv6 where
  /-- The pieces of sixteen bits. -/
  pieces : List UInt16
  /-- There are eight of them. -/
  length_eq : pieces.length = 8
  deriving DecidableEq, Repr

instance : Inhabited Ipv6 := ⟨⟨List.replicate 8 0, rfl⟩⟩

namespace Ipv6

/-! ## Reading -/

/-- The value of a piece, which has up to four hexadecimal digits. -/
def piece? (cs : List Char) : Option UInt16 :=
  if cs = [] ∨ 4 < cs.length then none else (hexValue? cs).map UInt16.ofNat

/-- The value of a byte in decimal digits without a needless zero. -/
def byte? (cs : List Char) : Option Nat :=
  if cs ≠ [] ∧ cs.all Char.isDigit ∧ (cs.head? = some '0' → cs = ['0']) ∧ digitsValue cs < 256 then
    some (digitsValue cs)
  else none

/-- The two pieces that are written as four bytes. -/
def dotted? (cs : List Char) : Option (List UInt16) := do
  match ← (splitOn '.' cs).mapM byte? with
  | [a, b, c, d] => some [UInt16.ofNat (256 * a + b), UInt16.ofNat (256 * c + d)]
  | _ => none

/-- The values of pieces, of which the last one may stand for two. -/
def values? (mayDot : Bool) : List (List Char) → Option (List UInt16)
  | [] => some []
  | [last] => (piece? last).map ([·]) <|> if mayDot then dotted? last else none
  | p :: ps => do
    let v ← piece? p
    let vs ← values? mayDot ps
    pure (v :: vs)

/-- The values of pieces with colons between them; an empty text has none. -/
def group? (mayDot : Bool) (cs : List Char) : Option (List UInt16) :=
  if cs = [] then some [] else values? mayDot (splitOn ':' cs)

/-- What stands before and after the first double colon. -/
def cut : List Char → Option (List Char × List Char)
  | ':' :: ':' :: cs => some ([], cs)
  | c :: cs => (cut cs).map fun (before, after) => (c :: before, after)
  | [] => none

theorem cut_eq_some {cs before after : List Char} (h : cut cs = some (before, after)) :
    cs = before ++ ':' :: ':' :: after := by
  fun_induction cut cs generalizing before with
  | case1 cs =>
    simp only [Option.some.injEq, Prod.mk.injEq] at h
    obtain ⟨rfl, rfl⟩ := h
    rfl
  | case2 c cs _ ih =>
    simp only [Option.map_eq_some_iff, Prod.mk.injEq, Prod.exists] at h
    obtain ⟨b, a, hc, rfl, rfl⟩ := h
    rw [ih hc]
    rfl
  | case3 => simp at h

/-- The address of pieces, if they are eight. -/
def ofPieces? (pieces : List UInt16) : Option Ipv6 :=
  if h : pieces.length = 8 then some ⟨pieces, h⟩ else none

/-- The address that a text denotes; a double colon stands for at least one piece. -/
def read? (cs : List Char) : Option Ipv6 :=
  match cut cs with
  | none => (group? true cs).bind ofPieces?
  | some (before, after) => do
    let high ← group? false before
    let low ← group? true after
    let zeros := 8 - (high.length + low.length)
    if zeros = 0 then none else ofPieces? (high ++ List.replicate zeros 0 ++ low)

/-! ## Printing -/

/-- The length of the run of zeros from a place on. -/
def runAt (pieces : List UInt16) (i : Nat) : Nat := ((pieces.drop i).takeWhile (· == 0)).length

/-- The place and the length of the first of the longest runs of zeros. -/
def longestRun (pieces : List UInt16) : Nat × Nat :=
  (List.range pieces.length).foldl
    (fun best i => if best.2 < runAt pieces i then (i, runAt pieces i) else best) (0, 0)

theorem length_takeWhile_le {α : Type} (p : α → Bool) (l : List α) :
    (l.takeWhile p).length ≤ l.length := (List.takeWhile_sublist p).length_le

theorem runAt_le (pieces : List UInt16) {i : Nat} (h : i ≤ pieces.length) :
    i + runAt pieces i ≤ pieces.length := by
  have := length_takeWhile_le (· == 0) (pieces.drop i)
  rw [List.length_drop] at this
  rw [runAt]
  omega

theorem longestRun_le (pieces : List UInt16) :
    (longestRun pieces).1 + (longestRun pieces).2 ≤ pieces.length := by
  rw [longestRun]
  have h : ∀ (is : List Nat), (∀ i ∈ is, i ≤ pieces.length) → ∀ best : Nat × Nat,
      best.1 + best.2 ≤ pieces.length →
      let r := is.foldl
        (fun best i => if best.2 < runAt pieces i then (i, runAt pieces i) else best) best
      r.1 + r.2 ≤ pieces.length := by
    intro is
    induction is with
    | nil => exact fun _ _ h => h
    | cons i is ih =>
      intro hi best hb
      refine ih (fun j hj => hi j (List.mem_cons_of_mem _ hj)) _ ?_
      dsimp only
      split
      · exact runAt_le pieces (hi i List.mem_cons_self)
      · exact hb
  exact h _ (fun i hi => Nat.le_of_lt (List.mem_range.1 hi)) _ (Nat.zero_le _)

/-- Pieces in hexadecimal digits, with colons between them. -/
def groupText (pieces : List UInt16) : String :=
  ":".intercalate (pieces.map fun p => String.ofList (Nat.toDigits 16 p.toNat))

/-- The text of an address. -/
def text (a : Ipv6) : String :=
  let (start, length) := longestRun a.pieces
  if length < 2 then groupText a.pieces
  else groupText (a.pieces.take start) ++ "::" ++ groupText (a.pieces.drop (start + length))

end Ipv6
end Schemata.Uri
