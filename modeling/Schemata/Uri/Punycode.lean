/-!
# Punycode

A sequence of code points is written with letters, digits and hyphens alone: first come its basic
code points, those below 128, and behind a hyphen the others, in ascending order, each as the
distance in place and value from the one before it. A distance is a number in a system whose digits
have weights that adapt to the numbers already written.

Results: `threshold_pos`, `threshold_lt` (a digit can end a number and can continue it).
-/
namespace Schemata.Uri.Punycode

/-- The number of digits: the letters, then the decimal digits. -/
def base : Nat := 36

/-- The bias before the first number. -/
def initialBias : Nat := 72

/-- The first code point that is not basic. -/
def firstCode : Nat := 128

/-- From here on a digit ends its number, if it is less than this; `k` is 36 times the place of the
digit, counted from one. -/
def threshold (k bias : Nat) : Nat := max 1 (min 26 (k - bias))

theorem threshold_pos (k bias : Nat) : 0 < threshold k bias := by
  simp only [threshold]; omega

theorem threshold_lt (k bias : Nat) : threshold k bias < base := by
  simp only [threshold, base]; omega

/-- The bias after a distance of which so much is left, at some weight. -/
def biasFrom (k delta : Nat) : Nat :=
  if delta ≤ 455 then k + 36 * delta / (delta + 38) else biasFrom (k + base) (delta / 35)
termination_by delta
decreasing_by omega

/-- The bias after a distance, of which the first is damped; `count` is the number of code points so
far. -/
def adapt (delta count : Nat) (isFirst : Bool) : Nat :=
  let delta := if isFirst then delta / 700 else delta / 2
  biasFrom 0 (delta + delta / count)

/-! ## Writing -/

/-- The character of a digit. -/
def digitChar (d : Nat) : Char :=
  if d < 26 then Char.ofNat ('a'.toNat + d) else Char.ofNat ('0'.toNat + (d - 26))

/-- The digits of a number, from the place on that `k` stands for. -/
def encodeNumber (bias k q : Nat) : List Char :=
  let t := threshold k bias
  if q < t then [digitChar q]
  else digitChar (t + (q - t) % (base - t)) :: encodeNumber bias (k + base) ((q - t) / (base - t))
termination_by q
decreasing_by
  have := threshold_pos k bias
  exact Nat.lt_of_le_of_lt (Nat.div_le_self _ _) (by omega)

/-- What is written so far. -/
structure Writer where
  /-- The distance from the last written code point. -/
  delta : Nat
  /-- The bias of the next number. -/
  bias : Nat
  /-- The number of code points that are written. -/
  count : Nat
  /-- Another code point than a basic one is written. -/
  hasOther : Bool
  digits : List Char
  deriving Repr

/-- Passes a place of the sequence; the code point of the round is written if it stands there. -/
def Writer.pass (round : Nat) (w : Writer) (n : Nat) : Writer :=
  if n < round then { w with delta := w.delta + 1 }
  else if n = round then
    ⟨0, adapt w.delta (w.count + 1) (!w.hasOther), w.count + 1, true,
      w.digits ++ encodeNumber w.bias base w.delta⟩
  else w

/-- Writes one code point wherever it stands, `skipped` code points after that of the last round. -/
def Writer.round (ns : List Nat) (w : Writer) (skipped round : Nat) : Writer :=
  ns.foldl (Writer.pass round) { w with delta := w.delta + skipped * (w.count + 1) }

/-- Writes the given code points, which ascend, of a sequence; those below `next` are written. -/
def Writer.rounds (ns : List Nat) (w : Writer) (next : Nat) : List Nat → Writer
  | [] => w
  | n :: rest =>
    let w := w.round ns (n - next) n
    Writer.rounds ns { w with delta := w.delta + 1 } (n + 1) rest

/-- The written form of a sequence of code points. -/
def encode (ns : List Nat) : List Char :=
  let basic := ns.filter (· < firstCode)
  let others := ((ns.filter (firstCode ≤ ·)).mergeSort (· ≤ ·)).eraseReps
  let start : Writer := ⟨0, initialBias, basic.length, false, []⟩
  basic.map Char.ofNat ++ (if basic.isEmpty then [] else ['-']) ++
    (start.rounds ns firstCode others).digits

/-! ## Reading -/

/-- The value of a digit, in either case. -/
def digit? (c : Char) : Option Nat :=
  if c.isLower then some (c.toNat - 'a'.toNat)
  else if c.isUpper then some (c.toNat - 'A'.toNat)
  else if c.isDigit then some (c.toNat - '0'.toNat + 26)
  else none

/-- What is read so far. -/
structure Reader where
  /-- The code points. -/
  codes : List Nat
  /-- The last code point that was put in. -/
  code : Nat
  /-- The place behind it. -/
  place : Nat
  /-- The bias of the number that is read. -/
  bias : Nat
  /-- The part of the number that is read. -/
  delta : Nat
  /-- The weight of the next digit. -/
  weight : Nat
  /-- The place of the next digit in its number, times 36. -/
  k : Nat
  deriving Repr

namespace Reader

/-- Puts in the code point that a distance leads to, which must be a character. -/
def insert? (r : Reader) (delta : Nat) : Option Reader :=
  let count := r.codes.length + 1
  let code := r.code + (r.place + delta) / count
  let place := (r.place + delta) % count
  if Nat.isValidChar code then
    some ⟨r.codes.insertIdx place code, code, place + 1,
      adapt delta count (r.codes.all (· < firstCode)), 0, 1, base⟩
  else none

/-- Reads a digit. -/
def digit? (r : Reader) (d : Nat) : Option Reader :=
  let t := threshold r.k r.bias
  let delta := r.delta + d * r.weight
  if d < t then r.insert? delta
  else some { r with delta, weight := r.weight * (base - t), k := r.k + base }

/-- Reads digits, of which the last one must end a number. -/
def digits? (r : Reader) : List Char → Option (List Nat)
  | [] => if r.k = base then some r.codes else none
  | c :: cs => do
    let d ← Punycode.digit? c
    let r ← r.digit? d
    r.digits? cs

end Reader

/-- The code points that are written before the last hyphen, and the digits behind it; a hyphen in
front of everything divides nothing. -/
def splitBasic (cs : List Char) : List Char × List Char :=
  let digits := (cs.reverse.takeWhile (· ≠ '-')).reverse
  let basic := cs.take (cs.length - digits.length - 1)
  if basic.isEmpty then ([], cs) else (basic, digits)

/-- The sequence of code points that a text is the written form of. -/
def decode? (cs : List Char) : Option (List Nat) :=
  let (basic, digits) := splitBasic cs
  if basic.all (·.toNat < firstCode) then
    (⟨basic.map Char.toNat, firstCode, 0, initialBias, 0, 1, base⟩ : Reader).digits? digits
  else none

end Schemata.Uri.Punycode
