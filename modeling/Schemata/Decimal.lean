import Schemata.Text.Split

/-!
# Decimal notation of binary numbers

A binary floating-point number is written with the fewest decimal digits that read back as it, the
nearest of those; the notation is positional, never with an exponent. A decimal is read as the
nearest binary number, a tie going to the even one.
-/
namespace Schemata.Decimal

/-- A finite number `m · 2 ^ q`, with the mantissa and exponent of its 64-bit format. -/
structure Parts where
  mantissa : Nat
  /-- The exponent of the mantissa's last bit. -/
  exponent : Int
  deriving DecidableEq, Repr

/-- The magnitude of a finite number, read from the bits of its format. -/
def Parts.ofFloat (x : Float) : Parts :=
  let bits := x.toBits.toNat
  let fraction : Nat := bits % Nat.pow 2 52
  let biased : Nat := bits / Nat.pow 2 52 % Nat.pow 2 11
  if biased = 0 then ⟨fraction, -1074⟩
  else ⟨Nat.pow 2 52 + fraction, (biased : Int) - 1075⟩

/-- An interval of rationals over one denominator; its ends may belong to it. -/
structure Interval where
  /-- The lower end's numerator. -/
  low : Nat
  /-- The upper end's numerator. -/
  high : Nat
  /-- The common denominator. -/
  denominator : Nat
  /-- Whether the ends belong to the interval. -/
  closed : Bool
  deriving DecidableEq, Repr

/-- `n / d` lies in the interval. -/
def Interval.contains (i : Interval) (n d : Nat) : Bool :=
  let scaled := n * i.denominator
  if i.closed then decide (i.low * d ≤ scaled ∧ scaled ≤ i.high * d)
  else decide (i.low * d < scaled ∧ scaled < i.high * d)

/-- The number as a quotient of naturals. -/
def Parts.quotient (p : Parts) : Nat × Nat :=
  if 0 ≤ p.exponent then (p.mantissa * Nat.pow 2 p.exponent.toNat, 1)
  else (p.mantissa, Nat.pow 2 (-p.exponent).toNat)

/-- The rationals that are nearest to the number among all numbers of the format: half the way to
its two neighbours, of which the lower is half as far away below a power of two. -/
def Parts.interval (p : Parts) : Interval :=
  let (n, d) := p.quotient
  let unit := n / (if p.mantissa = 0 then 1 else p.mantissa)
  let lowGap := if p.mantissa = Nat.pow 2 52 ∧ -1074 < p.exponent then unit else 2 * unit
  ⟨4 * n - lowGap, 4 * n + 2 * unit, 4 * d, p.mantissa % 2 = 0⟩

/-- The least `k` with `n / d < 10 ^ k`, for a quotient that is not zero. -/
def magnitude (n d : Nat) : Int :=
  let up := (List.range 400).find? fun k => n < d * Nat.pow 10 k
  match up with
  | some 0 =>
    match (List.range 400).find? fun k => d ≤ n * Nat.pow 10 (k + 1) with
    | some k => -(k : Int)
    | none => 0
  | some k => k
  | none => 400

/-- The digits of a number as a natural, and the power of ten of the last digit. -/
structure Digits where
  /-- The digits, read as one number. -/
  value : Nat
  /-- The power of ten of the last digit. -/
  exponent : Int
  deriving DecidableEq, Repr

/-- The decimal as a quotient. -/
def Digits.quotient (s : Digits) : Nat × Nat :=
  if 0 ≤ s.exponent then (s.value * Nat.pow 10 s.exponent.toNat, 1)
  else (s.value, Nat.pow 10 (-s.exponent).toNat)

/-- The candidates with the last digit at `10 ^ e`: the decimals next to `n / d` on either side. Of
two that read back the nearer is taken, and the upper one of two equally near. -/
def candidate (i : Interval) (n d : Nat) (e : Int) : Option Digits :=
  let (num, den) := if 0 ≤ e then (n, d * Nat.pow 10 e.toNat) else (n * Nat.pow 10 (-e).toNat, d)
  let below : Digits := ⟨num / den, e⟩
  let above : Digits := ⟨num / den + 1, e⟩
  let fits (s : Digits) : Bool := let (a, b) := s.quotient; i.contains a b
  match fits below, fits above with
  | true, true => if 2 * (num % den) < den then some below else some above
  | true, false => some below
  | false, true => some above
  | false, false => none

/-- The fewest digits that read back as the number, for one that is not zero. -/
def shortest (p : Parts) : Digits :=
  let (n, d) := p.quotient
  let k := magnitude n d
  let grid (count : Nat) := candidate p.interval n d (k - (count + 1 : Nat))
  ((List.range 17).findSome? grid).getD ⟨0, 0⟩

/-- Digits in positional notation. -/
def Digits.text (s : Digits) : String :=
  let ds := Nat.toDigits 10 s.value
  if 0 ≤ s.exponent then String.ofList (ds ++ List.replicate s.exponent.toNat '0')
  else
    let places := (-s.exponent).toNat
    let padded := List.replicate (places + 1 - ds.length) '0' ++ ds
    let cut := padded.length - places
    let fraction := ((padded.drop cut).reverse.dropWhile (· == '0')).reverse
    if fraction = [] then String.ofList (padded.take cut)
    else String.ofList (padded.take cut ++ '.' :: fraction)

/-- A number in decimal notation; the ones that are not finite are written by name. -/
def text (x : Float) : String :=
  if x.isNaN then "NaN"
  else
    let sign := if x.toBits.toNat / Nat.pow 2 63 = 1 then "-" else ""
    if x.isInf then sign ++ "inf"
    else
      let p := Parts.ofFloat x
      if p.mantissa = 0 then sign ++ "0" else sign ++ (shortest p).text

/-! ## Reading -/

/-- `n / d` rounded to a natural, a tie to the even one. -/
def roundEven (n d : Nat) : Nat :=
  let q := n / d
  let r := 2 * (n % d)
  if r < d then q else if d < r then q + 1 else if q % 2 = 0 then q else q + 1

/-- The format's number nearest to `n / d`, for a positive `d`; beyond the largest one it is
infinity. -/
def nearest (n d : Nat) : Float :=
  if n = 0 then 0
  else
    -- `2 ^ e ≤ n / d < 2 ^ (e + 1)` for one of two neighbouring exponents
    let guess : Int := (n.log2 : Int) - d.log2
    let atLeast (e : Int) : Bool :=
      if 0 ≤ e then decide (d * Nat.pow 2 e.toNat ≤ n) else decide (d ≤ n * Nat.pow 2 (-e).toNat)
    let e := if atLeast guess then guess else guess - 1
    let q : Int := max (e - 52) (-1074)
    let m := if 0 ≤ q then roundEven n (d * Nat.pow 2 q.toNat) else roundEven (n * Nat.pow 2 (-q).toNat) d
    let (m, q) := if m = Nat.pow 2 53 then (Nat.pow 2 52, q + 1) else (m, q)
    if 971 < q then Float.ofBits 0x7FF0000000000000
    else if m < Nat.pow 2 52 then Float.ofBits (UInt64.ofNat m)
    else Float.ofBits (UInt64.ofNat ((q + 1075).toNat * Nat.pow 2 52 + (m - Nat.pow 2 52)))

/-- The number nearest to `digits · 10 ^ exponent`. A nonzero decimal beyond every number of the
format is infinite or zero without the power being formed. -/
def ofScientific (digits : Nat) (exponent : Int) : Float :=
  if digits = 0 then 0
  else
    let size : Int := (Nat.toDigits 10 digits).length + exponent
    if 400 < size then Float.ofBits 0x7FF0000000000000
    else if size < -400 then 0
    else if 0 ≤ exponent then nearest (digits * Nat.pow 10 exponent.toNat) 1
    else nearest digits (Nat.pow 10 (-exponent).toNat)

/-- Reads the exponent of a decimal: nothing, or `e` with an optional sign and digits. -/
def readExponent : List Char → Option Int
  | [] => some 0
  | c :: cs =>
    if c = 'e' ∨ c = 'E' then
      let (sign, ds) : Int × List Char := match cs with
        | '-' :: ds => (-1, ds)
        | '+' :: ds => (1, ds)
        | ds => (1, ds)
      if ds ≠ [] ∧ ds.all Char.isDigit then some (sign * (digitsValue ds : Int)) else none
    else none

/-- Reads an unsigned decimal: digits with at most one point, and an optional exponent. -/
def readMagnitude (cs : List Char) : Option Float :=
  let whole := cs.takeWhile Char.isDigit
  let rest := cs.dropWhile Char.isDigit
  let (fraction, rest) := match rest with
    | '.' :: rest => (rest.takeWhile Char.isDigit, rest.dropWhile Char.isDigit)
    | rest => ([], rest)
  if whole = [] ∧ fraction = [] then none
  else (readExponent rest).map fun e =>
    ofScientific (digitsValue (whole ++ fraction)) (e - (fraction.length : Int))

/-- Reads a number: a sign, and a decimal or the name of one that is not finite. -/
def read (s : String) : Option Float :=
  let unsigned (cs : List Char) : Option Float :=
    match String.ofList (cs.map Char.toLower) with
    | "nan" => some (Float.ofBits 0x7FF8000000000000)
    | "inf" | "infinity" => some (Float.ofBits 0x7FF0000000000000)
    | _ => readMagnitude cs
  match s.toList with
  | '-' :: cs => (unsigned cs).map (-·)
  | '+' :: cs => unsigned cs
  | cs => unsigned cs

/-- A finite number, one that is neither infinite nor undefined. -/
def isFinite (x : Float) : Bool := !x.isNaN && !x.isInf

end Schemata.Decimal
