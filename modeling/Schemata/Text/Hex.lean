/-!
# Hexadecimal digits

Digits are read in either case.

Results: `hexDigit?_hexChar` (a written digit reads back), `hexValue?_eq_none_iff` (what is no
number).
-/
namespace Schemata

/-- The value of a hexadecimal digit. -/
def hexDigit? (c : Char) : Option (Fin 16) :=
  if c.isDigit then some (Fin.ofNat 16 (c.toNat - '0'.toNat))
  else if 'a' ≤ c ∧ c ≤ 'f' then some (Fin.ofNat 16 (c.toNat - 'a'.toNat + 10))
  else if 'A' ≤ c ∧ c ≤ 'F' then some (Fin.ofNat 16 (c.toNat - 'A'.toNat + 10))
  else none

/-- A hexadecimal digit in lowercase. -/
def hexChar (d : Fin 16) : Char := Nat.digitChar d

theorem hexDigit?_hexChar (d : Fin 16) : hexDigit? (hexChar d) = some d := by
  revert d
  decide

/-- A hexadecimal digit in uppercase. -/
def upperHexChar (d : Fin 16) : Char := (hexChar d).toUpper

theorem hexDigit?_upperHexChar (d : Fin 16) : hexDigit? (upperHexChar d) = some d := by
  revert d
  decide

/-- The number that hexadecimal digits stand for; no digits stand for zero. -/
def hexValue? (cs : List Char) : Option Nat :=
  (cs.mapM hexDigit?).map fun ds => ds.foldl (fun n d => 16 * n + d.val) 0

theorem mapM_hexDigit?_eq_none_iff {cs : List Char} :
    cs.mapM hexDigit? = none ↔ ∃ c ∈ cs, hexDigit? c = none := by
  induction cs with
  | nil => simp
  | cons c cs ih =>
    rw [List.mapM_cons]
    cases h : hexDigit? c with
    | none => simp [h]
    | some d =>
      cases k : cs.mapM hexDigit? with
      | none => simp [h, ih.1 k]
      | some ds =>
        have : ¬∃ c ∈ cs, hexDigit? c = none := fun e => by simp [ih.2 e] at k
        simpa [h, k] using this

theorem hexValue?_eq_none_iff {cs : List Char} :
    hexValue? cs = none ↔ ∃ c ∈ cs, hexDigit? c = none := by
  rw [hexValue?, Option.map_eq_none_iff, mapM_hexDigit?_eq_none_iff]

end Schemata
