import Schemata.Text.Hex

/-!
# Percent escapes

A character that must not stand in a text is written as the bytes of its UTF-8 form, each as a
percent sign and two hexadecimal digits.

Results: `decode_escape` (an escape reads back), `decode_encode` (a text reads back if the percent
sign is escaped), `encode_eq_self` (a text without characters to escape is kept).
-/
namespace Schemata.Text.Percent

/-- The escape of a byte, with digits in uppercase. -/
def escape (b : UInt8) : List Char :=
  ['%', upperHexChar ⟨b.toNat / 16, Nat.div_lt_of_lt_mul b.toNat_lt⟩,
    upperHexChar ⟨b.toNat % 16, Nat.mod_lt _ (by decide)⟩]

/-- Escapes some of the characters. -/
def encode (escaped : Char → Bool) (cs : List Char) : List Char :=
  cs.flatMap fun c => if escaped c then (String.utf8EncodeChar c).flatMap escape else [c]

/-- The byte that two hexadecimal digits stand for. -/
def byte? (high low : Char) : Option UInt8 := do
  let h ← hexDigit? high
  let l ← hexDigit? low
  pure (UInt8.ofNat (16 * h.val + l.val))

/-- The bytes of a text in UTF-8, where an escape stands for its byte; a percent sign that begins no
escape stands for itself. -/
def decode : List Char → List UInt8
  | '%' :: high :: low :: cs =>
    match byte? high low with
    | some b => b :: decode cs
    | none => String.utf8EncodeChar '%' ++ decode (high :: low :: cs)
  | c :: cs => String.utf8EncodeChar c ++ decode cs
  | [] => []

theorem byte?_escape (b : UInt8) (high : b.toNat / 16 < 16) (low : b.toNat % 16 < 16) :
    byte? (upperHexChar ⟨b.toNat / 16, high⟩) (upperHexChar ⟨b.toNat % 16, low⟩) = some b := by
  simp only [byte?, hexDigit?_upperHexChar, Option.bind_eq_bind, Option.bind_some, Option.pure_def,
    Nat.div_add_mod, UInt8.ofNat_toNat]

/-- An escape reads back as its byte. -/
theorem decode_escape (b : UInt8) (cs : List Char) : decode (escape b ++ cs) = b :: decode cs := by
  simp only [escape, List.cons_append, List.nil_append, decode, byte?_escape]

theorem decode_flatMap_escape (bs : List UInt8) (cs : List Char) :
    decode (bs.flatMap escape ++ cs) = bs ++ decode cs := by
  induction bs with
  | nil => rfl
  | cons b bs ih => rw [List.flatMap_cons, List.append_assoc, decode_escape, ih]; rfl

theorem decode_cons {c : Char} (h : c ≠ '%') (cs : List Char) :
    decode (c :: cs) = String.utf8EncodeChar c ++ decode cs := by
  rw [decode]
  rintro _ _ _ ⟨⟩
  exact absurd rfl h

/-- A text reads back as its bytes if percent signs are among the characters that are escaped. -/
theorem decode_encode {escaped : Char → Bool} (h : escaped '%' = true) (cs : List Char) :
    decode (encode escaped cs) = cs.flatMap String.utf8EncodeChar := by
  induction cs with
  | nil => rfl
  | cons c cs ih =>
    rw [encode, List.flatMap_cons, List.flatMap_cons, ← encode]
    split
    · rw [decode_flatMap_escape, ih]
    · rename_i hc
      rw [List.singleton_append, decode_cons (by rintro rfl; exact hc h), ih]

theorem encode_eq_self {escaped : Char → Bool} {cs : List Char} (h : ∀ c ∈ cs, escaped c = false) :
    encode escaped cs = cs := by
  induction cs with
  | nil => rfl
  | cons c cs ih =>
    rw [encode, List.flatMap_cons, ← encode, ih fun d hd => h d (List.mem_cons_of_mem _ hd),
      h c List.mem_cons_self]
    rfl

end Schemata.Text.Percent
