import Schemata.Guid

/-!
# Identifiers are read back

A GUID is written in groups, so it is read in groups, whatever form it had before.

Results:
* `Guid.splitOn_chars`: the groups are found between the hyphens.
* `Guid.read_text`: a GUID is read back from what is written for it.
-/
namespace Schemata

/-! ## Hexadecimal digits -/

theorem utf8Size_hexChar (d : Fin 16) : (hexChar d).utf8Size = 1 := by
  revert d
  decide

theorem hexChar_ne_hyphen (d : Fin 16) : hexChar d ≠ '-' := by
  revert d
  decide

theorem hexChar_ne_brace (d : Fin 16) : hexChar d ≠ '\x7b' := by
  revert d
  decide

theorem toLower_hexChar_ne (d : Fin 16) : (hexChar d).toLower ≠ 'u' := by
  revert d
  decide

theorem mapM_hexDigit?_hexChar (ds : List (Fin 16)) :
    (ds.map hexChar).mapM hexDigit? = some ds := by
  induction ds with
  | nil => rfl
  | cons d ds ih => simp [hexDigit?_hexChar, ih]

namespace Guid

/-! ## Groups -/

/-- The digits of a GUID as they are written, in groups. -/
def groups (g : Guid) : List (List Char) :=
  let cs := g.digits.map hexChar
  [cs.take 8, (cs.drop 8).take 4, (cs.drop 12).take 4, (cs.drop 16).take 4, cs.drop 20]

theorem chars_eq (g : Guid) : g.chars = List.intercalate ['-'] g.groups := by
  simp [chars, groups, List.intercalate]

theorem flatten_groups (g : Guid) : g.groups.flatten = g.digits.map hexChar := by
  have hnext : ∀ (cs : List Char) (i k : Nat), (cs.drop i).take k ++ cs.drop (i + k) = cs.drop i :=
    fun cs i k => by rw [← List.drop_drop, List.take_append_drop]
  simp only [groups, List.flatten_cons, List.flatten_nil, List.append_nil]
  rw [hnext _ 16 4, hnext _ 12 4, hnext _ 8 4, List.take_append_drop]

theorem mem_groups {g : Guid} {group : List Char} (h : group ∈ g.groups) {c : Char}
    (hc : c ∈ group) : ∃ d, c = hexChar d := by
  have hmem : c ∈ g.digits.map hexChar := by
    rw [← flatten_groups]
    exact List.mem_flatten.2 ⟨group, h, hc⟩
  obtain ⟨d, -, hd⟩ := List.mem_map.1 hmem
  exact ⟨d, hd.symm⟩

theorem length_groups (g : Guid) : g.groups.map List.length = groupLengths := by
  simp [groups, groupLengths, g.length_eq]

/-- The groups are found between the hyphens. -/
theorem splitOn_chars (g : Guid) : splitOn '-' g.chars = g.groups := by
  rw [chars_eq]
  refine splitOn_intercalate (List.cons_ne_nil _ _) fun group hgroup hm => ?_
  obtain ⟨d, hd⟩ := mem_groups hgroup hm
  exact hexChar_ne_hyphen d hd.symm

theorem readGroups_chars (g : Guid) : readGroups g.chars = some g := by
  rw [readGroups, splitOn_chars, if_pos (length_groups g), flatten_groups, readPlain,
    mapM_hexDigit?_hexChar]
  exact dif_pos g.length_eq

/-! ## Reading -/

theorem mem_chars {g : Guid} {c : Char} (h : c ∈ g.chars) : c = '-' ∨ ∃ d, c = hexChar d := by
  have hmem : c = '-' ∨ c ∈ g.digits.map hexChar := by
    simp only [chars, List.mem_append, List.mem_cons] at h
    grind [List.mem_of_mem_take, List.mem_of_mem_drop]
  rcases hmem with h | h
  · exact .inl h
  · obtain ⟨d, -, hd⟩ := List.mem_map.1 h
    exact .inr ⟨d, hd.symm⟩

theorem byteLength_chars (g : Guid) : byteLength g.chars = 36 := by
  have hbytes : byteLength g.chars = g.chars.length := byteLength_eq_length fun c hc => by
    rcases mem_chars hc with rfl | ⟨d, rfl⟩
    · rfl
    · exact utf8Size_hexChar d
  rw [hbytes]
  simp [chars, g.length_eq]

/-- What is written begins with a digit, so it has no wrapping. -/
theorem unwrap?_chars (g : Guid) : unwrap? g.chars = none := by
  obtain ⟨digits, hlength⟩ := g
  cases digits with
  | nil => cases hlength
  | cons d ds =>
    have hbraces : ∀ rest, inBraces? (hexChar d :: rest) = none := by
      intro rest
      unfold inBraces?
      split
      case h_1 h => exact absurd (List.cons.inj h).1 (hexChar_ne_brace d)
      case h_2 => rfl
    have hscheme : ∀ rest, afterScheme? (hexChar d :: rest) = none := by
      intro rest
      refine if_neg fun h => ?_
      exact toLower_hexChar_ne d (List.cons.inj h).1
    change (inBraces? (hexChar d :: _) <|> afterScheme? (hexChar d :: _)) = none
    rw [hbraces, hscheme]
    rfl

/-- A GUID is read back from what is written for it. -/
theorem read_text (g : Guid) : read g.text = .ok g := by
  simp [read, text, unwrap?_chars, byteLength_chars, readGroups_chars]

end Guid
end Schemata
