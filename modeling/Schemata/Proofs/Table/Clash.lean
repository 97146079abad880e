import Schemata.Proofs.Build.Sketch
import Schemata.Proofs.Table.Fault

/-!
# What a failing include leaves bound

An include that is refused for its target or for one of its elements binds nothing. A name that
clashes is only found when its turn comes, after the names before it are bound, and they stay bound.
A file that reads an alias of the failed file sees them.

**Results:**
* `Table.prefix_of_bindInclude`: a failing include only adds bindings.
* `Table.bindInclude_eq_self_iff`: on which condition it adds none.
-/
namespace Schemata
namespace Table

variable {t : Table} {file : Nat} {bound later : List Import} {b : Import} {d : Diagnostic}

/-! ## Names that are bound -/

theorem prefix_withBinding (bound : List Import) (b : Import) : bound <+: withBinding bound b := by
  unfold withBinding
  split
  · exact List.prefix_refl bound
  · exact List.prefix_append bound [b]

theorem withBinding_eq_self_iff : withBinding bound b = bound ↔ ∃ c ∈ bound, c.name = b.name := by
  unfold withBinding
  split
  · rename_i hany
    simpa using hany
  · rename_i hany
    simpa using hany

theorem prefix_foldl_withBinding (bound bs : List Import) :
    bound <+: bs.foldl withBinding bound := by
  induction bs generalizing bound with
  | nil => exact List.prefix_refl bound
  | cons b rest ih => exact (prefix_withBinding bound b).trans (ih _)

/-- Nothing is bound anew exactly if all names are already bound. -/
theorem foldl_withBinding_eq_self_iff {bs : List Import} :
    bs.foldl withBinding bound = bound ↔ ∀ b ∈ bs, ∃ c ∈ bound, c.name = b.name := by
  induction bs generalizing bound with
  | nil => simp
  | cons b rest ih =>
    rw [List.foldl_cons, List.forall_mem_cons, ← withBinding_eq_self_iff]
    constructor
    · intro h
      -- the bindings only grow, so the first step already ends where the last one does
      have hfirst : withBinding bound b = bound := by
        refine ((prefix_withBinding bound b).eq_of_length_le ?_).symm
        calc (withBinding bound b).length
            ≤ (rest.foldl withBinding (withBinding bound b)).length :=
              (prefix_foldl_withBinding _ rest).length_le
          _ = bound.length := by rw [h]
      rw [hfirst] at h
      exact ⟨hfirst, ih.1 h⟩
    · rintro ⟨hfirst, hrest⟩
      rw [hfirst]
      exact ih.2 hrest

/-! ## A clash -/

/-- A clash behind names that are all bound leaves nothing new. -/
theorem addBindings_of_known {before after : List Import}
    (hknown : ∀ x ∈ before, ∃ c ∈ bound, c.name = x.name)
    (hclash : (t.clash? file bound b).isSome = true) :
    (t.addBindings file bound (before ++ b :: after)).1 = bound := by
  induction before with
  | nil =>
    obtain ⟨first, hfirst⟩ := Option.isSome_iff_exists.1 hclash
    rw [List.nil_append, addBindings, hfirst]
  | cons x rest ih =>
    obtain ⟨hx, hrest⟩ := List.forall_mem_cons.1 hknown
    rw [List.cons_append, addBindings]
    split
    · rfl
    · have hsame : (if bound.any (·.name == x.name) then bound else bound ++ [x]) = bound :=
        withBinding_eq_self_iff.2 hx
      rw [hsame]
      exact ih hrest

/-- What was bound before a failing include stays bound. -/
theorem prefix_of_bindInclude {i : Inclusion} (h : t.bindInclude file bound i = (later, some d)) :
    bound <+: later := by
  unfold bindInclude at h
  split at h
  · obtain ⟨before, -, -, -, -, rfl, -⟩ := exists_of_addBindings h
    exact prefix_foldl_withBinding bound before
  · cases h
    exact List.prefix_refl bound

/-- A failing include binds nothing exactly if it is refused before it binds a name, or if each name
that it binds before one that clashes is already bound. -/
theorem bindInclude_eq_self_iff {i : Inclusion} (h : t.bindInclude file bound i = (later, some d)) :
    later = bound ↔ ∀ bs, t.includeBindings i = .ok bs →
      ∃ before b after, bs = before ++ b :: after ∧ (∀ x ∈ before, ∃ c ∈ bound, c.name = x.name) ∧
        (t.clash? file bound b).isSome = true := by
  unfold bindInclude at h
  split at h
  · rename_i bs hbs
    simp only [hbs, Except.ok.injEq, forall_eq']
    constructor
    · rintro rfl
      obtain ⟨before, b, after, first, hsplit, hlater, hclash, -⟩ := exists_of_addBindings h
      exact ⟨before, b, after, hsplit, foldl_withBinding_eq_self_iff.1 hlater.symm,
        Option.isSome_of_mem hclash⟩
    · rintro ⟨before, b, after, rfl, hknown, hclash⟩
      have hbound : (t.addBindings file bound (before ++ b :: after)).1 = bound :=
        addBindings_of_known hknown hclash
      rw [h] at hbound
      exact hbound
  · rename_i e he
    cases h
    simp [he]

/-- A file that takes everything of one file and the given types of another one and that has an
alias of one of those, and a file that takes the alias. -/
def clashingFiles (elements : List String) : List ParsedFile :=
  parseInOrder
    [(⟨"ws/a"⟩, [.takesAll 1 "d", .inclusion (.onLine 2) (.onLine 2) "b"
          (elements.map fun element => ⟨.onLine 2, .onLine 2 element, none⟩),
        .names 3 "Link" (.named 3 ["Line"])]),
      (⟨"ws/b"⟩, [.record 1 "Point" [] [], .record 2 "Line" [] []]),
      (⟨"ws/c"⟩, [.takes 1 "a" "Link" "Link", .names 2 "x" (.named 2 ["Link"])]),
      (⟨"ws/d"⟩, [.record 1 "Point" [] []])]

/-- How many names the first file has before and after its second include, and whether that one
fails. -/
def secondInclude (files : List ParsedFile) : Option (Nat × Nat × Bool) :=
  files[0]?.bind fun f => f.root.toOption.bind fun root => root.inclusions[1]?.map fun i =>
    let bound := ((declare files).bindIncludes 0 [] (root.inclusions.take 1)).1
    let (later, failure) := (declare files).bindInclude 0 bound i
    (bound.length, later.length, failure.isSome)

theorem exists_of_secondInclude {files : List ParsedFile} {m n : Nat}
    (h : secondInclude files = some (m, n, true)) : ∃ bound i later d,
      (declare files).bindInclude 0 bound i = (later, some d) ∧ bound.length = m ∧
        later.length = n := by
  obtain ⟨f, -, h⟩ := Option.bind_eq_some_iff.1 h
  obtain ⟨root, -, h⟩ := Option.bind_eq_some_iff.1 h
  obtain ⟨i, -, h⟩ := Option.map_eq_some_iff.1 h
  injection h with hm h
  injection h with hn hd
  obtain ⟨d, hd⟩ := Option.isSome_iff_exists.1 hd
  exact ⟨_, i, _, d, Prod.ext rfl hd, hm, hn⟩

/-- The second include of the first file binds nothing, as its first name clashes with one that is
already bound. -/
theorem bindInclude_eq_self_clashingFiles : ∃ bound i later d,
    (declare (clashingFiles ["Point", "Line"])).bindInclude 0 bound i = (later, some d) ∧
      later = bound ∧ bound ≠ [] ∧
      ∀ bs, (declare (clashingFiles ["Point", "Line"])).includeBindings i = .ok bs →
        ∃ before b after, bs = before ++ b :: after ∧
          (∀ x ∈ before, ∃ c ∈ bound, c.name = x.name) ∧
          ((declare (clashingFiles ["Point", "Line"])).clash? 0 bound b).isSome = true := by
  obtain ⟨bound, i, later, d, h, hm, hn⟩ := exists_of_secondInclude
    (show secondInclude (clashingFiles ["Point", "Line"]) = some (1, 1, true) by decide +kernel)
  have hsame : later = bound :=
    ((prefix_of_bindInclude h).eq_of_length (hm.trans hn.symm)).symm
  exact ⟨bound, i, later, d, h, hsame, List.ne_nil_of_length_pos (hm ▸ Nat.one_pos),
    (bindInclude_eq_self_iff h).1 hsame⟩

/-- The reference to `Line` of the alias in the first file. -/
def lineReference : Reference := ⟨[⟨default, "", "Line", .isPublic⟩], false, false⟩

/-- A failing include may bind names. The second include of the first file fails whichever of its
two elements is listed first, but if that is `Line`, the third file finds what the alias stands
for. -/
theorem not_bindsNothing_clashingFiles :
    (¬ ∀ (t : Table) file bound i later d,
      t.bindInclude file bound i = (later, some d) → later = bound) ∧
    (((ofFiles (clashingFiles ["Line", "Point"])).includeFault? 0).isSome = true ∧
      ((ofFiles (clashingFiles ["Line", "Point"])).resolve 2 lineReference default
        ⟨0, []⟩).isOk = true) ∧
    ((ofFiles (clashingFiles ["Point", "Line"])).includeFault? 0).isSome = true ∧
      ((ofFiles (clashingFiles ["Point", "Line"])).resolve 2 lineReference default
        ⟨0, []⟩).isOk = false := by
  refine ⟨fun hall => ?_, ⟨by decide +kernel, by decide +kernel⟩, by decide +kernel,
    by decide +kernel⟩
  obtain ⟨bound, i, later, d, h, hm, hn⟩ := exists_of_secondInclude
    (show secondInclude (clashingFiles ["Line", "Point"]) = some (1, 2, true) by decide +kernel)
  rw [hall _ _ _ _ _ _ h, hm] at hn
  cases hn

end Table
end Schemata
