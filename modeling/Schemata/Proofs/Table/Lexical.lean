import Schemata.Proofs.Table.Binding

/-!
# Lexical resolution

What a name means in a scope can be read off the parsed trees alone: the innermost body around the
scope that defines the name decides, the root of the file last; a name that none of them defines is
what the includes of the file bind it to. The table says the same.

Results:
* `Table.lookup?_eq_some_iff`: what the table finds for a name is what the trees designate.
* `Table.memberType?_eq_some_iff`, `Table.memberField?_eq_some_iff`: the members of a structure are
  those that its body defines.
-/
namespace Schemata

/-- What the parsed trees designate by a name in a scope. -/
inductive Designates (files : List ParsedFile) : Address → String → Definition → Prop where
  /-- The body of the scope defines the name. -/
  | own {scope : Address} {name : String} {d : Definition} (h : DefinesType files scope name d) :
      Designates files scope name d
  /-- The body of a structure does not define the name, and it means something around it. -/
  | outer {scope : Address} {index : Nat} {name : String} {d : Definition}
      (hn : ∀ e, ¬ DefinesType files (scope.child index) name e)
      (h : Designates files scope name d) : Designates files (scope.child index) name d
  /-- The root of a file does not define the name, and an include binds it. -/
  | included {file : Nat} {name : String} {d : Definition}
      (hn : ∀ e, ¬ DefinesType files ⟨file, []⟩ name e) (h : Binds files file name d) :
      Designates files ⟨file, []⟩ name d

namespace Table

variable {files : List ParsedFile} {scope : Address} {ss : List (Statement WrittenType)}
  {name : String}

theorem lookup?_child (t : Table) (scope : Address) (index : Nat) (name : String) :
    t.lookup? (scope.child index) name =
      (t.typeIn? (scope.child index) name <|> t.lookup? scope name) := rfl

theorem lookup?_root (t : Table) (file : Nat) (name : String) :
    t.lookup? ⟨file, []⟩ name = (t.typeIn? ⟨file, []⟩ name <|> t.imported? file name) := rfl

/-- What the table finds for a name is what the trees designate. -/
theorem lookup?_eq_some_iff (hb : BuiltInOrder files) (hp : DistinctPaths files)
    (body : IsBody files scope ss) (hi : (ofFiles files).includeFault? scope.file = none)
    {d : Definition} :
    (ofFiles files).lookup? scope name = some d ↔ Designates files scope name d := by
  have ht := shows_ofFiles files
  induction body with
  | root hf hr =>
    have body := IsBody.root hf hr
    rw [lookup?_root, orElse_eq_some_iff, typeIn?_eq_some_iff hb.each ht body,
      typeIn?_eq_none_iff hb.each ht body]
    constructor
    · rintro (h | ⟨hn, h⟩)
      · exact .own h
      · exact .included hn ((imported?_eq_some_iff hb.each hp hf hr hi hn).1 h)
    · intro h
      cases h with
      | own h => exact .inl h
      | included hn h => exact .inr ⟨hn, (imported?_eq_some_iff hb.each hp hf hr hi hn).2 h⟩
  | @children scope _ index _ _ _ _ _ _ outer hs ih =>
    have body := IsBody.children outer hs
    rw [lookup?_child, orElse_eq_some_iff, typeIn?_eq_some_iff hb.each ht body,
      typeIn?_eq_none_iff hb.each ht body]
    constructor
    · rintro (h | ⟨hn, h⟩)
      · exact .own h
      · exact .outer hn ((ih hi).1 h)
    · intro h
      generalize hscope : scope.child index = inner at h
      cases h with
      | own h => exact .inl (hscope ▸ h)
      | @outer scope' index' _ _ hn h =>
        obtain ⟨file, path⟩ := scope
        obtain ⟨file', path'⟩ := scope'
        injection hscope with hfile hpath
        injection hpath with hindex hpath
        subst hfile hindex hpath
        exact .inr ⟨hn, (ih hi).2 h⟩
      | included => cases hscope

/-! ## Members -/

/-- The address of a structure that a body defines leads to a body, that of an alias to none. -/
theorem isStruct_iff_exists_body {scope : Address} {name : String} {s : Definition}
    (h : DefinesType files scope name s) :
    s.isStruct = true ↔ ∃ ss, IsBody files s.address ss := by
  obtain ⟨body, hs, hd, -⟩ := h
  rename_i ss index u
  have haddress := address_ofStatement? hd
  constructor
  · intro hstruct
    cases u with
    | struct id range name bases metadata children =>
      exact ⟨children, haddress ▸ .children body hs⟩
    | item id range name type =>
      rw [Definition.ofStatement?] at hd
      split at hd
      · injection hd with hd
        rw [← hd] at hstruct
        cases hstruct
      · cases hd
    | extension | inclusion => cases hd
  · rintro ⟨inner, hinner⟩
    rw [haddress] at hinner
    generalize haddr : scope.child index = a at hinner
    cases hinner with
    | root => cases haddr
    | @children scope' ss' index' _ _ _ _ _ _ outer hs' =>
      obtain ⟨file, path⟩ := scope
      obtain ⟨file', path'⟩ := scope'
      injection haddr with hfile hpath
      injection hpath with hindex hpath
      subst hfile hindex hpath
      have ht := shows_ofFiles files
      rw [← statementsIn_of_isBody ht outer, statementsIn_of_isBody ht body, hs,
        Option.some.injEq] at hs'
      subst hs'
      injection hd with hd
      rw [← hd]
      rfl

theorem not_isBody_of_alias {scope : Address} {name : String} {s : Definition}
    (h : DefinesType files scope name s) (hs : ¬ s.isStruct = true) :
    ∀ ss, ¬ IsBody files s.address ss :=
  fun ss hss => hs ((isStruct_iff_exists_body h).2 ⟨ss, hss⟩)

/-- The types that are found in a structure are those that its body defines. -/
theorem memberType?_eq_some_iff (hb : BuiltInOrder files) {scope : Address} {outer : String}
    {s : Definition} (h : DefinesType files scope outer s) {d : Definition} :
    (ofFiles files).memberType? s name = some d ↔ DefinesType files s.address name d := by
  unfold memberType?
  split
  · rename_i hs
    obtain ⟨ss, body⟩ := (isStruct_iff_exists_body h).1 hs
    exact typeIn?_eq_some_iff hb.each (shows_ofFiles files) body
  · rename_i hs
    refine ⟨fun h => (by cases h), ?_⟩
    rintro ⟨body, -, -, -⟩
    exact absurd body (not_isBody_of_alias h hs _)

/-- The fields that are found in a structure are those that its body defines. -/
theorem memberField?_eq_some_iff (hb : BuiltInOrder files) {scope : Address} {outer : String}
    {s : Definition} (h : DefinesType files scope outer s) {f : Field} :
    (ofFiles files).memberField? s name = some f ↔ DefinesField files s.address name f := by
  unfold memberField?
  split
  · rename_i hs
    obtain ⟨ss, body⟩ := (isStruct_iff_exists_body h).1 hs
    exact fieldIn?_eq_some_iff hb.each (shows_ofFiles files) body
  · rename_i hs
    refine ⟨fun h => (by cases h), ?_⟩
    rintro ⟨body, -, -, -⟩
    exact absurd body (not_isBody_of_alias h hs _)

end Table
end Schemata
