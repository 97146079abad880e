import Schemata.Proofs.Link.File
import Schemata.Proofs.Table.Body
import Mathlib.Data.List.Forall2

/-!
# What linked statements carry

A linked file has the statements of the parsed one. Each item carries the linked type that its
written type means where the item stands, also an alias, which is linked as what the table has for
its id, and so do the bases of each structure.

**Results:**
* `Table.linkFile_carries`: what the statements of a linked file carry.
* `Table.CarriesFrom.exists_linked`, `Table.CarriesFrom.exists_written`: the items of a linked file
  are those of the parsed one.
-/
namespace Schemata

namespace Statement
variable {τ : Type}

mutual

/-- The items in a statement, itself included, by their ids with their types. -/
def items : Statement τ → List (ElementId × τ)
  | item id _ _ type => [(id, type)]
  | struct _ _ _ _ _ children => itemsOf children
  | extension .. | inclusion .. => []

/-- The items in some statements. -/
def itemsOf : List (Statement τ) → List (ElementId × τ)
  | [] => []
  | s :: ss => s.items ++ itemsOf ss

end

end Statement

namespace Table

mutual

/-- A linked statement is the written one at the address, but for the types, which are related to
the written ones in their scope. -/
inductive Carries (P : Address → WrittenType → LinkedType → Prop) :
    Address → Statement WrittenType → Statement LinkedType → Prop where
  | item {a : Address} {id : ElementId} {range : Range} {name : Identifier} {type : WrittenType}
      {linked : LinkedType} (h : P a.scope type linked) :
      Carries P a (.item id range name type) (.item id range name linked)
  | struct {a : Address} {id : ElementId} {range : Range} {name : Identifier}
      {bases : List WrittenType} {linked : List LinkedType} {metadata : Option Metadata}
      {children : List (Statement WrittenType)} {mirrored : List (Statement LinkedType)}
      (hbases : List.Forall₂ (P a.scope) bases linked) (h : CarriesFrom P a 0 children mirrored) :
      Carries P a (.struct id range name bases metadata children)
        (.struct id range name linked metadata mirrored)
  | extension (a : Address) (id : ElementId) (range : Range) (call : Extension) :
      Carries P a (.extension id range call) (.extension id range call)
  | inclusion (a : Address) (id : ElementId) (range : Range) (i : Inclusion) :
      Carries P a (.inclusion id range i) (.inclusion id range i)

/-- Linked statements are the written ones of a scope from a position on, but for the types. -/
inductive CarriesFrom (P : Address → WrittenType → LinkedType → Prop) :
    Address → Nat → List (Statement WrittenType) → List (Statement LinkedType) → Prop where
  | nil (scope : Address) (index : Nat) : CarriesFrom P scope index [] []
  | cons {scope : Address} {index : Nat} {s : Statement WrittenType} {linked : Statement LinkedType}
      {ss : List (Statement WrittenType)} {rest : List (Statement LinkedType)}
      (h : Carries P (scope.child index) s linked) (hs : CarriesFrom P scope (index + 1) ss rest) :
      CarriesFrom P scope index (s :: ss) (linked :: rest)

end

section Carries

variable {P Q : Address → WrittenType → LinkedType → Prop}

mutual

theorem Carries.imp {file : Nat} (hpq : ∀ scope type linked, scope.file = file →
      P scope type linked → Q scope type linked)
    {a : Address} (ha : a.file = file) {s : Statement WrittenType} {linked : Statement LinkedType}
    (h : Carries P a s linked) : Carries Q a s linked := by
  match h with
  | .item h => exact .item (hpq _ _ _ ha h)
  | .struct hbases h =>
    exact .struct (hbases.imp fun _ _ => hpq a.scope _ _ ha) (h.imp hpq ha)
  | .extension .. => exact .extension ..
  | .inclusion .. => exact .inclusion ..

theorem CarriesFrom.imp {file : Nat} (hpq : ∀ scope type linked, scope.file = file →
      P scope type linked → Q scope type linked)
    {scope : Address} (hscope : scope.file = file) {index : Nat} {ss : List (Statement WrittenType)}
    {linked : List (Statement LinkedType)} (h : CarriesFrom P scope index ss linked) :
    CarriesFrom Q scope index ss linked := by
  match h with
  | .nil .. => exact .nil ..
  | .cons h hs =>
    exact .cons (h.imp (a := scope.child index) hpq hscope) (hs.imp hpq hscope)

end

mutual

theorem Carries.exists_linked {a b : Address} {s : Statement WrittenType}
    {linked : Statement LinkedType} (h : Carries P a s linked) {id : ElementId} {range : Range}
    {name : Identifier} {type : WrittenType} (hb : (b, .item id range name type) ∈ addressed a s) :
    ∃ l, (id, l) ∈ linked.items ∧ P b.scope type l := by
  match h with
  | .item h =>
    cases List.mem_singleton.1 hb
    exact ⟨_, List.mem_singleton_self _, h⟩
  | .struct _ h =>
    rcases List.mem_cons.1 hb with hb | hb
    · cases hb
    · exact h.exists_linked hb
  | .extension .. | .inclusion .. => cases List.mem_singleton.1 hb

/-- Each item in the written statements has its linked one. -/
theorem CarriesFrom.exists_linked {scope b : Address} {index : Nat}
    {ss : List (Statement WrittenType)} {linked : List (Statement LinkedType)}
    (h : CarriesFrom P scope index ss linked) {id : ElementId} {range : Range} {name : Identifier}
    {type : WrittenType} (hb : (b, .item id range name type) ∈ addressedIn scope index ss) :
    ∃ l, (id, l) ∈ Statement.itemsOf linked ∧ P b.scope type l := by
  match h with
  | .nil .. => cases hb
  | .cons h hs =>
    rcases List.mem_append.1 hb with hb | hb
    · obtain ⟨l, hl, hp⟩ := h.exists_linked hb
      exact ⟨l, List.mem_append_left _ hl, hp⟩
    · obtain ⟨l, hl, hp⟩ := hs.exists_linked hb
      exact ⟨l, List.mem_append_right _ hl, hp⟩

end

mutual

theorem Carries.exists_written {a : Address} {s : Statement WrittenType}
    {linked : Statement LinkedType} (h : Carries P a s linked) {id : ElementId} {l : LinkedType}
    (hl : (id, l) ∈ linked.items) :
    ∃ b range name type, (b, .item id range name type) ∈ addressed a s ∧ P b.scope type l := by
  match h with
  | .item h =>
    cases List.mem_singleton.1 hl
    exact ⟨_, _, _, _, List.mem_singleton_self _, h⟩
  | .struct _ h =>
    obtain ⟨b, range, name, type, hb, hp⟩ := h.exists_written hl
    exact ⟨b, range, name, type, List.mem_cons_of_mem _ hb, hp⟩
  | .extension .. | .inclusion .. => cases hl

/-- Each item in the linked statements is a written one. -/
theorem CarriesFrom.exists_written {scope : Address} {index : Nat}
    {ss : List (Statement WrittenType)} {linked : List (Statement LinkedType)}
    (h : CarriesFrom P scope index ss linked) {id : ElementId} {l : LinkedType}
    (hl : (id, l) ∈ Statement.itemsOf linked) :
    ∃ b range name type, (b, .item id range name type) ∈ addressedIn scope index ss ∧
      P b.scope type l := by
  match h with
  | .nil .. => cases hl
  | .cons h hs =>
    rcases List.mem_append.1 hl with hl | hl
    · obtain ⟨b, range, name, type, hb, hp⟩ := h.exists_written hl
      exact ⟨b, range, name, type, List.mem_append_left _ hb, hp⟩
    · obtain ⟨b, range, name, type, hb, hp⟩ := hs.exists_written hl
      exact ⟨b, range, name, type, List.mem_append_right _ hb, hp⟩

end

end Carries

/-! ## Linking -/

variable {files : List ParsedFile} {t : Table} {reader : Nat}

theorem MeansAll.forall₂ {scope : Address} {types : List WrittenType} {linked : List LinkedType}
    (h : t.MeansAll reader scope types linked) :
    List.Forall₂ (t.Means reader scope) types linked := by
  induction types generalizing linked with
  | nil =>
    cases h
    exact .nil
  | cons type rest ih =>
    cases h with
    | cons h hs => exact .cons h (ih hs)

theorem linkItem_means (hb : BuiltInOrder files) {memory : LinkMemory}
    (hm : (ofFiles files).Faithful reader memory) {a : Address} {id : ElementId} {range : Range}
    {name : Identifier} {type : WrittenType}
    (hs : (a, .item id range name type) ∈ (ofFiles files).allStatements) {linked : LinkedType}
    (h : ((ofFiles files).linkItem reader memory a.scope id name type).1 = .ok linked) :
    (ofFiles files).Means reader a.scope type linked := by
  unfold linkItem at h
  split at h
  · rename_i d _ hd hisType
    -- the definition of the id is the one that the statement makes
    obtain rfl := eq_of_definitionOf? hb hs (if_pos hisType) hd
    exact (linkAlias_finds _ reader memory _ type _ _ (holds_of_definitionOf? hd) rfl hm).2.2 linked
      h
  · exact (linkType_finds _ reader .empty memory a.scope type hm).2.2 linked h

theorem linkBases_means {memory : LinkMemory} (hm : t.Faithful reader memory) {scope : Address}
    {d : Definition} {held : t.Holds d} {name : Identifier} {bases : List WrittenType}
    {linked : List LinkedType}
    (h : (t.linkBases reader memory scope d held name bases).1 = .ok linked) :
    List.Forall₂ (t.Means reader scope) bases linked := by
  unfold linkBases at h
  split at h
  · cases h
  · rename_i linked' m hx
    split at h
    · cases h
    · split at h
      · cases h
        have hfinds := (linkTypes_finds t reader .empty memory scope bases hm).2.2
        exact (hfinds linked (congrArg Prod.fst hx)).forall₂
      · cases h

/-- Statements of the table are linked to what they mean. -/
theorem linkStatements_carry (hb : BuiltInOrder files) (reader : Nat) :
    (∀ memory scope s a, a.scope = scope → addressed a s ⊆ (ofFiles files).allStatements →
      (ofFiles files).Yields reader memory ((ofFiles files).linkStatement reader memory scope s)
        (Carries ((ofFiles files).Means reader) a s)) ∧
    ∀ memory scope ss index, addressedIn scope index ss ⊆ (ofFiles files).allStatements →
      (ofFiles files).Yields reader memory ((ofFiles files).linkStatements reader memory scope ss)
        (CarriesFrom ((ofFiles files).Means reader) scope index ss) := by
  refine linkStatement.mutual_induct_unfolding (ofFiles files) reader
    (fun memory scope s x => ∀ a, a.scope = scope →
      addressed a s ⊆ (ofFiles files).allStatements →
      (ofFiles files).Yields reader memory x (Carries ((ofFiles files).Means reader) a s))
    (fun memory scope ss x => ∀ index, addressedIn scope index ss ⊆ (ofFiles files).allStatements →
      (ofFiles files).Yields reader memory x
        (CarriesFrom ((ofFiles files).Means reader) scope index ss))
    ?item ?itemFailed ?undefined ?basesFailed ?struct ?childFailed ?noStruct ?extension ?inclusion
    ?nil ?firstFailed ?cons ?restFailed
  case item =>
    intro memory scope id range name type linked m hx a hscope hs hm
    subst hscope
    have hm' := (linkItem_yields _ reader memory a.scope id name type hm).1
    rw [hx] at hm'
    refine ⟨hm', fun l hl => ?_⟩
    cases hl
    exact .item (linkItem_means hb hm (hs (mem_addressed_self a _)) (congrArg Prod.fst hx))
  case itemFailed =>
    intro memory scope id range name type d m hx a hscope hs hm
    have hm' := (linkItem_yields _ reader memory scope id name type hm).1
    rw [hx] at hm'
    exact yields_error hm'
  case undefined => exact fun _ _ _ _ _ _ _ _ _ _ _ _ => yields_error
  case basesFailed =>
    intro memory scope id range name bases metadata children d hd hstruct e m hx a hscope hs hm
    have hm' := (linkBases_yields _ reader memory scope d (holds_of_definitionOf? hd) name bases
      hm).1
    rw [hx] at hm'
    exact yields_error hm'
  case struct =>
    -- the children are linked from what linking the bases remembers
    intro memory scope id range name bases metadata children d hd hstruct linked m hx mirrored m' hc
      ih a hscope hs hm
    subst hscope
    have hm' := (linkBases_yields _ reader memory a.scope d (holds_of_definitionOf? hd) name bases
      hm).1
    rw [hx] at hm'
    rw [hc] at ih
    obtain rfl := eq_of_definitionOf? hb (hs (mem_addressed_self a _)) rfl hd
    obtain ⟨hm'', hchildren⟩ := ih 0 (fun _ hmem => hs (List.mem_cons_of_mem _ hmem)) hm'
    refine ⟨hm'', fun l hl => ?_⟩
    cases hl
    exact .struct (linkBases_means hm (congrArg Prod.fst hx)) (hchildren _ rfl)
  case childFailed =>
    intro memory scope id range name bases metadata children d hd hstruct linked m hx e m' hc ih a
      hscope hs hm
    have hm' := (linkBases_yields _ reader memory scope d (holds_of_definitionOf? hd) name bases
      hm).1
    rw [hx] at hm'
    rw [hc] at ih
    obtain rfl := eq_of_definitionOf? hb (hs (mem_addressed_self a _)) rfl hd
    exact yields_error (ih 0 (fun _ hmem => hs (List.mem_cons_of_mem _ hmem)) hm').1
  case noStruct => exact fun _ _ _ _ _ _ _ _ _ _ _ _ _ _ => yields_error
  case extension =>
    intro memory scope id range call a _ _ hm
    refine ⟨hm, fun l hl => ?_⟩
    cases hl
    exact .extension a id range call
  case inclusion =>
    intro memory scope id range i a _ _ hm
    refine ⟨hm, fun l hl => ?_⟩
    cases hl
    exact .inclusion a id range i
  case nil =>
    intro memory scope index _ hm
    refine ⟨hm, fun l hl => ?_⟩
    cases hl
    exact .nil scope index
  case firstFailed =>
    intro memory scope s rest d m hx ih index hss hm
    rw [hx] at ih
    have hfirst := List.Subset.trans (List.subset_append_left _ _) hss
    exact yields_error (ih (scope.child index) rfl hfirst hm).1
  case cons =>
    intro memory scope s rest first m hx linked m' hrest ihfirst ih index hss hm
    rw [hx] at ihfirst
    rw [hrest] at ih
    obtain ⟨hm', hfirst⟩ := ihfirst (scope.child index) rfl
      (List.Subset.trans (List.subset_append_left _ _) hss) hm
    obtain ⟨hm'', hcarries⟩ := ih (index + 1)
      (List.Subset.trans (List.subset_append_right _ _) hss) hm'
    refine ⟨hm'', fun l hl => ?_⟩
    cases hl
    exact .cons (hfirst _ rfl) (hcarries _ rfl)
  case restFailed =>
    intro memory scope s rest first m hx e m' hrest ihfirst ih index hss hm
    rw [hx] at ihfirst
    rw [hrest] at ih
    have hm' := (ihfirst (scope.child index) rfl
      (List.Subset.trans (List.subset_append_left _ _) hss) hm).1
    exact yields_error (ih (index + 1) (List.Subset.trans (List.subset_append_right _ _) hss) hm').1

/-- A linked file carries what the types of its statements mean to it. -/
theorem linkFile_carries (hb : BuiltInOrder files) {file : Nat} {f : ParsedFile}
    (hf : files[file]? = some f) {root : Root LinkedType}
    (h : (ofFiles files).linkFile file f = .ok root) :
    ∃ source, f.root = .ok source ∧ CarriesFrom ((ofFiles files).Means file) ⟨file, []⟩ 0
      source.statements root.statements := by
  obtain ⟨source, hsource, hlinked⟩ := exists_source_of_linkFile h
  have hcarry := (linkStatements_carry hb file).2 .empty ⟨file, []⟩ source.statements 0
    (addressedIn_root_subset hf hsource) (faithful_empty _ file)
  exact ⟨source, hsource, hcarry.2 _ hlinked⟩

end Table
end Schemata
