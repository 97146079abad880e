import Schemata.Proofs.Walk.Trace

/-!
# What an element owns

An element owns its parts: a field its type, a structure its bases, its metadata and its children, a
type its cardinality, its metadata and its members, and so on down to literals. The tree of an
element is what is owned in this way, and its lineages list every owned element once, parents before
children and children in the order of declaration.

**Results:**
* `Tree.ofElement_eq`: the tree of an element has the trees of its parts.
* `Tree.mem_lineages_iff_owned`: the lineages of a tree are those of the elements that are owned.
* `Tree.lineages_ascending`: they are in the order of reading.
-/
namespace Schemata

/-- What a type has besides its cardinality and metadata. -/
def LinkedType.partsWithin : LinkedType → List Element
  | .fundamental .. | .struct .. => []
  | .tuple _ members | .variant _ members => members.map .type
  | .alias _ _ aliased => [.type aliased]

/-- The members of a tuple or a list. -/
def Literal.partsWithin : Literal → List Element
  | .tuple _ members => members.map .expression
  | .list _ elements => elements.map .expression
  | _ => []

/-- What a statement owns. -/
def Statement.parts : Statement LinkedType → List Element
  | .item _ _ _ type => [.type type]
  | .struct _ _ _ bases metadata children =>
    bases.map .type ++ metadata.toList.map .metadata ++ children.map .statement
  | .extension _ _ call =>
    call.arguments.map .expression ++ call.named.map .keywordArgument
  | .inclusion _ _ i => i.items.map .includeItem

/-- What an element owns itself, in the order of declaration. -/
def Element.parts : Element → List Element
  | root r => r.statements.map .statement
  | statement s => s.parts
  | includeItem _ => []
  | type t =>
    .cardinality t.occurrence.cardinality ::
      (t.occurrence.metadata.toList.map .metadata ++ t.partsWithin)
  | cardinality c => c.metadata.toList.map .metadata
  | metadata m => m.items.map .metadataItem
  | metadataItem i => [.expression i.value]
  | keywordArgument a => [.expression a.value]
  | expression e => Literal.partsWithin e

/-- From a lineage on, the lineages of what its element owns at any depth, itself included. -/
inductive Owned (start : Lineage) : Lineage → Prop where
  | start : Owned start start
  | part {index position : Nat} {e f : Element} {above : Lineage}
      (h : Owned start ((index, e) :: above)) (hf : e.parts[position]? = some f) :
      Owned start ((position, f) :: (index, e) :: above)

/-- The first lineage is read before the second one: it is that of an element around the other, or
it branches off at an earlier position. -/
def Lineage.Before (l m : Lineage) : Prop :=
  (∃ below, below ≠ [] ∧ m = below ++ l) ∨
    ∃ i j e f above below below', i < j ∧ l = below ++ (i, e) :: above ∧
      m = below' ++ (j, f) :: above

theorem Lineage.ne_of_position {i j : Nat} {e f : Element} {above below below' : Lineage}
    (h : i ≠ j) : below ++ (i, e) :: above ≠ below' ++ (j, f) :: above := by
  intro heq
  have hlen : ((i, e) :: above).length = ((j, f) :: above).length := rfl
  have := (List.append_inj' heq hlen).2
  simp_all

theorem Lineage.Before.ne {l m : Lineage} (h : l.Before m) : l ≠ m := by
  rcases h with ⟨below, hne, rfl⟩ | ⟨i, j, e, f, above, below, below', hij, rfl, rfl⟩
  · intro heq
    exact hne (List.self_eq_append_left.1 heq)
  · exact ne_of_position (Nat.ne_of_lt hij)

/-! ## Trees of elements -/

namespace Tree

/-- The tree of an element. -/
def ofElement : Element → Tree
  | .root r => ofRoot r
  | .statement s => ofStatement s
  | .includeItem i => node (.includeItem i) []
  | .type t => ofType t
  | .cardinality c => ofCardinality c
  | .metadata m => ofMetadata m
  | .metadataItem i => node (.metadataItem i) [ofLiteral i.value]
  | .keywordArgument a => ofArgument a
  | .expression e => ofLiteral e

theorem ofLiterals_eq_map (ls : List Literal) : ofLiterals ls = ls.map ofLiteral := by
  induction ls with
  | nil => rfl
  | cons l ls ih => simp [ofLiterals, ih]

theorem ofMetadata?_eq_map (m : Option Metadata) :
    ofMetadata? m = (m.toList.map Element.metadata).map ofElement := by
  cases m <;> rfl

theorem ofOccurrence_eq_map (o : Occurrence) :
    ofOccurrence o =
      (.cardinality o.cardinality :: o.metadata.toList.map Element.metadata).map ofElement := by
  rw [ofOccurrence, ofMetadata?_eq_map]
  rfl

/-- The tree of an element has the trees of its parts. -/
theorem ofElement_eq (e : Element) : ofElement e = node e (e.parts.map ofElement) := by
  cases e with
  | root r =>
    simp only [ofElement, ofRoot, ofStatements_eq_map, Element.parts, List.map_map]
    rfl
  | statement s =>
    cases s with
    | item => rfl
    | struct id range name bases metadata children =>
      simp only [ofElement, ofStatement, ofTypes_eq_map, ofStatements_eq_map, ofMetadata?_eq_map,
        Element.parts, Statement.parts, List.map_append, List.map_map]
      rfl
    | extension id range call =>
      simp only [ofElement, ofStatement, ofLiterals_eq_map, Element.parts, Statement.parts,
        List.map_append, List.map_map]
      rfl
    | inclusion id range i =>
      simp only [ofElement, ofStatement, Element.parts, Statement.parts, List.map_map]
      rfl
  | includeItem => rfl
  | type t =>
    cases t <;>
      simp only [ofElement, ofType, ofTypes_eq_map, ofOccurrence_eq_map, Element.parts,
        LinkedType.occurrence, LinkedType.partsWithin, List.map_cons, List.map_append, List.map_map,
        List.append_nil, List.cons_append, List.map_nil] <;>
      rfl
  | cardinality c =>
    simp only [ofElement, ofCardinality, ofMetadata?_eq_map, Element.parts]
  | metadata m =>
    simp only [ofElement, ofMetadata, Element.parts, List.map_map]
    rfl
  | metadataItem => rfl
  | keywordArgument => rfl
  | expression l =>
    cases l <;>
      simp only [ofElement, ofLiteral, ofLiterals_eq_map, Element.parts, Literal.partsWithin,
        List.map_map, List.map_nil] <;>
      rfl

theorem element_ofElement (e : Element) : (ofElement e).element = e := by
  rw [ofElement_eq]
  rfl

end Tree

section Induction

variable {P : Element → Prop}

mutual

theorem Tree.element_induction (h : ∀ e, (∀ f ∈ e.parts, P f) → P e) (t : Tree) (e : Element)
    (ht : Tree.ofElement e = t) : P e := by
  match t with
  | .node _ parts =>
    rw [Tree.ofElement_eq] at ht
    injection ht with _ hparts
    exact h e (elements_induction h parts e.parts hparts)

theorem Tree.elements_induction (h : ∀ e, (∀ f ∈ e.parts, P f) → P e) (ts : List Tree)
    (es : List Element) (hts : es.map Tree.ofElement = ts) : ∀ e ∈ es, P e := by
  match ts, es with
  | _, [] => exact nofun
  | t :: ts, e :: es =>
    rw [List.map_cons, List.cons.injEq] at hts
    rw [List.forall_mem_cons]
    exact ⟨element_induction h t e hts.1, elements_induction h ts es hts.2⟩

end

/-- What holds of an element if it holds of its parts holds of every element. -/
theorem Element.induction (h : ∀ e, (∀ f ∈ e.parts, P f) → P e) (e : Element) : P e :=
  Tree.element_induction h (Tree.ofElement e) e rfl

end Induction

/-! ## Lineages -/

namespace Tree

mutual

/-- The lineages of the elements of a tree, the first of which has the given one. -/
def lineages (l : Lineage) : Tree → List Lineage
  | node _ parts => l :: lineagesOf l 0 parts

/-- The lineages of the elements of trees that are the parts of an element from a position on. -/
def lineagesOf (l : Lineage) (index : Nat) : List Tree → List Lineage
  | [] => []
  | t :: ts => t.lineages ((index, t.element) :: l) ++ lineagesOf l (index + 1) ts

end

mutual

theorem exists_below (t : Tree) {l m : Lineage} (hm : m ∈ t.lineages l) :
    ∃ below, m = below ++ l := by
  match t with
  | .node e parts =>
    rw [lineages, List.mem_cons] at hm
    rcases hm with rfl | hm
    · exact ⟨[], rfl⟩
    · obtain ⟨below, position, f, -, rfl⟩ := exists_position parts hm
      exact ⟨below ++ [(position, f)], by simp⟩

theorem exists_position (ts : List Tree) {l m : Lineage} {index : Nat}
    (hm : m ∈ lineagesOf l index ts) :
    ∃ below position f, index ≤ position ∧ m = below ++ (position, f) :: l := by
  match ts with
  | [] => cases hm
  | t :: ts =>
    rw [lineagesOf, List.mem_append] at hm
    rcases hm with hm | hm
    · obtain ⟨below, rfl⟩ := exists_below t hm
      exact ⟨below, index, t.element, Nat.le_refl _, rfl⟩
    · obtain ⟨below, position, f, hle, rfl⟩ := exists_position ts hm
      exact ⟨below, position, f, by omega, rfl⟩

end

mutual

/-- The lineages of a tree are in the order of reading. -/
theorem lineages_ascending (t : Tree) (l : Lineage) : (t.lineages l).Pairwise Lineage.Before := by
  match t with
  | .node e parts =>
    rw [lineages, List.pairwise_cons]
    refine ⟨fun m hm => .inl ?_, lineagesOf_ascending parts l 0⟩
    obtain ⟨below, position, f, -, rfl⟩ := exists_position parts hm
    exact ⟨below ++ [(position, f)], by simp, by simp⟩

theorem lineagesOf_ascending (ts : List Tree) (l : Lineage) (index : Nat) :
    (lineagesOf l index ts).Pairwise Lineage.Before := by
  match ts with
  | [] => exact .nil
  | t :: ts =>
    rw [lineagesOf, List.pairwise_append]
    refine ⟨lineages_ascending t _, lineagesOf_ascending ts l (index + 1), fun m hm n hn => ?_⟩
    obtain ⟨below, rfl⟩ := exists_below t hm
    obtain ⟨below', position, f, hle, rfl⟩ := exists_position ts hn
    exact .inr ⟨index, position, t.element, f, l, below, below', by omega, rfl, rfl⟩

end

theorem mem_lineagesOf_map {l m : Lineage} {es : List Element} {index : Nat} :
    m ∈ lineagesOf l index (es.map ofElement) ↔
      ∃ position f, es[position]? = some f ∧
        m ∈ (ofElement f).lineages ((index + position, f) :: l) := by
  induction es generalizing index with
  | nil => simp [lineagesOf]
  | cons e es ih =>
    rw [List.map_cons, lineagesOf, List.mem_append, ih, element_ofElement]
    constructor
    · rintro (h | ⟨position, f, hf, h⟩)
      · exact ⟨0, e, rfl, h⟩
      · refine ⟨position + 1, f, hf, ?_⟩
        rwa [Nat.add_right_comm] at h
    · rintro ⟨position, f, hf, h⟩
      cases position with
      | zero =>
        cases hf
        exact .inl h
      | succ position =>
        refine .inr ⟨position, f, hf, ?_⟩
        rwa [Nat.add_right_comm]

/-- The lineages of an element are its own one and those of its parts. -/
theorem mem_lineages_ofElement {l m : Lineage} {e : Element} :
    m ∈ (ofElement e).lineages l ↔
      m = l ∨ ∃ position f, e.parts[position]? = some f ∧
        m ∈ (ofElement f).lineages ((position, f) :: l) := by
  rw [ofElement_eq, lineages, List.mem_cons, mem_lineagesOf_map]
  simp only [Nat.zero_add]

theorem mem_lineages_part {e f g : Element} {l above : Lineage} {index position : Nat}
    (h : (index, f) :: above ∈ (ofElement e).lineages l)
    (hl : ∀ i e' rest, l = (i, e') :: rest → e' = e) (hne : l ≠ [])
    (hg : f.parts[position]? = some g) :
    (position, g) :: (index, f) :: above ∈ (ofElement e).lineages l := by
  induction e using Element.induction generalizing l with
  | h e ih =>
    rw [mem_lineages_ofElement] at h ⊢
    rcases h with rfl | ⟨k, p, hp, h⟩
    · obtain rfl := hl index f above rfl
      exact .inr ⟨position, g, hg, mem_lineages_ofElement.2 (.inl rfl)⟩
    · refine .inr ⟨k, p, hp, ih p (List.mem_of_getElem? hp) h ?_ nofun⟩
      intro i e' rest heq
      cases heq
      rfl

/-- The lineages of the tree of an element are those of the elements that it owns. -/
theorem mem_lineages_iff_owned {e : Element} {index : Nat} {above m : Lineage} :
    m ∈ (ofElement e).lineages ((index, e) :: above) ↔ Owned ((index, e) :: above) m := by
  constructor
  · intro h
    suffices ∀ start, Owned start ((index, e) :: above) → Owned start m from this _ .start
    induction e using Element.induction generalizing index above with
    | h e ih =>
      intro start hstart
      rw [mem_lineages_ofElement] at h
      rcases h with rfl | ⟨position, f, hf, h⟩
      · exact hstart
      · exact ih f (List.mem_of_getElem? hf) h start (hstart.part hf)
  · intro h
    induction h with
    | start => exact mem_lineages_ofElement.2 (.inl rfl)
    | part _ hf ih =>
      refine mem_lineages_part ih ?_ nofun hf
      intro i e' rest heq
      cases heq
      rfl

end Tree
end Schemata
