import Schemata.LinkedWorkspace

/-!
# What walks find

Types, cardinalities, metadata and literals hold no statements, so a walk that leaves them out still
comes to every structure statement, however deep it is nested. Handles on structures, on the other
hand, stand in types only.

**Results:**
* `LinkedWorkspace.walk_structCollector`: the collector adds the structure statements of a file in
  the order of reading.
* `Statement.mem_handlesOf_of_element`: a handle that is an element of a file stands in one of its
  types.
-/
namespace Schemata

mutual

/-- The structures in a statement, itself included, in the order of reading. -/
def Statement.structs {τ : Type} : Statement τ → List (ElementId × Statement τ)
  | .struct id range name bases metadata children =>
    (id, .struct id range name bases metadata children) :: Statement.structsOf children
  | _ => []

/-- The structures in statements. -/
def Statement.structsOf {τ : Type} : List (Statement τ) → List (ElementId × Statement τ)
  | [] => []
  | s :: ss => s.structs ++ Statement.structsOf ss

end

/-! ## Elements without statements -/

namespace Element

/-- An element that is neither a file nor a statement nor a type. -/
def isPlain : Element → Bool
  | root _ | statement _ | type _ => false
  | _ => true

end Element

namespace Tree

theorem elementsOf_append (ts us : List Tree) :
    elementsOf (ts ++ us) = elementsOf ts ++ elementsOf us := by
  induction ts with
  | nil => rfl
  | cons t ts ih => simp [elementsOf, ih]

theorem mem_elementsOf {ts : List Tree} {e : Element} :
    e ∈ elementsOf ts ↔ ∃ t ∈ ts, e ∈ t.elements := by
  induction ts with
  | nil => simp [elementsOf]
  | cons t ts ih => simp [elementsOf, ih]

mutual

theorem isPlain_of_mem_ofLiteral (l : Literal) {e : Element} (h : e ∈ (ofLiteral l).elements) :
    e.isPlain = true := by
  cases l with
  | tuple p members | list p members =>
    rw [ofLiteral, elements, List.mem_cons] at h
    rcases h with rfl | h
    · rfl
    · exact isPlain_of_mem_ofLiterals members h
  | boolean | integer | number | string =>
    simp only [ofLiteral, elements, elementsOf, List.mem_singleton] at h
    subst h
    rfl

theorem isPlain_of_mem_ofLiterals (ls : List Literal) {e : Element}
    (h : e ∈ elementsOf (ofLiterals ls)) : e.isPlain = true := by
  match ls with
  | [] => cases h
  | l :: rest =>
    rw [ofLiterals, elementsOf, List.mem_append] at h
    rcases h with h | h
    · exact isPlain_of_mem_ofLiteral l h
    · exact isPlain_of_mem_ofLiterals rest h

end

theorem isPlain_of_mem_ofMetadata? {m : Option Metadata} {e : Element}
    (h : e ∈ elementsOf (ofMetadata? m)) : e.isPlain = true := by
  obtain ⟨t, ht, he⟩ := mem_elementsOf.1 h
  obtain ⟨m, -, rfl⟩ : ∃ m', m = some m' ∧ ofMetadata m' = t := by
    simpa [ofMetadata?] using ht
  rw [ofMetadata, elements, List.mem_cons] at he
  rcases he with rfl | he
  · rfl
  · obtain ⟨t, ht, he⟩ := mem_elementsOf.1 he
    obtain ⟨item, -, rfl⟩ := List.mem_map.1 ht
    simp only [elements, elementsOf, List.append_nil, List.mem_cons] at he
    rcases he with rfl | he
    · rfl
    · exact isPlain_of_mem_ofLiteral item.value he

theorem isPlain_of_mem_ofOccurrence {o : Occurrence} {e : Element}
    (h : e ∈ elementsOf (ofOccurrence o)) : e.isPlain = true := by
  rw [ofOccurrence, elementsOf, ofCardinality, elements, List.mem_append, List.mem_cons] at h
  rcases h with (rfl | h) | h
  · rfl
  · exact isPlain_of_mem_ofMetadata? h
  · exact isPlain_of_mem_ofMetadata? h

/-- The arguments of a call are literals. -/
theorem isPlain_of_mem_call {call : Extension} {e : Element}
    (h : e ∈ elementsOf (ofLiterals call.arguments ++ call.named.map ofArgument)) :
    e.isPlain = true := by
  rw [elementsOf_append, List.mem_append] at h
  rcases h with h | h
  · exact isPlain_of_mem_ofLiterals _ h
  · obtain ⟨t, ht, he⟩ := mem_elementsOf.1 h
    obtain ⟨argument, -, rfl⟩ := List.mem_map.1 ht
    simp only [ofArgument, elements, elementsOf, List.append_nil, List.mem_cons] at he
    rcases he with rfl | he
    · rfl
    · exact isPlain_of_mem_ofLiteral _ he

theorem isPlain_of_mem_items {items : List IncludeItem} {e : Element}
    (h : e ∈ elementsOf (items.map fun item => node (.includeItem item) [])) :
    e.isPlain = true := by
  obtain ⟨t, ht, he⟩ := mem_elementsOf.1 h
  obtain ⟨item, -, rfl⟩ := List.mem_map.1 ht
  simp only [elements, elementsOf, List.mem_singleton] at he
  subst he
  rfl

end Tree

/-! ## The collector -/

namespace LinkedWorkspace

/-- What the collector does where an element is entered. -/
theorem walk_node (e : Element) (parts : List Tree)
    (structs : List (ElementId × Statement LinkedType)) :
    structCollector.walk (.node e parts) structs =
      match e with
      | .statement (.struct id range name bases metadata children) =>
        structCollector.walkAll parts
          (addStruct structs (id, .struct id range name bases metadata children))
      | .type _ => (.through, structs)
      | _ => structCollector.walkAll parts structs := by
  rw [Visitor.walk]
  cases e with
  | statement s => cases s <;> rfl
  | _ => rfl

theorem walkAll_nil (structs : List (ElementId × Statement LinkedType)) :
    structCollector.walkAll [] structs = (.through, structs) := by
  rw [Visitor.walkAll]

/-- A tree through which the collector goes is followed by the next one. -/
theorem walkAll_cons {t : Tree} {ts : List Tree}
    {structs structs' : List (ElementId × Statement LinkedType)}
    (h : structCollector.walk t structs = (.through, structs')) :
    structCollector.walkAll (t :: ts) structs = structCollector.walkAll ts structs' := by
  rw [Visitor.walkAll, h]

theorem walkAll_append {ts us : List Tree}
    {structs structs' : List (ElementId × Statement LinkedType)}
    (h : structCollector.walkAll ts structs = (.through, structs')) :
    structCollector.walkAll (ts ++ us) structs = structCollector.walkAll us structs' := by
  induction ts generalizing structs with
  | nil =>
    rw [walkAll_nil] at h
    cases h
    rfl
  | cons t ts ih =>
    rw [Visitor.walkAll] at h
    split at h
    · cases h
    · rename_i between ht
      rw [List.cons_append, walkAll_cons ht]
      exact ih h

mutual

/-- Nothing is collected where there are no statements. -/
theorem walk_of_isPlain (t : Tree) (h : ∀ e ∈ t.elements, e.isPlain = true)
    (structs : List (ElementId × Statement LinkedType)) :
    structCollector.walk t structs = (.through, structs) := by
  match t with
  | .node e parts =>
    rw [Tree.elements, List.forall_mem_cons] at h
    have hparts := walkAll_of_isPlain parts h.2 structs
    rw [walk_node]
    cases e with
    | root | statement | type => cases h.1
    | _ => exact hparts

theorem walkAll_of_isPlain (ts : List Tree) (h : ∀ e ∈ Tree.elementsOf ts, e.isPlain = true)
    (structs : List (ElementId × Statement LinkedType)) :
    structCollector.walkAll ts structs = (.through, structs) := by
  match ts with
  | [] => exact walkAll_nil structs
  | t :: ts =>
    rw [Tree.elementsOf, List.forall_mem_append] at h
    rw [walkAll_cons (walk_of_isPlain t h.1 structs)]
    exact walkAll_of_isPlain ts h.2 structs

end

theorem walk_ofType (type : LinkedType) (structs : List (ElementId × Statement LinkedType)) :
    structCollector.walk (Tree.ofType type) structs = (.through, structs) := by
  cases type <;> rw [Tree.ofType, walk_node]

theorem walkAll_ofTypes (types : List LinkedType)
    (structs : List (ElementId × Statement LinkedType)) :
    structCollector.walkAll (Tree.ofTypes types) structs = (.through, structs) := by
  induction types with
  | nil => exact walkAll_nil structs
  | cons type types ih => rw [Tree.ofTypes, walkAll_cons (walk_ofType type structs), ih]

mutual

/-- The collector adds a structure statement, and then those in it. -/
theorem walk_ofStatement (s : Statement LinkedType)
    (structs : List (ElementId × Statement LinkedType)) :
    structCollector.walk (Tree.ofStatement s) structs =
      (.through, s.structs.foldl addStruct structs) := by
  match s with
  | .item id range name type =>
    rw [Tree.ofStatement, walk_node, walkAll_cons (walk_ofType type structs), walkAll_nil]
    rfl
  | .struct id range name bases metadata children =>
    have hmetadata : ∀ e ∈ Tree.elementsOf (Tree.ofMetadata? metadata), e.isPlain = true :=
      fun _ => Tree.isPlain_of_mem_ofMetadata?
    rw [Tree.ofStatement, walk_node]
    dsimp only
    rw [List.append_assoc, walkAll_append (walkAll_ofTypes bases _),
      walkAll_append (walkAll_of_isPlain _ hmetadata _), walkAll_ofStatements children]
    rfl
  | .extension id range call =>
    rw [Tree.ofStatement, walk_node, walkAll_of_isPlain _ fun _ => Tree.isPlain_of_mem_call]
    rfl
  | .inclusion id range i =>
    rw [Tree.ofStatement, walk_node, walkAll_of_isPlain _ fun _ => Tree.isPlain_of_mem_items]
    rfl

theorem walkAll_ofStatements (ss : List (Statement LinkedType))
    (structs : List (ElementId × Statement LinkedType)) :
    structCollector.walkAll (Tree.ofStatements ss) structs =
      (.through, (Statement.structsOf ss).foldl addStruct structs) := by
  match ss with
  | [] => exact walkAll_nil structs
  | s :: rest =>
    rw [Tree.ofStatements, walkAll_cons (walk_ofStatement s structs),
      walkAll_ofStatements rest, Statement.structsOf, List.foldl_append]

end

/-- The collector adds the structure statements of a file in the order of reading. -/
theorem walk_structCollector (root : Root LinkedType)
    (structs : List (ElementId × Statement LinkedType)) :
    structCollector.walk (Tree.ofRoot root) structs =
      (.through, (Statement.structsOf root.statements).foldl addStruct structs) := by
  rw [Tree.ofRoot, walk_node]
  exact walkAll_ofStatements root.statements structs

end LinkedWorkspace

/-! ## Handles -/

namespace LinkedType

mutual

/-- The handles on structures in a type, as ids and names. -/
def handles : LinkedType → List (ElementId × Identifier)
  | fundamental .. => []
  | struct _ id name => [(id, name)]
  | tuple _ members => handlesOf members
  | variant _ members => handlesOf members
  | .alias _ _ aliased => aliased.handles

/-- The handles in types, one after the other. -/
def handlesOf : List LinkedType → List (ElementId × Identifier)
  | [] => []
  | t :: ts => t.handles ++ handlesOf ts

end

theorem handles_withOccurrence (t : LinkedType) (o : Occurrence) :
    (t.withOccurrence o).handles = t.handles := by
  cases t <;> rfl

/-- The structure behind a chain of aliases is one of the handles. -/
theorem mem_handles_of_structure? (t : LinkedType) {s : ElementId × Identifier}
    (h : t.structure? = some s) : s ∈ t.handles := by
  unfold structure? at h
  induction t using target.induct with
  | case1 o name aliased ih => exact ih h
  | case2 t hchain =>
    cases t with
    | struct o id name =>
      cases h
      exact List.mem_singleton_self _
    | «alias» o name aliased => exact absurd rfl (hchain o name aliased)
    | fundamental | tuple | variant => cases h

mutual

/-- An element of a type that is a handle is among its handles. -/
theorem mem_handles_of_element (t : LinkedType) {o : Occurrence} {id : ElementId}
    {name : Identifier} (h : Element.type (.struct o id name) ∈ (Tree.ofType t).elements) :
    (id, name) ∈ t.handles := by
  have hplain : ∀ o', Element.type (.struct o id name) ∉ Tree.elementsOf (Tree.ofOccurrence o') :=
    fun o' hm => by cases Tree.isPlain_of_mem_ofOccurrence hm
  match t with
  | .fundamental o' f =>
    rw [Tree.ofType, Tree.elements, List.mem_cons] at h
    rcases h with h | h
    · cases h
    · exact absurd h (hplain o')
  | .struct o' id' name' =>
    rw [Tree.ofType, Tree.elements, List.mem_cons] at h
    rcases h with h | h
    · cases h
      exact List.mem_singleton_self _
    · exact absurd h (hplain o')
  | .tuple o' members | .variant o' members =>
    rw [Tree.ofType, Tree.elements, List.mem_cons, Tree.elementsOf_append, List.mem_append] at h
    rcases h with h | h | h
    · cases h
    · exact absurd h (hplain o')
    · exact mem_handlesOf_of_element members h
  | .alias o' name' aliased =>
    rw [Tree.ofType, Tree.elements, List.mem_cons, Tree.elementsOf_append, List.mem_append] at h
    rcases h with h | h | h
    · cases h
    · exact absurd h (hplain o')
    · simp only [Tree.elementsOf, List.append_nil] at h
      exact mem_handles_of_element aliased h

theorem mem_handlesOf_of_element (ts : List LinkedType) {o : Occurrence} {id : ElementId}
    {name : Identifier}
    (h : Element.type (.struct o id name) ∈ Tree.elementsOf (Tree.ofTypes ts)) :
    (id, name) ∈ handlesOf ts := by
  match ts with
  | [] => cases h
  | t :: rest =>
    rw [Tree.ofTypes, Tree.elementsOf, List.mem_append] at h
    rw [handlesOf, List.mem_append]
    rcases h with h | h
    · exact .inl (mem_handles_of_element t h)
    · exact .inr (mem_handlesOf_of_element rest h)

end

end LinkedType

namespace Statement

mutual

/-- The handles in the types of a statement. -/
def handles : Statement LinkedType → List (ElementId × Identifier)
  | item _ _ _ type => type.handles
  | struct _ _ _ bases _ children => LinkedType.handlesOf bases ++ handlesOf children
  | extension .. => []
  | inclusion .. => []

/-- The handles in the types of statements, one after the other. -/
def handlesOf : List (Statement LinkedType) → List (ElementId × Identifier)
  | [] => []
  | s :: ss => s.handles ++ handlesOf ss

end

mutual

theorem mem_handles_of_element (s : Statement LinkedType) {o : Occurrence} {id : ElementId}
    {name : Identifier} (h : Element.type (.struct o id name) ∈ (Tree.ofStatement s).elements) :
    (id, name) ∈ s.handles := by
  match s with
  | .item _ _ _ type =>
    simp only [Tree.ofStatement, Tree.elements, Tree.elementsOf, List.append_nil,
      List.mem_cons] at h
    rcases h with h | h
    · cases h
    · exact type.mem_handles_of_element h
  | .struct _ _ _ bases metadata children =>
    rw [Tree.ofStatement, Tree.elements, List.mem_cons, Tree.elementsOf_append, List.mem_append,
      Tree.elementsOf_append, List.mem_append] at h
    rw [handles, List.mem_append]
    rcases h with h | (h | h) | h
    · cases h
    · exact .inl (LinkedType.mem_handlesOf_of_element bases h)
    · cases Tree.isPlain_of_mem_ofMetadata? h
    · exact .inr (mem_handlesOf_of_element children h)
  | .extension _ _ call =>
    rw [Tree.ofStatement, Tree.elements, List.mem_cons] at h
    rcases h with h | h
    · cases h
    · cases Tree.isPlain_of_mem_call h
  | .inclusion _ _ i =>
    rw [Tree.ofStatement, Tree.elements, List.mem_cons] at h
    rcases h with h | h
    · cases h
    · cases Tree.isPlain_of_mem_items h

/-- A handle that is an element of statements stands in one of their types. -/
theorem mem_handlesOf_of_element (ss : List (Statement LinkedType)) {o : Occurrence}
    {id : ElementId} {name : Identifier}
    (h : Element.type (.struct o id name) ∈ Tree.elementsOf (Tree.ofStatements ss)) :
    (id, name) ∈ handlesOf ss := by
  match ss with
  | [] => cases h
  | s :: rest =>
    rw [Tree.ofStatements, Tree.elementsOf, List.mem_append] at h
    rw [handlesOf, List.mem_append]
    rcases h with h | h
    · exact .inl (mem_handles_of_element s h)
    · exact .inr (mem_handlesOf_of_element rest h)

end

end Statement
end Schemata
