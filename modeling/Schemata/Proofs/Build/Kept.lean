import Schemata.Proofs.Build.Constraints
import Schemata.Source
import Schemata.Statement
import Mathlib.Data.List.Forall2
import Mathlib.Data.Option.Basic

/-!
# What is kept of a source

A source and a built tree that have the same nodes in the same order, with the same coordinates,
texts, literals and flags. They differ in little: cardinalities and bounds that are not written are
there, blocks of types and cardinalities in which nothing is left are not, the plain name of a
fundamental type stands for the type with the constraints that were said of it, and what an include
takes over has a name of its own. Nothing is said here about building.

**Results:**
* `Source.Metadata.terms_of_kept`: a block that is kept says what its source says.
* `Source.Statement.scopeNames_of_kept`: a statement that is kept brings the names of its source
  into its scope.
-/
namespace Schemata

/-- What belongs together looks the same. -/
theorem map_eq_of_forall₂ {α β γ : Type} {S : α → β → Prop} {f : α → γ} {g : β → γ} {as : List α}
    {bs : List β} (h : List.Forall₂ S as bs) (hs : ∀ a b, S a b → g b = f a) :
    bs.map g = as.map f := by
  induction h with
  | nil => rfl
  | cons h _ ih => rw [List.map_cons, List.map_cons, hs _ _ h, ih]

/-- What belongs to something is not there without it. -/
theorem exists_of_mem_forall₂ {α β : Type} {S : α → β → Prop} {as : List α} {bs : List β}
    (h : List.Forall₂ S as bs) {b : β} (hb : b ∈ bs) : ∃ a ∈ as, S a b := by
  induction h with
  | nil => cases hb
  | cons h _ ih =>
    rcases List.mem_cons.1 hb with rfl | hb
    · exact ⟨_, List.mem_cons_self, h⟩
    · obtain ⟨a, ha, hab⟩ := ih hb
      exact ⟨a, List.mem_cons_of_mem _ ha, hab⟩

/-- The range has the coordinates of the span. -/
structure Span.Marks (file : Path) (s : Span) (r : Range) : Prop where
  file : r.file = file
  startLine : r.start.line = s.startLine
  startColumn : r.start.column = s.startColumn
  stopLine : r.stop.line = s.stopLine
  stopColumn : r.stop.column = s.stopColumn

/-- The same literal, node by node, at places that belong together. -/
inductive Expression.Alike {ρ σ : Type} (P : ρ → σ → Prop) : Expression ρ → Expression σ → Prop where
  | boolean {p : ρ} {q : σ} (place : P p q) (value : Bool) :
      Alike P (.boolean p value) (.boolean q value)
  | integer {p : ρ} {q : σ} (place : P p q) (value : Int64) :
      Alike P (.integer p value) (.integer q value)
  | number {p : ρ} {q : σ} (place : P p q) (value : Float) :
      Alike P (.number p value) (.number q value)
  | string {p : ρ} {q : σ} (place : P p q) (value : String) :
      Alike P (.string p value) (.string q value)
  | tuple {p : ρ} {q : σ} {as : List (Expression ρ)} {bs : List (Expression σ)} (place : P p q)
      (members : List.Forall₂ (Alike P) as bs) : Alike P (.tuple p as) (.tuple q bs)
  | list {p : ρ} {q : σ} {as : List (Expression ρ)} {bs : List (Expression σ)} (place : P p q)
      (elements : List.Forall₂ (Alike P) as bs) : Alike P (.list p as) (.list q bs)

namespace Expression
variable {ρ σ : Type} {P : ρ → σ → Prop}

mutual

theorem Alike.shape_eq {a : Expression ρ} {b : Expression σ} (h : a.Alike P b) :
    b.shape = a.shape := by
  cases h with
  | boolean | integer | number | string => rfl
  | tuple _ members => rw [shape, shape, shapes_eq_of_alike members]
  | list _ elements => rw [shape, shape, shapes_eq_of_alike elements]

theorem shapes_eq_of_alike {as : List (Expression ρ)} {bs : List (Expression σ)}
    (h : List.Forall₂ (Alike P) as bs) : shapes bs = shapes as := by
  cases h with
  | nil => rfl
  | cons h hs => rw [shapes, shapes, h.shape_eq, shapes_eq_of_alike hs]

end

end Expression

namespace Source

section

variable (file : Path)

/-- The name is read as its text, and its visibility off its markers. -/
structure Name.Kept (n : Name) (i : Identifier) : Prop where
  range : n.span.Marks file i.range
  text : i.value = n.text
  name : i.name = n.key
  visibility : i.visibility = .ofMarkerCount i.markers.length

/-- The place, the name and the literal of a named literal. -/
structure NamedLiteral.Kept (n : NamedLiteral) (place : Range) (name : Identifier)
    (value : Schemata.Literal) : Prop where
  place : n.span.Marks file place
  name : n.name.Kept file name
  value : n.value.Alike (Span.Marks file) value

/-- The items of some named literals, in order. -/
abbrev NamedLiteral.AllKept : List NamedLiteral → List MetadataItem → Prop :=
  List.Forall₂ fun n item => n.Kept file item.range item.name item.value

/-- The block with all its items. -/
structure Metadata.Kept (m : Metadata) (block : Schemata.Metadata) : Prop where
  range : m.span.Marks file block.range
  items : NamedLiteral.AllKept file m.items block.items

/-- What is left of an optional block without the items of some names: the others in their order,
and nothing if there are no others. -/
inductive Metadata.Left (taken : List String) :
    Option Metadata → Option Schemata.Metadata → Prop where
  | none : Left taken none none
  | gone {m : Metadata} (h : ∀ n ∈ m.items, n.name.key ∈ taken) : Left taken (some m) none
  | rest {m : Metadata} {block : Schemata.Metadata} (range : m.span.Marks file block.range)
      (items : NamedLiteral.AllKept file (m.items.filter (·.name.key ∉ taken)) block.items)
      (ne_nil : block.items ≠ []) : Left taken (some m) (some block)

/-- A bound with its place. -/
structure Bound.Kept (b : Bound) (l : IntegerLiteral) : Prop where
  range : b.span.Marks file l.range
  value : l.value = b.value

/-- The bounds of a cardinality at a range: one that is not written is 0 or unlimited, and if none
is written, exactly one value is meant. -/
inductive Bound.Defaulted (r : Range) :
    Option Bound → Option Bound → IntegerLiteral → Option IntegerLiteral → Prop where
  | neither : Defaulted r none none ⟨r, 1⟩ (some ⟨r, 1⟩)
  | greatest {b : Bound} {l : IntegerLiteral} (h : b.Kept file l) :
      Defaulted r none (some b) ⟨r, 0⟩ (some l)
  | least {b : Bound} {l : IntegerLiteral} (h : b.Kept file l) : Defaulted r (some b) none l none
  | both {b b' : Bound} {l l' : IntegerLiteral} (h : b.Kept file l) (h' : b'.Kept file l') :
      Defaulted r (some b) (some b') l (some l')

/-- The cardinality of a type at a range: the one that is written, or exactly one value. -/
inductive Cardinality.Kept (r : Range) : Option Cardinality → Schemata.Cardinality → Prop where
  | absent : Kept r none ⟨r, ⟨r, 1⟩, some ⟨r, 1⟩, none⟩
  | written {c : Cardinality} {built : Schemata.Cardinality}
      (range : c.span.Marks file built.range)
      (bounds : Bound.Defaulted file built.range c.min c.max built.min built.max)
      (metadata : Metadata.Left file [] c.metadata built.metadata) : Kept r (some c) built

/-- What every type has, without the items of some names. -/
structure Header.Kept (taken : List String) (h : Header) (o : Occurrence) : Prop where
  range : h.span.Marks file o.range
  cardinality : Cardinality.Kept file o.range h.cardinality o.cardinality
  metadata : Metadata.Left file taken h.metadata o.metadata

/-- A type, node by node. The plain name of a fundamental type is that type, and the constraints are
taken out of its block. -/
inductive TypeExpr.Kept : TypeExpr → WrittenType → Prop where
  | fundamental {h : Header} {n : Name} {o : Occurrence} {type : Fundamental}
      (reserved : n.text ∈ reservedNames) (header : h.Kept file (constraintNames n.text) o)
      (name : type.name = n.text) (said : type.SaidBy (Metadata.terms h.metadata)) :
      Kept (.reference h [n] false false) (.fundamental o type)
  | reference {h : Header} {ns : List Name} {isGlobal isElement : Bool} {o : Occurrence}
      {segments : List Identifier}
      (free : ∀ n, ns = [n] → isGlobal = false → isElement = false → n.text ∉ reservedNames)
      (header : h.Kept file [] o) (names : List.Forall₂ (Name.Kept file) ns segments) :
      Kept (.reference h ns isGlobal isElement) (.reference o ⟨segments, isGlobal, isElement⟩)
  | tuple {h : Header} {es : List TypeExpr} {o : Occurrence} {ts : List WrittenType}
      (header : h.Kept file [] o) (members : List.Forall₂ Kept es ts) :
      Kept (.tuple h es) (.tuple o ts)
  | variant {h : Header} {es : List TypeExpr} {o : Occurrence} {ts : List WrittenType}
      (header : h.Kept file [] o) (members : List.Forall₂ Kept es ts) :
      Kept (.variant h es) (.variant o ts)

/-- The name of an element in the including file: the one that is written, or the name of the
element as a private one. -/
inductive IncludeItem.ReferenceKept (element : Identifier) : Option Name → Identifier → Prop where
  | written {n : Name} {i : Identifier} (h : n.Kept file i) : ReferenceKept element (some n) i
  | derived : ReferenceKept element none ⟨element.range, "", element.name, .isPrivate⟩

/-- An element taken over by an include. -/
structure IncludeItem.Kept (i : IncludeItem) (built : Schemata.IncludeItem) : Prop where
  range : i.span.Marks file built.range
  element : i.element.Kept file built.element
  reference : IncludeItem.ReferenceKept file built.element i.reference built.reference

/-- A statement, node by node. -/
inductive Statement.Kept : Statement → Schemata.Statement WrittenType → Prop where
  | item {span : Span} {n : Name} {e : TypeExpr} {id : ElementId} {r : Range} {i : Identifier}
      {t : WrittenType} (range : span.Marks file r) (name : n.Kept file i) (type : e.Kept file t) :
      Kept (.item span n e) (.item id r i t)
  | struct {span : Span} {n : Name} {es : List TypeExpr} {m : Option Metadata}
      {ss : List Statement} {id : ElementId} {r : Range} {i : Identifier} {ts : List WrittenType}
      {block : Option Schemata.Metadata} {built : List (Schemata.Statement WrittenType)}
      (range : span.Marks file r) (name : n.Kept file i)
      (bases : List.Forall₂ (TypeExpr.Kept file) es ts)
      (metadata : Option.Rel (Metadata.Kept file) m block)
      (children : List.Forall₂ Kept ss built) :
      Kept (.struct span n es m ss) (.struct id r i ts block built)
  | extension {span : Span} {n : Name} {es : List Literal} {named : List NamedLiteral}
      {id : ElementId} {r : Range} {i : Identifier} {ls : List Schemata.Literal}
      {as : List KeywordArgument} (range : span.Marks file r) (name : n.Kept file i)
      (arguments : List.Forall₂ (Expression.Alike (Span.Marks file)) es ls)
      (keywords : List.Forall₂ (fun n a => n.Kept file a.range a.name a.value) named as) :
      Kept (.extension span n es named) (.extension id r ⟨i, ls, as⟩)
  | inclusion {span filenameSpan : Span} {filename : String} {items : List IncludeItem}
      {id : ElementId} {r filenameRange : Range} {built : List Schemata.IncludeItem}
      (range : span.Marks file r) (place : filenameSpan.Marks file filenameRange)
      (elements : List.Forall₂ (IncludeItem.Kept file) items built) :
      Kept (.inclusion span filenameSpan filename items)
        (.inclusion id r ⟨filename, filenameRange, built⟩)

/-- The statements of a file, one by one, in a root that reaches from the start of the file over all
of them. -/
structure Statement.RootKept (ss : List Statement) (root : Root WrittenType) : Prop where
  statements : List.Forall₂ (Statement.Kept file) ss root.statements
  place : root.range.file = file
  start : root.range.start = .first
  contains : ∀ s ∈ root.statements, root.range.contains s.range = true

end

variable {file : Path}

/-! ## What blocks say, and which names a scope has -/

theorem NamedLiteral.find?_of_allKept {ns : List NamedLiteral} {items : List MetadataItem}
    (h : AllKept file ns items) (name : String) :
    (items.find? (·.key = name)).map (·.value.shape) =
      (ns.find? (·.name.key = name)).map (·.value.shape) := by
  induction h with
  | nil => rfl
  | @cons n item _ _ h _ ih =>
    have hkey : item.key = n.name.key := h.name.name
    rw [List.find?_cons, List.find?_cons, hkey]
    by_cases hn : n.name.key = name
    · simp [hn, h.value.shape_eq]
    · simpa [hn] using ih

/-- A block that is kept says what its source says. -/
theorem Metadata.terms_of_kept {m : Option Metadata} {block : Option Schemata.Metadata}
    (h : Option.Rel (Metadata.Kept file) m block) :
    Schemata.Metadata.terms block = Metadata.terms m := by
  cases h with
  | none => rfl
  | some h =>
    funext name
    exact NamedLiteral.find?_of_allKept h.items name

theorem IncludeItem.Kept.reference_name_eq {i : IncludeItem} {built : Schemata.IncludeItem}
    (h : i.Kept file built) : built.reference.name = (i.reference.getD i.element).key := by
  obtain ⟨-, helement, hreference⟩ := h
  generalize i.reference = written, built.reference = name at hreference
  cases hreference with
  | written h => exact h.name
  | derived => exact helement.name

/-- A type that is kept is a variant exactly if its source is. -/
theorem TypeExpr.Kept.isVariant_eq {e : TypeExpr} {t : WrittenType} (h : e.Kept file t) :
    t.isVariant = e.isVariant := by
  cases h <;> rfl

theorem Statement.Kept.marks {s : Statement} {built : Schemata.Statement WrittenType}
    (h : s.Kept file built) : s.span.Marks file built.range := by
  cases h with
  | item range | struct range | extension range | inclusion range => exact range

/-- A statement that is kept brings the names of its source into its scope. -/
theorem Statement.Kept.scopeNames_eq {s : Statement} {built : Schemata.Statement WrittenType}
    (h : s.Kept file built) :
    built.scopeNames.map Identifier.name = s.scopeNames.map Name.key := by
  cases h with
  | item _ name => exact congrArg ([·]) name.name
  | struct _ name => exact congrArg ([·]) name.name
  | extension => rfl
  | inclusion _ _ elements =>
    rw [Statement.scopeNames, Schemata.Statement.scopeNames, List.map_map, List.map_map]
    exact map_eq_of_forall₂ elements fun _ _ h => h.reference_name_eq

end Source
end Schemata
