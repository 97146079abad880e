import Schemata.Source
import Schemata.Statement
import Schemata.Fundamental.Constraints

/-!
# Building a file

A source tree is checked node by node, and the first violation ends the build. What is built has
validated places and names, and every statement and type node has an id: the ids of a file number
its elements in the order in which a reader meets them, so the number of a node is one more than the
number of elements before it.

Names in code font are those of the functions that a definition embeds; all but the checks are
methods of `Builder`, whose counter of ids is passed on as a number.

Results: `checkUniqueNames_eq_ok_iff` (what a scope may define).
-/
namespace Schemata

/-- The file that is built. -/
structure BuildTarget where
  file : Path
  /-- Its ordinal in the workspace. -/
  ordinal : Nat
  deriving Inhabited

namespace Build

/-- The range of a span (`range`). Bad coordinates are a fault of the grammar, reported for the whole
file. -/
def range (file : Path) (span : Span) : Except Diagnostic Range :=
  match span.toRange file with
  | .ok r => .ok r
  | .error fault => .error (.located (.fileStart file) (.grammar fault.message))

/-- A name (`build_identifier`). -/
def identifier (file : Path) (name : Source.Name) : Except Diagnostic Identifier := do
  let r ← range file name.span
  Identifier.parse r name.text

/-- A literal (`build_expression`). -/
def literal (file : Path) (e : Source.Literal) : Except Diagnostic Literal :=
  e.mapPlaces (range file)

/-- The place, the name and the literal of a named literal. -/
def namedLiteral (file : Path) (n : Source.NamedLiteral) :
    Except Diagnostic (Range × Identifier × Literal) := do
  let r ← range file n.span
  let name ← identifier file n.name
  let value ← literal file n.value
  return (r, name, value)

/-- A metadata item. -/
def metadataItem (file : Path) (n : Source.NamedLiteral) : Except Diagnostic MetadataItem := do
  let (r, name, value) ← namedLiteral file n
  return ⟨r, name, value⟩

/-- A keyword argument. -/
def keywordArgument (file : Path) (n : Source.NamedLiteral) :
    Except Diagnostic KeywordArgument := do
  let (r, name, value) ← namedLiteral file n
  return ⟨r, name, value⟩

/-- A metadata block (`build_metadata`). -/
def metadata (file : Path) (m : Source.Metadata) : Except Diagnostic Metadata := do
  let r ← range file m.span
  let items ← m.items.mapM (metadataItem file)
  Metadata.create r items

/-- What may be missing. -/
def optional {α β : Type} (f : α → Except Diagnostic β) : Option α → Except Diagnostic (Option β)
  | none => .ok none
  | some a => (f a).map some

/-- A bound of a cardinality. -/
def bound (file : Path) (b : Source.Bound) : Except Diagnostic IntegerLiteral := do
  let r ← range file b.span
  return ⟨r, b.value⟩

/-- A cardinality (`build_cardinality`). -/
def cardinality (file : Path) (c : Source.Cardinality) : Except Diagnostic Cardinality := do
  let r ← range file c.span
  let min ← optional (bound file) c.min
  let max ← optional (bound file) c.max
  let m ← optional (metadata file) c.metadata
  Cardinality.create r min max m

/-- The range, the cardinality and the metadata of a type node, with which `build_type` begins. -/
def header (file : Path) (h : Source.Header) :
    Except Diagnostic (Range × Cardinality × Option Metadata) := do
  let r ← range file h.span
  let c ← match h.cardinality with
    | some c => cardinality file c
    | none => .ok (.defaultAt r)
  let m ← optional (metadata file) h.metadata
  return (r, c, m)

/-- A type name was expected where the name stands. -/
def expectedType (name : Identifier) : Diagnostic :=
  .located name.range (.expectedTypeName name.value)

/-- Checks the names of a reference, as `build_reference` does first: there is one, and each is that
of a type, except that an element reference names a structure before the field. -/
def checkSegments (range : Range) (segments : List Identifier) (isElement : Bool) :
    Except Diagnostic Unit :=
  match segments.getLast? with
  | none => .error (.located range (.grammar "empty type reference"))
  | some last =>
    match segments.dropLast.find? (!·.isType) with
    | some name => .error (expectedType name)
    | none =>
      let accepted := if isElement then !segments.dropLast.isEmpty else last.isType
      if accepted then .ok () else .error (expectedType last)

/-- The fundamental type that a reference means: a single plain name that is reserved means one. As
in `build_reference`, the name is taken with its markers. -/
def fundamental? (r : Reference) (m : Option Metadata) :
    Except Diagnostic (Option (Fundamental × Option Metadata)) :=
  match r with
  | ⟨[name], false, false⟩ => Fundamental.ofConstraints name.value m
  | _ => .ok none

/-- The type node of a reference (`build_reference`). -/
def reference (id : ElementId) (range : Range) (c : Cardinality) (m : Option Metadata)
    (r : Reference) : Except Diagnostic WrittenType := do
  checkSegments range r.segments r.isElement
  match ← fundamental? r m with
  | some (type, m) => return .fundamental ⟨id, range, c, m.bind Metadata.nonEmpty?⟩ type
  | none => return .reference ⟨id, range, c, m.bind Metadata.nonEmpty?⟩ r

mutual

/-- The type node with the given number; its members have the numbers after it (`build_type`). -/
def type (target : BuildTarget) (number : Nat) : Source.TypeExpr → Except Diagnostic WrittenType
  | .reference h segments isGlobal isElement => do
    let (r, c, m) ← header target.file h
    let segments ← segments.mapM (identifier target.file)
    reference ⟨target.ordinal, number⟩ r c m ⟨segments, isGlobal, isElement⟩
  | .tuple h members => do
    let (r, c, m) ← header target.file h
    let members ← types target (number + 1) members
    checkMembers r false (members.map fun t => (t.occurrence.range, t.isVariant))
    return .tuple ⟨⟨target.ordinal, number⟩, r, c, m.bind Metadata.nonEmpty?⟩ members
  | .variant h members => do
    let (r, c, m) ← header target.file h
    let members ← types target (number + 1) members
    checkMembers r true (members.map fun t => (t.occurrence.range, t.isVariant))
    return .variant ⟨⟨target.ordinal, number⟩, r, c, m.bind Metadata.nonEmpty?⟩ members

/-- Type nodes whose numbers begin at the given one. -/
def types (target : BuildTarget) (number : Nat) :
    List Source.TypeExpr → Except Diagnostic (List WrittenType)
  | [] => .ok []
  | t :: ts => do
    let first ← type target number t
    let rest ← types target (number + t.count) ts
    return first :: rest

end

/-- The names of fundamental types are no names for other types (`check_not_reserved`). -/
def checkNotReserved (name : Identifier) : Except Diagnostic Unit :=
  if isReserved name.name then .error (.located name.range (.reservedTypeName name.name))
  else .ok ()

/-- No name is defined twice in a scope, the references of includes counted among the names
(`check_unique_names`). -/
def checkUniqueNames {τ : Type} (statements : List (Statement τ)) : Except Diagnostic Unit :=
  match firstRepeat Identifier.name (statements.flatMap Statement.scopeNames) with
  | none => .ok ()
  | some (first, again) => .error ⟨.duplicateName again.name, first.range, [again.range]⟩

theorem checkUniqueNames_eq_ok_iff {τ : Type} {statements : List (Statement τ)} :
    checkUniqueNames statements = .ok () ↔
      ((statements.flatMap Statement.scopeNames).map Identifier.name).Nodup := by
  unfold checkUniqueNames
  rw [← firstRepeat_eq_none_iff]
  cases firstRepeat Identifier.name (statements.flatMap Statement.scopeNames) <;> simp

/-- The name of an item, with which `build_item` begins. -/
def itemName (file : Path) (name : Source.Name) : Except Diagnostic Identifier := do
  let name ← identifier file name
  if name.isType then checkNotReserved name
  return name

/-- The name of a structure, which is that of a type; `build_structure` begins with it. -/
def structName (file : Path) (name : Source.Name) : Except Diagnostic Identifier := do
  let name ← identifier file name
  if name.isType then
    checkNotReserved name
    return name
  else .error (expectedType name)

/-- A call of an extension. -/
def extension (file : Path) (name : Source.Name) (arguments : List Source.Literal)
    (named : List Source.NamedLiteral) : Except Diagnostic Extension := do
  let name ← identifier file name
  let arguments ← arguments.mapM (literal file)
  let named ← named.mapM (keywordArgument file)
  Extension.create name arguments named

/-- An element taken over by an include; its own name for the element is checked first. -/
def includeItem (file : Path) (item : Source.IncludeItem) : Except Diagnostic IncludeItem := do
  let reference ← optional (identifier file) item.reference
  let r ← range file item.span
  let element ← identifier file item.element
  IncludeItem.create r element reference

/-- An include. -/
def inclusion (file : Path) (filenameSpan : Span) (filename : String)
    (items : List Source.IncludeItem) : Except Diagnostic Inclusion := do
  let filenameRange ← range file filenameSpan
  let items ← items.mapM (includeItem file)
  return ⟨filename, filenameRange, items⟩

mutual

/-- The statement with the given number; what is in it has the numbers after it (`build_statement`,
with `build_item` and `build_structure`). -/
def statement (target : BuildTarget) (number : Nat) (atRoot : Bool) :
    Source.Statement → Except Diagnostic (Statement WrittenType)
  | .item span name t => do
    let r ← range target.file span
    let name ← itemName target.file name
    let t ← type target (number + 1) t
    return .item ⟨target.ordinal, number⟩ r name t
  | .struct span name bases m children => do
    let r ← range target.file span
    let name ← structName target.file name
    let built ← types target (number + 1) bases
    let m ← optional (metadata target.file) m
    let children ← statements target (number + 1 + Source.TypeExpr.counts bases) false children
    checkUniqueNames children
    return .struct ⟨target.ordinal, number⟩ r name built m children
  | .extension span name arguments named => do
    let r ← range target.file span
    let call ← extension target.file name arguments named
    return .extension ⟨target.ordinal, number⟩ r call
  | .inclusion span filenameSpan filename items => do
    let r ← range target.file span
    if atRoot then
      let i ← inclusion target.file filenameSpan filename items
      return .inclusion ⟨target.ordinal, number⟩ r i
    else .error (.located r .invalidIncludePlacement)
  | .root span _ => do
    let r ← range target.file span
    .error (.located r .nestedRootStatement)

/-- Statements whose numbers begin at the given one (`build_statements`). -/
def statements (target : BuildTarget) (number : Nat) (atRoot : Bool) :
    List Source.Statement → Except Diagnostic (List (Statement WrittenType))
  | [] => .ok []
  | s :: ss => do
    let first ← statement target number atRoot s
    let rest ← statements target (number + s.count) atRoot ss
    return first :: rest

end

/-- The later of two places in a text. -/
def later (a b : Nat × Nat) : Nat × Nat :=
  if a.1 < b.1 ∨ a.1 = b.1 ∧ a.2 < b.2 then b else a

/-- The stretch from the start of a file to the latest end of a statement. -/
def extent (statements : List Source.Statement) : Span :=
  let ends := statements.map fun s => (s.span.stopLine, s.span.stopColumn)
  let stop := match ends with
    | [] => (1, 1)
    | first :: rest => rest.foldl later first
  ⟨1, 1, stop.1, stop.2⟩

/-- The root of a file (`build_root`). -/
def root (target : BuildTarget) (ss : List Source.Statement) :
    Except Diagnostic (Root WrittenType) := do
  let r ← range target.file (extent ss)
  let built ← statements target 1 true ss
  checkUniqueNames built
  return ⟨r, built⟩

end Build
end Schemata
