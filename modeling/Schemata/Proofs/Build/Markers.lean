import Schemata.Proofs.Build.Acceptance

/-!
# Markers in references, while a file is built

Two sources that differ in nothing but the markers before the names in their references are built
alike: what is built differs in nothing but those markers, or both are refused for the same reason
at the same places. Only the text that a diagnostic quotes is that of the name as it is written.
This takes that the sources agree on which plain names are reserved, because a plain name is
compared with the reserved ones as it is written.

**Results:**
* `Build.fundamental?_eq_of_bare`: plain names that are both reserved, or both not, mean the same
  fundamental type.
* `Build.type_respelled`, `Build.statement_respelled`: nodes are built alike.
* `Build.root_respelled`: files are built alike.
-/
namespace Schemata

/-! ## Outcomes that quote other texts -/

/-- The cause without the name that it quotes as it is written. -/
def Cause.unquoted : Cause → Cause
  | .invalidIdentifier _ => .invalidIdentifier ""
  | .expectedTypeName _ => .expectedTypeName ""
  | cause => cause

/-- The diagnostic without the name that it quotes as it is written. -/
def Diagnostic.unquoted (d : Diagnostic) : Diagnostic := { d with cause := d.cause.unquoted }

/-- Both computations succeed, and what comes of them is related, or both fail for the same reason
at the same places, up to the names that are quoted. -/
inductive SameOutcome {α β : Type} (R : α → β → Prop) :
    Except Diagnostic α → Except Diagnostic β → Prop where
  | ok {a : α} {b : β} (h : R a b) : SameOutcome R (.ok a) (.ok b)
  | error {d e : Diagnostic} (h : d.unquoted = e.unquoted) : SameOutcome R (.error d) (.error e)

namespace SameOutcome

variable {α β γ δ : Type} {R : α → β → Prop} {S : γ → δ → Prop}

theorem refl (x : Except Diagnostic α) : SameOutcome Eq x x := by
  cases x with
  | ok a => exact .ok rfl
  | error d => exact .error rfl

theorem of_eq {x y : Except Diagnostic α} (h : x = y) : SameOutcome Eq x y := h ▸ refl x

theorem bind {x : Except Diagnostic α} {y : Except Diagnostic β} {f : α → Except Diagnostic γ}
    {g : β → Except Diagnostic δ} (h : SameOutcome R x y)
    (hf : ∀ a b, R a b → SameOutcome S (f a) (g b)) : SameOutcome S (x >>= f) (y >>= g) := by
  cases h with
  | ok h => exact hf _ _ h
  | error h => exact .error h

/-- Both begin with the same step. -/
theorem after (x : Except Diagnostic α) {f : α → Except Diagnostic γ} {g : α → Except Diagnostic δ}
    (hf : ∀ a, SameOutcome S (f a) (g a)) : SameOutcome S (x >>= f) (x >>= g) :=
  (refl x).bind fun a _ h => h ▸ hf a

/-- What comes of the computations looks the same, if it does so when they are done. -/
theorem iff_map_eq {f : α → γ} {x y : Except Diagnostic α} :
    SameOutcome (fun a b => f a = f b) x y ↔
      (x.mapError Diagnostic.unquoted).map f = (y.mapError Diagnostic.unquoted).map f := by
  constructor
  · rintro (h | h)
    · exact congrArg Except.ok h
    · exact congrArg Except.error h
  · intro h
    cases x <;> cases y
    · exact .error (Except.error.inj h)
    · cases h
    · cases h
    · exact .ok (Except.ok.inj h)

theorem eq_iff {x y : Except Diagnostic α} : SameOutcome Eq x y ↔
    x.mapError Diagnostic.unquoted = y.mapError Diagnostic.unquoted := by
  have h := iff_map_eq (f := id) (x := x) (y := y)
  rwa [Except.map_id] at h

/-- What comes of either computation is known to have a property. -/
theorem and_ok {x : Except Diagnostic α} {y : Except Diagnostic β} {A : α → Prop} {B : β → Prop}
    (h : SameOutcome R x y) (hx : ∀ a, x = .ok a → A a) (hy : ∀ b, y = .ok b → B b) :
    SameOutcome (fun a b => R a b ∧ A a ∧ B b) x y := by
  cases h with
  | ok h => exact .ok ⟨h, hx _ rfl, hy _ rfl⟩
  | error h => exact .error h

end SameOutcome

/-! ## Names without markers -/

/-- The name without markers, and public as such a name is. -/
def Identifier.bare (i : Identifier) : Identifier := ⟨i.range, "", i.name, .isPublic⟩

theorem Identifier.bare_eq_iff {i j : Identifier} :
    i.bare = j.bare ↔ i.range = j.range ∧ i.name = j.name := by
  simp [bare]

/-- The reference with its names without markers. -/
def Reference.bare (r : Reference) : Reference :=
  { r with segments := r.segments.map Identifier.bare }

mutual

/-- The type with the references in it without markers. -/
def WrittenType.bare : WrittenType → WrittenType
  | .fundamental o type => .fundamental o type
  | .reference o r => .reference o r.bare
  | .tuple o members => .tuple o (WrittenType.bares members)
  | .variant o members => .variant o (WrittenType.bares members)

/-- The types with the references in them without markers. -/
def WrittenType.bares : List WrittenType → List WrittenType
  | [] => []
  | t :: ts => t.bare :: WrittenType.bares ts

end

namespace WrittenType

theorem bares_eq_map (ts : List WrittenType) : bares ts = ts.map bare := by
  induction ts with
  | nil => rfl
  | cons t ts ih => rw [bares, ih, List.map_cons]

@[simp]
theorem occurrence_bare (t : WrittenType) : t.bare.occurrence = t.occurrence := by
  cases t <;> rfl

@[simp]
theorem isVariant_bare (t : WrittenType) : t.bare.isVariant = t.isVariant := by
  cases t <;> rfl

end WrittenType

mutual

/-- The statement with the references in it without markers. -/
def Statement.bare : Statement WrittenType → Statement WrittenType
  | .item id range name type => .item id range name type.bare
  | .struct id range name bases metadata children =>
    .struct id range name (WrittenType.bares bases) metadata (Statement.bares children)
  | .extension id range call => .extension id range call
  | .inclusion id range i => .inclusion id range i

/-- The statements with the references in them without markers. -/
def Statement.bares : List (Statement WrittenType) → List (Statement WrittenType)
  | [] => []
  | s :: ss => s.bare :: Statement.bares ss

end

namespace Statement

theorem bares_eq_map (ss : List (Statement WrittenType)) : bares ss = ss.map bare := by
  induction ss with
  | nil => rfl
  | cons s ss ih => rw [bares, ih, List.map_cons]

@[simp]
theorem definedName?_bare (s : Statement WrittenType) :
    s.bare.definedName? = s.definedName? := by
  cases s <;> rfl

@[simp]
theorem scopeNames_bare (s : Statement WrittenType) : s.bare.scopeNames = s.scopeNames := by
  cases s <;> rfl

@[simp]
theorem inclusion?_bare (s : Statement WrittenType) : s.bare.inclusion? = s.inclusion? := by
  cases s <;> rfl

@[simp]
theorem definesType_bare (s : Statement WrittenType) : s.bare.definesType = s.definesType := by
  cases s <;> rfl

@[simp]
theorem isField_bare (s : Statement WrittenType) : s.bare.isField = s.isField := by
  cases s <;> rfl

end Statement

/-- The file with the references in it without markers. -/
def Root.bare (r : Root WrittenType) : Root WrittenType := ⟨r.range, Statement.bares r.statements⟩

/-! ## Sources with other markers -/

namespace Source

/-- The same name at the same place, whatever its markers are. -/
structure Name.Respelled (n n' : Name) : Prop where
  span : n'.span = n.span
  key : n'.key = n.key

/-- The same type with other markers before the names in its references. A name that stands by
itself in a reference, neither global nor that of an element, may be asked for more. -/
inductive TypeExpr.Respelled (P : Name → Name → Prop) : TypeExpr → TypeExpr → Prop where
  | reference {header : Header} {ns ns' : List Name} {isGlobal isElement : Bool}
      (names : List.Forall₂ Name.Respelled ns ns')
      (plain : ∀ n n', ns = [n] → ns' = [n'] → isGlobal = false → isElement = false → P n n') :
      Respelled P (.reference header ns isGlobal isElement)
        (.reference header ns' isGlobal isElement)
  | tuple {header : Header} {es es' : List TypeExpr} (members : List.Forall₂ (Respelled P) es es') :
      Respelled P (.tuple header es) (.tuple header es')
  | variant {header : Header} {es es' : List TypeExpr}
      (members : List.Forall₂ (Respelled P) es es') :
      Respelled P (.variant header es) (.variant header es')

/-- The same statement with other markers before the names in the references of its types. -/
inductive Statement.Respelled (P : Name → Name → Prop) : Statement → Statement → Prop where
  | item {span : Span} {name : Name} {e e' : TypeExpr} (type : e.Respelled P e') :
      Respelled P (.item span name e) (.item span name e')
  | struct {span : Span} {name : Name} {es es' : List TypeExpr} {metadata : Option Metadata}
      {ss ss' : List Statement} (bases : List.Forall₂ (TypeExpr.Respelled P) es es')
      (children : List.Forall₂ (Respelled P) ss ss') :
      Respelled P (.struct span name es metadata ss) (.struct span name es' metadata ss')
  | extension {span : Span} {name : Name} {arguments : List Literal}
      {named : List NamedLiteral} :
      Respelled P (.extension span name arguments named) (.extension span name arguments named)
  | inclusion {span filenameSpan : Span} {filename : String} {items : List IncludeItem} :
      Respelled P (.inclusion span filenameSpan filename items)
        (.inclusion span filenameSpan filename items)
  | root {span : Span} {ss ss' : List Statement} (statements : List.Forall₂ (Respelled P) ss ss') :
      Respelled P (.root span ss) (.root span ss')

/-- Names that are both reserved as they are written, or both not. -/
def Name.BothReserved (n n' : Name) : Prop := n.text ∈ reservedNames ↔ n'.text ∈ reservedNames

variable {P : Name → Name → Prop}

mutual

theorem TypeExpr.Respelled.count_eq {e e' : TypeExpr} (h : e.Respelled P e') :
    e'.count = e.count := by
  cases h with
  | reference => rfl
  | tuple members | variant members => rw [count, count, counts_eq_of_respelled members]

theorem TypeExpr.counts_eq_of_respelled {es es' : List TypeExpr}
    (h : List.Forall₂ (TypeExpr.Respelled P) es es') : counts es' = counts es := by
  cases h with
  | nil => rfl
  | cons h hs => rw [counts, counts, h.count_eq, counts_eq_of_respelled hs]

end

mutual

theorem Statement.Respelled.count_eq {s s' : Statement} (h : s.Respelled P s') :
    s'.count = s.count := by
  cases h with
  | item type => rw [count, count, type.count_eq]
  | struct bases children =>
    rw [count, count, TypeExpr.counts_eq_of_respelled bases, counts_eq_of_respelled children]
  | extension | inclusion => rfl
  | root statements => rw [count, count, counts_eq_of_respelled statements]

theorem Statement.counts_eq_of_respelled {ss ss' : List Statement}
    (h : List.Forall₂ (Statement.Respelled P) ss ss') : counts ss' = counts ss := by
  cases h with
  | nil => rfl
  | cons h hs => rw [counts, counts, h.count_eq, counts_eq_of_respelled hs]

end

theorem Statement.Respelled.span_eq {s s' : Statement} (h : s.Respelled P s') :
    s'.span = s.span := by
  cases h <;> rfl

end Source

namespace Build

/-! ## Names and references -/

/-- Names that differ in their markers are both names of the same kind, or both none. -/
theorem identifier_respelled (file : Path) {n n' : Source.Name} (h : n.Respelled n') :
    SameOutcome (fun i i' => i.bare = i'.bare) (identifier file n) (identifier file n') := by
  have hname : n'.text.toList.dropWhile isMarker = n.text.toList.dropWhile isMarker :=
    String.ofList_injective h.key
  unfold identifier
  rw [h.span]
  refine .after _ fun r => ?_
  unfold Identifier.parse
  simp only [hname]
  split
  · exact .ok (Identifier.bare_eq_iff.2 ⟨rfl, rfl⟩)
  · exact .error rfl

theorem identifiers_respelled (file : Path) {ns ns' : List Source.Name}
    (h : List.Forall₂ Source.Name.Respelled ns ns') :
    SameOutcome (fun is is' => is.map Identifier.bare = is'.map Identifier.bare)
      (ns.mapM (identifier file)) (ns'.mapM (identifier file)) := by
  induction h with
  | nil => exact .ok rfl
  | cons h _ ih =>
    rw [List.mapM_cons, List.mapM_cons]
    refine (identifier_respelled file h).bind fun i i' hi => ih.bind fun is is' his => .ok ?_
    rw [List.map_cons, List.map_cons, hi, his]

/-- Whether the names of a reference fit does not depend on their markers. -/
theorem checkSegments_bare (range : Range) (segments : List Identifier) (isElement : Bool) :
    (checkSegments range (segments.map Identifier.bare) isElement).mapError Diagnostic.unquoted =
      (checkSegments range segments isElement).mapError Diagnostic.unquoted := by
  have htype : (fun i : Identifier => !i.isType) ∘ Identifier.bare = fun i => !i.isType := rfl
  unfold checkSegments
  rw [List.getLast?_map, ← List.map_dropLast, List.find?_map, htype, List.isEmpty_map]
  cases segments.getLast? with
  | none => rfl
  | some last =>
    cases segments.dropLast.find? (!·.isType) with
    | some name => rfl
    | none =>
      have hlast : ∀ accepted : Bool,
          Except.mapError Diagnostic.unquoted
            (if accepted then .ok () else .error (expectedType last.bare)) =
          Except.mapError Diagnostic.unquoted
            (if accepted then .ok () else .error (expectedType last)) := by
        intro accepted
        cases accepted <;> rfl
      exact hlast _

theorem checkSegments_respelled (range : Range) {segments segments' : List Identifier}
    (h : segments.map Identifier.bare = segments'.map Identifier.bare) (isElement : Bool) :
    SameOutcome Eq (checkSegments range segments isElement)
      (checkSegments range segments' isElement) := by
  rw [SameOutcome.eq_iff, ← checkSegments_bare range segments, h, checkSegments_bare]

/-- A reserved name has no markers, so it is the only reserved way to write it. -/
theorem ofConstraints_eq_of_bare {file : Path} {n n' : Source.Name} {i i' : Identifier}
    (h : n.Kept file i) (h' : n'.Kept file i') (hbare : i.bare = i'.bare)
    (hboth : n.BothReserved n') (m : Option Metadata) :
    Fundamental.ofConstraints i.value m = Fundamental.ofConstraints i'.value m := by
  have hkey : ∀ name ∈ reservedNames,
      String.ofList (name.toList.dropWhile isMarker) = name := by decide +kernel
  have hname : n.key = n'.key := h.name ▸ h'.name ▸ (Identifier.bare_eq_iff.1 hbare).2
  rw [h.text, h'.text]
  by_cases hn : n.text ∈ reservedNames
  · rw [Source.Name.key, Source.Name.key, hkey _ hn, hkey _ (hboth.1 hn)] at hname
    rw [hname]
  · rw [Fundamental.ofConstraints_eq_none_iff.2 hn,
      Fundamental.ofConstraints_eq_none_iff.2 (mt hboth.2 hn)]

section Reference

variable {file : Path} {ns ns' : List Source.Name} {segments segments' : List Identifier}
  {isGlobal isElement : Bool} (hbare : segments.map Identifier.bare = segments'.map Identifier.bare)
  (hkept : List.Forall₂ (Source.Name.Kept file) ns segments)
  (hkept' : List.Forall₂ (Source.Name.Kept file) ns' segments')
  (hplain : ∀ n n', ns = [n] → ns' = [n'] → isGlobal = false → isElement = false →
    n.BothReserved n')
include hbare hkept hkept' hplain

/-- Plain names that are both reserved, or both not, mean the same fundamental type. -/
theorem fundamental?_eq_of_bare (m : Option Metadata) :
    fundamental? ⟨segments, isGlobal, isElement⟩ m =
      fundamental? ⟨segments', isGlobal, isElement⟩ m := by
  have hlength : segments.length = segments'.length := by simpa using congrArg List.length hbare
  match segments, segments', hlength with
  | [], [], _ => rfl
  | _ :: _ :: _, _ :: _ :: _, _ => rfl
  | [i], [i'], _ =>
    match isGlobal, isElement with
    | true, _ => rfl
    | false, true => rfl
    | false, false =>
      obtain ⟨n, ns, h, hs, rfl⟩ := List.forall₂_cons_right_iff.1 hkept
      obtain ⟨n', ns', h', hs', rfl⟩ := List.forall₂_cons_right_iff.1 hkept'
      obtain rfl := List.forall₂_nil_right_iff.1 hs
      obtain rfl := List.forall₂_nil_right_iff.1 hs'
      exact ofConstraints_eq_of_bare h h' (List.cons.inj hbare).1 (hplain n n' rfl rfl rfl rfl) m

theorem reference_respelled (id : ElementId) (range : Range) (c : Cardinality)
    (m : Option Metadata) :
    SameOutcome (fun t t' => t.bare = t'.bare)
      (reference id range c m ⟨segments, isGlobal, isElement⟩)
      (reference id range c m ⟨segments', isGlobal, isElement⟩) := by
  unfold reference
  refine (checkSegments_respelled range hbare isElement).bind fun _ _ _ => ?_
  rw [fundamental?_eq_of_bare hbare hkept hkept' hplain m]
  refine .after _ fun found => ?_
  cases found with
  | some found => exact .ok rfl
  | none =>
    refine .ok ?_
    rw [WrittenType.bare, WrittenType.bare, Reference.bare, Reference.bare, hbare]

end Reference

/-! ## Types -/

/-- Whether members may stand together does not depend on the references in them. -/
theorem checkMembers_bares (range : Range) (isVariant : Bool) (ts : List WrittenType) :
    checkMembers range isVariant
        ((WrittenType.bares ts).map fun t => (t.occurrence.range, t.isVariant)) =
      checkMembers range isVariant (ts.map fun t => (t.occurrence.range, t.isVariant)) := by
  simp [WrittenType.bares_eq_map, Function.comp_def]

theorem checkMembers_eq_of_bares {ts ts' : List WrittenType}
    (h : WrittenType.bares ts = WrittenType.bares ts') (range : Range) (isVariant : Bool) :
    checkMembers range isVariant (ts.map fun t => (t.occurrence.range, t.isVariant)) =
      checkMembers range isVariant (ts'.map fun t => (t.occurrence.range, t.isVariant)) := by
  rw [← checkMembers_bares, h, checkMembers_bares]

mutual

/-- A type is built alike with other markers in its references. -/
theorem type_respelled (target : BuildTarget) (number : Nat) {e e' : Source.TypeExpr}
    (h : e.Respelled Source.Name.BothReserved e') :
    SameOutcome (fun t t' => t.bare = t'.bare) (type target number e) (type target number e') := by
  cases h with
  | reference names plain =>
    rw [type, type]
    refine .after _ fun ⟨r, c, m⟩ => ?_
    have hsame := (identifiers_respelled target.file names).and_ok
      (accepts_mapM fun n => accepts_identifier n).of_ok
      (accepts_mapM fun n => accepts_identifier n).of_ok
    exact hsame.bind fun segments segments' ⟨hbare, hkept, hkept'⟩ =>
      reference_respelled hbare hkept hkept' plain _ r c m
  | tuple members | variant members =>
    rw [type, type]
    refine .after _ fun ⟨r, c, m⟩ => (types_respelled target _ members).bind fun ts ts' hts => ?_
    rw [checkMembers_eq_of_bares hts]
    refine .after _ fun _ => .ok ?_
    rw [WrittenType.bare, WrittenType.bare, hts]

theorem types_respelled (target : BuildTarget) (number : Nat) {es es' : List Source.TypeExpr}
    (h : List.Forall₂ (Source.TypeExpr.Respelled Source.Name.BothReserved) es es') :
    SameOutcome (fun ts ts' => WrittenType.bares ts = WrittenType.bares ts')
      (types target number es) (types target number es') := by
  cases h with
  | nil => exact .ok rfl
  | cons h hs =>
    rw [types, types, h.count_eq]
    refine (type_respelled target number h).bind fun t t' ht =>
      (types_respelled target _ hs).bind fun ts ts' hts => .ok ?_
    rw [WrittenType.bares, WrittenType.bares, ht, hts]

end

/-! ## Statements -/

theorem checkUniqueNames_bares (ss : List (Statement WrittenType)) :
    checkUniqueNames (Statement.bares ss) = checkUniqueNames ss := by
  unfold checkUniqueNames
  simp [Statement.bares_eq_map, List.flatMap_map]

theorem checkUniqueNames_eq_of_bares {ss ss' : List (Statement WrittenType)}
    (h : Statement.bares ss = Statement.bares ss') : checkUniqueNames ss = checkUniqueNames ss' := by
  rw [← checkUniqueNames_bares, h, checkUniqueNames_bares]

mutual

/-- A statement is built alike with other markers in the references of its types. -/
theorem statement_respelled (target : BuildTarget) (number : Nat) (atRoot : Bool)
    {s s' : Source.Statement} (h : s.Respelled Source.Name.BothReserved s') :
    SameOutcome (fun u u' => u.bare = u'.bare) (statement target number atRoot s)
      (statement target number atRoot s') := by
  cases h with
  | item h =>
    rw [statement, statement]
    refine .after _ fun r => .after _ fun name =>
      (type_respelled target _ h).bind fun t t' ht => .ok ?_
    rw [Statement.bare, Statement.bare, ht]
  | struct bases children =>
    rw [statement, statement, Source.TypeExpr.counts_eq_of_respelled bases]
    refine .after _ fun r => .after _ fun name =>
      (types_respelled target _ bases).bind fun ts ts' hts => .after _ fun m =>
        (statements_respelled target _ false children).bind fun us us' hus => ?_
    rw [checkUniqueNames_eq_of_bares hus]
    refine .after _ fun _ => .ok ?_
    rw [Statement.bare, Statement.bare, hts, hus]
  | extension =>
    rw [statement]
    exact .after _ fun r => .after _ fun call => .ok rfl
  | inclusion =>
    rw [statement]
    refine .after _ fun r => ?_
    cases atRoot with
    | true => exact .after _ fun i => .ok rfl
    | false => exact .error rfl
  | root =>
    rw [statement, statement]
    exact .after _ fun r => .error rfl

theorem statements_respelled (target : BuildTarget) (number : Nat) (atRoot : Bool)
    {ss ss' : List Source.Statement}
    (h : List.Forall₂ (Source.Statement.Respelled Source.Name.BothReserved) ss ss') :
    SameOutcome (fun us us' => Statement.bares us = Statement.bares us')
      (statements target number atRoot ss) (statements target number atRoot ss') := by
  cases h with
  | nil => exact .ok rfl
  | cons h hs =>
    rw [statements, statements, h.count_eq]
    refine (statement_respelled target number atRoot h).bind fun u u' hu =>
      (statements_respelled target _ atRoot hs).bind fun us us' hus => .ok ?_
    rw [Statement.bares, Statement.bares, hu, hus]

end

theorem extent_respelled {P : Source.Name → Source.Name → Prop} {ss ss' : List Source.Statement}
    (h : List.Forall₂ (Source.Statement.Respelled P) ss ss') : extent ss' = extent ss := by
  unfold extent
  rw [map_eq_of_forall₂ h fun s s' hs => by rw [hs.span_eq]]

/-- A file is built alike with other markers in its references. -/
theorem root_respelled (target : BuildTarget) {ss ss' : List Source.Statement}
    (h : List.Forall₂ (Source.Statement.Respelled Source.Name.BothReserved) ss ss') :
    SameOutcome (fun root root' => root.bare = root'.bare) (root target ss) (root target ss') := by
  unfold root
  rw [extent_respelled h]
  refine .after _ fun r => (statements_respelled target 1 true h).bind fun us us' hus => ?_
  rw [checkUniqueNames_eq_of_bares hus]
  refine .after _ fun _ => .ok ?_
  rw [Root.bare, Root.bare, hus]

end Build
end Schemata
