import Schemata.Proofs.Build.Sketch
import Schemata.Proofs.Link.Blame

/-!
# How a failure is reported

When a type does not link, something in it is refused: a reference that means nothing, or a variant
one of whose members turns out to be a variant. That may be in the type itself or in the type of an
alias or a field to which its references lead, through any number of others. The diagnostic is that
of what is refused, followed by the ranges of the references that led there, the last one first; a
range that is already there is not repeated. Cycles alone are reported in another way.

**Results:**
* `Table.linkInvariant_fails`: each step of linking keeps the trace of a failure.
* `Table.linkType_failure`: what a failure reports, and where it comes from.
-/
namespace Schemata

/-- The one type is the other one or stands among its members, at any depth. -/
inductive WrittenType.IsPart (node : WrittenType) : WrittenType → Prop where
  | self : IsPart node node
  | tuple {o : Occurrence} {members : List WrittenType} {member : WrittenType}
      (hm : member ∈ members) (h : IsPart node member) : IsPart node (.tuple o members)
  | variant {o : Occurrence} {members : List WrittenType} {member : WrittenType}
      (hm : member ∈ members) (h : IsPart node member) : IsPart node (.variant o members)

/-- The ranges with one more at the end, unless it is there already. -/
def withRange (ranges : List Range) (range : Range) : List Range :=
  if ranges.any (· == range) then ranges else ranges ++ [range]

/-- A failure below a reference has the range of the reference behind its own, unless it is a
cycle. -/
theorem inContext_ranges {d : Diagnostic} (h : ¬ d.IsCycle) (range : Range) :
    (inContext d range).ranges = withRange d.ranges range := by
  unfold inContext
  split
  · rename_i name hcause
    exact absurd ⟨name, hcause⟩ h
  · rw [withRange]
    split
    · rfl
    · exact d.withContext_ranges range

theorem isCycle_inContext {d : Diagnostic} {range : Range} :
    (inContext d range).IsCycle ↔ d.IsCycle := by
  rw [Diagnostic.IsCycle, inContext_cause]
  rfl

namespace Table

variable {t : Table} {reader : Nat} {scope : Address} {type : WrittenType} {e : Diagnostic}

/-- References lead from a type in a scope to another one: the first one occurs in the type, and
each means an alias or a field in whose type the next one occurs. -/
inductive ReferenceChain (t : Table) (reader : Nat) :
    Address → WrittenType → List Range → Address → WrittenType → Prop where
  | here (scope : Address) (type : WrittenType) : ReferenceChain t reader scope type [] scope type
  | through {scope scope' : Address} {type last : WrittenType} {via : Range} {vias : List Range}
      {v : Item} (h : t.Mentions reader scope type via v)
      (rest : ReferenceChain t reader v.scope v.type vias scope' last) :
      ReferenceChain t reader scope type (via :: vias) scope' last

/-- A node in a scope is refused by itself: it is a reference that does not resolve, or a variant
whose members link but may not stand in it together. -/
inductive Refuses (t : Table) (reader : Nat) (scope : Address) :
    WrittenType → Diagnostic → Prop where
  | reference {o : Occurrence} {r : Reference} {own : Diagnostic}
      (h : t.resolve reader r o.range scope = .error own) :
      Refuses t reader scope (.reference o r) own
  | variant {o : Occurrence} {members : List WrittenType} {linked : List LinkedType}
      {own : Diagnostic} (hm : t.MeansAll reader scope members linked)
      (h : checkMembers o.range true
        (linked.map fun m => (m.occurrence.range, m.isVariant)) = .error own) :
      Refuses t reader scope (.variant o members) own

/-- The failure of a type is that of a node to which references at the ranges lead, reported with
those ranges, innermost first. -/
structure Traced (t : Table) (reader : Nat) (scope : Address) (type : WrittenType) (e : Diagnostic)
    (vias : List Range) (scope' : Address) (last node : WrittenType) (own : Diagnostic) :
    Prop where
  chain : t.ReferenceChain reader scope type vias scope' last
  part : node.IsPart last
  refused : t.Refuses reader scope' node own
  cause : e.cause = own.cause
  ranges : e.ranges = vias.reverse.foldl withRange own.ranges

/-- The failure of a type is that of a node, in the type or where references lead. -/
def Fails (t : Table) (reader : Nat) (scope : Address) (type : WrittenType) (e : Diagnostic) :
    Prop :=
  ∃ vias scope' last node own, t.Traced reader scope type e vias scope' last node own

/-! ## One step -/

theorem Refuses.fails (h : t.Refuses reader scope type e) : t.Fails reader scope type e :=
  ⟨[], scope, type, type, e, .here scope type, .self, h, rfl, rfl⟩

/-- A failure of a member is one of the type. -/
theorem Fails.of_member {member : WrittenType} (h : t.Fails reader scope member e)
    (hpart : ∀ node : WrittenType, node.IsPart member → node.IsPart type)
    (hsub : ∀ x ∈ member.references, x ∈ type.references) : t.Fails reader scope type e := by
  obtain ⟨vias, scope', last, node, own, hchain, hnode, hrefused, hcause, hranges⟩ := h
  cases hchain with
  | here => exact ⟨[], scope, type, node, own, .here scope type, hpart node hnode, hrefused, hcause,
      hranges⟩
  | through hv rest => exact ⟨_, scope', last, node, own, .through (hv.of_mem hsub) rest, hnode,
      hrefused, hcause, hranges⟩

theorem Fails.tuple {o : Occurrence} {members : List WrittenType} {member : WrittenType}
    (hm : member ∈ members) (h : t.Fails reader scope member e) :
    t.Fails reader scope (.tuple o members) e :=
  h.of_member (fun _ hnode => .tuple hm hnode)
    fun _ hx => WrittenType.mem_referencesIn.2 ⟨member, hm, hx⟩

theorem Fails.variant {o : Occurrence} {members : List WrittenType} {member : WrittenType}
    (hm : member ∈ members) (h : t.Fails reader scope member e) :
    t.Fails reader scope (.variant o members) e :=
  h.of_member (fun _ hnode => .variant hm hnode)
    fun _ hx => WrittenType.mem_referencesIn.2 ⟨member, hm, hx⟩

/-- A failure of an alias or a field is one of the type that mentions it, with the range of the
reference as context. -/
theorem Fails.mentioned {via : Range} {v : Item} (hv : t.Mentions reader scope type via v)
    (h : t.Fails reader v.scope v.type e) (hcycle : ¬ e.IsCycle) :
    t.Fails reader scope type (inContext e via) := by
  obtain ⟨vias, scope', last, node, own, hchain, hnode, hrefused, hcause, hranges⟩ := h
  refine ⟨via :: vias, scope', last, node, own, .through hv hchain, hnode, hrefused, ?_, ?_⟩
  · rw [inContext_cause, hcause]
  · rw [inContext_ranges hcycle, hranges, List.reverse_cons, List.foldl_append]
    rfl

/-! ## All steps -/

/-- From a faithful memory, a failure that is no cycle is traced. -/
def TracesFailure {α : Type} (t : Table) (reader : Nat) (memory : LinkMemory) (x : Linked α)
    (F : Diagnostic → Prop) : Prop :=
  t.Faithful reader memory → ∀ e, x.1 = .error e → ¬ e.IsCycle → F e

theorem tracesFailure_ok {α : Type} {memory m : LinkMemory} {a : α} {F : Diagnostic → Prop} :
    t.TracesFailure reader memory (.ok a, m) F := by
  intro _ e he
  cases he

/-- Each step of linking keeps the trace of a failure. -/
theorem linkInvariant_fails (t : Table) (reader : Nat) :
    t.LinkInvariant reader
      (fun _ memory scope type x => t.Finds reader memory x (t.Means reader scope type) ∧
        t.TracesFailure reader memory x (t.Fails reader scope type))
      (fun _ memory d aliased via x => t.Holds d → d.kind = .alias aliased →
        t.Finds reader memory x (t.Means reader d.address.scope aliased) ∧
        t.TracesFailure reader memory x fun e => ∃ inner,
          t.Fails reader d.address.scope aliased inner ∧ ¬ inner.IsCycle ∧ e = inContext inner via)
      (fun _ memory scope types x => t.Finds reader memory x (t.MeansAll reader scope types) ∧
        t.TracesFailure reader memory x fun e =>
          ∃ member ∈ types, t.Fails reader scope member e) := by
  -- what is found is known of every step, so that a variant is refused with what its members mean
  have finds := t.linkInvariant_finds reader
  constructor
  case fundamental =>
    intro trail memory scope o f
    exact ⟨finds.fundamental trail memory scope o f, tracesFailure_ok⟩
  case tuple =>
    intro trail memory scope o members x ⟨hfinds, htraces⟩
    refine ⟨finds.tuple trail memory scope o members x hfinds, fun hm e he hcycle => ?_⟩
    rcases bind_eq_error_iff.1 he with he | ⟨_, -, he⟩
    · obtain ⟨member, hmember, hfails⟩ := htraces hm e he hcycle
      exact hfails.tuple hmember
    · cases he
  case variant =>
    intro trail memory scope o members x ⟨hfinds, htraces⟩
    refine ⟨finds.variant trail memory scope o members x hfinds, fun hm e he hcycle => ?_⟩
    rcases bind_eq_error_iff.1 he with he | ⟨linked, hlinked, he⟩
    · obtain ⟨member, hmember, hfails⟩ := htraces hm e he hcycle
      exact hfails.variant hmember
    · rcases bind_eq_error_iff.1 he with he | ⟨_, -, he⟩
      · exact (Refuses.variant ((hfinds hm).2.2 linked hlinked) he).fails
      · cases he
  case unresolved =>
    intro trail memory scope o r e hr
    refine ⟨finds.unresolved trail memory scope o r e hr, fun _ e' he _ => ?_⟩
    cases he
    exact (Refuses.reference hr).fails
  case struct =>
    intro trail memory scope o r d bases hr hk
    exact ⟨finds.struct trail memory scope o r d bases hr hk, tracesFailure_ok⟩
  case aliasAsked =>
    intro trail memory scope o r d aliased x hr hk h
    obtain ⟨hfinds, htraces⟩ := h (holdsTarget_of_resolve hr) hk
    refine ⟨finds.aliasAsked trail memory scope o r d aliased x hr hk fun _ _ => hfinds,
      fun hm e he hcycle => ?_⟩
    rcases bind_eq_error_iff.1 he with he | ⟨_, -, he⟩
    · obtain ⟨inner, hfails, hinner, rfl⟩ := htraces hm e he hcycle
      exact hfails.mentioned (mentions_alias hr hk) hinner
    · cases he
  case fieldAgain =>
    intro trail memory scope o r f hr hon
    refine ⟨finds.fieldAgain trail memory scope o r f hr hon, fun _ e he hcycle => ?_⟩
    cases he
    exact absurd ⟨_, rfl⟩ hcycle
  case field =>
    intro trail memory scope o r f linked m fresh known hr h
    exact ⟨finds.field trail memory scope o r f linked m fresh known hr h.1, tracesFailure_ok⟩
  case fieldFailed =>
    intro trail memory scope o r f e m fresh known hr ⟨hfinds, htraces⟩
    refine ⟨finds.fieldFailed trail memory scope o r f e m fresh known hr hfinds,
      fun hm e' he hcycle => ?_⟩
    cases he
    have hinner : ¬ e.IsCycle := fun h => hcycle (isCycle_inContext.2 h)
    exact (htraces hm e rfl hinner).mentioned (mentions_field hr) hinner
  case remembered =>
    intro trail memory d aliased via a linked hfind hd hk
    exact ⟨finds.remembered trail memory d aliased via a linked hfind hd hk, tracesFailure_ok⟩
  case aliasAgain =>
    intro trail memory d aliased via hnone hon hd hk
    refine ⟨finds.aliasAgain trail memory d aliased via hnone hon hd hk, fun _ e he hcycle => ?_⟩
    cases he
    exact absurd ⟨_, rfl⟩ hcycle
  case aliasEntered =>
    intro trail memory d aliased via linked m fresh known hnone h hd hk
    exact ⟨finds.aliasEntered trail memory d aliased via linked m fresh known hnone h.1 hd hk,
      tracesFailure_ok⟩
  case aliasFailed =>
    intro trail memory d aliased via e m fresh known hnone ⟨hfinds, htraces⟩ hd hk
    refine ⟨finds.aliasFailed trail memory d aliased via e m fresh known hnone hfinds hd hk,
      fun hm e' he hcycle => ?_⟩
    cases he
    have hinner : ¬ e.IsCycle := fun h => hcycle (isCycle_inContext.2 h)
    exact ⟨e, htraces hm e rfl hinner, hinner, rfl⟩
  case nil =>
    intro trail memory scope
    exact ⟨finds.nil trail memory scope, tracesFailure_ok⟩
  case cons =>
    intro trail memory scope type rest first m x ⟨hfirst, _⟩ ⟨hfinds, htraces⟩
    refine ⟨finds.cons trail memory scope type rest first m x hfirst hfinds,
      fun hm e he hcycle => ?_⟩
    rcases bind_eq_error_iff.1 he with he | ⟨_, -, he⟩
    · obtain ⟨member, hmember, hfails⟩ := htraces (hfirst hm).1 e he hcycle
      exact ⟨member, List.mem_cons_of_mem _ hmember, hfails⟩
    · cases he
  case consFailed =>
    intro trail memory scope type rest e m ⟨hfinds, htraces⟩
    refine ⟨finds.consFailed trail memory scope type rest e m hfinds, fun hm e' he hcycle => ?_⟩
    cases he
    exact ⟨type, List.mem_cons_self, htraces hm e rfl hcycle⟩

/-! ## What a failure reports -/

variable {files : List ParsedFile}

/-- What is refused by itself fails by itself, and so with its own diagnostic. -/
theorem Refuses.linkType_eq (hb : BuiltInOrder files) {node : WrittenType} {own : Diagnostic}
    (h : (ofFiles files).Refuses reader scope node own) :
    ((ofFiles files).linkType reader .empty .empty scope node).1 = .error own := by
  cases h with
  | reference h => exact congrArg Prod.fst (linkType_unresolved h)
  | variant hm h =>
    have hlinked := linkTypes_of_means hb hm (.empty _ reader scope _) (faithful_empty _ reader)
    rw [linkType_variant, hlinked]
    simp only [bind, Except.bind, h]

/-- A type that does not link, and not because of a cycle, has a node that fails by itself, or leads
to one by references through aliases and fields. The diagnostic has the cause of that node's own
one, and its ranges followed by those of the references, the last one first, each of them unless it
is there already. -/
theorem linkType_failure (hb : BuiltInOrder files)
    (h : ((ofFiles files).linkType reader .empty .empty scope type).1 = .error e)
    (hcycle : ¬ e.IsCycle) : ∃ vias scope' last node own,
      (ofFiles files).ReferenceChain reader scope type vias scope' last ∧ node.IsPart last ∧
      (ofFiles files).Refuses reader scope' node own ∧
      ((ofFiles files).linkType reader .empty .empty scope' node).1 = .error own ∧
      e.cause = own.cause ∧ e.ranges = vias.reverse.foldl withRange own.ranges := by
  obtain ⟨-, htraces⟩ := ((ofFiles files).linkInvariant_fails reader).runs.1 .empty .empty scope type
  obtain ⟨vias, scope', last, node, own, htraced⟩ := htraces (faithful_empty _ reader) e h hcycle
  exact ⟨vias, scope', last, node, own, htraced.chain, htraced.part, htraced.refused,
    htraced.refused.linkType_eq hb, htraced.cause, htraced.ranges⟩

/-- A field whose type is an alias of another file, which is a tuple with the type of a field, which
means nothing. -/
def chainedFiles : List ParsedFile :=
  parseInOrder
    [(⟨"ws/a"⟩, [.takes 1 "b" "Link" "Link", .names 2 "x" (.named 2 ["Link"])]),
      (⟨"ws/b"⟩, [.names 1 "Link" (.tuple (.onLine 1)
          [.named 2 ["String"], .element 3 ["Line", "stop"]]),
        .record 4 "Line" [] [.names 5 "stop" (.named 5 ["Missing"])]])]

/-- The failure of the field is that of the name in the other file, behind the references through
the field and the alias. -/
theorem linkType_failure_chainedFiles : BuiltInOrder chainedFiles ∧
    ∃ f e vias scope' last node own,
      (ofFiles chainedFiles).fieldIn? ⟨0, []⟩ "x" = some f ∧
      ((ofFiles chainedFiles).linkType 0 .empty .empty f.scope f.type).1 = .error e ∧
      ¬ e.IsCycle ∧ e.ranges.map (·.start.line) = [5, 3, 2] ∧
      (ofFiles chainedFiles).ReferenceChain 0 f.scope f.type vias scope' last ∧
      node.IsPart last ∧ (ofFiles chainedFiles).Refuses 0 scope' node own ∧
      e.ranges = vias.reverse.foldl withRange own.ranges := by
  have hb : BuiltInOrder chainedFiles := builtInOrder_parseInOrder _
  obtain ⟨f, o, r, a, ot, os, text, oe, re, g, om, rm, own, hx, hf, ha, hka, hg, htype, hown, hne,
      hcause, hlines⟩ :
      ∃ f o r a ot os text oe re g om rm own,
        (ofFiles chainedFiles).fieldIn? ⟨0, []⟩ "x" = some f ∧ f.type = .reference o r ∧
        (ofFiles chainedFiles).resolve 0 r o.range f.scope = .ok (.definition a) ∧
        a.kind = .alias (.tuple ot [.fundamental os text, .reference oe re]) ∧
        (ofFiles chainedFiles).resolve 0 re oe.range a.address.scope = .ok (.field g) ∧
        g.type = .reference om rm ∧
        (ofFiles chainedFiles).resolve 0 rm om.range g.scope = .error own ∧ g.id ≠ a.id ∧
        own.cause = .unknownType "Missing" ∧
        (inContext (inContext own oe.range) o.range).ranges.map (·.start.line) = [5, 3, 2] :=
    ⟨_, _, _, _, _, _, _, _, _, _, _, _, _, rfl, rfl, rfl, rfl, rfl, rfl, rfl, by decide, rfl, rfl⟩
  have ka := Holds.id_mem_itemIds (holdsTarget_of_resolve ha) hka
  have kg := holdsTarget_of_resolve hg
  have fresh : a.id ∉ (Trail.empty : Trail (ofFiles chainedFiles).itemIds).stepIds := by
    simp [Trail.stepIds, Trail.empty]
  have fresh' : g.id ∉ (Trail.empty.push ⟨a.id, o.range⟩ fresh ka).stepIds := by
    simp [Trail.stepIds, Trail.empty, Trail.push, hne]
  have herr : ((ofFiles chainedFiles).linkType 0 .empty .empty f.scope f.type).1 =
      .error (inContext (inContext own oe.range) o.range) := by
    rw [hf, linkType_alias ha hka ka, linkAlias_enter rfl fresh ka, linkType_tuple,
      linkTypes_cons_of_ok (by rw [linkType]), linkTypes_cons, linkType_field hg fresh' kg, htype,
      linkType_unresolved hown]
    rfl
  have hcycle : ¬ (inContext (inContext own oe.range) o.range).IsCycle := by
    rw [isCycle_inContext, isCycle_inContext]
    rintro ⟨name, hname⟩
    rw [hcause] at hname
    cases hname
  obtain ⟨vias, scope', last, node, own', hchain, hpart, hrefused, -, -, hranges⟩ :=
    linkType_failure hb herr hcycle
  exact ⟨hb, f, _, vias, scope', last, node, own', hx, herr, hcycle, hlines, hchain, hpart,
    hrefused, hranges⟩

end Table
end Schemata
