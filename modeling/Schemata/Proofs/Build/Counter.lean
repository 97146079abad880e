import Mathlib
import Schemata.Proofs.Build.Numbering
import Schemata.Proofs.Build.Sketch

/-!
# Numbers from a counter

A file is built once more with a counter of 32 bits that is handed on from each part to the next:
every statement and every type takes a number when it is begun, before anything in it is built. The
counter starts from 1, and after the largest number it starts again from 0. As long as it does not
get there, what is built is the same as with numbers that are computed from the source.

Results:
* `Build.countedRoot_eq`: a file of fewer than 2^32 elements is built the same with a counter.
* `Build.ids_preorder`: the ids of a built file in pre-order.
-/
namespace Schemata
namespace Build

/-- A part of a build that takes numbers from a counter. -/
abbrev Counted (α : Type) := StateT UInt32 (Except Diagnostic) α

namespace Counted

/-- Takes the next number. -/
def next : Counted Nat := do
  let number ← get
  set (number + 1)
  return number.toNat

/-- A part that takes no number. -/
def check {α : Type} (x : Except Diagnostic α) : Counted α := liftM x

end Counted

open Counted

mutual

/-- A type node; it takes its number before its members. -/
def countedType (target : BuildTarget) : Source.TypeExpr → Counted WrittenType
  | .reference h segments isGlobal isElement => do
    let number ← next
    let (r, c, m) ← check (header target.file h)
    let segments ← check (segments.mapM (identifier target.file))
    check (reference ⟨target.ordinal, number⟩ r c m ⟨segments, isGlobal, isElement⟩)
  | .tuple h members => do
    let number ← next
    let (r, c, m) ← check (header target.file h)
    let members ← countedTypes target members
    check (checkMembers r false (members.map fun t => (t.occurrence.range, t.isVariant)))
    return .tuple ⟨⟨target.ordinal, number⟩, r, c, m.bind Metadata.nonEmpty?⟩ members
  | .variant h members => do
    let number ← next
    let (r, c, m) ← check (header target.file h)
    let members ← countedTypes target members
    check (checkMembers r true (members.map fun t => (t.occurrence.range, t.isVariant)))
    return .variant ⟨⟨target.ordinal, number⟩, r, c, m.bind Metadata.nonEmpty?⟩ members

/-- Type nodes, one after the other. -/
def countedTypes (target : BuildTarget) : List Source.TypeExpr → Counted (List WrittenType)
  | [] => return []
  | t :: ts => do
    let first ← countedType target t
    let rest ← countedTypes target ts
    return first :: rest

end

mutual

/-- A statement; it takes its number before what is in it, and the bases of a structure come before
its children. -/
def countedStatement (target : BuildTarget) (atRoot : Bool) :
    Source.Statement → Counted (Statement WrittenType)
  | .item span name t => do
    let number ← next
    let r ← check (range target.file span)
    let name ← check (itemName target.file name)
    let t ← countedType target t
    return .item ⟨target.ordinal, number⟩ r name t
  | .struct span name bases m children => do
    let number ← next
    let r ← check (range target.file span)
    let name ← check (structName target.file name)
    let built ← countedTypes target bases
    let m ← check (optional (metadata target.file) m)
    let children ← countedStatements target false children
    check (checkUniqueNames children)
    return .struct ⟨target.ordinal, number⟩ r name built m children
  | .extension span name arguments named => do
    let number ← next
    let r ← check (range target.file span)
    let call ← check (extension target.file name arguments named)
    return .extension ⟨target.ordinal, number⟩ r call
  | .inclusion span filenameSpan filename items => do
    let number ← next
    let r ← check (range target.file span)
    if atRoot then
      let i ← check (inclusion target.file filenameSpan filename items)
      return .inclusion ⟨target.ordinal, number⟩ r i
    else check (.error (.located r .invalidIncludePlacement))
  | .root span _ => do
    let _ ← next
    let r ← check (range target.file span)
    check (.error (.located r .nestedRootStatement))

/-- Statements, one after the other. -/
def countedStatements (target : BuildTarget) (atRoot : Bool) :
    List Source.Statement → Counted (List (Statement WrittenType))
  | [] => return []
  | s :: ss => do
    let first ← countedStatement target atRoot s
    let rest ← countedStatements target atRoot ss
    return first :: rest

end

/-- The root of a file, its numbers taken from a counter. -/
def countedRoot (target : BuildTarget) (ss : List Source.Statement) :
    Except Diagnostic (Root WrittenType) := do
  let r ← range target.file (extent ss)
  let (built, _) ← (countedStatements target true ss).run 1
  checkUniqueNames built
  return ⟨r, built⟩

/-! ## The counter in step with the numbers -/

/-- When the counter stands at the number, the one part gives what the other gives, and the counter
stands `count` numbers further on afterwards. -/
def InStep {α : Type} (number count : Nat) (x : Counted α) (y : Except Diagnostic α) : Prop :=
  x.run (UInt32.ofNat number) = y.map fun a => (a, UInt32.ofNat (number + count))

section InStep

variable {α β : Type} {number m n : Nat} {x : Counted α} {y : Except Diagnostic α}

theorem inStep_check (y : Except Diagnostic α) : InStep number 0 (check y) y := by
  cases y <;> rfl

theorem inStep_pure (a : α) : InStep number 0 (pure a) (.ok a) := rfl

/-- After a failure it does not matter where the counter stands. -/
theorem inStep_error (e : Diagnostic) :
    InStep number n (check (.error e) : Counted α) (.error e) := rfl

theorem InStep.bind {f : α → Counted β} {g : α → Except Diagnostic β} (h : InStep number m x y)
    (hf : ∀ a, InStep (number + m) n (f a) (g a)) :
    InStep number (m + n) (x >>= f) (y >>= g) := by
  unfold InStep at h ⊢
  rw [StateT.run_bind, h]
  cases y with
  | error e => rfl
  | ok a =>
    have ha := hf a
    unfold InStep at ha
    rw [Nat.add_assoc] at ha
    exact ha

/-- A part that takes no number before another one. -/
theorem InStep.after {f : α → Counted β} {g : α → Except Diagnostic β} {y : Except Diagnostic α}
    (hf : ∀ a, InStep number n (f a) (g a)) : InStep number n (check y >>= f) (y >>= g) := by
  have hcheck : InStep number 0 (check y) y := inStep_check y
  have h := hcheck.bind hf
  rwa [Nat.zero_add] at h

/-- Taking a number that the counter can stand at. -/
theorem InStep.take {f : Nat → Counted β} {y : Except Diagnostic β} (hlt : number < 2 ^ 32)
    (hf : InStep (number + 1) n (f number) y) : InStep number (n + 1) (next >>= f) y := by
  have hnumber : (UInt32.ofNat number).toNat = number := UInt32.toNat_ofNat_of_lt' hlt
  have hnext : next.run (UInt32.ofNat number) = .ok (number, UInt32.ofNat (number + 1)) := by
    rw [UInt32.ofNat_add]
    exact congrArg (fun k => Except.ok (k, _)) hnumber
  unfold InStep at hf ⊢
  rw [StateT.run_bind, hnext, Nat.add_comm n 1, ← Nat.add_assoc]
  exact hf

end InStep

mutual

/-- A type is in step with its numbers unless they get past the largest. -/
theorem inStep_type (target : BuildTarget) (number : Nat) (e : Source.TypeExpr)
    (few : number + e.count ≤ 2 ^ 32) :
    InStep number e.count (countedType target e) (type target number e) := by
  cases e with
  | reference h segments isGlobal isElement =>
    rw [Source.TypeExpr.count] at few ⊢
    rw [countedType, type]
    refine .take (by omega) (.after fun ⟨r, c, m⟩ => .after fun names => inStep_check _)
  | tuple h members | variant h members =>
    rw [Source.TypeExpr.count] at few ⊢
    rw [countedType, type]
    refine .take (by omega) (.after fun ⟨r, c, m⟩ => ?_)
    have hmembers := inStep_types target (number + 1) members (by omega)
    exact hmembers.bind fun built => .after fun _ => inStep_pure _

theorem inStep_types (target : BuildTarget) (number : Nat) (es : List Source.TypeExpr)
    (few : number + Source.TypeExpr.counts es ≤ 2 ^ 32) :
    InStep number (Source.TypeExpr.counts es) (countedTypes target es)
      (types target number es) := by
  match es with
  | [] =>
    rw [countedTypes, types]
    exact inStep_pure _
  | e :: rest =>
    rw [Source.TypeExpr.counts] at few ⊢
    rw [countedTypes, types]
    have hfirst := inStep_type target number e (by omega)
    have hrest := inStep_types target (number + e.count) rest (by omega)
    exact hfirst.bind fun first => hrest.bind fun ts => inStep_pure _

end

mutual

/-- A statement is in step with its numbers unless they get past the largest. -/
theorem inStep_statement (target : BuildTarget) (number : Nat) (atRoot : Bool)
    (s : Source.Statement) (few : number + s.count ≤ 2 ^ 32) :
    InStep number s.count (countedStatement target atRoot s)
      (statement target number atRoot s) := by
  cases s with
  | item span name e =>
    rw [Source.Statement.count] at few ⊢
    rw [countedStatement, statement]
    refine .take (by omega) (.after fun r => .after fun n => ?_)
    have htype := inStep_type target (number + 1) e (by omega)
    exact htype.bind fun t => inStep_pure _
  | struct span name bases m children =>
    rw [Source.Statement.count] at few ⊢
    rw [countedStatement, statement]
    refine .take (by omega) (.after fun r => .after fun n => ?_)
    have hbases := inStep_types target (number + 1) bases (by omega)
    have hchildren := inStep_statements target (number + 1 + Source.TypeExpr.counts bases) false
      children (by omega)
    exact hbases.bind fun built => .after fun metadata =>
      hchildren.bind fun inner => .after fun _ => inStep_pure _
  | extension span name arguments named =>
    rw [Source.Statement.count] at few ⊢
    rw [countedStatement, statement]
    exact .take (by omega) (.after fun r => .after fun call => inStep_pure _)
  | inclusion span filenameSpan filename items =>
    rw [Source.Statement.count] at few ⊢
    rw [countedStatement, statement]
    refine .take (by omega) (.after fun r => ?_)
    cases atRoot with
    | true => exact .after fun i => inStep_pure _
    | false => exact inStep_error _
  | root span inner =>
    rw [Source.Statement.count] at few ⊢
    rw [countedStatement, statement]
    exact .take (by omega) (.after fun r => inStep_error _)

theorem inStep_statements (target : BuildTarget) (number : Nat) (atRoot : Bool)
    (ss : List Source.Statement) (few : number + Source.Statement.counts ss ≤ 2 ^ 32) :
    InStep number (Source.Statement.counts ss) (countedStatements target atRoot ss)
      (statements target number atRoot ss) := by
  match ss with
  | [] =>
    rw [countedStatements, statements]
    exact inStep_pure _
  | s :: rest =>
    rw [Source.Statement.counts] at few ⊢
    rw [countedStatements, statements]
    have hfirst := inStep_statement target number atRoot s (by omega)
    have hrest := inStep_statements target (number + s.count) atRoot rest (by omega)
    exact hfirst.bind fun first => hrest.bind fun built => inStep_pure _

end

/-- A file of fewer than 2^32 elements is built the same with a counter. -/
theorem countedRoot_eq {target : BuildTarget} {source : List Source.Statement}
    (few : Source.Statement.counts source < 2 ^ 32) :
    countedRoot target source = root target source := by
  have hstatements := inStep_statements target 1 true source (by omega)
  unfold countedRoot root
  congr 1
  funext r
  unfold InStep at hstatements
  rw [show (1 : UInt32) = UInt32.ofNat 1 from rfl, hstatements]
  cases statements target 1 true source <;> rfl

/-- The ids of a built file, read in pre-order, are numbered from 1 up to the number of statements
and types in its source, whether the numbers are computed or taken from a counter. No two of them
are the same, and none of them is an id of a file with another ordinal. -/
theorem ids_preorder {target : BuildTarget} {source : List Source.Statement}
    (few : Source.Statement.counts source < 2 ^ 32) {r : Root WrittenType}
    (h : root target source = .ok r) :
    countedRoot target source = .ok r ∧
      Statement.nodeIdsOf r.statements =
        (List.range' 1 (Source.Statement.counts source)).map (ElementId.mk target.ordinal) ∧
      (Statement.nodeIdsOf r.statements).Nodup ∧
      ∀ other source' r', root other source' = .ok r' → other.ordinal ≠ target.ordinal →
        (Statement.nodeIdsOf r.statements).Disjoint (Statement.nodeIdsOf r'.statements) := by
  have hids := nodeIds_of_root h
  refine ⟨(countedRoot_eq few).trans h, hids, ?_, ?_⟩
  · rw [hids]
    exact nodup_idsFrom _ _ _
  · intro other source' r' h' hne id hid hid'
    rw [hids] at hid
    rw [nodeIds_of_root h'] at hid'
    exact hne ((ordinal_of_mem_idsFrom hid').symm.trans (ordinal_of_mem_idsFrom hid))

/-- An include, a structure with a base, and in it a field whose type is a tuple. -/
def nestedSource : List Source.Statement :=
  [.takes 1 "b" "P" "P",
    .record 2 "S" [.named 2 ["P"]]
      [.names 3 "x" (.tuple (.onLine 3) [.named 3 ["Date"], .named 3 ["P"]])]]

/-- The include has the first number, then come the structure, its base, the field, the tuple and
its members. -/
theorem ids_preorder_nestedSource :
    Source.Statement.counts nestedSource < 2 ^ 32 ∧
      ∃ r r', root ⟨⟨"a"⟩, 3⟩ nestedSource = .ok r ∧ root ⟨⟨"b"⟩, 4⟩ nestedSource = .ok r' ∧
        countedRoot ⟨⟨"a"⟩, 3⟩ nestedSource = .ok r ∧
        Statement.nodeIdsOf r.statements =
          [⟨3, 1⟩, ⟨3, 2⟩, ⟨3, 3⟩, ⟨3, 4⟩, ⟨3, 5⟩, ⟨3, 6⟩, ⟨3, 7⟩] ∧
        (Statement.nodeIdsOf r.statements).Nodup ∧
        (Statement.nodeIdsOf r.statements).Disjoint (Statement.nodeIdsOf r'.statements) := by
  have few : Source.Statement.counts nestedSource < 2 ^ 32 := by decide
  obtain ⟨r, hr⟩ : ∃ r, root ⟨⟨"a"⟩, 3⟩ nestedSource = .ok r := ⟨_, rfl⟩
  obtain ⟨r', hr'⟩ : ∃ r', root ⟨⟨"b"⟩, 4⟩ nestedSource = .ok r' := ⟨_, rfl⟩
  obtain ⟨hcounted, hids, hnodup, hapart⟩ := ids_preorder few hr
  exact ⟨few, r, r', hr, hr', hcounted, hids, hnodup, hapart _ _ _ hr' (by decide)⟩

end Build
end Schemata
