import Mathlib
import Schemata.Proofs.Build.Acceptance
import Schemata.Proofs.Build.Sketch
import Schemata.Proofs.Link.Success

/-!
# The shape of linked files

In a linked file every tuple and every variant has a member, no member of a variant stands for a
variant, and the bases of a structure go together. Aliases are seen through, and what is copied in
for them and for references to fields is no exception: it was built and linked like everything else.

**Results:**
* `Table.Means.wellFormed`: what a type means is well formed.
* `Table.linkFile_wellFormed`: a linked file is well formed.
-/
namespace Schemata

/-! ## Well-formed types -/

namespace LinkedType

/-- A chain of aliases leads from the type to the other one, which is no alias. -/
inductive StandsFor : LinkedType → LinkedType → Prop where
  | self {t : LinkedType} (h : t.isAlias = false) : StandsFor t t
  | through (o : Occurrence) (name : Identifier) {aliased t : LinkedType}
      (h : StandsFor aliased t) : StandsFor (.alias o name aliased) t

mutual

/-- Every tuple and every variant in the type, at any depth and behind aliases too, has a member,
and no member of a variant stands for a variant. -/
def WellFormed : LinkedType → Prop
  | fundamental .. | struct .. => True
  | tuple _ members => members ≠ [] ∧ AllWellFormed members
  | variant _ members =>
    members ≠ [] ∧ (∀ m ∈ members, ∀ o nested, ¬ m.StandsFor (.variant o nested)) ∧
      AllWellFormed members
  | .alias _ _ aliased => aliased.WellFormed

/-- The types are well formed. -/
def AllWellFormed : List LinkedType → Prop
  | [] => True
  | t :: ts => t.WellFormed ∧ AllWellFormed ts

end

/-- The bases of a structure go together: there is none, or one that stands for a fundamental type
or a structure, or several that all stand for structures. -/
inductive BasesFit : List LinkedType → Prop where
  | none : BasesFit []
  | fundamental {base : LinkedType} {o : Occurrence} {f : Fundamental}
      (h : base.StandsFor (.fundamental o f)) : BasesFit [base]
  | struct {base : LinkedType} {o : Occurrence} {id : ElementId} {name : Identifier}
      (h : base.StandsFor (.struct o id name)) : BasesFit [base]
  | structs {bases : List LinkedType} (several : 2 ≤ bases.length)
      (h : ∀ base ∈ bases, ∃ o id name, base.StandsFor (.struct o id name)) : BasesFit bases

/-- A chain of aliases leads to one type only. -/
theorem standsFor_iff {t u : LinkedType} : t.StandsFor u ↔ t.target = u := by
  constructor
  · intro h
    induction h with
    | @self t h =>
      cases t with
      | fundamental | struct | tuple | variant => rfl
      | _ => cases h
    | through o name _ ih => exact ih
  · rintro rfl
    induction t using target.induct with
    | case1 o name aliased ih => exact .through o name ih
    | case2 t h =>
      cases t with
      | fundamental | struct | tuple | variant => exact .self rfl
      | _ => exact absurd rfl (h _ _ _)

theorem isVariant_iff {t : LinkedType} :
    t.isVariant = true ↔ ∃ o members, t.StandsFor (.variant o members) := by
  simp only [standsFor_iff, isVariant]
  cases t.target <;> simp

theorem isFundamental_iff {t : LinkedType} :
    t.isFundamental = true ↔ ∃ o f, t.StandsFor (.fundamental o f) := by
  simp only [standsFor_iff, isFundamental]
  cases t.target <;> simp

theorem isSome_structure?_iff {t : LinkedType} :
    t.structure?.isSome = true ↔ ∃ o id name, t.StandsFor (.struct o id name) := by
  simp only [standsFor_iff, structure?]
  cases t.target <;> simp

/-- Bases that are accepted go together. -/
theorem basesFit_of_goTogether {bases : List LinkedType} (h : Table.goTogether bases = true) :
    BasesFit bases := by
  match bases with
  | [] => exact .none
  | [base] =>
    rcases Bool.or_eq_true_iff.1 h with h | h
    · obtain ⟨o, f, h⟩ := isFundamental_iff.1 h
      exact .fundamental h
    · obtain ⟨o, id, name, h⟩ := isSome_structure?_iff.1 h
      exact .struct h
  | first :: second :: rest =>
    refine .structs (by simp) fun base hbase => isSome_structure?_iff.1 ?_
    exact List.all_eq_true.1 h base hbase

theorem WellFormed.withOccurrence {t : LinkedType} (h : t.WellFormed) (o : Occurrence) :
    (t.withOccurrence o).WellFormed := by
  cases t <;> exact h

end LinkedType

namespace Statement

mutual

/-- The types in the statement are well formed, and the bases of structures go together. -/
def WellFormed : Statement LinkedType → Prop
  | item _ _ _ type => type.WellFormed
  | struct _ _ _ bases _ children =>
    LinkedType.BasesFit bases ∧ LinkedType.AllWellFormed bases ∧ AllWellFormed children
  | extension .. | inclusion .. => True

/-- The statements are well formed. -/
def AllWellFormed : List (Statement LinkedType) → Prop
  | [] => True
  | s :: ss => s.WellFormed ∧ AllWellFormed ss

end

end Statement

/-! ## Filled types -/

namespace WrittenType

mutual

/-- Every tuple and every variant in the type has a member. -/
def Filled : WrittenType → Prop
  | fundamental .. | reference .. => True
  | tuple _ members | variant _ members => members ≠ [] ∧ AllFilled members

/-- Every tuple and every variant in the types has a member. -/
def AllFilled : List WrittenType → Prop
  | [] => True
  | t :: ts => t.Filled ∧ AllFilled ts

end

end WrittenType

namespace Statement

mutual

/-- Every tuple and every variant in the types of the statement has a member. -/
def Filled : Statement WrittenType → Prop
  | item _ _ _ type => type.Filled
  | struct _ _ _ bases _ children => WrittenType.AllFilled bases ∧ AllFilled children
  | extension .. | inclusion .. => True

/-- Every tuple and every variant in the types of the statements has a member. -/
def AllFilled : List (Statement WrittenType) → Prop
  | [] => True
  | s :: ss => s.Filled ∧ AllFilled ss

end

theorem AllFilled.of_mem {ss : List (Statement WrittenType)} (h : AllFilled ss)
    {s : Statement WrittenType} (hs : s ∈ ss) : s.Filled := by
  induction ss with
  | nil => cases hs
  | cons u ss ih =>
    rcases List.mem_cons.1 hs with rfl | hs
    · exact h.1
    · exact ih h.2 hs

end Statement

namespace Build

theorem members_ne_nil {r : Range} {isVariant : Bool} {ms : List WrittenType}
    (h : checkMembers r isVariant (ms.map fun t => (t.occurrence.range, t.isVariant)) = .ok ()) :
    ms ≠ [] := by
  have hne := (accepts_checkMembers.ok_iff.1 ⟨(), h⟩).1
  simpa using hne

theorem filled_of_reference {id : ElementId} {range : Range} {c : Cardinality}
    {m : Option Metadata} {r : Reference} {t : WrittenType}
    (h : reference id range c m r = .ok t) : t.Filled := by
  obtain ⟨_, -, h⟩ := bind_eq_ok_iff.1 h
  obtain ⟨f, -, h⟩ := bind_eq_ok_iff.1 h
  split at h <;> injection h with h <;> subst h <;> trivial

mutual

theorem filled_of_type {target : BuildTarget} {number : Nat} (e : Source.TypeExpr)
    {t : WrittenType} (h : type target number e = .ok t) : t.Filled := by
  cases e with
  | reference hd segments isGlobal isElement =>
    obtain ⟨⟨r, c, m⟩, -, h⟩ := bind_eq_ok_iff.1 h
    obtain ⟨names, -, h⟩ := bind_eq_ok_iff.1 h
    exact filled_of_reference h
  | tuple hd members | variant hd members =>
    obtain ⟨⟨r, c, m⟩, -, h⟩ := bind_eq_ok_iff.1 h
    obtain ⟨built, hbuilt, h⟩ := bind_eq_ok_iff.1 h
    obtain ⟨_, hc, h⟩ := bind_eq_ok_iff.1 h
    injection h with h
    subst h
    exact ⟨members_ne_nil hc, allFilled_of_types members hbuilt⟩

theorem allFilled_of_types {target : BuildTarget} {number : Nat} (es : List Source.TypeExpr)
    {ts : List WrittenType} (h : types target number es = .ok ts) : WrittenType.AllFilled ts := by
  match es with
  | [] =>
    injection h with h
    subst h
    trivial
  | e :: rest =>
    obtain ⟨t, ht, h⟩ := bind_eq_ok_iff.1 h
    obtain ⟨ts', hts, h⟩ := bind_eq_ok_iff.1 h
    injection h with h
    subst h
    exact ⟨filled_of_type e ht, allFilled_of_types rest hts⟩

end

mutual

theorem filled_of_statement {target : BuildTarget} {number : Nat} {atRoot : Bool}
    (src : Source.Statement) {s : Statement WrittenType}
    (h : statement target number atRoot src = .ok s) : s.Filled := by
  cases src with
  | item span name e =>
    obtain ⟨_, -, h⟩ := bind_eq_ok_iff.1 h
    obtain ⟨_, -, h⟩ := bind_eq_ok_iff.1 h
    obtain ⟨t, ht, h⟩ := bind_eq_ok_iff.1 h
    injection h with h
    subst h
    exact filled_of_type e ht
  | struct span name bases m children =>
    obtain ⟨_, -, h⟩ := bind_eq_ok_iff.1 h
    obtain ⟨_, -, h⟩ := bind_eq_ok_iff.1 h
    obtain ⟨built, hb, h⟩ := bind_eq_ok_iff.1 h
    obtain ⟨_, -, h⟩ := bind_eq_ok_iff.1 h
    obtain ⟨ss, hs, h⟩ := bind_eq_ok_iff.1 h
    obtain ⟨_, -, h⟩ := bind_eq_ok_iff.1 h
    injection h with h
    subst h
    exact ⟨allFilled_of_types bases hb, allFilled_of_statements children hs⟩
  | extension span name arguments named =>
    obtain ⟨_, -, h⟩ := bind_eq_ok_iff.1 h
    obtain ⟨_, -, h⟩ := bind_eq_ok_iff.1 h
    injection h with h
    subst h
    trivial
  | inclusion span filenameSpan filename items =>
    obtain ⟨_, -, h⟩ := bind_eq_ok_iff.1 h
    cases atRoot with
    | true =>
      obtain ⟨_, -, h⟩ := bind_eq_ok_iff.1 h
      injection h with h
      subst h
      trivial
    | false => cases h
  | root span statements =>
    obtain ⟨_, -, h⟩ := bind_eq_ok_iff.1 h
    cases h

theorem allFilled_of_statements {target : BuildTarget} {number : Nat} {atRoot : Bool}
    (srcs : List Source.Statement) {ss : List (Statement WrittenType)}
    (h : statements target number atRoot srcs = .ok ss) : Statement.AllFilled ss := by
  match srcs with
  | [] =>
    injection h with h
    subst h
    trivial
  | src :: rest =>
    obtain ⟨s, hs, h⟩ := bind_eq_ok_iff.1 h
    obtain ⟨ss', hss, h⟩ := bind_eq_ok_iff.1 h
    injection h with h
    subst h
    exact ⟨filled_of_statement src hs, allFilled_of_statements rest hss⟩

end

end Build

namespace Table

variable {files : List ParsedFile} {t : Table} {reader : Nat}

/-- Every tuple and every variant in a body of a built file has a member. -/
theorem allFilled_of_isBody (hb : BuiltInOrder files) {scope : Address}
    {ss : List (Statement WrittenType)} (h : IsBody files scope ss) : Statement.AllFilled ss := by
  have ⟨_, _, _, source, hs, _⟩ := accepted_of_isBody hb.each h
  exact Build.allFilled_of_statements source hs

theorem HasItem.filled (hb : BuiltInOrder files) {u : Item} (h : (ofFiles files).HasItem u) :
    u.type.Filled := by
  obtain ⟨a, range, hs, -⟩ := h
  have hs := mem_allStatements_iff.1 hs
  unfold statementAt? at hs
  split at hs
  · cases hs
  · have hmem := List.mem_of_getElem? hs
    exact (allFilled_of_isBody hb (isBody_of_mem (shows_ofFiles files) hmem)).of_mem hmem

/-! ## What types mean is well formed -/

theorem MeansAll.ne_nil {scope : Address} {types : List WrittenType} {linked : List LinkedType}
    (h : t.MeansAll reader scope types linked) (hne : types ≠ []) : linked ≠ [] := by
  cases h with
  | nil => exact absurd rfl hne
  | cons => exact List.cons_ne_nil _ _

mutual

/-- What a filled type means is well formed, if the types of aliases and fields are filled. -/
theorem Means.wellFormed (ht : ∀ u, t.HasItem u → u.type.Filled) {scope : Address}
    {type : WrittenType} {linked : LinkedType} (h : t.Means reader scope type linked)
    (hf : type.Filled) : linked.WellFormed := by
  match h with
  | .fundamental .. | .ofStruct .. => trivial
  | .tuple h => exact ⟨h.ne_nil hf.1, h.allWellFormed ht hf.2⟩
  | .variant h hc =>
    refine ⟨h.ne_nil hf.1, fun m hm o nested hnested => ?_, h.allWellFormed ht hf.2⟩
    have hplain := (Build.accepts_checkMembers.ok_iff.1 ⟨(), hc⟩).2 rfl _ (List.mem_map_of_mem hm)
    rw [LinkedType.isVariant_iff.2 ⟨o, nested, hnested⟩] at hplain
    cases hplain
  | .ofAlias hr hk h =>
    exact h.wellFormed ht (ht _ (hasItem_of_mentions (mentions_alias hr hk)))
  | .ofField hr h hp =>
    rw [hp]
    exact (h.wellFormed ht (ht _ (hasItem_of_mentions (mentions_field hr)))).withOccurrence _

theorem MeansAll.allWellFormed (ht : ∀ u, t.HasItem u → u.type.Filled) {scope : Address}
    {types : List WrittenType} {linked : List LinkedType}
    (h : t.MeansAll reader scope types linked) (hf : WrittenType.AllFilled types) :
    LinkedType.AllWellFormed linked := by
  match h with
  | .nil _ => trivial
  | .cons h hs => exact ⟨h.wellFormed ht hf.1, hs.allWellFormed ht hf.2⟩

end

mutual

theorem Links.wellFormed (ht : ∀ u, t.HasItem u → u.type.Filled) {a : Address}
    {s : Statement WrittenType} {linked : Statement LinkedType} (h : t.Links reader a s linked)
    (hf : s.Filled) : linked.WellFormed := by
  match h with
  | .item h => exact h.wellFormed ht hf
  | .struct hbases hgo _ h =>
    exact ⟨LinkedType.basesFit_of_goTogether hgo, hbases.allWellFormed ht hf.1,
      h.allWellFormed ht hf.2⟩
  | .extension .. | .inclusion .. => trivial

theorem LinksFrom.allWellFormed (ht : ∀ u, t.HasItem u → u.type.Filled) {scope : Address}
    {index : Nat} {ss : List (Statement WrittenType)} {linked : List (Statement LinkedType)}
    (h : t.LinksFrom reader scope index ss linked) (hf : Statement.AllFilled ss) :
    Statement.AllWellFormed linked := by
  match h with
  | .nil .. => trivial
  | .cons h hs => exact ⟨h.wellFormed ht hf.1, hs.allWellFormed ht hf.2⟩

end

/-- A linked file is well formed. -/
theorem linkFile_wellFormed (hb : BuiltInOrder files) {file : Nat} {f : ParsedFile}
    (hf : files[file]? = some f) {root : Root LinkedType}
    (h : (ofFiles files).linkFile file f = .ok root) : Statement.AllWellFormed root.statements := by
  obtain ⟨source, hsource, -, -, hlinks⟩ := (linkFile_eq_ok_iff hb hf).1 h
  exact hlinks.allWellFormed (fun _ hu => hu.filled hb) (allFilled_of_isBody hb (.root hf hsource))

/-- A file that takes over an alias of a variant and a structure from another file, and has a tuple
of the alias and of the type of a field that means the alias, and a structure with a base. -/
def shapedFiles : List ParsedFile :=
  parseInOrder
    [(⟨"a"⟩, [.takes 1 "b" "A" "A", .takes 2 "b" "S" "S",
        .names 3 "x" (.tuple (.onLine 3) [.named 3 ["A"], .element 3 ["S", "z"]]),
        .record 4 "T" [.named 4 ["S"]] []]),
      (⟨"b"⟩, [.names 1 "A" (.variant (.onLine 1) [.named 1 ["S"], .named 1 ["Date"]]),
        .record 2 "S" [] [.names 3 "z" (.named 3 ["A"])]])]

/-- The first file is linked, and it is well formed. -/
theorem linkFile_wellFormed_shapedFiles :
    BuiltInOrder shapedFiles ∧ ∃ f root, shapedFiles[0]? = some f ∧
      (ofFiles shapedFiles).linkFile 0 f = .ok root ∧
      Statement.AllWellFormed root.statements := by
  have hb : BuiltInOrder shapedFiles := builtInOrder_parseInOrder _
  obtain ⟨f, hf⟩ : ∃ f, shapedFiles[0]? = some f := ⟨_, rfl⟩
  have hok : (shapedFiles[0]?.all fun f => ((ofFiles shapedFiles).linkFile 0 f).isOk) = true := by
    cbv
  rw [hf, Option.all_some] at hok
  cases hroot : (ofFiles shapedFiles).linkFile 0 f with
  | ok root => exact ⟨hb, f, root, hf, hroot, linkFile_wellFormed hb hf hroot⟩
  | error e =>
    rw [hroot] at hok
    cases hok

end Table
end Schemata
