import Schemata.Proofs.Table.Lexical
import Schemata.Proofs.Table.Reader

/-!
# Encapsulation

A file sees of the other files only what they offer: the public types at their roots. An include
hands on what its target declares itself, never what the target has from includes of its own, and a
dotted name passes through public members alone.

**Results:**
* `Table.resolveRest_eq_ok_iff`: names behind a definition lead along public members, and wherever
  such members lead.
* `Table.offered_of_resolveFirst`: a first name that leaves its file means something offered.
* `Table.encapsulation`: what a reference means, and everything on the way to it, stands in the file
  of the reference or is public.
-/
namespace Schemata

/-- The file of what a reference means. -/
def ReferenceTarget.file : ReferenceTarget → Nat
  | .definition d => d.address.file
  | .field f => f.scope.file

/-- Everyone may use what a reference means. -/
def ReferenceTarget.isPublic : ReferenceTarget → Bool
  | .definition d => d.isPublic
  | .field f => f.name.visibility == .isPublic

/-- A type that a file offers to the others: a public one, declared at the root of the file. -/
structure Offered (files : List ParsedFile) (d : Definition) : Prop where
  declared : DefinesType files ⟨d.address.file, []⟩ d.name.name d
  isPublic : d.isPublic = true

/-- How a file comes by a type of another file: an include of the file binds the name to it, or a
global reference finds it under its own name. -/
inductive Obtains (files : List ParsedFile) (file : Nat) (isGlobal : Bool) (name : String)
    (d : Definition) : Prop where
  /-- An include binds the name. -/
  | included (h : Binds files file name d)
  /-- The reference is global. -/
  | global (h : isGlobal = true) (hn : d.name.name = name)

/-- Names lead from a definition to what they mean, each to a public member of the body before it.
The last name of an element reference is that of a field, and every other one that of a type. -/
inductive Leads (files : List ParsedFile) (isElement : Bool) :
    Definition → List Identifier → ReferenceTarget → Prop where
  /-- There is no further name. -/
  | here (d : Definition) : Leads files isElement d [] (.definition d)
  /-- The next name is that of a type. -/
  | type {d next : Definition} {name : Identifier} {rest : List Identifier}
      {target : ReferenceTarget} (hlast : ¬ (isElement && rest.isEmpty) = true)
      (defines : DefinesType files d.address name.name next) (isPublic : next.isPublic = true)
      (h : Leads files isElement next rest target) : Leads files isElement d (name :: rest) target
  /-- The last name is that of a field. -/
  | field {d : Definition} {name : Identifier} {f : Field} (element : isElement = true)
      (defines : DefinesField files d.address name.name f)
      (isPublic : f.name.visibility = .isPublic) : Leads files isElement d [name] (.field f)

theorem checkAccessible_eq_ok_iff {definition name : Identifier} :
    checkAccessible definition name = .ok () ↔ definition.visibility = .isPublic := by
  unfold checkAccessible
  cases definition.visibility <;> simp

theorem isPublic_iff {d : Definition} : d.isPublic = true ↔ d.name.visibility = .isPublic := by
  unfold Definition.isPublic
  cases d.name.visibility <;> decide

variable {files : List ParsedFile}

/-- A definition that a body makes stands in the file of the body. -/
theorem DefinesType.file_eq {scope : Address} {name : String} {d : Definition}
    (h : DefinesType files scope name d) : d.address.file = scope.file := by
  obtain ⟨-, -, hd, -⟩ := h
  rw [Table.address_ofStatement? hd]
  rfl

theorem DefinesField.file_eq {scope : Address} {name : String} {f : Field}
    (h : DefinesField files scope name f) : f.scope.file = scope.file := by
  obtain ⟨-, -, hf, -⟩ := h
  unfold Field.ofStatement? at hf
  split at hf
  · split at hf
    · injection hf with hf
      rw [← hf]
    · cases hf
  · cases hf

/-- A public type at the root of a file is offered. -/
theorem DefinesType.offered {file : Nat} {name : String} {d : Definition}
    (h : DefinesType files ⟨file, []⟩ name d) (hd : d.isPublic = true) : Offered files d := by
  have hfile : d.address.file = file := h.file_eq
  exact ⟨by rwa [hfile, h.name_eq], hd⟩

theorem Binds.offered {file : Nat} {name : String} {d : Definition}
    (h : Binds files file name d) : Offered files d := by
  obtain ⟨-, -, -, -, -, -, defines, hd⟩ := h
  exact defines.offered hd

/-! ## Names behind a definition -/

/-- Members stand in the file of the structure. -/
theorem Leads.file_eq {isElement : Bool} {d : Definition} {names : List Identifier}
    {target : ReferenceTarget} (h : Leads files isElement d names target) :
    target.file = d.address.file := by
  induction h with
  | here => rfl
  | type _ defines _ _ ih => rw [ih, defines.file_eq]
  | field _ defines _ => exact defines.file_eq

/-- Whatever a further name means is public. -/
theorem Leads.isPublic {isElement : Bool} {d : Definition} {names : List Identifier}
    {target : ReferenceTarget} (h : Leads files isElement d names target)
    (hd : names = [] → d.isPublic = true) : target.isPublic = true := by
  induction h with
  | here => exact hd rfl
  | type _ _ isPublic _ ih => exact ih fun _ => isPublic
  | field _ _ isPublic => simp [ReferenceTarget.isPublic, isPublic]

namespace Table

/-- Names behind a definition lead along public members, and wherever such members lead. -/
theorem resolveRest_eq_ok_iff (hb : BuiltInOrder files) {isElement : Bool} {d : Definition}
    {names : List Identifier} {target : ReferenceTarget} {scope : Address} {outer : String}
    (hd : DefinesType files scope outer d) :
    (ofFiles files).resolveRest isElement d names = .ok target ↔
      Leads files isElement d names target := by
  constructor
  · intro h
    induction names generalizing d scope outer with
    | nil =>
      injection h with h
      exact h ▸ .here d
    | cons name rest ih =>
      rw [resolveRest] at h
      split at h
      · cases h
      · split at h
        · rename_i hlast
          simp only [Bool.and_eq_true, List.isEmpty_iff] at hlast
          split at h
          · rename_i f hf
            obtain ⟨_, hacc, h⟩ := bind_eq_ok_iff.1 h
            injection h with h
            have hdef := (memberField?_eq_some_iff hb hd).1 hf
            rw [← h, hlast.2]
            exact .field hlast.1 hdef (checkAccessible_eq_ok_iff.1 hacc)
          · cases h
        · rename_i hlast
          split at h
          · rename_i next hn
            obtain ⟨_, hacc, h⟩ := bind_eq_ok_iff.1 h
            have hdef := (memberType?_eq_some_iff hb hd).1 hn
            have hpub := isPublic_iff.2 (checkAccessible_eq_ok_iff.1 hacc)
            exact .type hlast hdef hpub (ih hdef h)
          · cases h
  · intro h
    induction h generalizing scope outer with
    | here => rfl
    | @type d next name rest target hlast defines isPublic _ ih =>
      have hmember := (memberType?_eq_some_iff hb hd).2 defines
      have hstruct : d.isStruct = true := by
        unfold memberType? at hmember
        split at hmember
        · assumption
        · cases hmember
      have hacc : checkAccessible next.name name = .ok () :=
        checkAccessible_eq_ok_iff.2 (isPublic_iff.1 isPublic)
      rw [resolveRest, hstruct, if_neg (by simp), if_neg hlast]
      simp only [hmember, hacc]
      exact ih defines
    | @field d name f element defines isPublic =>
      have hmember := (memberField?_eq_some_iff hb hd).2 defines
      have hstruct : d.isStruct = true := by
        unfold memberField? at hmember
        split at hmember
        · assumption
        · cases hmember
      have hacc : checkAccessible f.name name = .ok () := checkAccessible_eq_ok_iff.2 isPublic
      rw [resolveRest, hstruct, if_neg (by simp), if_pos (by simp [element])]
      simp only [hmember, hacc]
      rfl

/-! ## The first name -/

/-- A name that is found around a scope is defined by a body of the same file, or an include of the
file binds it. -/
theorem definesType_or_binds_of_lookup? {scope : Address} {name : String} {d : Definition}
    (h : (ofFiles files).lookup? scope name = some d) :
    (∃ around : Address, around.file = scope.file ∧ DefinesType files around name d) ∨
      Binds files scope.file name d := by
  have ht := shows_ofFiles files
  obtain ⟨file, path⟩ := scope
  unfold lookup? at h
  induction path with
  | nil =>
    rcases orElse_eq_some_iff.1 h with h | ⟨-, h⟩
    · exact .inl ⟨_, rfl, definesType_of_typeIn? ht h⟩
    · exact .inr (binds_of_imported? h)
  | cons index outer ih =>
    rcases orElse_eq_some_iff.1 h with h | ⟨-, h⟩
    · exact .inl ⟨_, rfl, definesType_of_typeIn? ht h⟩
    · exact ih h

/-- What a first name means: a type of the same file, or one that another file offers and that the
file obtains. -/
theorem offered_of_resolveFirst {reader : Nat} {scope : Address} {isGlobal : Bool}
    {name : Identifier} {d : Definition}
    (h : (ofFiles files).resolveFirst reader scope isGlobal name = .ok d) :
    (∃ around, DefinesType files around d.name.name d) ∧
      (d.address.file ≠ scope.file →
        Offered files d ∧ Obtains files scope.file isGlobal name.name d) := by
  unfold resolveFirst at h
  split at h
  · rename_i heq
    injection h with h
    subst h
    rcases definesType_or_binds_of_lookup? heq with ⟨around, haround, hd⟩ | hbinds
    · refine ⟨⟨around, hd.name_eq ▸ hd⟩, fun hne => ?_⟩
      exact absurd (hd.file_eq.trans haround) hne
    · exact ⟨⟨_, hbinds.offered.declared⟩, fun _ => ⟨hbinds.offered, .included hbinds⟩⟩
  · split at h
    · rename_i hglobal
      split at h
      · cases h
      · rename_i heq
        injection h with h
        subst h
        obtain ⟨file, -, hexp, hpub⟩ :=
          mem_globalCandidates_iff.1 (heq ▸ List.mem_singleton_self _)
        have hd := definesType_of_typeIn? (shows_ofFiles files) hexp
        have hoffered := hd.offered hpub
        exact ⟨⟨_, hoffered.declared⟩, fun _ => ⟨hoffered, .global hglobal hd.name_eq⟩⟩
      · cases h
    · cases h

/-- Files are encapsulated. A reference that means something, whoever reads it, has a first name
that means a type of the file of the reference or one that the root of another file declares and
offers, and every further name is that of a public member. So what a reference means stands in the
file of the reference or is public. -/
theorem encapsulation (hb : BuiltInOrder files) {reader : Nat} {r : Reference} {range : Range}
    {scope : Address} {target : ReferenceTarget}
    (h : (ofFiles files).resolve reader r range scope = .ok target) :
    ∃ first rest d, r.segments = first :: rest ∧
      (ofFiles files).resolveFirst reader scope r.isGlobal first = .ok d ∧
      Leads files r.isElement d rest target ∧
      (d.address.file ≠ scope.file →
        Offered files d ∧ Obtains files scope.file r.isGlobal first.name d) ∧
      (target.file ≠ scope.file → target.isPublic = true) := by
  unfold resolve at h
  split at h
  · cases h
  · rename_i first rest hseg
    obtain ⟨d, hfirst, hrest⟩ := bind_eq_ok_iff.1 h
    obtain ⟨⟨around, hd⟩, hoffered⟩ := offered_of_resolveFirst hfirst
    have hleads := (resolveRest_eq_ok_iff hb hd).1 hrest
    refine ⟨first, rest, d, hseg, hfirst, hleads, hoffered, fun hne => hleads.isPublic fun _ => ?_⟩
    rw [hleads.file_eq] at hne
    exact (hoffered hne).1.isPublic

/-- A field whose type is a structure within a structure of another file, which an include takes
over under another name. -/
def renamedFiles : List ParsedFile :=
  parseInOrder
    [(⟨"ws/a"⟩, [.takes 1 "b" "Point" "Place", .names 2 "x" (.named 2 ["Place", "Inner"])]),
      (⟨"ws/b"⟩, [.record 1 "Point" [] [.record 2 "Inner" [] [], .record 3 "_Hidden" [] []]])]

/-- The first name of the type leaves the file for what the other file offers. -/
theorem encapsulation_renamedFiles :
    BuiltInOrder renamedFiles ∧ ∃ r range target d,
      (ofFiles renamedFiles).resolve 0 r range ⟨0, []⟩ = .ok target ∧
      r.segments.map (·.name) = ["Place", "Inner"] ∧ d.address = ⟨1, [0]⟩ ∧
      Offered renamedFiles d ∧ Obtains renamedFiles 0 false "Place" d ∧
      target.file = 1 ∧ target.isPublic = true := by
  have hb : BuiltInOrder renamedFiles := builtInOrder_parseInOrder _
  obtain ⟨f, o, r, first, rest, d, e, hx, hf, hglobal, hseg, hfirst, hr, hnames, hname, hd, hfile⟩ :
      ∃ f o r first rest d e, (ofFiles renamedFiles).fieldIn? ⟨0, []⟩ "x" = some f ∧
        f.type = .reference o r ∧ r.isGlobal = false ∧ r.segments = first :: rest ∧
        (ofFiles renamedFiles).resolveFirst 0 ⟨0, []⟩ false first = .ok d ∧
        (ofFiles renamedFiles).resolve 0 r o.range ⟨0, []⟩ = .ok (.definition e) ∧
        r.segments.map (·.name) = ["Place", "Inner"] ∧ first.name = "Place" ∧
        d.address = ⟨1, [0]⟩ ∧ e.address.file = 1 :=
    ⟨_, _, _, _, _, _, _, rfl, rfl, rfl, rfl, rfl, rfl, rfl, rfl, rfl, rfl⟩
  obtain ⟨first', rest', d', hseg', hfirst', -, hoffered, hpublic⟩ := encapsulation hb hr
  rw [hseg, List.cons.injEq] at hseg'
  rw [← hseg'.1, hglobal, hfirst, Except.ok.injEq] at hfirst'
  subst hfirst'
  rw [← hseg'.1, hglobal, hname] at hoffered
  have hleaves := hoffered (by simp [hd])
  exact ⟨hb, r, o.range, _, d, hr, hnames, hd, hleaves.1, hleaves.2, hfile,
    hpublic (by simp [ReferenceTarget.file, hfile])⟩

end Table
end Schemata
