import Schemata.Outcome
import Schemata.Table.Include

/-!
# References

What a dotted name means in a scope. The first name is looked up from the scope outwards; a global
one may also be the only public type of its name in another file. Every further name is that of a
public definition within the one before it.

Results: `Table.holdsTarget_of_resolve` (what a reference resolves to is in the table).
-/
namespace Schemata

/-- The name stands for nothing. -/
def unknownName (name : Identifier) : Diagnostic :=
  .located name.range (.unknownType name.name)

/-- Names behind the first one have to be those of public definitions. -/
def checkAccessible (definition name : Identifier) : Except Diagnostic Unit :=
  match definition.visibility with
  | .isPublic => .ok ()
  | .isProtected => .error (.located name.range (.protectedTypeNotAccessible name.name))
  | .isPrivate => .error (.located name.range (.privateTypeNotAccessible name.name))

/-- What a reference means. -/
inductive ReferenceTarget where
  /-- A type. -/
  | definition (d : Definition)
  /-- The type of a field. -/
  | field (f : Field)
  deriving Inhabited

namespace Table

/-- What the first name of a reference means for a file: what it means in the scope, or else, if the
reference is global, the only public definition of the name in another file. -/
def resolveFirst (t : Table) (reader : Nat) (scope : Address) (isGlobal : Bool)
    (name : Identifier) : Except Diagnostic Definition :=
  match t.lookup? scope name.name with
  | some d => .ok d
  | none =>
    if isGlobal then
      match t.globalCandidates reader name.name with
      | [] => .error (unknownName name)
      | [d] => .ok d
      | candidates =>
        .error ⟨.ambiguousTypeReference name.name, name.range, candidates.map (·.name.range)⟩
    else .error (unknownName name)

/-- What the names behind a definition mean, each within the one before it. The last name of an
element reference is that of a field. -/
def resolveRest (t : Table) (isElement : Bool) (d : Definition) :
    List Identifier → Except Diagnostic ReferenceTarget
  | [] => .ok (.definition d)
  | name :: rest =>
    if !d.isStruct then .error (unknownName name)
    else if isElement && rest.isEmpty then
      match t.memberField? d name.name with
      | some f => do
        checkAccessible f.name name
        return .field f
      | none => .error (unknownName name)
    else
      match t.memberType? d name.name with
      | some next => do
        checkAccessible next.name name
        t.resolveRest isElement next rest
      | none => .error (unknownName name)

/-- What a reference in a scope means for a file. -/
def resolve (t : Table) (reader : Nat) (r : Reference) (range : Range) (scope : Address) :
    Except Diagnostic ReferenceTarget :=
  match r.segments with
  | [] => .error (.located range (.unknownType r.text))
  | first :: rest => do
    let d ← t.resolveFirst reader scope r.isGlobal first
    t.resolveRest r.isElement d rest

/-- A definition is made by a statement of the table. -/
def Holds (t : Table) (d : Definition) : Prop :=
  ∃ s, (d.address, s) ∈ t.allStatements ∧ Definition.ofStatement? d.address s = some d

theorem address_ofStatement? {a : Address} {s : Statement WrittenType} {d : Definition}
    (h : Definition.ofStatement? a s = some d) : d.address = a := by
  unfold Definition.ofStatement? at h
  split at h
  · split at h
    · injection h with h; rw [← h]
    · cases h
  · injection h with h; rw [← h]
  · cases h

theorem holds_of_definitionAt? {t : Table} {a : Address} {d : Definition}
    (h : t.definitionAt? a = some d) : t.Holds d := by
  obtain ⟨s, hs, hd⟩ := Option.bind_eq_some_iff.1 h
  obtain rfl := address_ofStatement? hd
  exact ⟨s, statementAt?_mem hs, hd⟩

theorem holds_of_definitionOf? {t : Table} {id : ElementId} {d : Definition}
    (h : t.definitionOf? id = some d) : t.Holds d := by
  obtain ⟨h, _⟩ := List.mem_filter.1 (List.mem_of_getLast? h)
  obtain ⟨⟨a, s⟩, hm, hd⟩ := List.mem_filterMap.1 h
  obtain rfl := address_ofStatement? hd
  exact ⟨s, hm, hd⟩

theorem holds_of_typeIn? {t : Table} {scope : Address} {name : String} {d : Definition}
    (h : t.typeIn? scope name = some d) : t.Holds d := by
  obtain ⟨_, _, h⟩ := Option.bind_eq_some_iff.1 h
  exact holds_of_definitionAt? h

theorem holds_of_imported? {t : Table} {file : Nat} {name : String} {d : Definition}
    (h : t.imported? file name = some d) : t.Holds d := by
  obtain ⟨_, _, h⟩ := Option.bind_eq_some_iff.1 h
  exact holds_of_definitionAt? h

theorem holds_of_lookup? {t : Table} {scope : Address} {name : String} {d : Definition}
    (h : t.lookup? scope name = some d) : t.Holds d := by
  obtain ⟨file, path⟩ := scope
  unfold lookup? at h
  induction path with
  | nil =>
    rcases orElse_eq_some_iff.1 h with h | ⟨_, h⟩
    · exact holds_of_typeIn? h
    · exact holds_of_imported? h
  | cons index outer ih =>
    rcases orElse_eq_some_iff.1 h with h | ⟨_, h⟩
    · exact holds_of_typeIn? h
    · exact ih h

theorem holds_of_mem_globalCandidates {t : Table} {reader : Nat} {name : String} {d : Definition}
    (h : d ∈ t.globalCandidates reader name) : t.Holds d := by
  obtain ⟨_, _, h⟩ := List.mem_filterMap.1 h
  exact holds_of_typeIn? (Option.filter_eq_some_iff.1 h).1

theorem holds_of_resolveFirst {t : Table} {reader : Nat} {scope : Address} {isGlobal : Bool}
    {name : Identifier} {d : Definition}
    (h : t.resolveFirst reader scope isGlobal name = .ok d) : t.Holds d := by
  unfold resolveFirst at h
  split at h
  · rename_i heq
    injection h with h
    exact h ▸ holds_of_lookup? heq
  · split at h
    · split at h
      · cases h
      · rename_i heq
        injection h with h
        subst h
        exact holds_of_mem_globalCandidates (by rw [heq]; exact List.mem_singleton_self _)
      · cases h
    · cases h

/-- An alias of the table has the id of an item. -/
theorem Holds.id_mem_itemIds {t : Table} {d : Definition} {type : WrittenType} (h : t.Holds d)
    (hd : d.kind = .alias type) : d.id ∈ t.itemIds := by
  obtain ⟨s, hs, ho⟩ := h
  refine List.mem_filterMap.2 ⟨_, hs, ?_⟩
  unfold Definition.ofStatement? at ho
  split at ho
  · split at ho
    · injection ho with ho; rw [← ho]
    · cases ho
  · injection ho with ho; rw [← ho] at hd; cases hd
  · cases ho

/-- A structure of the table has the id of a structure. -/
theorem Holds.id_mem_structIds {t : Table} {d : Definition} {bases : List WrittenType}
    (h : t.Holds d) (hd : d.kind = .struct bases) : d.id ∈ t.structIds := by
  obtain ⟨s, hs, ho⟩ := h
  refine List.mem_filterMap.2 ⟨_, hs, ?_⟩
  unfold Definition.ofStatement? at ho
  split at ho
  · split at ho
    · injection ho with ho; rw [← ho] at hd; cases hd
    · cases ho
  · injection ho with ho; rw [← ho]
  · cases ho

/-- A field that a scope of the table defines has the id of an item. -/
theorem id_mem_itemIds_of_fieldIn? {t : Table} {scope : Address} {name : String} {f : Field}
    (h : t.fieldIn? scope name = some f) : f.id ∈ t.itemIds := by
  obtain ⟨s, hs, hf⟩ := Option.bind_eq_some_iff.1 h
  obtain ⟨index, hi⟩ := List.mem_iff_getElem?.1 (List.mem_of_find?_eq_some hs)
  have hmem : (scope.child index, s) ∈ t.allStatements := statementAt?_mem hi
  refine List.mem_filterMap.2 ⟨_, hmem, ?_⟩
  unfold Field.ofStatement? at hf
  split at hf
  · split at hf
    · injection hf with hf; rw [← hf]
    · cases hf
  · cases hf

/-- What a reference may resolve to: what the table has. -/
def HoldsTarget (t : Table) : ReferenceTarget → Prop
  | .definition d => t.Holds d
  | .field f => f.id ∈ t.itemIds

theorem holdsTarget_of_resolveRest {t : Table} {isElement : Bool} {d : Definition}
    {names : List Identifier} {target : ReferenceTarget} (hd : t.Holds d)
    (h : t.resolveRest isElement d names = .ok target) : t.HoldsTarget target := by
  induction names generalizing d with
  | nil =>
    injection h with h
    exact h ▸ hd
  | cons name rest ih =>
    rw [resolveRest] at h
    split at h
    · cases h
    · split at h
      · split at h
        · rename_i f hf
          obtain ⟨_, _, h⟩ := bind_eq_ok_iff.1 h
          injection h with h
          subst h
          unfold memberField? at hf
          split at hf
          · exact id_mem_itemIds_of_fieldIn? hf
          · cases hf
        · cases h
      · split at h
        · rename_i next hn
          obtain ⟨_, _, h⟩ := bind_eq_ok_iff.1 h
          refine ih ?_ h
          unfold memberType? at hn
          split at hn
          · exact holds_of_typeIn? hn
          · cases hn
        · cases h

/-- What a reference resolves to is in the table. -/
theorem holdsTarget_of_resolve {t : Table} {reader : Nat} {r : Reference} {range : Range}
    {scope : Address} {target : ReferenceTarget}
    (h : t.resolve reader r range scope = .ok target) : t.HoldsTarget target := by
  unfold resolve at h
  split at h
  · cases h
  · obtain ⟨d, hd, h⟩ := bind_eq_ok_iff.1 h
    exact holdsTarget_of_resolveRest (holds_of_resolveFirst hd) h

end Table
end Schemata
