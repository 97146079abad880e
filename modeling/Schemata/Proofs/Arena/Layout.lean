import Mathlib
import Schemata.Arena
import Schemata.Proofs.Table.Binding

/-!
# The layout of an arena

Declaring files fills an arena with scopes and symbols by turns, down into every structure and up
again. What comes of it can be said without the recursion: there is a scope for each body and a symbol
for each definition, in the order of reading, and the number of each is its place in that order.

A run is described by its log, which lists what has been declared so far. The scopes, the symbols and
what is found in them are functions of the log, and every step of declaring adds an entry to it.

Results:
* `Arena.declareStatements_laid`: what declaring the statements of a scope adds.
* `Arena.declareFile_laid`, `Arena.declareFiles_declared`: what declaring files makes of an arena.
-/
namespace Schemata
namespace Arena

/-! ## Dictionaries made from lists -/

namespace Dictionary
variable {κ α : Type} [BEq κ]

/-- The dictionary of some entries; a later one takes the place of an earlier one of its key. -/
def ofList (entries : List (κ × α)) : Dictionary κ α :=
  entries.foldl (fun m e => m.insert e.1 e.2) empty

theorem ofList_concat (entries : List (κ × α)) (key : κ) (value : α) :
    ofList (entries ++ [(key, value)]) = (ofList entries).insert key value := by
  simp only [ofList, List.foldl_append, List.foldl_cons, List.foldl_nil]

variable [LawfulBEq κ]

theorem isSome_get?_ofList (entries : List (κ × α)) (key : κ) :
    ((ofList entries).get? key).isSome = entries.any (·.1 == key) := by
  induction entries using List.reverseRecOn with
  | nil => rfl
  | append_singleton entries e ih =>
    obtain ⟨k, v⟩ := e
    rw [ofList_concat, get?_insert, List.any_append, ← ih]
    by_cases h : key = k
    · simp [h]
    · simp [h, Ne.symm h]

theorem mem_of_get?_ofList {entries : List (κ × α)} {key : κ} {value : α}
    (h : (ofList entries).get? key = some value) : (key, value) ∈ entries := by
  induction entries using List.reverseRecOn with
  | nil => cases h
  | append_singleton entries e ih =>
    obtain ⟨k, v⟩ := e
    rw [ofList_concat, get?_insert] at h
    rw [List.mem_append, List.mem_singleton]
    split at h
    · rename_i hk
      cases h
      exact .inr (by rw [eq_of_beq hk])
    · exact .inl (ih h)

/-- The value of a key is that of its entries, if they agree. -/
theorem get?_ofList_eq_some_iff {entries : List (κ × α)} {key : κ}
    (hu : ∀ v w, (key, v) ∈ entries → (key, w) ∈ entries → v = w) {value : α} :
    (ofList entries).get? key = some value ↔ (key, value) ∈ entries := by
  refine ⟨mem_of_get?_ofList, fun h => ?_⟩
  have hfound : ((ofList entries).get? key).isSome = true := by
    rw [isSome_get?_ofList]
    exact List.any_eq_true.2 ⟨_, h, BEq.rfl⟩
  obtain ⟨found, hfound⟩ := Option.isSome_iff_exists.1 hfound
  rw [hfound, hu found value (mem_of_get?_ofList hfound) h]

/-- If no key has two entries, the value of a key is that of its first one. -/
theorem get?_ofList_of_nodup {entries : List (κ × α)} (hn : (entries.map (·.1)).Nodup) (key : κ) :
    (ofList entries).get? key = (entries.find? (·.1 == key)).map (·.2) := by
  cases hfind : entries.find? (·.1 == key) with
  | none =>
    have hany : entries.any (·.1 == key) = false := by
      simpa using List.find?_eq_none.1 hfind
    rw [← isSome_get?_ofList, Option.isSome_eq_false_iff, Option.isNone_iff_eq_none] at hany
    exact hany
  | some e =>
    obtain ⟨k, v⟩ := e
    have hk : k = key := by simpa using List.find?_some hfind
    refine (get?_ofList_eq_some_iff fun v w hv hw => ?_).2 (hk ▸ List.mem_of_find?_eq_some hfind)
    exact (Prod.mk.inj (List.inj_on_of_nodup_map hn hv hw rfl)).2

/-- If no key has two entries, none of them is replaced. -/
theorem entries_ofList {entries : List (κ × α)} (hn : (entries.map (·.1)).Nodup) :
    (ofList entries).entries = entries.reverse := by
  induction entries using List.reverseRecOn with
  | nil => rfl
  | append_singleton entries e ih =>
    rw [List.map_append, List.map_singleton, List.nodup_append] at hn
    obtain ⟨hn, -, hnew⟩ := hn
    rw [ofList_concat, insert, ih hn, List.reverse_append]
    have hkeep : entries.reverse.filter (·.1 != e.1) = entries.reverse := by
      rw [List.filter_eq_self]
      intro x hx
      have hx := List.mem_map_of_mem (f := (·.1)) (List.mem_reverse.1 hx)
      simpa using hnew _ hx e.1 (List.mem_singleton_self _)
    rw [hkeep]
    rfl

theorem insertNew_ofList (entries : List (κ × α)) (key : κ) (value : α) :
    (ofList entries).insertNew key value =
      ofList (if entries.any (·.1 == key) then entries else entries ++ [(key, value)]) := by
  unfold insertNew
  rw [isSome_get?_ofList]
  split
  · rfl
  · rw [ofList_concat]

end Dictionary

/-! ## Logs -/

/-- One step of declaring: the root of a file, or a statement at its address. -/
inductive Entry where
  | root (file : Nat)
  | statement (a : Address) (s : Statement WrittenType)

namespace Entry

/-- The body that an entry opens. -/
def body? : Entry → Option Address
  | root file => some ⟨file, []⟩
  | statement a (.struct ..) => some a
  | statement .. => none

/-- What an entry defines, with its statement. -/
def definition? : Entry → Option (Definition × Statement WrittenType)
  | root _ => none
  | statement a s => (Definition.ofStatement? a s).map (·, s)

/-- The field that an entry makes, with its statement. -/
def field? : Entry → Option (Field × Statement WrittenType)
  | root _ => none
  | statement a s => (Field.ofStatement? a.scope s).map (·, s)

end Entry

/-- The bodies of a log, in the order of reading. -/
def bodies (log : List Entry) : List Address := log.filterMap Entry.body?

/-- The definitions of a log, in the order of reading. -/
def definitions (log : List Entry) : List (Definition × Statement WrittenType) :=
  log.filterMap Entry.definition?

/-- The fields of a log, in the order of reading. -/
def fields (log : List Entry) : List (Field × Statement WrittenType) :=
  log.filterMap Entry.field?

/-- Ids of scopes and of symbols, by the addresses of their bodies and of their definitions. -/
structure Ids where
  scope : Address → ScopeId
  symbol : Address → SymbolId

/-- The ids number the bodies and the definitions of a log through. -/
structure Ids.Number (ids : Ids) (log : List Entry) : Prop where
  nodup : (bodies log).Nodup
  scope : ∀ {k b}, (bodies log)[k]? = some b → ids.scope b = .ofIndex k
  scope_index : ∀ {k b}, (bodies log)[k]? = some b → (ids.scope b).index = k
  symbol : ∀ {k x}, (definitions log)[k]? = some x → ids.symbol x.1.address = .ofIndex k
  symbol_index : ∀ {k x}, (definitions log)[k]? = some x → (ids.symbol x.1.address).index = k

/-- Every statement of the log stands in a scope that was opened before it. -/
inductive Closed : List Entry → Prop where
  | nil : Closed []
  | root {log : List Entry} (h : Closed log) (file : Nat) : Closed (log ++ [.root file])
  | statement {log : List Entry} {scope : Address} (h : Closed log) (hs : scope ∈ bodies log)
      (index : Nat) (s : Statement WrittenType) :
      Closed (log ++ [.statement (scope.child index) s])

/-! ## What is in an arena -/

section
variable (ids : Ids)

/-- The scope around a body. -/
def outer? (b : Address) : Option Address :=
  match b.path with
  | [] => none
  | _ :: outer => some ⟨b.file, outer⟩

/-- The types that definitions give a scope. -/
def typesIn (ds : List (Definition × Statement WrittenType)) (b : Address) :
    List (String × SymbolId) :=
  (ds.filter (·.1.address.scope = b)).map fun x => (x.1.name.name, ids.symbol x.1.address)

/-- The fields among some that a scope has. -/
def fieldsIn (fs : List (Field × Statement WrittenType)) (b : Address) :
    List (String × Statement WrittenType) :=
  (fs.filter (·.1.scope = b)).map fun x => (x.1.name.name, x.2)

/-- The scope of a body. -/
def scopeFor (imports : Address → List (String × Binding))
    (ds : List (Definition × Statement WrittenType)) (fs : List (Field × Statement WrittenType))
    (b : Address) : Scope :=
  ⟨(outer? b).map ids.scope, .ofList (typesIn ids ds b), .ofList (fieldsIn fs b),
    .ofList (imports b)⟩

/-- The symbol of a definition. -/
def symbolFor (x : Definition × Statement WrittenType) : Symbol :=
  ⟨x.1.name, .ofNatClamp x.1.address.file, ids.scope x.1.address.scope, x.2,
    if x.1.isStruct then .struct (ids.scope x.1.address) else .alias⟩

/-- The symbols of definitions by the ids of their statements. -/
def symbolsById (ds : List (Definition × Statement WrittenType)) : List (ElementId × SymbolId) :=
  ds.map fun x => (x.1.id, ids.symbol x.1.address)

/-- An arena with the scopes of the given bodies and the symbols of the given definitions. -/
def laid (imports : Address → List (String × Binding)) (bs : List Address)
    (ds : List (Definition × Statement WrittenType)) (fs : List (Field × Statement WrittenType))
    (a : Arena) : Arena :=
  { a with
    scopes := (bs.map (scopeFor ids imports ds fs)).toArray
    symbols := (ds.map (symbolFor ids)).toArray
    byStatement := .ofList (symbolsById ids ds) }

end

/-! ## Steps -/

section
variable {ids : Ids} {imports : Address → List (String × Binding)} {bs : List Address}
  {ds : List (Definition × Statement WrittenType)} {fs : List (Field × Statement WrittenType)}
  {a : Arena}

/-- To change the image of one element of a list without repeats is to map another function, which
differs there. -/
theorem modify_map {α β : Type} {l : List α} (hn : l.Nodup) {f f' : α → β} {g : β → β} {k : Nat}
    {x : α} (hx : l[k]? = some x) (hat : g (f x) = f' x) (hother : ∀ y, y ≠ x → f y = f' y) :
    (l.map f).modify k g = l.map f' := by
  apply List.ext_getElem?
  intro j
  rw [List.getElem?_modify, List.getElem?_map, List.getElem?_map]
  by_cases hj : k = j
  · subst hj
    simp [hx, hat]
  · cases hy : l[j]? with
    | none => rfl
    | some y =>
      have hne : y ≠ x := fun heq => hj ((List.getElem?_inj (List.getElem?_eq_some_iff.1 hx).1 hn).1
        (hx.trans (heq ▸ hy.symm)))
      simp [hj, hother y hne]

/-- A body in which nothing stands yet is opened. -/
theorem addScope_laid {b : Address} (hb : ids.scope b = .ofIndex bs.length)
    (hd : ∀ x ∈ ds, x.1.address.scope ≠ b) (hf : ∀ x ∈ fs, x.1.scope ≠ b) (hi : imports b = []) :
    (laid ids imports bs ds fs a).addScope ((outer? b).map ids.scope) =
      (ids.scope b, laid ids imports (bs ++ [b]) ds fs a) := by
  have htypes : typesIn ids ds b = [] := by
    simp only [typesIn, List.map_eq_nil_iff, List.filter_eq_nil_iff, decide_eq_true_eq]
    exact hd
  have hfields : fieldsIn fs b = [] := by
    simp only [fieldsIn, List.map_eq_nil_iff, List.filter_eq_nil_iff, decide_eq_true_eq]
    exact hf
  have hscope : scopeFor ids imports ds fs b = .within ((outer? b).map ids.scope) := by
    simp only [scopeFor, htypes, hfields, hi]
    rfl
  simp only [addScope, laid, List.push_toArray, List.map_append, List.map_cons, List.map_nil,
    hscope, hb, List.size_toArray, List.length_map]

/-- A definition in an open body is added. -/
theorem addSymbol_laid {x : Definition × Statement WrittenType} (hn : bs.Nodup)
    (hid : x.2.id = x.1.id) (hx : ids.symbol x.1.address = .ofIndex ds.length)
    (hs : bs[(ids.scope x.1.address.scope).index]? = some x.1.address.scope) :
    (laid ids imports bs ds fs a).addSymbol (symbolFor ids x) =
      laid ids imports bs (ds ++ [x]) fs a := by
  have hscopes : (bs.map (scopeFor ids imports ds fs)).modify (ids.scope x.1.address.scope).index
      (fun sc => { sc with types := sc.types.insert x.1.name.name (ids.symbol x.1.address) }) =
        bs.map (scopeFor ids imports (ds ++ [x]) fs) := by
    refine modify_map hn hs ?_ fun b hb => ?_
    · simp [scopeFor, typesIn, List.filter_append, Dictionary.ofList_concat]
    · simp [scopeFor, typesIn, List.filter_append, Ne.symm hb]
  have hids : symbolsById ids (ds ++ [x]) =
      symbolsById ids ds ++ [(x.1.id, ids.symbol x.1.address)] := List.map_append
  simp only [addSymbol, laid, symbolFor, Symbol.statementId, List.size_toArray, List.length_map,
    ← hx, List.modify_toArray, hscopes, List.push_toArray, hids, Dictionary.ofList_concat, hid,
    List.map_append, List.map_cons, List.map_nil]

/-- A field in an open body is added. -/
theorem addField_laid {x : Field × Statement WrittenType} (hn : bs.Nodup)
    (hs : bs[(ids.scope x.1.scope).index]? = some x.1.scope) :
    (laid ids imports bs ds fs a).addField (ids.scope x.1.scope) x.1.name x.2 =
      laid ids imports bs ds (fs ++ [x]) a := by
  have hscopes : (bs.map (scopeFor ids imports ds fs)).modify (ids.scope x.1.scope).index
      (fun sc => { sc with fields := sc.fields.insert x.1.name.name x.2 }) =
        bs.map (scopeFor ids imports ds (fs ++ [x])) := by
    refine modify_map hn hs ?_ fun b hb => ?_
    · simp [scopeFor, fieldsIn, List.filter_append, Dictionary.ofList_concat]
    · simp [scopeFor, fieldsIn, List.filter_append, Ne.symm hb]
  simp only [addField, laid, List.modify_toArray, hscopes]

end

/-! ## Logs that grow -/

section
variable {ids : Ids} {log rest : List Entry} {a : Arena}

theorem bodies_append (log rest : List Entry) : bodies (log ++ rest) = bodies log ++ bodies rest :=
  List.filterMap_append

theorem definitions_append (log rest : List Entry) :
    definitions (log ++ rest) = definitions log ++ definitions rest :=
  List.filterMap_append

theorem fields_append (log rest : List Entry) : fields (log ++ rest) = fields log ++ fields rest :=
  List.filterMap_append

theorem bodies_concat (log : List Entry) (e : Entry) :
    bodies (log ++ [e]) = bodies log ++ e.body?.toList := by
  rw [bodies_append]
  cases h : e.body? <;> simp [bodies, h]

theorem definitions_concat (log : List Entry) (e : Entry) :
    definitions (log ++ [e]) = definitions log ++ e.definition?.toList := by
  rw [definitions_append]
  cases h : e.definition? <;> simp [definitions, h]

theorem fields_concat (log : List Entry) (e : Entry) :
    fields (log ++ [e]) = fields log ++ e.field?.toList := by
  rw [fields_append]
  cases h : e.field? <;> simp [fields, h]

theorem getElem?_append_of_some {α : Type} {l m : List α} {k : Nat} {x : α} (h : l[k]? = some x) :
    (l ++ m)[k]? = some x := by
  rw [List.getElem?_append_left (List.getElem?_eq_some_iff.1 h).1, h]

/-- The ids number a part of the log from its start through. -/
theorem Ids.Number.start (h : ids.Number (log ++ rest)) : ids.Number log where
  nodup := by
    have hn := h.nodup
    rw [bodies_append] at hn
    exact hn.of_append_left
  scope hk := h.scope (bodies_append log rest ▸ getElem?_append_of_some hk)
  scope_index hk := h.scope_index (bodies_append log rest ▸ getElem?_append_of_some hk)
  symbol hk := h.symbol (definitions_append log rest ▸ getElem?_append_of_some hk)
  symbol_index hk := h.symbol_index (definitions_append log rest ▸ getElem?_append_of_some hk)

/-- The body that the last entry opens has the next id, and it is a new one. -/
theorem Ids.Number.last_scope {e : Entry} {b : Address} (h : ids.Number (log ++ [e]))
    (hb : e.body? = some b) : ids.scope b = .ofIndex (bodies log).length ∧ b ∉ bodies log := by
  have hlast : bodies (log ++ [e]) = bodies log ++ [b] := by rw [bodies_concat, hb]; rfl
  refine ⟨h.scope (by rw [hlast, List.getElem?_concat_length]), fun hm => ?_⟩
  have hn := h.nodup
  rw [hlast, List.nodup_append] at hn
  exact hn.2.2 b hm b (List.mem_singleton_self b) rfl

theorem Ids.Number.last_symbol {e : Entry} {x : Definition × Statement WrittenType}
    (h : ids.Number (log ++ [e])) (hx : e.definition? = some x) :
    ids.symbol x.1.address = .ofIndex (definitions log).length := by
  have hlast : definitions (log ++ [e]) = definitions log ++ [x] := by
    rw [definitions_concat, hx]
    rfl
  exact h.symbol (by rw [hlast, List.getElem?_concat_length])

theorem Ids.Number.getElem?_index (h : ids.Number log) {b : Address} (hb : b ∈ bodies log) :
    (bodies log)[(ids.scope b).index]? = some b := by
  obtain ⟨k, hk⟩ := List.mem_iff_getElem?.1 hb
  rw [h.scope_index hk, hk]

theorem Closed.scope_mem (h : Closed log) {addr : Address} {s : Statement WrittenType}
    (hm : .statement addr s ∈ log) : addr.scope ∈ bodies log := by
  induction h with
  | nil => cases hm
  | root _ file ih =>
    rw [bodies_append, List.mem_append]
    simp only [List.mem_append, List.mem_singleton, reduceCtorEq, or_false] at hm
    exact .inl (ih hm)
  | statement _ hs index t ih =>
    rw [bodies_append, List.mem_append]
    rcases List.mem_append.1 hm with hm | hm
    · exact .inl (ih hm)
    · injection List.mem_singleton.1 hm with haddr _
      exact .inl (haddr ▸ hs)

/-- Nothing has been declared in a body that has not been opened. -/
theorem Closed.not_definition {b : Address} (h : Closed log) (hb : b ∉ bodies log) :
    ∀ x ∈ definitions log, x.1.address.scope ≠ b := by
  intro x hx hscope
  obtain ⟨e, he, hd⟩ := List.mem_filterMap.1 hx
  cases e with
  | root file => cases hd
  | statement addr s =>
    obtain ⟨d, hof, rfl⟩ := Option.map_eq_some_iff.1 hd
    rw [Table.address_ofStatement? hof] at hscope
    exact hb (hscope ▸ h.scope_mem he)

theorem scope_fieldOfStatement? {scope : Address} {s : Statement WrittenType} {f : Field}
    (h : Field.ofStatement? scope s = some f) : f.scope = scope := by
  unfold Field.ofStatement? at h
  split at h
  · split at h
    · injection h with h; rw [← h]
    · cases h
  · cases h

theorem Closed.not_field {b : Address} (h : Closed log) (hb : b ∉ bodies log) :
    ∀ x ∈ fields log, x.1.scope ≠ b := by
  intro x hx hscope
  obtain ⟨e, he, hf⟩ := List.mem_filterMap.1 hx
  cases e with
  | root file => cases hf
  | statement addr s =>
    obtain ⟨f, hof, rfl⟩ := Option.map_eq_some_iff.1 hf
    rw [scope_fieldOfStatement? hof] at hscope
    exact hb (hscope ▸ h.scope_mem he)

theorem getElem?_append_toList {α : Type} {l : List α} {o : Option α} {k : Nat} {x : α}
    (h : (l ++ o.toList)[k]? = some x) : l[k]? = some x ∨ k = l.length ∧ o = some x := by
  rcases Nat.lt_or_ge k l.length with hk | hk
  · rw [List.getElem?_append_left hk] at h
    exact .inl h
  · rw [List.getElem?_append_right hk] at h
    cases o with
    | none => cases h
    | some y =>
      rw [Option.toList_some, List.getElem?_singleton] at h
      split at h
      · exact .inr ⟨by omega, h⟩
      · cases h

/-- The body of a structure is opened behind the one that it stands in. -/
theorem Closed.exists_outer (h : Closed log) {k index : Nat} {scope : Address}
    (hk : (bodies log)[k]? = some (scope.child index)) :
    ∃ j, j < k ∧ (bodies log)[j]? = some scope := by
  induction h with
  | nil => cases hk
  | root _ file ih =>
    rw [bodies_concat] at hk ⊢
    rcases getElem?_append_toList hk with hk | ⟨-, hroot⟩
    · obtain ⟨j, hj, hscope⟩ := ih hk
      exact ⟨j, hj, getElem?_append_of_some hscope⟩
    · cases hroot
  | @statement log outer _ hs position s ih =>
    rw [bodies_concat] at hk ⊢
    rcases getElem?_append_toList hk with hk | ⟨rfl, hbody⟩
    · obtain ⟨j, hj, hscope⟩ := ih hk
      exact ⟨j, hj, getElem?_append_of_some hscope⟩
    · obtain ⟨j, hj⟩ := List.mem_iff_getElem?.1 hs
      have hscope : outer = scope := by
        cases s with
        | struct =>
          injection Option.some.inj hbody with hfile hpath
          injection hpath with _ hpath
          exact congrArg₂ Address.mk hfile hpath
        | item | extension | inclusion => cases hbody
      exact ⟨j, (List.getElem?_eq_some_iff.1 hj).1, getElem?_append_of_some (hscope ▸ hj)⟩

/-! ## Declaring statements -/

/-- The arena of a log: what has been declared and nothing more. -/
def laidLog (ids : Ids) (log : List Entry) (a : Arena) : Arena :=
  laid ids (fun _ => []) (bodies log) (definitions log) (fields log) a

theorem laidLog_concat (e : Entry) :
    laidLog ids (log ++ [e]) a =
      laid ids (fun _ => []) (bodies log ++ e.body?.toList)
        (definitions log ++ e.definition?.toList) (fields log ++ e.field?.toList) a := by
  rw [laidLog, bodies_concat, definitions_concat, fields_concat]

/-- The root of a file is opened. -/
theorem addScope_root {file : Nat} (hc : Closed log) (h : ids.Number (log ++ [.root file])) :
    (laidLog ids log a).addScope none =
      (ids.scope ⟨file, []⟩, laidLog ids (log ++ [.root file]) a) := by
  obtain ⟨hb, hnew⟩ := h.last_scope rfl
  simp only [laidLog_concat, Entry.definition?, Entry.field?, Option.toList_none, List.append_nil]
  exact addScope_laid hb (hc.not_definition hnew) (hc.not_field hnew) rfl

section
variable {scope : Address} {index : Nat} {id : ElementId} {range : Range} {name : Identifier}

/-- A structure is declared: the scope of its body is opened, and its symbol is added. -/
theorem addSymbol_struct {bases : List WrittenType} {metadata : Option Metadata}
    {children : List (Statement WrittenType)} (hc : Closed log) (hs : scope ∈ bodies log)
    (h : ids.Number (log ++
      [.statement (scope.child index) (.struct id range name bases metadata children)])) :
    ((laidLog ids log a).addScope (some (ids.scope scope))).1 = ids.scope (scope.child index) ∧
      ((laidLog ids log a).addScope (some (ids.scope scope))).2.addSymbol
          ⟨name, .ofNatClamp scope.file, ids.scope scope,
            .struct id range name bases metadata children,
            .struct (ids.scope (scope.child index))⟩ =
        laidLog ids (log ++
          [.statement (scope.child index) (.struct id range name bases metadata children)]) a := by
  obtain ⟨hb, hnew⟩ := h.last_scope rfl
  have hadd : (laidLog ids log a).addScope (some (ids.scope scope)) = _ :=
    addScope_laid hb (hc.not_definition hnew) (hc.not_field hnew) rfl
  have hopen := h.getElem?_index (b := scope)
    (by rw [bodies_append]; exact List.mem_append_left _ hs)
  have hn := h.nodup
  rw [bodies_concat] at hopen hn
  simp only [hadd, laidLog_concat, Entry.field?, Field.ofStatement?, Option.map_none,
    Option.toList_none, List.append_nil]
  exact ⟨trivial, addSymbol_laid hn rfl (h.last_symbol rfl) hopen⟩

/-- An alias is declared: its symbol is added. -/
theorem addSymbol_alias {type : WrittenType} (htype : name.isType = true) (hs : scope ∈ bodies log)
    (h : ids.Number (log ++ [.statement (scope.child index) (.item id range name type)])) :
    (laidLog ids log a).addSymbol
        ⟨name, .ofNatClamp scope.file, ids.scope scope, .item id range name type, .alias⟩ =
      laidLog ids (log ++ [.statement (scope.child index) (.item id range name type)]) a := by
  have hd : (Entry.statement (scope.child index) (.item id range name type)).definition? =
      some (⟨scope.child index, id, name, .alias type⟩, .item id range name type) := by
    simp [Entry.definition?, Definition.ofStatement?, htype]
  have hf : (Entry.statement (scope.child index) (.item id range name type)).field? = none := by
    simp [Entry.field?, Field.ofStatement?, Identifier.isExpression, htype]
  have hopen := h.start.getElem?_index hs
  simp only [laidLog_concat, Entry.body?, hd, hf, Option.toList_none, List.append_nil]
  exact addSymbol_laid h.start.nodup rfl (h.last_symbol hd) hopen

/-- A field is declared. -/
theorem addField_item {type : WrittenType} (htype : ¬ name.isType = true) (hs : scope ∈ bodies log)
    (h : ids.Number log) :
    (laidLog ids log a).addField (ids.scope scope) name (.item id range name type) =
      laidLog ids (log ++ [.statement (scope.child index) (.item id range name type)]) a := by
  have hd : (Entry.statement (scope.child index) (.item id range name type)).definition? =
      none := by
    simp [Entry.definition?, Definition.ofStatement?, htype]
  have hf : (Entry.statement (scope.child index) (.item id range name type)).field? =
      some (⟨scope, id, range, name, type⟩, .item id range name type) := by
    simp [Entry.field?, Field.ofStatement?, Identifier.isExpression, htype, Address.child,
      Address.scope]
  simp only [laidLog_concat, Entry.body?, hd, hf, Option.toList_none, List.append_nil]
  exact addField_laid (x := (⟨scope, id, range, name, type⟩, _)) h.nodup (h.getElem?_index hs)

end

/-- What a statement with its address stands for in a log. -/
def entries (xs : List (Address × Statement WrittenType)) : List Entry :=
  xs.map fun x => .statement x.1 x.2

mutual

theorem declareStatement_laid {log : List Entry} {scope : Address} (index : Nat)
    (s : Statement WrittenType)
    (hc : Closed log) (hs : scope ∈ bodies log)
    (h : ids.Number (log ++ entries (Table.addressed (scope.child index) s))) :
    declareStatement (.ofNatClamp scope.file) (ids.scope scope) (laidLog ids log a) s =
        laidLog ids (log ++ entries (Table.addressed (scope.child index) s)) a ∧
      Closed (log ++ entries (Table.addressed (scope.child index) s)) := by
  cases s with
  | struct id range name bases metadata children =>
    have hsplit : log ++ entries (Table.addressed (scope.child index)
          (.struct id range name bases metadata children)) =
        log ++ [.statement (scope.child index) (.struct id range name bases metadata children)] ++
          entries (Table.addressedIn (scope.child index) 0 children) := by
      rw [Table.addressed, List.append_assoc]
      rfl
    rw [hsplit] at h ⊢
    obtain ⟨hbody, hsym⟩ := addSymbol_struct (a := a) hc hs h.start
    rw [declareStatement]
    simp only [hbody, hsym]
    refine declareStatements_laid 0 children (hc.statement hs _ _) ?_ h
    rw [bodies_concat]
    exact List.mem_append_right _ List.mem_cons_self
  | item id range name type =>
    have hsplit : entries (Table.addressed (scope.child index) (.item id range name type)) =
        [.statement (scope.child index) (.item id range name type)] := by
      simp [entries, Table.addressed]
    rw [hsplit] at h ⊢
    refine ⟨?_, hc.statement hs _ _⟩
    rw [declareStatement]
    split
    · rename_i htype
      exact addSymbol_alias htype hs h
    · rename_i htype
      exact addField_item htype hs h.start
  | extension | inclusion =>
    refine ⟨?_, hc.statement hs index _⟩
    simp only [declareStatement, Table.addressed, entries, List.map_cons, List.map_nil,
      laidLog_concat, Entry.body?, Entry.definition?, Entry.field?, Definition.ofStatement?,
      Field.ofStatement?, Option.map_none, Option.toList_none, List.append_nil]
    rfl

/-- Declaring the statements of an open scope adds them to the log, with those in them. -/
theorem declareStatements_laid {log : List Entry} {scope : Address} (index : Nat)
    (ss : List (Statement WrittenType))
    (hc : Closed log) (hs : scope ∈ bodies log)
    (h : ids.Number (log ++ entries (Table.addressedIn scope index ss))) :
    declareStatements (.ofNatClamp scope.file) (ids.scope scope) (laidLog ids log a) ss =
        laidLog ids (log ++ entries (Table.addressedIn scope index ss)) a ∧
      Closed (log ++ entries (Table.addressedIn scope index ss)) := by
  match ss with
  | [] =>
    rw [Table.addressedIn, entries, List.map_nil, List.append_nil]
    exact ⟨rfl, hc⟩
  | s :: rest =>
    have hsplit : log ++ entries (Table.addressedIn scope index (s :: rest)) =
        log ++ entries (Table.addressed (scope.child index) s) ++
          entries (Table.addressedIn scope (index + 1) rest) := by
      simp [entries, Table.addressedIn]
    rw [hsplit] at h ⊢
    obtain ⟨hfirst, hc⟩ := declareStatement_laid index s hc hs h.start
    rw [declareStatements, hfirst]
    refine declareStatements_laid (index + 1) rest hc ?_ h
    rw [bodies_append]
    exact List.mem_append_left _ hs

end

/-! ## Declaring files -/

/-- What a file with its index adds to the log: its root, and the statements in it. -/
def entriesOf (x : ParsedFile × Nat) : List Entry :=
  match x.1.root with
  | .ok root => .root x.2 :: entries (Table.addressedIn ⟨x.2, []⟩ 0 root.statements)
  | .error _ => []

/-- What an arena has about a file with its index as a whole. -/
def fileFor (ids : Ids) (x : ParsedFile × Nat) : FileEntry :=
  match x.1.root with
  | .ok _ => ⟨x.1.path, some (ids.scope ⟨x.2, []⟩), none⟩
  | .error d => ⟨x.1.path, none, some d⟩

/-- The indices of files by their paths. -/
def indices (xs : List (ParsedFile × Nat)) : PathMap FileId :=
  xs.foldl (fun m x => m.insert x.1.path (.ofNatClamp x.2)) .empty

/-- Declaring a file adds it to the log, and its path and its root to the files. -/
theorem declareFile_laid (f : ParsedFile) (file : Nat) (hc : Closed log)
    (h : ids.Number (log ++ entriesOf (f, file))) :
    (laidLog ids log a).declareFile file f =
        laidLog ids (log ++ entriesOf (f, file))
          ((a.addPath f.path (.ofNatClamp file)).addFile (fileFor ids (f, file))) ∧
      Closed (log ++ entriesOf (f, file)) := by
  have hpath : (laidLog ids log a).addPath f.path (.ofNatClamp file) =
      laidLog ids log (a.addPath f.path (.ofNatClamp file)) := rfl
  cases hr : f.root with
  | error d =>
    simp only [declareFile, hpath, entriesOf, fileFor, hr, List.append_nil]
    exact ⟨rfl, hc⟩
  | ok root =>
    have hlog : log ++ entriesOf (f, file) =
        log ++ [.root file] ++ entries (Table.addressedIn ⟨file, []⟩ 0 root.statements) := by
      simp only [entriesOf, hr, List.append_assoc]
      rfl
    rw [hlog] at h ⊢
    have hopen : (⟨file, []⟩ : Address) ∈ bodies (log ++ [.root file]) := by
      rw [bodies_concat]
      exact List.mem_append_right _ List.mem_cons_self
    obtain ⟨hstatements, hclosed⟩ := declareStatements_laid
      (a := a.addPath f.path (.ofNatClamp file)) 0 root.statements (hc.root file) hopen h
    simp only [declareFile, hpath, hr, addScope_root hc h.start, hstatements, fileFor]
    exact ⟨rfl, hclosed⟩

/-- The arena in which files with their indices have been declared. -/
def declared (ids : Ids) (xs : List (ParsedFile × Nat)) : Arena :=
  laidLog ids (xs.flatMap entriesOf)
    ⟨(xs.map (fileFor ids)).toArray, #[], #[], indices xs, .empty, .empty⟩

/-- Declaring files one after the other makes the arena of all of them. -/
theorem declareFiles_declared (xs : List (ParsedFile × Nat)) (first : Nat) (files : List ParsedFile)
    (hc : Closed (xs.flatMap entriesOf))
    (h : ids.Number ((xs ++ files.zipIdx first).flatMap entriesOf)) :
    (declared ids xs).declareFiles first files = declared ids (xs ++ files.zipIdx first) ∧
      Closed ((xs ++ files.zipIdx first).flatMap entriesOf) := by
  induction files generalizing xs first with
  | nil =>
    rw [List.zipIdx_nil, List.append_nil]
    exact ⟨rfl, hc⟩
  | cons f rest ih =>
    have hsplit : xs ++ (f :: rest).zipIdx first = xs ++ [(f, first)] ++ rest.zipIdx (first + 1) := by
      rw [List.zipIdx_cons, List.append_assoc]
      rfl
    have hlog : (xs ++ [(f, first)]).flatMap entriesOf =
        xs.flatMap entriesOf ++ entriesOf (f, first) := by
      simp
    rw [hsplit] at h ⊢
    have hstart := h
    rw [List.flatMap_append, hlog] at hstart
    obtain ⟨hfile, hclosed⟩ := declareFile_laid (a := ⟨(xs.map (fileFor ids)).toArray, #[], #[],
      indices xs, .empty, .empty⟩) f first hc hstart.start
    have hnext : (declared ids xs).declareFile first f = declared ids (xs ++ [(f, first)]) := by
      rw [declared, hfile, declared, hlog]
      simp [addPath, addFile, indices]
    rw [declareFiles, hnext]
    exact ih _ (first + 1) (hlog ▸ hclosed) h

end

end Arena
end Schemata
