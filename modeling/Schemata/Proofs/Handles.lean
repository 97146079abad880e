import Schemata.Proofs.Build.Sketch
import Schemata.Proofs.Link.File
import Schemata.Proofs.Merge

/-!
# Handles of a result

A handle holds the id of a structure statement, which tells the file and the place in it. The
structures of a result are kept by their ids, and linking keeps ids as parsing gave them. So what is
found under the id of a handle can only come of the file that defines the structure, and it is found
exactly if that file was linked.

**Results:**
* `struct?_gather_iff`: the structure of an id is a statement of the root that has its file.
* `handlesResolve_link`: handles of a result resolve exactly if the file of their structure has a
  root.
-/
namespace Schemata

/-! ## Structures of written statements -/

namespace Statement

/-- The entry of a structure statement. -/
def asStruct? {τ : Type} : Statement τ → Option (ElementId × Statement τ)
  | struct id range name bases metadata children =>
    some (id, struct id range name bases metadata children)
  | _ => none

mutual

theorem structs_eq_filterMap (a : Address) (s : Statement WrittenType) :
    s.structs = (Table.addressed a s).filterMap fun x => x.2.asStruct? := by
  match s with
  | .struct id range name bases metadata children =>
    rw [structs, structsOf_eq_filterMap a 0 children]
    rfl
  | .item .. | .extension .. | .inclusion .. => rfl

/-- The structures among statements are those among all that are in them. -/
theorem structsOf_eq_filterMap (scope : Address) (index : Nat)
    (ss : List (Statement WrittenType)) :
    structsOf ss = (Table.addressedIn scope index ss).filterMap fun x => x.2.asStruct? := by
  match ss with
  | [] => rfl
  | s :: rest =>
    rw [structsOf, Table.addressedIn, List.filterMap_append,
      structs_eq_filterMap (scope.child index) s, structsOf_eq_filterMap scope (index + 1) rest]

end

theorem asStruct?_eq_some {τ : Type} {s : Statement τ} {x : ElementId × Statement τ}
    (h : s.asStruct? = some x) :
    x = (s.id, s) ∧ ∃ id range name bases metadata children,
      s = .struct id range name bases metadata children := by
  cases s with
  | struct id range name bases metadata children =>
    cases h
    exact ⟨rfl, _, _, _, _, _, _, rfl⟩
  | item | extension | inclusion => cases h

mutual

theorem id_of_mem_structs (s : Statement LinkedType) :
    ∀ x ∈ s.structs, ∃ range name bases metadata children,
      x.2 = .struct x.1 range name bases metadata children := by
  match s with
  | .struct id range name bases metadata children =>
    intro x hx
    rcases List.mem_cons.1 hx with rfl | hx
    · exact ⟨_, _, _, _, _, rfl⟩
    · exact id_of_mem_structsOf children x hx
  | .item .. | .extension .. | .inclusion .. => exact fun _ hx => nomatch hx

/-- What is listed under an id is the structure statement with the id. -/
theorem id_of_mem_structsOf (ss : List (Statement LinkedType)) :
    ∀ x ∈ structsOf ss, ∃ range name bases metadata children,
      x.2 = .struct x.1 range name bases metadata children := by
  match ss with
  | [] => exact fun _ hx => nomatch hx
  | s :: rest =>
    intro x hx
    rcases List.mem_append.1 hx with hx | hx
    · exact id_of_mem_structs s x hx
    · exact id_of_mem_structsOf rest x hx

end

end Statement

namespace Table

variable {files : List ParsedFile}

theorem parsedStatements_eq {file : Nat} {f : ParsedFile} {source : Root WrittenType}
    (hf : files[file]? = some f) (hr : f.root = .ok source) :
    parsedStatements files file = source.statements := by
  simp [parsedStatements, hf, hr]

/-- The structures of a parsed file have different ids with its place in them. -/
theorem structs_of_parsed (hb : BuiltInOrder files) {file : Nat} {f : ParsedFile}
    {source : Root WrittenType} (hf : files[file]? = some f) (hr : f.root = .ok source) :
    (Statement.structsOf source.statements).Pairwise (fun x y => x.1 ≠ y.1) ∧
      ∀ x ∈ Statement.structsOf source.statements, x.1.file = file := by
  obtain ⟨hnodup, hfile⟩ := ids_of_parsedStatements hb file
  rw [parsedStatements_eq hf hr] at hnodup hfile
  rw [Statement.structsOf_eq_filterMap ⟨file, []⟩ 0]
  constructor
  · refine List.pairwise_filterMap.2 ((List.pairwise_map.1 hnodup).imp ?_)
    intro a b hne x hx y hy
    rw [(Statement.asStruct?_eq_some hx).1, (Statement.asStruct?_eq_some hy).1]
    exact hne
  · intro x hx
    obtain ⟨a, ha, hx⟩ := List.mem_filterMap.1 hx
    rw [(Statement.asStruct?_eq_some hx).1]
    exact hfile a ha

/-- A handle on a structure of the table tells where it is defined. -/
theorem HoldsHandle.defined (hb : BuiltInOrder files) {x : ElementId × Identifier}
    (h : (ofFiles files).HoldsHandle x) :
    ∃ f source range bases metadata children, files[x.1.file]? = some f ∧ f.root = .ok source ∧
      (x.1, .struct x.1 range x.2 bases metadata children) ∈
        Statement.structsOf source.statements := by
  obtain ⟨⟨address, did, dname, kind⟩, bases, ⟨s, hs, hsd⟩, hk, hid, hname⟩ := h
  obtain ⟨file, -, hs⟩ := List.mem_flatMap.1 hs
  rw [rootStatements_ofFiles] at hs
  have hfile := (ids_of_parsedStatements hb file).2 _ hs
  unfold parsedStatements at hs
  split at hs
  · rename_i f hf
    split at hs
    · rename_i source hr
      cases s with
      | struct id range name bases' metadata children =>
        cases hsd
        cases hid
        cases hname
        cases hfile
        refine ⟨f, source, range, bases', metadata, children, hf, hr, ?_⟩
        rw [Statement.structsOf_eq_filterMap ⟨x.1.file, []⟩ 0]
        exact List.mem_filterMap.2 ⟨_, hs, rfl⟩
      | item id range name type =>
        -- an alias is no structure
        simp only [Definition.ofStatement?] at hsd
        split at hsd
        · cases hsd
          cases hk
        · cases hsd
      | extension | inclusion => cases hsd
    · cases hs
  · cases hs

end Table

/-! ## The structures of a result -/

section Registry

variable {α : Type} {m : List (ElementId × α)}

theorem find?_filter_ne {key other : ElementId} (h : other ≠ key) :
    (m.filter fun x => decide (x.1 ≠ key)).find? (fun x => decide (x.1 = other)) =
      m.find? fun x => decide (x.1 = other) := by
  rw [List.find?_filter]
  congr 1
  funext x
  by_cases hx : x.1 = other
  · simp [hx, h]
  · simp [hx]

/-- Taking out the only entry of a key takes out what it weighs. -/
theorem sum_filter_ne (hm : (m.map (·.1)).Nodup) (key : ElementId) (g : α → Nat) :
    ((m.filter fun x => decide (x.1 ≠ key)).map fun x => g x.2).sum +
      (((m.find? fun x => decide (x.1 = key)).map (·.2)).map g).getD 0 =
        (m.map fun x => g x.2).sum := by
  induction m with
  | nil => rfl
  | cons x rest ih =>
    obtain ⟨hx, hrest⟩ := List.nodup_cons.1 hm
    by_cases hkey : x.1 = key
    · have hkept : (rest.filter fun y => decide (y.1 ≠ key)) = rest := by
        refine List.filter_eq_self.2 fun y hy => decide_eq_true fun heq => hx ?_
        show x.1 ∈ _
        rw [hkey, ← heq]
        exact List.mem_map_of_mem hy
      rw [List.filter_cons_of_neg (by simp [hkey]), hkept, List.find?_cons_of_pos (by simp [hkey])]
      simp [Nat.add_comm]
    · have hsum := ih hrest
      rw [List.filter_cons_of_pos (by simp [hkey]), List.find?_cons_of_neg (by simp [hkey])]
      simp only [List.map_cons, List.sum_cons]
      omega

end Registry

theorem ElementId.decide_eq_self (id : ElementId) : decide (id = id) = true :=
  decide_eq_true rfl

theorem ElementId.decide_eq_comm (a b : ElementId) : decide (a = b) = decide (b = a) := by
  simp [eq_comm]

namespace LinkedWorkspace

variable (m : List (ElementId × Statement LinkedType)) (key : ElementId) (s : Statement LinkedType)

theorem find?_addStruct (other : ElementId) :
    ((addStruct m (key, s)).find? fun x => decide (x.1 = other)).map (·.2) =
      if decide (other = key) then some s
      else (m.find? fun x => decide (x.1 = other)).map (·.2) := by
  rw [addStruct]
  by_cases h : other = key
  · simp [h]
  · rw [List.find?_cons_of_neg (by simpa using Ne.symm h), find?_filter_ne h]
    simp [h]

theorem nodup_addStruct (h : (m.map (·.1)).Nodup) : ((addStruct m (key, s)).map (·.1)).Nodup := by
  rw [addStruct, List.map_cons, List.nodup_cons]
  refine ⟨?_, h.sublist (List.filter_sublist.map _)⟩
  simp

theorem sum_addStruct (g : Statement LinkedType → Nat) (h : (m.map (·.1)).Nodup) :
    ((addStruct m (key, s)).map fun x => g x.2).sum +
      (((m.find? fun x => decide (x.1 = key)).map (·.2)).map g).getD 0 =
        (m.map fun x => g x.2).sum + g s := by
  have hrest := sum_filter_ne h key g
  rw [addStruct, List.map_cons, List.sum_cons]
  dsimp only
  omega

end LinkedWorkspace

/-- Structures by the ids of their statements. -/
def structStore :
    LawfulStore (List (ElementId × Statement LinkedType)) ElementId (Statement LinkedType) where
  get? m id := (m.find? fun x => decide (x.1 = id)).map (·.2)
  put m id s := LinkedWorkspace.addStruct m (id, s)
  weigh g m := (m.map fun x => g x.2).sum
  Sound m := (m.map (·.1)).Nodup
  same a b := decide (a = b)
  same_refl := ElementId.decide_eq_self
  same_comm := ElementId.decide_eq_comm
  get?_put := LinkedWorkspace.find?_addStruct
  sound_put := LinkedWorkspace.nodup_addStruct
  weigh_put g m key s := LinkedWorkspace.sum_addStruct m key s g

/-- The structures of the linked files. -/
def Outcomes.structs (outs : Outcomes) : List (ElementId × Statement LinkedType) :=
  outs.flatMap fun (_, outcome) =>
    match outcome with
    | .ok root => Statement.structsOf root.statements
    | .error _ => []

theorem foldl_add_structs (outs : Outcomes) (w : LinkedWorkspace) :
    (outs.foldl (fun w (e, result) => w.add e result) w).structs =
      structStore.putAll w.structs outs.structs := by
  induction outs generalizing w with
  | nil => rfl
  | cons o rest ih =>
    obtain ⟨e, d | root⟩ := o
    · exact ih (w.addError e.parsed.path d)
    · have hwalk : (w.addRoot e.directory e.file root).structs =
          structStore.putAll w.structs (Statement.structsOf root.statements) :=
        congrArg Prod.snd (LinkedWorkspace.walk_structCollector root w.structs)
      have hrest := ih (w.addRoot e.directory e.file root)
      rw [hwalk] at hrest
      refine hrest.trans ?_
      simp only [Outcomes.structs, List.flatMap_cons, LawfulStore.putAll, List.foldl_append]

section Result

variable {entries : List ParsedEntry}

theorem gather_structs (entries : List ParsedEntry) :
    (gather entries).structs = structStore.putAll [] (outcomes entries).structs :=
  foldl_add_structs (outcomes entries) .empty

/-- A linked file mirrors the parsed one. -/
theorem mirrors_of_outcome {i : Nat} {e : ParsedEntry} {root : Root LinkedType}
    (h : (outcomes entries)[i]? = some (e, .ok root)) :
    ∃ source, (entries.map (·.parsed))[i]? = some e.parsed ∧ e.parsed.root = .ok source ∧
      (Table.ofFiles (entries.map (·.parsed))).MirrorsAll source.statements root.statements := by
  obtain ⟨he, hlink⟩ := getElem?_outcomes_iff.1 h
  obtain ⟨source, hsource, hmirrors⟩ := Table.linkFile_mirrors hlink
  refine ⟨source, ?_, hsource, hmirrors⟩
  rw [List.getElem?_map, he]
  rfl

/-- The structures of a linked file have different ids with its place in them. -/
theorem structs_of_outcome (hb : BuiltInOrder (entries.map (·.parsed))) {i : Nat}
    {e : ParsedEntry} {root : Root LinkedType}
    (h : (outcomes entries)[i]? = some (e, .ok root)) :
    (Statement.structsOf root.statements).Pairwise (fun x y => x.1 ≠ y.1) ∧
      ∀ x ∈ Statement.structsOf root.statements, x.1.file = i := by
  obtain ⟨source, hf, hsource, hmirrors⟩ := mirrors_of_outcome h
  obtain ⟨hapart, hfile⟩ := Table.structs_of_parsed hb hf hsource
  have hids : (Statement.structsOf root.statements).map (·.1) =
      (Statement.structsOf source.statements).map (·.1) := by
    have hsame := congrArg (List.map Prod.fst) hmirrors.structs
    rw [List.map_map, List.map_map] at hsame
    exact hsame
  constructor
  · have hnodup : ((Statement.structsOf source.statements).map (·.1)).Nodup :=
      List.pairwise_map.2 hapart
    rw [← hids] at hnodup
    exact List.pairwise_map.1 hnodup
  · intro x hx
    have hmem : x.1 ∈ (Statement.structsOf source.statements).map (·.1) :=
      hids ▸ List.mem_map_of_mem hx
    obtain ⟨y, hy, hxy⟩ := List.mem_map.1 hmem
    rw [← hxy]
    exact hfile y hy

theorem mem_structs_iff {x : ElementId × Statement LinkedType} :
    x ∈ (outcomes entries).structs ↔ ∃ (i : Nat) (e : ParsedEntry) (root : Root LinkedType),
      (outcomes entries)[i]? = some (e, .ok root) ∧ x ∈ Statement.structsOf root.statements := by
  constructor
  · intro hx
    obtain ⟨⟨e, d | root⟩, ho, hx⟩ := List.mem_flatMap.1 hx
    · cases hx
    · obtain ⟨i, hi⟩ := List.mem_iff_getElem?.1 ho
      exact ⟨i, e, root, hi, hx⟩
  · rintro ⟨i, e, root, hi, hx⟩
    exact List.mem_flatMap.2 ⟨_, List.mem_of_getElem? hi, hx⟩

/-- No two structures of the linked files have the same id. -/
theorem structs_apart (hb : BuiltInOrder (entries.map (·.parsed))) :
    structStore.Apart (outcomes entries).structs := by
  have hne : ∀ {x y : ElementId × Statement LinkedType}, x.1 ≠ y.1 →
      structStore.same x.1 y.1 = false := fun h => decide_eq_false h
  refine List.pairwise_flatMap.2 ⟨fun o ho => ?_, List.pairwise_iff_getElem.2 ?_⟩
  · obtain ⟨i, hi⟩ := List.mem_iff_getElem?.1 ho
    obtain ⟨e, d | root⟩ := o
    · exact List.Pairwise.nil
    · exact (structs_of_outcome hb hi).1.imp hne
  · intro i j hi hj hlt x hx y hy
    obtain ⟨e, d | root, ho⟩ : ∃ e outcome, (outcomes entries)[i] = (e, outcome) := ⟨_, _, rfl⟩
    · rw [ho] at hx
      cases hx
    obtain ⟨e', d | root', ho'⟩ : ∃ e outcome, (outcomes entries)[j] = (e, outcome) := ⟨_, _, rfl⟩
    · rw [ho'] at hy
      cases hy
    rw [ho] at hx
    rw [ho'] at hy
    have hxi := (structs_of_outcome hb (List.getElem?_eq_some_iff.2 ⟨hi, ho⟩)).2 x hx
    have hyj := (structs_of_outcome hb (List.getElem?_eq_some_iff.2 ⟨hj, ho'⟩)).2 y hy
    refine hne fun heq => ?_
    rw [heq, hyj] at hxi
    omega

/-- The structure of an id is a statement of the root that has its file. -/
theorem struct?_gather_iff (hb : BuiltInOrder (entries.map (·.parsed))) {id : ElementId}
    {s : Statement LinkedType} :
    (gather entries).struct? id = some s ↔
      ∃ e root, (outcomes entries)[id.file]? = some (e, .ok root) ∧
        (id, s) ∈ Statement.structsOf root.statements := by
  have hget : (gather entries).struct? id =
      structStore.get? (structStore.putAll [] (outcomes entries).structs) id := by
    rw [← gather_structs]
    rfl
  rw [hget]
  constructor
  · intro hs
    obtain ⟨⟨id', s⟩, hmem, hid, rfl⟩ := (structStore.exists_of_get?_putAll id hs).resolve_right
      nofun
    obtain rfl : id = id' := of_decide_eq_true hid
    obtain ⟨i, e, root, hi, hx⟩ := mem_structs_iff.1 hmem
    -- the id tells which file it came of
    obtain rfl := (structs_of_outcome hb hi).2 _ hx
    exact ⟨e, root, hi, hx⟩
  · rintro ⟨e, root, hi, hx⟩
    exact structStore.get?_putAll (structs_apart hb) (mem_structs_iff.2 ⟨_, e, root, hi, hx⟩)

theorem length_structs (outs : Outcomes) :
    outs.structs.length =
      (outs.roots.map fun r => (Statement.structsOf r.2.statements).length).sum := by
  induction outs with
  | nil => rfl
  | cons o rest ih =>
    obtain ⟨e, d | root⟩ := o
    · exact ih
    · have hlength : (Outcomes.structs ((e, .ok root) :: rest)).length =
          (Statement.structsOf root.statements).length + (Outcomes.structs rest).length :=
        List.length_append
      rw [hlength, ih]
      rfl

/-- As many structures are kept as there are in all roots. -/
theorem structCount_gather (hb : BuiltInOrder (entries.map (·.parsed)))
    (hkeys : Discovery.KeysApart entries) :
    (gather entries).structCount = ((gather entries).allRoots.map
      fun r => (Statement.structsOf r.2.2.statements).length).sum := by
  have hcount := (LawfulStore.count_putAll (S := structStore) (m := []) List.nodup_nil
    (outcomes entries).structs).2 ⟨structs_apart hb, fun _ _ => rfl⟩
  have hweight := LawfulStore.weigh_putAll (S := PathMap.nestedStore) PathMap.nestedOrdered_empty
    (roots_apart hkeys) (fun _ _ => rfl) fun root => (Statement.structsOf root.statements).length
  have hlength : structStore.count (gather entries).structs = (gather entries).structCount := by
    simp [LawfulStore.count, structStore, LinkedWorkspace.structCount, List.map_const']
  have hsum := PathMap.nestedWeight_eq
    (fun root : Root LinkedType => (Statement.structsOf root.statements).length)
    (gather entries).roots
  rw [← gather_structs, hlength, length_structs] at hcount
  rw [← gather_roots] at hweight
  have hroots := hsum.symm.trans hweight
  have hempty : structStore.count [] = 0 := rfl
  have hempty' : PathMap.nestedStore.weigh
    (fun root : Root LinkedType => (Statement.structsOf root.statements).length) .empty = 0 := rfl
  rw [hempty, Nat.zero_add] at hcount
  rw [hempty', Nat.zero_add] at hroots
  rw [hcount]
  exact hroots.symm

/-! ## Handles resolve -/

/-- The file defines a structure of the name under the id. -/
def DefinesStruct (f : ParsedFile) (id : ElementId) (name : Identifier) : Prop :=
  ∃ source range bases metadata children, f.root = .ok source ∧
    (id, .struct id range name bases metadata children) ∈ Statement.structsOf source.statements

/-- Handles never lie. The structure of a handle is there exactly if the file that defines it has a
root, and then it is the statement of that root with the id and the name of the handle. Without
failures every handle has its structure, and the structures are counted with the nested ones. -/
structure HandlesResolve (entries : List ParsedEntry) (w : LinkedWorkspace) : Prop where
  handle : ∀ directory file root occurrence id name, (directory, file, root) ∈ w.allRoots →
    Element.type (.struct occurrence id name) ∈ (Tree.ofRoot root).elements →
      ∃ e, entries[id.file]? = some e ∧ DefinesStruct e.parsed id name ∧
        ((w.struct? id).isSome ↔ (w.root? e.directory e.file).isSome) ∧
        ∀ s, w.struct? id = some s → ∃ own range bases metadata children,
          (outcomes entries)[id.file]? = some (e, .ok own) ∧
          w.root? e.directory e.file = some own ∧
          (id, s) ∈ Statement.structsOf own.statements ∧
          s = .struct id range name bases metadata children
  success : w.isSuccess = true → ∀ directory file root occurrence id name,
    (directory, file, root) ∈ w.allRoots →
      Element.type (.struct occurrence id name) ∈ (Tree.ofRoot root).elements →
        (w.struct? id).isSome
  count : w.structCount =
    (w.allRoots.map fun r => (Statement.structsOf r.2.2.statements).length).sum

/-- A handle of a result is one on a structure that a parsed file defines. -/
theorem defined_of_handle (hb : BuiltInOrder (entries.map (·.parsed))) {directory file : Path}
    {root : Root LinkedType} {occurrence : Occurrence} {id : ElementId} {name : Identifier}
    (hroot : (directory, file, root) ∈ (gather entries).allRoots)
    (hm : Element.type (.struct occurrence id name) ∈ (Tree.ofRoot root).elements) :
    ∃ e, entries[id.file]? = some e ∧ DefinesStruct e.parsed id name := by
  obtain ⟨e, hout, -⟩ := exists_outcome_of_mem_allRoots hroot
  obtain ⟨i, hi⟩ := List.mem_iff_getElem?.1 hout
  obtain ⟨_, -, -, hmirrors⟩ := mirrors_of_outcome hi
  have hhandle : (id, name) ∈ Statement.handlesOf root.statements := by
    rw [Tree.ofRoot, Tree.elements, List.mem_cons] at hm
    rcases hm with hm | hm
    · cases hm
    · exact Statement.mem_handlesOf_of_element root.statements hm
  obtain ⟨f, source, range, bases, metadata, children, hf, hsource, hstruct⟩ :=
    (hmirrors.holds_handles _ hhandle).defined hb
  rw [List.getElem?_map] at hf
  obtain ⟨e', he', rfl⟩ := Option.map_eq_some_iff.1 hf
  exact ⟨e', he', source, range, bases, metadata, children, hsource, hstruct⟩

/-- Where the defining file was linked, its root has the structure. -/
theorem exists_struct_of_defines {i : Nat} {e : ParsedEntry} {own : Root LinkedType}
    (h : (outcomes entries)[i]? = some (e, .ok own)) {id : ElementId} {name : Identifier}
    (hd : DefinesStruct e.parsed id name) :
    ∃ range bases metadata children,
      (id, .struct id range name bases metadata children) ∈ Statement.structsOf own.statements := by
  obtain ⟨source, -, hsource, hmirrors⟩ := mirrors_of_outcome h
  obtain ⟨source', range, bases, metadata, children, hsource', hstruct⟩ := hd
  rw [hsource] at hsource'
  cases hsource'
  -- linking keeps the ids and the names of structures
  have hmem := List.mem_map_of_mem (f := fun x => (x.1, x.2.id, x.2.definedName?)) hstruct
  rw [← hmirrors.structs] at hmem
  obtain ⟨⟨id', s⟩, hs, heq⟩ := List.mem_map.1 hmem
  obtain ⟨range', name', bases', metadata', children', hshape⟩ :=
    Statement.id_of_mem_structsOf own.statements _ hs
  dsimp only at hshape
  subst hshape
  cases heq
  exact ⟨range', bases', metadata', children', hs⟩

/-- The structure of a handle is there exactly if the file that defines it was linked. -/
theorem struct?_gather_of_defines (hb : BuiltInOrder (entries.map (·.parsed))) {e : ParsedEntry}
    {id : ElementId} {name : Identifier} (he : entries[id.file]? = some e)
    (hd : DefinesStruct e.parsed id name) {s : Statement LinkedType} :
    (gather entries).struct? id = some s ↔ ∃ own range bases metadata children,
      (outcomes entries)[id.file]? = some (e, .ok own) ∧
        (id, s) ∈ Statement.structsOf own.statements ∧
        s = .struct id range name bases metadata children := by
  constructor
  · intro hs
    obtain ⟨e', own, hout, hmem⟩ := (struct?_gather_iff hb).1 hs
    have he' := (getElem?_outcomes_iff.1 hout).1
    rw [he] at he'
    cases he'
    obtain ⟨range, bases, metadata, children, hmem'⟩ := exists_struct_of_defines hout hd
    have hs' := (struct?_gather_iff hb).2 ⟨e, own, hout, hmem'⟩
    rw [hs] at hs'
    exact ⟨own, range, bases, metadata, children, hout, hmem, Option.some.inj hs'⟩
  · rintro ⟨own, -, -, -, -, hout, hmem, -⟩
    exact (struct?_gather_iff hb).2 ⟨e, own, hout, hmem⟩

theorem handlesResolve_gather (hb : BuiltInOrder (entries.map (·.parsed)))
    (hkeys : Discovery.KeysApart entries) : HandlesResolve entries (gather entries) := by
  -- a file that was linked has the structure of each handle on it
  have hthere : ∀ {e own id name}, entries[id.file]? = some e → DefinesStruct e.parsed id name →
      (outcomes entries)[id.file]? = some (e, .ok own) →
        ((gather entries).struct? id).isSome = true := by
    intro e own id name he hd hout
    obtain ⟨range, bases, metadata, children, hmem⟩ := exists_struct_of_defines hout hd
    rw [(struct?_gather_iff hb).2 ⟨e, own, hout, hmem⟩]
    rfl
  refine ⟨?_, ?_, structCount_gather hb hkeys⟩
  · intro directory file root occurrence id name hroot hm
    obtain ⟨e, he, hd⟩ := defined_of_handle hb hroot hm
    have hfound : ∀ s, (gather entries).struct? id = some s →
        ∃ own range bases metadata children,
          (outcomes entries)[id.file]? = some (e, .ok own) ∧
          (gather entries).root? e.directory e.file = some own ∧
          (id, s) ∈ Statement.structsOf own.statements ∧
          s = .struct id range name bases metadata children := by
      intro s hs
      obtain ⟨own, range, bases, metadata, children, hout, hmem, heq⟩ :=
        (struct?_gather_of_defines hb he hd).1 hs
      exact ⟨own, range, bases, metadata, children, hout, (root?_gather_iff hkeys he).2 hout, hmem,
        heq⟩
    refine ⟨e, he, hd, ⟨fun hs => ?_, fun hr => ?_⟩, hfound⟩
    · obtain ⟨s, hs⟩ := Option.isSome_iff_exists.1 hs
      obtain ⟨own, -, -, -, -, -, hown, -⟩ := hfound s hs
      rw [hown]
      rfl
    · obtain ⟨own, hown⟩ := Option.isSome_iff_exists.1 hr
      exact hthere he hd ((root?_gather_iff hkeys he).1 hown)
  · intro hsuccess directory file root occurrence id name hroot hm
    obtain ⟨e, he, hd⟩ := defined_of_handle hb hroot hm
    have hout : (outcomes entries)[id.file]? = some (e, (Table.ofFiles
        (entries.map (·.parsed))).linkFile id.file e.parsed) := getElem?_outcomes_iff.2 ⟨he, rfl⟩
    cases hlink : (Table.ofFiles (entries.map (·.parsed))).linkFile id.file e.parsed with
    | ok own =>
      rw [hlink] at hout
      exact hthere he hd hout
    | error d =>
      rw [hlink] at hout
      exact absurd (List.mem_of_getElem? hout) (not_error_of_isSuccess hsuccess)

end Result

theorem eq_gather_of_link {entries : List ParsedEntry} {o : Options} {w : LinkedWorkspace}
    (raise : o.raiseSingle = false) (h : link entries o = .ok w) : w = gather entries := by
  obtain ⟨_, check, -⟩ := bind_eq_ok_iff.1 h
  rw [link_of_not_raising check raise] at h
  exact (Except.ok.inj h).symm

/-- Handles of a result resolve exactly if the file of their structure has a root. -/
theorem handlesResolve_link (grammar : Grammar) (disk : Disk) (listed : List WorkspaceFile)
    (o : Options) (w : LinkedWorkspace) (raise : o.raiseSingle = false)
    (h : link (Discovery.all grammar disk (Workspace.ofFiles listed)) o = .ok w) :
    HandlesResolve (Discovery.all grammar disk (Workspace.ofFiles listed)) w := by
  rw [eq_gather_of_link raise h]
  exact handlesResolve_gather (Discovery.builtInOrder_all grammar disk _)
    (Discovery.all_apart grammar disk listed)

/-- A handle on a structure of which the result knows nothing. -/
def LinkedWorkspace.leadsNowhere (w : LinkedWorkspace) : Element → Bool
  | .type (.struct _ id _) => (w.struct? id).isNone
  | _ => false

/-- A grammar that knows two texts. What the second one says ends in a reference to nothing. -/
def twoTexts : Grammar := fun _ text =>
  .ok (if text = "1" then [.takes 1 "b" "Point" "Place", .names 2 "x" (.named 2 ["Place"])]
    else [.record 1 "Point" [] [], .names 2 "y" (.named 2 ["Missing"])])

/-- The first file takes over a structure of the second one. -/
def takesOfFailed : List WorkspaceFile :=
  [⟨⟨"ws"⟩, ⟨"a"⟩, .text "1"⟩, ⟨⟨"ws"⟩, ⟨"b"⟩, .text "2"⟩]

/-- The linked file has a handle on a structure of the failed one. -/
theorem handlesResolve_takesOfFailed :
    let entries := Discovery.all twoTexts .empty (Workspace.ofFiles takesOfFailed)
    ∃ w, link entries ⟨true, none, true, false⟩ = .ok w ∧ HandlesResolve entries w ∧
      w.allRoots.any (fun r => (Tree.ofRoot r.2.2).elements.any w.leadsNowhere) = true := by
  have hall : Discovery.all twoTexts .empty (Workspace.ofFiles takesOfFailed) =
      (Discovery.start (Workspace.ofFiles takesOfFailed)).parsePending twoTexts .empty :=
    Discovery.all_of_discovered_nil _ _ _ rfl
  have hlink : link (Discovery.all twoTexts .empty (Workspace.ofFiles takesOfFailed))
      ⟨true, none, true, false⟩ = .ok _ := link_of_not_raising rfl rfl
  have hresolve := handlesResolve_link twoTexts .empty takesOfFailed _ _ rfl hlink
  refine ⟨_, hlink, hresolve, ?_⟩
  rw [hall]
  cbv

end Schemata
