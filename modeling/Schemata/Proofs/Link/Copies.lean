import Mathlib
import Schemata.Proofs.Build.Sketch
import Schemata.Proofs.Link.Statements
import Schemata.Proofs.Table.Reader

/-!
# Copies of aliases

A file that mentions an alias or a field of another file links it again, on its own behalf. Since a
global reference is searched for in all files but that of the reader, two files could find different
types there. They do not if every file is linked: a name that a file does not find around the
reference has exactly one candidate for the file in which the reference stands, so no other file can
have another one. Hence all copies of an alias are the type that the alias carries in its own file.

**Results:**
* `Table.target_eq_of_home`: a reader finds what the file of the reference finds, or nothing.
* `Table.Means.agree`: all readers for which a type means something agree on it.
* `Table.copies_agree`: copies of aliases and fields are what these carry in their own file.
-/
namespace Schemata

/-- An item with the id carries the linked type in the root of its file. -/
def OwnType (roots : List (Root LinkedType)) (id : ElementId) (linked : LinkedType) : Prop :=
  ∃ root, roots[id.file]? = some root ∧ (id, linked) ∈ Statement.itemsOf root.statements

namespace Table

/-! ## Readers -/

variable {t : Table}

/-- What the root of a file defines is found from every scope of the file. -/
theorem isSome_lookup? {scope : Address} {name : String} {d : Definition}
    (h : t.typeIn? ⟨scope.file, []⟩ name = some d) : (t.lookup? scope name).isSome = true := by
  obtain ⟨file, path⟩ := scope
  unfold lookup?
  induction path with
  | nil =>
    rw [lookupFrom, h]
    rfl
  | cons index outer ih =>
    rw [lookupFrom]
    cases t.typeIn? ⟨file, index :: outer⟩ name with
    | none => exact ih h
    | some d => rfl

/-- If the file of a scope finds a first name there, other readers find the same or nothing. -/
theorem first_eq_of_home {i : Nat} {scope : Address} {isGlobal : Bool} {name : Identifier}
    {d home : Definition} (h : t.resolveFirst i scope isGlobal name = .ok d)
    (hh : t.resolveFirst scope.file scope isGlobal name = .ok home) : d = home := by
  unfold resolveFirst at h hh
  cases hl : t.lookup? scope name.name with
  | some found =>
    rw [hl] at h hh
    exact (Except.ok.inj h).symm.trans (Except.ok.inj hh)
  | none =>
    -- the file of the scope does not export the name, so its candidates are those of all files
    have hnone : ∀ e, ¬ t.Exports scope.file name.name e := by
      intro e he
      have hsome := isSome_lookup? he.1
      rw [hl] at hsome
      cases hsome
    have hsub : t.globalCandidates i name.name ⊆ t.globalCandidates scope.file name.name := by
      intro e he
      obtain ⟨file, -, hexports⟩ := mem_globalCandidates_iff.1 he
      refine mem_globalCandidates_iff.2 ⟨file, ?_, hexports⟩
      rintro rfl
      exact hnone e hexports
    rw [hl] at h hh
    cases isGlobal with
    | false => cases h
    | true =>
      simp only [if_true] at h hh
      split at h
      · cases h
      · rename_i hi
        split at hh
        · cases hh
        · rename_i hhome
          cases h
          cases hh
          have hmem := hsub (hi ▸ List.mem_singleton_self d)
          rw [hhome] at hmem
          exact List.mem_singleton.1 hmem
        · cases hh
      · cases h

/-- If the file of a scope finds a reference there, other readers find the same or nothing. -/
theorem target_eq_of_home {i : Nat} {scope : Address} {r : Reference} {range : Range}
    {target home : ReferenceTarget} (h : t.resolve i r range scope = .ok target)
    (hh : t.resolve scope.file r range scope = .ok home) : target = home := by
  unfold resolve at h hh
  split at h
  · cases h
  · rename_i first rest hsegments
    rw [hsegments] at hh
    obtain ⟨d, hd, h⟩ := bind_eq_ok_iff.1 h
    obtain ⟨e, he, hh⟩ := bind_eq_ok_iff.1 hh
    rw [first_eq_of_home hd he, hh] at h
    exact (Except.ok.inj h).symm

/-- A reference that means something leads somewhere. -/
theorem Means.exists_target {reader : Nat} {scope : Address} {o : Occurrence} {r : Reference}
    {linked : LinkedType} (h : t.Means reader scope (.reference o r) linked) :
    ∃ target, t.resolve reader r o.range scope = .ok target := by
  cases h with
  | ofStruct hr | ofAlias hr | ofField hr => exact ⟨_, hr⟩

/-- Two readers of a reference that means something to the file in which it stands find the same. -/
theorem Means.target_eq {i j : Nat} {scope : Address} {o : Occurrence} {r : Reference}
    {linked : LinkedType} (hh : t.Means scope.file scope (.reference o r) linked)
    {target target' : ReferenceTarget} (h : t.resolve i r o.range scope = .ok target)
    (h' : t.resolve j r o.range scope = .ok target') : target = target' := by
  obtain ⟨home, hhome⟩ := hh.exists_target
  rw [target_eq_of_home h hhome, target_eq_of_home h' hhome]

/-- Every alias and every field means something to the file in which it stands. -/
def EachMeans (t : Table) : Prop :=
  ∀ u, t.HasItem u → ∃ linked, t.Means u.scope.file u.scope u.type linked

theorem EachMeans.of_alias (h : t.EachMeans) {reader : Nat} {scope : Address} {o : Occurrence}
    {r : Reference} {d : Definition} {aliased : WrittenType}
    (hr : t.resolve reader r o.range scope = .ok (.definition d)) (hk : d.kind = .alias aliased) :
    ∃ linked, t.Means d.address.file d.address.scope aliased linked :=
  h (.ofAlias d aliased) (hasItem_of_mentions (mentions_alias hr hk))

theorem EachMeans.of_field (h : t.EachMeans) {reader : Nat} {scope : Address} {o : Occurrence}
    {r : Reference} {f : Field} (hr : t.resolve reader r o.range scope = .ok (.field f)) :
    ∃ linked, t.Means f.scope.file f.scope f.type linked :=
  h (.ofField f) (hasItem_of_mentions (mentions_field hr))

mutual

/-- Readers for which a type means something agree on it, if it means something to the file in which
it stands. -/
theorem Means.agree (hclean : t.EachMeans) {i j : Nat} {scope : Address} {type : WrittenType}
    {a b home : LinkedType} (h : t.Means i scope type a) (h' : t.Means j scope type b)
    (hh : t.Means scope.file scope type home) : a = b := by
  match h, h', hh with
  | .fundamental .., .fundamental .., _ => rfl
  | .tuple h, .tuple h', .tuple hh => rw [h.agree hclean h' hh]
  | .variant h _, .variant h' _, .variant hh _ => rw [h.agree hclean h' hh]
  | .ofStruct hr _, .ofStruct hr' _, hh =>
    cases hh.target_eq hr hr'
    rfl
  | .ofAlias hr hk h, .ofAlias hr' hk' h', hh =>
    cases hh.target_eq hr hr'
    rw [hk] at hk'
    cases hk'
    obtain ⟨own, hown⟩ := hclean.of_alias hr hk
    rw [h.agree hclean h' hown]
  | .ofField hr h hp, .ofField hr' h' hp', hh =>
    cases hh.target_eq hr hr'
    obtain ⟨own, hown⟩ := hclean.of_field hr
    rw [hp, hp', h.agree hclean h' hown]
  | .ofStruct hr hk, .ofAlias hr' hk' _, hh | .ofAlias hr hk _, .ofStruct hr' hk', hh =>
    cases hh.target_eq hr hr'
    rw [hk] at hk'
    cases hk'
  | .ofStruct hr _, .ofField hr' _ _, hh | .ofAlias hr _ _, .ofField hr' _ _, hh
  | .ofField hr _ _, .ofStruct hr' _, hh | .ofField hr _ _, .ofAlias hr' _ _, hh =>
    cases hh.target_eq hr hr'

theorem MeansAll.agree (hclean : t.EachMeans) {i j : Nat} {scope : Address}
    {types : List WrittenType} {as bs home : List LinkedType} (h : t.MeansAll i scope types as)
    (h' : t.MeansAll j scope types bs) (hh : t.MeansAll scope.file scope types home) :
    as = bs := by
  match h, h', hh with
  | .nil _, .nil _, _ => rfl
  | .cons h hs, .cons h' hs', .cons hh hhs =>
    rw [h.agree hclean h' hh, hs.agree hclean hs' hhs]

end

/-! ## Copies -/

mutual

/-- What a type that stands in a scope is linked to by a reader, where each alias in it embeds the
own type of the alias, and each reference to a field has the own type of the field in its place. -/
inductive Copies (t : Table) (reader : Nat) (own : ElementId → LinkedType → Prop) :
    Address → WrittenType → LinkedType → Prop where
  | fundamental (scope : Address) (o : Occurrence) (f : Fundamental) :
      Copies t reader own scope (.fundamental o f) (.fundamental o f)
  | tuple {scope : Address} {o : Occurrence} {members : List WrittenType}
      {linked : List LinkedType} (h : CopiesAll t reader own scope members linked) :
      Copies t reader own scope (.tuple o members) (.tuple o linked)
  | variant {scope : Address} {o : Occurrence} {members : List WrittenType}
      {linked : List LinkedType} (h : CopiesAll t reader own scope members linked) :
      Copies t reader own scope (.variant o members) (.variant o linked)
  | ofStruct {scope : Address} {o : Occurrence} {r : Reference} {d : Definition}
      {bases : List WrittenType} (hr : t.resolve reader r o.range scope = .ok (.definition d))
      (hk : d.kind = .struct bases) :
      Copies t reader own scope (.reference o r) (.struct o d.id d.name)
  | ofAlias {scope : Address} {o : Occurrence} {r : Reference} {d : Definition}
      {aliased : WrittenType} {linked : LinkedType}
      (hr : t.resolve reader r o.range scope = .ok (.definition d)) (hk : d.kind = .alias aliased)
      (hown : own d.id linked) (h : Copies t reader own d.address.scope aliased linked) :
      Copies t reader own scope (.reference o r) (.alias o d.name linked)
  | ofField {scope : Address} {o : Occurrence} {r : Reference} {f : Field}
      {linked placed : LinkedType} (hr : t.resolve reader r o.range scope = .ok (.field f))
      (hown : own f.id linked) (h : Copies t reader own f.scope f.type linked)
      (hp : placed = linked.inPlaceOf o) :
      Copies t reader own scope (.reference o r) placed

/-- Types that stand in a scope are linked one by one. -/
inductive CopiesAll (t : Table) (reader : Nat) (own : ElementId → LinkedType → Prop) :
    Address → List WrittenType → List LinkedType → Prop where
  | nil (scope : Address) : CopiesAll t reader own scope [] []
  | cons {scope : Address} {type : WrittenType} {linked : LinkedType} {types : List WrittenType}
      {rest : List LinkedType} (h : Copies t reader own scope type linked)
      (hs : CopiesAll t reader own scope types rest) :
      CopiesAll t reader own scope (type :: types) (linked :: rest)

end

mutual

/-- What a reader makes of a type consists of copies, if the type means something to the file in
which it stands. -/
theorem Means.copies {own : ElementId → LinkedType → Prop} (hclean : t.EachMeans)
    (hown : ∀ u linked, t.HasItem u → t.Means u.scope.file u.scope u.type linked → own u.id linked)
    {reader : Nat} {scope : Address} {type : WrittenType} {linked home : LinkedType}
    (h : t.Means reader scope type linked) (hh : t.Means scope.file scope type home) :
    t.Copies reader own scope type linked := by
  match h, hh with
  | .fundamental .., _ => exact .fundamental ..
  | .tuple h, .tuple hh => exact .tuple (h.copies hclean hown hh)
  | .variant h _, .variant hh _ => exact .variant (h.copies hclean hown hh)
  | .ofStruct hr hk, _ => exact .ofStruct hr hk
  | .ofAlias hr hk h, _ =>
    -- what the reader made of the alias is what the file of the alias makes of it
    obtain ⟨l, hl⟩ := hclean.of_alias hr hk
    obtain rfl := h.agree hclean hl hl
    have hitem := hasItem_of_mentions (mentions_alias hr hk)
    exact .ofAlias hr hk (hown _ _ hitem hl) (h.copies hclean hown hl)
  | .ofField hr h hp, _ =>
    obtain ⟨l, hl⟩ := hclean.of_field hr
    obtain rfl := h.agree hclean hl hl
    have hitem := hasItem_of_mentions (mentions_field hr)
    exact .ofField hr (hown _ _ hitem hl) (h.copies hclean hown hl) hp

theorem MeansAll.copies {own : ElementId → LinkedType → Prop} (hclean : t.EachMeans)
    (hown : ∀ u linked, t.HasItem u → t.Means u.scope.file u.scope u.type linked → own u.id linked)
    {reader : Nat} {scope : Address} {types : List WrittenType} {linked home : List LinkedType}
    (h : t.MeansAll reader scope types linked) (hh : t.MeansAll scope.file scope types home) :
    t.CopiesAll reader own scope types linked := by
  match h, hh with
  | .nil _, _ => exact .nil _
  | .cons h hs, .cons hh hhs =>
    exact .cons (h.copies hclean hown hh) (hs.copies hclean hown hhs)

end

/-! ## Linked files -/

/-- The copies of aliases and fields are what these carry in their own file. -/
structure CopiesAgree (files : List ParsedFile) (roots : List (Root LinkedType)) : Prop where
  /-- An id has at most one own type. -/
  unique : ∀ id a b, OwnType roots id a → OwnType roots id b → a = b
  /-- Each file carries copies of the own types. -/
  carries : ∀ file f root, files[file]? = some f → roots[file]? = some root →
    ∃ source, f.root = .ok source ∧
      CarriesFrom ((ofFiles files).Copies file (OwnType roots)) ⟨file, []⟩ 0 source.statements
        root.statements

section Linked

variable {files : List ParsedFile} (hb : BuiltInOrder files) {roots : List (Root LinkedType)}
  (h : (ofFiles files).linkFiles files = roots.map .ok)
include hb h

theorem carries_of_linkFiles {file : Nat} {f : ParsedFile} (hf : files[file]? = some f)
    {root : Root LinkedType} (hroot : roots[file]? = some root) :
    ∃ source, f.root = .ok source ∧
      CarriesFrom ((ofFiles files).Means file) ⟨file, []⟩ 0 source.statements root.statements := by
  refine linkFile_carries hb hf ?_
  have hget := congrArg (·[file]?) h
  simp only [linkFiles, List.getElem?_map, List.getElem?_zipIdx, hf, hroot, Option.map_some,
    Nat.zero_add, Option.some.injEq] at hget
  exact hget

/-- Each item of the table has its own type, which it means to its file. -/
theorem exists_ownType {a : Address} {id : ElementId} {range : Range} {name : Identifier}
    {type : WrittenType} (hs : (a, .item id range name type) ∈ (ofFiles files).allStatements) :
    ∃ linked, OwnType roots id linked ∧ (ofFiles files).Means a.file a.scope type linked := by
  obtain ⟨file, hfile, hs⟩ := List.mem_flatMap.1 hs
  have ha : a.file = file := file_of_mem_addressedIn _ _ _ _ hs
  have hlength : files.length = roots.length := by
    simpa [linkFiles] using congrArg List.length h
  have hlt : file < files.length := by
    simpa [ofFiles, declare] using hfile
  have hf := List.getElem?_eq_getElem hlt
  have hroot := List.getElem?_eq_getElem (hlength ▸ hlt)
  obtain ⟨source, hsource, hcarries⟩ := carries_of_linkFiles hb h hf hroot
  rw [rootStatements_ofFiles] at hs
  have hid : id.file = file := (ids_of_parsedStatements hb file).2 _ hs
  rw [parsedStatements, hf] at hs
  simp only [hsource] at hs
  obtain ⟨linked, hlinked, hmeans⟩ := hcarries.exists_linked hs
  exact ⟨linked, ⟨_, hid ▸ hroot, hlinked⟩, ha ▸ hmeans⟩

/-- The own type of an id is what its item means to its file. -/
theorem exists_item_of_ownType {id : ElementId} {linked : LinkedType}
    (hown : OwnType roots id linked) :
    ∃ a range name type, (a, .item id range name type) ∈ (ofFiles files).allStatements ∧
      (ofFiles files).Means id.file a.scope type linked := by
  obtain ⟨root, hroot, hmem⟩ := hown
  have hlength : files.length = roots.length := by
    simpa [linkFiles] using congrArg List.length h
  have hlt : id.file < files.length := hlength ▸ (List.getElem?_eq_some_iff.1 hroot).1
  have hf := List.getElem?_eq_getElem hlt
  obtain ⟨source, hsource, hcarries⟩ := carries_of_linkFiles hb h hf hroot
  obtain ⟨a, range, name, type, hs, hmeans⟩ := hcarries.exists_written hmem
  exact ⟨a, range, name, type, addressedIn_root_subset hf hsource hs, hmeans⟩

theorem ownType_unique {id : ElementId} {l l' : LinkedType} (hl : OwnType roots id l)
    (hl' : OwnType roots id l') : l = l' := by
  obtain ⟨a, range, name, type, hs, hmeans⟩ := exists_item_of_ownType hb h hl
  obtain ⟨a', range', name', type', hs', hmeans'⟩ := exists_item_of_ownType hb h hl'
  cases Table.eq_of_id hb hs hs' rfl
  exact hmeans.unique hmeans'

/-- If every file is linked, the copies of aliases and fields are what these carry in their own
file. -/
theorem copies_agree : CopiesAgree files roots := by
  have hitem : ∀ u, (ofFiles files).HasItem u → ∃ linked, OwnType roots u.id linked ∧
      (ofFiles files).Means u.scope.file u.scope u.type linked := by
    rintro u ⟨a, range, hs, ha⟩
    rw [← ha]
    exact exists_ownType hb h hs
  have hclean : (ofFiles files).EachMeans := fun u hu => (hitem u hu).imp fun _ hl => hl.2
  refine ⟨fun _ _ _ => ownType_unique hb h, fun file f root hf hroot => ?_⟩
  obtain ⟨source, hsource, hcarries⟩ := carries_of_linkFiles hb h hf hroot
  refine ⟨source, hsource, hcarries.imp ?_ rfl⟩
  intro scope type linked (hscope : scope.file = file) hmeans
  refine hmeans.copies hclean (fun u l hu hl => ?_) (hscope ▸ hmeans)
  obtain ⟨own, hown, hlown⟩ := hitem u hu
  rwa [hl.unique hlown]

end Linked

/-- A file that takes over an alias and a structure from another file, and has a field of the type
of the alias and one of the type of a field of the structure. -/
def copyingFiles : List ParsedFile :=
  parseInOrder
    [(⟨"a"⟩, [.takes 1 "b" "A" "A", .takes 2 "b" "S" "S", .names 3 "x" (.named 3 ["A"]),
        .names 4 "y" (.element 4 ["S", "z"])]),
      (⟨"b"⟩, [.names 1 "A" (.named 1 ["S"]),
        .record 2 "S" [] [.names 3 "z" (.named 3 ["Date"])]])]

/-- The linked type of the item with an id, in the root of its file. -/
def ownType? (roots : List (Root LinkedType)) (id : ElementId) : Option LinkedType :=
  roots[id.file]?.bind fun root => (Statement.itemsOf root.statements).lookup id

theorem ownType_of_ownType? {roots : List (Root LinkedType)} {id : ElementId} {linked : LinkedType}
    (h : ownType? roots id = some linked) : OwnType roots id linked := by
  obtain ⟨root, hroot, hlookup⟩ := Option.bind_eq_some_iff.1 h
  obtain ⟨before, after, heq, -⟩ := List.lookup_eq_some_iff.1 hlookup
  exact ⟨root, hroot, heq ▸ List.mem_append_right before List.mem_cons_self⟩

/-- What the node of an alias takes along. -/
def aliased? : LinkedType → Option LinkedType
  | .alias _ _ linked => some linked
  | _ => none

/-- What the files are linked to. -/
def copyingRoots : List (Root LinkedType) :=
  ((ofFiles copyingFiles).linkFiles copyingFiles).filterMap Except.toOption

theorem linkFiles_copyingFiles :
    (ofFiles copyingFiles).linkFiles copyingFiles = copyingRoots.map .ok := by
  have hok : ((ofFiles copyingFiles).linkFiles copyingFiles).all Except.isOk = true := by cbv
  obtain ⟨roots, hroots⟩ := exists_of_all_isOk hok
  have hvalues : copyingRoots = roots := by
    rw [copyingRoots, hroots, List.filterMap_map]
    exact List.filterMap_some
  rw [hvalues, hroots]

/-- The alias has a handle on the structure. -/
theorem target_copyingRoots :
    ((ownType? copyingRoots ⟨1, 1⟩).bind (·.structure?)).map (·.1) = some ⟨1, 3⟩ := by
  cbv

/-- The field `x` takes along what the alias has. -/
theorem taken_copyingRoots :
    (ownType? copyingRoots ⟨0, 3⟩).bind aliased? = ownType? copyingRoots ⟨1, 1⟩ := by
  cbv

/-- Both files are linked, and the first one has copies of what the second one carries. The own type
of the alias is a handle on the structure, and the field `x` of the other file takes it along. -/
theorem copies_agree_copyingFiles :
    BuiltInOrder copyingFiles ∧ ∃ roots,
      (ofFiles copyingFiles).linkFiles copyingFiles = roots.map .ok ∧
      CopiesAgree copyingFiles roots ∧
      ∃ own, OwnType roots ⟨1, 1⟩ own ∧ own.structure?.map (·.1) = some ⟨1, 3⟩ ∧
        ∃ o name, OwnType roots ⟨0, 3⟩ (.alias o name own) := by
  have hb : BuiltInOrder copyingFiles := builtInOrder_parseInOrder _
  refine ⟨hb, copyingRoots, linkFiles_copyingFiles, copies_agree hb linkFiles_copyingFiles, ?_⟩
  obtain ⟨_, htarget, hid⟩ := Option.map_eq_some_iff.1 target_copyingRoots
  obtain ⟨own, hown, hstructure⟩ := Option.bind_eq_some_iff.1 htarget
  have htaken := taken_copyingRoots
  rw [hown] at htaken
  obtain ⟨linked, hlinked, hcopy⟩ := Option.bind_eq_some_iff.1 htaken
  match linked, hcopy with
  | .alias o name _, rfl =>
    exact ⟨own, ownType_of_ownType? hown, by rw [hstructure, Option.map_some, hid], o, name,
      ownType_of_ownType? hlinked⟩

end Table
end Schemata
