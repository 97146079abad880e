import Schemata.Proofs.Link.Agreement
import Schemata.Proofs.Link.Bases

/-!
# When linking succeeds

Whether a file is linked, and to what, does not depend on what is remembered on the way, nor on the
order in which its statements come: each type means something, the bases of each structure go
together, and the search for cycles finds that they are well founded. This is said without trails
and memory, and linking decides it.

**Results:**
* `Table.founds`: the search for cycles of bases succeeds only from structures that are well
  founded.
* `Table.linkFile_eq_ok_iff`: on which condition a file is linked, and to what.
-/
namespace Schemata
namespace Table

variable {t : Table} {reader : Nat} {memory : LinkMemory} {files : List ParsedFile}

/-! ## Structures that are well founded -/

/-- The bases of every structure that is reached link, and no cycle is reached. -/
structure Founded (t : Table) (reader : Nat) (d : Definition) : Prop where
  link : t.AllLink reader d
  grounded : Grounded (t.BaseEdge reader) d

/-- A structure is well founded if its bases link and the structures that they are are. -/
theorem founded_of_bases {d : Definition} (hl : t.BasesLink reader d)
    (hs : ∀ via b, t.BaseEdge reader d via b → t.Founded reader b) : t.Founded reader d where
  link := by
    rintro a ⟨way, hway⟩
    cases hway with
    | nil => exact hl
    | cons e hway => exact (hs _ _ e).link a ⟨_, hway⟩
  grounded := grounded_iff.2 fun via b e => (hs via b e).grounded

theorem founded_of_alias {d : Definition} {type : WrittenType} (hk : d.kind = .alias type) :
    t.Founded reader d := by
  have hnot : ∀ bases, d.kind ≠ .struct bases := fun bases h => by simp [hk] at h
  refine founded_of_bases (fun bases h => absurd h (hnot bases)) ?_
  rintro via b ⟨bases, base, h, -⟩
  exact absurd h (hnot bases)

/-- A structure is well founded if each of its bases links, and is well founded if it is a
structure. -/
theorem founded_of_struct {d : Definition} {bases : List WrittenType} (hk : d.kind = .struct bases)
    (h : ∀ base ∈ bases,
      (∃ linked, (t.linkType reader .empty .empty d.address.scope base).1 = .ok linked) ∧
        ∀ b, t.IsBase reader d.address.scope base b → t.Founded reader b) :
    t.Founded reader d := by
  refine founded_of_bases (fun bases' hk' base hbase => ?_) ?_
  · rw [hk] at hk'
    cases hk'
    exact (h base hbase).1
  · rintro via b ⟨bases', base, hk', hbase, -, hisBase⟩
    rw [hk] at hk'
    cases hk'
    exact (h base hbase).2 b hisBase

/-- A search that finds cycles exactly succeeds from a structure that is well founded. -/
theorem Founded.ok_of_settles {d : Definition} (hd : t.Founded reader d) {x : Linked Unit}
    {done : Prop} (hs : t.Settles reader x (Reaches (t.BaseEdge reader) d) done) :
    x.1 = .ok () := by
  match hx : x.1 with
  | .ok () => rfl
  | .error e =>
    obtain ⟨a, ha, -, way, hway, -⟩ := hs.error e hx
    exact absurd hway.onCycle (hd.grounded.of_reaches ha).not_onCycle

/-- What is remembered is right: the linked types of aliases, and that the structures that have been
left are well founded. -/
structure Remembers (t : Table) (reader : Nat) (memory : LinkMemory) : Prop where
  aliases : t.Faithful reader memory
  acyclic : ∀ a ∈ memory.acyclic, ∀ d, t.Holds d → d.address = a → t.Founded reader d

theorem remembers_empty (t : Table) (reader : Nat) : t.Remembers reader .empty where
  aliases := faithful_empty t reader
  acyclic := fun a ha => by cases ha

theorem Remembers.sound (hm : t.Remembers reader memory) : t.Sound reader memory where
  aliases := hm.aliases
  acyclic := fun a ha d hd h => (hm.acyclic a ha d hd h).grounded

/-- Leaving a structure that is well founded keeps the memory right. -/
theorem Remembers.leave (hm : t.Remembers reader memory) {d : Definition} (held : t.Holds d)
    (hd : t.Founded reader d) :
    t.Remembers reader { memory with acyclic := d.address :: memory.acyclic } where
  aliases := hm.aliases
  acyclic := by
    intro a ha e he hea
    rcases List.mem_cons.1 ha with rfl | ha
    · obtain rfl := he.eq_of_address held hea
      exact hd
    · exact hm.acyclic a ha e he hea

/-! ## Deciding -/

/-- The memory after the run is right, and the run succeeds exactly with what is to be found. -/
structure Decides {α : Type} (t : Table) (reader : Nat) (x : Linked α) (Q : α → Prop) : Prop where
  remembers : t.Remembers reader x.2
  ok_iff : ∀ a, x.1 = .ok a ↔ Q a

section Decides

variable {α β : Type}

theorem decides_ok {m : LinkMemory} (hm : t.Remembers reader m) {a : α} {Q : α → Prop}
    (h : ∀ b, Q b ↔ b = a) : t.Decides reader (.ok a, m) Q where
  remembers := hm
  ok_iff := fun b => by rw [h, Except.ok.injEq, eq_comm]

theorem decides_error {m : LinkMemory} (hm : t.Remembers reader m) {e : Diagnostic} {Q : α → Prop}
    (h : ∀ a, ¬ Q a) : t.Decides reader (.error e, m) Q where
  remembers := hm
  ok_iff := fun a => ⟨nofun, fun ha => absurd ha (h a)⟩

/-- A run that goes on from the outcome of another one. -/
theorem Decides.next {x : Linked α} {y : Linked β} {Q : α → Prop} {R : β → Prop}
    (h : t.Decides reader x Q)
    (hok : ∀ a m, x = (.ok a, m) → t.Remembers reader m → Q a → t.Decides reader y R)
    (herror : ∀ e m, x = (.error e, m) → ∃ e', y = (.error e', m))
    (hr : ∀ b, R b → ∃ a, Q a) : t.Decides reader y R := by
  obtain ⟨outcome, m⟩ := x
  cases outcome with
  | ok a => exact hok a m rfl h.remembers ((h.ok_iff a).1 rfl)
  | error e =>
    obtain ⟨e', rfl⟩ := herror e m rfl
    refine decides_error h.remembers fun b hb => ?_
    obtain ⟨a, ha⟩ := hr b hb
    cases (h.ok_iff a).2 ha

end Decides

/-! ## Types -/

theorem Remembers.of_finds {α : Type} (hm : t.Remembers reader memory) {x : Linked α}
    {Q : α → Prop} (h : t.Finds reader memory x Q) : t.Remembers reader x.2 where
  aliases := (h hm.aliases).1
  acyclic := (h hm.aliases).2.1 ▸ hm.acyclic

/-- Linking a type decides what it means. -/
theorem linkType_decides (hb : BuiltInOrder files) (hm : (ofFiles files).Remembers reader memory)
    (scope : Address) (type : WrittenType) :
    (ofFiles files).Decides reader ((ofFiles files).linkType reader .empty memory scope type)
      ((ofFiles files).Means reader scope type) where
  remembers := hm.of_finds (linkType_finds _ reader .empty memory scope type)
  ok_iff := fun _ => linkType_eq_ok_iff hb hm.aliases

theorem linkTypes_decides (hb : BuiltInOrder files) (hm : (ofFiles files).Remembers reader memory)
    (scope : Address) (types : List WrittenType) :
    (ofFiles files).Decides reader ((ofFiles files).linkTypes reader .empty memory scope types)
      ((ofFiles files).MeansAll reader scope types) where
  remembers := hm.of_finds (linkTypes_finds _ reader .empty memory scope types)
  ok_iff := fun linked => by
    constructor
    · exact (linkTypes_finds _ reader .empty memory scope types hm.aliases).2.2 linked
    · exact fun h => linkTypes_of_means hb h (.empty _ reader scope types) hm.aliases

/-- A trail that only has an alias on it was laid through the type of the alias. -/
theorem follows_alias {d : Definition} {aliased : WrittenType} (held : t.Holds d)
    (hk : d.kind = .alias aliased) (via : Range)
    (fresh : d.id ∉ (Trail.empty : Trail t.itemIds).stepIds) (known : d.id ∈ t.itemIds) :
    t.Follows reader (Trail.empty.push ⟨d.id, via⟩ fresh known) [.ofAlias d aliased]
      d.address.scope [aliased] where
  threads := Threads.cons (v := Item.ofAlias d aliased) .nil nofun
  held := by
    intro u hu
    obtain rfl := List.mem_singleton.1 hu
    exact hasItem_of_holds held hk
  edge := by
    intro type htype r v hv u hu
    obtain rfl := List.mem_singleton.1 htype
    injection hu with hu
    exact hu ▸ hv

/-- Linking an alias where it is defined decides what it means. -/
theorem linkAlias_decides (hb : BuiltInOrder files) (hm : (ofFiles files).Remembers reader memory)
    {d : Definition} {aliased : WrittenType} (held : (ofFiles files).Holds d)
    (hk : d.kind = .alias aliased) (known : d.id ∈ (ofFiles files).itemIds) (via : Range) :
    (ofFiles files).Decides reader
      ((ofFiles files).linkAlias reader .empty memory d aliased known via)
      ((ofFiles files).Means reader d.address.scope aliased) where
  remembers := hm.of_finds (linkAlias_finds _ reader memory d aliased known via held hk)
  ok_iff := fun linked => by
    constructor
    · exact (linkAlias_finds _ reader memory d aliased known via held hk hm.aliases).2.2 linked
    · intro h
      cases hfind : memory.aliases.find? (·.1 = d.address) with
      | some entry =>
        have ha : entry.1 = d.address := by simpa using List.find?_some hfind
        have hl := hm.aliases _ _ (List.mem_of_find?_eq_some hfind) d _ held ha.symm hk
        rw [linkAlias_remembered hfind, hl.unique h]
      | none =>
        have fresh : d.id ∉ (Trail.empty : Trail (ofFiles files).itemIds).stepIds := nofun
        rw [linkAlias_enter hfind fresh known, linkType_of_means hb h
          (follows_alias held hk via fresh known) hm.aliases]
        rfl

/-- Linking the type of an item of the table decides what it means. -/
theorem linkItem_decides (hb : BuiltInOrder files) (hm : (ofFiles files).Remembers reader memory)
    {a : Address} {id : ElementId} {range : Range} {name : Identifier} {type : WrittenType}
    (hs : (a, .item id range name type) ∈ (ofFiles files).allStatements) :
    (ofFiles files).Decides reader
      ((ofFiles files).linkItem reader memory a.scope id name type)
      ((ofFiles files).Means reader a.scope type) := by
  unfold linkItem
  split
  · rename_i d _ hd hisType
    -- the definition of the id is the one that the statement makes
    obtain rfl := eq_of_definitionOf? hb hs (if_pos hisType) hd
    exact linkAlias_decides hb hm (holds_of_definitionOf? hd) rfl _ _
  · exact linkType_decides hb hm a.scope type

/-! ## Bases -/

/-- A base that links leaves the memory right, and links on its own, too. -/
theorem Remembers.alone (hm : (ofFiles files).Remembers reader memory) (hb : BuiltInOrder files)
    {scope : Address} {base : WrittenType} {linked : LinkedType} {m : LinkMemory}
    (hx : (ofFiles files).linkType reader .empty memory scope base = (.ok linked, m)) :
    (ofFiles files).Remembers reader m ∧
      ((ofFiles files).linkType reader .empty .empty scope base).1 = .ok linked := by
  have hlink := linkType_decides hb hm scope base
  rw [hx] at hlink
  have hmeans := (hlink.ok_iff linked).1 rfl
  exact ⟨hlink.remembers, (linkType_eq_ok_iff hb (faithful_empty _ reader)).2 hmeans⟩

/-- From a right memory, the search leaves a right one, and it succeeds only from structures that
are well founded and along bases that link. -/
theorem founds (hb : BuiltInOrder files) (reader : Nat) :
    (∀ trail memory d held via, (ofFiles files).Remembers reader memory →
      (ofFiles files).Remembers reader
        ((ofFiles files).checkBaseCycles reader trail memory d held via).2 ∧
      (((ofFiles files).checkBaseCycles reader trail memory d held via).1 = .ok () →
        (ofFiles files).Founded reader d)) ∧
    ∀ trail memory scope bases, (ofFiles files).Remembers reader memory →
      (ofFiles files).Remembers reader
        ((ofFiles files).checkBasesOf reader trail memory scope bases).2 ∧
      (((ofFiles files).checkBasesOf reader trail memory scope bases).1 = .ok () →
        ∀ base ∈ bases,
          (∃ linked, ((ofFiles files).linkType reader .empty .empty scope base).1 = .ok linked) ∧
          ∀ b, (ofFiles files).IsBase reader scope base b → (ofFiles files).Founded reader b) := by
  refine checkBaseCycles.mutual_induct_unfolding (ofFiles files) reader
    (fun _ memory d _ _ x => (ofFiles files).Remembers reader memory →
      (ofFiles files).Remembers reader x.2 ∧ (x.1 = .ok () → (ofFiles files).Founded reader d))
    (fun _ memory scope bases x => (ofFiles files).Remembers reader memory →
      (ofFiles files).Remembers reader x.2 ∧ (x.1 = .ok () → ∀ base ∈ bases,
        (∃ linked, ((ofFiles files).linkType reader .empty .empty scope base).1 = .ok linked) ∧
        ∀ b, (ofFiles files).IsBase reader scope base b → (ofFiles files).Founded reader b))
    ?left ?ofAlias ?again ?entered ?failed ?nil ?unlinked ?noStruct ?base ?baseFailed
  case left =>
    intro trail memory d held via hleft hm
    exact ⟨hm, fun _ => hm.acyclic d.address (List.contains_iff_mem.1 hleft) d held rfl⟩
  case ofAlias =>
    intro trail memory d held via hleft type hk hm
    exact ⟨hm, fun _ => founded_of_alias hk⟩
  case again => exact fun _ _ _ _ _ _ _ _ _ hm => ⟨hm, fun hok => by cases hok⟩
  case entered =>
    intro trail memory d held via hleft bases hk fresh m hx ih hm
    rw [hx] at ih
    obtain ⟨hm', hbases⟩ := ih hm
    have hd : (ofFiles files).Founded reader d := founded_of_struct hk (hbases rfl)
    exact ⟨hm'.leave held hd, fun _ => hd⟩
  case failed =>
    intro trail memory d held via hleft bases hk fresh e m hx ih hm
    rw [hx] at ih
    exact ⟨(ih hm).1, fun hok => by cases hok⟩
  case nil => exact fun _ _ _ hm => ⟨hm, fun _ _ hbase => by cases hbase⟩
  case unlinked =>
    intro trail memory scope base rest e m hx hm
    have hm' := (linkType_decides hb hm scope base).remembers
    rw [hx] at hm'
    exact ⟨hm', fun hok => by cases hok⟩
  case noStruct =>
    intro trail memory scope base rest linked m hx hnone ih hm
    obtain ⟨hmem, halone⟩ := hm.alone hb hx
    obtain ⟨hm', hrest⟩ := ih hmem
    refine ⟨hm', fun h => List.forall_mem_cons.2 ⟨⟨⟨linked, halone⟩, ?_⟩, hrest h⟩⟩
    rintro b ⟨l, s, hl, hs, hbs⟩
    rw [halone] at hl
    cases hl
    rw [hs, Option.bind_some, hbs] at hnone
    cases hnone
  case base =>
    intro trail memory scope base rest linked m hx d hd held m' hcheck ihd ih hm
    obtain ⟨hmem, halone⟩ := hm.alone hb hx
    rw [hcheck] at ihd
    obtain ⟨hm', hfounded⟩ := ihd hmem
    obtain ⟨hm'', hrest⟩ := ih hm'
    refine ⟨hm'', fun h => List.forall_mem_cons.2 ⟨⟨⟨linked, halone⟩, fun b hisBase => ?_⟩,
      hrest h⟩⟩
    obtain rfl := hisBase.unique (isBase_of_linked halone hd)
    exact hfounded rfl
  case baseFailed =>
    intro trail memory scope base rest linked m hx d hd held e m' hcheck ihd hm
    rw [hcheck] at ihd
    exact ⟨(ihd (hm.alone hb hx).1).1, fun hok => by cases hok⟩

/-- The search for cycles of bases decides whether a structure is well founded. -/
theorem checkBaseCycles_decides (hb : BuiltInOrder files)
    (hm : (ofFiles files).Remembers reader memory) {d : Definition}
    (held : (ofFiles files).Holds d) (via : Range) :
    (ofFiles files).Decides reader
      ((ofFiles files).checkBaseCycles reader .empty memory d held via)
      fun _ => (ofFiles files).Founded reader d := by
  obtain ⟨hm', hok⟩ := (founds hb reader).1 .empty memory d held via hm
  refine ⟨hm', fun _ => ⟨hok, fun hd => ?_⟩⟩
  exact hd.ok_of_settles <| (settles hb reader).1 .empty memory d held via []
    ⟨.nil, fun u hu => by cases hu⟩ (fun u hu => by cases hu) hd.link hm.sound

/-- Linking the bases of a structure decides what they mean, that they go together, and that the
structure is well founded. -/
theorem linkBases_decides (hb : BuiltInOrder files) (hm : (ofFiles files).Remembers reader memory)
    (scope : Address) {d : Definition} (held : (ofFiles files).Holds d) (name : Identifier)
    (bases : List WrittenType) :
    (ofFiles files).Decides reader
      ((ofFiles files).linkBases reader memory scope d held name bases)
      fun linked => (ofFiles files).MeansAll reader scope bases linked ∧
        goTogether linked = true ∧ (ofFiles files).Founded reader d := by
  refine (linkTypes_decides hb hm scope bases).next (fun linked m hx hm' hl => ?_)
    (fun e m hx => ⟨e, by rw [linkBases, hx]⟩) fun linked h => ⟨linked, h.1⟩
  have hunique : ∀ l, (ofFiles files).MeansAll reader scope bases l → l = linked :=
    fun l h => h.unique hl
  rw [linkBases, hx]
  dsimp only
  rw [checkBaseCombination]
  by_cases hgo : goTogether linked = true
  · rw [if_pos hgo]
    have hcheck := checkBaseCycles_decides hb hm' held name.range
    refine hcheck.next (fun _ m' hx' hm'' hd => ?_) (fun e m' hx' => ⟨e, by rw [hx']⟩)
      fun l h => ⟨(), h.2.2⟩
    rw [hx']
    exact decides_ok hm'' fun l => ⟨fun h => hunique l h.1, fun h => h ▸ ⟨hl, hgo, hd⟩⟩
  · rw [if_neg hgo]
    exact decides_error hm' fun l h => hgo (hunique l h.1 ▸ h.2.1)

/-! ## Statements -/

mutual

/-- A statement at an address is linked to the linked one: its types mean what they are linked to,
and bases go together and are well founded. -/
inductive Links (t : Table) (reader : Nat) :
    Address → Statement WrittenType → Statement LinkedType → Prop where
  | item {a : Address} {id : ElementId} {range : Range} {name : Identifier} {type : WrittenType}
      {linked : LinkedType} (h : t.Means reader a.scope type linked) :
      Links t reader a (.item id range name type) (.item id range name linked)
  | struct {a : Address} {id : ElementId} {range : Range} {name : Identifier}
      {bases : List WrittenType} {linked : List LinkedType} {metadata : Option Metadata}
      {children : List (Statement WrittenType)} {mirrored : List (Statement LinkedType)}
      (hbases : t.MeansAll reader a.scope bases linked) (hgo : goTogether linked = true)
      (hd : t.Founded reader ⟨a, id, name, .struct bases⟩)
      (h : LinksFrom t reader a 0 children mirrored) :
      Links t reader a (.struct id range name bases metadata children)
        (.struct id range name linked metadata mirrored)
  | extension (a : Address) (id : ElementId) (range : Range) (call : Extension) :
      Links t reader a (.extension id range call) (.extension id range call)
  | inclusion (a : Address) (id : ElementId) (range : Range) (i : Inclusion) :
      Links t reader a (.inclusion id range i) (.inclusion id range i)

/-- Statements of a scope from a position on are linked to the linked ones, one by one. -/
inductive LinksFrom (t : Table) (reader : Nat) :
    Address → Nat → List (Statement WrittenType) → List (Statement LinkedType) → Prop where
  | nil (scope : Address) (index : Nat) : LinksFrom t reader scope index [] []
  | cons {scope : Address} {index : Nat} {s : Statement WrittenType} {linked : Statement LinkedType}
      {ss : List (Statement WrittenType)} {rest : List (Statement LinkedType)}
      (h : Links t reader (scope.child index) s linked)
      (hs : LinksFrom t reader scope (index + 1) ss rest) :
      LinksFrom t reader scope index (s :: ss) (linked :: rest)

end

mutual

/-- A statement is linked to at most one. -/
theorem Links.unique {a : Address} {s : Statement WrittenType} {x y : Statement LinkedType}
    (h : t.Links reader a s x) (h' : t.Links reader a s y) : x = y := by
  match h, h' with
  | .item h, .item h' => rw [h.unique h']
  | .struct hbases _ _ h, .struct hbases' _ _ h' => rw [hbases.unique hbases', h.unique h']
  | .extension .., .extension .. => rfl
  | .inclusion .., .inclusion .. => rfl

theorem LinksFrom.unique {scope : Address} {index : Nat} {ss : List (Statement WrittenType)}
    {xs ys : List (Statement LinkedType)} (h : t.LinksFrom reader scope index ss xs)
    (h' : t.LinksFrom reader scope index ss ys) : xs = ys := by
  match h, h' with
  | .nil .., .nil .. => rfl
  | .cons h hs, .cons h' hs' => rw [h.unique h', hs.unique hs']

end

mutual

/-- Linking a statement of the table decides to what it is linked. -/
theorem linkStatement_decides (hb : BuiltInOrder files) {memory : LinkMemory}
    (hm : (ofFiles files).Remembers reader memory) {a : Address} (s : Statement WrittenType)
    (hs : addressed a s ⊆ (ofFiles files).allStatements) :
    (ofFiles files).Decides reader ((ofFiles files).linkStatement reader memory a.scope s)
      ((ofFiles files).Links reader a s) := by
  have hmem := hs (mem_addressed_self a s)
  match s with
  | .item id range name type =>
    have hitem := linkItem_decides hb hm hmem
    rw [linkStatement]
    refine hitem.next (fun linked m hx hm' hl => ?_) (fun e m hx => ⟨e, by rw [hx]⟩) ?_
    · rw [hx]
      refine decides_ok hm' fun y => ⟨fun h => h.unique (.item hl), ?_⟩
      rintro rfl
      exact .item hl
    · rintro y ⟨h⟩
      exact ⟨_, h⟩
  | .struct id range name bases metadata children =>
    have hd : (ofFiles files).definitionOf? id = some ⟨a, id, name, .struct bases⟩ :=
      definitionOf?_of_mem hb hmem rfl
    have hin : addressedIn a 0 children ⊆ (ofFiles files).allStatements :=
      fun x hx => hs (by rw [addressed]; exact List.mem_cons_of_mem _ hx)
    have hstruct : Definition.isStruct ⟨a, id, name, .struct bases⟩ = true := rfl
    rw [linkStatement_of_definition hd, if_pos hstruct]
    refine (linkBases_decides hb hm a.scope (holds_of_definitionOf? hd) name bases).next
      (fun linked m hx hm' hl => ?_) (fun e m hx => ⟨e, by rw [hx]⟩) ?_
    · rw [hx]
      dsimp only
      refine (linkStatements_decide hb hm' children hin).next (fun mirrored m' hx' hm'' hc => ?_)
        (fun e m' hx' => ⟨e, by rw [hx']⟩) ?_
      · rw [hx']
        have h : (ofFiles files).Links reader a (.struct id range name bases metadata children)
            (.struct id range name linked metadata mirrored) := .struct hl.1 hl.2.1 hl.2.2 hc
        exact decides_ok hm'' fun y => ⟨fun h' => h'.unique h, fun h' => h' ▸ h⟩
      · rintro y ⟨⟩
        exact ⟨_, ‹_›⟩
    · intro y h
      cases h with
      | struct hbases hgo hd h => exact ⟨_, hbases, hgo, hd⟩
  | .extension id range call =>
    rw [linkStatement]
    refine decides_ok hm fun y => ⟨fun h => h.unique (.extension ..), ?_⟩
    rintro rfl
    exact .extension ..
  | .inclusion id range i =>
    rw [linkStatement]
    refine decides_ok hm fun y => ⟨fun h => h.unique (.inclusion ..), ?_⟩
    rintro rfl
    exact .inclusion ..

theorem linkStatements_decide (hb : BuiltInOrder files) {memory : LinkMemory}
    (hm : (ofFiles files).Remembers reader memory) {scope : Address} {index : Nat}
    (ss : List (Statement WrittenType))
    (hs : addressedIn scope index ss ⊆ (ofFiles files).allStatements) :
    (ofFiles files).Decides reader ((ofFiles files).linkStatements reader memory scope ss)
      ((ofFiles files).LinksFrom reader scope index ss) := by
  match ss with
  | [] =>
    rw [linkStatements]
    refine decides_ok hm fun y => ⟨fun h => h.unique (.nil ..), ?_⟩
    rintro rfl
    exact .nil ..
  | s :: rest =>
    rw [addressedIn, List.append_subset] at hs
    have hscope : ∀ m, (ofFiles files).linkStatement reader m scope s =
        (ofFiles files).linkStatement reader m (scope.child index).scope s := fun _ => rfl
    rw [linkStatements]
    refine (linkStatement_decides hb hm s hs.1).next (fun linked m hx hm' hl => ?_)
      (fun e m hx => ⟨e, by rw [hscope, hx]⟩) ?_
    · rw [hscope, hx]
      dsimp only
      refine (linkStatements_decide hb hm' rest hs.2).next (fun mirrored m' hx' hm'' hc => ?_)
        (fun e m' hx' => ⟨e, by rw [hx']⟩) ?_
      · rw [hx']
        have h : (ofFiles files).LinksFrom reader scope index (s :: rest) (linked :: mirrored) :=
          .cons hl hc
        exact decides_ok hm'' fun y => ⟨fun h' => h'.unique h, fun h' => h' ▸ h⟩
      · rintro y ⟨⟩
        exact ⟨_, ‹_›⟩
    · intro y h
      cases h with
      | cons h _ => exact ⟨_, h⟩

end

/-! ## Files -/

theorem hasRoot_of_root {file : Nat} {f : ParsedFile} {root : Root WrittenType}
    (hf : files[file]? = some f) (hr : f.root = .ok root) :
    (ofFiles files).hasRoot file = true := by
  rw [hasRoot_eq, Table.root?, getElem?_ofFiles, hf]
  simp only [Option.map_some, bindFile_root, hr]
  rfl

/-- A file is linked exactly if it has a root, none of its includes fails, and its statements are
linked. -/
theorem linkFile_eq_ok_iff (hb : BuiltInOrder files) {file : Nat} {f : ParsedFile}
    (hf : files[file]? = some f) {root : Root LinkedType} :
    (ofFiles files).linkFile file f = .ok root ↔
      ∃ source, f.root = .ok source ∧ (ofFiles files).includeFault? file = none ∧
        root.range = source.range ∧
        (ofFiles files).LinksFrom file ⟨file, []⟩ 0 source.statements root.statements := by
  unfold linkFile
  cases hr : f.root with
  | error e => simp
  | ok source =>
    have hstatements := linkStatements_decide hb (remembers_empty _ file) source.statements
      (addressedIn_root_subset hf hr)
    cases hfault : (ofFiles files).includeFault? file with
    | some d => simp
    | none =>
      simp only [hasRoot_of_root hf hr, if_true, linkRoot, Except.ok.injEq, true_and,
        exists_eq_left']
      rw [← hstatements.ok_iff]
      obtain ⟨range, linked⟩ := root
      split
      · rename_i statements m hx
        simp only [hx, Except.ok.injEq, Root.mk.injEq, eq_comm]
      · rename_i e m hx
        simp [hx]

end Table
end Schemata
