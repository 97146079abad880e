import Schemata.Build
import Schemata.Outcome
import Schemata.Proofs.Repeats

/-!
# Where a built file stands

Whatever is built from the source of a file stands in that file, and whatever is wrong with the
source is reported there. Each step of building has one lemma, which says both about it; steps that
follow each other are put together by `Ends.bind`.

**Results:**
* `Build.root_stays`: a root stands in its file with everything in it, and a failure is reported in
  the file.
-/
namespace Schemata

/-! ## Standing in a file -/

namespace WrittenType

mutual

/-- A type stands in a file, with its members and the names in it. -/
def StandsIn (file : Path) : WrittenType → Prop
  | fundamental o _ => o.range.file = file
  | reference o r => o.range.file = file ∧ ∀ name ∈ r.segments, name.range.file = file
  | tuple o members => o.range.file = file ∧ AllStandIn file members
  | variant o members => o.range.file = file ∧ AllStandIn file members

/-- Types stand in a file. -/
def AllStandIn (file : Path) : List WrittenType → Prop
  | [] => True
  | t :: ts => t.StandsIn file ∧ AllStandIn file ts

end

theorem StandsIn.occurrence {file : Path} {t : WrittenType} (h : t.StandsIn file) :
    t.occurrence.range.file = file := by
  cases t with
  | fundamental => exact h
  | reference | tuple | variant => exact h.1

theorem AllStandIn.of_mem {file : Path} {ts : List WrittenType} (h : AllStandIn file ts)
    {t : WrittenType} (ht : t ∈ ts) : t.StandsIn file := by
  induction ts with
  | nil => cases ht
  | cons first rest ih =>
    rcases List.mem_cons.1 ht with rfl | ht
    · exact h.1
    · exact ih h.2 ht

end WrittenType

/-- An include stands in a file, with the elements that it names. -/
structure Inclusion.StandsIn (file : Path) (i : Inclusion) : Prop where
  filename : i.filenameRange.file = file
  element : ∀ x ∈ i.items, x.element.range.file = file
  reference : ∀ x ∈ i.items, x.reference.range.file = file

namespace Statement

mutual

/-- A statement stands in a file, with what is in it. -/
def StandsIn (file : Path) : Statement WrittenType → Prop
  | item _ _ name type => name.range.file = file ∧ type.StandsIn file
  | struct _ _ name bases _ children =>
    name.range.file = file ∧ WrittenType.AllStandIn file bases ∧ AllStandIn file children
  | extension .. => True
  | inclusion _ _ i => i.StandsIn file

/-- Statements stand in a file. -/
def AllStandIn (file : Path) : List (Statement WrittenType) → Prop
  | [] => True
  | s :: ss => s.StandsIn file ∧ AllStandIn file ss

end

theorem AllStandIn.of_mem {file : Path} {ss : List (Statement WrittenType)}
    (h : AllStandIn file ss) {s : Statement WrittenType} (hs : s ∈ ss) : s.StandsIn file := by
  induction ss with
  | nil => cases hs
  | cons first rest ih =>
    rcases List.mem_cons.1 hs with rfl | hs
    · exact h.1
    · exact ih h.2 hs

/-- The names that a statement brings into its scope stand in its file. -/
theorem StandsIn.scopeNames {file : Path} {s : Statement WrittenType} (h : s.StandsIn file)
    {name : Identifier} (hn : name ∈ s.scopeNames) : name.range.file = file := by
  cases s with
  | item | struct =>
    obtain rfl := List.mem_singleton.1 hn
    exact h.1
  | extension => cases hn
  | inclusion =>
    obtain ⟨x, hx, rfl⟩ := List.mem_map.1 hn
    exact Inclusion.StandsIn.reference h x hx

end Statement

/-- A root stands in a file, with its statements. -/
structure Root.StandsIn (file : Path) (r : Root WrittenType) : Prop where
  range : r.range.file = file
  statements : Statement.AllStandIn file r.statements

theorem Root.StandsIn.inclusions {file : Path} {r : Root WrittenType} (h : r.StandsIn file)
    {i : Inclusion} (hi : i ∈ r.inclusions) : i.StandsIn file := by
  obtain ⟨s, hs, hmade⟩ := List.mem_filterMap.1 hi
  cases s with
  | inclusion =>
    cases hmade
    exact h.statements.of_mem hs
  | item | struct | extension => cases hmade

/-- A metadata block stands in a file, with its items and their names. -/
structure Metadata.StandsIn (file : Path) (m : Metadata) : Prop where
  range : m.range.file = file
  items : ∀ item ∈ m.items, item.range.file = file ∧ item.name.range.file = file

namespace Build

/-- What comes of a step has the property, and a failure of the step is reported in the file. -/
abbrev Stays {α : Type} (file : Path) (x : Except Diagnostic α) (Q : α → Prop) : Prop :=
  Ends x Q fun d => d.primary.file = file

variable {file : Path}

theorem stays_optional {α β : Type} {f : α → Except Diagnostic β} {a : Option α} {Q : β → Prop}
    (h : ∀ a, Stays file (f a) Q) : Stays file (optional f a) fun b => ∀ x ∈ b, Q x := by
  cases a with
  | none => exact ends_ok nofun
  | some a =>
    refine (h a).map fun b hb x hx => ?_
    cases hx
    exact hb

/-! ## Names and literals -/

theorem range_stays (span : Span) : Stays file (range file span) (·.file = file) := by
  constructor
  · intro r hr
    unfold range at hr
    split at hr
    · rename_i hrange
      cases hr
      obtain ⟨start, -, hrange⟩ := bind_eq_ok_iff.1 hrange
      obtain ⟨stop, -, hrange⟩ := bind_eq_ok_iff.1 hrange
      exact (Range.create_eq_ok_iff.1 hrange).2.1
    · cases hr
  · intro d hd
    unfold range at hd
    split at hd
    · cases hd
    · cases hd
      rfl

theorem parse_stays {r : Range} (hr : r.file = file) (text : String) :
    Stays file (Identifier.parse r text) (·.range.file = file) := by
  unfold Identifier.parse
  dsimp only
  split
  · exact ends_ok hr
  · exact ends_error hr

theorem identifier_stays (name : Source.Name) :
    Stays file (identifier file name) (·.range.file = file) :=
  (range_stays name.span).bind fun _ hr => parse_stays hr name.text

mutual

theorem literal_stays (e : Source.Literal) :
    Stays file (e.mapPlaces (range file)) fun _ => True := by
  match e with
  | .boolean p _ | .integer p _ | .number p _ | .string p _ =>
    exact (range_stays p).bind fun _ _ => ends_ok trivial
  | .tuple p members =>
    refine (range_stays p).bind fun _ _ => ?_
    exact (literals_stay members).bind fun _ _ => ends_ok trivial
  | .list p elements =>
    refine (range_stays p).bind fun _ _ => ?_
    exact (literals_stay elements).bind fun _ _ => ends_ok trivial

theorem literals_stay (es : List Source.Literal) :
    Stays file (Expression.mapPlacesAll (range file) es) fun _ => True := by
  match es with
  | [] => exact ends_ok trivial
  | e :: rest =>
    refine (literal_stays e).bind fun _ _ => ?_
    exact (literals_stay rest).bind fun _ _ => ends_ok trivial

end

theorem namedLiteral_stays (n : Source.NamedLiteral) :
    Stays file (namedLiteral file n)
      fun x => x.1.file = file ∧ x.2.1.range.file = file := by
  refine (range_stays n.span).bind fun r hr => ?_
  refine (identifier_stays n.name).bind fun name hn => ?_
  exact (literal_stays n.value).bind fun _ _ => ends_ok ⟨hr, hn⟩

/-! ## Metadata and cardinalities -/

theorem metadata_stays (m : Source.Metadata) :
    Stays file (metadata file m) (Metadata.StandsIn file) := by
  refine (range_stays m.span).bind fun r hr => ?_
  have hitems : Stays file (m.items.mapM (metadataItem file))
      fun items => ∀ item ∈ items, item.range.file = file ∧ item.name.range.file = file :=
    ends_mapM fun n _ => (namedLiteral_stays n).bind fun _ hn => ends_ok hn
  refine hitems.bind fun items hitems => ?_
  unfold Metadata.create
  split
  · exact ends_ok ⟨hr, hitems⟩
  · rename_i first again hrepeat
    exact ends_error (hitems first (mem_of_firstRepeat hrepeat).1).2

theorem bound_stays (b : Source.Bound) : Stays file (bound file b) (·.range.file = file) :=
  (range_stays b.span).bind fun _ hr => ends_ok hr

theorem faultyBound_file {min bound : IntegerLiteral} {max : Option IntegerLiteral}
    (hmin : min.range.file = file) (hmax : ∀ x ∈ max, x.range.file = file)
    (h : Cardinality.faultyBound min max = some bound) : bound.range.file = file := by
  unfold Cardinality.faultyBound at h
  split at h
  · cases h
    exact hmin
  · exact hmax bound (Option.filter_eq_some_iff.1 h).1

theorem defaulted_file {r : Range} (hr : r.file = file) {min max : Option IntegerLiteral}
    (hmin : ∀ x ∈ min, x.range.file = file) (hmax : ∀ x ∈ max, x.range.file = file) :
    (Cardinality.defaulted r min max).1.range.file = file ∧
      ∀ x ∈ (Cardinality.defaulted r min max).2, x.range.file = file := by
  cases min with
  | none =>
    cases max with
    | none => exact ⟨hr, fun x hx => by cases hx; exact hr⟩
    | some max => exact ⟨hr, hmax⟩
  | some min => exact ⟨hmin min rfl, hmax⟩

theorem create_stays {r : Range} (hr : r.file = file) {min max : Option IntegerLiteral}
    (hmin : ∀ x ∈ min, x.range.file = file) (hmax : ∀ x ∈ max, x.range.file = file)
    {m : Option Metadata} (hm : ∀ x ∈ m, x.StandsIn file) :
    Stays file (Cardinality.create r min max m) fun _ => True := by
  obtain ⟨hmin', hmax'⟩ := defaulted_file hr hmin hmax
  unfold Cardinality.create
  dsimp only
  split
  · rename_i hfaulty
    exact ends_error (faultyBound_file hmin' hmax' hfaulty)
  · split
    · rename_i metadata _ hmetadata
      obtain ⟨x, hx, hnonEmpty⟩ := Option.bind_eq_some_iff.1 hmetadata
      unfold Metadata.nonEmpty? at hnonEmpty
      split at hnonEmpty
      · cases hnonEmpty
      · cases hnonEmpty
        exact ends_error (hm _ hx).range
    · exact ends_ok trivial

theorem cardinality_stays (c : Source.Cardinality) :
    Stays file (cardinality file c) fun _ => True := by
  refine (range_stays c.span).bind fun r hr => ?_
  refine (stays_optional bound_stays).bind fun min hmin => ?_
  refine (stays_optional bound_stays).bind fun max hmax => ?_
  exact (stays_optional metadata_stays).bind fun m hm => create_stays hr hmin hmax hm

theorem header_stays (h : Source.Header) :
    Stays file (header file h)
      fun x => x.1.file = file ∧ ∀ m ∈ x.2.2, m.StandsIn file := by
  refine (range_stays h.span).bind fun r hr => ?_
  have hrest : ∀ c : Cardinality, Stays file
      (optional (metadata file) h.metadata >>= fun m => Except.ok (r, c, m))
      fun x => x.1.file = file ∧ ∀ m ∈ x.2.2, m.StandsIn file :=
    fun c => (stays_optional metadata_stays).bind fun m hm => ends_ok ⟨hr, hm⟩
  cases hc : h.cardinality with
  | none => exact hrest (.defaultAt r)
  | some c => exact (cardinality_stays c).bind fun c _ => hrest c

/-! ## Constraints -/

theorem takeItem_file {m : Option Metadata} (hm : ∀ x ∈ m, x.StandsIn file) (name : String) :
    (∀ item ∈ (takeItem name m).1, item.range.file = file) ∧
      ∀ x ∈ (takeItem name m).2, x.StandsIn file := by
  cases m with
  | none => exact ⟨nofun, nofun⟩
  | some m =>
    have hm := hm m rfl
    refine ⟨fun item hitem => (hm.items item (List.mem_of_find?_eq_some hitem)).1, fun x hx => ?_⟩
    cases hx
    exact ⟨hm.range, fun item hitem => hm.items item (List.mem_of_mem_eraseP hitem)⟩

section Constraint
variable {item : Option MetadataItem} (hitem : ∀ x ∈ item, x.range.file = file)
include hitem

theorem read_stays {α : Type} (typeName name expected : String) (value? : Literal → Option α) :
    Stays file (Constraint.read typeName name expected value? item) fun _ => True := by
  unfold Constraint.read
  split
  · exact ends_ok trivial
  · split
    · exact ends_ok trivial
    · exact ends_error (hitem _ rfl)

theorem switch_stays (typeName name : String) :
    Stays file (Constraint.switch typeName name item) fun _ => True :=
  (read_stays hitem _ _ _ _).bind fun _ _ => ends_ok trivial

theorem length_stays (typeName name : String) :
    Stays file (Constraint.length typeName name item) fun _ => True := by
  refine (read_stays hitem _ _ _ _).bind fun value _ => ?_
  split
  · split
    · exact ends_error (hitem _ rfl)
    · exact ends_ok trivial
  · exact ends_ok trivial

theorem bits_stays (typeName : String) (supported : Int → Bool) :
    Stays file (Constraint.bits typeName supported item) fun _ => True := by
  refine (read_stays hitem _ _ _ _).bind fun value _ => ?_
  split
  · split
    · exact ends_ok trivial
    · exact ends_error (hitem _ rfl)
  · exact ends_ok trivial

theorem pattern_stays (typeName name : String) :
    Stays file (Constraint.pattern typeName name item) fun _ => True := by
  refine (read_stays hitem _ _ _ _).bind fun value _ => ?_
  split
  · split
    · exact ends_ok trivial
    · exact ends_error (hitem _ rfl)
  · exact ends_ok trivial

theorem ordered_stays (typeName lower upper : String) (below : Bool) :
    Stays file (Constraint.ordered typeName lower upper item below) fun _ => True := by
  unfold Constraint.ordered
  split
  · split
    · exact ends_error (hitem _ rfl)
    · exact ends_ok trivial
  · exact ends_ok trivial

end Constraint

/-- A fundamental type is read off a block, and what is wrong is one of the items of the block. -/
theorem ofConstraints_stays {m : Option Metadata} (hm : ∀ x ∈ m, x.StandsIn file) (name : String) :
    Stays file (Fundamental.ofConstraints name m) fun _ => True := by
  have take : ∀ {m : Option Metadata}, (∀ x ∈ m, x.StandsIn file) → ∀ name,
      (∀ item ∈ (takeItem name m).1, item.range.file = file) ∧
        ∀ x ∈ (takeItem name m).2, x.StandsIn file := takeItem_file
  have hinteger : Stays file (Fundamental.readInteger m) fun _ => True := by
    obtain ⟨hmin, hm⟩ := take hm "min"
    refine (read_stays hmin _ _ _ _).bind fun min _ => ?_
    obtain ⟨hmax, hm⟩ := take hm "max"
    refine (read_stays hmax _ _ _ _).bind fun max _ => ?_
    refine (ordered_stays hmax _ _ _ _).bind fun _ _ => ?_
    exact (bits_stays (take hm "bits").1 _ _).bind fun _ _ => ends_ok trivial
  have hnumber : Stays file (Fundamental.readNumber m) fun _ => True := by
    obtain ⟨hmin, hm⟩ := take hm "min"
    refine (read_stays hmin _ _ _ _).bind fun min _ => ?_
    obtain ⟨hmax, hm⟩ := take hm "max"
    refine (read_stays hmax _ _ _ _).bind fun max _ => ?_
    refine (ordered_stays hmax _ _ _ _).bind fun _ _ => ?_
    exact (bits_stays (take hm "bits").1 _ _).bind fun _ _ => ends_ok trivial
  have hstring : Stays file (Fundamental.readString m) fun _ => True := by
    obtain ⟨hmin, hm⟩ := take hm "min_length"
    refine (length_stays hmin _ _).bind fun min _ => ?_
    obtain ⟨hmax, hm⟩ := take hm "max_length"
    refine (length_stays hmax _ _).bind fun max _ => ?_
    refine (ordered_stays hmax _ _ _ _).bind fun _ _ => ?_
    exact (pattern_stays (take hm "pattern").1 _ _).bind fun _ _ => ends_ok trivial
  have hdirectory : Stays file (Fundamental.readDirectory m) fun _ => True :=
    (switch_stays (take hm "ensure_exists").1 _ _).bind fun _ _ => ends_ok trivial
  have hfilename : Stays file (Fundamental.readFilename m) fun _ => True := by
    obtain ⟨hexists, hm⟩ := take hm "ensure_exists"
    refine (switch_stays hexists _ _).bind fun _ _ => ?_
    exact (switch_stays (take hm "match_any").1 _ _).bind fun _ _ => ends_ok trivial
  unfold Fundamental.ofConstraints
  split
  case h_2 => exact hinteger.map fun _ _ => trivial
  case h_3 => exact hnumber.map fun _ _ => trivial
  case h_4 => exact hstring.map fun _ _ => trivial
  case h_9 => exact hdirectory.map fun _ _ => trivial
  case h_10 => exact hfilename.map fun _ _ => trivial
  all_goals exact ends_ok trivial

/-! ## Types -/

theorem checkSegments_stays {r : Range} (hr : r.file = file) {segments : List Identifier}
    (hs : ∀ name ∈ segments, name.range.file = file) (isElement : Bool) :
    Stays file (checkSegments r segments isElement) fun _ => True := by
  unfold checkSegments
  split
  · exact ends_error hr
  · rename_i last hlast
    split
    · rename_i name hname
      have hmem := List.dropLast_subset _ (List.mem_of_find?_eq_some hname)
      exact ends_error (hs name hmem)
    · dsimp only
      generalize (if isElement then !segments.dropLast.isEmpty else last.isType) = accepted
      cases accepted with
      | true => exact ends_ok trivial
      | false => exact ends_error (hs last (List.mem_of_getLast? hlast))

theorem reference_stays (id : ElementId) {range : Range} (hr : range.file = file) (c : Cardinality)
    {m : Option Metadata} (hm : ∀ x ∈ m, x.StandsIn file) {r : Reference}
    (hs : ∀ name ∈ r.segments, name.range.file = file) :
    Stays file (reference id range c m r) (WrittenType.StandsIn file) := by
  refine (checkSegments_stays hr hs r.isElement).bind fun _ _ => ?_
  have hfundamental : Stays file (fundamental? r m) fun _ => True := by
    unfold fundamental?
    split
    · exact ofConstraints_stays hm _
    · exact ends_ok trivial
  refine hfundamental.bind fun x _ => ?_
  split
  · exact ends_ok hr
  · exact ends_ok ⟨hr, hs⟩

theorem checkMembers_stays {r : Range} (hr : r.file = file) (isVariant : Bool)
    {members : List WrittenType} (hm : WrittenType.AllStandIn file members) :
    Stays file (checkMembers r isVariant
      (members.map fun t => (t.occurrence.range, t.isVariant))) fun _ => True := by
  unfold checkMembers
  split
  · exact ends_error hr
  · split
    · split
      · rename_i nested hnested
        obtain ⟨t, ht, rfl⟩ := List.mem_map.1 (List.mem_of_find?_eq_some hnested)
        exact ends_error (hm.of_mem ht).occurrence
      · exact ends_ok trivial
    · exact ends_ok trivial

mutual

theorem type_stays (target : BuildTarget) (number : Nat) (t : Source.TypeExpr) :
    Stays target.file (type target number t) (WrittenType.StandsIn target.file) := by
  match t with
  | .reference h segments isGlobal isElement =>
    refine (header_stays h).bind fun ⟨r, c, m⟩ ⟨hr, hm⟩ => ?_
    refine (ends_mapM fun name _ => identifier_stays name).bind fun segments hs => ?_
    exact reference_stays _ hr c hm hs
  | .tuple h members =>
    refine (header_stays h).bind fun ⟨r, c, m⟩ ⟨hr, _⟩ => ?_
    refine (types_stay target (number + 1) members).bind fun members hmembers => ?_
    exact (checkMembers_stays hr false hmembers).bind fun _ _ => ends_ok ⟨hr, hmembers⟩
  | .variant h members =>
    refine (header_stays h).bind fun ⟨r, c, m⟩ ⟨hr, _⟩ => ?_
    refine (types_stay target (number + 1) members).bind fun members hmembers => ?_
    exact (checkMembers_stays hr true hmembers).bind fun _ _ => ends_ok ⟨hr, hmembers⟩

theorem types_stay (target : BuildTarget) (number : Nat) (ts : List Source.TypeExpr) :
    Stays target.file (types target number ts) (WrittenType.AllStandIn target.file) := by
  match ts with
  | [] => exact ends_ok trivial
  | t :: rest =>
    refine (type_stays target number t).bind fun first hfirst => ?_
    exact (types_stay target (number + t.count) rest).bind fun _ hrest => ends_ok ⟨hfirst, hrest⟩

end

/-! ## Statements -/

theorem checkNotReserved_stays {name : Identifier} (hn : name.range.file = file) :
    Stays file (checkNotReserved name) fun _ => True := by
  unfold checkNotReserved
  split
  · exact ends_error hn
  · exact ends_ok trivial

theorem checkUniqueNames_stays {ss : List (Statement WrittenType)}
    (h : Statement.AllStandIn file ss) : Stays file (checkUniqueNames ss) fun _ => True := by
  unfold checkUniqueNames
  split
  · exact ends_ok trivial
  · rename_i first again hrepeat
    obtain ⟨s, hs, hfirst⟩ := List.mem_flatMap.1 (mem_of_firstRepeat hrepeat).1
    exact ends_error ((h.of_mem hs).scopeNames hfirst)

theorem itemName_stays (name : Source.Name) :
    Stays file (itemName file name) (·.range.file = file) := by
  refine (identifier_stays name).bind fun name hn => ?_
  dsimp only
  split
  · exact (checkNotReserved_stays hn).bind fun _ _ => ends_ok hn
  · exact ends_ok hn

theorem structName_stays (name : Source.Name) :
    Stays file (structName file name) (·.range.file = file) := by
  refine (identifier_stays name).bind fun name hn => ?_
  split
  · exact (checkNotReserved_stays hn).bind fun _ _ => ends_ok hn
  · exact ends_error hn

theorem extension_stays (name : Source.Name) (arguments : List Source.Literal)
    (named : List Source.NamedLiteral) :
    Stays file (extension file name arguments named) fun _ => True := by
  refine (identifier_stays name).bind fun name _ => ?_
  refine (ends_mapM fun e _ => literal_stays e).bind fun arguments _ => ?_
  have hnamed : Stays file (named.mapM (keywordArgument file))
      fun named => ∀ a ∈ named, a.name.range.file = file :=
    ends_mapM fun n _ => (namedLiteral_stays n).bind fun _ hn => ends_ok hn.2
  refine hnamed.bind fun named hnamed => ?_
  unfold Extension.create
  split
  · exact ends_ok trivial
  · rename_i first again hrepeat
    exact ends_error (hnamed first (mem_of_firstRepeat hrepeat).1)

theorem includeItem_stays (item : Source.IncludeItem) :
    Stays file (includeItem file item)
      fun x => x.element.range.file = file ∧ x.reference.range.file = file := by
  refine (stays_optional identifier_stays).bind fun reference hreference => ?_
  refine (range_stays item.span).bind fun r _ => ?_
  refine (identifier_stays item.element).bind fun element helement => ?_
  cases reference with
  | some reference => exact ends_ok ⟨helement, hreference reference rfl⟩
  | none =>
    have hname : Stays file (Identifier.withVisibility element.range element.name .isPrivate)
        (·.range.file = file) :=
      (parse_stays helement _).bind fun _ hi => ends_ok hi
    exact hname.bind fun _ hname => ends_ok ⟨helement, hname⟩

theorem inclusion_stays (filenameSpan : Span) (filename : String)
    (items : List Source.IncludeItem) :
    Stays file (inclusion file filenameSpan filename items) (Inclusion.StandsIn file) := by
  refine (range_stays filenameSpan).bind fun r hr => ?_
  refine (ends_mapM fun item _ => includeItem_stays item).bind fun items hitems => ?_
  exact ends_ok ⟨hr, fun x hx => (hitems x hx).1, fun x hx => (hitems x hx).2⟩

mutual

theorem statement_stays (target : BuildTarget) (number : Nat) (atRoot : Bool)
    (s : Source.Statement) :
    Stays target.file (statement target number atRoot s) (Statement.StandsIn target.file) := by
  match s with
  | .item span name t =>
    refine (range_stays span).bind fun _ _ => ?_
    refine (itemName_stays name).bind fun name hn => ?_
    exact (type_stays target (number + 1) t).bind fun _ ht => ends_ok ⟨hn, ht⟩
  | .struct span name bases m children =>
    refine (range_stays span).bind fun _ _ => ?_
    refine (structName_stays name).bind fun name hn => ?_
    refine (types_stay target (number + 1) bases).bind fun built hbuilt => ?_
    refine (stays_optional metadata_stays).bind fun m _ => ?_
    refine (statements_stay target _ false children).bind fun children hchildren => ?_
    exact (checkUniqueNames_stays hchildren).bind fun _ _ => ends_ok ⟨hn, hbuilt, hchildren⟩
  | .extension span name arguments named =>
    refine (range_stays span).bind fun _ _ => ?_
    exact (extension_stays name arguments named).bind fun _ _ => ends_ok trivial
  | .inclusion span filenameSpan filename items =>
    refine (range_stays span).bind fun r hr => ?_
    split
    · exact (inclusion_stays filenameSpan filename items).bind fun _ hi => ends_ok hi
    · exact ends_error hr
  | .root span _ => exact (range_stays span).bind fun _ hr => ends_error hr

theorem statements_stay (target : BuildTarget) (number : Nat) (atRoot : Bool)
    (ss : List Source.Statement) :
    Stays target.file (statements target number atRoot ss)
      (Statement.AllStandIn target.file) := by
  match ss with
  | [] => exact ends_ok trivial
  | s :: rest =>
    refine (statement_stays target number atRoot s).bind fun first hfirst => ?_
    exact (statements_stay target (number + s.count) atRoot rest).bind fun _ hrest =>
      ends_ok ⟨hfirst, hrest⟩

end

/-- A root stands in its file with everything in it, and whatever is wrong with a source is reported
in the file. -/
theorem root_stays (target : BuildTarget) (ss : List Source.Statement) :
    Stays target.file (root target ss) (Root.StandsIn target.file) := by
  refine (range_stays (extent ss)).bind fun r hr => ?_
  refine (statements_stay target 1 true ss).bind fun built hbuilt => ?_
  exact (checkUniqueNames_stays hbuilt).bind fun _ _ => ends_ok ⟨hr, hbuilt⟩

end Build
end Schemata
