import Schemata.Proofs.Build.Kept
import Schemata.Proofs.Identifier
import Schemata.Build
import Mathlib.Data.List.DropRight

/-!
# What is built

A file is built exactly if its source is well formed. Each part of a source is looked at once, so
the condition of a part is the conjunction of those of its pieces. What comes of a part keeps all of
it, and later checks ask for nothing more: names without their markers, literals without their
places, and whether a type is a variant.

**Results:**
* `Build.accepts_type`, `Build.accepts_statement`: a type or a statement is built exactly if it is
  well formed.
* `Build.exists_root_iff`: a file is built exactly if its statements may form one.
-/
namespace Schemata
namespace Build
variable {file : Path}

/-- A list is built exactly if every element is, and each result belongs to its element. -/
theorem accepts_mapM {ε α β : Type} {f : α → Except ε β} {as : List α} {P : α → Prop}
    {S : α → β → Prop} (h : ∀ a, Accepts (f a) (P a) (S a)) :
    Accepts (as.mapM f) (∀ a ∈ as, P a) (List.Forall₂ S as) := by
  induction as with
  | nil => exact accepts_ok (by simp) .nil
  | cons a as ih =>
    rw [List.mapM_cons, List.forall_mem_cons]
    exact (h a).bind fun b hb => ih.bind_pure fun bs hbs => .cons hb hbs

theorem accepts_optional {α β : Type} {f : α → Except Diagnostic β} {P : α → Prop}
    {S : α → β → Prop} (h : ∀ a, Accepts (f a) (P a) (S a)) (o : Option α) :
    Accepts (optional f o) (∀ a ∈ o, P a) (Option.Rel S o) := by
  cases o with
  | none => exact accepts_ok (by simp) .none
  | some a => exact ((h a).map fun b hb => .some hb).congr (by simp)

/-! ## Places -/

theorem accepts_location (line column : Nat) :
    Accepts (Location.create line column) (1 ≤ line ∧ 1 ≤ column)
      fun l => l.line = line ∧ l.column = column where
  ok_iff := by
    constructor
    · rintro ⟨l, hl⟩
      obtain ⟨rfl, rfl⟩ := Location.create_eq_ok_iff.1 hl
      exact ⟨l.line_pos, l.column_pos⟩
    · rintro ⟨hl, hc⟩
      exact ⟨⟨line, column, hl, hc⟩, Location.create_eq_ok_iff.2 ⟨rfl, rfl⟩⟩
  of_ok _ := Location.create_eq_ok_iff.1

theorem accepts_stretch (start stop : Location) :
    Accepts (Range.create file start stop)
      (start.line < stop.line ∨ start.line = stop.line ∧ start.column ≤ stop.column)
      fun r => r.file = file ∧ r.start = start ∧ r.stop = stop where
  ok_iff := by
    rw [← decide_eq_true_iff (p := _ ∨ _)]
    constructor
    · rintro ⟨r, hr⟩
      exact (Range.create_eq_ok_iff.1 hr).1
    · intro h
      exact ⟨⟨file, start, stop, h⟩, Range.create_eq_ok_iff.2 ⟨h, rfl, rfl, rfl⟩⟩
  of_ok _ hr := (Range.create_eq_ok_iff.1 hr).2

theorem accepts_toRange (s : Span) : Accepts (s.toRange file) s.Valid (s.Marks file) := by
  rw [Span.valid_iff, ← and_assoc]
  refine (accepts_location s.startLine s.startColumn).bind fun start hstart => ?_
  rw [← and_assoc]
  refine (accepts_location s.stopLine s.stopColumn).bind fun stop hstop => ?_
  rw [← hstart.1, ← hstart.2, ← hstop.1, ← hstop.2]
  refine (accepts_stretch start stop).imp ?_
  rintro r ⟨hfile, rfl, rfl⟩
  exact ⟨hfile, hstart.1, hstart.2, hstop.1, hstop.2⟩

theorem accepts_range (s : Span) : Accepts (range file s) s.Valid (s.Marks file) := by
  have h : Accepts (s.toRange file) s.Valid (s.Marks file) := accepts_toRange s
  rw [range, ← h.ok_iff]
  cases hr : s.toRange file with
  | ok r => exact accepts_ok (by simp) (h.of_ok r hr)
  | error fault => exact accepts_error (by simp)

/-! ## Names -/

/-- A valid name is read as its text, and found by its key. -/
theorem accepts_identifier (n : Source.Name) :
    Accepts (identifier file n) n.Valid (n.Kept file) := by
  rw [Source.Name.valid_iff, ← head?_dropWhile_isAlpha_iff]
  refine (accepts_range n.span).bind fun r hr => ⟨?_, fun i hi => ?_⟩
  · simp only [Identifier.parse_eq_ok_iff, exists_and_left, exists_eq, and_true]
  · obtain ⟨-, rfl⟩ := Identifier.parse_eq_ok_iff.1 hi
    refine ⟨hr, ?_, rfl, by rw [String.length_ofList]⟩
    rw [Identifier.value, ← String.ofList_append, List.takeWhile_append_dropWhile,
      String.ofList_toList]

theorem isType_eq {n : Source.Name} {i : Identifier} (h : i.name = n.key) :
    i.isType = n.isType := by
  rw [Identifier.isType, Source.Name.isType, h]

/-! ## Literals and blocks -/

mutual

theorem accepts_mapPlaces {ρ σ ε : Type} {f : ρ → Except ε σ} {P : ρ → Prop} {Q : ρ → σ → Prop}
    (hf : ∀ p, Accepts (f p) (P p) (Q p)) (e : Expression ρ) :
    Accepts (e.mapPlaces f) (e.EachPlace P) (e.Alike Q) := by
  cases e with
  | boolean p => exact (hf p).bind_pure fun _ hq => .boolean hq _
  | integer p => exact (hf p).bind_pure fun _ hq => .integer hq _
  | number p => exact (hf p).bind_pure fun _ hq => .number hq _
  | string p => exact (hf p).bind_pure fun _ hq => .string hq _
  | tuple p es =>
    exact (hf p).bind fun _ hq => (accepts_mapPlacesAll hf es).bind_pure fun _ hls => .tuple hq hls
  | list p es =>
    exact (hf p).bind fun _ hq => (accepts_mapPlacesAll hf es).bind_pure fun _ hls => .list hq hls

theorem accepts_mapPlacesAll {ρ σ ε : Type} {f : ρ → Except ε σ} {P : ρ → Prop}
    {Q : ρ → σ → Prop} (hf : ∀ p, Accepts (f p) (P p) (Q p)) (es : List (Expression ρ)) :
    Accepts (Expression.mapPlacesAll f es) (Expression.EachPlaceOf P es)
      (List.Forall₂ (Expression.Alike Q) es) := by
  match es with
  | [] => exact accepts_ok trivial .nil
  | e :: es =>
    exact (accepts_mapPlaces hf e).bind fun _ hl =>
      (accepts_mapPlacesAll hf es).bind_pure fun _ hls => .cons hl hls

end

theorem accepts_literal (e : Source.Literal) :
    Accepts (literal file e) (e.EachPlace Span.Valid) (e.Alike (Span.Marks file)) :=
  accepts_mapPlaces accepts_range e

theorem accepts_namedLiteral (n : Source.NamedLiteral) :
    Accepts (namedLiteral file n) n.Valid
      fun built => n.Kept file built.1 built.2.1 built.2.2 := by
  rw [Source.NamedLiteral.valid_iff]
  exact (accepts_range n.span).bind fun _ hr => (accepts_identifier n.name).bind fun _ hi =>
    (accepts_literal n.value).bind_pure fun _ hl => ⟨hr, hi, hl⟩

theorem accepts_metadataItem (n : Source.NamedLiteral) :
    Accepts (metadataItem file n) n.Valid fun item => n.Kept file item.range item.name item.value :=
  (accepts_namedLiteral n).bind_pure fun _ hn => hn

theorem accepts_metadata (m : Source.Metadata) :
    Accepts (metadata file m) m.Valid (m.Kept file) := by
  rw [Source.Metadata.valid_iff]
  refine (accepts_range m.span).bind fun r hr =>
    (accepts_mapM accepts_metadataItem).bind fun items hitems => ?_
  rw [← map_eq_of_forall₂ (g := MetadataItem.key) hitems fun _ _ h => h.name.name]
  constructor
  · simp only [Metadata.create_eq_ok_iff, exists_and_left, exists_eq, and_true]
  · intro built hb
    obtain ⟨-, rfl⟩ := Metadata.create_eq_ok_iff.1 hb
    exact ⟨hr, hitems⟩

/-! ## Cardinalities and headers -/

theorem accepts_bound (b : Source.Bound) : Accepts (bound file b) b.span.Valid (b.Kept file) :=
  (accepts_range b.span).bind_pure fun _ hr => ⟨hr, rfl⟩

theorem kept_defaulted {lo hi : Option Source.Bound} {min max : Option IntegerLiteral} (r : Range)
    (hmin : Option.Rel (Source.Bound.Kept file) lo min)
    (hmax : Option.Rel (Source.Bound.Kept file) hi max) :
    Source.Bound.Defaulted file r lo hi (Cardinality.defaulted r min max).1
      (Cardinality.defaulted r min max).2 := by
  cases hmin with
  | none =>
    cases hmax with
    | none => exact .neither
    | some hmax => exact .greatest hmax
  | some hmin =>
    cases hmax with
    | none => exact .least hmin
    | some hmax => exact .both hmin hmax

/-- The bounds that are meant are those that are built. -/
theorem bounds_of_defaulted {c : Source.Cardinality} {r : Range} {least : IntegerLiteral}
    {greatest : Option IntegerLiteral}
    (h : Source.Bound.Defaulted file r c.min c.max least greatest) :
    least.value.toInt = c.least ∧ greatest.map (·.value.toInt) = c.greatest? := by
  obtain ⟨span, cmin, cmax, m⟩ := c
  cases h with
  | neither => exact ⟨rfl, rfl⟩
  | greatest h => exact ⟨rfl, congrArg (fun value : Int64 => some value.toInt) h.value⟩
  | least h => exact ⟨congrArg Int64.toInt h.value, rfl⟩
  | both h h' =>
    exact ⟨congrArg Int64.toInt h.value,
      congrArg (fun value : Int64 => some value.toInt) h'.value⟩

theorem faultyBound_eq_none_iff (min : IntegerLiteral) (max : Option IntegerLiteral) :
    Cardinality.faultyBound min max = none ↔ 0 ≤ min.value.toInt ∧
      ∀ greatest ∈ max.map (·.value.toInt), min.value.toInt ≤ greatest ∧ 1 ≤ greatest := by
  have hz : (0 : Int64).toInt = 0 := rfl
  rw [Cardinality.faultyBound]
  by_cases h : min.value < 0
  · have hn : ¬ 0 ≤ min.value.toInt := by
      rw [Int64.lt_iff_toInt_lt, hz] at h
      omega
    simp [h, hn]
  · rw [Int64.lt_iff_toInt_lt, hz] at h
    cases max with
    | none => simp [Int64.le_iff_toInt_le, hz]
    | some max =>
      simp [Int64.lt_iff_toInt_lt, ← Int64.toInt_inj, hz, h, Option.filter]
      omega

/-- The single cardinality has no metadata. -/
theorem nonEmpty?_eq_none_iff {m : Option Source.Metadata} {built : Option Metadata}
    (h : Option.Rel (Source.Metadata.Kept file) m built) :
    built.bind Metadata.nonEmpty? = none ↔ ∀ block ∈ m, block.items = [] := by
  cases h with
  | none => simp
  | @some m built h =>
    have he : built.items = [] ↔ m.items = [] := by
      rw [← List.length_eq_zero_iff, ← h.items.length_eq, List.length_eq_zero_iff]
    simp [Metadata.nonEmpty?, Metadata.isEmpty, he]

/-- Blocks of which more is known are kept. -/
theorem kept_of_rel_and {p : Source.Metadata → Prop} {m : Option Source.Metadata}
    {built : Option Metadata}
    (h : Option.Rel (fun m built => p m ∧ Source.Metadata.Kept file m built) m built) :
    Option.Rel (Source.Metadata.Kept file) m built := by
  cases h with
  | none => exact .none
  | some h => exact .some h.2

/-- What is left of a block that is kept is what is left of its source. -/
theorem left_of_kept (taken : List String) {m : Option Source.Metadata} {built : Option Metadata}
    (h : Option.Rel (fun m built => m.Valid ∧ Source.Metadata.Kept file m built) m built) :
    Source.Metadata.Left file taken m ((leftBy taken built).bind Metadata.nonEmpty?) := by
  cases h with
  | none =>
    rw [leftBy_none]
    exact .none
  | @some m built h =>
    obtain ⟨hv, hk⟩ := h
    have hkeys : built.items.map MetadataItem.key = m.items.map (·.name.key) :=
      map_eq_of_forall₂ hk.items fun _ _ h => h.name.name
    have hitems : Source.NamedLiteral.AllKept file (m.items.filter (·.name.key ∉ taken))
        (built.items.filter (·.key ∉ taken)) := by
      refine List.rel_filter (fun n item h => ?_) hk.items
      simp [MetadataItem.key, h.name.name]
    rw [leftBy_some taken (hkeys ▸ hv.distinct), Option.bind_some, Metadata.nonEmpty?,
      Metadata.isEmpty]
    by_cases he : built.items.filter (·.key ∉ taken) = []
    · rw [if_pos (by rw [he]; rfl)]
      rw [he, Source.NamedLiteral.AllKept, List.forall₂_nil_right_iff,
        List.filter_eq_nil_iff] at hitems
      exact .gone fun n hn => by simpa using hitems n hn
    · rw [if_neg (by simpa [List.isEmpty_iff] using he)]
      exact .rest hk.range hitems he

theorem accepts_create {r : Range} {min max : Option IntegerLiteral} {m : Option Metadata} :
    Accepts (Cardinality.create r min max m)
      (0 ≤ (Cardinality.defaulted r min max).1.value.toInt ∧
        (∀ greatest ∈ (Cardinality.defaulted r min max).2.map (·.value.toInt),
          (Cardinality.defaulted r min max).1.value.toInt ≤ greatest ∧ 1 ≤ greatest) ∧
        ((Cardinality.defaulted r min max).1.value.toInt = 1 →
          (Cardinality.defaulted r min max).2.map (·.value.toInt) = some 1 →
            m.bind Metadata.nonEmpty? = none))
      fun c => c = ⟨r, (Cardinality.defaulted r min max).1, (Cardinality.defaulted r min max).2,
        m.bind Metadata.nonEmpty?⟩ := by
  rw [Cardinality.create, ← and_assoc, ← faultyBound_eq_none_iff]
  rcases Cardinality.defaulted r min max with ⟨lo, hi⟩
  dsimp only
  cases Cardinality.faultyBound lo hi with
  | some bound => exact accepts_error (by simp)
  | none =>
    have hs : (⟨r, lo, hi, m.bind Metadata.nonEmpty?⟩ : Cardinality).isSingle = true ↔
        lo.value.toInt = 1 ∧ hi.map (·.value.toInt) = some 1 := by
      cases hi <;> simp [Cardinality.isSingle, Cardinality.bounds, ← Int64.toInt_inj]
    dsimp only
    rw [← and_imp, ← hs]
    cases Cardinality.isSingle _ with
    | false => exact accepts_ok (by simp) rfl
    | true =>
      cases m.bind Metadata.nonEmpty? with
      | none => exact accepts_ok (by simp) rfl
      | some block => exact accepts_error (by simp)

theorem accepts_cardinality (c : Source.Cardinality) (typeRange : Range) :
    Accepts (cardinality file c) c.Valid (Source.Cardinality.Kept file typeRange (some c)) := by
  rw [Source.Cardinality.valid_iff]
  refine (accepts_range c.span).bind fun r hr =>
    (accepts_optional accepts_bound c.min).bind fun min hmin =>
      (accepts_optional accepts_bound c.max).bind fun max hmax =>
        (accepts_optional (fun m => (accepts_metadata m).and_of_ok) c.metadata).bind
          fun m hm => ?_
  have hbounds := kept_defaulted r hmin hmax
  obtain ⟨hl, hg⟩ := bounds_of_defaulted hbounds
  rw [← hl, ← hg, ← nonEmpty?_eq_none_iff (kept_of_rel_and hm)]
  refine accepts_create.imp ?_
  rintro _ rfl
  exact .written hr hbounds (left_of_kept [] hm)

/-- The range, the cardinality and the block of a type are kept; nothing is taken out of the block
yet. -/
def HeaderKept (file : Path) (h : Source.Header)
    (built : Range × Cardinality × Option Metadata) : Prop :=
  h.span.Marks file built.1 ∧ Source.Cardinality.Kept file built.1 h.cardinality built.2.1 ∧
    Option.Rel (fun m block => m.Valid ∧ Source.Metadata.Kept file m block) h.metadata built.2.2

theorem accepts_header (h : Source.Header) :
    Accepts (header file h) h.Valid (HeaderKept file h) := by
  rw [Source.Header.valid_iff]
  refine (accepts_range h.span).bind fun r hr => ?_
  have hm : ∀ c : Cardinality, Source.Cardinality.Kept file r h.cardinality c →
      Accepts (do return (r, c, ← optional (metadata file) h.metadata))
        (∀ m ∈ h.metadata, m.Valid) (HeaderKept file h) :=
    fun c hc => (accepts_optional (fun m => (accepts_metadata m).and_of_ok) h.metadata).bind_pure
      fun _ hm => ⟨hr, hc, hm⟩
  cases hw : h.cardinality with
  | none =>
    rw [hw] at hm
    exact (hm _ .absent).congr (by simp)
  | some c =>
    rw [hw] at hm
    exact ((accepts_cardinality c r).bind fun c hc => hm c hc).congr (by simp)

/-- What a type node has, when the items of some names are taken out of its block. -/
theorem HeaderKept.occurrence {h : Source.Header} {r : Range} {c : Cardinality}
    {m : Option Metadata} (hk : HeaderKept file h (r, c, m)) (taken : List String)
    (id : ElementId) :
    h.Kept file taken ⟨id, r, c, (leftBy taken m).bind Metadata.nonEmpty?⟩ :=
  ⟨hk.1, hk.2.1, left_of_kept taken hk.2.2⟩

theorem HeaderKept.terms_eq {h : Source.Header} {r : Range} {c : Cardinality}
    {m : Option Metadata} (hk : HeaderKept file h (r, c, m)) :
    Metadata.terms m = Source.Metadata.terms h.metadata :=
  Source.Metadata.terms_of_kept (kept_of_rel_and hk.2.2)

/-! ## Types -/

theorem segmentsFit_iff_of_kept {ns : List Source.Name} {segments : List Identifier}
    (h : List.Forall₂ (Source.Name.Kept file) ns segments) (isElement : Bool) :
    Source.SegmentsFit ns isElement ↔ segments ≠ [] ∧
      (∀ i ∈ segments.dropLast, i.isType = true) ∧
      (isElement = false → ∀ i ∈ segments.getLast?, i.isType = true) ∧
      (isElement = true → 2 ≤ segments.length) := by
  have hk : segments.map Identifier.isType = ns.map Source.Name.isType :=
    map_eq_of_forall₂ h fun _ _ h => isType_eq h.name
  have hd : segments.dropLast.map Identifier.isType = ns.dropLast.map Source.Name.isType := by
    rw [List.map_dropLast, hk, List.map_dropLast]
  have hleading : (∀ n ∈ ns.dropLast, n.isType = true) ↔
      ∀ i ∈ segments.dropLast, i.isType = true := by
    rw [← List.forall_mem_map (f := Source.Name.isType) (P := (· = true)), ← hd,
      List.forall_mem_map]
  have hlast : (∀ n ∈ ns.getLast?, n.isType = true) ↔
      ∀ i ∈ segments.getLast?, i.isType = true := by
    have hg := congrArg List.getLast? hk
    rw [List.getLast?_map, List.getLast?_map] at hg
    cases hs : segments.getLast? <;> cases hn : ns.getLast? <;> simp_all
  rw [Source.segmentsFit_iff, hleading, hlast, h.length_eq, ← List.length_pos_iff,
    ← List.length_pos_iff, h.length_eq]

theorem accepts_checkSegments {r : Range} {ns : List Source.Name} {segments : List Identifier}
    (h : List.Forall₂ (Source.Name.Kept file) ns segments) (isElement : Bool) :
    Accepts (checkSegments r segments isElement) (Source.SegmentsFit ns isElement)
      fun _ => True := by
  rw [segmentsFit_iff_of_kept h, checkSegments]
  cases hl : segments.getLast? with
  | none => exact accepts_error (by simpa using fun hn => absurd hl (by simpa using hn))
  | some last =>
    have hne : segments ≠ [] := by
      rintro rfl
      cases hl
    cases hf : segments.dropLast.find? (!·.isType) with
    | some name =>
      have hn : ∃ i ∈ segments.dropLast, i.isType = false :=
        ⟨name, List.mem_of_find?_eq_some hf, by simpa using List.find?_some hf⟩
      refine accepts_error fun ⟨_, h, _⟩ => ?_
      obtain ⟨i, hi, hn⟩ := hn
      exact absurd (h i hi) (by simp [hn])
    | none =>
      have hd : ∀ i ∈ segments.dropLast, i.isType = true := by simpa using List.find?_eq_none.1 hf
      have he : (!segments.dropLast.isEmpty) = true ↔ 2 ≤ segments.length := by
        rw [Bool.not_eq_true', List.isEmpty_eq_false_iff, ← List.length_pos_iff,
          List.length_dropLast]
        omega
      cases isElement with
      | true => exact (accepts_ite fun _ => trivial).congr (by simpa [hne, he] using fun _ => hd)
      | false => exact (accepts_ite fun _ => trivial).congr (by simpa [hne] using fun _ => hd)

/-- What is found for the names of a reference: a fundamental type for a single plain name. -/
def FoundFor (ns : List Source.Name) (isGlobal isElement : Bool) (m : Option Metadata) :
    Option (Fundamental × Option Metadata) → Prop
  | some found => ∃ n, ns = [n] ∧ isGlobal = false ∧ isElement = false ∧
      n.text ∈ reservedNames ∧ Fundamental.ReadFrom n.text m found
  | none => ∀ n, ns = [n] → isGlobal = false → isElement = false → n.text ∉ reservedNames

/-- Only a single plain name can be that of a fundamental type. -/
theorem accepts_fundamental? {m : Option Metadata} {ns : List Source.Name}
    {segments : List Identifier} (h : List.Forall₂ (Source.Name.Kept file) ns segments)
    (isGlobal isElement : Bool) :
    Accepts (fundamental? ⟨segments, isGlobal, isElement⟩ m)
      (∀ n, ns = [n] → isGlobal = false → isElement = false →
        ConstraintsHold n.text (Metadata.terms m)) (FoundFor ns isGlobal isElement m) := by
  match h, isGlobal, isElement with
  | .cons (a := n) h .nil, false, false =>
    refine ((Fundamental.accepts_ofConstraints _ m).congr ?_).imp fun found hfound => ?_
    · simp [h.text]
    · rw [h.text] at hfound
      cases found with
      | none =>
        have hfree : n.text ∉ reservedNames := hfound
        simpa [FoundFor] using hfree
      | some found =>
        exact ⟨n, rfl, rfl, rfl, hfound.name_eq ▸ found.1.name_mem_reservedNames, hfound⟩
  | .nil, _, _ => exact accepts_ok (by simp) (by simp [FoundFor])
  | .cons _ (.cons _ _), _, _ => exact accepts_ok (by simp) (by simp [FoundFor])
  | .cons _ .nil, true, _ => exact accepts_ok (by simp) (by simp [FoundFor])
  | .cons _ .nil, false, true => exact accepts_ok (by simp) (by simp [FoundFor])

theorem accepts_reference {id : ElementId} {r : Range} {c : Cardinality} {m : Option Metadata}
    {h : Source.Header} (hk : HeaderKept file h (r, c, m)) {ns : List Source.Name}
    {segments : List Identifier} (hs : List.Forall₂ (Source.Name.Kept file) ns segments)
    (isGlobal isElement : Bool) :
    Accepts (reference id r c m ⟨segments, isGlobal, isElement⟩)
      (Source.SegmentsFit ns isElement ∧
        ∀ n, ns = [n] → isGlobal = false → isElement = false →
          ConstraintsHold n.text (Source.Metadata.terms h.metadata))
      ((Source.TypeExpr.reference h ns isGlobal isElement).Kept file) := by
  refine (accepts_checkSegments hs isElement).bind fun _ _ => ?_
  rw [← hk.terms_eq]
  refine ((accepts_fundamental? hs isGlobal isElement).bind (q := True) fun found hfound =>
    ?_).congr (iff_of_eq (and_true _))
  cases found with
  | none => exact accepts_ok trivial (.reference hfound (hk.occurrence [] id) hs)
  | some found =>
    obtain ⟨n, rfl, rfl, rfl, hreserved, hread⟩ := hfound
    obtain ⟨type, rest⟩ := found
    obtain ⟨hsaid, hrest, hname⟩ := hread
    subst hrest
    exact accepts_ok trivial
      (.fundamental hreserved (hk.occurrence _ id) hname (hk.terms_eq ▸ hsaid))

/-- What a plain type name is built as hangs on whether a fundamental type is found for it. -/
theorem reference_plain_eq (id : ElementId) (range : Range) (c : Cardinality) (m : Option Metadata)
    {i : Identifier} (htype : i.isType = true) :
    reference id range c m ⟨[i], false, false⟩ =
      (Fundamental.ofConstraints i.value m).map fun
        | some (type, m) => .fundamental ⟨id, range, c, m.bind Metadata.nonEmpty?⟩ type
        | none => .reference ⟨id, range, c, m.bind Metadata.nonEmpty?⟩ ⟨[i], false, false⟩ := by
  have hsegments : checkSegments range [i] false = .ok () := if_pos htype
  have hfound : fundamental? ⟨[i], false, false⟩ m = Fundamental.ofConstraints i.value m := rfl
  rw [reference, hsegments, hfound]
  rcases Fundamental.ofConstraints i.value m with e | - | found <;> rfl

theorem accepts_checkMembers {r : Range} {isVariant : Bool} {members : List (Range × Bool)} :
    Accepts (checkMembers r isVariant members)
      (members ≠ [] ∧ (isVariant = true → ∀ m ∈ members, m.2 = false)) fun _ => True := by
  rw [checkMembers]
  by_cases hm : members = []
  · rw [if_pos (by simpa using hm)]
    exact accepts_error (by simp [hm])
  · rw [if_neg (by simpa using hm)]
    cases isVariant with
    | false => exact accepts_ok (by simp [hm]) trivial
    | true =>
      cases hf : members.find? (·.2) with
      | none =>
        rw [List.find?_eq_none] at hf
        exact accepts_ok (by simpa [hm] using hf) trivial
      | some nested =>
        have hn : ∃ m ∈ members, m.2 = true :=
          ⟨nested, List.mem_of_find?_eq_some hf, by simpa using List.find?_some hf⟩
        exact accepts_error (by simpa [hm] using hn)

theorem accepts_members {r : Range} {es : List Source.TypeExpr} {ts : List WrittenType}
    (h : List.Forall₂ (Source.TypeExpr.Kept file) es ts) (isVariant : Bool) :
    Accepts (checkMembers r isVariant (ts.map fun t => (t.occurrence.range, t.isVariant)))
      (es ≠ [] ∧ (isVariant = true → ∀ e ∈ es, e.isVariant = false)) fun _ => True := by
  have hk : ts.map WrittenType.isVariant = es.map Source.TypeExpr.isVariant :=
    map_eq_of_forall₂ h fun _ _ h => h.isVariant_eq
  refine accepts_checkMembers.congr ?_
  rw [← List.forall_mem_map (P := (· = false)) (l := es), ← hk, ← List.length_pos_iff,
    ← List.length_pos_iff, h.length_eq]
  simp

mutual

/-- A type is built exactly if it is well formed. -/
theorem accepts_type (target : BuildTarget) (number : Nat) (e : Source.TypeExpr) :
    Accepts (type target number e) e.WellFormed (e.Kept target.file) := by
  cases e with
  | reference h ns isGlobal isElement =>
    exact (accepts_header h).bind fun ⟨r, c, m⟩ hk =>
      (accepts_mapM accepts_identifier).bind fun segments hs =>
        accepts_reference hk hs isGlobal isElement
  | tuple h members =>
    refine (accepts_header h).bind fun ⟨r, c, m⟩ hk => ?_
    refine Accepts.congr ((accepts_types target (number + 1) members).bind fun ts hts =>
      (accepts_members hts false).bind (q := True) fun _ _ =>
        accepts_ok trivial (.tuple (hk.occurrence [] _) hts)) ?_
    simp [and_comm]
  | variant h members =>
    refine (accepts_header h).bind fun ⟨r, c, m⟩ hk => ?_
    refine Accepts.congr ((accepts_types target (number + 1) members).bind fun ts hts =>
      (accepts_members hts true).bind (q := True) fun _ _ =>
        accepts_ok trivial (.variant (hk.occurrence [] _) hts)) ?_
    simp only [forall_const, and_true]
    tauto

theorem accepts_types (target : BuildTarget) (number : Nat) (es : List Source.TypeExpr) :
    Accepts (types target number es) (Source.TypeExpr.AllWellFormed es)
      (List.Forall₂ (Source.TypeExpr.Kept target.file) es) := by
  match es with
  | [] => exact accepts_ok trivial .nil
  | e :: es =>
    exact (accepts_type target number e).bind fun t ht =>
      (accepts_types target _ es).bind_pure fun ts hts => .cons ht hts

end

/-! ## Statements -/

theorem accepts_checkNotReserved {i : Identifier} :
    Accepts (checkNotReserved i) (i.name ∉ reservedNames) fun _ => True := by
  rw [checkNotReserved]
  by_cases h : i.name ∈ reservedNames
  · rw [if_pos (by simpa [isReserved] using h)]
    exact accepts_error (by simpa using h)
  · rw [if_neg (by simpa [isReserved] using h)]
    exact accepts_ok h trivial

theorem accepts_itemName (n : Source.Name) :
    Accepts (itemName file n) (n.Valid ∧ (n.isType = true → n.key ∉ reservedNames))
      (n.Kept file) := by
  refine (accepts_identifier n).bind fun i hi => ?_
  rw [← isType_eq hi.name, ← hi.name]
  cases hk : i.isType with
  | true =>
    refine Accepts.congr (accepts_checkNotReserved.bind (q := True) fun _ _ =>
      accepts_ok (a := i) trivial hi) ?_
    simp
  | false => exact accepts_ok (by simp) hi

theorem accepts_structName (n : Source.Name) :
    Accepts (structName file n) (n.Valid ∧ n.isType = true ∧ n.key ∉ reservedNames)
      (n.Kept file) := by
  refine (accepts_identifier n).bind fun i hi => ?_
  rw [← isType_eq hi.name, ← hi.name]
  cases hk : i.isType with
  | true =>
    refine Accepts.congr (accepts_checkNotReserved.bind (q := True) fun _ _ =>
      accepts_ok (a := i) trivial hi) ?_
    simp
  | false => exact accepts_error (by simp)

theorem accepts_keywordArgument (n : Source.NamedLiteral) :
    Accepts (keywordArgument file n) n.Valid fun a => n.Kept file a.range a.name a.value :=
  (accepts_namedLiteral n).bind_pure fun _ hn => hn

/-- A call of an extension, with the parts that its source has. -/
def ExtensionKept (file : Path) (name : Source.Name) (arguments : List Source.Literal)
    (named : List Source.NamedLiteral) (call : Extension) : Prop :=
  name.Kept file call.name ∧
    List.Forall₂ (Expression.Alike (Span.Marks file)) arguments call.arguments ∧
    List.Forall₂ (fun n a => n.Kept file a.range a.name a.value) named call.named

theorem accepts_extension (name : Source.Name) (arguments : List Source.Literal)
    (named : List Source.NamedLiteral) :
    Accepts (extension file name arguments named)
      (name.Valid ∧ (∀ e ∈ arguments, e.EachPlace Span.Valid) ∧ (∀ n ∈ named, n.Valid) ∧
        (named.map (·.name.key)).Nodup) (ExtensionKept file name arguments named) := by
  refine (accepts_identifier name).bind fun i hi => (accepts_mapM accepts_literal).bind
    fun es hes => (accepts_mapM accepts_keywordArgument).bind fun as has => ⟨?_, fun e he => ?_⟩
  · have hk : as.map KeywordArgument.key = named.map (·.name.key) :=
      map_eq_of_forall₂ has fun _ _ h => h.name.name
    simp only [Extension.create_eq_ok_iff, exists_and_left, exists_eq, and_true, hk]
  · obtain ⟨-, rfl⟩ := Extension.create_eq_ok_iff.1 he
    exact ⟨hi, hes, has⟩

/-- A derived name has the text that it is derived from, if that is a name without markers. -/
theorem accepts_withVisibility {r : Range} {n : Source.Name} (hn : n.Valid) (v : Visibility) :
    Accepts (Identifier.withVisibility r n.key v) True fun i => i = ⟨r, "", n.key, v⟩ := by
  have hk : n.key.toList.dropWhile isMarker = n.text.toList.dropWhile isMarker := by
    rw [Source.Name.key, String.toList_ofList, List.dropWhile_idempotent]
  have hh := (head?_dropWhile_isAlpha_iff _).2 hn.text
  have hp : Identifier.parse r n.key = .ok _ := Identifier.parse_eq_ok_iff.2 ⟨hk ▸ hh, rfl⟩
  rw [Identifier.withVisibility, hp, hk]
  exact accepts_ok trivial rfl

theorem accepts_includeItem (i : Source.IncludeItem) :
    Accepts (includeItem file i) i.Valid (i.Kept file) := by
  rw [Source.IncludeItem.valid_iff]
  refine Accepts.congr ((accepts_optional accepts_identifier i.reference).bind fun reference hr =>
    (accepts_range i.span).bind fun r hspan => (accepts_identifier i.element).and_of_ok.bind
      (q := True) fun element he => ?_) ?_
  · obtain ⟨hv, he⟩ := he
    have hitem : ∀ name, Source.IncludeItem.ReferenceKept file element i.reference name →
        i.Kept file ⟨r, element, name⟩ := fun _ hname => ⟨hspan, he, hname⟩
    generalize i.reference = written at hr hitem
    cases hr with
    | some h => exact accepts_ok trivial (hitem _ (.written h))
    | none =>
      rw [IncludeItem.create, he.name]
      refine (accepts_withVisibility hv _).bind_pure fun name hname => hitem _ ?_
      rw [hname, ← he.name]
      exact .derived
  · simp only [and_true]
    tauto

/-- An include with the parts that its source has. -/
def InclusionKept (file : Path) (filenameSpan : Span) (filename : String)
    (items : List Source.IncludeItem) (i : Inclusion) : Prop :=
  i.filename = filename ∧ filenameSpan.Marks file i.filenameRange ∧
    List.Forall₂ (Source.IncludeItem.Kept file) items i.items

theorem accepts_inclusion (filenameSpan : Span) (filename : String)
    (items : List Source.IncludeItem) :
    Accepts (inclusion file filenameSpan filename items)
      (filenameSpan.Valid ∧ ∀ i ∈ items, i.Valid)
      (InclusionKept file filenameSpan filename items) :=
  (accepts_range filenameSpan).bind fun _ hr => (accepts_mapM accepts_includeItem).bind_pure
    fun _ hb => ⟨rfl, hr, hb⟩

theorem scopeNames_eq_of_kept {src : List Source.Statement} {built : List (Statement WrittenType)}
    (h : List.Forall₂ (Source.Statement.Kept file) src built) :
    (built.flatMap Statement.scopeNames).map Identifier.name =
      (src.flatMap Source.Statement.scopeNames).map Source.Name.key := by
  induction h with
  | nil => rfl
  | cons h _ ih =>
    rw [List.flatMap_cons, List.flatMap_cons, List.map_append, List.map_append, h.scopeNames_eq, ih]

theorem accepts_checkUniqueNames {src : List Source.Statement}
    {built : List (Statement WrittenType)}
    (h : List.Forall₂ (Source.Statement.Kept file) src built) :
    Accepts (checkUniqueNames built) (Source.Statement.DistinctNames src) fun _ => True where
  ok_iff := by
    rw [Source.Statement.DistinctNames, ← scopeNames_eq_of_kept h, ← checkUniqueNames_eq_ok_iff]
    exact ⟨fun ⟨_, hu⟩ => hu, fun hu => ⟨_, hu⟩⟩
  of_ok _ _ := trivial

mutual

/-- A statement is built exactly if it is well formed. -/
theorem accepts_statement (target : BuildTarget) (number : Nat) (atRoot : Bool)
    (s : Source.Statement) :
    Accepts (statement target number atRoot s) (s.WellFormed atRoot) (s.Kept target.file) := by
  cases s with
  | item span name e =>
    refine Accepts.congr ((accepts_range span).bind fun r hr => (accepts_itemName name).bind
      fun i hi => (accepts_type target (number + 1) e).bind_pure fun t ht => .item hr hi ht) ?_
    rw [Source.Statement.WellFormed, and_assoc]
  | struct span name bases m children =>
    refine Accepts.congr ((accepts_range span).bind fun r hr => (accepts_structName name).bind
      fun i hi => (accepts_types target (number + 1) bases).bind fun ts hts =>
        (accepts_optional accepts_metadata m).bind fun block hm =>
          (accepts_statements target _ false children).bind fun built hb =>
            (accepts_checkUniqueNames hb).bind_pure fun _ _ => .struct hr hi hts hm hb) ?_
    rw [Source.Statement.WellFormed]
  | extension span name arguments named =>
    refine (accepts_range span).bind fun r hr =>
      (accepts_extension name arguments named).bind_pure ?_
    rintro ⟨i, es, as⟩ ⟨hi, hes, has⟩
    exact .extension hr hi hes has
  | inclusion span filenameSpan filename items =>
    refine (accepts_range span).bind fun r hr => ?_
    cases atRoot with
    | false => exact accepts_error (by simp)
    | true =>
      refine Accepts.congr ((accepts_inclusion filenameSpan filename items).bind_pure ?_) (by simp)
      rintro ⟨_, filenameRange, built⟩ ⟨rfl, hplace, hitems⟩
      exact .inclusion hr hplace hitems
  | root span inner =>
    refine ((accepts_range span).bind (q := False) fun r _ => accepts_error not_false).congr ?_
    simp [Source.Statement.WellFormed]

theorem accepts_statements (target : BuildTarget) (number : Nat) (atRoot : Bool)
    (ss : List Source.Statement) :
    Accepts (statements target number atRoot ss) (Source.Statement.AllWellFormed atRoot ss)
      (List.Forall₂ (Source.Statement.Kept target.file) ss) := by
  match ss with
  | [] => exact accepts_ok trivial .nil
  | s :: ss =>
    exact (accepts_statement target number atRoot s).bind fun first hf =>
      (accepts_statements target _ atRoot ss).bind_pure fun rest hr => .cons hf hr

end

/-! ## Files -/

theorem span_valid_of_wellFormed {atRoot : Bool} {s : Source.Statement}
    (h : s.WellFormed atRoot) : s.span.Valid := by
  cases s with
  | root => exact h.elim
  | _ => exact h.1

theorem allWellFormed_iff {atRoot : Bool} {ss : List Source.Statement} :
    Source.Statement.AllWellFormed atRoot ss ↔ ∀ s ∈ ss, s.WellFormed atRoot := by
  induction ss with
  | nil => simp [Source.Statement.AllWellFormed]
  | cons s ss ih => simp [Source.Statement.AllWellFormed, ih]

/-- The latest of some places is one of them. -/
theorem foldl_later_mem (first : Nat × Nat) (ends : List (Nat × Nat)) :
    ends.foldl later first ∈ first :: ends := by
  induction ends generalizing first with
  | nil => simp
  | cons e ends ih =>
    rw [List.foldl_cons]
    have h : later first e = first ∨ later first e = e := by
      rw [later]
      split <;> simp
    have hm := ih (later first e)
    rcases h with h | h <;> rw [h] at hm ⊢
    · exact List.mem_cons.2 ((List.mem_cons.1 hm).imp_right (List.mem_cons_of_mem _))
    · exact List.mem_cons_of_mem _ hm

/-- The stretch of a file is valid if those of its statements are. -/
theorem valid_extent {ss : List Source.Statement} (h : ∀ s ∈ ss, s.span.Valid) :
    (extent ss).Valid := by
  have hv : ∀ stop : Nat × Nat, 1 ≤ stop.1 → 1 ≤ stop.2 →
      Span.Valid ⟨1, 1, stop.1, stop.2⟩ := by
    intro stop hl hc
    refine ⟨le_rfl, le_rfl, hl, hc, ?_⟩
    dsimp only
    omega
  cases ss with
  | nil => exact hv (1, 1) le_rfl le_rfl
  | cons s ss =>
    let stop := fun s : Source.Statement => (s.span.stopLine, s.span.stopColumn)
    have hm : (ss.map stop).foldl later (stop s) ∈ (s :: ss).map stop := foldl_later_mem _ _
    obtain ⟨u, hu, he⟩ := List.mem_map.1 hm
    show Span.Valid
      ⟨1, 1, ((ss.map stop).foldl later (stop s)).1, ((ss.map stop).foldl later (stop s)).2⟩
    rw [← he]
    exact hv (stop u) (h u hu).stopLine (h u hu).stopColumn

/-- A file is built exactly if its statements may form one. -/
theorem exists_root_iff (target : BuildTarget) (ss : List Source.Statement) :
    (∃ r, root target ss = .ok r) ↔ Source.Statement.FormFile ss := by
  have h : Accepts (root target ss) ((extent ss).Valid ∧
      Source.Statement.AllWellFormed true ss ∧ Source.Statement.DistinctNames ss) fun _ => True :=
    (accepts_range (extent ss)).bind fun r _ => (accepts_statements target 1 true ss).bind
      fun built hb => (accepts_checkUniqueNames hb).bind_pure fun _ _ => trivial
  rw [h.ok_iff, Source.Statement.formFile_iff, and_iff_right_iff_imp]
  rintro ⟨hw, -⟩
  exact valid_extent fun s hs => span_valid_of_wellFormed (allWellFormed_iff.1 hw s hs)

end Build
end Schemata
