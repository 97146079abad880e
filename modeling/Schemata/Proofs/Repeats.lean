import Schemata.Build
import Mathlib.Data.List.Nodup

/-!
# Repeated names

Metadata blocks, the named arguments of an extension and the names of a scope are checked in the
same way: going through them in order, the first name that occurred before is reported, behind the
place where it occurred first. If there is none, what is built holds everything in the given order,
and finds it by name.

**Results:**
* `firstRepeat_eq_some_iff`: the repeat that is found is the earliest one, and it comes with the
  first element of its key.
* `repeats_found`: blocks, calls and scopes are accepted exactly if no two names agree but for their
  markers, and else the earliest repeat is reported.
-/
namespace Schemata

/-! ## The earliest repeat -/

section

variable {α : Type} {key : α → String} {seen as : List α} {first again : α}

/-- The element at `j` is the earliest one whose key occurred before, and the element at `i` the
first one with that key. -/
structure RepeatsAt (key : α → String) (as : List α) (i j : Nat) (first again : α) : Prop where
  first_at : as[i]? = some first
  again_at : as[j]? = some again
  before : i < j
  key_eq : key first = key again
  first_of_key : ∀ k a, k < i → as[k]? = some a → key a ≠ key again
  earliest : ∀ k l a b, k < l → l < j → as[k]? = some a → as[l]? = some b → key a ≠ key b

/-- What is found after distinct keys: the keys are distinct up to the element that is found, and the
first element with its key stands among those before it. -/
theorem firstRepeatFrom_eq_some_iff (hseen : (seen.map key).Nodup) :
    firstRepeatFrom key seen as = some (first, again) ↔
      ∃ before after, as = before ++ again :: after ∧ ((seen ++ before).map key).Nodup ∧
        (seen ++ before).find? (key · = key again) = some first := by
  induction as generalizing seen with
  | nil => simp [firstRepeatFrom]
  | cons a as ih =>
    rw [firstRepeatFrom]
    split
    case h_1 found hfound =>
      constructor
      · intro h
        cases h
        exact ⟨[], as, rfl, by simpa using hseen, by simpa using hfound⟩
      · rintro ⟨before, after, heq, hdistinct, hfind⟩
        cases before with
        | nil =>
          cases heq
          rw [List.append_nil, hfound] at hfind
          cases hfind
          rfl
        | cons b before =>
          cases heq
          -- the key of the head would occur twice before the repeat
          have hkey : key found = key a := by simpa using List.find?_some hfound
          rw [List.map_append, List.nodup_append] at hdistinct
          exact absurd hkey (hdistinct.2.2 _
            (List.mem_map_of_mem (List.mem_of_find?_eq_some hfound)) _ List.mem_cons_self)
    case h_2 hnone =>
      have hfresh : ((seen ++ [a]).map key).Nodup := by
        rw [List.map_append, List.nodup_append]
        refine ⟨hseen, List.nodup_singleton _, ?_⟩
        simpa using hnone
      rw [ih hfresh]
      constructor
      · rintro ⟨before, after, rfl, hdistinct, hfind⟩
        rw [List.append_assoc] at hdistinct hfind
        exact ⟨a :: before, after, rfl, hdistinct, hfind⟩
      · rintro ⟨before, after, heq, hdistinct, hfind⟩
        cases before with
        | nil =>
          cases heq
          rw [List.append_nil, hnone] at hfind
          cases hfind
        | cons b before =>
          cases heq
          refine ⟨before, after, rfl, ?_, ?_⟩
          · rwa [List.append_assoc]
          · rwa [List.append_assoc]

/-- The repeat that is found is the earliest one, with the first element of its key. -/
theorem firstRepeat_eq_some_iff :
    firstRepeat key as = some (first, again) ↔ ∃ i j, RepeatsAt key as i j first again := by
  rw [firstRepeat, firstRepeatFrom_eq_some_iff (by simp)]
  simp only [List.nil_append]
  constructor
  · rintro ⟨before, after, rfl, hdistinct, hfind⟩
    obtain ⟨hkey, i, hi, hfirst, hbefore⟩ := List.find?_eq_some_iff_getElem.1 hfind
    have hleft : ∀ k a, k < before.length → (before ++ again :: after)[k]? = some a →
        ∃ h : k < before.length, before[k] = a := by
      intro k a hk ha
      rw [List.getElem?_append_left hk] at ha
      exact List.getElem?_eq_some_iff.1 ha
    refine ⟨i, before.length, ?_, ?_, hi, by simpa using hkey, ?_, ?_⟩
    · rw [List.getElem?_append_left hi, List.getElem?_eq_getElem hi, hfirst]
    · simp
    · intro k a hk ha
      obtain ⟨hk', rfl⟩ := hleft k a (Nat.lt_trans hk hi) ha
      simpa using hbefore k hk
    · intro k l a b hkl hl ha hb
      obtain ⟨hk', rfl⟩ := hleft k a (Nat.lt_trans hkl hl) ha
      obtain ⟨hl', rfl⟩ := hleft l b hl hb
      have hne := List.pairwise_iff_getElem.1 hdistinct k l (by simpa) (by simpa) hkl
      simpa using hne
  · rintro ⟨i, j, h⟩
    obtain ⟨hj, hagain⟩ := List.getElem?_eq_some_iff.1 h.again_at
    obtain ⟨hi, hfirst⟩ := List.getElem?_eq_some_iff.1 h.first_at
    refine ⟨as.take j, as.drop (j + 1), ?_, ?_, ?_⟩
    · rw [← hagain, List.getElem_cons_drop, List.take_append_drop]
    · refine List.pairwise_iff_getElem.2 fun k l hk hl hkl => ?_
      simp only [List.length_map, List.length_take] at hk hl
      simp only [List.getElem_map, List.getElem_take]
      exact h.earliest k l _ _ hkl (by omega) (List.getElem?_eq_getElem _)
        (List.getElem?_eq_getElem _)
    · refine List.find?_eq_some_iff_getElem.2 ⟨by simpa using h.key_eq, i, ?_, ?_, ?_⟩
      · have := h.before
        rw [List.length_take]
        omega
      · rw [List.getElem_take, hfirst]
      · intro k hk
        rw [List.getElem_take]
        simpa using h.first_of_key k _ hk (List.getElem?_eq_getElem _)

theorem mem_of_firstRepeat (h : firstRepeat key as = some (first, again)) :
    first ∈ as ∧ again ∈ as := by
  obtain ⟨i, j, hrepeat⟩ := firstRepeat_eq_some_iff.1 h
  exact ⟨List.mem_of_getElem? hrepeat.first_at, List.mem_of_getElem? hrepeat.again_at⟩

end

/-- Of two repeats that overlap, the one that ends first is found. -/
example : firstRepeat Prod.fst [("a", 1), ("b", 2), ("c", 3), ("b", 4), ("a", 5)] =
    some (("b", 2), ("b", 4)) := by decide

/-! ## Checks for repeats -/

section

variable {α β : Type} {key : α → String} {as : List α}

/-- Where the keys are distinct, an element is found by its key. -/
theorem find?_key_eq_some_iff (h : (as.map key).Nodup) {k : String} {a : α} :
    as.find? (key · = k) = some a ↔ a ∈ as ∧ key a = k := by
  constructor
  · intro ha
    exact ⟨List.mem_of_find?_eq_some ha, by simpa using List.find?_some ha⟩
  · rintro ⟨ha, rfl⟩
    cases hfind : as.find? (key · = key a) with
    | none => simpa using List.find?_eq_none.1 hfind a ha
    | some b =>
      have hkey : key b = key a := by simpa using List.find?_some hfind
      rw [List.inj_on_of_nodup_map h (List.mem_of_find?_eq_some hfind) ha hkey]

/-- A check of elements for repeats succeeds exactly if no two of them have the same key, and what
it builds has the property. If it fails, it reports the earliest repeat: where the first element of
its key stands, and then where the repeat stands. -/
structure FindsRepeats (key : α → String) (place : α → Range) (cause : String → Cause)
    (as : List α) (outcome : Except Diagnostic β) (Built : β → Prop) : Prop where
  ok_iff : (∃ b, outcome = .ok b) ↔ as.Pairwise fun a b => key a ≠ key b
  built : ∀ b, outcome = .ok b → Built b
  error : ∀ d, outcome = .error d → ∃ i j first again, RepeatsAt key as i j first again ∧
    d.cause = cause (key again) ∧ d.ranges = [place first, place again]

theorem findsRepeats_of_firstRepeat {place : α → Range} {cause : String → Cause}
    {outcome : Except Diagnostic β} {Built : β → Prop} (b : β)
    (hok : firstRepeat key as = none → outcome = .ok b)
    (herror : ∀ first again, firstRepeat key as = some (first, again) →
      outcome = .error ⟨cause (key again), place first, [place again]⟩)
    (hbuilt : (as.map key).Nodup → Built b) :
    FindsRepeats key place cause as outcome Built := by
  have hdistinct : firstRepeat key as = none ↔ as.Pairwise fun a b => key a ≠ key b := by
    rw [firstRepeat_eq_none_iff, List.Nodup, List.pairwise_map]
  cases hfound : firstRepeat key as with
  | none =>
    have hb := hbuilt ((firstRepeat_eq_none_iff key as).1 hfound)
    rw [hok hfound]
    refine ⟨⟨fun _ => hdistinct.1 hfound, fun _ => ⟨b, rfl⟩⟩, ?_, nofun⟩
    rintro _ ⟨⟩
    exact hb
  | some found =>
    obtain ⟨first, again⟩ := found
    rw [herror first again hfound]
    refine ⟨⟨nofun, fun h => ?_⟩, nofun, ?_⟩
    · rw [hdistinct.2 h] at hfound
      cases hfound
    · rintro _ ⟨⟩
      obtain ⟨i, j, h⟩ := firstRepeat_eq_some_iff.1 hfound
      exact ⟨i, j, first, again, h, rfl, rfl⟩

end

theorem Metadata.create_findsRepeats (range : Range) (items : List MetadataItem) :
    FindsRepeats MetadataItem.key (·.name.range) .duplicateMetadataItem items
      (Metadata.create range items) fun m => m.range = range ∧ m.items = items ∧
        ∀ name item, m.get? name = some item ↔ item ∈ items ∧ item.key = name := by
  refine findsRepeats_of_firstRepeat ⟨range, items⟩ ?_ ?_ fun hdistinct => ?_
  · intro h
    rw [Metadata.create, h]
  · intro first again h
    rw [Metadata.create, h]
  · exact ⟨rfl, rfl, fun name item => find?_key_eq_some_iff hdistinct⟩

theorem Extension.create_findsRepeats (name : Identifier) (arguments : List Literal)
    (named : List KeywordArgument) :
    FindsRepeats KeywordArgument.key (·.name.range) .duplicateKeywordArgument named
      (Extension.create name arguments named) fun call =>
        call.name = name ∧ call.arguments = arguments ∧ call.named = named ∧
          ∀ name a, call.get? name = some a ↔ a ∈ named ∧ a.key = name := by
  refine findsRepeats_of_firstRepeat ⟨name, arguments, named⟩ ?_ ?_ fun hdistinct => ?_
  · intro h
    rw [Extension.create, h]
  · intro first again h
    rw [Extension.create, h]
  · exact ⟨rfl, rfl, rfl, fun name a => find?_key_eq_some_iff hdistinct⟩

/-- The names that statements bring into their scope, in order: items and structures their own ones,
includes those by which they refer to what they take over, and extensions none. -/
inductive Brings {τ : Type} : List (Statement τ) → List Identifier → Prop where
  | nil : Brings [] []
  | item {rest : List (Statement τ)} {names : List Identifier} (h : Brings rest names)
      (id : ElementId) (range : Range) (name : Identifier) (type : τ) :
      Brings (.item id range name type :: rest) (name :: names)
  | struct {rest : List (Statement τ)} {names : List Identifier} (h : Brings rest names)
      (id : ElementId) (range : Range) (name : Identifier) (bases : List τ)
      (metadata : Option Metadata) (children : List (Statement τ)) :
      Brings (.struct id range name bases metadata children :: rest) (name :: names)
  | extension {rest : List (Statement τ)} {names : List Identifier} (h : Brings rest names)
      (id : ElementId) (range : Range) (call : Extension) :
      Brings (.extension id range call :: rest) names
  | inclusion {rest : List (Statement τ)} {names : List Identifier} (h : Brings rest names)
      (id : ElementId) (range : Range) (i : Inclusion) :
      Brings (.inclusion id range i :: rest) (i.items.map (·.reference) ++ names)

theorem brings_scopeNames {τ : Type} (statements : List (Statement τ)) :
    Brings statements (statements.flatMap Statement.scopeNames) := by
  induction statements with
  | nil => exact .nil
  | cons s rest ih =>
    rw [List.flatMap_cons]
    cases s with
    | item => exact .item ih _ _ _ _
    | struct => exact .struct ih _ _ _ _ _ _
    | extension => exact .extension ih _ _ _
    | inclusion => exact .inclusion ih _ _ _

/-- A list of statements brings one list of names. -/
theorem Brings.eq {τ : Type} {statements : List (Statement τ)} {names : List Identifier}
    (h : Brings statements names) : names = statements.flatMap Statement.scopeNames := by
  induction h with
  | nil => rfl
  | item _ _ _ _ _ ih | struct _ _ _ _ _ _ _ ih | extension _ _ _ _ ih | inclusion _ _ _ _ ih =>
    rw [List.flatMap_cons, ih]
    rfl

theorem Build.checkUniqueNames_findsRepeats {τ : Type} (statements : List (Statement τ)) :
    FindsRepeats Identifier.name (·.range) .duplicateName
      (statements.flatMap Statement.scopeNames) (checkUniqueNames statements) fun _ => True := by
  refine findsRepeats_of_firstRepeat () ?_ ?_ fun _ => trivial
  · intro h
    rw [checkUniqueNames, h]
  · intro first again h
    rw [checkUniqueNames, h]

/-- Metadata blocks, calls of extensions and scopes are accepted exactly if no two names agree but for
their markers. What is built has everything in the given order and finds it by name; what is refused
is refused for the earliest name that occurred before, reported where it occurred first and then
where it is repeated. -/
theorem repeats_found :
    (∀ range items, FindsRepeats MetadataItem.key (·.name.range) .duplicateMetadataItem items
      (Metadata.create range items) fun m => m.range = range ∧ m.items = items ∧
        ∀ name item, m.get? name = some item ↔ item ∈ items ∧ item.key = name) ∧
    (∀ name arguments named,
      FindsRepeats KeywordArgument.key (·.name.range) .duplicateKeywordArgument named
        (Extension.create name arguments named) fun call =>
          call.name = name ∧ call.arguments = arguments ∧ call.named = named ∧
            ∀ name a, call.get? name = some a ↔ a ∈ named ∧ a.key = name) ∧
    ∀ (τ : Type) (statements : List (Statement τ)),
      (∀ names, Brings statements names ↔ names = statements.flatMap Statement.scopeNames) ∧
      FindsRepeats Identifier.name (·.range) .duplicateName
        (statements.flatMap Statement.scopeNames) (Build.checkUniqueNames statements)
        fun _ => True :=
  ⟨Metadata.create_findsRepeats, Extension.create_findsRepeats,
    fun _ statements => ⟨fun _ => ⟨Brings.eq, fun h => h ▸ brings_scopeNames statements⟩,
      Build.checkUniqueNames_findsRepeats statements⟩⟩

end Schemata
