import Schemata.Proofs.Build.Acceptance
import Schemata.Proofs.Repeats

/-!
# What is left of a block

Reading a fundamental type takes the constraints of the type out of the block behind its name, and
nothing else: the other items stay as they are, in their order. A name that is not reserved takes
nothing out. As items are found by name, their order has no influence on what is read, nor on what
is refused and where.

**Results:**
* `Shuffled.takeItem`: the same item is taken out of a shuffled block, and a shuffled block is left.
* `Fundamental.ofConstraints_shuffled`: the same is read out of a shuffled block, or refused.
* `Fundamental.consumesExactly`: what is left of a block, for every name.
-/
namespace Schemata

/-! ## Blocks in another order -/

/-- Two blocks with distinct names have the same items, in whatever order. -/
inductive Shuffled : Option Metadata → Option Metadata → Prop where
  | none : Shuffled none none
  | some {range : Range} {items items' : List MetadataItem}
      (hdistinct : (items.map MetadataItem.key).Nodup) (h : items.Perm items') :
      Shuffled (some ⟨range, items⟩) (some ⟨range, items'⟩)

theorem find?_key_eq_of_perm {α : Type} {key : α → String} {as as' : List α}
    (hdistinct : (as.map key).Nodup) (h : as.Perm as') (k : String) :
    as.find? (key · = k) = as'.find? (key · = k) := by
  have hdistinct' : (as'.map key).Nodup := (h.map key).nodup_iff.1 hdistinct
  refine Option.ext fun a => ?_
  rw [find?_key_eq_some_iff hdistinct, find?_key_eq_some_iff hdistinct', h.mem_iff]

/-- The same item is taken out of a shuffled block, and a shuffled block is left. -/
theorem Shuffled.takeItem {m m' : Option Metadata} (h : Shuffled m m') (name : String) :
    ∃ item rest rest', Schemata.takeItem name m = (item, rest) ∧
      Schemata.takeItem name m' = (item, rest') ∧ Shuffled rest rest' := by
  cases h with
  | none => exact ⟨_, _, _, rfl, rfl, .none⟩
  | @some range items items' hdistinct h =>
    have hdistinct' : (items'.map MetadataItem.key).Nodup := (h.map _).nodup_iff.1 hdistinct
    have hitem : items'.find? (·.key = name) = items.find? (·.key = name) :=
      (find?_key_eq_of_perm hdistinct h name).symm
    refine ⟨_, _, _, rfl, Prod.ext hitem rfl, .some ?_ ?_⟩
    · exact hdistinct.sublist (List.eraseP_sublist.map _)
    · rw [eraseP_key_eq_filter hdistinct, eraseP_key_eq_filter hdistinct']
      exact h.filter _

/-! ## Reading in another order -/

theorem map_bind_congr {ε α β γ : Type} {x : Except ε α} {f f' : α → Except ε β} {g : β → γ}
    (h : ∀ a, (f a).map g = (f' a).map g) : (x >>= f).map g = (x >>= f').map g := by
  cases x with
  | ok a => exact h a
  | error e => rfl

namespace Fundamental

variable {m m' : Option Metadata}

theorem readInteger_shuffled (h : Shuffled m m') :
    (readInteger m).map Prod.fst = (readInteger m').map Prod.fst := by
  obtain ⟨minItem, m₁, m₁', h₁, h₁', hs₁⟩ := h.takeItem "min"
  obtain ⟨maxItem, m₂, m₂', h₂, h₂', hs₂⟩ := hs₁.takeItem "max"
  obtain ⟨bitsItem, m₃, m₃', h₃, h₃', -⟩ := hs₂.takeItem "bits"
  rw [readInteger, readInteger, h₁, h₁']
  refine map_bind_congr fun min => ?_
  rw [h₂, h₂']
  refine map_bind_congr fun max => map_bind_congr fun _ => ?_
  rw [h₃, h₃']
  exact map_bind_congr fun bits => rfl

theorem readNumber_shuffled (h : Shuffled m m') :
    (readNumber m).map Prod.fst = (readNumber m').map Prod.fst := by
  obtain ⟨minItem, m₁, m₁', h₁, h₁', hs₁⟩ := h.takeItem "min"
  obtain ⟨maxItem, m₂, m₂', h₂, h₂', hs₂⟩ := hs₁.takeItem "max"
  obtain ⟨bitsItem, m₃, m₃', h₃, h₃', -⟩ := hs₂.takeItem "bits"
  rw [readNumber, readNumber, h₁, h₁']
  refine map_bind_congr fun min => ?_
  rw [h₂, h₂']
  refine map_bind_congr fun max => map_bind_congr fun _ => ?_
  rw [h₃, h₃']
  exact map_bind_congr fun bits => rfl

theorem readString_shuffled (h : Shuffled m m') :
    (readString m).map Prod.fst = (readString m').map Prod.fst := by
  obtain ⟨minItem, m₁, m₁', h₁, h₁', hs₁⟩ := h.takeItem "min_length"
  obtain ⟨maxItem, m₂, m₂', h₂, h₂', hs₂⟩ := hs₁.takeItem "max_length"
  obtain ⟨patternItem, m₃, m₃', h₃, h₃', -⟩ := hs₂.takeItem "pattern"
  rw [readString, readString, h₁, h₁']
  refine map_bind_congr fun min => ?_
  rw [h₂, h₂']
  refine map_bind_congr fun max => map_bind_congr fun _ => ?_
  rw [h₃, h₃']
  exact map_bind_congr fun pattern => rfl

theorem readDirectory_shuffled (h : Shuffled m m') :
    (readDirectory m).map Prod.fst = (readDirectory m').map Prod.fst := by
  obtain ⟨item, m₁, m₁', h₁, h₁', -⟩ := h.takeItem "ensure_exists"
  rw [readDirectory, readDirectory, h₁, h₁']
  exact map_bind_congr fun ensureExists => rfl

theorem readFilename_shuffled (h : Shuffled m m') :
    (readFilename m).map Prod.fst = (readFilename m').map Prod.fst := by
  obtain ⟨existsItem, m₁, m₁', h₁, h₁', hs₁⟩ := h.takeItem "ensure_exists"
  obtain ⟨anyItem, m₂, m₂', h₂, h₂', -⟩ := hs₁.takeItem "match_any"
  rw [readFilename, readFilename, h₁, h₁']
  refine map_bind_congr fun ensureExists => ?_
  rw [h₂, h₂']
  exact map_bind_congr fun matchAny => rfl

theorem map_some_eq {x x' : Except Diagnostic (Fundamental × Option Metadata)}
    (h : x.map Prod.fst = x'.map Prod.fst) :
    (x.map some).map (Option.map Prod.fst) = (x'.map some).map (Option.map Prod.fst) := by
  have hsome : ∀ y : Except Diagnostic (Fundamental × Option Metadata),
      (y.map some).map (Option.map Prod.fst) = (y.map Prod.fst).map some := by
    intro y
    cases y <;> rfl
  rw [hsome, hsome, h]

/-- The same type is read out of a shuffled block, or it is refused with the same diagnostic. -/
theorem ofConstraints_shuffled (name : String) (h : Shuffled m m') :
    (ofConstraints name m).map (Option.map Prod.fst) =
      (ofConstraints name m').map (Option.map Prod.fst) := by
  by_cases hname : name ∈ reservedNames
  · fun_cases ofConstraints name m
    case case2 => exact map_some_eq (readInteger_shuffled h)
    case case3 => exact map_some_eq (readNumber_shuffled h)
    case case4 => exact map_some_eq (readString_shuffled h)
    case case9 => exact map_some_eq (readDirectory_shuffled h)
    case case10 => exact map_some_eq (readFilename_shuffled h)
    case case13 => simp_all [reservedNames]
    all_goals rfl
  · rw [ofConstraints_eq_none_iff.2 hname, ofConstraints_eq_none_iff.2 hname]

/-! ## What is left -/

/-- What reading the type of a name does to the block behind the name. If the name is that of no
fundamental type, the block is that of the reference that is built, as it was. If a type is read,
its constraints are gone, and the other items are left in their order. The order of the items has no
influence on what is read or refused. -/
structure ConsumesExactly (name : String) (m : Option Metadata) : Prop where
  unread : ofConstraints name m = .ok none → name ∉ reservedNames ∧
    ∀ id range c (i : Identifier), i.value = name → i.isType = true →
      Build.reference id range c m ⟨[i], false, false⟩ =
        .ok (.reference ⟨id, range, c, m.bind Metadata.nonEmpty?⟩ ⟨[i], false, false⟩)
  read : ∀ type rest, ofConstraints name m = .ok (some (type, rest)) →
    rest = m.map fun block =>
      { block with items := block.items.filter (·.key ∉ constraintNames name) }
  order : ∀ m', Shuffled m m' → (ofConstraints name m').map (Option.map Prod.fst) =
    (ofConstraints name m).map (Option.map Prod.fst)

theorem leftBy_eq (names : List String)
    (hm : ∀ block ∈ m, (block.items.map MetadataItem.key).Nodup) :
    leftBy names m = m.map fun block =>
      { block with items := block.items.filter (·.key ∉ names) } := by
  cases m with
  | none => exact leftBy_none names
  | some block => exact leftBy_some names (hm block rfl)

/-- The constraints of the type of a name are taken out of a block, and nothing else, whatever the
name and the order of the items, if no two items of the block share a name. -/
theorem consumesExactly (name : String)
    (hm : ∀ block ∈ m, (block.items.map MetadataItem.key).Nodup) : ConsumesExactly name m where
  unread h := by
    refine ⟨ofConstraints_eq_none_iff.1 h, ?_⟩
    rintro id range c i rfl htype
    rw [Build.reference_plain_eq id range c m htype, h]
    rfl
  read type rest h := by
    have hread : ReadFrom name m (type, rest) := (accepts_ofConstraints name m).of_ok _ h
    rw [← leftBy_eq (constraintNames name) hm]
    exact hread.rest
  order m' h := (ofConstraints_shuffled name h).symm

/-- Two constraints of an integer among other items. -/
def notedBounds : Metadata :=
  let item (name : String) (value : Literal) : MetadataItem :=
    ⟨default, ⟨default, "", name, .isPublic⟩, value⟩
  ⟨default, [item "note" (.string default "n"), item "max" (.integer default 9),
    item "unit" (.string default "kg"), item "min" (.integer default 1)]⟩

theorem consumesExactly_notedBounds :
    (∀ block ∈ some notedBounds, (block.items.map MetadataItem.key).Nodup) ∧
      (∃ rest, ofConstraints "Integer" (some notedBounds) =
        .ok (some (.integer (some 1) (some 9) none, some rest)) ∧
        rest.items.map MetadataItem.key = ["note", "unit"]) ∧
      ConsumesExactly "Integer" (some notedBounds) := by
  have hm : ∀ block ∈ some notedBounds, (block.items.map MetadataItem.key).Nodup := by
    rintro _ ⟨⟩
    decide
  exact ⟨hm, ⟨_, rfl, rfl⟩, consumesExactly "Integer" hm⟩

end Fundamental
end Schemata
