import Schemata.Identifier
import Schemata.Expression

/-!
# Metadata blocks

A metadata block is a sequence of named literals. Names are compared without their markers, and no
two items of a block share one.

Results: `firstRepeat_eq_none_iff` (no repeat is found exactly if the keys are distinct),
`Metadata.create_eq_ok_iff` (what is accepted).
-/
namespace Schemata

/-- The first element of a list whose key an element before it has, behind the first such element.
`seen` are the elements already passed. -/
def firstRepeatFrom {α : Type} (key : α → String) (seen : List α) : List α → Option (α × α)
  | [] => none
  | a :: as =>
    match seen.find? (key · = key a) with
    | some first => some (first, a)
    | none => firstRepeatFrom key (seen ++ [a]) as

/-- The earliest element whose key occurred before, behind the first element with that key. -/
def firstRepeat {α : Type} (key : α → String) (as : List α) : Option (α × α) :=
  firstRepeatFrom key [] as

theorem firstRepeatFrom_eq_none_iff {α : Type} (key : α → String) (seen as : List α) :
    firstRepeatFrom key seen as = none ↔
      (as.map key).Nodup ∧ ∀ a ∈ as, ∀ b ∈ seen, key b ≠ key a := by
  induction as generalizing seen with
  | nil => simp [firstRepeatFrom]
  | cons a as ih =>
    rw [firstRepeatFrom]
    split
    · rename_i first h
      have hm := List.mem_of_find?_eq_some h
      have hk := List.find?_some h
      simp only [decide_eq_true_eq] at hk
      simp only [reduceCtorEq, false_iff, not_and]
      intro _ hall
      exact hall a (by simp) first hm hk
    · rename_i h
      rw [List.find?_eq_none] at h
      simp only [decide_eq_true_eq] at h
      rw [ih]
      simp only [List.map_cons, List.nodup_cons, List.mem_map, not_exists, not_and,
        List.mem_append, List.mem_cons, List.not_mem_nil, or_false, forall_eq_or_imp]
      constructor
      · rintro ⟨hd, hall⟩
        exact ⟨⟨fun x hx he => hall x hx a (.inr rfl) he.symm, hd⟩, h,
          fun x hx b hb => hall x hx b (.inl hb)⟩
      · rintro ⟨⟨hn, hd⟩, _, hall⟩
        refine ⟨hd, fun x hx b hb => ?_⟩
        rcases hb with hb | rfl
        · exact hall x hx b hb
        · exact fun he => hn x hx he.symm

/-- No repeat is found exactly if the keys are distinct. -/
theorem firstRepeat_eq_none_iff {α : Type} (key : α → String) (as : List α) :
    firstRepeat key as = none ↔ (as.map key).Nodup := by
  simp [firstRepeat, firstRepeatFrom_eq_none_iff]

/-- A named literal. -/
structure MetadataItem where
  /-- Where the item stands. -/
  range : Range
  name : Identifier
  value : Literal
  deriving Inhabited, BEq

/-- The name by which an item is found. -/
abbrev MetadataItem.key (item : MetadataItem) : String := item.name.name

/-- A block of named literals in the order of their declaration. -/
structure Metadata where
  /-- Where the block stands. -/
  range : Range
  items : List MetadataItem
  deriving Inhabited

namespace Metadata

/-- The block of the given items, which have distinct names. -/
def create (range : Range) (items : List MetadataItem) : Except Diagnostic Metadata :=
  match firstRepeat MetadataItem.key items with
  | none => .ok ⟨range, items⟩
  | some (first, again) =>
    .error ⟨.duplicateMetadataItem again.key, first.name.range, [again.name.range]⟩

theorem create_eq_ok_iff {range : Range} {items : List MetadataItem} {m : Metadata} :
    create range items = .ok m ↔
      (items.map MetadataItem.key).Nodup ∧ m = ⟨range, items⟩ := by
  unfold create
  rw [← firstRepeat_eq_none_iff]
  cases firstRepeat MetadataItem.key items <;> simp [eq_comm]

/-- The item of the given name. -/
def get? (m : Metadata) (name : String) : Option MetadataItem :=
  m.items.find? (·.key = name)

/-- The block without the item of the given name; the others keep their order. -/
def erase (m : Metadata) (name : String) : Metadata :=
  { m with items := m.items.eraseP (·.key = name) }

/-- The number of items. -/
def size (m : Metadata) : Nat := m.items.length

/-- A block has no item left. -/
def isEmpty (m : Metadata) : Bool := m.items.isEmpty

/-- The block, unless it has no item left. -/
def nonEmpty? (m : Metadata) : Option Metadata :=
  if m.isEmpty then none else some m

/-- Blocks are equal if they stand at the same range and hold equal items under the same names, in
whatever order. -/
def same (a b : Metadata) : Bool :=
  a.range == b.range && a.items.length == b.items.length &&
    a.items.all fun item => (b.get? item.key).any (item == ·)

instance : BEq Metadata := ⟨same⟩

end Metadata
end Schemata
