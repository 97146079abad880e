import Schemata.Proofs.Build.WellFormed
import Schemata.Fundamental.Constraints
import Schemata.Outcome

/-!
# Which constraints are read

A fundamental type is read out of a block exactly if the constraints that the block says hold
together. Every constraint is taken out of what the ones before it left over; as no two of them have
the same name, each finds what the block said at the start.

**Results:**
* `accepts_ofConstraints`: the type of a name is read out of a block exactly if the constraints of
  that name hold together; it has the constraints that the block says, and the other items are left.
* `ofConstraints_eq_none_iff`: no type is read exactly if the name is not reserved.
* `leftBy_some`: taking items out of a block leaves the others as they were.
-/
namespace Schemata

/-- What an optional block says. -/
def Metadata.terms (m : Option Metadata) : Terms := fun name =>
  (m.bind (·.get? name)).map (·.value.shape)

/-- The literal of an item. -/
def MetadataItem.said (item : Option MetadataItem) : Option (Expression Unit) :=
  item.map (·.value.shape)

/-! ## Taking items out -/

theorem said_takeItem (name : String) (m : Option Metadata) :
    MetadataItem.said (takeItem name m).1 = Metadata.terms m name := by
  cases m <;> rfl

theorem find?_eraseP_of_ne {name other : String} (h : other ≠ name) (items : List MetadataItem) :
    (items.eraseP (·.key = name)).find? (·.key = other) = items.find? (·.key = other) := by
  induction items with
  | nil => rfl
  | cons item items ih =>
    rw [List.eraseP_cons]
    by_cases hn : item.key = name
    · have ho : item.key ≠ other := fun ho => h (ho.symm.trans hn)
      simp [hn, h.symm]
    · simp only [hn, decide_false, cond_false, List.find?_cons, ih]

/-- What is left of a block says the same under every other name. -/
theorem terms_takeItem {name other : String} (h : other ≠ name) (m : Option Metadata) :
    Metadata.terms (takeItem name m).2 other = Metadata.terms m other := by
  cases m with
  | none => rfl
  | some m =>
    show ((m.erase name).get? other).map _ = (m.get? other).map _
    rw [Metadata.get?, Metadata.erase, find?_eraseP_of_ne h, Metadata.get?]

/-- What is left of a block when the items of the names are taken out, one after the other. -/
def leftBy (names : List String) (m : Option Metadata) : Option Metadata :=
  names.foldl (fun m name => (takeItem name m).2) m

theorem eraseP_key_eq_filter {items : List MetadataItem}
    (h : (items.map MetadataItem.key).Nodup) (name : String) :
    items.eraseP (·.key = name) = items.filter (·.key ≠ name) := by
  induction items with
  | nil => rfl
  | cons item items ih =>
    rw [List.map_cons, List.nodup_cons] at h
    rw [List.eraseP_cons]
    by_cases hn : item.key = name
    · have hrest : items.filter (·.key ≠ name) = items := by
        refine List.filter_eq_self.2 fun other ho => decide_eq_true fun he => h.1 ?_
        rw [hn, ← he]
        exact List.mem_map_of_mem ho
      simpa [hn] using hrest.symm
    · simp [hn, ih h.2]

theorem leftBy_none (names : List String) : leftBy names none = none := by
  induction names with
  | nil => rfl
  | cons name names ih => exact ih

/-- Taking items out of a block leaves the others as they were, as no two share a name. -/
theorem leftBy_some (names : List String) {block : Metadata}
    (h : (block.items.map MetadataItem.key).Nodup) :
    leftBy names (some block) =
      some { block with items := block.items.filter (·.key ∉ names) } := by
  induction names generalizing block with
  | nil =>
    have hall : block.items.filter (·.key ∉ []) = block.items :=
      List.filter_eq_self.2 fun _ _ => by simp
    rw [hall]
    rfl
  | cons name names ih =>
    have he : block.erase name = { block with items := block.items.filter (·.key ≠ name) } := by
      rw [Metadata.erase, eraseP_key_eq_filter h]
    have hd : ((block.erase name).items.map MetadataItem.key).Nodup := by
      rw [he]
      exact h.sublist (List.filter_sublist.map _)
    show leftBy names (some (block.erase name)) = _
    rw [ih hd, he, List.filter_filter]
    simp [Bool.and_comm]

/-! ## Reading values -/

/-- What is said and what is read belong together, or there is neither. -/
inductive Stands {α : Type} (Reads : Expression Unit → α → Prop) :
    Option (Expression Unit) → Option α → Prop where
  | none : Stands Reads none none
  | some {e : Expression Unit} {a : α} (h : Reads e a) : Stands Reads (some e) (some a)

/-- A literal stands for the length or the width: it is an integer, and that is not negative. -/
def IsCount (e : Expression Unit) (n : Nat) : Prop :=
  ∃ value, e = .integer () value ∧ 0 ≤ value.toInt ∧ n = value.toInt.toNat

/-- The type has the constraints that a block says, and no other ones. A text has at least one
character unless its length is said, and a switch is off unless it is said. -/
inductive Fundamental.SaidBy (terms : Terms) : Fundamental → Prop where
  | boolean : SaidBy terms .boolean
  | integer {min max : Option Int64} {bits : Option Nat}
      (hmin : Stands (fun e value => e = .integer () value) (terms "min") min)
      (hmax : Stands (fun e value => e = .integer () value) (terms "max") max)
      (hbits : Stands IsCount (terms "bits") bits) : SaidBy terms (.integer min max bits)
  | number {min max : Option Float} {bits : Option Nat} (hmin : Stands IsNumber (terms "min") min)
      (hmax : Stands IsNumber (terms "max") max) (hbits : Stands IsCount (terms "bits") bits) :
      SaidBy terms (.number min max bits)
  | string {least most : Option Nat} {pattern : Option Pattern}
      (hmin : Stands IsCount (terms "min_length") least)
      (hmax : Stands IsCount (terms "max_length") most)
      (hpattern : Stands (fun e p => ∃ source, e = .string () source ∧
        Pattern.compile source = some p) (terms "pattern") pattern) :
      SaidBy terms (.string (least.getD 1) most pattern)
  | date : SaidBy terms .date
  | dateTime : SaidBy terms .dateTime
  | time : SaidBy terms .time
  | duration : SaidBy terms .duration
  | directory {ensureExists : Option Bool}
      (h : Stands (fun e on => e = .boolean () on) (terms "ensure_exists") ensureExists) :
      SaidBy terms (.directory (ensureExists.getD false))
  | filename {ensureExists matchAny : Option Bool}
      (hexists : Stands (fun e on => e = .boolean () on) (terms "ensure_exists") ensureExists)
      (hany : Stands (fun e on => e = .boolean () on) (terms "match_any") matchAny) :
      SaidBy terms (.filename (ensureExists.getD false) (matchAny.getD false))
  | guid : SaidBy terms .guid
  | uri : SaidBy terms .uri

/-- The names of the items that are constraints of the type of the name. -/
def constraintNames : String → List String
  | "Integer" | "Number" => ["min", "max", "bits"]
  | "String" => ["min_length", "max_length", "pattern"]
  | "Directory" => ["ensure_exists"]
  | "Filename" => ["ensure_exists", "match_any"]
  | _ => []

theorem Stands.imp {α : Type} {R R' : Expression Unit → α → Prop} (hR : ∀ e a, R e a → R' e a)
    {e : Option (Expression Unit)} {a : Option α} (h : Stands R e a) : Stands R' e a := by
  cases h with
  | none => exact .none
  | some h => exact .some (hR _ _ h)

theorem IsNumber.eq {e : Expression Unit} {x y : Float} (hx : IsNumber e x) (hy : IsNumber e y) :
    x = y := by
  cases hx <;> cases hy <;> rfl

namespace Constraint
variable {α : Type} {Reads : Expression Unit → α → Prop} {typeName name expected : String}

/-- A constraint is read exactly if its literal is of the right kind. -/
theorem accepts_read {value? : Literal → Option α}
    (hv : ∀ l a, value? l = some a ↔ Reads l.shape a) (item : Option MetadataItem) :
    Accepts (read typeName name expected value? item)
      (∀ e, MetadataItem.said item = some e → ∃ a, Reads e a)
      (Stands Reads (MetadataItem.said item)) := by
  cases item with
  | none => exact accepts_ok (by simp [MetadataItem.said]) .none
  | some item =>
    have hp : (∀ e, MetadataItem.said (some item) = some e → ∃ a, Reads e a) ↔
        ∃ a, value? item.value = some a := by
      simp [MetadataItem.said, hv]
    cases ha : value? item.value with
    | none =>
      rw [read, ha]
      exact accepts_error (by simp [hp, ha])
    | some a =>
      rw [read, ha]
      exact accepts_ok (by simp [hp, ha]) (.some ((hv _ a).1 ha))

theorem asInteger?_eq_some_iff (l : Literal) (a : Int64) :
    l.asInteger? = some a ↔ l.shape = .integer () a := by
  cases l <;> simp [Expression.asInteger?, Expression.shape]

theorem asString?_eq_some_iff (l : Literal) (s : String) :
    l.asString? = some s ↔ l.shape = .string () s := by
  cases l <;> simp [Expression.asString?, Expression.shape]

theorem asBoolean?_eq_some_iff (l : Literal) (b : Bool) :
    asBoolean? l = some b ↔ l.shape = .boolean () b := by
  cases l <;> simp [asBoolean?, Expression.shape]

theorem asNumber?_eq_some_iff (l : Literal) (x : Float) :
    asNumber? l = some x ↔ IsNumber l.shape x := by
  constructor
  · intro h
    cases l with
    | integer _ value =>
      obtain rfl := Option.some.inj h
      exact .integer value
    | number _ value =>
      obtain rfl := Option.some.inj h
      exact .number value
    | _ => cases h
  · intro h
    cases l with
    | integer | number => cases h; rfl
    | _ => cases h

theorem accepts_integer (item : Option MetadataItem) :
    Accepts (integer typeName name item)
      (∀ e, MetadataItem.said item = some e → ∃ value, e = .integer () value)
      (Stands (fun e value => e = .integer () value) (MetadataItem.said item)) :=
  accepts_read asInteger?_eq_some_iff item

theorem accepts_number (item : Option MetadataItem) :
    Accepts (number typeName name item)
      (∀ e, MetadataItem.said item = some e → ∃ value, IsNumber e value)
      (Stands IsNumber (MetadataItem.said item)) :=
  accepts_read asNumber?_eq_some_iff item

theorem accepts_switch (item : Option MetadataItem) :
    Accepts (switch typeName name item)
      (∀ e, MetadataItem.said item = some e → ∃ value, e = .boolean () value)
      fun on => ∃ read, on = read.getD false ∧
        Stands (fun e on => e = .boolean () on) (MetadataItem.said item) read :=
  (accepts_read asBoolean?_eq_some_iff item).bind_pure fun read h => ⟨read, rfl, h⟩

/-- A constraint of which more is asked than the right kind of literal. -/
theorem accepts_refined {β : Type} {Fits : α → β → Prop} {x : Except Diagnostic (Option α)}
    {item : Option MetadataItem} {f : Option α → Except Diagnostic (Option β)}
    (hx : Accepts x (∀ e, MetadataItem.said item = some e → ∃ a, Reads e a)
      (Stands Reads (MetadataItem.said item)))
    (hr : ∀ e a b, Reads e a → Reads e b → a = b) (hnone : item = none → f none = .ok none)
    (hsome : ∀ a i, item = some i →
      Accepts (f (some a)) (∃ b, Fits a b) fun read => ∃ b, read = some b ∧ Fits a b) :
    Accepts (x >>= f)
      (∀ e, MetadataItem.said item = some e → ∃ a, Reads e a ∧ ∃ b, Fits a b)
      (Stands (fun e b => ∃ a, Reads e a ∧ Fits a b) (MetadataItem.said item)) := by
  cases item with
  | none =>
    refine (hx.bind (q := True) fun read hread => ?_).congr (by simp [MetadataItem.said])
    cases hread
    rw [hnone rfl]
    exact accepts_ok trivial .none
  | some i =>
    simp only [MetadataItem.said, Option.map_some, Option.some.injEq, forall_eq'] at hx ⊢
    refine (hx.bind (q := ∀ a, Reads i.value.shape a → ∃ b, Fits a b) fun read hread => ?_).congr ?_
    · cases hread with
      | @some _ a ha =>
        refine ((hsome a i rfl).congr ?_).imp ?_
        · exact ⟨fun h a' ha' => hr _ _ _ ha ha' ▸ h, fun h => h a ha⟩
        · rintro _ ⟨b, rfl, hb⟩
          exact .some ⟨a, ha, hb⟩
    · exact ⟨fun ⟨⟨a, ha⟩, h⟩ => ⟨a, ha, h a ha⟩,
        fun ⟨a, ha, h⟩ => ⟨⟨a, ha⟩, fun a' ha' => hr _ _ _ ha ha' ▸ h⟩⟩

/-- The number of an integer literal is a length. -/
def IsLength (value : Int64) (n : Nat) : Prop := 0 ≤ value.toInt ∧ n = value.toInt.toNat

theorem accepts_length (item : Option MetadataItem) :
    Accepts (length typeName name item)
      (∀ e, MetadataItem.said item = some e →
        ∃ value, e = .integer () value ∧ ∃ n, IsLength value n)
      (Stands IsCount (MetadataItem.said item)) := by
  refine accepts_refined (accepts_integer item) ?_ ?_ ?_
  · rintro e a b rfl hb
    simpa using hb
  · rintro rfl
    rfl
  · rintro value i rfl
    show Accepts (if value.toInt < 0 then _ else _) _ _
    by_cases h : value.toInt < 0
    · rw [if_pos h]
      exact accepts_error (by simp [IsLength]; omega)
    · rw [if_neg h]
      have hn : IsLength value value.toInt.toNat := ⟨by omega, rfl⟩
      exact accepts_ok (by simp [Exists.intro _ hn]) ⟨_, rfl, hn⟩

/-- The number of an integer literal is one of the numbers of bits. -/
def IsBits (supported : Int → Bool) (value : Int64) (n : Nat) : Prop :=
  supported value.toInt = true ∧ n = value.toInt.toNat

theorem accepts_bits {supported : Int → Bool} (hs : ∀ n, supported n = true → 0 ≤ n)
    (item : Option MetadataItem) :
    Accepts (bits typeName supported item)
      (∀ e, MetadataItem.said item = some e →
        ∃ value, e = .integer () value ∧ supported value.toInt = true)
      (Stands IsCount (MetadataItem.said item)) := by
  have hbits : Accepts (bits typeName supported item)
      (∀ e, MetadataItem.said item = some e →
        ∃ value, e = .integer () value ∧ ∃ n, IsBits supported value n)
      (Stands (fun e n => ∃ value, e = .integer () value ∧ IsBits supported value n)
        (MetadataItem.said item)) := by
    refine accepts_refined (accepts_integer item) ?_ ?_ ?_
    · rintro e a b rfl hb
      simpa using hb
    · rintro rfl
      rfl
    · rintro value i rfl
      show Accepts (if supported value.toInt = true then _ else _) _ _
      by_cases h : supported value.toInt = true
      · rw [if_pos h]
        exact accepts_ok ⟨_, h, rfl⟩ ⟨_, rfl, h, rfl⟩
      · rw [if_neg h]
        exact accepts_error (by simp [IsBits, h])
  refine (hbits.congr (by simp [IsBits])).imp fun _ h => h.imp ?_
  rintro e n ⟨value, he, hsupported, hn⟩
  exact ⟨value, he, hs _ hsupported, hn⟩

theorem accepts_pattern (item : Option MetadataItem) :
    Accepts (pattern typeName name item)
      (∀ e, MetadataItem.said item = some e →
        ∃ source, e = .string () source ∧ ∃ p, Pattern.compile source = some p)
      (Stands (fun e p => ∃ source, e = .string () source ∧ Pattern.compile source = some p)
        (MetadataItem.said item)) := by
  refine accepts_refined (accepts_read asString?_eq_some_iff item) ?_ ?_ ?_
  · rintro e a b ha hb
    simpa [ha] using hb
  · rintro rfl
    rfl
  · rintro source i rfl
    dsimp only
    cases h : Pattern.compile source with
    | none => exact accepts_error (by simp)
    | some p => exact accepts_ok (by simp) ⟨p, rfl, rfl⟩

theorem accepts_ordered {lower upper : String} {below : Bool} (item : Option MetadataItem) :
    Accepts (ordered typeName lower upper item below)
      ((∃ e, MetadataItem.said item = some e) → below = false) fun _ => True := by
  cases item with
  | none => exact accepts_ok (by simp [MetadataItem.said]) trivial
  | some i =>
    cases below with
    | true => exact accepts_error (by simp [MetadataItem.said])
    | false => exact accepts_ok (by simp) trivial

section Ordered

variable {lower upper : Option (Expression Unit)}

theorem integers_ordered_iff {min max : Option Int64}
    (hmin : Stands (fun e value => e = .integer () value) lower min)
    (hmax : Stands (fun e value => e = .integer () value) upper max) :
    ((∃ e, upper = some e) → isBelow (fun a b : Int64 => decide (a < b)) max min = false) ↔
      ∀ a b, lower = some (.integer () a) → upper = some (.integer () b) → a.toInt ≤ b.toInt := by
  cases hmin with
  | none => simp [isBelow]
  | some hmin =>
    cases hmax with
    | none => simp
    | some hmax =>
      subst hmin hmax
      simp [isBelow, Int64.lt_iff_toInt_lt]

theorem numbers_ordered_iff {min max : Option Float} (hmin : Stands IsNumber lower min)
    (hmax : Stands IsNumber upper max) :
    ((∃ e, upper = some e) → isBelow (fun a b : Float => decide (a < b)) max min = false) ↔
      ∀ e a e' b, lower = some e → IsNumber e a → upper = some e' → IsNumber e' b → ¬ b < a := by
  cases hmin with
  | none => simp [isBelow]
  | @some e a ha =>
    cases hmax with
    | none => simp
    | @some e' b hb =>
      simp only [isBelow, decide_eq_false_iff_not, Option.some.injEq, exists_eq', forall_const]
      constructor
      · rintro h _ a' _ b' rfl ha' rfl hb'
        rw [ha'.eq ha, hb'.eq hb]
        exact h
      · exact fun h => h e a e' b rfl ha rfl hb

theorem lengths_ordered_iff {min max : Option Nat}
    (hmin : Stands IsCount lower min) (hmax : Stands IsCount upper max) :
    ((∃ e, upper = some e) →
        isBelow (fun a b : Nat => decide (a < b)) max (some (min.getD 1)) = false) ↔
      ∀ b, upper = some (.integer () b) → (lower = none → 1 ≤ b.toInt) ∧
        ∀ a, lower = some (.integer () a) → a.toInt ≤ b.toInt := by
  cases hmax with
  | none => simp
  | some hmax =>
    obtain ⟨b, rfl, hb, rfl⟩ := hmax
    cases hmin with
    | none =>
      have h : ¬ b.toInt.toNat < 1 ↔ 1 ≤ b.toInt := by omega
      simpa only [isBelow, Option.getD_none, decide_eq_false_iff_not, Option.some.injEq,
        Expression.integer.injEq, true_and, forall_eq', reduceCtorEq, false_implies, implies_true,
        and_true, exists_eq', forall_const] using h
    | some hmin =>
      obtain ⟨a, rfl, ha, rfl⟩ := hmin
      have h : (a.toInt.toNat ≤ b.toInt.toNat) ↔ a.toInt ≤ b.toInt := by omega
      simpa [isBelow] using h

end Ordered

end Constraint

/-! ## Reading types -/

namespace Fundamental
open Constraint

/-- What is taken out of a block is what it says under the name, and the rest says the same under
every other name. -/
theorem takeItem_says {name : String} {m rest : Option Metadata} {item : Option MetadataItem}
    (h : takeItem name m = (item, rest)) :
    MetadataItem.said item = Metadata.terms m name ∧
      ∀ other, other ≠ name → Metadata.terms rest other = Metadata.terms m other := by
  have hs := said_takeItem name m
  have hr : ∀ other, other ≠ name → _ = _ := fun other ho => terms_takeItem ho m
  rw [h] at hs
  rw [h] at hr
  exact ⟨hs, hr⟩

/-- The type of the name, read out of a block, and what is left of the block. -/
structure ReadFrom (name : String) (m : Option Metadata) (found : Fundamental × Option Metadata) :
    Prop where
  said : found.1.SaidBy (Metadata.terms m)
  rest : found.2 = leftBy (constraintNames name) m
  name_eq : found.1.name = name

theorem accepts_readInteger (m : Option Metadata) :
    Accepts (readInteger m) (IntegerTerms (Metadata.terms m)) (ReadFrom "Integer" m) := by
  rw [integerTerms_iff, readInteger]
  rcases h₁ : takeItem "min" m with ⟨minItem, m₁⟩
  rcases h₂ : takeItem "max" m₁ with ⟨maxItem, m₂⟩
  rcases h₃ : takeItem "bits" m₂ with ⟨bitsItem, m₃⟩
  have hrest : m₃ = leftBy (constraintNames "Integer") m := by
    simp [leftBy, constraintNames, h₁, h₂, h₃]
  obtain ⟨s₁, r₁⟩ := takeItem_says h₁
  obtain ⟨s₂, r₂⟩ := takeItem_says h₂
  obtain ⟨s₃, -⟩ := takeItem_says h₃
  rw [r₁ _ (by simp)] at s₂
  rw [r₂ _ (by simp), r₁ _ (by simp)] at s₃
  rw [← s₁, ← s₂, ← s₃]
  refine (accepts_integer minItem).bind fun min hmin => ?_
  rw [h₂]
  refine (accepts_integer maxItem).bind fun max hmax => ?_
  refine ((accepts_ordered maxItem).congr ?_).bind fun _ _ => ?_
  · exact integers_ordered_iff hmin hmax
  · rw [h₃]
    refine ((accepts_bits ?_ bitsItem).congr (by simp)).bind_pure fun bits hbits =>
      ⟨.integer (s₁ ▸ hmin) (s₂ ▸ hmax) (s₃ ▸ hbits), hrest, rfl⟩
    intro n hn
    have := of_decide_eq_true hn
    omega

theorem accepts_readNumber (m : Option Metadata) :
    Accepts (readNumber m) (NumberTerms (Metadata.terms m)) (ReadFrom "Number" m) := by
  rw [numberTerms_iff, readNumber]
  rcases h₁ : takeItem "min" m with ⟨minItem, m₁⟩
  rcases h₂ : takeItem "max" m₁ with ⟨maxItem, m₂⟩
  rcases h₃ : takeItem "bits" m₂ with ⟨bitsItem, m₃⟩
  have hrest : m₃ = leftBy (constraintNames "Number") m := by
    simp [leftBy, constraintNames, h₁, h₂, h₃]
  obtain ⟨s₁, r₁⟩ := takeItem_says h₁
  obtain ⟨s₂, r₂⟩ := takeItem_says h₂
  obtain ⟨s₃, -⟩ := takeItem_says h₃
  rw [r₁ _ (by simp)] at s₂
  rw [r₂ _ (by simp), r₁ _ (by simp)] at s₃
  rw [← s₁, ← s₂, ← s₃]
  refine (accepts_number minItem).bind fun min hmin => ?_
  rw [h₂]
  refine (accepts_number maxItem).bind fun max hmax => ?_
  refine ((accepts_ordered maxItem).congr ?_).bind fun _ _ => ?_
  · exact numbers_ordered_iff hmin hmax
  · rw [h₃]
    refine ((accepts_bits ?_ bitsItem).congr (by simp [or_assoc])).bind_pure fun bits hbits =>
      ⟨.number (s₁ ▸ hmin) (s₂ ▸ hmax) (s₃ ▸ hbits), hrest, rfl⟩
    intro n hn
    simp only [Bool.or_eq_true, beq_iff_eq] at hn
    omega

theorem accepts_readString (m : Option Metadata) :
    Accepts (readString m) (StringTerms (Metadata.terms m)) (ReadFrom "String" m) := by
  rw [stringTerms_iff, readString]
  rcases h₁ : takeItem "min_length" m with ⟨minItem, m₁⟩
  rcases h₂ : takeItem "max_length" m₁ with ⟨maxItem, m₂⟩
  rcases h₃ : takeItem "pattern" m₂ with ⟨patternItem, m₃⟩
  have hrest : m₃ = leftBy (constraintNames "String") m := by
    simp [leftBy, constraintNames, h₁, h₂, h₃]
  obtain ⟨s₁, r₁⟩ := takeItem_says h₁
  obtain ⟨s₂, r₂⟩ := takeItem_says h₂
  obtain ⟨s₃, -⟩ := takeItem_says h₃
  rw [r₁ _ (by simp)] at s₂
  rw [r₂ _ (by simp), r₁ _ (by simp)] at s₃
  rw [← s₁, ← s₂, ← s₃]
  refine ((accepts_length minItem).congr (by simp [IsLength])).bind fun min hmin => ?_
  rw [h₂]
  refine ((accepts_length maxItem).congr (by simp [IsLength])).bind fun max hmax => ?_
  refine ((accepts_ordered maxItem).congr ?_).bind fun _ _ => ?_
  · exact lengths_ordered_iff hmin hmax
  · rw [h₃]
    refine ((accepts_pattern patternItem).congr ?_).bind_pure fun pattern hpattern =>
      ⟨.string (s₁ ▸ hmin) (s₂ ▸ hmax) (s₃ ▸ hpattern), hrest, rfl⟩
    simp [Option.isSome_iff_exists]

theorem accepts_readDirectory (m : Option Metadata) :
    Accepts (readDirectory m) (IsSwitch (Metadata.terms m) "ensure_exists")
      (ReadFrom "Directory" m) := by
  rw [readDirectory, IsSwitch]
  rcases h₁ : takeItem "ensure_exists" m with ⟨item, m₁⟩
  have hrest : m₁ = leftBy (constraintNames "Directory") m := by
    simp [leftBy, constraintNames, h₁]
  obtain ⟨s₁, -⟩ := takeItem_says h₁
  rw [← s₁]
  refine (accepts_switch item).bind_pure fun on hon => ?_
  obtain ⟨read, rfl, hread⟩ := hon
  exact ⟨.directory (s₁ ▸ hread), hrest, rfl⟩

theorem accepts_readFilename (m : Option Metadata) :
    Accepts (readFilename m)
      (IsSwitch (Metadata.terms m) "ensure_exists" ∧ IsSwitch (Metadata.terms m) "match_any")
      (ReadFrom "Filename" m) := by
  rw [readFilename, IsSwitch, IsSwitch]
  rcases h₁ : takeItem "ensure_exists" m with ⟨existsItem, m₁⟩
  rcases h₂ : takeItem "match_any" m₁ with ⟨anyItem, m₂⟩
  have hrest : m₂ = leftBy (constraintNames "Filename") m := by
    simp [leftBy, constraintNames, h₁, h₂]
  obtain ⟨s₁, r₁⟩ := takeItem_says h₁
  obtain ⟨s₂, -⟩ := takeItem_says h₂
  rw [r₁ _ (by simp)] at s₂
  rw [← s₁, ← s₂]
  refine (accepts_switch existsItem).bind fun ensureExists hexists => ?_
  rw [h₂]
  refine (accepts_switch anyItem).bind_pure fun matchAny hany => ?_
  obtain ⟨_, rfl, hexists⟩ := hexists
  obtain ⟨_, rfl, hany⟩ := hany
  exact ⟨.filename (s₁ ▸ hexists) (s₂ ▸ hany), hrest, rfl⟩

/-- What is found by a name: the type of the name, or nothing if it is not reserved. -/
def Found (name : String) (m : Option Metadata) : Option (Fundamental × Option Metadata) → Prop
  | some found => ReadFrom name m found
  | none => name ∉ reservedNames

/-- The type of a name is read out of a block exactly if the constraints of that name hold
together. -/
theorem accepts_ofConstraints (name : String) (m : Option Metadata) :
    Accepts (ofConstraints name m) (ConstraintsHold name (Metadata.terms m)) (Found name m) := by
  fun_cases ofConstraints name m
  case case2 => exact (accepts_readInteger m).map fun _ h => h
  case case3 => exact (accepts_readNumber m).map fun _ h => h
  case case4 => exact (accepts_readString m).map fun _ h => h
  case case9 => exact (accepts_readDirectory m).map fun _ h => h
  case case10 => exact (accepts_readFilename m).map fun _ h => h
  case case13 =>
    refine accepts_ok ?_ ?_
    · simp_all [ConstraintsHold]
    · simp_all [Found, reservedNames]
  all_goals exact accepts_ok trivial ⟨by constructor, rfl, rfl⟩

/-- Exactly the names that are not reserved are those of no fundamental type. -/
theorem ofConstraints_eq_none_iff {name : String} {m : Option Metadata} :
    ofConstraints name m = .ok none ↔ name ∉ reservedNames := by
  constructor
  · exact (accepts_ofConstraints name m).of_ok none
  · intro hn
    fun_cases ofConstraints name m
    case case13 => rfl
    all_goals exact absurd (by simp [reservedNames]) hn

end Fundamental
end Schemata
