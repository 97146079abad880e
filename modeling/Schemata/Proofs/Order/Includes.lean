import Schemata.Proofs.Table.Binding

/-!
# Includes in any order

The includes of a file are bound one after the other, and a name that is taken over twice is a clash
at the second place. Whether there is a clash at all does not depend on the order: there is none
exactly if what all includes bind together is compatible.

**Results:**
* `Table.bindIncludes_eq_none_iff`: on which condition the includes of a file are bound.
-/
namespace Schemata
namespace Table

/-- The bindings of a file are compatible: a name of a type of the file is bound to that type, and
any other name to one definition only. -/
structure Compatible (t : Table) (file : Nat) (B : Import → Prop) : Prop where
  own : ∀ b d, B b → t.typeIn? ⟨file, []⟩ b.name = some d → d.address = b.target
  same : ∀ b c, B b → B c → b.name = c.name → t.typeIn? ⟨file, []⟩ b.name = none →
    b.target = c.target

variable {t : Table} {file : Nat} {bound : List Import} {b : Import}

/-! ## From success -/

theorem own_of_addBindings {list later : List Import}
    (h : t.addBindings file bound list = (later, none)) (hb : b ∈ list) {d : Definition}
    (hd : t.typeIn? ⟨file, []⟩ b.name = some d) : d.address = b.target := by
  induction list generalizing bound with
  | nil => cases hb
  | cons c rest ih =>
    rw [addBindings] at h
    split at h
    · cases h
    · rename_i hclash
      rcases List.mem_cons.1 hb with rfl | hb
      · by_contra hne
        rw [clash?, hd] at hclash
        simp only [if_neg hne] at hclash
        cases hclash
      · exact ih h hb

theorem own_of_bindIncludes {is : List Inclusion} {later : List Import}
    (h : t.bindIncludes file bound is = (later, none)) {i : Inclusion} (hi : i ∈ is)
    {bs : List Import} (hbs : t.includeBindings i = .ok bs) (hb : b ∈ bs) {d : Definition}
    (hd : t.typeIn? ⟨file, []⟩ b.name = some d) : d.address = b.target := by
  induction is generalizing bound with
  | nil => cases hi
  | cons j rest ih =>
    rw [bindIncludes] at h
    split at h
    · rename_i next hj
      rcases List.mem_cons.1 hi with rfl | hi
      · rw [bindInclude, hbs] at hj
        exact own_of_addBindings hj hb hd
      · exact ih h hi
    · cases h

/-! ## To success -/

variable {B : Import → Prop}

/-- Compatible bindings are added without a clash. -/
theorem addBindings_of_compatible (hB : t.Compatible file B) {list : List Import}
    (hbound : ∀ c ∈ bound, B c) (hlist : ∀ c ∈ list, B c) :
    (t.addBindings file bound list).2 = none ∧
      ∀ c ∈ (t.addBindings file bound list).1, B c := by
  induction list generalizing bound with
  | nil => exact ⟨rfl, hbound⟩
  | cons b rest ih =>
    have hb := hlist b List.mem_cons_self
    have hclash : t.clash? file bound b = none := by
      unfold clash?
      split
      · rename_i d hd
        rw [if_pos (hB.own b d hb hd)]
      · rename_i hnone
        cases hfind : bound.find? (·.name == b.name) with
        | none => rfl
        | some c =>
          have hname : c.name = b.name := by simpa using List.find?_some hfind
          have hc := hbound c (List.mem_of_find?_eq_some hfind)
          simp [Option.filter, hB.same b c hb hc hname.symm hnone]
    rw [addBindings, hclash]
    refine ih (fun c hc => ?_) fun c hc => hlist c (List.mem_cons_of_mem _ hc)
    split at hc
    · exact hbound c hc
    · rcases List.mem_append.1 hc with hc | hc
      · exact hbound c hc
      · exact List.mem_singleton.1 hc ▸ hb

theorem bindIncludes_of_compatible (hB : t.Compatible file B) {is : List Inclusion}
    (hbound : ∀ c ∈ bound, B c)
    (h : ∀ i ∈ is, ∃ bs, t.includeBindings i = .ok bs ∧ ∀ b ∈ bs, B b) :
    (t.bindIncludes file bound is).2 = none := by
  induction is generalizing bound with
  | nil => rfl
  | cons i rest ih =>
    obtain ⟨bs, hbs, hb⟩ := h i List.mem_cons_self
    obtain ⟨hnone, hnext⟩ := addBindings_of_compatible hB hbound hb
    have hbind : t.bindInclude file bound i = ((t.addBindings file bound bs).1, none) := by
      rw [bindInclude, hbs, ← hnone]
    rw [bindIncludes, hbind]
    exact ih hnext fun j hj => h j (List.mem_cons_of_mem _ hj)

/-- One of the includes binds the name. -/
def BindsOne (t : Table) (is : List Inclusion) (b : Import) : Prop :=
  ∃ i ∈ is, ∃ bs, t.includeBindings i = .ok bs ∧ b ∈ bs

/-- The includes of a file are bound exactly if what each of them means is found and all bindings
are compatible. -/
theorem bindIncludes_eq_none_iff {is : List Inclusion} :
    (t.bindIncludes file [] is).2 = none ↔
      (∀ i ∈ is, ∃ bs, t.includeBindings i = .ok bs) ∧ t.Compatible file (t.BindsOne is) := by
  constructor
  · intro h
    have hbound : t.bindIncludes file [] is = ((t.bindIncludes file [] is).1, none) := by
      rw [← h]
    obtain ⟨hall, -⟩ := bindIncludes_spec hbound
    refine ⟨fun i hi => (hall i hi).imp fun _ hbs => hbs.1, ?_, ?_⟩
    · rintro b d ⟨i, hi, bs, hbs, hb⟩ hd
      exact own_of_bindIncludes hbound hi hbs hb hd
    · -- both names are found in what is bound in the end
      have hfound : ∀ b, t.BindsOne is b → t.typeIn? ⟨file, []⟩ b.name = none →
          ∃ c, (t.bindIncludes file [] is).1.find? (·.name == b.name) = some c ∧
            c.target = b.target := by
        rintro b ⟨i, hi, bs, hbs, hb⟩ hnone
        obtain ⟨bs', hbs', hsettled⟩ := hall i hi
        cases hbs.symm.trans hbs'
        refine (hsettled b hb).resolve_left ?_
        rw [hnone]
        nofun
      intro b c hb hc hname hnone
      obtain ⟨x, hx, hxb⟩ := hfound b hb hnone
      obtain ⟨y, hy, hyc⟩ := hfound c hc (hname ▸ hnone)
      rw [hname, hy] at hx
      cases hx
      exact hxb.symm.trans hyc
  · rintro ⟨hall, hB⟩
    refine bindIncludes_of_compatible hB nofun fun i hi => ?_
    obtain ⟨bs, hbs⟩ := hall i hi
    exact ⟨bs, hbs, fun b hb => ⟨i, hi, bs, hbs, hb⟩⟩

end Table
end Schemata
