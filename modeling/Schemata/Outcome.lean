/-!
# Outcomes

Facts about computations that may fail.

**Results:**
* `bind_eq_ok_iff`, `bind_eq_error_iff`: a sequence of two succeeds if both do, and fails where the
  first does or else the second; `ok_bind` if the first has succeeded already.
* `map_eq_ok_iff`, `map_eq_error_iff`: what comes of a success or a failure.
* `mem_of_mapM_eq_ok`, `mapM_eq_error_iff`: what a list of results holds; a list fails as the first
  of its elements that does.
* `exists_mapM_eq_ok_iff`, `exists_of_all_isOk`: a list succeeds if all of its elements do.
* `Ends.bind`, `Accepts.bind`: what comes of a sequence, and on which condition it succeeds.
-/
namespace Schemata

variable {ε α β : Type}

theorem ok_bind (a : α) (f : α → Except ε β) : (Except.ok a >>= f) = f a := rfl

/-- A sequence succeeds exactly if both of its parts do. -/
theorem bind_eq_ok_iff {x : Except ε α} {f : α → Except ε β} {b : β} :
    (x >>= f) = .ok b ↔ ∃ a, x = .ok a ∧ f a = .ok b := by
  cases x with
  | ok a => simp [bind, Except.bind]
  | error e => simp [bind, Except.bind]

theorem map_eq_ok_iff {x : Except ε α} {f : α → β} {b : β} :
    x.map f = .ok b ↔ ∃ a, x = .ok a ∧ f a = b := by
  cases x with
  | ok a => simp [Except.map]
  | error e => simp [Except.map]

theorem map_eq_error_iff {x : Except ε α} {f : α → β} {e : ε} :
    x.map f = .error e ↔ x = .error e := by
  cases x with
  | ok a => simp [Except.map]
  | error e => simp [Except.map]

/-- A sequence fails as its first part does, or else as its second. -/
theorem bind_eq_error_iff {x : Except ε α} {f : α → Except ε β} {e : ε} :
    (x >>= f) = .error e ↔ x = .error e ∨ ∃ a, x = .ok a ∧ f a = .error e := by
  cases x with
  | ok a => simp [bind, Except.bind]
  | error e => simp [bind, Except.bind]

/-- A list of results that all succeeded holds the result of each element. -/
theorem mem_of_mapM_eq_ok {f : α → Except ε β} {as : List α} {bs : List β}
    (h : as.mapM f = .ok bs) {b : β} : b ∈ bs ↔ ∃ a ∈ as, f a = .ok b := by
  induction as generalizing bs with
  | nil =>
    injection h with h
    subst h
    simp
  | cons a as ih =>
    rw [List.mapM_cons] at h
    obtain ⟨x, hx, h⟩ := bind_eq_ok_iff.1 h
    obtain ⟨xs, hxs, h⟩ := bind_eq_ok_iff.1 h
    injection h with h
    subst h
    have hb : b = x ↔ f a = .ok b := by simp [hx, eq_comm]
    rw [List.mem_cons, ih hxs, hb]
    simp

/-- A list fails exactly as the first of its elements that does. -/
theorem mapM_eq_error_iff {f : α → Except ε β} {as : List α} {e : ε} :
    as.mapM f = .error e ↔ ∃ before a after, as = before ++ a :: after ∧
      (∀ b ∈ before, ∃ v, f b = .ok v) ∧ f a = .error e := by
  induction as with
  | nil =>
    refine ⟨nofun, ?_⟩
    rintro ⟨before, a, after, h, -⟩
    cases before <;> cases h
  | cons a as ih =>
    rw [List.mapM_cons, bind_eq_error_iff]
    constructor
    · rintro (h | ⟨v, hv, h⟩)
      · exact ⟨[], a, as, rfl, nofun, h⟩
      · rcases bind_eq_error_iff.1 h with h | ⟨vs, -, h⟩
        · obtain ⟨before, b, after, rfl, hbefore, hb⟩ := ih.1 h
          exact ⟨a :: before, b, after, rfl, List.forall_mem_cons.2 ⟨⟨v, hv⟩, hbefore⟩, hb⟩
        · cases h
    · rintro ⟨before, b, after, h, hbefore, hb⟩
      cases before with
      | nil =>
        cases h
        exact .inl hb
      | cons x before =>
        cases h
        obtain ⟨⟨v, hv⟩, hbefore⟩ := List.forall_mem_cons.1 hbefore
        exact .inr ⟨v, hv, bind_eq_error_iff.2 (.inl (ih.2 ⟨before, b, after, rfl, hbefore, hb⟩))⟩

/-- A list fails as one of its elements does. -/
theorem exists_of_mapM_eq_error {f : α → Except ε β} {as : List α} {e : ε}
    (h : as.mapM f = .error e) : ∃ a ∈ as, f a = .error e := by
  obtain ⟨before, a, after, rfl, -, ha⟩ := mapM_eq_error_iff.1 h
  exact ⟨a, List.mem_append_right _ List.mem_cons_self, ha⟩

/-- A list succeeds exactly if each of its elements does. -/
theorem exists_mapM_eq_ok_iff {f : α → Except ε β} {as : List α} :
    (∃ bs, as.mapM f = .ok bs) ↔ ∀ a ∈ as, ∃ b, f a = .ok b := by
  induction as with
  | nil => exact ⟨fun _ _ ha => (by cases ha), fun _ => ⟨[], rfl⟩⟩
  | cons a as ih =>
    rw [List.mapM_cons, List.forall_mem_cons, ← ih]
    constructor
    · rintro ⟨bs, h⟩
      obtain ⟨b, hb, h⟩ := bind_eq_ok_iff.1 h
      obtain ⟨rest, hrest, -⟩ := bind_eq_ok_iff.1 h
      exact ⟨⟨b, hb⟩, rest, hrest⟩
    · rintro ⟨⟨b, hb⟩, rest, hrest⟩
      exact ⟨_, bind_eq_ok_iff.2 ⟨b, hb, bind_eq_ok_iff.2 ⟨rest, hrest, rfl⟩⟩⟩

theorem exists_of_isOk {x : Except ε α} (h : x.isOk = true) : ∃ a, x = .ok a := by
  cases x with
  | ok a => exact ⟨a, rfl⟩
  | error e => cases h

/-- If all results succeeded, they are successes. -/
theorem exists_of_all_isOk {xs : List (Except ε α)} (h : xs.all Except.isOk = true) :
    ∃ as : List α, xs = as.map .ok := by
  induction xs with
  | nil => exact ⟨[], rfl⟩
  | cons x xs ih =>
    rw [List.all_cons, Bool.and_eq_true] at h
    obtain ⟨as, rfl⟩ := ih h.2
    obtain ⟨a, rfl⟩ := exists_of_isOk h.1
    exact ⟨a :: as, rfl⟩

/-- What comes of the computation has the one property, and the failure the other. -/
structure Ends (x : Except ε α) (Q : α → Prop) (E : ε → Prop) : Prop where
  ok : ∀ a, x = .ok a → Q a
  error : ∀ e, x = .error e → E e

section Ends

variable {x : Except ε α} {Q : α → Prop} {R : β → Prop} {E : ε → Prop}

theorem ends_ok {a : α} (h : Q a) : Ends (.ok a) Q E where
  ok := by
    intro b hb
    cases hb
    exact h
  error := nofun

theorem ends_error {e : ε} (h : E e) : Ends (.error e) Q E where
  ok := nofun
  error := by
    intro e' he
    cases he
    exact h

theorem Ends.bind {f : α → Except ε β} (h : Ends x Q E) (hf : ∀ a, Q a → Ends (f a) R E) :
    Ends (x >>= f) R E := by
  constructor
  · intro b hb
    obtain ⟨a, ha, hb⟩ := bind_eq_ok_iff.1 hb
    exact (hf a (h.ok a ha)).ok b hb
  · intro e he
    rcases bind_eq_error_iff.1 he with he | ⟨a, ha, he⟩
    · exact h.error e he
    · exact (hf a (h.ok a ha)).error e he

theorem Ends.map {f : α → β} (h : Ends x Q E) (hr : ∀ a, Q a → R (f a)) : Ends (x.map f) R E := by
  cases x with
  | ok a => exact ends_ok (hr a (h.ok a rfl))
  | error e => exact ends_error (h.error e rfl)

theorem ends_mapM {f : α → Except ε β} {as : List α} (h : ∀ a ∈ as, Ends (f a) R E) :
    Ends (as.mapM f) (fun bs => ∀ b ∈ bs, R b) E := by
  constructor
  · intro bs hbs b hb
    obtain ⟨a, ha, hb⟩ := (mem_of_mapM_eq_ok hbs).1 hb
    exact (h a ha).ok b hb
  · intro e he
    obtain ⟨a, ha, he⟩ := exists_of_mapM_eq_error he
    exact (h a ha).error e he

end Ends

/-- The computation succeeds exactly on the condition, and what comes of it has the property. -/
structure Accepts (x : Except ε α) (p : Prop) (Q : α → Prop) : Prop where
  ok_iff : (∃ a, x = .ok a) ↔ p
  of_ok : ∀ a, x = .ok a → Q a

section Accepts

variable {x : Except ε α} {p q : Prop} {Q : α → Prop} {R : β → Prop}

theorem accepts_ok {a : α} (hp : p) (h : Q a) : Accepts (.ok a : Except ε α) p Q where
  ok_iff := by simp [hp]
  of_ok := by
    intro b hb
    cases hb
    exact h

theorem accepts_error {e : ε} (hp : ¬ p) : Accepts (.error e) p Q where
  ok_iff := by simp [hp]
  of_ok := nofun

theorem accepts_ite {c : Prop} [Decidable c] {a : α} {e : ε} (h : c → Q a) :
    Accepts (if c then .ok a else .error e) c Q := by
  by_cases hc : c
  · rw [if_pos hc]
    exact accepts_ok hc (h hc)
  · rw [if_neg hc]
    exact accepts_error hc

theorem Accepts.congr (h : Accepts x p Q) (hp : p ↔ q) : Accepts x q Q where
  ok_iff := h.ok_iff.trans hp
  of_ok := h.of_ok

theorem Accepts.imp {Q' : α → Prop} (h : Accepts x p Q) (hQ : ∀ a, Q a → Q' a) :
    Accepts x p Q' where
  ok_iff := h.ok_iff
  of_ok a ha := hQ a (h.of_ok a ha)

/-- What comes of the computation can count on the condition. -/
theorem Accepts.and_of_ok (h : Accepts x p Q) : Accepts x p fun a => p ∧ Q a where
  ok_iff := h.ok_iff
  of_ok a ha := ⟨h.ok_iff.1 ⟨a, ha⟩, h.of_ok a ha⟩

/-- A sequence succeeds exactly on the conditions of both of its parts. -/
theorem Accepts.bind {f : α → Except ε β} (h : Accepts x p Q) (hf : ∀ a, Q a → Accepts (f a) q R) :
    Accepts (x >>= f) (p ∧ q) R := by
  constructor
  · rw [← h.ok_iff]
    constructor
    · rintro ⟨b, hb⟩
      obtain ⟨a, ha, hb⟩ := bind_eq_ok_iff.1 hb
      exact ⟨⟨a, ha⟩, (hf a (h.of_ok a ha)).ok_iff.1 ⟨b, hb⟩⟩
    · rintro ⟨⟨a, ha⟩, hq⟩
      obtain ⟨b, hb⟩ := (hf a (h.of_ok a ha)).ok_iff.2 hq
      exact ⟨b, bind_eq_ok_iff.2 ⟨a, ha, hb⟩⟩
  · intro b hb
    obtain ⟨a, ha, hb⟩ := bind_eq_ok_iff.1 hb
    exact (hf a (h.of_ok a ha)).of_ok b hb

theorem Accepts.map {f : α → β} (h : Accepts x p Q) (hf : ∀ a, Q a → R (f a)) :
    Accepts (x.map f) p R := by
  cases x with
  | ok a => exact accepts_ok (by simp [← h.ok_iff]) (hf a (h.of_ok a rfl))
  | error e => exact accepts_error (by simp [← h.ok_iff])

/-- The last step of a sequence cannot fail. -/
theorem Accepts.bind_pure {f : α → β} (h : Accepts x p Q) (hf : ∀ a, Q a → R (f a)) :
    Accepts (x >>= fun a => pure (f a)) p R :=
  h.map hf

end Accepts

/-- The first alternative counts, or else the second. -/
theorem orElse_eq_some_iff {x y : Option α} {a : α} :
    (x <|> y) = some a ↔ x = some a ∨ x = none ∧ y = some a := by
  cases x <;> simp

end Schemata
