import Schemata.Path
import Mathlib.Data.List.DropRight

/-!
# The steps of joined paths and of parents

Two paths with the same steps are the same path, so an operation on paths has to be one on steps.
It is: the steps of a joined path are those of its two sides, less a leading `.` of the second, and
a parent has all steps but the last. A file that is kept under the parent of its path and its name
there is therefore kept under its path.

**Results:**
* `Path.join_components`: the steps of a joined path.
* `Path.parent?_components`: the steps of a parent.
* `Path.join_parent?`: parent and name make up the path.
-/
namespace Schemata

/-! ## The steps of a text -/

/-- The steps that the segments of a text stand for. -/
def segmentSteps (cs : List Char) : List Component :=
  ((splitOn '/' cs).filter (!isIdle ·)).map Component.ofSegment

/-- The steps of a path with the given text. -/
def textSteps : List Char → List Component
  | '/' :: rest => .root :: segmentSteps rest
  | ['.'] => [.current]
  | '.' :: '/' :: rest => .current :: segmentSteps rest
  | cs => segmentSteps cs

@[simp]
theorem segmentSteps_nil : segmentSteps [] = [] := rfl

theorem segmentSteps_append (cs ds : List Char) :
    segmentSteps (cs ++ '/' :: ds) = segmentSteps cs ++ segmentSteps ds := by
  simp only [segmentSteps, splitOn_append, List.filter_append, List.map_append]

@[simp]
theorem segmentSteps_cons (cs : List Char) : segmentSteps ('/' :: cs) = segmentSteps cs :=
  segmentSteps_append [] cs

theorem segmentSteps_intercalate {segments : List (List Char)}
    (h : ∀ s ∈ segments, '/' ∉ s) :
    segmentSteps (List.intercalate ['/'] segments) =
      (segments.filter (!isIdle ·)).map Component.ofSegment := by
  by_cases hs : segments = []
  · subst hs
    rfl
  · rw [segmentSteps, splitOn_intercalate hs h]

/-- Only the beginning of a text can stand for the root or for a leading `.`. -/
theorem ofSegment_ne (s : List Char) :
    Component.ofSegment s ≠ .root ∧ Component.ofSegment s ≠ .current := by
  unfold Component.ofSegment
  split <;> simp

theorem ne_of_mem_segmentSteps {step : Component} {cs : List Char} (h : step ∈ segmentSteps cs) :
    step ≠ .root ∧ step ≠ .current := by
  obtain ⟨s, -, rfl⟩ := List.mem_map.1 h
  exact ofSegment_ne s

/-- A text whose first segment is a step has nothing in front of it. -/
theorem textSteps_eq {cs : List Char} {s : List Char} {rest : List (List Char)}
    (h : splitOn '/' cs = s :: rest) (hs : isIdle s = false) : textSteps cs = segmentSteps cs := by
  unfold textSteps
  split
  · simp_all [splitOn, isIdle]
  · simp_all [splitOn, isIdle]
  · simp_all [splitOn, isIdle]
  · rfl

/-- A text that begins neither with a separator nor with a `.` segment begins with a step. -/
theorem exists_step {cs : List Char} (h : cs ≠ []) (root : ∀ rest, cs ≠ '/' :: rest)
    (dot : cs ≠ ['.']) (current : ∀ rest, cs ≠ '.' :: '/' :: rest) :
    ∃ s rest, splitOn '/' cs = s :: rest ∧ isIdle s = false := by
  cases cs with
  | nil => exact absurd rfl h
  | cons c cs =>
    have hc : c ≠ '/' := by
      rintro rfl
      exact root cs rfl
    cases cs with
    | nil => exact ⟨[c], [], by simp [splitOn, hc], by simp_all [isIdle]⟩
    | cons d ds =>
      by_cases hd : d = '/'
      · subst hd
        have hdot : c ≠ '.' := by
          rintro rfl
          exact current ds rfl
        exact ⟨[c], splitOn '/' ds, by simp [splitOn, hc], by simp [isIdle, hdot]⟩
      · cases hs : splitOn '/' ds with
        | nil => exact absurd hs (splitOn_ne_nil _ _)
        | cons s ss => exact ⟨c :: d :: s, ss, by simp [splitOn, hc, hd, hs], by simp [isIdle]⟩

/-- What follows the separator after a text adds the steps of its segments. -/
theorem textSteps_append {cs : List Char} (h : cs ≠ []) (ds : List Char) :
    textSteps (cs ++ '/' :: ds) = textSteps cs ++ segmentSteps ds := by
  fun_cases textSteps cs with
  | case1 rest => simp [textSteps, segmentSteps_append]
  | case2 => simp [textSteps]
  | case3 rest => simp [textSteps, segmentSteps_append]
  | case4 _ root dot current =>
    obtain ⟨s, rest, hs, hidle⟩ := exists_step h root dot current
    rw [← segmentSteps_append]
    exact textSteps_eq (by rw [splitOn_append, hs, List.cons_append]) hidle

/-- A text that does not begin with a separator has the steps of its segments, perhaps after a
leading `.`. -/
theorem textSteps_relative {cs : List Char} (h : cs.head? ≠ some '/') :
    textSteps cs = segmentSteps cs ∨ textSteps cs = .current :: segmentSteps cs := by
  fun_cases textSteps cs with
  | case1 rest => exact absurd rfl h
  | case2 => exact .inr rfl
  | case3 rest => exact .inr (by simp [segmentSteps, splitOn, isIdle])
  | case4 => exact .inl rfl

theorem textSteps_ne_nil {cs : List Char} (h : cs ≠ []) : textSteps cs ≠ [] := by
  fun_cases textSteps cs with
  | case1 rest => exact List.cons_ne_nil _ _
  | case2 => exact List.cons_ne_nil _ _
  | case3 rest => exact List.cons_ne_nil _ _
  | case4 _ root dot current =>
    obtain ⟨s, rest, hs, hidle⟩ := exists_step h root dot current
    simp [segmentSteps, hs, hidle]

/-- The segments of a text come last among its steps. -/
theorem exists_textSteps_eq_append (cs : List Char) :
    ∃ front, textSteps cs = front ++ segmentSteps cs := by
  by_cases h : cs.head? = some '/'
  · obtain ⟨rest, rfl⟩ := List.head?_eq_some_iff.1 h
    exact ⟨[.root], by simp [textSteps]⟩
  · rcases textSteps_relative h with heq | heq
    · exact ⟨[], heq⟩
    · exact ⟨[.current], heq⟩

/-! ## Joined paths -/

/-- The steps of `b` seen from the steps `a`. -/
def joinSteps (a b : List Component) : List Component :=
  match a, b with
  | _, .root :: rest => .root :: rest
  | [], b => b
  | a, .current :: rest => a ++ rest
  | a, b => a ++ b

theorem joinSteps_nil (b : List Component) : joinSteps [] b = b := by
  cases b with
  | nil => rfl
  | cons step rest => cases step <;> rfl

/-- A text that does not begin with a separator adds the steps of its segments. -/
theorem joinSteps_textSteps {a : List Component} (ha : a ≠ []) {cs : List Char}
    (h : cs.head? ≠ some '/') : joinSteps a (textSteps cs) = a ++ segmentSteps cs := by
  obtain ⟨first, others, rfl⟩ := List.exists_cons_of_ne_nil ha
  rcases textSteps_relative h with heq | heq
  · rw [heq]
    cases hb : segmentSteps cs with
    | nil => simp [joinSteps]
    | cons step rest =>
      obtain ⟨hroot, hcurrent⟩ := ne_of_mem_segmentSteps (hb ▸ List.mem_cons_self)
      cases step <;> simp_all [joinSteps]
  · rw [heq]
    rfl

namespace Path

theorem components_eq (p : Path) : p.components = textSteps p.text.toList := by
  unfold components split textSteps
  split <;> simp_all [segmentSteps, splitOn, isIdle]

theorem components_ofChars (cs : List Char) :
    (⟨String.ofList cs⟩ : Path).components = textSteps cs := by
  rw [components_eq, String.toList_ofList]

theorem isAbsolute_iff {p : Path} : p.isAbsolute = true ↔ ∃ rest, p.text.toList = '/' :: rest := by
  rw [isAbsolute, beq_iff_eq, List.head?_eq_some_iff]

/-- The steps of a joined path. -/
theorem join_components (p q : Path) :
    (p.join q).components = joinSteps p.components q.components := by
  unfold join
  split
  · rename_i habs
    obtain ⟨rest, hq⟩ := isAbsolute_iff.1 habs
    simp [components_eq, hq, textSteps, joinSteps]
  · rename_i hrel
    have hhead : q.text.toList.head? ≠ some '/' := by
      simpa [isAbsolute] using hrel
    split
    · rename_i hp
      have hp : p.text.toList = [] := List.getLast?_eq_none_iff.1 hp
      rw [components_eq p, hp]
      exact (joinSteps_nil _).symm
    · rename_i hp
      -- the first side ends in a separator, which adds no step to it
      obtain ⟨cs, hp⟩ := List.getLast?_eq_some_iff.1 hp
      rw [components_eq, components_eq p, components_eq q, String.toList_append, hp,
        List.append_assoc, List.singleton_append]
      by_cases hcs : cs = []
      · subst hcs
        have h := joinSteps_textSteps (List.cons_ne_nil Component.root []) hhead
        exact h.symm
      · rw [textSteps_append hcs, textSteps_append hcs, segmentSteps_nil, List.append_nil,
          joinSteps_textSteps (textSteps_ne_nil hcs) hhead]
    · rename_i hp
      have hp : p.text.toList ≠ [] := by
        intro h
        rw [h] at hp
        cases hp
      rw [components_eq, components_eq p, components_eq q,
        joinSteps_textSteps (textSteps_ne_nil hp) hhead, ← textSteps_append hp]
      congr 1
      simp

/-- Joined paths are the same if both sides are. -/
theorem join_congr {p p' q q' : Path} (hp : (p == p') = true) (hq : (q == q') = true) :
    (p.join q == p'.join q') = true := by
  refine same_iff.2 ?_
  rw [join_components, join_components, same_iff.1 hp, same_iff.1 hq]

/-! ## Parents -/

/-- The step that the leading part of a path is. -/
def leadingSteps : List Char → List Component
  | ['/'] => [.root]
  | ['.'] => [.current]
  | _ => []

theorem components_eq_leading (p : Path) :
    p.components = leadingSteps p.split.1 ++ segmentSteps p.split.2 := by
  unfold components leadingSteps
  split <;> rename_i heq <;> simp_all [segmentSteps]

theorem dropIdleEnd_front (ss : List (List Char)) : dropIdleEnd ss <+: ss :=
  List.rdropWhile_prefix _ _

/-- What is dropped is no step. -/
theorem filter_dropIdleEnd (ss : List (List Char)) :
    (dropIdleEnd ss).filter (!isIdle ·) = ss.filter (!isIdle ·) := by
  show (ss.rdropWhile isIdle).filter _ = _
  induction ss using List.reverseRecOn with
  | nil => rfl
  | append_singleton ss s ih =>
    by_cases hs : isIdle s = true
    · rw [List.rdropWhile_concat_pos _ _ _ hs]
      simpa [hs] using ih
    · rw [List.rdropWhile_concat_neg _ _ _ hs]

/-- The last segment of what is left is a step. -/
theorem getLast_dropIdleEnd {ss init : List (List Char)} {last : List Char}
    (h : dropIdleEnd ss = init ++ [last]) : isIdle last = false := by
  have hne : ss.rdropWhile isIdle ≠ [] := by
    show dropIdleEnd ss ≠ []
    simp [h]
  have hlast := List.rdropWhile_last_not isIdle ss hne
  have heq : ss.rdropWhile isIdle = init ++ [last] := h
  simpa [heq] using hlast

/-- What can stand in front of the body of a path, and how the body then begins. -/
theorem split_cases (p : Path) :
    (∃ body, p.split = (['/'], body)) ∨
    (∃ body, p.split = (['.'], body) ∧ (body = [] ∨ ∃ rest, body = '/' :: rest)) ∨
    (∃ body, p.split = ([], body) ∧
      (body = [] ∨ ∃ s rest, splitOn '/' body = s :: rest ∧ isIdle s = false)) := by
  unfold split
  split
  · exact .inl ⟨_, rfl⟩
  · exact .inr (.inl ⟨_, rfl, .inl rfl⟩)
  · exact .inr (.inl ⟨_, rfl, .inr ⟨_, rfl⟩⟩)
  · rename_i root dot current
    refine .inr (.inr ⟨_, rfl, ?_⟩)
    by_cases h : p.text.toList = []
    · exact .inl h
    · exact .inr (exists_step h root dot current)

/-- The first segments of a body, up to a step, behind the leading part of the path. -/
theorem textSteps_leading (p : Path) {ss : List (List Char)}
    (h : dropIdleEnd ss <+: splitOn '/' p.split.2) :
    textSteps (p.split.1 ++ List.intercalate ['/'] (dropIdleEnd ss)) =
      leadingSteps p.split.1 ++ (ss.filter (!isIdle ·)).map Component.ofSegment := by
  have hslash : ∀ s ∈ dropIdleEnd ss, '/' ∉ s := fun s hs =>
    not_mem_of_mem_splitOn (h.subset hs)
  have hlast : dropIdleEnd ss ≠ [[]] := fun heq => by
    have heq : dropIdleEnd ss = [] ++ [[]] := heq
    cases getLast_dropIdleEnd heq
  rw [← filter_dropIdleEnd, ← segmentSteps_intercalate hslash]
  rcases hss : dropIdleEnd ss with - | ⟨s, rest⟩
  · -- no segment is left
    obtain ⟨body, hp⟩ | ⟨body, hp, -⟩ | ⟨body, hp, -⟩ := p.split_cases <;> rw [hp] <;> rfl
  · rw [hss] at h hslash hlast
    obtain ⟨body, hp⟩ | ⟨body, hp, rfl | ⟨tail, rfl⟩⟩ | ⟨body, hp, rfl | ⟨_, tail, hb, hfirst⟩⟩ :=
      p.split_cases
    · rw [hp]
      rfl
    · obtain ⟨rfl, rfl⟩ : s = [] ∧ rest = [] := by simpa [hp, splitOn] using h
      exact absurd rfl hlast
    · -- the leading `.` is followed by a separator, and so by a further segment
      rw [hp, splitOn, if_pos rfl, List.cons_prefix_cons] at h
      obtain ⟨rfl, -⟩ := h
      obtain ⟨second, others, rfl⟩ := List.exists_cons_of_ne_nil (l := rest) (by simpa using hlast)
      have hjoin : List.intercalate ['/'] ([] :: second :: others) =
          '/' :: List.intercalate ['/'] (second :: others) := by simp [List.intercalate]
      rw [hp, hjoin, segmentSteps_cons]
      rfl
    · obtain ⟨rfl, rfl⟩ : s = [] ∧ rest = [] := by simpa [hp, splitOn] using h
      exact absurd rfl hlast
    · rw [hp, hb, List.cons_prefix_cons] at h
      obtain ⟨rfl, -⟩ := h
      rw [hp]
      exact textSteps_eq (splitOn_intercalate (List.cons_ne_nil _ _) hslash) hfirst

/-- A path without a parent has no steps, or it is the root. -/
theorem parent?_eq_none {p : Path} (h : p.parent? = none) :
    p.components = [] ∨ p.components = [.root] := by
  have hsteps := filter_dropIdleEnd (splitOn '/' p.split.2)
  rw [components_eq_leading, segmentSteps, ← hsteps]
  unfold parent? bodySegments at h
  split at h
  · rename_i hnil
    rw [hnil]
    split at h
    · cases h
    · rename_i hdot
      obtain ⟨body, hp⟩ | ⟨body, hp, -⟩ | ⟨body, hp, -⟩ := p.split_cases
      · exact .inr (by rw [hp]; rfl)
      · exact absurd (by rw [hp]) hdot
      · exact .inl (by rw [hp]; rfl)
  · cases h

/-- The steps of a parent. -/
theorem parent?_components {p q : Path} (h : p.parent? = some q) :
    ∃ step, p.components = q.components ++ [step] := by
  rw [components_eq_leading]
  have hsteps := filter_dropIdleEnd (splitOn '/' p.split.2)
  unfold parent? bodySegments at h
  split at h
  · rename_i hnil
    split at h
    · rename_i hdot
      cases h
      refine ⟨.current, ?_⟩
      rw [hnil] at hsteps
      simp [segmentSteps, ← hsteps, hdot]
      rfl
    · cases h
  · rename_i hne
    obtain ⟨init, last, hss⟩ :=
      (List.eq_nil_or_concat (dropIdleEnd (splitOn '/' p.split.2))).resolve_left hne
    cases h
    refine ⟨Component.ofSegment last, ?_⟩
    have hprefix : dropIdleEnd init <+: splitOn '/' p.split.2 := by
      refine (dropIdleEnd_front init).trans (.trans ?_ (dropIdleEnd_front _))
      rw [hss]
      simp
    rw [components_ofChars, hss]
    simp only [List.concat_eq_append, List.dropLast_concat]
    rw [textSteps_leading p hprefix, segmentSteps, ← hsteps, hss]
    simp [getLast_dropIdleEnd (by simpa using hss)]

theorem fileName?_eq_some_iff {p : Path} {name : String} :
    p.fileName? = some name ↔ p.components.getLast? = some (.name name) := by
  unfold fileName?
  split <;> simp_all

/-- A last segment that is a step is the last step of the path. -/
theorem getLast?_components {p : Path} {init : List (List Char)} {last : List Char}
    (h : splitOn '/' p.text.toList = init ++ [last]) (hidle : isIdle last = false) :
    p.components.getLast? = some (Component.ofSegment last) := by
  obtain ⟨front, hfront⟩ := exists_textSteps_eq_append p.text.toList
  rw [components_eq, hfront, segmentSteps, h]
  simp [hidle]

/-- A name is a path of a single step. -/
theorem components_name {p : Path} {name : String} (h : .name name ∈ p.components) :
    (⟨name⟩ : Path).components = [.name name] := by
  rw [components_eq_leading, List.mem_append] at h
  rcases h with h | h
  · unfold leadingSteps at h
    split at h <;> simp at h
  · obtain ⟨s, hs, heq⟩ := List.mem_map.1 h
    obtain ⟨hs, hidle⟩ := List.mem_filter.1 hs
    have hidle : isIdle s = false := by simpa using hidle
    have hsplit : splitOn '/' s = [s] := splitOn_of_not_mem (not_mem_of_mem_splitOn hs)
    have hname : name = String.ofList s := by
      unfold Component.ofSegment at heq
      split at heq
      · cases heq
      · exact (Component.name.inj heq).symm
    rw [hname, components_ofChars, textSteps_eq hsplit hidle, segmentSteps, hsplit]
    simp [hidle, heq, hname]

/-- Parent and name make up the path. -/
theorem join_parent? {p q : Path} {name : String} (hq : p.parent? = some q)
    (hname : p.fileName? = some name) : (q.join ⟨name⟩ == p) = true := by
  obtain ⟨step, hstep⟩ := parent?_components hq
  rw [fileName?_eq_some_iff, hstep, List.getLast?_concat, Option.some.injEq] at hname
  subst hname
  have hlast := components_name (hstep ▸ List.mem_concat_self)
  refine same_iff.2 ?_
  rw [join_components, hlast, hstep]
  cases q.components <;> rfl

end Path
end Schemata
