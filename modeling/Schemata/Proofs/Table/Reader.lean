import Schemata.Proofs.Build.Sketch
import Schemata.Proofs.Table.Body

/-!
# Readers of a reference

An alias or a base of another file is linked where it stands, but on behalf of the file that is
being linked, the reader. A global reference is searched for in all files but that of the reader, so
two readers may disagree about what it means.

Results:
* `Table.mem_globalCandidates_iff`: the candidates for a reader are what the other files export.
* `Table.resolve_reader_iff`: two readers agree on all references with the same first name exactly
  if the name is found around the scope, or if neither of them exports it, or if it is ambiguous
  for both in the same way.
-/
namespace Schemata
namespace Table

/-- The definition is what the file exports under the name. -/
def Exports (t : Table) (file : Nat) (name : String) (d : Definition) : Prop :=
  t.typeIn? ⟨file, []⟩ name = some d ∧ d.isPublic = true

/-- The name has the same several candidates for two readers, as far as a diagnostic tells. -/
def AmbiguousAlike (t : Table) (f g : Nat) (name : String) : Prop :=
  2 ≤ (t.globalCandidates f name).length ∧
    (t.globalCandidates f name).map (·.name.range) = (t.globalCandidates g name).map (·.name.range)

theorem file_of_typeIn? {t : Table} {scope : Address} {name : String} {d : Definition}
    (h : t.typeIn? scope name = some d) : d.address.file = scope.file := by
  obtain ⟨index, -, hd⟩ := Option.bind_eq_some_iff.1 h
  obtain ⟨_, -, hof⟩ := Option.bind_eq_some_iff.1 hd
  rw [address_ofStatement? hof]
  rfl

theorem lt_of_typeIn? {t : Table} {file : Nat} {name : String} {d : Definition}
    (h : t.typeIn? ⟨file, []⟩ name = some d) : file < t.files.length := by
  obtain ⟨index, -, hd⟩ := Option.bind_eq_some_iff.1 h
  rw [definitionAt?_child] at hd
  obtain ⟨s, hs, -⟩ := Option.bind_eq_some_iff.1 hd
  simp only [statementsIn, bodyAt, rootStatements] at hs
  split at hs
  · rename_i hf
    exact (List.getElem?_eq_some_iff.1 hf).1
  · simp at hs

/-- The candidates for a reader are what the other files export. -/
theorem mem_globalCandidates_iff {t : Table} {reader : Nat} {name : String} {d : Definition} :
    d ∈ t.globalCandidates reader name ↔ ∃ file, file ≠ reader ∧ t.Exports file name d := by
  simp only [globalCandidates, List.mem_filterMap, List.mem_filter, List.mem_range, bne_iff_ne,
    Option.filter_eq_some_iff, Exports]
  constructor
  · rintro ⟨file, ⟨-, hne⟩, hd, hpub⟩
    exact ⟨file, hne, hd, hpub⟩
  · rintro ⟨file, hne, hd, hpub⟩
    exact ⟨file, ⟨lt_of_typeIn? hd, hne⟩, hd, hpub⟩

/-- What a file exports is no candidate for the file itself. -/
theorem not_mem_globalCandidates_self {t : Table} {file : Nat} {name : String} {d : Definition}
    (h : t.Exports file name d) : d ∉ t.globalCandidates file name := by
  intro hd
  obtain ⟨other, hne, he⟩ := mem_globalCandidates_iff.1 hd
  exact hne ((file_of_typeIn? he.1).symm.trans (file_of_typeIn? h.1))

/-- A reader that does not export a name has everything that is exported as candidates. -/
theorem globalCandidates_eq_of_not_exports {t : Table} {reader : Nat} {name : String}
    (h : ∀ d, ¬ t.Exports reader name d) :
    t.globalCandidates reader name = (List.range t.files.length).filterMap fun file =>
      (t.typeIn? ⟨file, []⟩ name).filter Definition.isPublic := by
  have hnone : (t.typeIn? ⟨reader, []⟩ name).filter Definition.isPublic = none :=
    Option.eq_none_iff_forall_not_mem.2 fun d hd => h d (Option.filter_eq_some_iff.1 hd)
  rw [globalCandidates, List.filterMap_filter]
  refine List.filterMap_congr fun file _ => ?_
  by_cases hf : file = reader
  · rw [hf, hnone, ite_self]
  · rw [if_pos (by simpa using hf)]

/-- Readers that have the same say about a first name agree on every reference that begins with
it. -/
theorem resolve_congr {t : Table} {f g : Nat} {scope : Address} {r : Reference} {range : Range}
    {first : Identifier} (hr : r.segments.head? = some first)
    (h : t.resolveFirst f scope r.isGlobal first = t.resolveFirst g scope r.isGlobal first) :
    t.resolve f r range scope = t.resolve g r range scope := by
  obtain ⟨rest, hseg⟩ : ∃ rest, r.segments = first :: rest := by
    cases hs : r.segments with
    | nil => rw [hs] at hr; cases hr
    | cons a rest => rw [hs] at hr; injection hr with hr; exact ⟨rest, by rw [hr]⟩
  simp only [resolve, hseg, h]

theorem exists_cons_cons {α : Type} {as : List α} (h : 2 ≤ as.length) :
    ∃ a b rest, as = a :: b :: rest := by
  rcases as with _ | ⟨a, _ | ⟨b, rest⟩⟩
  · cases h
  · simp at h
  · exact ⟨a, b, rest, rfl⟩

/-- Two readers who agree on a global name alone see the same candidates, or several at the same
places. -/
theorem globalCandidates_alike {t : Table} {f g : Nat} {scope : Address} {first : Identifier}
    (hl : t.lookup? scope first.name = none)
    (h : t.resolveFirst f scope true first = t.resolveFirst g scope true first) :
    t.globalCandidates f first.name = t.globalCandidates g first.name ∨
      t.AmbiguousAlike f g first.name := by
  simp only [resolveFirst, hl, if_true] at h
  unfold AmbiguousAlike
  match hf : t.globalCandidates f first.name, hg : t.globalCandidates g first.name with
  | [], [] => exact .inl rfl
  | [], [_] | [_], [] => simp [hf, hg] at h
  | [d], [e] =>
    simp only [hf, hg, Except.ok.injEq] at h
    exact .inl (by rw [h])
  | [], _ :: _ :: _ | _ :: _ :: _, [] => simp [hf, hg, unknownName, Diagnostic.located] at h
  | [_], _ :: _ :: _ | _ :: _ :: _, [_] => simp [hf, hg] at h
  | _ :: _ :: ds, _ :: _ :: es =>
    simp only [hf, hg, Except.error.injEq, Diagnostic.mk.injEq] at h
    exact .inr ⟨by simp, h.2.2⟩

/-- Readers one of which exports a name have different candidates. -/
theorem not_exports_of_globalCandidates_eq {t : Table} {f g : Nat} {name : String} (hne : f ≠ g)
    (h : t.globalCandidates f name = t.globalCandidates g name) (d : Definition) :
    ¬ t.Exports f name d := by
  intro he
  refine not_mem_globalCandidates_self he ?_
  rw [h]
  exact mem_globalCandidates_iff.2 ⟨f, hne, he⟩

/-- Two readers agree on all references in a scope that begin with a name exactly if the name is
found around the scope, if they are the same reader, if neither of them exports the name, or if it
is ambiguous for both with the same places. -/
theorem resolve_reader_iff (t : Table) (f g : Nat) (scope : Address) (first : Identifier) :
    (∀ r range, r.segments.head? = some first →
      t.resolve f r range scope = t.resolve g r range scope) ↔
    (t.lookup? scope first.name).isSome ∨ f = g ∨
      (∀ d, ¬ t.Exports f first.name d ∧ ¬ t.Exports g first.name d) ∨
      t.AmbiguousAlike f g first.name := by
  constructor
  · intro h
    cases hl : t.lookup? scope first.name with
    | some d => exact .inl rfl
    | none =>
      by_cases hne : f = g
      · exact .inr (.inl hne)
      have hfirst : t.resolveFirst f scope true first = t.resolveFirst g scope true first := by
        have := h ⟨[first], true, false⟩ default rfl
        simp only [resolve, resolveRest, bind, Except.bind] at this
        revert this
        cases t.resolveFirst f scope true first <;> cases t.resolveFirst g scope true first <;> simp
      rcases globalCandidates_alike hl hfirst with heq | halike
      · refine .inr (.inr (.inl fun d => ⟨?_, ?_⟩))
        · exact not_exports_of_globalCandidates_eq hne heq d
        · exact not_exports_of_globalCandidates_eq (Ne.symm hne) heq.symm d
      · exact .inr (.inr (.inr halike))
  · intro h r range hr
    refine resolve_congr hr ?_
    unfold resolveFirst
    rcases h with hsome | rfl | hnone | ⟨htwo, hranges⟩
    · obtain ⟨d, hd⟩ := Option.isSome_iff_exists.1 hsome
      rw [hd]
    · rfl
    · rw [globalCandidates_eq_of_not_exports fun d => (hnone d).1,
        globalCandidates_eq_of_not_exports fun d => (hnone d).2]
    · have hlen := congrArg List.length hranges
      simp only [List.length_map] at hlen
      obtain ⟨a, b, ds, hf⟩ := exists_cons_cons htwo
      obtain ⟨a', b', es, hg⟩ := exists_cons_cons (hlen ▸ htwo)
      rw [hf, hg] at hranges
      simp only [hf, hg, hranges]

/-- A file that exports a structure and takes over an alias from another file, where it stands for
the only structure of that name in all other files. -/
def exporterFiles : List ParsedFile :=
  parseInOrder
    [(⟨"ws/a.schema"⟩, [.takes 1 "b.schema" "Link" "Link", .record 2 "Shared" [] [],
        .names 3 "x" (.named 3 ["Link"])]),
      (⟨"ws/b.schema"⟩, [.names 1 "Link" (.global 1 ["Shared"])])]

/-- The reference of the alias means the structure to the file of the alias, and nothing to the file
of the structure. -/
theorem resolve_exporterFiles :
    BuiltInOrder exporterFiles ∧
      ¬ ∀ f g scope ss, f < exporterFiles.length → g < exporterFiles.length →
        IsBody exporterFiles scope ss → ∀ r range,
          (ofFiles exporterFiles).resolve f r range scope =
            (ofFiles exporterFiles).resolve g r range scope := by
  refine ⟨builtInOrder_parseInOrder _, fun h => ?_⟩
  have body : ∃ ss, IsBody exporterFiles ⟨1, []⟩ ss := ⟨_, .root rfl rfl⟩
  obtain ⟨ss, body⟩ := body
  have hagree := h 0 1 ⟨1, []⟩ ss (by decide) (by decide) body
    ⟨[⟨default, "", "Shared", .isPublic⟩], true, false⟩ default
  have hexporter : ((ofFiles exporterFiles).resolve 0
      ⟨[⟨default, "", "Shared", .isPublic⟩], true, false⟩ default ⟨1, []⟩).isOk = false := rfl
  rw [hagree] at hexporter
  cases hexporter

end Table
end Schemata
