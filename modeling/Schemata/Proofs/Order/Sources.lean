import Mathlib
import Schemata.Proofs.Build.Sketch
import Schemata.Proofs.Order.Building
import Schemata.Proofs.Order.Linking

/-!
# Sources in another order

In a workspace without a failure the order of statements does not matter. If all files are built and
linked, they are built and linked after the bodies of any of them, and of any structures in them,
are put into another order, and the results are the same in that order and with other numbers.

**Results:**
* `reorders_parseInOrder`: what is built from sources in another order is what was built from them,
  in that order and with the numbers of the new places.
* `linkFiles_rearrangedSources`: files that are all linked are linked in every order.
-/
namespace Schemata
open Table

variable {order : Arrangement} {sources : List (Path × List Source.Statement)}

/-! ## Places of files -/

theorem getElem?_parseInOrder (sources : List (Path × List Source.Statement)) (i : Nat) :
    (parseInOrder sources)[i]? =
      sources[i]?.map fun (path, ss) => ⟨path, Build.root ⟨path, i⟩ ss⟩ := by
  simp [parseInOrder, Function.comp_def]

theorem getElem?_rearrangedSources (order : Arrangement)
    (sources : List (Path × List Source.Statement)) (i : Nat) :
    (rearrangedSources order sources)[i]? =
      sources[i]?.map fun (path, ss) => (path, Source.Statement.reordered order ⟨i, []⟩ ss) := by
  simp [rearrangedSources, Function.comp_def]

theorem length_parseInOrder (sources : List (Path × List Source.Statement)) :
    (parseInOrder sources).length = sources.length := by
  simp [parseInOrder]

theorem length_rearrangedSources (order : Arrangement)
    (sources : List (Path × List Source.Statement)) :
    (rearrangedSources order sources).length = sources.length := by
  simp [rearrangedSources]

/-- Files keep their paths. -/
theorem distinctPaths_rearrangedSources (hp : DistinctPaths (parseInOrder sources)) :
    DistinctPaths (parseInOrder (rearrangedSources order sources)) := by
  have hpaths : (parseInOrder (rearrangedSources order sources)).map ParsedFile.path =
      (parseInOrder sources).map ParsedFile.path := by
    refine List.ext_getElem? fun i => ?_
    simp only [List.getElem?_map, getElem?_parseInOrder, getElem?_rearrangedSources,
      Option.map_map]
    rfl
  have hp' := (List.pairwise_map (f := ParsedFile.path)
    (R := fun p q => (p == q) = false)).2 hp
  rw [← hpaths] at hp'
  exact List.pairwise_map.1 hp'

/-! ## Linking all files -/

/-- All files are linked exactly if each of them is. -/
theorem linkFiles_eq_map_ok_iff {t : Table} {files : List ParsedFile}
    {roots : List (Root LinkedType)} : t.linkFiles files = roots.map .ok ↔
      files.length = roots.length ∧ ∀ i f root, files[i]? = some f → roots[i]? = some root →
        t.linkFile i f = .ok root := by
  have hget : ∀ i, (t.linkFiles files)[i]? = files[i]?.map (t.linkFile i) := by
    intro i
    simp [linkFiles, Function.comp_def]
  constructor
  · intro h
    refine ⟨by simpa [linkFiles] using congrArg List.length h, fun i f root hf hroot => ?_⟩
    have hi := hget i
    rw [h, List.getElem?_map, hf, hroot, Option.map_some, Option.map_some, Option.some.injEq] at hi
    exact hi.symm
  · rintro ⟨hlength, h⟩
    refine List.ext_getElem? fun i => ?_
    rw [hget, List.getElem?_map]
    rcases Nat.lt_or_ge i files.length with hi | hi
    · have hf := List.getElem?_eq_getElem hi
      have hroot := List.getElem?_eq_getElem (hlength ▸ hi)
      rw [hf, hroot, Option.map_some, Option.map_some, h i _ _ hf hroot]
    · rw [List.getElem?_eq_none hi, List.getElem?_eq_none (hlength ▸ hi)]
      rfl

/-! ## Other orders -/

/-- The number of a node of a file in the other order is that of its place in this order. -/
def newNumber (order : Arrangement) (files : List ParsedFile) (file : Nat) : Nat → Nat :=
  Build.placeIn ((Statement.nodeIdsOf (Statement.reordered order ⟨file, []⟩
    (parsedStatements files file))).map ElementId.number)

theorem newNumber_injective (order : Arrangement) (files : List ParsedFile) (file : Nat) :
    Function.Injective (newNumber order files file) :=
  Build.placeIn_injective _

/-- If all files are linked, what is built from the sources in another order is what was built from
them, in that order and with the numbers of the new places. -/
theorem reorders_parseInOrder (hp : DistinctPaths (parseInOrder sources))
    (ho : Arranges order sources)
    (h : ∀ i f, (parseInOrder sources)[i]? = some f →
      ∃ root, (ofFiles (parseInOrder sources)).linkFile i f = .ok root) :
    Reorders order (newNumber order (parseInOrder sources)) (parseInOrder sources)
      (parseInOrder (rearrangedSources order sources)) := by
  have hb := builtInOrder_parseInOrder sources
  have hsource : ∀ i f, (parseInOrder sources)[i]? = some f → ∃ ss,
      sources[i]? = some (f.path, ss) ∧ Build.root ⟨f.path, i⟩ ss = f.root := by
    intro i f hf
    rw [getElem?_parseInOrder, Option.map_eq_some_iff] at hf
    obtain ⟨⟨path, ss⟩, hss, rfl⟩ := hf
    exact ⟨ss, hss, rfl⟩
  refine
    { built := hb
      built' := builtInOrder_parseInOrder _
      distinct := hp
      distinct' := distinctPaths_rearrangedSources hp
      noFault := fun i => ?noFault
      length := by rw [length_parseInOrder, length_parseInOrder, length_rearrangedSources]
      file := fun i f hf => ?file
      arranged := fun i f root hf hr => ?arranged }
  case noFault =>
    cases hf : (parseInOrder sources)[i]? with
    | none => simp [includeFault?, getElem?_ofFiles, hf]
    | some f =>
      obtain ⟨root, hroot⟩ := h i f hf
      obtain ⟨_, -, hnone, -⟩ := (linkFile_eq_ok_iff hb hf).1 hroot
      exact hnone
  case file =>
    obtain ⟨_, hroot⟩ := h i f hf
    obtain ⟨root, hr, -⟩ := (linkFile_eq_ok_iff hb hf).1 hroot
    obtain ⟨ss, hss, hbuilt⟩ := hsource i f hf
    obtain ⟨hperm, harranged⟩ := ho i _ _ hss
    refine ⟨root, hr, ?_⟩
    rw [getElem?_parseInOrder, getElem?_rearrangedSources, hss]
    refine congrArg (fun r => some (ParsedFile.mk f.path r))
      (Build.root_reordered (hbuilt.trans hr) hperm harranged ?_)
    rw [newNumber, parsedStatements, hf]
    simp only [hr]
    rfl
  case arranged =>
    obtain ⟨ss, hss, hbuilt⟩ := hsource i f hf
    obtain ⟨hperm, harranged⟩ := ho i _ _ hss
    exact Build.arrangedFrom_of_root (hbuilt.trans hr) hperm harranged

/-- If all files are linked, the order of statements does not matter: after the bodies of files and
structures are put into another order, all files are linked, and to the same roots in that order and
with other numbers, which stay apart in each file. -/
theorem linkFiles_rearrangedSources (hp : DistinctPaths (parseInOrder sources))
    (ho : Arranges order sources) {roots : List (Root LinkedType)}
    (h : (ofFiles (parseInOrder sources)).linkFiles (parseInOrder sources) = roots.map .ok) :
    ∃ ρ : Nat → Nat → Nat, (∀ file, Function.Injective (ρ file)) ∧
      (ofFiles (parseInOrder (rearrangedSources order sources))).linkFiles
          (parseInOrder (rearrangedSources order sources)) =
        (roots.zipIdx.map fun (root, file) =>
          (root.rearranged order file).renumbered ρ (LinkedType.renumbered ρ)).map .ok := by
  obtain ⟨hlength, hlinked⟩ := linkFiles_eq_map_ok_iff.1 h
  have hreorders := reorders_parseInOrder hp ho fun i f hf =>
    have hi : i < roots.length := hlength ▸ (List.getElem?_eq_some_iff.1 hf).1
    ⟨_, hlinked i f _ hf (List.getElem?_eq_getElem hi)⟩
  refine ⟨_, newNumber_injective order (parseInOrder sources), linkFiles_eq_map_ok_iff.2 ⟨?_, ?_⟩⟩
  · rw [hreorders.length, hlength, List.length_map, List.length_zipIdx]
  · intro i f' root' hf' hroot'
    simp only [List.getElem?_map, List.getElem?_zipIdx, Option.map_map, Option.map_eq_some_iff,
      Nat.zero_add, Function.comp_apply] at hroot'
    obtain ⟨root, hroot, rfl⟩ := hroot'
    obtain ⟨f, _, hf, -, rfl⟩ := hreorders.exists_file hf'
    obtain ⟨g, hg, hlink⟩ := hreorders.linkFile hf (hlinked i f root hf hroot)
    rw [hf', Option.some.injEq] at hg
    rw [hg]
    exact hlink

/-- Two files with two statements in every body. In the second one an alias comes before the
structure that it means, and the structure has a field before the alias of its type. -/
def pairedSources : List (Path × List Source.Statement) :=
  [(⟨"a"⟩, [.takes 1 "b" "U" "B", .names 2 "C" (.named 2 ["B"])]),
    (⟨"b"⟩, [.names 1 "U" (.named 1 ["S"]),
      .record 2 "S" [] [.names 3 "x" (.named 3 ["A"]), .names 4 "A" (.named 4 ["S"])]])]

/-- Both files are linked, and they are so with the statements of every body the other way round. -/
theorem linkFiles_rearrangedSources_pairedSources :
    DistinctPaths (parseInOrder pairedSources) ∧ Arranges (fun _ => [1, 0]) pairedSources ∧
      ∃ (roots : List (Root LinkedType)) (ρ : Nat → Nat → Nat),
        (ofFiles (parseInOrder pairedSources)).linkFiles (parseInOrder pairedSources) =
          roots.map .ok ∧
        (∀ file, Function.Injective (ρ file)) ∧
        (ofFiles (parseInOrder (rearrangedSources (fun _ => [1, 0]) pairedSources))).linkFiles
            (parseInOrder (rearrangedSources (fun _ => [1, 0]) pairedSources)) =
          (roots.zipIdx.map fun (root, file) =>
            (root.rearranged (fun _ => [1, 0]) file).renumbered ρ
              (LinkedType.renumbered ρ)).map .ok := by
  have hp : DistinctPaths (parseInOrder pairedSources) := by
    simp only [pairedSources, parseInOrder, DistinctPaths]
    decide
  have ho : Arranges (fun _ => [1, 0]) pairedSources := by
    have htwo : [1, 0].Perm (List.range 2) := by decide
    rintro (_ | _ | file) path ss hss
    · cases hss
      exact ⟨htwo, trivial, trivial, trivial⟩
    · cases hss
      exact ⟨htwo, trivial, ⟨htwo, trivial, trivial, trivial⟩, trivial⟩
    · cases hss
  have hok : ((ofFiles (parseInOrder pairedSources)).linkFiles
      (parseInOrder pairedSources)).all Except.isOk = true := by
    cbv
  obtain ⟨roots, hroots⟩ := exists_of_all_isOk hok
  obtain ⟨ρ, hρ, hlinked⟩ := linkFiles_rearrangedSources hp ho hroots
  exact ⟨hp, ho, roots, ρ, hroots, hρ, hlinked⟩

end Schemata
