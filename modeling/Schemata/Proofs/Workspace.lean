import Schemata.Compile
import Schemata.Proofs.Discovery.Waves

/-!
# Listings

A workspace is filled file by file, and its listing is read off ordered maps. So all that can be
seen of the way it was filled is which file was added last under a directory and a name, and how
these were spelled: the steps of the paths and the contents stand in the listing at places that do
not depend on the order of the additions. The listed files are parsed first and one after the other,
so the place of a file is its ordinal.

**Results:**
* `Workspace.files_ascending`, `Workspace.exists_unique_file`: the listing is in order, and has each
  file once.
* `Workspace.listing_eq_of_perm`: the order of the additions does not show in it.
* `Discovery.all_of_listed`: the place of a listed file is its ordinal.
* `Workspace.ofFiles_exact`: what a workspace lists, and what its files are numbered.
-/
namespace Schemata

/-! ## Keys -/

namespace WorkspaceFile

/-- The steps to the directory of a file, and those of its name. -/
def key (f : WorkspaceFile) : List Component × List Component :=
  (f.directory.components, f.file.components)

/-- Files are ordered by their directories, and in each directory by their names. -/
def order (f g : WorkspaceFile) : Ordering :=
  (compare f.directory g.directory).then (compare f.file g.file)

/-- What a listing says of a file, whatever the spelling of its paths. -/
def entry (f : WorkspaceFile) : (List Component × List Component) × Content := (f.key, f.content)

variable {f g : WorkspaceFile}

theorem sameKey_iff_key_eq :
    PathMap.sameKey (f.directory, f.file) (g.directory, g.file) = true ↔ f.key = g.key := by
  rw [PathMap.sameKey, Bool.and_eq_true, Path.beq_iff, Path.beq_iff, key, key, Prod.mk.injEq]

theorem sameKey_eq_false_iff :
    PathMap.sameKey (f.directory, f.file) (g.directory, g.file) = false ↔ f.key ≠ g.key := by
  rw [← Bool.not_eq_true, sameKey_iff_key_eq]

/-- The order of keys. -/
def keyOrder : List Component × List Component → List Component × List Component → Ordering :=
  compareLex (compareOn Prod.fst) (compareOn Prod.snd)

theorem order_eq (f g : WorkspaceFile) : f.order g = keyOrder f.key g.key := rfl

instance : Std.TransCmp keyOrder :=
  inferInstanceAs (Std.TransCmp (compareLex (compareOn Prod.fst) (compareOn Prod.snd)))

end WorkspaceFile

/-! ## Ordinals -/

namespace Discovery

variable (grammar : Grammar) (disk : Disk)

/-- A listed file that was parsed with an ordinal. -/
def listedAt (ordinal : Nat) (f : WorkspaceFile) : ParsedEntry :=
  ⟨f.directory, f.file, (SourceFile.ofListed f).parse grammar disk ordinal⟩

theorem parsed_wave_one (w : Workspace) :
    (wave grammar disk w 1).parsed = (start w).parsePending grammar disk := by
  rw [wave_succ]
  rfl

/-- The place of a listed file is its ordinal. -/
theorem all_of_listed {w : Workspace} {i : Nat} {f : WorkspaceFile} (h : w.files[i]? = some f) :
    (all grammar disk w)[i]? = some (listedAt grammar disk i f) := by
  have hfirst : ((start w).parsePending grammar disk)[i]? = some (listedAt grammar disk i f) := by
    simp [parsePending, start, List.getElem?_zipIdx, h, listedAt, SourceFile.ofListed]
  obtain ⟨last, hlast⟩ := exists_last grammar disk w
  obtain ⟨later, -, hparsed, -⟩ := grows_wave grammar disk w (Nat.le_max_left 1 last)
  rw [(hlast _ (Nat.le_max_right 1 last)).1, hparsed, parsed_wave_one,
    List.getElem?_append_left (List.getElem?_eq_some_iff.1 hfirst).1]
  exact hfirst

end Discovery

namespace Workspace

open WorkspaceFile

variable {calls calls' : List WorkspaceFile}

/-! ## The listing of a filled workspace -/

theorem files_eq_listing (w : Workspace) :
    w.files = w.directories.listing.map fun e => ⟨e.1, e.2.1, e.2.2⟩ := by
  simp only [files, PathMap.listing, List.map_flatMap, List.map_map]
  rfl

theorem mem_files_iff {w : Workspace} {f : WorkspaceFile} :
    f ∈ w.files ↔ (f.directory, f.file, f.content) ∈ w.directories.listing := by
  rw [files_eq_listing, List.mem_map]
  constructor
  · rintro ⟨e, he, rfl⟩
    exact he
  · exact fun h => ⟨_, h, rfl⟩

/-- A file as an entry of a store. -/
def stored (f : WorkspaceFile) : (Path × Path) × Content := ((f.directory, f.file), f.content)

theorem ofFiles_eq_putAll (calls : List WorkspaceFile) :
    (ofFiles calls).directories = PathMap.nestedStore.putAll .empty (calls.map stored) := by
  suffices h : ∀ w : Workspace,
      (calls.foldl (fun w f => w.addFile f.directory f.file f.content) w).directories =
        PathMap.nestedStore.putAll w.directories (calls.map stored) from h .empty
  induction calls with
  | nil => exact fun w => rfl
  | cons f rest ih => exact fun w => ih (w.addFile f.directory f.file f.content)

theorem files_ascending (calls : List WorkspaceFile) :
    (ofFiles calls).files.Pairwise fun f g => f.order g = .lt := by
  rw [files_eq_listing]
  exact List.pairwise_map.2 (Discovery.nestedOrdered_ofFiles calls).listing_ascending

/-- The keys of the listing are different. -/
theorem nodup_keys (calls : List WorkspaceFile) : ((ofFiles calls).files.map key).Nodup := by
  refine List.pairwise_map.2 ((files_ascending calls).imp fun {f g} hlt heq => ?_)
  have hself : keyOrder g.key g.key = .eq := Std.ReflCmp.compare_self
  rw [order_eq, heq, hself] at hlt
  cases hlt

theorem eq_of_key_eq {f g : WorkspaceFile} (hf : f ∈ (ofFiles calls).files)
    (hg : g ∈ (ofFiles calls).files) (h : f.key = g.key) : f = g :=
  List.inj_on_of_nodup_map (nodup_keys calls) hf hg h

/-- Every listed file was added. -/
theorem exists_call_of_mem {f : WorkspaceFile} (h : f ∈ (ofFiles calls).files) :
    ∃ c ∈ calls, c.key = f.key := by
  have hfound := (Discovery.nestedOrdered_ofFiles calls).at?_of_mem (mem_files_iff.1 h)
  rw [ofFiles_eq_putAll] at hfound
  rcases PathMap.nestedStore.exists_of_get?_putAll (f.directory, f.file) hfound with
    ⟨e, he, hsame, -⟩ | hnone
  · obtain ⟨c, hc, rfl⟩ := List.mem_map.1 he
    exact ⟨c, hc, (sameKey_iff_key_eq.1 hsame).symm⟩
  · cases hnone

/-- What was added last under a directory and a name is found there. -/
theorem at?_of_last {before after : List WorkspaceFile} {c : WorkspaceFile}
    (h : ∀ d ∈ after, d.key ≠ c.key) :
    (ofFiles (before ++ c :: after)).directories.at? c.directory c.file = some c.content := by
  have hlast : ∀ e ∈ after.map stored,
      (PathMap.nestedStore (α := Content)).same (stored c).1 e.1 = false := by
    intro e he
    obtain ⟨d, hd, rfl⟩ := List.mem_map.1 he
    exact sameKey_eq_false_iff.2 (h d hd).symm
  have hput := PathMap.nestedStore.get?_putAll_of_last (m := .empty) (before.map stored) hlast
  rw [ofFiles_eq_putAll, List.map_append]
  exact hput

/-- The file that was added last under its directory and name is listed with its content. -/
theorem exists_file_of_last {before after : List WorkspaceFile} {c : WorkspaceFile}
    (h : ∀ d ∈ after, d.key ≠ c.key) :
    ∃ f ∈ (ofFiles (before ++ c :: after)).files, f.key = c.key ∧ f.content = c.content := by
  obtain ⟨e, he, hsame, hcontent⟩ := PathMap.exists_mem_listing (at?_of_last h)
  have hkey : c.key = (⟨e.1, e.2.1, e.2.2⟩ : WorkspaceFile).key := sameKey_iff_key_eq.1 hsame
  exact ⟨_, mem_files_iff.2 he, hkey.symm, hcontent⟩

/-- There is a last addition under a directory and a name. -/
theorem exists_last_call {c : WorkspaceFile} (h : c ∈ calls) :
    ∃ before d after, calls = before ++ d :: after ∧ d.key = c.key ∧
      ∀ x ∈ after, x.key ≠ d.key := by
  cases hfind : calls.reverse.find? (·.key = c.key) with
  | none =>
    have hnone := List.find?_eq_none.1 hfind c (List.mem_reverse.2 h)
    simp at hnone
  | some d =>
    obtain ⟨hkey, after, before, hsplit, hlater⟩ := List.find?_eq_some_iff_append.1 hfind
    have hkey : d.key = c.key := by simpa using hkey
    refine ⟨before.reverse, d, after.reverse, ?_, hkey, fun x hx => ?_⟩
    · rw [← List.reverse_reverse calls, hsplit]
      simp
    · have hx := hlater x (List.mem_reverse.1 hx)
      rw [hkey]
      simpa using hx

/-- A listed file has the content of the file that was added last under its directory and name. -/
theorem exists_last_of_mem {f : WorkspaceFile} (h : f ∈ (ofFiles calls).files) :
    ∃ before c after, calls = before ++ c :: after ∧ c.key = f.key ∧
      (∀ d ∈ after, d.key ≠ c.key) ∧ f.content = c.content := by
  obtain ⟨call, hcall, hkey⟩ := exists_call_of_mem h
  obtain ⟨before, c, after, rfl, hc, hafter⟩ := exists_last_call hcall
  obtain ⟨g, hg, hgkey, hcontent⟩ := exists_file_of_last hafter
  have hsame : c.key = f.key := hc.trans hkey
  obtain rfl := eq_of_key_eq h hg (hsame.symm.trans hgkey.symm)
  exact ⟨before, c, after, rfl, hsame, hafter, hcontent⟩

theorem exists_unique_file {c : WorkspaceFile} (h : c ∈ calls) :
    ∃! f, f ∈ (ofFiles calls).files ∧ f.key = c.key := by
  obtain ⟨before, d, after, rfl, hd, hafter⟩ := exists_last_call h
  obtain ⟨f, hf, hkey, -⟩ := exists_file_of_last hafter
  refine ⟨f, ⟨hf, hkey.trans hd⟩, fun g hg => eq_of_key_eq hg.1 hf ?_⟩
  exact hg.2.trans (hkey.trans hd).symm

/-- The size counts the pairs of a directory and a name. -/
theorem size_ofFiles (calls : List WorkspaceFile) :
    (ofFiles calls).size = (calls.map key).toFinset.card := by
  have hkeys : (calls.map key).toFinset = ((ofFiles calls).files.map key).toFinset := by
    ext k
    simp only [List.mem_toFinset, List.mem_map]
    constructor
    · rintro ⟨c, hc, rfl⟩
      obtain ⟨f, hf, -⟩ := exists_unique_file hc
      exact ⟨f, hf⟩
    · rintro ⟨f, hf, rfl⟩
      exact exists_call_of_mem hf
  rw [hkeys, List.toFinset_card_of_nodup (nodup_keys calls), List.length_map,
    size_eq_length_files]

/-! ## Two ways to fill a workspace -/

/-- Files that were added under different keys are listed as they were added. -/
theorem mem_entries_iff (hkeys : (calls.map key).Nodup)
    {x : (List Component × List Component) × Content} :
    x ∈ (ofFiles calls).files.map entry ↔ x ∈ calls.map entry := by
  simp only [List.mem_map]
  constructor
  · rintro ⟨f, hf, rfl⟩
    obtain ⟨before, c, after, rfl, hkey, -, hcontent⟩ := exists_last_of_mem hf
    exact ⟨c, by simp, Prod.ext hkey hcontent.symm⟩
  · rintro ⟨c, hc, rfl⟩
    obtain ⟨f, ⟨hf, hfc⟩, -⟩ := exists_unique_file hc
    obtain ⟨before, d, after, hsplit, hkey, -, hcontent⟩ := exists_last_of_mem hf
    have hd : d ∈ calls := by simp [hsplit]
    obtain rfl := List.inj_on_of_nodup_map hkeys hd hc (hkey.trans hfc)
    exact ⟨f, hf, Prod.ext hfc hcontent⟩

/-- The order in which files are added under different keys does not show in the listing. -/
theorem listing_eq_of_perm (hperm : calls.Perm calls') (hkeys : (calls.map key).Nodup) :
    (ofFiles calls).files.map entry = (ofFiles calls').files.map entry := by
  have hkeys' : (calls'.map key).Nodup := (hperm.map key).nodup_iff.1 hkeys
  have hnodup : ∀ calls : List WorkspaceFile, ((ofFiles calls).files.map entry).Nodup := by
    intro calls
    refine List.Nodup.of_map Prod.fst ?_
    rw [List.map_map]
    exact nodup_keys calls
  have hsorted : ∀ calls : List WorkspaceFile, ((ofFiles calls).files.map entry).Pairwise
      fun x y => keyOrder x.1 y.1 = .lt :=
    fun calls => List.pairwise_map.2 (files_ascending calls)
  have hsame : ((ofFiles calls).files.map entry).Perm ((ofFiles calls').files.map entry) := by
    refine (List.perm_ext_iff_of_nodup (hnodup calls) (hnodup calls')).2 fun x => ?_
    rw [mem_entries_iff hkeys, mem_entries_iff hkeys', (hperm.map entry).mem_iff]
  -- two ascending lists of the same entries are one list
  refine hsame.eq_of_pairwise (fun x y _ _ hxy hyx => ?_) (hsorted calls) (hsorted calls')
  rw [Std.OrientedCmp.gt_of_lt hxy] at hyx
  cases hyx

/-- A listed file has one place, whatever the order of the additions. -/
theorem exists_place_of_perm (hperm : calls.Perm calls') (hkeys : (calls.map key).Nodup)
    {f f' : WorkspaceFile} (hf : f ∈ (ofFiles calls).files) (hf' : f' ∈ (ofFiles calls').files)
    (h : f.key = f'.key) :
    ∃ i : Nat, (ofFiles calls).files[i]? = some f ∧ (ofFiles calls').files[i]? = some f' := by
  obtain ⟨i, hi⟩ := List.mem_iff_getElem?.1 hf
  have hentry : ((ofFiles calls').files.map entry)[i]? = some f.entry := by
    rw [← listing_eq_of_perm hperm hkeys, List.getElem?_map, hi]
    rfl
  rw [List.getElem?_map] at hentry
  obtain ⟨g, hg, hgf⟩ := Option.map_eq_some_iff.1 hentry
  have hkey : g.key = f.key := congrArg Prod.fst hgf
  obtain rfl := eq_of_key_eq (List.mem_of_getElem? hg) hf' (hkey.trans h)
  exact ⟨i, hi, hg⟩

/-- A workspace lists the files that were added last under their directories and names, in order,
and counts them. Files that were added under different keys are listed and numbered alike, in
whatever order they were added. -/
theorem ofFiles_exact (calls : List WorkspaceFile) :
    (ofFiles calls).files.Pairwise (fun f g => f.order g = .lt) ∧
    (∀ c ∈ calls, ∃! f, f ∈ (ofFiles calls).files ∧ f.key = c.key) ∧
    (∀ f ∈ (ofFiles calls).files, ∃ before c after, calls = before ++ c :: after ∧
      c.key = f.key ∧ (∀ d ∈ after, d.key ≠ c.key) ∧ f.content = c.content) ∧
    (ofFiles calls).size = (ofFiles calls).files.length ∧
    (ofFiles calls).size = (calls.map key).toFinset.card ∧
    ∀ calls' : List WorkspaceFile, calls.Perm calls' → (calls.map key).Nodup →
      (ofFiles calls).files.map entry = (ofFiles calls').files.map entry ∧
      ∀ (grammar : Grammar) (disk : Disk) (o : Options), o.check = .ok () →
        ∃ parsed parsed', parse grammar disk (ofFiles calls) o = .ok parsed ∧
          parse grammar disk (ofFiles calls') o = .ok parsed' ∧
          ∀ f ∈ (ofFiles calls).files, ∀ f' ∈ (ofFiles calls').files, f.key = f'.key →
            ∃ i : Nat, parsed[i]? = some (Discovery.listedAt grammar disk i f) ∧
              parsed'[i]? = some (Discovery.listedAt grammar disk i f') := by
  refine ⟨files_ascending calls, fun c hc => exists_unique_file hc,
    fun f hf => exists_last_of_mem hf, size_eq_length_files _, size_ofFiles calls, ?_⟩
  intro calls' hperm hkeys
  refine ⟨listing_eq_of_perm hperm hkeys, fun grammar disk o hcheck => ?_⟩
  have hparse : ∀ w, parse grammar disk w o = .ok (Discovery.all grammar disk w) := by
    intro w
    rw [parse, hcheck]
    rfl
  refine ⟨_, _, hparse _, hparse _, fun f hf f' hf' hkey => ?_⟩
  obtain ⟨i, hi, hi'⟩ := exists_place_of_perm hperm hkeys hf hf' hkey
  exact ⟨i, Discovery.all_of_listed grammar disk hi, Discovery.all_of_listed grammar disk hi'⟩

/-- Two files of a directory that is spelled in two ways, and one of another directory. -/
def spelledTwice : List WorkspaceFile :=
  [⟨⟨"ws/"⟩, ⟨"b.schema"⟩, .text "second"⟩, ⟨⟨"./ws/."⟩, ⟨"a.schema"⟩, .text "other"⟩,
    ⟨⟨"ws"⟩, ⟨"a.schema"⟩, .text "first"⟩]

theorem ofFiles_exact_spelledTwice :
    (spelledTwice.map key).Nodup ∧
    (ofFiles spelledTwice).files.map entry = (ofFiles spelledTwice.reverse).files.map entry ∧
    (ofFiles spelledTwice).files.map (·.directory.text) = ["./ws/.", "ws/", "ws/"] ∧
    (ofFiles spelledTwice.reverse).files.map (·.directory.text) = ["./ws/.", "ws", "ws"] := by
  have hkeys : (spelledTwice.map key).Nodup := by decide +kernel
  obtain ⟨-, -, -, -, -, hperm⟩ := ofFiles_exact spelledTwice
  refine ⟨hkeys, (hperm _ (List.reverse_perm _).symm hkeys).1, ?_, ?_⟩
  · decide +kernel
  · decide +kernel

end Workspace
end Schemata
