import Schemata.Link
import Schemata.Outline
import Schemata.Proofs.Table.Identity
import Schemata.Proofs.Text.Lines
import Schemata.Proofs.Walk.Trace
import Mathlib.Algebra.GroupWithZero.Nat

/-!
# Reading outlines

The outline of a file shows every element and every detail on a line of its own: the elements in the
order of reading, each with its details behind it, and a line is indented by two blanks for every
element around it. A line says by its blanks how deep it stands, and by its first colon whether it
shows a detail, so the outline can be read back line by line.

Names, filenames and paths are written as they are, though, and they may hold line feeds. Then a line
is broken, and what is read is not what was shown.

**Results:**
* `Tree.outlineLines_eq`: the lines of an outline.
* `OutlineLine.read_text`: what a line shows can be read off it.
* `Root.outline_exact`: how many lines there are, and when they are read back.
* `Root.not_read_brokenPath`: a file whose outline is read in another way.
-/
namespace Schemata

/-! ## What an outline shows -/

/-- What a line shows: the kind of an element, or a detail. -/
inductive Shown where
  | kind (name : String)
  | detail (detail : Detail)
  deriving DecidableEq, Repr

/-- A line says what it shows. -/
def Shown.text : Shown → String
  | kind name => name
  | detail d => d.name ++ ": " ++ d.value

/-- A line of an outline. -/
structure OutlineLine where
  /-- The number of elements around it. -/
  depth : Nat
  shown : Shown
  deriving DecidableEq, Repr

/-- A line as it is written. -/
def OutlineLine.text (l : OutlineLine) : String := indented l.depth l.shown.text

/-- What is shown of an element. -/
def Element.shown (e : Element) : List Shown := .kind e.kindName :: e.details.map .detail

namespace Tree

mutual

/-- The lines of a tree: its element, the details, and then its parts. -/
def listing (depth : Nat) : Tree → List OutlineLine
  | .node e parts =>
    ⟨depth, .kind e.kindName⟩ ::
      (e.details.map (fun d => ⟨depth + 1, .detail d⟩) ++ listingAll (depth + 1) parts)

/-- The lines of trees, tree by tree. -/
def listingAll (depth : Nat) : List Tree → List OutlineLine
  | [] => []
  | t :: ts => t.listing depth ++ listingAll depth ts

end

mutual

/-- Every element is shown once, and so is each of its details. -/
theorem shown_listing (depth : Nat) (t : Tree) :
    (t.listing depth).map (·.shown) = t.elements.flatMap Element.shown := by
  match t with
  | .node e parts =>
    simp only [listing, elements, List.map_cons, List.map_append, List.map_map, List.flatMap_cons,
      Element.shown, shown_listingAll (depth + 1) parts]
    rfl

theorem shown_listingAll (depth : Nat) (ts : List Tree) :
    (listingAll depth ts).map (·.shown) = (elementsOf ts).flatMap Element.shown := by
  match ts with
  | [] => rfl
  | t :: ts =>
    simp only [listingAll, elementsOf, List.map_append, List.flatMap_append, shown_listing depth t,
      shown_listingAll depth ts]

end

theorem length_listing (depth : Nat) (t : Tree) :
    (t.listing depth).length = (t.elements.map fun e => 1 + e.details.length).sum := by
  rw [← List.length_map, shown_listing, List.length_flatMap]
  simp only [Element.shown, List.length_cons, List.length_map, Nat.add_comm]

end Tree

/-! ## The lines that are written -/

/-- The outline with lines written behind those that are there. -/
def OutlineState.extend (s : OutlineState) (ls : List OutlineLine) : OutlineState :=
  { s with lines := (ls.map OutlineLine.text).reverse ++ s.lines }

theorem OutlineState.extend_append (s : OutlineState) (ls ms : List OutlineLine) :
    s.extend (ls ++ ms) = (s.extend ls).extend ms := by
  simp [extend]

theorem showDetails_outliner (e : Element) (ds : List Detail) (s : OutlineState) :
    outliner.showDetails e false ds s =
      (.shown false, s.extend (ds.map fun d => ⟨s.depth, .detail d⟩)) := by
  induction ds generalizing s with
  | nil => rfl
  | cons d ds ih =>
    rw [Visitor.showDetails]
    show outliner.showDetails e false ds (s.write _) = _
    rw [ih, List.map_cons, ← List.singleton_append, OutlineState.extend_append]
    rfl

/-- The outline in which the line of an element is written, and the element is open. -/
def OutlineState.opened (s : OutlineState) (e : Element) : OutlineState :=
  { s with lines := indented s.depth e.kindName :: s.lines, depth := s.depth + 1 }

mutual

/-- A walk writes the lines of a tree, and leaves no element open. -/
theorem walk_outliner (t : Tree) (s : OutlineState) :
    outliner.walk t s = (.through, s.extend (t.listing s.depth)) := by
  match t with
  | .node e parts =>
    let details : List OutlineLine := e.details.map fun d => ⟨s.depth + 1, .detail d⟩
    have hentered : outliner.enter e s = (.goOn, s.opened e) := rfl
    have hdetails : outliner.detailsStep e .goOn (s.opened e) =
        (.shown false, (s.opened e).extend details) := showDetails_outliner e e.details (s.opened e)
    have hparts := walkAll_outliner parts ((s.opened e).extend details)
    have hready : outliner.beforeParts e ((s.opened e).extend details) =
        (.goOn, (s.opened e).extend details) := rfl
    -- the parts stand one deeper than the element, and leaving it takes that back
    rw [Visitor.walk_of_entered hentered (by decide),
      Visitor.walkWithin_of_shown hdetails hready (by decide) (by decide), hparts]
    simp [outliner, OutlineState.extend, OutlineState.opened, Tree.listing, OutlineLine.text,
      Shown.text, details]

theorem walkAll_outliner (ts : List Tree) (s : OutlineState) :
    outliner.walkAll ts s = (.through, s.extend (Tree.listingAll s.depth ts)) := by
  match ts with
  | [] => rw [Visitor.walkAll]; rfl
  | t :: ts =>
    have hrest := walkAll_outliner ts (s.extend (t.listing s.depth))
    rw [Visitor.walkAll, walk_outliner t s]
    dsimp only
    rw [hrest, Tree.listingAll, OutlineState.extend_append]
    rfl

end

theorem Tree.outlineLines_eq (t : Tree) :
    t.outlineLines = (t.listing 0).map OutlineLine.text := by
  rw [outlineLines, walk_outliner]
  simp [OutlineState.extend]

/-- The outline of a file has the lines of its tree, each with its end. -/
theorem Root.toList_outline (r : Root LinkedType) :
    r.outline.toList = joinLines (((Tree.ofRoot r).listing 0).map (·.text.toList)) := by
  rw [Root.outline, Tree.outlineLines_eq, String.toList_join, joinLines, List.flatMap_map,
    List.flatMap_map, List.flatMap_map]
  simp

/-! ## Reading a line -/

/-- A word of letters. -/
def isWord (s : String) : Bool := s.toList.all Char.isAlpha

/-- The kinds of elements, and the names of details. -/
def outlineWords : List String :=
  ["Root", "Item", "Structure", "Extension", "Include", "IncludeItem", "Type", "Cardinality",
    "Metadata", "MetadataItem", "KeywordArgument", "Expression", "file", "name", "visibility",
    "filename", "element", "reference", "fundamental", "kind", "alias", "min", "max", "value"]

theorem isWord_of_mem : ∀ word ∈ outlineWords, isWord word = true := by decide +kernel

theorem Element.kindName_mem (e : Element) : e.kindName ∈ outlineWords := by
  cases e with
  | statement s => cases s <;> simp [Element.kindName, Statement.kindName, outlineWords]
  | _ => simp [Element.kindName, outlineWords]

theorem Element.detailName_mem {e : Element} {d : Detail} (h : d ∈ e.details) :
    d.name ∈ outlineWords := by
  suffices hall : ∀ d ∈ e.details, d.name ∈ outlineWords from hall d h
  cases e with
  | statement s => cases s <;> simp [Element.details, Statement.details, outlineWords]
  | type t => cases t <;> simp [Element.details, LinkedType.details, outlineWords]
  | expression l => cases l <;> simp [Element.details, Literal.details, outlineWords]
  | _ => simp [Element.details, outlineWords]

/-- The kind or the name that is shown is a word. -/
def Shown.Worded : Shown → Prop
  | kind name => isWord name = true
  | detail d => isWord d.name = true

theorem Element.worded_of_mem_shown {e : Element} {x : Shown} (h : x ∈ e.shown) : x.Worded := by
  rcases List.mem_cons.1 h with rfl | h
  · exact isWord_of_mem _ e.kindName_mem
  · obtain ⟨d, hd, rfl⟩ := List.mem_map.1 h
    exact isWord_of_mem _ (detailName_mem hd)

theorem Tree.mem_shown_of_mem_listing {t : Tree} {depth : Nat} {l : OutlineLine}
    (h : l ∈ t.listing depth) : ∃ e ∈ t.elements, l.shown ∈ e.shown := by
  have hshown := List.mem_map_of_mem (f := OutlineLine.shown) h
  rwa [shown_listing, List.mem_flatMap] at hshown

/-- What a line shows behind its blanks. -/
def Shown.read (text : List Char) : Shown :=
  match splitFirst ':' text with
  | some (name, ' ' :: value) => .detail ⟨String.ofList name, String.ofList value⟩
  | _ => .kind (String.ofList text)

/-- Reads a line: two blanks for every element around what it shows. -/
def OutlineLine.read (line : List Char) : OutlineLine :=
  ⟨(line.takeWhile (· == ' ')).length / 2, .read (line.dropWhile (· == ' '))⟩

theorem not_mem_of_isWord {s : String} (h : isWord s = true) {mark : Char}
    (hmark : mark.isAlpha = false) : mark ∉ s.toList := by
  intro hm
  rw [List.all_eq_true.1 h mark hm] at hmark
  cases hmark

theorem Shown.read_text {x : Shown} (h : x.Worded) : Shown.read x.text.toList = x := by
  cases x with
  | kind name =>
    have hcolon : splitFirst ':' name.toList = none :=
      splitFirst_eq_none_iff.2 (not_mem_of_isWord h rfl)
    simp [Shown.read, Shown.text, hcolon]
  | detail d =>
    have hcolon : splitFirst ':' (d.name ++ ": " ++ d.value).toList =
        some (d.name.toList, ' ' :: d.value.toList) :=
      splitFirst_eq_some_iff.2 ⟨by simp, not_mem_of_isWord h rfl⟩
    rw [Shown.read, Shown.text, hcolon]
    simp

/-- Nothing that is shown begins with a blank. -/
theorem Shown.head?_text {x : Shown} (h : x.Worded) : x.text.toList.head? ≠ some ' ' := by
  intro hhead
  cases x with
  | kind name => exact not_mem_of_isWord h rfl (List.mem_of_mem_head? hhead)
  | detail d =>
    have hword : ' ' ∉ d.name.toList := not_mem_of_isWord h rfl
    cases hname : d.name.toList with
    | nil => simp [Shown.text, hname] at hhead
    | cons c cs => simp_all [Shown.text]

/-- What a line shows can be read off it. -/
theorem OutlineLine.read_text {l : OutlineLine} (h : l.shown.Worded) :
    OutlineLine.read l.text.toList = l := by
  have hblanks : ∀ c ∈ List.replicate (2 * l.depth) ' ', (c == ' ') = true := by simp
  have hstart : l.shown.text.toList.takeWhile (· == ' ') = [] ∧
      l.shown.text.toList.dropWhile (· == ' ') = l.shown.text.toList := by
    have hhead := Shown.head?_text h
    cases htext : l.shown.text.toList with
    | nil => exact ⟨rfl, rfl⟩
    | cons c cs =>
      have hc : c ≠ ' ' := by simpa [htext] using hhead
      simp [hc]
  rw [OutlineLine.read, OutlineLine.text, indented_eq, List.takeWhile_append_of_pos hblanks,
    List.dropWhile_append_of_pos hblanks, hstart.1, hstart.2, Shown.read_text h]
  simp

/-! ## Reading an outline -/

/-- Reads an outline line by line. -/
def readOutline (text : String) : List OutlineLine :=
  ((splitOn '\n' text.toList).dropLast).map OutlineLine.read

theorem length_readOutline (text : String) :
    (readOutline text).length = text.toList.count '\n' := by
  rw [readOutline, List.length_map, List.length_dropLast, length_splitOn, Nat.add_sub_cancel]

/-- The texts of an element that are shown as they are written: names, filenames and paths. -/
def Element.writtenTexts : Element → List String
  | root r => [r.file.text]
  | statement (.item _ _ name _) | statement (.struct _ _ name ..) => [name.value]
  | statement (.extension _ _ call) => [call.name.value]
  | statement (.inclusion _ _ i) => [i.filename]
  | includeItem i => [i.element.value, i.reference.value]
  | type (.struct _ _ name) => [name.name]
  | type (.alias _ name _) => [name.value]
  | metadataItem i => [i.name.value]
  | keywordArgument a => [a.name.value]
  | _ => []

/-- All other details are shown on one line. -/
theorem Element.oneLine_details_iff (e : Element) :
    (∀ d ∈ e.details, OneLine d.value) ↔ ∀ t ∈ e.writtenTexts, OneLine t := by
  have hvisibility : ∀ v : Visibility, OneLine v.text := by
    intro v
    cases v <;> simp [OneLine, Visibility.text]
  have hfundamental : ∀ f : Fundamental, OneLine f.name := by
    intro f
    cases f <;> simp [OneLine, Fundamental.name]
  have hbound : ∀ b : Option Int64, OneLine (boundText b) := by
    intro b
    cases b with
    | none => simp [OneLine, boundText]
    | some bound => exact oneLine_repr bound.toInt
  cases e with
  | statement s => cases s <;> simp [details, Statement.details, writtenTexts, hvisibility]
  | type t =>
    cases t with
    | tuple | variant => simp [details, LinkedType.details, writtenTexts, OneLine]
    | fundamental | struct | «alias» =>
      simp [details, LinkedType.details, writtenTexts, hfundamental]
  | cardinality c => simp [details, writtenTexts, hbound, oneLine_repr]
  | expression l =>
    cases l with
    | tuple | list => simp [details, Literal.details, writtenTexts, OneLine]
    | boolean | integer | number | string =>
      simp [details, Literal.details, writtenTexts, Expression.oneLine_text]
  | _ => simp [details, writtenTexts]

theorem Shown.oneLine_text_iff {x : Shown} (h : x.Worded) :
    OneLine x.text ↔ ∀ d, x = .detail d → OneLine d.value := by
  cases x with
  | kind name =>
    have hname : OneLine name := not_mem_of_isWord h rfl
    simp [Shown.text, hname]
  | detail d =>
    have hname : OneLine d.name := not_mem_of_isWord h rfl
    have hcolon : OneLine ": " := by simp [OneLine]
    simp [Shown.text, oneLine_append_iff, hname, hcolon]

theorem Element.oneLine_shown_iff (e : Element) :
    (∀ x ∈ e.shown, OneLine x.text) ↔ ∀ t ∈ e.writtenTexts, OneLine t := by
  rw [← e.oneLine_details_iff]
  constructor
  · intro h d hd
    have hshown : Shown.detail d ∈ e.shown := List.mem_cons_of_mem _ (List.mem_map_of_mem hd)
    exact (Shown.oneLine_text_iff (worded_of_mem_shown hshown)).1 (h _ hshown) d rfl
  · intro h x hx
    refine (Shown.oneLine_text_iff (worded_of_mem_shown hx)).2 ?_
    rintro d rfl
    rcases List.mem_cons.1 hx with hkind | hdetail
    · cases hkind
    · obtain ⟨d', hd', heq⟩ := List.mem_map.1 hdetail
      cases heq
      exact h d hd'

/-- No text that a file shows as it is written breaks a line. -/
def Root.Unbroken (r : Root LinkedType) : Prop :=
  ∀ e ∈ (Tree.ofRoot r).elements, ∀ t ∈ e.writtenTexts, OneLine t

theorem OutlineLine.oneLine_text_iff (l : OutlineLine) :
    OneLine l.text ↔ OneLine l.shown.text := by
  rw [OneLine, OutlineLine.text, indented_eq, List.mem_append, not_or]
  simp [OneLine]

theorem Tree.oneLine_listing_iff (t : Tree) (depth : Nat) :
    (∀ l ∈ t.listing depth, OneLine l.text) ↔
      ∀ e ∈ t.elements, ∀ w ∈ e.writtenTexts, OneLine w := by
  have hlines : (∀ l ∈ t.listing depth, OneLine l.text) ↔
      ∀ x ∈ (t.listing depth).map (·.shown), OneLine x.text := by
    simp [OutlineLine.oneLine_text_iff]
  rw [hlines, shown_listing, List.forall_mem_flatMap]
  simp only [Element.oneLine_shown_iff]

/-- The outline of a file is made of the lines of its elements and details. They are as many as the
ends of lines, and are read back, exactly if no name, filename or path in them breaks a line. -/
theorem Root.outline_exact (r : Root LinkedType) :
    r.outline.toList = joinLines (((Tree.ofRoot r).listing 0).map (·.text.toList)) ∧
    ((Tree.ofRoot r).listing 0).length =
      ((Tree.ofRoot r).elements.map fun e => 1 + e.details.length).sum ∧
    (r.outline.toList.count '\n' =
      ((Tree.ofRoot r).elements.map fun e => 1 + e.details.length).sum ↔ r.Unbroken) ∧
    (readOutline r.outline = (Tree.ofRoot r).listing 0 ↔ r.Unbroken) := by
  -- the lines have no ends in them, so each end that is counted, or split at, is that of a line
  have hlines : r.Unbroken ↔
      ∀ l ∈ ((Tree.ofRoot r).listing 0).map (·.text.toList), '\n' ∉ l := by
    rw [Unbroken, ← Tree.oneLine_listing_iff _ 0]
    simp [OneLine]
  have hcount : r.outline.toList.count '\n' = ((Tree.ofRoot r).listing 0).length ↔
      r.Unbroken := by
    rw [hlines, ← count_lines_eq_iff, r.toList_outline, List.length_map]
  refine ⟨r.toList_outline, Tree.length_listing 0 _, ?_, fun hread => ?_, fun hunbroken => ?_⟩
  · rw [← Tree.length_listing 0, hcount]
  · rw [← hcount, ← length_readOutline, hread]
  · have hread : ∀ l ∈ (Tree.ofRoot r).listing 0, OutlineLine.read l.text.toList = l := by
      intro l hl
      obtain ⟨e, -, hshown⟩ := Tree.mem_shown_of_mem_listing hl
      exact OutlineLine.read_text (Element.worded_of_mem_shown hshown)
    rw [readOutline, r.toList_outline, splitOn_lines (hlines.1 hunbroken), List.dropLast_concat,
      List.map_map]
    exact (List.map_congr_left hread).trans (List.map_id _)

/-- An empty file whose name has a line feed. -/
def brokenPath : List (Path × List Source.Statement) := [(⟨"ws/a\nb.schema"⟩, [])]

/-- The outline of an element with one detail has three lines, and something else is read. -/
theorem Root.not_read_brokenPath : ∃ r : Root LinkedType,
    (Table.ofFiles (parseInOrder brokenPath)).linkFiles (parseInOrder brokenPath) = [.ok r] ∧
    ((Tree.ofRoot r).elements.map fun e => 1 + e.details.length).sum = 2 ∧
    r.outline.toList.count '\n' = 3 ∧
    readOutline r.outline ≠ (Tree.ofRoot r).listing 0 := by
  refine ⟨⟨.fileStart ⟨"ws/a\nb.schema"⟩, []⟩, rfl, rfl, ?_, ?_⟩
  · decide +kernel
  · decide +kernel

end Schemata
