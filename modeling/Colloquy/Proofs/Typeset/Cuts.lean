import Colloquy.Typeset.Wrap

/-!
# How a paragraph is cut

`Cut` says what every wrapping of a paragraph looks like, whatever the widths
are: segments one after the other, with nothing but spaces passed over between
two of them.  Only the first segment can begin with a space.

`pack_cut` says that packing cuts.  It needs one fact about the open segment,
that there is no space behind its last one.  Nothing is asked of the numbers.
No law of addition or order is used, so what is said here holds of machine
numbers that are negative, infinite or no numbers at all.

From that the lines of a paragraph can be counted, and a text is seen to be wrapped one
paragraph after the other (`wrapPieces_cons`).
-/

namespace Colloquy.Typeset

variable {α : Type u}

/-- Clusters that are all spaces. -/
def AllSpaces (cs : List (Cluster α)) : Prop := ∀ c ∈ cs, c.isSpace = true

/-- Clusters among which there is no space. -/
def NoSpaces (cs : List (Cluster α)) : Prop := ∀ c ∈ cs, c.isSpace = false

/-- Clusters that do not begin with a space. -/
def Opens (cs : List (Cluster α)) : Prop := ∀ c ∈ cs.head?, c.isSpace = false

theorem allSpaces_nil : AllSpaces ([] : List (Cluster α)) := by
  intro c h
  cases h

theorem allSpaces_append {cs ds : List (Cluster α)} :
    AllSpaces (cs ++ ds) ↔ AllSpaces cs ∧ AllSpaces ds := List.forall_mem_append

theorem opens_nil : Opens ([] : List (Cluster α)) := by
  intro c h
  cases h

theorem opens_cons {c : Cluster α} {cs : List (Cluster α)} (h : c.isSpace = false) :
    Opens (c :: cs) := by
  intro d hd
  cases hd
  exact h

/-- What begins without a space and goes on with what does not begin with one. -/
theorem opens_append {cs ds : List (Cluster α)} (hc : NoSpaces cs) (hd : Opens ds) :
    Opens (cs ++ ds) := by
  cases cs with
  | nil => exact hd
  | cons c cs => exact opens_cons (hc c (List.mem_cons_self ..))

/-- The spaces in front divide from what does not begin with a space. -/
theorem exists_spaces (cs : List (Cluster α)) :
    ∃ gap, cs = gap ++ dropSpaces cs ∧ AllSpaces gap ∧ Opens (dropSpaces cs) := by
  refine ⟨cs.takeWhile Cluster.isSpace, List.takeWhile_append_dropWhile.symm, ?_, ?_⟩
  · intro c hc
    exact List.all_eq_true.1 List.all_takeWhile c hc
  · intro c hc
    have h := List.head?_dropWhile_not Cluster.isSpace cs
    rw [dropSpaces] at hc
    rw [hc] at h
    simpa using h

/-- Clusters cut into segments. -/
inductive Cut : List (Cluster α) → List (List (Cluster α)) → Prop where
  /-- Nothing is left. -/
  | nil : Cut [] []
  /-- One segment, the spaces passed over behind it, and the rest. -/
  | cons {seg gap rest : List (Cluster α)} {segs : List (List (Cluster α))} :
      seg ≠ [] → AllSpaces gap → Opens rest → Cut rest segs →
      Cut (seg ++ gap ++ rest) (seg :: segs)

/-- A segment with nothing passed over behind it. -/
theorem Cut.cons_tight {seg rest : List (Cluster α)} {segs : List (List (Cluster α))}
    (hne : seg ≠ []) (ho : Opens rest) (h : Cut rest segs) : Cut (seg ++ rest) (seg :: segs) := by
  have hc := Cut.cons hne allSpaces_nil ho h
  rwa [List.append_nil] at hc

/-- A segment with the spaces behind it passed over. -/
theorem Cut.cons_dropSpaces {seg rest : List (Cluster α)} {segs : List (List (Cluster α))}
    (hne : seg ≠ []) (h : Cut (dropSpaces rest) segs) : Cut (seg ++ rest) (seg :: segs) := by
  obtain ⟨gap, he, hg, ho⟩ := exists_spaces rest
  rw [he, ← List.append_assoc]
  exact .cons hne hg ho h

/-- There are no more segments than clusters. -/
theorem Cut.length_le {cs : List (Cluster α)} {segs : List (List (Cluster α))} (h : Cut cs segs) :
    segs.length ≤ cs.length := by
  induction h with
  | nil => exact Nat.le_refl 0
  | cons hne _ _ _ ih =>
      have hpos := List.length_pos_iff.2 hne
      simp only [List.length_append, List.length_cons]
      omega

/-- A segment is a part of what is cut. -/
theorem Cut.isInfix_of_mem {cs seg : List (Cluster α)} {segs : List (List (Cluster α))}
    (h : Cut cs segs) (hm : seg ∈ segs) : seg <:+: cs := by
  induction h with
  | nil => cases hm
  | @cons front gap rest segs _ _ _ _ ih =>
      rcases List.mem_cons.1 hm with rfl | hm
      · exact ⟨[], gap ++ rest, by simp⟩
      · exact (ih hm).trans (List.suffix_append (front ++ gap) rest).isInfix

/-- Clusters are all spaces if those of each segment are. -/
theorem Cut.allSpaces_iff {cs : List (Cluster α)} {segs : List (List (Cluster α))}
    (h : Cut cs segs) : AllSpaces cs ↔ ∀ seg ∈ segs, AllSpaces seg := by
  induction h with
  | nil => simp [allSpaces_nil]
  | cons _ hgap _ _ ih =>
      rw [allSpaces_append, allSpaces_append, ih, List.forall_mem_cons, and_iff_left hgap]

theorem noSpaces_nil : NoSpaces ([] : List (Cluster α)) := by
  intro c h
  cases h

theorem noSpaces_concat {cs : List (Cluster α)} {c : Cluster α} (hcs : NoSpaces cs)
    (hc : c.isSpace = false) : NoSpaces (cs ++ [c]) := by
  intro d hd
  rcases List.mem_append.1 hd with hd | hd
  · exact hcs d hd
  · cases List.mem_singleton.1 hd
    exact hc

variable [Zero α] [Add α] [LE α] [DecidableLE α]

/-- Packing cuts the open segment and the rest. -/
theorem pack_cut (width : α) (before word : List (Cluster α)) (filled : α)
    (rest : List (Cluster α)) (hw : NoSpaces word) :
    Cut (before ++ word ++ rest) (pack width before word filled rest) := by
  fun_induction pack width before word filled rest with
  | case1 before word filled hempty =>
      rw [Bool.and_eq_true, List.isEmpty_iff, List.isEmpty_iff] at hempty
      obtain ⟨rfl, rfl⟩ := hempty
      exact .nil
  | case2 before word filled hempty =>
      refine .cons_tight ?_ opens_nil .nil
      intro h
      obtain ⟨rfl, rfl⟩ := List.append_eq_nil_iff.1 h
      exact hempty rfl
  | case3 before word filled c cs hfit hspace ih =>
      have h := ih noSpaces_nil
      simpa using h
  | case4 before word filled c cs hfit hspace ih =>
      have h := ih (noSpaces_concat hw (eq_false_of_ne_true hspace))
      simpa using h
  | case5 before word filled c cs hfit hspace ih =>
      have hne : before ++ (word ++ [c]) ≠ [] := by simp
      have h := Cut.cons_dropSpaces hne (ih noSpaces_nil)
      simpa using h
  | case6 before word filled c cs hfit hspace hb ih =>
      have ho : Opens (word ++ c :: cs) :=
        opens_append hw (opens_cons (eq_false_of_ne_true hspace))
      have hne : before ≠ [] := List.ne_nil_of_length_pos (length_pos_of_not_isEmpty hb)
      rw [List.append_assoc]
      exact .cons_tight hne ho (ih hw)
  | case7 before word filled c cs hfit hspace hb hword ih =>
      have ho : Opens (c :: cs) := opens_cons (eq_false_of_ne_true hspace)
      have hne : word ≠ [] := List.ne_nil_of_length_pos (length_pos_of_not_isEmpty hword)
      have he : before = [] := by simpa using hb
      rw [he]
      exact .cons_tight hne ho (ih noSpaces_nil)
  | case8 before word filled c cs hfit hspace hb hword ih =>
      have he : before = [] := by simpa using hb
      have hw' : word = [] := by simpa using hword
      rw [he, hw']
      exact .cons_dropSpaces (List.cons_ne_nil c []) (ih noSpaces_nil)

/-- The segments of a paragraph cut its clusters. -/
theorem segments_cut (width : α) (cs : List (Cluster α)) : Cut cs (segments width cs) :=
  pack_cut width [] [] 0 cs noSpaces_nil

/-! ## Lines of segments -/

theorem segments_nil (width : α) : segments width [] = [] := by
  rw [segments, pack]
  rfl

theorem wrapParagraph_nil (paragraph : List Char) (width : α) :
    wrapParagraph paragraph [] width = [[]] := by
  rw [wrapParagraph, segments_nil]

theorem segments_ne_nil {cs : List (Cluster α)} (hne : cs ≠ []) (width : α) :
    segments width cs ≠ [] := by
  intro hsegs
  have hcut := segments_cut width cs
  rw [hsegs] at hcut
  cases hcut
  exact hne rfl

/-- Where there are clusters every line is that of a segment. -/
theorem wrapParagraph_of_ne_nil (paragraph : List Char) {cs : List (Cluster α)} (hne : cs ≠ [])
    (width : α) :
    wrapParagraph paragraph cs width = (segments width cs).map (lineOf paragraph) := by
  rw [wrapParagraph]
  cases hsegs : segments width cs with
  | nil => exact absurd hsegs (segments_ne_nil hne width)
  | cons seg segs => rfl

theorem length_wrapParagraph_pos (paragraph : List Char) (cs : List (Cluster α)) (width : α) :
    0 < (wrapParagraph paragraph cs width).length := by
  by_cases hne : cs = []
  · rw [hne, wrapParagraph_nil]
    exact Nat.one_pos
  · rw [wrapParagraph_of_ne_nil paragraph hne, List.length_map]
    exact List.length_pos_iff.2 (segments_ne_nil hne width)

theorem length_wrapParagraph_le_max (paragraph : List Char) (cs : List (Cluster α)) (width : α) :
    (wrapParagraph paragraph cs width).length ≤ max 1 cs.length := by
  by_cases hne : cs = []
  · rw [hne, wrapParagraph_nil]
    exact Nat.le_max_left ..
  · rw [wrapParagraph_of_ne_nil paragraph hne, List.length_map]
    exact Nat.le_trans (segments_cut width cs).length_le (Nat.le_max_right ..)

/-! ## Lines of paragraphs -/

/-- The empty line that pieces get in front when others come before them. -/
def openingLine (ps : List (List Char)) : List (List Char) :=
  if ps.dropLast.head? = some [] then [[]] else []

theorem wrapPieces_cons (shaper : Shaper α) (width : α) (p : List Char) {qs : List (List Char)}
    (hq : qs ≠ []) :
    wrapPieces shaper width (p :: qs) =
      wrapParagraph p (shaper (String.ofList p)) width ++
        (openingLine qs ++ wrapPieces shaper width qs) := by
  obtain ⟨q, qs, rfl⟩ := List.exists_cons_of_ne_nil hq
  rw [wrapPieces]
  cases qs with
  | nil => simp [openingLine]
  | cons r rs => simp [openingLine]

end Colloquy.Typeset
