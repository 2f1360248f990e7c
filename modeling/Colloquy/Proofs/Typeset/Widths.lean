import Colloquy.Proofs.Typeset.Plain
import Colloquy.Proofs.Typeset.Strips

/-!
# Lines keep to the width

With exact numbers and no negative widths, what a line shows fits the width, or
is a single cluster.  A paragraph that fits is a single line
(`wrapParagraph_fits`).

A segment can be wider than its line may be, since the space that ends it need
not fit.  That space is not shown.  So a segment is said to keep to a width when
it does so up to spaces at its end, and packing leaves only such segments behind
(`pack_keeps`).  That a tail carried over a break fits is known from `Open`.
-/

namespace Colloquy.Typeset

variable {width filled : ℚ} {before word rest front seg : List (Cluster ℚ)}

/-! ## Segments -/

/-- Up to spaces at its end the segment fits or is one cluster. -/
def Keeps (width : ℚ) (seg : List (Cluster ℚ)) : Prop :=
  ∃ front back, seg = front ++ back ∧ AllSpaces back ∧ (Fits width front ∨ front.length ≤ 1)

theorem keeps_of_fits (h : Fits width seg) : Keeps width seg :=
  ⟨seg, [], (List.append_nil seg).symm, allSpaces_nil, .inl h⟩

theorem keeps_concat_space {c : Cluster ℚ} (h : Fits width front) (hc : c.isSpace = true) :
    Keeps width (front ++ [c]) := by
  refine ⟨front, [c], rfl, ?_, .inl h⟩
  intro d hd
  cases List.mem_singleton.1 hd
  exact hc

theorem keeps_singleton (width : ℚ) (c : Cluster ℚ) : Keeps width [c] :=
  ⟨[c], [], rfl, allSpaces_nil, .inr (Nat.le_refl 1)⟩

/-- Clusters that come before others fit if they fit together. -/
theorem Fits.left (h : Fits width (before ++ word)) (hn : NonNeg word) : Fits width before := by
  intro hne
  have hboth := h (List.append_ne_nil_of_left_ne_nil hne word)
  rw [totalAdvance_append] at hboth
  exact le_trans (le_add_of_nonneg_right hn.totalAdvance_nonneg) hboth

theorem pack_keeps (h : Open width before word filled) (hn : NonNeg (before ++ word ++ rest)) :
    ∀ seg ∈ pack width before word filled rest, Keeps width seg := by
  fun_induction pack width before word filled rest with
  | case1 before word filled hempty => simp
  | case2 before word filled hempty =>
      intro seg hseg
      cases List.mem_singleton.1 hseg
      exact keeps_of_fits h.fits
  | case3 before word filled c cs hfit hspace ih =>
      exact ih (h.space hfit hspace) (by simpa using hn)
  | case4 before word filled c cs hfit hspace ih =>
      exact ih (h.solid hfit (eq_false_of_ne_true hspace)) (by simpa using hn)
  | case5 before word filled c cs hfit hspace ih =>
      have hcs := (nonNeg_cons.1 (nonNeg_append.1 hn).2).2
      rw [List.forall_mem_cons, ← List.append_assoc]
      exact ⟨keeps_concat_space h.fits hspace, ih (open_nil width) hcs.dropSpaces⟩
  | case6 before word filled c cs hfit hspace hb ih =>
      obtain ⟨hfront, hrest⟩ := nonNeg_append.1 hn
      obtain ⟨hbefore, hword⟩ := nonNeg_append.1 hfront
      rw [List.forall_mem_cons]
      exact ⟨keeps_of_fits (h.fits.left hword),
        ih (h.tail hbefore) (nonNeg_append.2 ⟨hword, hrest⟩)⟩
  | case7 before word filled c cs hfit hspace hb hword ih =>
      obtain rfl : before = [] := by simpa using hb
      rw [List.forall_mem_cons]
      exact ⟨keeps_of_fits h.fits, ih (open_nil width) (nonNeg_append.1 hn).2⟩
  | case8 before word filled c cs hfit hspace hb hword ih =>
      have hcs := (nonNeg_cons.1 (nonNeg_append.1 hn).2).2
      rw [List.forall_mem_cons]
      exact ⟨keeps_singleton width c, ih (open_nil width) hcs.dropSpaces⟩

theorem segments_keeps {cs : List (Cluster ℚ)} (hn : NonNeg cs) (width : ℚ) :
    ∀ seg ∈ segments width cs, Keeps width seg :=
  pack_keeps (open_nil width) hn

/-- Clusters that fit are one segment. -/
theorem segments_of_fits {cs : List (Cluster ℚ)} (hn : NonNeg cs) (hne : cs ≠ [])
    (h : totalAdvance cs ≤ width) : segments width cs = [cs] := by
  have hfirst := firstSegment_of_fits hn fun _ => h
  rw [segments_eq_plainSegments hn]
  rw [← List.append_nil cs] at hfirst ⊢
  rw [plainSegments_append hne (by simpa using hfirst), dropSpaces, List.dropWhile_nil,
    plainSegments, List.append_nil]

/-! ## What a strip shows of its segment -/

section Shown

variable {α : Type u}

/-- What a strip shows stands before the spaces at its end. -/
theorem Strip.shown_isInfix {s : Strip α} {seg gap : List (Cluster α)} (hg : AllSpaces gap)
    (h : s.clusters = seg ++ gap) : s.shown <:+: seg := by
  rcases List.append_eq_append_iff.1 h with ⟨back, rfl, _⟩ | ⟨back, hback, rfl⟩
  · exact ⟨s.lead, back, rfl⟩
  -- the segment ends in what is shown, or in front of it, so that what is left is spaces
  · rcases List.eq_nil_or_concat' s.shown with hnil | ⟨init, last, hlast⟩
    · rw [hnil]
      exact List.nil_infix
    · have hsolid : last.isSpace = false := s.shown_last last (by simp [hlast])
      rcases List.eq_nil_or_concat' back with rfl | ⟨mid, c, rfl⟩
      · rw [List.append_nil] at hback
        exact ⟨s.lead, [], by rw [List.append_nil, hback]⟩
      · rw [hlast, ← List.append_assoc, ← List.append_assoc] at hback
        obtain ⟨_, he⟩ := List.append_inj' hback rfl
        cases List.singleton_inj.1 he
        rw [hg last (by simp)] at hsolid
        cases hsolid

/-- The line of a segment is that of what its strip shows. -/
theorem lineOf_eq_lineOf_shown (paragraph : List Char) {s : Strip α} {seg gap : List (Cluster α)}
    (hg : AllSpaces gap) (h : s.clusters = seg ++ gap) :
    lineOf paragraph seg = lineOf paragraph s.shown := by
  have hv : visible seg = visible s.shown := by
    rw [← s.visible_clusters, h, visible_append, visible_of_allSpaces hg, List.append_nil]
  rw [lineOf, lineOf, visibleRange?_eq_visible, visibleRange?_eq_visible, hv]

end Shown

/-- A part is no wider than the whole. -/
theorem totalAdvance_le_of_isInfix {cs ds : List (Cluster ℚ)} (hn : NonNeg ds) (h : cs <:+: ds) :
    totalAdvance cs ≤ totalAdvance ds := by
  obtain ⟨lead, trail, rfl⟩ := h
  obtain ⟨hfront, htrail⟩ := nonNeg_append.1 hn
  have hlead := (nonNeg_append.1 hfront).1
  rw [totalAdvance_append, totalAdvance_append]
  linarith [hlead.totalAdvance_nonneg, htrail.totalAdvance_nonneg]

/-- The strip of a segment that keeps to a width shows what fits, or one cluster. -/
theorem Keeps.shown {s : Strip ℚ} {gap : List (Cluster ℚ)} (h : Keeps width seg)
    (hg : AllSpaces gap) (hs : s.clusters = seg ++ gap) (hn : NonNeg s.clusters) :
    totalAdvance s.shown ≤ width ∨ s.shown.length ≤ 1 := by
  obtain ⟨front, back, rfl, hback, hkeeps⟩ := h
  have hbehind : AllSpaces (back ++ gap) := List.forall_mem_append.2 ⟨hback, hg⟩
  have hin : s.shown <:+: front := Strip.shown_isInfix hbehind (by rw [hs, List.append_assoc])
  rcases hkeeps with hfits | hone
  · by_cases hf : front = []
    · right
      rw [hf] at hin
      rw [List.infix_nil.1 hin]
      exact Nat.zero_le 1
    · left
      rw [hs, List.append_assoc] at hn
      exact le_trans (totalAdvance_le_of_isInfix (nonNeg_append.1 hn).1 hin) (hfits hf)
  · right
    exact hin.length_le.trans hone

/-! ## Lines -/

/-- With no negative widths the lines of a paragraph are those of strips side by
side, and each strip shows what fits or one cluster.  A paragraph that fits is
one line. -/
theorem wrapParagraph_fits (paragraph : List Char) {cs : List (Cluster ℚ)} (hn : NonNeg cs)
    (width : ℚ) :
    (∃ strips : List (Strip ℚ),
      strips.flatMap Strip.clusters = cs ∧
      List.Forall₂ (fun s line => line = lineOf paragraph s.shown ∧
        (totalAdvance s.shown ≤ width ∨ s.shown.length ≤ 1))
        strips (wrapParagraph paragraph cs width)) ∧
    (totalAdvance cs ≤ width → wrapParagraph paragraph cs width = [lineOf paragraph cs]) := by
  by_cases hne : cs = []
  · subst hne
    rw [wrapParagraph_nil]
    exact ⟨⟨[Strip.blank], rfl, .cons ⟨rfl, .inr (Nat.zero_le 1)⟩ .nil⟩, fun _ => rfl⟩
  rw [wrapParagraph_of_ne_nil paragraph hne]
  constructor
  · obtain ⟨strips, hflat, hstrips, _⟩ := (segments_cut width cs).exists_strips
    refine ⟨strips, hflat, ?_⟩
    have hin : ∀ s ∈ strips, NonNeg s.clusters := by
      intro s hs c hc
      rw [← hflat] at hn
      exact hn c (List.mem_flatMap.2 ⟨s, hs, hc⟩)
    have hkeeps := (List.forall₂_and_left _ _).2 ⟨segments_keeps hn width, hstrips.flip⟩
    rw [List.forall₂_map_right_iff]
    refine ((List.forall₂_and_left _ _).2 ⟨hin, hkeeps.flip⟩).imp ?_
    rintro s seg ⟨hs, hseg, gap, hg, he⟩
    exact ⟨lineOf_eq_lineOf_shown paragraph hg he, hseg.shown hg he hs⟩
  · intro hfit
    rw [segments_of_fits hn hne hfit]
    rfl

/-- Four clusters, of which the space is too wide to end its line and the one behind
it too wide for any. -/
def spilledClusters : List (Cluster ℚ) :=
  [⟨0, 1, 1, false⟩, ⟨1, 2, 2, true⟩, ⟨2, 3, 5, false⟩, ⟨3, 4, 1 / 2, false⟩]

/-- The lines where hardly anything fits, and where everything just does. -/
theorem wrapParagraph_fits_spilled :
    NonNeg spilledClusters ∧
    (∃ strips : List (Strip ℚ),
      strips.flatMap Strip.clusters = spilledClusters ∧
      List.Forall₂ (fun s line => line = lineOf ['a', ' ', 'w', 'i'] s.shown ∧
        (totalAdvance s.shown ≤ 2 ∨ s.shown.length ≤ 1))
        strips (wrapParagraph ['a', ' ', 'w', 'i'] spilledClusters 2)) ∧
    totalAdvance spilledClusters ≤ 17 / 2 ∧
    wrapParagraph ['a', ' ', 'w', 'i'] spilledClusters (17 / 2) = [['a', ' ', 'w', 'i']] := by
  have hn : NonNeg spilledClusters := by
    simp only [spilledClusters, nonNeg_cons]
    norm_num [NonNeg]
  have htotal : totalAdvance spilledClusters ≤ 17 / 2 := by
    norm_num [totalAdvance, spilledClusters]
  exact ⟨hn, (wrapParagraph_fits _ hn 2).1, htotal, (wrapParagraph_fits _ hn (17 / 2)).2 htotal⟩

end Colloquy.Typeset
