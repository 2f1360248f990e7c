import Colloquy.Proofs.Text.Slices
import Colloquy.Proofs.Typeset.Cuts
import Mathlib.Data.List.Chain
import Mathlib.Data.List.Forall2

/-!
# Wrapping keeps everything visible

A *strip* is the part of a paragraph that one line stands for: what the line
shows, from a cluster that is no space to another, with the spaces around it.
Where there are only spaces nothing is shown.

The lines of a paragraph print strips, one each and in order, and the strips
side by side are the clusters of the paragraph (`wrapParagraph_prints`).  So
nothing visible is lost, doubled or put elsewhere.  Only the first line can be
empty.
-/

namespace Colloquy.Typeset

open Colloquy.Text

variable {α : Type u}

/-! ## Strips -/

/-- Consecutive clusters with what a line shows of them. -/
structure Strip (α : Type u) where
  /-- The spaces in front. -/
  lead : List (Cluster α)
  /-- What is shown. -/
  shown : List (Cluster α)
  /-- The spaces behind. -/
  trail : List (Cluster α)
  lead_spaces : AllSpaces lead
  trail_spaces : AllSpaces trail
  /-- What is shown begins with no space. -/
  shown_head : Opens shown
  /-- What is shown ends in no space. -/
  shown_last : ∀ c ∈ shown.getLast?, c.isSpace = false

namespace Strip

/-- The clusters of a strip. -/
def clusters (s : Strip α) : List (Cluster α) := s.lead ++ s.shown ++ s.trail

/-- The strip without clusters. -/
def blank : Strip α where
  lead := []
  shown := []
  trail := []
  lead_spaces := allSpaces_nil
  trail_spaces := allSpaces_nil
  shown_head := opens_nil
  shown_last := opens_nil

/-- Every list of clusters is a strip. -/
theorem exists_clusters_eq (cs : List (Cluster α)) : ∃ s : Strip α, s.clusters = cs := by
  obtain ⟨lead, he, hlead, hopen⟩ := exists_spaces cs
  obtain ⟨gap, he', hgap, hlast⟩ := exists_spaces (dropSpaces cs).reverse
  generalize dropSpaces cs = body at he he' hopen hlast
  generalize dropSpaces body.reverse = back at he' hlast
  have hbody : body = back.reverse ++ gap.reverse := by
    rw [← List.reverse_append, ← he', List.reverse_reverse]
  refine ⟨⟨lead, back.reverse, gap.reverse, hlead, ?_, ?_, ?_⟩, ?_⟩
  · intro c hc
    exact hgap c (List.mem_reverse.1 hc)
  · intro c hc
    cases hb : back.reverse with
    | nil =>
        rw [hb] at hc
        cases hc
    | cons d ds =>
        rw [hb] at hc
        rw [hbody, hb] at hopen
        exact hopen c hc
  · intro c hc
    rw [List.getLast?_reverse] at hc
    exact hlast c hc
  · show lead ++ back.reverse ++ gap.reverse = cs
    rw [List.append_assoc, ← hbody]
    exact he.symm

/-- Spaces behind a strip are part of a longer one that shows the same. -/
theorem exists_longer (s : Strip α) {gap : List (Cluster α)} (hg : AllSpaces gap) :
    ∃ t : Strip α, t.shown = s.shown ∧ t.clusters = s.clusters ++ gap := by
  refine ⟨⟨s.lead, s.shown, s.trail ++ gap, s.lead_spaces, ?_, s.shown_head, s.shown_last⟩, rfl, ?_⟩
  · intro c hc
    rcases List.mem_append.1 hc with hc | hc
    · exact s.trail_spaces c hc
    · exact hg c hc
  · simp [clusters]

/-- The clusters of a strip that shows nothing are spaces. -/
theorem allSpaces_of_shown_eq_nil {s : Strip α} (h : s.shown = []) : AllSpaces s.clusters := by
  intro c hc
  rw [clusters, h, List.append_nil] at hc
  rcases List.mem_append.1 hc with hc | hc
  · exact s.lead_spaces c hc
  · exact s.trail_spaces c hc

end Strip

/-! ## What is visible -/

/-- The clusters that are no spaces. -/
def visible (cs : List (Cluster α)) : List (Cluster α) := cs.filter fun c => !c.isSpace

theorem visible_append (cs ds : List (Cluster α)) :
    visible (cs ++ ds) = visible cs ++ visible ds := List.filter_append ..

theorem visible_of_allSpaces {cs : List (Cluster α)} (h : AllSpaces cs) : visible cs = [] := by
  rw [visible, List.filter_eq_nil_iff]
  intro c hc
  simp [h c hc]

/-- A strip shows all that is visible of it. -/
theorem Strip.visible_clusters (s : Strip α) : visible s.clusters = visible s.shown := by
  rw [clusters, visible_append, visible_append, visible_of_allSpaces s.lead_spaces,
    visible_of_allSpaces s.trail_spaces, List.nil_append, List.append_nil]

/-- The first cluster shown is the first one visible. -/
theorem Strip.head?_visible (s : Strip α) : (visible s.shown).head? = s.shown.head? := by
  have h := s.shown_head
  cases hs : s.shown with
  | nil => rfl
  | cons c cs =>
      have hc : c.isSpace = false := h c (by rw [hs]; rfl)
      simp [visible, hc]

/-- The last cluster shown is the last one visible. -/
theorem Strip.getLast?_visible (s : Strip α) : (visible s.shown).getLast? = s.shown.getLast? := by
  have h := s.shown_last
  rcases List.eq_nil_or_concat' s.shown with hs | ⟨cs, c, hs⟩
  · rw [hs]
    rfl
  · have hc : c.isSpace = false := h c (by rw [hs, List.getLast?_append]; rfl)
    rw [hs, visible_append]
    simp [visible, hc]

/-- What a segment shows reaches from the first cluster visible to the last. -/
theorem visibleRange?_eq_visible (seg : List (Cluster α)) :
    visibleRange? seg =
      match (visible seg).head?, (visible seg).getLast? with
      | some first, some last => some (first.start, last.stop)
      | _, _ => none := rfl

/-- What a segment shows is read off a strip that has its clusters and then
spaces. -/
theorem visibleRange?_eq {s : Strip α} {seg gap : List (Cluster α)} (hg : AllSpaces gap)
    (h : s.clusters = seg ++ gap) :
    visibleRange? seg =
      match s.shown.head?, s.shown.getLast? with
      | some first, some last => some (first.start, last.stop)
      | _, _ => none := by
  have hv : visible seg = visible s.shown := by
    rw [← s.visible_clusters, h, visible_append, visible_of_allSpaces hg, List.append_nil]
  rw [← s.head?_visible, ← s.getLast?_visible, ← hv]
  rfl

/-! ## Cuts into strips -/

/-- A cut is a row of strips, one for each segment.  All but the first show
something, and the first does too unless the clusters begin with a space. -/
theorem Cut.exists_strips {cs : List (Cluster α)} {segs : List (List (Cluster α))}
    (h : Cut cs segs) :
    ∃ strips : List (Strip α),
      strips.flatMap Strip.clusters = cs ∧
      List.Forall₂ (fun s seg => ∃ gap, AllSpaces gap ∧ s.clusters = seg ++ gap) strips segs ∧
      (∀ s ∈ strips.tail, s.shown ≠ []) ∧
      (Opens cs → ∀ s ∈ strips, s.shown ≠ []) := by
  induction h with
  | nil => exact ⟨[], rfl, .nil, by simp, by simp⟩
  | @cons seg gap rest segs hne hg ho _ ih =>
      obtain ⟨strips, hflat, hsegs, _, hall⟩ := ih
      obtain ⟨s, hs⟩ := Strip.exists_clusters_eq seg
      obtain ⟨t, _, ht⟩ := s.exists_longer hg
      rw [hs] at ht
      refine ⟨t :: strips, ?_, .cons ⟨gap, hg, ht⟩ hsegs, hall ho, ?_⟩
      · rw [List.flatMap_cons, hflat, ht]
      · intro hopen u hu
        rcases List.mem_cons.1 hu with rfl | hu
        · intro hshown
          obtain ⟨c, cs, rfl⟩ := List.exists_cons_of_ne_nil hne
          have hspace := Strip.allSpaces_of_shown_eq_nil hshown c (by simp [ht])
          have hnone := hopen c rfl
          rw [hspace] at hnone
          cases hnone
        · exact hall ho u hu

/-! ## Lines -/

/-- Clusters that tile a paragraph: from its start to its end, each one where
the one before ends, none empty, and divided between characters. -/
structure Tiles (paragraph : List Char) (cs : List (Cluster α)) : Prop where
  /-- The first cluster starts where the paragraph does. -/
  first : ∀ c ∈ cs.head?, c.start = 0
  /-- A cluster starts where the one before ends. -/
  joined : cs.IsChain fun a b => a.stop = b.start
  /-- The last cluster ends where the paragraph does. -/
  last : (cs.getLast?.map Cluster.stop).getD 0 = byteSize paragraph
  /-- Clusters are divided between characters. -/
  between : ∀ c ∈ cs, Between paragraph c.start ∧ Between paragraph c.stop
  /-- No cluster is empty. -/
  nonempty : ∀ c ∈ cs, c.start < c.stop

/-- The line that a strip of a paragraph is printed as. -/
inductive Strip.Prints (paragraph : List Char) (s : Strip α) : List Char → Prop where
  /-- Nothing is shown. -/
  | empty : s.shown = [] → Prints paragraph s []
  /-- The text from the first cluster shown to the last. -/
  | text {first last : Cluster α} {line : List Char} :
      s.shown.head? = some first → s.shown.getLast? = some last →
      slice? first.start last.stop paragraph = some line → line ≠ [] → Prints paragraph s line

/-- Clusters that are joined reach from the start of the first to the end of the
last. -/
theorem start_lt_stop {cs : List (Cluster α)} (hj : cs.IsChain fun a b => a.stop = b.start)
    (hne : ∀ c ∈ cs, c.start < c.stop) {first last : Cluster α} (hf : cs.head? = some first)
    (hl : cs.getLast? = some last) : first.start < last.stop := by
  induction cs generalizing first with
  | nil => cases hf
  | cons c cs ih =>
      cases hf
      have hc : c.start < c.stop := hne c (List.mem_cons_self ..)
      cases cs with
      | nil =>
          cases hl
          exact hc
      | cons d ds =>
          rw [List.isChain_cons_cons] at hj
          have hd := ih hj.2 (fun e he => hne e (List.mem_cons_of_mem _ he)) rfl
            (by rwa [List.getLast?_cons_cons] at hl)
          omega

/-- Consecutive clusters of a tiled paragraph name a slice of it. -/
theorem Tiles.exists_slice? {paragraph : List Char} {cs shown : List (Cluster α)}
    (h : Tiles paragraph cs) (hi : shown <:+: cs) {first last : Cluster α}
    (hf : shown.head? = some first) (hl : shown.getLast? = some last) :
    ∃ line, slice? first.start last.stop paragraph = some line ∧ line ≠ [] := by
  have hfirst := hi.subset (List.mem_of_mem_head? hf)
  have hlast := hi.subset (List.mem_of_getLast? hl)
  apply Text.exists_slice? (h.between first hfirst).1 (h.between last hlast).2
  have hjoined := List.IsChain.infix h.joined hi
  exact start_lt_stop hjoined (fun c hc => h.nonempty c (hi.subset hc)) hf hl

/-- The line of a segment is printed from the strip of the segment. -/
theorem Tiles.prints_lineOf {paragraph : List Char} {cs seg gap : List (Cluster α)} {s : Strip α}
    (h : Tiles paragraph cs) (hi : s.clusters <:+: cs) (hg : AllSpaces gap)
    (hs : s.clusters = seg ++ gap) : s.Prints paragraph (lineOf paragraph seg) := by
  rw [lineOf, visibleRange?_eq hg hs]
  have hshown : s.shown <:+: cs := List.IsInfix.trans ⟨s.lead, s.trail, rfl⟩ hi
  rcases List.eq_nil_or_concat' s.shown with hnil | ⟨init, last, hlast⟩
  · rw [hnil]
    exact .empty hnil
  · have hl : s.shown.getLast? = some last := by rw [hlast, List.getLast?_append]; rfl
    obtain ⟨first, hf⟩ : ∃ first, s.shown.head? = some first := by
      rw [hlast]
      cases init with
      | nil => exact ⟨last, rfl⟩
      | cons c cs => exact ⟨c, rfl⟩
    obtain ⟨line, hslice, hne⟩ := h.exists_slice? hshown hf hl
    rw [hf, hl]
    show s.Prints paragraph ((slice? first.start last.stop paragraph).getD [])
    rw [hslice]
    exact .text hf hl hslice hne

/-- The segments of a tiled paragraph are printed from strips that lie in it. -/
theorem Tiles.prints_lines {paragraph : List Char} {cs : List (Cluster α)}
    (h : Tiles paragraph cs) {strips : List (Strip α)} {segs : List (List (Cluster α))}
    (hs : List.Forall₂ (fun s seg => ∃ gap, AllSpaces gap ∧ s.clusters = seg ++ gap) strips segs)
    (hi : ∀ s ∈ strips, s.clusters <:+: cs) :
    List.Forall₂ (Strip.Prints paragraph) strips (segs.map (lineOf paragraph)) := by
  rw [List.forall₂_map_right_iff]
  refine ((List.forall₂_and_left _ _).2 ⟨hi, hs⟩).imp ?_
  rintro s seg ⟨hin, gap, hg, he⟩
  exact h.prints_lineOf hin hg he

/-- A strip that shows something is printed as a line that is not empty. -/
theorem Strip.Prints.ne_nil {paragraph line : List Char} {s : Strip α}
    (h : s.Prints paragraph line) (hs : s.shown ≠ []) : line ≠ [] := by
  cases h with
  | empty he => exact absurd he hs
  | text _ _ _ hne => exact hne

/-- Lines printed from strips that show something are not empty. -/
theorem ne_nil_of_prints {paragraph : List Char} {strips : List (Strip α)}
    {lines : List (List Char)} (h : List.Forall₂ (Strip.Prints paragraph) strips lines)
    (hs : ∀ s ∈ strips, s.shown ≠ []) : ∀ line ∈ lines, line ≠ [] := by
  induction h with
  | nil =>
      intro line hl
      cases hl
  | cons hp _ ih =>
      intro line hl
      rcases List.mem_cons.1 hl with rfl | hl
      · exact hp.ne_nil (hs _ (List.mem_cons_self ..))
      · exact ih (fun s hm => hs s (List.mem_cons_of_mem _ hm)) line hl

/-- What is visible of strips side by side is what they show. -/
theorem visible_flatMap_shown (strips : List (Strip α)) :
    visible (strips.flatMap Strip.shown) = visible (strips.flatMap Strip.clusters) := by
  induction strips with
  | nil => rfl
  | cons s strips ih =>
      rw [List.flatMap_cons, List.flatMap_cons, visible_append, visible_append,
        s.visible_clusters, ih]

theorem lineOf_isInfix (paragraph : List Char) (seg : List (Cluster α)) :
    lineOf paragraph seg <:+: paragraph := by
  rw [lineOf]
  split
  next start stop _ =>
    cases hslice : Text.slice? start stop paragraph with
    | none => exact List.nil_infix
    | some line => exact Text.isInfix_of_slice? hslice
  next => exact List.nil_infix

section Wrap

variable [Zero α] [Add α] [LE α] [DecidableLE α]

/-- Every line is a part of its paragraph. -/
theorem isInfix_of_mem_wrapParagraph {paragraph line : List Char} {cs : List (Cluster α)}
    {width : α} (h : line ∈ wrapParagraph paragraph cs width) : line <:+: paragraph := by
  by_cases hne : cs = []
  · rw [hne, wrapParagraph_nil] at h
    cases List.mem_singleton.1 h
    exact List.nil_infix
  · rw [wrapParagraph_of_ne_nil paragraph hne] at h
    obtain ⟨seg, _, rfl⟩ := List.mem_map.1 h
    exact lineOf_isInfix paragraph seg

/-- The lines of a tiled paragraph print strips, one each and in order.  The
strips side by side are the clusters of the paragraph, and what is visible of
the paragraph is what they show.  Only the first line can be empty. -/
theorem wrapParagraph_prints {paragraph : List Char} {cs : List (Cluster α)}
    (h : Tiles paragraph cs) (width : α) :
    ∃ strips : List (Strip α),
      strips.flatMap Strip.clusters = cs ∧
      List.Forall₂ (Strip.Prints paragraph) strips (wrapParagraph paragraph cs width) ∧
      visible (strips.flatMap Strip.shown) = visible cs ∧
      ∀ line ∈ (wrapParagraph paragraph cs width).tail, line ≠ [] := by
  have hcut := segments_cut width cs
  rw [wrapParagraph]
  cases hsegs : segments width cs with
  | nil =>
      rw [hsegs] at hcut
      cases hcut
      exact ⟨[Strip.blank], rfl, .cons (.empty rfl) .nil, rfl, by simp⟩
  | cons seg segs =>
      rw [hsegs] at hcut
      obtain ⟨strips, hflat, hstrips, htail, _⟩ := hcut.exists_strips
      have hin : ∀ s ∈ strips, s.clusters <:+: cs := by
        intro s hs
        rw [← hflat, List.flatMap_def]
        exact List.infix_of_mem_flatten (List.mem_map_of_mem hs)
      have hprints := h.prints_lines hstrips hin
      refine ⟨strips, hflat, hprints, ?_, ?_⟩
      · rw [visible_flatMap_shown, hflat]
      · cases hprints with
        | cons _ hrest => exact ne_nil_of_prints hrest htail

end Wrap

/-- Clusters of a text of four characters, the second of two bytes, with widths
that are no number, negative, infinite and plain. -/
def oddClusters : List (Cluster Float32) :=
  [⟨0, 1, 0 / 0, true⟩, ⟨1, 3, -1, false⟩, ⟨3, 4, 1 / 0, true⟩, ⟨4, 5, 2, false⟩]

/-- The lines at a width that is no number. -/
theorem wrapParagraph_prints_odd :
    Tiles [' ', 'é', ' ', 'b'] oddClusters ∧
    ∃ strips : List (Strip Float32),
      strips.flatMap Strip.clusters = oddClusters ∧
      List.Forall₂ (Strip.Prints [' ', 'é', ' ', 'b']) strips
        (wrapParagraph [' ', 'é', ' ', 'b'] oddClusters (0 / 0)) ∧
      visible (strips.flatMap Strip.shown) = visible oddClusters ∧
      ∀ line ∈ (wrapParagraph [' ', 'é', ' ', 'b'] oddClusters (0 / 0)).tail, line ≠ [] := by
  have h : Tiles [' ', 'é', ' ', 'b'] oddClusters :=
    ⟨by decide, by decide, by decide, by decide, by decide⟩
  exact ⟨h, wrapParagraph_prints h (0 / 0)⟩

end Colloquy.Typeset
