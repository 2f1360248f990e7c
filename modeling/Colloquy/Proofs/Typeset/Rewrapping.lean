import Colloquy.Proofs.Text.Lines
import Colloquy.Proofs.Typeset.Characters
import Colloquy.Proofs.Typeset.Junctions
import Colloquy.Proofs.Typeset.Widths

/-!
# Lines measured and wrapped again

A line is cut out of a paragraph with the widths its characters have there.  Shaped on
its own it has clusters of its own.  Where each character is a cluster, and its width
depends on nothing else, both come to the same.  So a line is no wider than the width it
was wrapped to, unless it is a single character, and wrapped to that width again it stays
as it is (`wrap_line`).

What is known of a line is said by `Settled`.  Every line of a text is settled, and what is
settled is wrapped as one line.
-/

namespace Colloquy.Typeset

open Colloquy.Text

variable {width : ℚ} {paragraph line : List Char} {cs : List (Cluster ℚ)}

/-! ## What a line of a paragraph shows -/

/-- A line of a paragraph is that of a strip in it, which shows what fits or one
cluster. -/
theorem exists_strip_of_mem_wrapParagraph (hn : NonNeg cs)
    (h : line ∈ wrapParagraph paragraph cs width) :
    ∃ s : Strip ℚ, s.clusters <:+: cs ∧ line = lineOf paragraph s.shown ∧
      (totalAdvance s.shown ≤ width ∨ s.shown.length ≤ 1) := by
  by_cases hne : cs = []
  · subst hne
    rw [wrapParagraph_nil] at h
    cases List.mem_singleton.1 h
    exact ⟨Strip.blank, List.infix_rfl, rfl, .inr (Nat.zero_le 1)⟩
  · rw [wrapParagraph_of_ne_nil paragraph hne] at h
    obtain ⟨seg, hseg, rfl⟩ := List.mem_map.1 h
    have hin : seg <:+: cs := (segments_cut width cs).isInfix_of_mem hseg
    obtain ⟨s, hs⟩ := Strip.exists_clusters_eq seg
    have hs' : s.clusters = seg ++ [] := by rw [hs, List.append_nil]
    have hns : NonNeg s.clusters := fun c hc => hn c (hin.subset (hs ▸ hc))
    exact ⟨s, hs ▸ hin, lineOf_eq_lineOf_shown paragraph allSpaces_nil hs',
      (segments_keeps hn width seg hseg).shown allSpaces_nil hs' hns⟩

/-! ## Settled lines -/

variable {advance : Char → ℚ} {space : Char → Bool}

theorem totalAdvance_charClusters (place : Nat) (cs : List Char) :
    totalAdvance (charClusters advance space place cs) = (cs.map advance).sum := by
  induction cs generalizing place with
  | nil => rfl
  | cons c cs ih => rw [charClusters, totalAdvance_cons, ih, List.map_cons, List.sum_cons]

theorem nonNeg_charClusters (hn : ∀ c, 0 ≤ advance c) (space : Char → Bool) (cs : List Char) :
    NonNeg (charClusters advance space 0 cs) := by
  have hall := nonNeg_perChar hn space (String.ofList cs)
  rwa [perChar, String.toList_ofList] at hall

/-- What a line is known to be that was wrapped to a width: flush, and no wider than that or
a single character. -/
structure Settled (advance : Char → ℚ) (space : Char → Bool) (width : ℚ) (line : List Char) :
    Prop where
  /-- It begins and ends with no space. -/
  flush : Flush space line
  /-- It fits, or there is nothing to break. -/
  fits : (line.map advance).sum ≤ width ∨ line.length ≤ 1

theorem settled_nil : Settled advance space width [] where
  flush := flush_nil space
  fits := .inr (Nat.zero_le 1)

/-- Every line of a paragraph is settled. -/
theorem settled_of_mem_wrapParagraph (hn : ∀ c, 0 ≤ advance c)
    (h : line ∈ wrapParagraph paragraph (charClusters advance space 0 paragraph) width) :
    Settled advance space width line := by
  obtain ⟨s, hin, rfl, hfits⟩ :=
    exists_strip_of_mem_wrapParagraph (nonNeg_charClusters hn space paragraph) h
  obtain ⟨before, shown, after, rfl, hflush, hs⟩ := exists_line_of_strip hin
  rw [hs, lineOf_charClusters hflush]
  rw [hs, totalAdvance_charClusters, length_charClusters] at hfits
  exact ⟨hflush, hfits⟩

theorem mem_wrapPieces {α : Type u} [Zero α] [Add α] [LE α] [DecidableLE α] {shaper : Shaper α}
    {width : α} {ps : List (List Char)} (h : line ∈ wrapPieces shaper width ps) :
    line = [] ∨ ∃ p ∈ ps, line ∈ wrapParagraph p (shaper (String.ofList p)) width := by
  induction ps with
  | nil => cases h
  | cons p ps ih =>
      by_cases hps : ps = []
      · subst hps
        exact .inr ⟨p, List.mem_singleton_self p, h⟩
      · rw [wrapPieces_cons shaper width p hps, List.mem_append, List.mem_append] at h
        rcases h with h | h | h
        · exact .inr ⟨p, List.mem_cons_self .., h⟩
        · rw [openingLine] at h
          split at h
          · exact .inl (List.mem_singleton.1 h)
          · cases h
        · refine (ih h).imp_right ?_
          rintro ⟨q, hq, hl⟩
          exact ⟨q, List.mem_cons_of_mem _ hq, hl⟩

/-- Every line of a text is settled, and has no newline. -/
theorem settled_of_mem_wrapPieces (hn : ∀ c, 0 ≤ advance c) {text : List Char}
    (h : line ∈ wrapPieces (perChar advance space) width (pieces text)) :
    Settled advance space width line ∧ '\n' ∉ line := by
  rcases mem_wrapPieces h with rfl | ⟨p, hp, hl⟩
  · exact ⟨settled_nil, List.not_mem_nil⟩
  · have hnewline : '\n' ∉ line := fun hm =>
      newline_not_mem_of_mem_pieces hp ((isInfix_of_mem_wrapParagraph hl).subset hm)
    rw [perChar, String.toList_ofList] at hl
    exact ⟨settled_of_mem_wrapParagraph hn hl, hnewline⟩

/-! ## Wrapping a line -/

theorem segments_singleton (width : ℚ) (c : Cluster ℚ) : segments width [c] = [[c]] := by
  simp [segments, pack, dropSpaces]

/-- What is settled is wrapped as one line. -/
theorem Settled.wrapParagraph_eq (hn : ∀ c, 0 ≤ advance c)
    (h : Settled advance space width line) :
    wrapParagraph line (charClusters advance space 0 line) width = [line] := by
  by_cases hline : line = []
  · rw [hline]
    exact wrapParagraph_nil [] width
  have hne : charClusters advance space 0 line ≠ [] := by
    cases line with
    | nil => exact absurd rfl hline
    | cons c cs => exact List.cons_ne_nil _ _
  have hsegments : segments width (charClusters advance space 0 line) =
      [charClusters advance space 0 line] := by
    rcases h.fits with hfits | hone
    · rw [← totalAdvance_charClusters 0 line] at hfits
      exact segments_of_fits (nonNeg_charClusters hn space line) hne hfits
    · obtain ⟨c, rfl⟩ := List.length_eq_one_iff.1
        (Nat.le_antisymm hone (List.length_pos_of_ne_nil hline))
      exact segments_singleton width _
  have hshown : lineOf line (charClusters advance space 0 line) = line := by
    have hflush := @lineOf_charClusters _ advance space line h.flush [] []
    rwa [List.append_nil, List.nil_append, byteSize_nil] at hflush
  rw [wrapParagraph_of_ne_nil line hne, hsegments, List.map_singleton, hshown]

/-- Where each character is a cluster of a width of its own, which is not negative, a line
of a text is no wider than what the text was wrapped to, or is one character at most.
Wrapped again it is that line. -/
theorem wrap_line (hn : ∀ c, 0 ≤ advance c) (space : Char → Bool) (text : String) (width : ℚ) :
    ∀ line ∈ (perChar advance space).wrap text width,
      ((perChar advance space).measure line ≤ width ∨ line.length ≤ 1) ∧
        (perChar advance space).wrap line width = [line] := by
  intro line hline
  rw [Shaper.wrap] at hline
  obtain ⟨cs, hcs, rfl⟩ := List.mem_map.1 hline
  obtain ⟨hsettled, hnewline⟩ := settled_of_mem_wrapPieces hn hcs
  constructor
  · rw [Shaper.measure, perChar, String.toList_ofList, totalAdvance_charClusters,
      String.length_ofList]
    exact hsettled.fits
  · rw [wrap_ofList _ _ hnewline, perChar, String.toList_ofList, hsettled.wrapParagraph_eq hn,
      List.map_singleton]

/-- How wide the characters of a broadsheet are. -/
def broadsheetAdvance (c : Char) : ℚ :=
  if c = 'w' then 5 / 2 else if c = 'i' then 1 / 2 else if c = ' ' then 1 / 3 else 1

/-- The shaper of a broadsheet. -/
def broadsheet : Shaper ℚ := perChar broadsheetAdvance (· == ' ')

/-- Of the lines of a text with an empty paragraph in it, one is a letter too wide for it
and one has a space inside. -/
theorem wrap_line_broadsheet :
    (∀ c, 0 ≤ broadsheetAdvance c) ∧
    broadsheet.wrap "  now\n\n i i" 2 = ["", "no", "w", "", "", "i i"] ∧
    ¬ broadsheet.measure "w" ≤ 2 ∧ broadsheet.wrap "w" 2 = ["w"] ∧
    broadsheet.measure "i i" ≤ 2 ∧ broadsheet.wrap "i i" 2 = ["i i"] := by
  have hn : ∀ c, 0 ≤ broadsheetAdvance c := by
    intro c
    rw [broadsheetAdvance]
    split_ifs <;> norm_num
  have hlines : broadsheet.wrap "  now\n\n i i" 2 = ["", "no", "w", "", "", "i i"] := by cbv
  have hbroad : ¬ broadsheet.measure "w" ≤ 2 := by decide +kernel
  have hwrapped := wrap_line hn (· == ' ') "  now\n\n i i" 2
  obtain ⟨-, hw⟩ := hwrapped "w" (hlines ▸ by decide)
  obtain ⟨hfits, hi⟩ := hwrapped "i i" (hlines ▸ by decide)
  exact ⟨hn, hlines, hbroad, hw, hfits.resolve_right (by decide), hi⟩

end Colloquy.Typeset
