import Colloquy.Proofs.Typeset.Junctions
import Colloquy.Typeset.Simple

/-!
# Empty lines

A text is wrapped to empty lines alone exactly if nothing of it is visible.  In a paragraph
the line of a segment is empty if the segment is all spaces, and no spaces that are passed
over between two segments count (`Tiles.wrapParagraph_eq_nil_iff`).

With a cluster for each character, which characters are spaces is all that matters, and the
widths of the clusters never do (`Shaper.Charwise.wrap_eq_empty_iff`).
-/

namespace Colloquy.Typeset

open Colloquy.Text

variable {α : Type u} {cs seg : List (Cluster α)} {paragraph : List Char}

/-! ## Paragraphs -/

/-- The line of a segment is empty if the segment is all spaces. -/
theorem Tiles.lineOf_eq_nil_iff (h : Tiles paragraph cs) (hi : seg <:+: cs) :
    lineOf paragraph seg = [] ↔ AllSpaces seg := by
  obtain ⟨s, rfl⟩ := Strip.exists_clusters_eq seg
  have hprints := h.prints_lineOf hi allSpaces_nil (List.append_nil _).symm
  constructor
  · intro hline
    by_contra hall
    exact hprints.ne_nil (fun hshown => hall (Strip.allSpaces_of_shown_eq_nil hshown)) hline
  · intro hall
    rw [lineOf, visibleRange?_eq_visible, visible_of_allSpaces hall]
    rfl

section Wrap

variable [Zero α] [Add α] [LE α] [DecidableLE α]

/-- All lines of a paragraph are empty if it is all spaces. -/
theorem Tiles.wrapParagraph_eq_nil_iff (h : Tiles paragraph cs) (width : α) :
    (∀ line ∈ wrapParagraph paragraph cs width, line = []) ↔ AllSpaces cs := by
  by_cases hne : cs = []
  · subst hne
    rw [wrapParagraph_nil]
    simp [allSpaces_nil]
  · have hcut := segments_cut width cs
    rw [wrapParagraph_of_ne_nil paragraph hne, List.forall_mem_map, hcut.allSpaces_iff]
    exact forall₂_congr fun seg hseg => h.lineOf_eq_nil_iff (hcut.isInfix_of_mem hseg)

/-- An empty text without clusters is one empty line. -/
theorem wrap_empty {shaper : Shaper α} (h : shaper "" = []) (width : α) :
    shaper.wrap "" width = [""] := by
  have hclusters : shaper (String.ofList []) = [] := h
  have hlines := wrap_ofList shaper width (p := []) List.not_mem_nil
  rw [hclusters, wrapParagraph_nil] at hlines
  exact hlines

end Wrap

/-! ## A cluster for each character -/

/-- Clusters that stand for one character each, the first one at a given place.  Their widths
are arbitrary. -/
inductive Charwise (space : Char → Bool) : Nat → List Char → List (Cluster α) → Prop where
  /-- No character is left. -/
  | nil (place : Nat) : Charwise space place [] []
  /-- A character and its cluster. -/
  | cons {place : Nat} {c : Char} {rest : List Char} {cs : List (Cluster α)} (advance : α) :
      Charwise space (place + c.utf8Size) rest cs →
      Charwise space place (c :: rest) (⟨place, place + c.utf8Size, advance, space c⟩ :: cs)

namespace Charwise

variable {space : Char → Bool} {place : Nat} {text : List Char}

theorem allSpaces_iff (h : Charwise space place text cs) :
    AllSpaces cs ↔ ∀ c ∈ text, space c = true := by
  induction h with
  | nil => simp [allSpaces_nil]
  | cons advance _ ih =>
      rw [List.forall_mem_cons, ← ih]
      exact List.forall_mem_cons

theorem start_of_head? (h : Charwise space place text cs) : ∀ c ∈ cs.head?, c.start = place := by
  cases h with
  | nil => simp
  | cons => simp

theorem joined (h : Charwise space place text cs) :
    cs.IsChain fun a b => a.stop = b.start := by
  induction h with
  | nil => exact .nil
  | cons advance hrest ih =>
      exact List.isChain_cons.2 ⟨fun d hd => (hrest.start_of_head? d hd).symm, ih⟩

theorem stop_getLast? (h : Charwise space place text cs) :
    (cs.getLast?.map Cluster.stop).getD place = place + byteSize text := by
  induction h with
  | nil => rfl
  | @cons place c rest cs advance _ ih =>
      rw [byteSize_cons, ← Nat.add_assoc, ← ih, List.getLast?_cons]
      cases cs.getLast? <;> rfl

/-- A cluster has the place of its character. -/
theorem exists_char_of_mem (h : Charwise space place text cs) {d : Cluster α} (hd : d ∈ cs) :
    ∃ before c after, text = before ++ c :: after ∧ d.start = place + byteSize before ∧
      d.stop = d.start + c.utf8Size := by
  induction h with
  | nil => cases hd
  | @cons place c rest cs advance _ ih =>
      rcases List.mem_cons.1 hd with rfl | hd
      · exact ⟨[], c, rest, rfl, rfl, rfl⟩
      · obtain ⟨before, c', after, rfl, hstart, hstop⟩ := ih hd
        refine ⟨c :: before, c', after, rfl, ?_, hstop⟩
        rw [hstart, byteSize_cons, Nat.add_assoc]

/-- The clusters of all characters tile the text. -/
theorem tiles (h : Charwise space 0 text cs) : Tiles text cs := by
  refine ⟨h.start_of_head?, h.joined, ?_, fun d hd => ?_, fun d hd => ?_⟩
  · rw [h.stop_getLast?, Nat.zero_add]
  · obtain ⟨before, c, after, rfl, hstart, hstop⟩ := h.exists_char_of_mem hd
    rw [Nat.zero_add] at hstart
    refine ⟨⟨before, c :: after, rfl, hstart.symm⟩, before ++ [c], after, by simp, ?_⟩
    rw [hstop, hstart, byteSize_append]
    simp
  · obtain ⟨before, c, after, -, -, hstop⟩ := h.exists_char_of_mem hd
    rw [hstop]
    exact Nat.lt_add_of_pos_right c.utf8Size_pos

end Charwise

theorem charwise_charClusters (advance : Char → α) (space : Char → Bool) (text : List Char) :
    ∀ place, Charwise space place text (charClusters advance space place text) := by
  induction text with
  | nil => exact .nil
  | cons c text ih => exact fun place => .cons (advance c) (ih (place + c.utf8Size))

/-- A shaper that makes a cluster of each character, and says of some that they are spaces. -/
def Shaper.Charwise (shaper : Shaper α) (space : Char → Bool) : Prop :=
  ∀ text : String, Typeset.Charwise space 0 text.toList (shaper text)

theorem charwise_perChar (advance : Char → α) (space : Char → Bool) :
    (perChar advance space).Charwise space :=
  fun text => charwise_charClusters advance space text.toList 0

/-- All lines of a text without newlines are empty if its characters are all spaces. -/
theorem Shaper.Charwise.wrap_eq_empty_iff [Zero α] [Add α] [LE α] [DecidableLE α]
    {shaper : Shaper α} {space : Char → Bool} (h : shaper.Charwise space) {text : String}
    (hone : '\n' ∉ text.toList) (width : α) :
    (∀ line ∈ shaper.wrap text width, line = "") ↔ ∀ c ∈ text.toList, space c = true := by
  have hlines := wrap_ofList shaper width hone
  rw [String.ofList_toList] at hlines
  rw [hlines, List.forall_mem_map, ← (h text).allSpaces_iff,
    ← (h text).tiles.wrapParagraph_eq_nil_iff width]
  exact forall₂_congr fun line _ => String.ofList_eq_empty_iff

end Colloquy.Typeset
