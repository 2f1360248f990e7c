import Colloquy.Proofs.Typeset.Strips
import Colloquy.Typeset.Simple

/-!
# Clusters of single characters

A shaper that makes a cluster of every character shapes a part of a text as it shapes the
text, only from another place on.  So the clusters of a text divide where its characters
do (`charClusters_eq_append`), and what a strip of them shows is a part of the text
(`exists_line_of_strip`).

A *flush* line begins and ends with no space.  The clusters of a flush line show all of
it, wherever it stands (`lineOf_charClusters`).
-/

namespace Colloquy.Typeset

open Colloquy.Text

variable {α : Type u} {advance : Char → α} {space : Char → Bool} {place : Nat}

/-! ## Dividing -/

theorem length_charClusters (cs : List Char) :
    (charClusters advance space place cs).length = cs.length := by
  induction cs generalizing place with
  | nil => rfl
  | cons c cs ih => rw [charClusters, List.length_cons, ih, List.length_cons]

theorem charClusters_append (cs ds : List Char) :
    charClusters advance space place (cs ++ ds) =
      charClusters advance space place cs ++
        charClusters advance space (place + byteSize cs) ds := by
  induction cs generalizing place with
  | nil => rfl
  | cons c cs ih =>
      rw [List.cons_append, charClusters, charClusters, ih, byteSize_cons, Nat.add_assoc,
        List.cons_append]

/-- The clusters of characters divide where the characters do. -/
theorem charClusters_eq_append {cs : List Char} {front back : List (Cluster α)}
    (h : charClusters advance space place cs = front ++ back) :
    ∃ before after, cs = before ++ after ∧ front = charClusters advance space place before ∧
      back = charClusters advance space (place + byteSize before) after := by
  have hdivided := h
  rw [← List.take_append_drop front.length cs, charClusters_append] at hdivided
  have hlen : front.length ≤ cs.length := by
    rw [← @length_charClusters _ advance space place cs, h,
      List.length_append]
    exact Nat.le_add_right ..
  obtain ⟨hfront, hback⟩ := List.append_inj hdivided (by
    rw [length_charClusters, List.length_take_of_le hlen])
  exact ⟨_, _, (List.take_append_drop ..).symm, hfront.symm, hback.symm⟩

/-! ## The first and the last -/

theorem head?_charClusters (cs : List Char) :
    (charClusters advance space place cs).head? =
      cs.head?.map fun c => ⟨place, place + c.utf8Size, advance c, space c⟩ := by
  cases cs <;> rfl

theorem getLast?_charClusters (cs : List Char) :
    (charClusters advance space place cs).getLast? =
      cs.getLast?.map fun c =>
        ⟨place + byteSize cs.dropLast, place + byteSize cs, advance c, space c⟩ := by
  rcases List.eq_nil_or_concat' cs with rfl | ⟨init, c, rfl⟩
  · rfl
  · rw [charClusters_append, List.dropLast_concat, byteSize_append]
    simp [charClusters, Nat.add_assoc]

/-- Characters that begin and end with no space. -/
structure Flush (space : Char → Bool) (line : List Char) : Prop where
  /-- The first character is no space. -/
  first : ∀ c ∈ line.head?, space c = false
  /-- The last character is no space. -/
  last : ∀ c ∈ line.getLast?, space c = false

theorem flush_nil (space : Char → Bool) : Flush space [] where
  first := by simp
  last := by simp

theorem opens_charClusters_iff {cs : List Char} :
    Opens (charClusters advance space place cs) ↔ ∀ c ∈ cs.head?, space c = false := by
  rw [Opens, head?_charClusters]
  cases cs <;> simp

theorem last_charClusters_iff {cs : List Char} :
    (∀ c ∈ (charClusters advance space place cs).getLast?, c.isSpace = false) ↔
      ∀ c ∈ cs.getLast?, space c = false := by
  rw [getLast?_charClusters]
  cases cs.getLast? <;> simp

/-! ## Lines -/

/-- The clusters of a flush line show the line, wherever it stands. -/
theorem lineOf_charClusters {line : List Char} (h : Flush space line) (before after : List Char) :
    lineOf (before ++ (line ++ after)) (charClusters advance space (byteSize before) line) =
      line := by
  let s : Strip α :=
    { lead := [], shown := charClusters advance space (byteSize before) line, trail := []
      lead_spaces := allSpaces_nil, trail_spaces := allSpaces_nil
      shown_head := opens_charClusters_iff.2 h.first
      shown_last := last_charClusters_iff.2 h.last }
  have hs : s.clusters = charClusters advance space (byteSize before) line ++ [] := rfl
  rw [lineOf, visibleRange?_eq allSpaces_nil hs, head?_charClusters, getLast?_charClusters]
  rcases List.eq_nil_or_concat' line with rfl | ⟨init, last, rfl⟩
  · rfl
  · obtain ⟨first, hfirst⟩ : ∃ first, (init ++ [last]).head? = some first := by
      cases init <;> exact ⟨_, rfl⟩
    simp only [hfirst, List.getLast?_concat, Option.map_some]
    rw [slice?_append, Option.getD_some]

/-- What a strip shows of the clusters of characters is a part of them, and flush. -/
theorem exists_line_of_strip {cs : List Char} {s : Strip α}
    (h : s.clusters <:+: charClusters advance space 0 cs) :
    ∃ before line after, cs = before ++ (line ++ after) ∧ Flush space line ∧
      s.shown = charClusters advance space (byteSize before) line := by
  obtain ⟨front, back, hin⟩ := h
  have hdivided : charClusters advance space 0 cs =
      (front ++ s.lead) ++ (s.shown ++ (s.trail ++ back)) := by
    rw [← hin, Strip.clusters]
    simp only [List.append_assoc]
  obtain ⟨before, rest, rfl, _, hrest⟩ := charClusters_eq_append hdivided
  obtain ⟨line, after, rfl, hline, _⟩ := charClusters_eq_append hrest.symm
  rw [Nat.zero_add] at hline
  refine ⟨before, line, after, rfl, ⟨?_, ?_⟩, hline⟩
  · have hopens := s.shown_head
    rw [hline] at hopens
    exact opens_charClusters_iff.1 hopens
  · have hlast := s.shown_last
    rw [hline] at hlast
    exact last_charClusters_iff.1 hlast

end Colloquy.Typeset
