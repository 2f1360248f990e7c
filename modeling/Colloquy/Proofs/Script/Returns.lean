import Colloquy.Proofs.Script.Reprint

/-!
# Carriage returns at the ends of lines

Some editors put a carriage return before every newline.  A script without carriage
returns is read the same when they are put there, and none of them gets into a text of
the graph (`read_withReturns`).

The lines are the same (`lines_withReturns`), so the first part holds of a body as of
any other line.  The second holds of any script without carriage returns
(`return_not_mem_texts`).
-/

namespace Colloquy.Text

/-! ## Lines with carriage returns -/

/-- A text with a carriage return before every newline. -/
def withReturns (cs : List Char) : List Char :=
  cs.flatMap fun c => if c = '\n' then ['\r', '\n'] else [c]

/-- Pieces with a carriage return behind each but the last. -/
def returned : List (List Char) → List (List Char)
  | [] => []
  | [p] => [p]
  | p :: q :: ps => (p ++ ['\r']) :: returned (q :: ps)

theorem pieces_withReturns (cs : List Char) : pieces (withReturns cs) = returned (pieces cs) := by
  induction cs with
  | nil => rfl
  | cons c cs ih =>
      obtain ⟨p, ps, hp⟩ := List.exists_cons_of_ne_nil (pieces_ne_nil cs)
      by_cases hc : c = '\n'
      · have hfirst : withReturns (c :: cs) = ['\r'] ++ '\n' :: withReturns cs := by
          rw [withReturns, List.flatMap_cons, if_pos hc]
          rfl
        rw [hfirst, pieces_append_newline (by decide), ih, pieces, if_pos hc, hp]
        rfl
      · have hfirst : withReturns (c :: cs) = c :: withReturns cs := by
          rw [withReturns, List.flatMap_cons, if_neg hc]
          rfl
        rw [hfirst, pieces, if_neg hc, ih, pieces, if_neg hc, hp]
        cases ps with
        | nil => rfl
        | cons q qs => rfl

theorem dropReturn_concat_return (cs : List Char) : dropReturn (cs ++ ['\r']) = cs := by
  rw [dropReturn, if_pos List.getLast?_concat, List.dropLast_concat]

/-- One carriage return more at the end of a piece is no part of the line. -/
theorem linesOfPieces_returned {ps : List (List Char)} (h : ∀ p ∈ ps, '\r' ∉ p) :
    linesOfPieces (returned ps) = linesOfPieces ps := by
  induction ps with
  | nil => rfl
  | cons p ps ih =>
      obtain ⟨hp, hps⟩ := List.forall_mem_cons.1 h
      have hdrop : dropReturn p = p :=
        dropReturn_eq_self fun hlast => hp (List.mem_of_getLast? hlast)
      cases ps with
      | nil => rfl
      | cons q qs =>
          obtain ⟨r, rs, hr⟩ : ∃ r rs, returned (q :: qs) = r :: rs := by
            cases qs with
            | nil => exact ⟨_, _, rfl⟩
            | cons q' qs => exact ⟨_, _, rfl⟩
          have hrest := ih hps
          rw [hr] at hrest
          rw [returned, hr, linesOfPieces, hrest, linesOfPieces, dropReturn_concat_return, hdrop,
            hdrop]

theorem lines_withReturns {cs : List Char} (h : '\r' ∉ cs) :
    lines (withReturns cs) = lines cs := by
  rw [lines, pieces_withReturns, linesOfPieces_returned, lines]
  exact fun p hp hr => h (subset_of_mem_pieces hp hr)

end Colloquy.Text

namespace Colloquy.Script

open Colloquy.Text

/-- Carriage returns before the newlines of a script that has none make no difference,
and none gets into the graph. -/
theorem read_withReturns {source : String} (h : '\r' ∉ source.toList) :
    read (String.ofList (withReturns source.toList)) = read source ∧
      ∀ g, (read (String.ofList (withReturns source.toList))).value = .ok g →
        ∀ s ∈ g.texts, '\r' ∉ s.toList := by
  have hread : read (String.ofList (withReturns source.toList)) = read source := by
    rw [read, String.toList_ofList, lines_withReturns h, read]
  refine ⟨hread, fun g hg => ?_⟩
  rw [hread] at hg
  exact return_not_mem_texts hg h

/-- A script with an empty line in a body that is not closed, and no newline at the end. -/
def unended : String := "state: a\noption: Go -> a\ntext:\n<<<\n\nHi \n\nthere"

theorem read_withReturns_unended :
    (read "state: a\r\noption: Go -> a\r\ntext:\r\n<<<\r\n\r\nHi \r\n\r\nthere").value =
        .ok { nodes := [⟨"a", "\nHi \n\nthere", [⟨"Go", "a"⟩]⟩], start := "a" } ∧
      ∀ s ∈ Graph.texts { nodes := [⟨"a", "\nHi \n\nthere", [⟨"Go", "a"⟩]⟩], start := "a" },
        '\r' ∉ s.toList := by
  have hwritten : String.ofList (withReturns unended.toList) =
      "state: a\r\noption: Go -> a\r\ntext:\r\n<<<\r\n\r\nHi \r\n\r\nthere" := by decide
  have hgraph : (read unended).value =
      .ok { nodes := [⟨"a", "\nHi \n\nthere", [⟨"Go", "a"⟩]⟩], start := "a" } := by decide
  obtain ⟨hread, hlacks⟩ := @read_withReturns unended (by decide)
  rw [hread] at hlacks
  rw [← hwritten, hread]
  exact ⟨hgraph, hlacks _ hgraph⟩

end Colloquy.Script
