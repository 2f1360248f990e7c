import Colloquy.Proofs.Text.Lines
import Colloquy.Proofs.Typeset.Strips
import Mathlib

/-!
# Wrapping texts put together

Two texts with a newline between them are wrapped each on its own, and the newline may
leave empty lines at the junction: one where it follows another newline, and one where
another follows it (`wrap_append`).  So all lines of a text are those of its paragraphs
and one for each newline right behind another.

In the lines of the whole the empty line stands before those of the empty paragraph it
belongs to.  A text that ends with a newline gets its empty line afterwards.  That comes to
the same, for an empty paragraph has only empty lines, however it is shaped.
-/

namespace Colloquy.Typeset

variable {α : Type u} [Zero α] [Add α] [LE α] [DecidableLE α]
variable (shaper : Shaper α) (width : α) {ps qs : List (List Char)}

/-! ## Lines at a junction -/

/-- The empty line that pieces get at their end when others come behind them. -/
def closingLine (ps : List (List Char)) : List (List Char) :=
  if ps.tail.getLast? = some [] then [[]] else []

/-- An empty line does as well before as behind those of an empty paragraph. -/
theorem wrapParagraph_empty_comm (cs : List (Cluster α)) :
    [] :: wrapParagraph [] cs width = wrapParagraph [] cs width ++ [[]] := by
  have hempty : ∀ line ∈ wrapParagraph [] cs width, line = [] := by
    intro line hl
    exact List.infix_nil.1 (isInfix_of_mem_wrapParagraph hl)
  rw [List.eq_replicate_of_mem hempty, ← List.replicate_succ, ← List.replicate_succ']

/-- The line that the first of some pieces gets for having others in front comes at their
end if it is the last as well. -/
theorem openingLine_append (p r : List Char) (rs : List (List Char)) (hq : qs ≠ []) :
    openingLine (r :: rs ++ qs) ++ (wrapPieces shaper width (r :: rs) ++ closingLine (r :: rs)) =
      openingLine (r :: rs) ++
        (wrapPieces shaper width (r :: rs) ++ closingLine (p :: r :: rs)) := by
  obtain ⟨q, qs, rfl⟩ := List.exists_cons_of_ne_nil hq
  cases rs with
  | nil =>
      by_cases hr : r = []
      · subst hr
        simpa [openingLine, closingLine, wrapPieces] using
          wrapParagraph_empty_comm width (shaper (String.ofList []))
      · simp [openingLine, closingLine, hr]
  | cons s ss =>
      have hopening : openingLine (r :: s :: ss ++ q :: qs) = openingLine (r :: s :: ss) := rfl
      have hclosing : closingLine (p :: r :: s :: ss) = closingLine (r :: s :: ss) := by
        rw [closingLine, closingLine, List.tail_cons, List.tail_cons, List.getLast?_cons_cons]
      rw [hopening, hclosing]

/-- Pieces are wrapped in two parts, with the lines of the junction between them. -/
theorem wrapPieces_append (hp : ps ≠ []) (hq : qs ≠ []) :
    wrapPieces shaper width (ps ++ qs) =
      wrapPieces shaper width ps ++
        (closingLine ps ++ (openingLine qs ++ wrapPieces shaper width qs)) := by
  induction ps with
  | nil => exact absurd rfl hp
  | cons p ps ih =>
      cases ps with
      | nil =>
          rw [List.singleton_append, wrapPieces_cons shaper width p hq]
          rfl
      | cons r rs =>
          have hrest := ih (List.cons_ne_nil r rs)
          have hjoint := openingLine_append shaper width p r rs hq
          generalize openingLine qs ++ wrapPieces shaper width qs = behind at hrest ⊢
          rw [List.cons_append, wrapPieces_cons shaper width p (by simp), hrest,
            wrapPieces_cons shaper width p (List.cons_ne_nil r rs)]
          calc
            _ = wrapParagraph p (shaper (String.ofList p)) width ++
                (openingLine (r :: rs ++ qs) ++
                  (wrapPieces shaper width (r :: rs) ++ closingLine (r :: rs))) ++ behind := by
              simp only [List.append_assoc]
            _ = wrapParagraph p (shaper (String.ofList p)) width ++
                (openingLine (r :: rs) ++
                  (wrapPieces shaper width (r :: rs) ++ closingLine (p :: r :: rs))) ++ behind := by
              rw [hjoint]
            _ = _ := by simp only [List.append_assoc]

/-! ## Counting lines -/

theorem length_openingLine (ps : List (List Char)) :
    (openingLine ps).length = if ps.dropLast.head? = some [] then 1 else 0 := by
  rw [openingLine]
  split <;> rfl

theorem length_wrapPieces (ps : List (List Char)) :
    (wrapPieces shaper width ps).length =
      (ps.map fun p => (wrapParagraph p (shaper (String.ofList p)) width).length).sum +
        ps.tail.dropLast.count [] := by
  induction ps with
  | nil => rfl
  | cons p ps ih =>
      cases ps with
      | nil => simp [wrapPieces]
      | cons q qs =>
          have hinner := Text.count_dropLast_cons q qs
          rw [wrapPieces_cons shaper width p (List.cons_ne_nil q qs), List.length_append,
            List.length_append, length_openingLine, ih]
          simp only [List.map_cons, List.sum_cons, List.tail_cons] at hinner ⊢
          omega

/-! ## Texts -/

/-- A paragraph on its own has the lines it has in any text. -/
theorem wrap_ofList {p : List Char} (h : '\n' ∉ p) :
    shaper.wrap (String.ofList p) width =
      (wrapParagraph p (shaper (String.ofList p)) width).map String.ofList := by
  rw [Shaper.wrap, String.toList_ofList, Text.pieces_of_newline_not_mem h, wrapPieces]

/-- Two texts with a newline between them have the lines of both, and between them an
empty line if the first ends with a newline and another one if the second begins with one.
So a text has the lines of its paragraphs and one more for each newline right behind
another. -/
theorem wrap_append :
    (∀ a b : String, shaper.wrap (a ++ "\n" ++ b) width =
      shaper.wrap a width ++ (if a.toList.getLast? = some '\n' then [""] else []) ++
        (if b.toList.head? = some '\n' then [""] else []) ++ shaper.wrap b width) ∧
    ∀ text : String, (shaper.wrap text width).length =
      ((Text.pieces text.toList).map fun p => (shaper.wrap (String.ofList p) width).length).sum +
        Text.newlinePairs text.toList := by
  constructor
  · intro a b
    have hpieces : Text.pieces (a ++ "\n" ++ b).toList =
        Text.pieces a.toList ++ Text.pieces b.toList := by
      rw [← Text.pieces_append]
      simp
    rw [Shaper.wrap, hpieces, wrapPieces_append shaper width (Text.pieces_ne_nil _)
      (Text.pieces_ne_nil _)]
    simp only [Text.getLast?_eq_newline_iff, Text.head?_eq_newline_iff, closingLine, openingLine,
      Shaper.wrap, List.map_append, List.append_assoc, apply_ite (List.map String.ofList),
      List.map_cons, List.map_nil]
  · intro text
    rw [Shaper.wrap, List.length_map, length_wrapPieces, Text.newlinePairs_eq_count]
    congr 2
    refine List.map_congr_left fun p hp => ?_
    rw [wrap_ofList shaper width (Text.newline_not_mem_of_mem_pieces hp), List.length_map]

end Colloquy.Typeset
