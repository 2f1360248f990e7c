import Colloquy.Text.Lines

/-!
# Pieces and lines

The pieces of a text are what lies between its newlines: no piece has a newline
and put back together they are the text.  A line is a piece without the carriage
returns at its end.

Lines written one after the other, each with a newline behind it, are read back
as those lines, as long as no line has a newline or ends in a carriage return
(`lines_written`).  The lines of whole lines and of what follows them do not mix
(`lines_append`).
-/

namespace Colloquy.Text

/-! ## Pieces -/

/-- A newline ends the first piece. -/
theorem pieces_append_newline {line : List Char} (h : '\n' ∉ line) (rest : List Char) :
    pieces (line ++ '\n' :: rest) = line :: pieces rest := by
  induction line with
  | nil => rw [List.nil_append, pieces, if_pos rfl]
  | cons c line ih =>
      rw [List.mem_cons, not_or] at h
      rw [List.cons_append, pieces, if_neg (fun he => h.1 he.symm), ih h.2]

theorem pieces_of_newline_not_mem {line : List Char} (h : '\n' ∉ line) : pieces line = [line] := by
  induction line with
  | nil => rfl
  | cons c line ih =>
      rw [List.mem_cons, not_or] at h
      rw [pieces, if_neg (fun he => h.1 he.symm), ih h.2]

/-- No piece has a newline. -/
theorem newline_not_mem_of_mem_pieces {cs piece : List Char} (h : piece ∈ pieces cs) :
    '\n' ∉ piece := by
  induction cs generalizing piece with
  | nil =>
      cases List.mem_singleton.1 h
      exact List.not_mem_nil
  | cons c cs ih =>
      rw [pieces] at h
      split at h
      next =>
        rcases List.mem_cons.1 h with rfl | h
        · exact List.not_mem_nil
        · exact ih h
      next hc =>
        cases hp : pieces cs with
        | nil => exact absurd hp (pieces_ne_nil cs)
        | cons p ps =>
            rw [hp] at h ih
            rcases List.mem_cons.1 h with rfl | h
            · intro hm
              rcases List.mem_cons.1 hm with he | hm
              · exact hc he.symm
              · exact ih (List.mem_cons_self ..) hm
            · exact ih (List.mem_cons_of_mem _ h)

theorem unpieces_singleton (p : List Char) : unpieces [p] = p := by
  simp [unpieces, List.intercalate]

theorem unpieces_cons_cons (p q : List Char) (ps : List (List Char)) :
    unpieces (p :: q :: ps) = p ++ '\n' :: unpieces (q :: ps) := by
  simp [unpieces, List.intercalate]

/-- The pieces of a text put back together are the text. -/
theorem unpieces_pieces (cs : List Char) : unpieces (pieces cs) = cs := by
  induction cs with
  | nil => rfl
  | cons c cs ih =>
      rw [pieces]
      cases hp : pieces cs with
      | nil => exact absurd hp (pieces_ne_nil cs)
      | cons p ps =>
          rw [hp] at ih
          split
          next hc =>
            rw [unpieces_cons_cons, ih, hc]
            rfl
          next =>
            rw [← ih]
            cases ps with
            | nil => rfl
            | cons q qs =>
                rw [unpieces_cons_cons, unpieces_cons_cons]
                rfl

/-- What pieces without newlines are put back together to falls into them again. -/
theorem pieces_unpieces {ps : List (List Char)} (hne : ps ≠ []) (h : ∀ p ∈ ps, '\n' ∉ p) :
    pieces (unpieces ps) = ps := by
  induction ps with
  | nil => exact absurd rfl hne
  | cons p ps ih =>
      have hp : '\n' ∉ p := h p (List.mem_cons_self ..)
      cases ps with
      | nil => rw [unpieces_singleton, pieces_of_newline_not_mem hp]
      | cons q qs =>
          have hrest := ih (List.cons_ne_nil q qs) fun r hr => h r (List.mem_cons_of_mem _ hr)
          rw [unpieces_cons_cons, pieces_append_newline hp, hrest]

/-! ## Pieces of texts side by side -/

/-- A newline between two texts comes between their pieces. -/
theorem pieces_append (cs ds : List Char) : pieces (cs ++ '\n' :: ds) = pieces cs ++ pieces ds := by
  induction cs with
  | nil =>
      show pieces ('\n' :: ds) = [] :: pieces ds
      rw [pieces, if_pos rfl]
  | cons c cs ih =>
      rw [List.cons_append, pieces, pieces, ih]
      split
      next => rfl
      next =>
        cases hp : pieces cs with
        | nil => exact absurd hp (pieces_ne_nil cs)
        | cons p ps => rfl

theorem unpieces_append {ps qs : List (List Char)} (hp : ps ≠ []) (hq : qs ≠ []) :
    unpieces (ps ++ qs) = unpieces ps ++ '\n' :: unpieces qs := by
  obtain ⟨q, qs, rfl⟩ := List.exists_cons_of_ne_nil hq
  induction ps with
  | nil => exact absurd rfl hp
  | cons p ps ih =>
      cases ps with
      | nil => rw [List.singleton_append, unpieces_cons_cons, unpieces_singleton]
      | cons r rs =>
          have hrest := ih (List.cons_ne_nil r rs)
          rw [List.cons_append] at hrest
          rw [List.cons_append, List.cons_append, unpieces_cons_cons, unpieces_cons_cons, hrest,
            List.append_assoc, List.cons_append]

/-- A text begins with a newline when its first piece is empty and not the last. -/
theorem head?_eq_newline_iff {cs : List Char} :
    cs.head? = some '\n' ↔ (pieces cs).dropLast.head? = some [] := by
  constructor
  · intro h
    obtain ⟨rest, rfl⟩ := List.head?_eq_some_iff.1 h
    obtain ⟨p, ps, hp⟩ := List.exists_cons_of_ne_nil (pieces_ne_nil rest)
    rw [pieces, if_pos rfl, hp]
    rfl
  · intro h
    obtain ⟨ps, hps⟩ := List.head?_eq_some_iff.1 h
    obtain ⟨q, hq⟩ : ∃ q, pieces cs = [[]] ++ (ps ++ [q]) :=
      ⟨_, by rw [← List.append_assoc, List.singleton_append, ← hps]
             exact (List.dropLast_concat_getLast (pieces_ne_nil cs)).symm⟩
    rw [← unpieces_pieces cs, hq, unpieces_append (by simp) (by simp), unpieces_singleton]
    rfl

/-- A text ends with a newline when its last piece is empty and not the first. -/
theorem getLast?_eq_newline_iff {cs : List Char} :
    cs.getLast? = some '\n' ↔ (pieces cs).tail.getLast? = some [] := by
  constructor
  · intro h
    obtain ⟨front, rfl⟩ := List.getLast?_eq_some_iff.1 h
    obtain ⟨p, ps, hp⟩ := List.exists_cons_of_ne_nil (pieces_ne_nil front)
    rw [pieces_append, hp]
    simp [pieces]
  · intro h
    obtain ⟨ps, hps⟩ := List.getLast?_eq_some_iff.1 h
    obtain ⟨p, qs, hp⟩ := List.exists_cons_of_ne_nil (pieces_ne_nil cs)
    rw [hp, List.tail_cons] at hps
    rw [← unpieces_pieces cs, hp, hps, ← List.cons_append,
      unpieces_append (List.cons_ne_nil p ps) (List.cons_ne_nil [] []), unpieces_singleton]
    simp

/-! ## Newlines right behind others -/

/-- How often a newline comes right behind another. -/
def newlinePairs (cs : List Char) : Nat := (cs.zip cs.tail).count ('\n', '\n')

theorem newlinePairs_cons (c : Char) (cs : List Char) :
    newlinePairs (c :: cs) =
      (if c = '\n' ∧ cs.head? = some '\n' then 1 else 0) + newlinePairs cs := by
  cases cs with
  | nil => simp [newlinePairs]
  | cons d ds =>
      rw [newlinePairs, newlinePairs, List.tail_cons, List.zip_cons_cons, List.count_cons,
        Nat.add_comm]
      simp

theorem count_dropLast_cons (p : List Char) (ps : List (List Char)) :
    (p :: ps).dropLast.count [] =
      (if (p :: ps).dropLast.head? = some [] then 1 else 0) + ps.dropLast.count [] := by
  cases ps with
  | nil => rfl
  | cons q qs =>
      rw [List.dropLast_cons_cons, List.count_cons, List.head?_cons, Nat.add_comm]
      simp

/-- A newline comes right behind another for every empty piece that is not at an end. -/
theorem newlinePairs_eq_count (cs : List Char) :
    newlinePairs cs = (pieces cs).tail.dropLast.count [] := by
  induction cs with
  | nil => rfl
  | cons c cs ih =>
      obtain ⟨p, ps, hp⟩ := List.exists_cons_of_ne_nil (pieces_ne_nil cs)
      have hfirst := count_dropLast_cons p ps
      simp only [newlinePairs_cons, ih, head?_eq_newline_iff, pieces, hp]
      by_cases hc : c = '\n'
      · simp only [hc, true_and, if_true, List.tail_cons]
        exact hfirst.symm
      · rw [if_neg hc, if_neg fun h => hc h.1, Nat.zero_add]
        rfl

/-- A character of pieces put back together is one of a piece or a newline. -/
theorem mem_unpieces {ps : List (List Char)} {c : Char} (h : c ∈ unpieces ps) :
    c = '\n' ∨ ∃ p ∈ ps, c ∈ p := by
  induction ps with
  | nil => cases h
  | cons p ps ih =>
      cases ps with
      | nil =>
          rw [unpieces_singleton] at h
          exact .inr ⟨p, List.mem_singleton_self p, h⟩
      | cons q qs =>
          rw [unpieces_cons_cons, List.mem_append, List.mem_cons] at h
          rcases h with h | h | h
          · exact .inr ⟨p, List.mem_cons_self .., h⟩
          · exact .inl h
          · exact (ih h).imp_right fun ⟨r, hr, hc⟩ => ⟨r, List.mem_cons_of_mem _ hr, hc⟩

/-- The characters of a piece are among those of the pieces put back together. -/
theorem subset_unpieces {ps : List (List Char)} {piece : List Char} (h : piece ∈ ps) :
    piece ⊆ unpieces ps := by
  induction ps with
  | nil => cases h
  | cons p ps ih =>
      cases ps with
      | nil =>
          cases List.mem_singleton.1 h
          rw [unpieces_singleton]
          exact List.Subset.refl _
      | cons q qs =>
          rw [unpieces_cons_cons]
          rcases List.mem_cons.1 h with rfl | h
          · exact List.subset_append_left ..
          · intro c hc
            exact List.mem_append_right _ (List.mem_cons_of_mem _ (ih h hc))

/-- The characters of a piece are characters of the text. -/
theorem subset_of_mem_pieces {cs piece : List Char} (h : piece ∈ pieces cs) : piece ⊆ cs := by
  have hall := subset_unpieces h
  rwa [unpieces_pieces] at hall

/-! ## Lines -/

theorem isPrefix_dropReturn (cs : List Char) : dropReturn cs <+: cs := by
  rw [dropReturn]
  split
  · exact List.dropLast_prefix cs
  · exact List.prefix_refl cs

/-- A line is a piece up to the carriage returns at its end. -/
theorem exists_piece_of_mem_linesOfPieces {ps : List (List Char)} {line : List Char}
    (h : line ∈ linesOfPieces ps) : ∃ piece ∈ ps, line <+: piece := by
  induction ps with
  | nil => cases h
  | cons p ps ih =>
      cases ps with
      | nil =>
          rw [linesOfPieces] at h
          split at h
          · cases h
          · cases List.mem_singleton.1 h
            exact ⟨p, List.mem_singleton_self p, isPrefix_dropReturn p⟩
      | cons q qs =>
          rw [linesOfPieces] at h
          rcases List.mem_cons.1 h with rfl | h
          · exact ⟨p, List.mem_cons_self .., (isPrefix_dropReturn _).trans (isPrefix_dropReturn p)⟩
          · obtain ⟨piece, hp, hl⟩ := ih h
            exact ⟨piece, List.mem_cons_of_mem _ hp, hl⟩

/-- No line has a newline. -/
theorem newline_not_mem_of_mem_lines {cs line : List Char} (h : line ∈ lines cs) :
    '\n' ∉ line := by
  obtain ⟨piece, hp, hl⟩ := exists_piece_of_mem_linesOfPieces h
  exact fun hn => newline_not_mem_of_mem_pieces hp (hl.subset hn)

/-- The characters of a line are characters of the script. -/
theorem subset_of_mem_lines {cs line : List Char} (h : line ∈ lines cs) : line ⊆ cs := by
  obtain ⟨piece, hp, hl⟩ := exists_piece_of_mem_linesOfPieces h
  exact List.Subset.trans hl.subset (subset_of_mem_pieces hp)

theorem dropReturn_eq_self {cs : List Char} (h : cs.getLast? ≠ some '\r') : dropReturn cs = cs := by
  rw [dropReturn, if_neg h]

/-- A line that can be read back: without a newline, and without a carriage
return at its end, which would be taken for part of the line ending. -/
structure Lasts (line : List Char) : Prop where
  /-- There is no newline in the line. -/
  oneLine : '\n' ∉ line
  /-- The line does not end in a carriage return. -/
  noReturn : line.getLast? ≠ some '\r'

/-- The pieces of lines with a newline behind each. -/
theorem pieces_written {ls : List (List Char)} (h : ∀ l ∈ ls, Lasts l) :
    pieces (ls.flatMap fun l => l ++ ['\n']) = ls ++ [[]] := by
  induction ls with
  | nil => rfl
  | cons l ls ih =>
      rw [List.flatMap_cons, List.append_assoc, List.singleton_append,
        pieces_append_newline (h l (List.mem_cons_self ..)).oneLine,
        ih (fun m hm => h m (List.mem_cons_of_mem _ hm))]
      rfl

/-- Lines with a newline behind each are read back. -/
theorem lines_written {ls : List (List Char)} (h : ∀ l ∈ ls, Lasts l) :
    lines (ls.flatMap fun l => l ++ ['\n']) = ls := by
  rw [lines, pieces_written h]
  induction ls with
  | nil => rfl
  | cons l ls ih =>
      have hl : dropReturn (dropReturn l) = l := by
        rw [dropReturn_eq_self (h l (List.mem_cons_self ..)).noReturn,
          dropReturn_eq_self (h l (List.mem_cons_self ..)).noReturn]
      have hrest := ih fun m hm => h m (List.mem_cons_of_mem _ hm)
      cases hp : ls ++ [[]] with
      | nil => simp at hp
      | cons q qs =>
          rw [hp] at hrest
          rw [List.cons_append, hp, linesOfPieces, hl, hrest]

/-! ## Whole lines -/

/-- A text of whole lines: it is empty, or its last line has a newline behind it. -/
def Whole (cs : List Char) : Prop := cs = [] ∨ cs.getLast? = some '\n'

instance (cs : List Char) : Decidable (Whole cs) :=
  inferInstanceAs (Decidable (cs = [] ∨ cs.getLast? = some '\n'))

/-- A piece that is not the last gives up two carriage returns. -/
theorem linesOfPieces_append (ps : List (List Char)) {qs : List (List Char)} (h : qs ≠ []) :
    linesOfPieces (ps ++ qs) =
      ps.map (fun p => dropReturn (dropReturn p)) ++ linesOfPieces qs := by
  induction ps with
  | nil => rfl
  | cons p ps ih =>
      obtain ⟨r, rs, hr⟩ := List.exists_cons_of_ne_nil (List.append_ne_nil_of_right_ne_nil ps h)
      rw [hr] at ih
      rw [List.cons_append, hr, linesOfPieces, ih]
      rfl

/-- The lines of a text behind whole lines are its own. -/
theorem lines_append {cs : List Char} (h : Whole cs) (ds : List Char) :
    lines (cs ++ ds) = lines cs ++ lines ds := by
  rcases h with rfl | h
  · rfl
  · obtain ⟨front, rfl⟩ := List.getLast?_eq_some_iff.1 h
    have hfront : lines (front ++ ['\n']) =
        (pieces front).map fun p => dropReturn (dropReturn p) := by
      rw [lines, pieces_append, linesOfPieces_append _ (pieces_ne_nil [])]
      exact List.append_nil _
    rw [hfront, List.append_assoc, List.singleton_append, lines, pieces_append,
      linesOfPieces_append _ (pieces_ne_nil ds)]
    rfl

end Colloquy.Text
