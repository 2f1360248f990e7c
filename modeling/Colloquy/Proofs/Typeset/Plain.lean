import Colloquy.Proofs.Typeset.Cuts
import Colloquy.Typeset.Plain
import Colloquy.Typeset.Simple
import Mathlib

/-!
# Packing is plain wrapping

Packing adds every width up once and goes on with the tail of a segment where it
left off.  Plain wrapping starts each segment afresh.  With exact numbers and no
negative widths both come to the same segments (`segments_eq_plainSegments`), and
so to the same lines (`wrapParagraph_eq_plainWrap`).

What carries over is said by `Open`.  The clusters of the open segment fit
together, so each part of them fits, and the tail behind the last space fits
without being looked at again.  There is no space in that tail, so a later break
finds no space that plain wrapping would not find.
-/

namespace Colloquy.Typeset

/-! ## Widths -/

/-- Clusters of which none has a negative width. -/
def NonNeg (cs : List (Cluster ℚ)) : Prop := ∀ c ∈ cs, 0 ≤ c.advance

theorem nonNeg_append {cs ds : List (Cluster ℚ)} : NonNeg (cs ++ ds) ↔ NonNeg cs ∧ NonNeg ds :=
  List.forall_mem_append

theorem nonNeg_cons {c : Cluster ℚ} {cs : List (Cluster ℚ)} :
    NonNeg (c :: cs) ↔ 0 ≤ c.advance ∧ NonNeg cs := List.forall_mem_cons

theorem NonNeg.dropSpaces {cs : List (Cluster ℚ)} (h : NonNeg cs) : NonNeg (dropSpaces cs) :=
  fun c hc => h c ((List.dropWhile_sublist _).subset hc)

theorem nonNeg_perChar {advance : Char → ℚ} (h : ∀ c, 0 ≤ advance c) (space : Char → Bool)
    (text : String) : NonNeg (perChar advance space text) := by
  have hfrom : ∀ cs place, NonNeg (charClusters advance space place cs) := by
    intro cs
    induction cs with
    | nil => exact fun place => List.forall_mem_nil _
    | cons c cs ih => exact fun place => nonNeg_cons.2 ⟨h c, ih _⟩
  exact hfrom text.toList 0

theorem totalAdvance_eq_sum (cs : List (Cluster ℚ)) :
    totalAdvance cs = (cs.map Cluster.advance).sum := by
  rw [totalAdvance, List.sum_eq_foldl, List.foldl_map]

theorem totalAdvance_append (cs ds : List (Cluster ℚ)) :
    totalAdvance (cs ++ ds) = totalAdvance cs + totalAdvance ds := by
  simp only [totalAdvance_eq_sum, List.map_append, List.sum_append]

theorem totalAdvance_concat (cs : List (Cluster ℚ)) (c : Cluster ℚ) :
    totalAdvance (cs ++ [c]) = totalAdvance cs + c.advance := by
  rw [totalAdvance, List.foldl_append]
  rfl

theorem totalAdvance_cons (c : Cluster ℚ) (cs : List (Cluster ℚ)) :
    totalAdvance (c :: cs) = c.advance + totalAdvance cs := by
  simp only [totalAdvance_eq_sum, List.map_cons, List.sum_cons]

theorem NonNeg.totalAdvance_nonneg {cs : List (Cluster ℚ)} (h : NonNeg cs) :
    0 ≤ totalAdvance cs := by
  rw [totalAdvance_eq_sum]
  refine List.sum_nonneg fun w hw => ?_
  obtain ⟨c, hc, rfl⟩ := List.mem_map.1 hw
  exact h c hc

/-! ## The first segment -/

variable {width filled : ℚ} {front word rest : List (Cluster ℚ)} {c : Cluster ℚ}

/-- Clusters that fit together fit one after the other. -/
theorem fitting_append (rest : List (Cluster ℚ)) (hn : NonNeg front)
    (hfit : filled + totalAdvance front ≤ width) :
    fitting width filled (front ++ rest) =
      front.length + fitting width (filled + totalAdvance front) rest := by
  induction front generalizing filled with
  | nil =>
      rw [show totalAdvance ([] : List (Cluster ℚ)) = 0 from rfl, add_zero, List.nil_append,
        List.length_nil, Nat.zero_add]
  | cons c front ih =>
      obtain ⟨hc, hfront⟩ := nonNeg_cons.1 hn
      rw [totalAdvance_cons, ← add_assoc] at hfit ⊢
      have hfirst : filled + c.advance ≤ width :=
        le_trans (le_add_of_nonneg_right hfront.totalAdvance_nonneg) hfit
      rw [List.cons_append, fitting, if_pos hfirst, ih hfront hfit, List.length_cons]
      omega

/-- Whether clusters are no wider than a width.  No clusters fit any width. -/
def Fits (width : ℚ) (cs : List (Cluster ℚ)) : Prop := cs ≠ [] → totalAdvance cs ≤ width

theorem fitting_of_fits (rest : List (Cluster ℚ)) (hn : NonNeg front) (hfit : Fits width front) :
    fitting width 0 (front ++ rest) =
      front.length + fitting width (totalAdvance front) rest := by
  by_cases hf : front = []
  · rw [hf, List.nil_append, List.length_nil, Nat.zero_add]
    rfl
  · have h := fitting_append rest hn (le_of_eq_of_le (zero_add _) (hfit hf))
    rwa [zero_add] at h

/-- Clusters that fit are one segment. -/
theorem firstSegment_of_fits (hn : NonNeg front) (hfit : Fits width front) :
    firstSegment width front = front.length := by
  have h := fitting_of_fits [] hn hfit
  rw [List.append_nil] at h
  rw [firstSegment, h]
  exact if_pos rfl

/-- The first cluster that does not fit decides where the segment ends. -/
theorem firstSegment_of_overflow (rest : List (Cluster ℚ)) (hn : NonNeg front)
    (hfit : Fits width front) (hover : ¬ totalAdvance front + c.advance ≤ width) :
    firstSegment width (front ++ c :: rest) =
      (afterLastSpace? (front ++ [c])).getD (max front.length 1) := by
  have hcount : fitting width 0 (front ++ c :: rest) = front.length := by
    rw [fitting_of_fits _ hn hfit, fitting, if_neg hover, Nat.add_zero]
  have hlt : front.length ≠ (front ++ c :: rest).length := by simp
  have htake : (front ++ c :: rest).take (front.length + 1) = front ++ [c] := by
    rw [List.append_cons]
    exact List.take_left' (by simp)
  rw [firstSegment, hcount]
  simp only [if_neg hlt, htake]

theorem afterLastSpace?_of_noSpaces (h : NoSpaces word) : afterLastSpace? word = none := by
  induction word with
  | nil => rfl
  | cons c word ih =>
      rw [afterLastSpace?, ih fun d hd => h d (List.mem_cons_of_mem _ hd)]
      simp [h c (List.mem_cons_self ..)]

/-- Behind the last space there is none. -/
theorem afterLastSpace?_append (hc : c.isSpace = true) (h : NoSpaces word) :
    afterLastSpace? (front ++ c :: word) = some (front.length + 1) := by
  induction front with
  | nil =>
      rw [List.nil_append, afterLastSpace?, afterLastSpace?_of_noSpaces h]
      simp [hc]
  | cons d front ih => rw [List.cons_append, afterLastSpace?, ih, List.length_cons]

theorem plainSegments_append (hne : front ≠ [])
    (h : firstSegment width (front ++ rest) = front.length) :
    plainSegments width (front ++ rest) = front :: plainSegments width (dropSpaces rest) := by
  obtain ⟨d, tail, rfl⟩ := List.exists_cons_of_ne_nil hne
  rw [List.cons_append, plainSegments]
  rw [List.cons_append] at h
  rw [h]
  simp

/-- A segment cut where the first cluster that does not fit says, and the rest. -/
theorem plainSegments_of_overflow {seg cs : List (Cluster ℚ)} (hn : NonNeg front)
    (hfit : Fits width front) (hover : ¬ totalAdvance front + c.advance ≤ width)
    (hne : seg ≠ []) (hcut : seg ++ rest = front ++ c :: cs)
    (hlast : (afterLastSpace? (front ++ [c])).getD (max front.length 1) = seg.length) :
    plainSegments width (front ++ c :: cs) = seg :: plainSegments width (dropSpaces rest) := by
  have hseg := firstSegment_of_overflow cs hn hfit hover
  rw [hlast, ← hcut] at hseg
  rw [← hcut]
  exact plainSegments_append hne hseg

/-! ## The open segment -/

theorem dropSpaces_eq_self {cs : List (Cluster ℚ)} (h : Opens cs) : dropSpaces cs = cs := by
  cases cs with
  | nil => rfl
  | cons c cs => exact List.dropWhile_cons_of_neg (by simp [h c rfl])

/-- What packing knows of the open segment. -/
structure Open (width : ℚ) (before word : List (Cluster ℚ)) (filled : ℚ) : Prop where
  /-- Up to its last space the segment ends in a space. -/
  before_last : ∀ c ∈ before.getLast?, c.isSpace = true
  /-- Behind that there is no space. -/
  word_noSpaces : NoSpaces word
  /-- The width so far is that of the clusters. -/
  filled_eq : filled = totalAdvance (before ++ word)
  /-- They fit. -/
  fits : Fits width (before ++ word)

variable {before : List (Cluster ℚ)}

/-- Nothing is open yet. -/
theorem open_nil (width : ℚ) : Open width [] [] 0 where
  before_last := by simp
  word_noSpaces := noSpaces_nil
  filled_eq := rfl
  fits := fun h => absurd rfl h

/-- A space that fits is the last one. -/
theorem Open.space (h : Open width before word filled) (hfit : filled + c.advance ≤ width)
    (hc : c.isSpace = true) :
    Open width (before ++ (word ++ [c])) [] (filled + c.advance) := by
  have hfilled : filled + c.advance = totalAdvance (before ++ (word ++ [c]) ++ []) := by
    rw [List.append_nil, ← List.append_assoc, totalAdvance_concat, ← h.filled_eq]
  refine ⟨?_, noSpaces_nil, hfilled, fun _ => hfilled ▸ hfit⟩
  intro d hd
  rw [← List.append_assoc, List.getLast?_concat, Option.mem_some_iff] at hd
  rw [← hd]
  exact hc

/-- Another cluster that fits goes behind the last space. -/
theorem Open.solid (h : Open width before word filled) (hfit : filled + c.advance ≤ width)
    (hc : c.isSpace = false) : Open width before (word ++ [c]) (filled + c.advance) := by
  have hfilled : filled + c.advance = totalAdvance (before ++ (word ++ [c])) := by
    rw [← List.append_assoc, totalAdvance_concat, ← h.filled_eq]
  exact ⟨h.before_last, noSpaces_concat h.word_noSpaces hc, hfilled, fun _ => hfilled ▸ hfit⟩

/-- The tail behind the last space fits, as it does with what is in front of it. -/
theorem Open.tail (h : Open width before word filled) (hn : NonNeg before) :
    Open width [] word (totalAdvance word) where
  before_last := by simp
  word_noSpaces := h.word_noSpaces
  filled_eq := rfl
  fits := by
    intro hne
    have hboth := h.fits (List.append_ne_nil_of_right_ne_nil before hne)
    rw [totalAdvance_append] at hboth
    exact le_trans (le_add_of_nonneg_left hn.totalAdvance_nonneg) hboth

/-- Packing the rest behind an open segment is wrapping both plainly. -/
theorem pack_eq_plainSegments (h : Open width before word filled)
    (hn : NonNeg (before ++ word ++ rest)) :
    pack width before word filled rest = plainSegments width (before ++ word ++ rest) := by
  fun_induction pack width before word filled rest with
  | case1 before word filled hempty =>
      rw [Bool.and_eq_true, List.isEmpty_iff, List.isEmpty_iff] at hempty
      obtain ⟨rfl, rfl⟩ := hempty
      rw [List.append_nil, List.append_nil, plainSegments]
  | case2 before word filled hempty =>
      have hne : before ++ word ≠ [] := by
        intro he
        obtain ⟨rfl, rfl⟩ := List.append_eq_nil_iff.1 he
        exact hempty rfl
      have hseg := firstSegment_of_fits (nonNeg_append.1 hn).1 h.fits
      rw [← List.append_nil (before ++ word)] at hseg
      rw [plainSegments_append hne (by simpa using hseg), dropSpaces, List.dropWhile_nil,
        plainSegments]
  | case3 before word filled c cs hfit hspace ih =>
      have hopen := h.space hfit hspace
      rw [ih hopen (by simpa using hn)]
      simp
  | case4 before word filled c cs hfit hspace ih =>
      have hopen := h.solid hfit (eq_false_of_ne_true hspace)
      rw [ih hopen (by simpa using hn)]
      simp
  | case5 before word filled c cs hfit hspace ih =>
      -- the last space is the one that does not fit
      obtain ⟨hfront, hrest⟩ := nonNeg_append.1 hn
      have hcs := (nonNeg_cons.1 hrest).2
      rw [h.filled_eq] at hfit
      rw [ih (open_nil width) hcs.dropSpaces]
      refine (plainSegments_of_overflow hfront h.fits hfit (by simp) (by simp) ?_).symm
      rw [afterLastSpace?_append hspace noSpaces_nil, Option.getD_some]
      simp [Nat.add_assoc]
  | case6 before word filled c cs hfit hspace hb ih =>
      -- the last space is the end of what stands before the word
      have hc : c.isSpace = false := eq_false_of_ne_true hspace
      obtain ⟨hfront, hrest⟩ := nonNeg_append.1 hn
      obtain ⟨hbefore, hword⟩ := nonNeg_append.1 hfront
      have hne : before ≠ [] := List.ne_nil_of_length_pos (length_pos_of_not_isEmpty hb)
      have hopens : Opens (word ++ c :: cs) := opens_append h.word_noSpaces (opens_cons hc)
      rw [h.filled_eq] at hfit
      have hlast : afterLastSpace? (before ++ word ++ [c]) = some before.length := by
        obtain ⟨init, last, rfl⟩ := (List.eq_nil_or_concat' before).resolve_left hne
        have hspace : last.isSpace = true := h.before_last last (by simp)
        rw [List.append_assoc, List.append_assoc, List.singleton_append,
          afterLastSpace?_append hspace (noSpaces_concat h.word_noSpaces hc),
          List.length_append, List.length_singleton]
      have hplain : plainSegments width (before ++ word ++ c :: cs) =
          before :: plainSegments width (dropSpaces (word ++ c :: cs)) :=
        plainSegments_of_overflow hfront h.fits hfit hne (List.append_assoc ..).symm
          (by rw [hlast, Option.getD_some])
      rw [dropSpaces_eq_self hopens] at hplain
      rw [ih (h.tail hbefore) (nonNeg_append.2 ⟨hword, hrest⟩), hplain]
      rfl
  | case7 before word filled c cs hfit hspace hb hword ih =>
      -- there is no space, so the segment ends before the cluster that does not fit
      have hc : c.isSpace = false := eq_false_of_ne_true hspace
      have hne : word ≠ [] := List.ne_nil_of_length_pos (length_pos_of_not_isEmpty hword)
      obtain rfl : before = [] := by simpa using hb
      obtain ⟨hfront, hrest⟩ := nonNeg_append.1 hn
      rw [h.filled_eq] at hfit
      have hlast : (afterLastSpace? (word ++ [c])).getD (max word.length 1) = word.length := by
        rw [afterLastSpace?_of_noSpaces (noSpaces_concat h.word_noSpaces hc), Option.getD_none,
          max_eq_left (List.length_pos_of_ne_nil hne)]
      have hplain : plainSegments width (word ++ c :: cs) =
          word :: plainSegments width (dropSpaces (c :: cs)) :=
        plainSegments_of_overflow hfront h.fits hfit hne rfl hlast
      rw [dropSpaces_eq_self (opens_cons hc)] at hplain
      rw [ih (open_nil width) hrest]
      exact hplain.symm
  | case8 before word filled c cs hfit hspace hb hword ih =>
      -- there is no space, and the cluster alone is too wide
      have hc : c.isSpace = false := eq_false_of_ne_true hspace
      obtain rfl : before = [] := by simpa using hb
      obtain rfl : word = [] := by simpa using hword
      obtain ⟨hfront, hrest⟩ := nonNeg_append.1 hn
      have hcs := (nonNeg_cons.1 hrest).2
      rw [h.filled_eq] at hfit
      rw [ih (open_nil width) hcs.dropSpaces]
      have hlast : afterLastSpace? [c] = none :=
        afterLastSpace?_of_noSpaces (noSpaces_concat noSpaces_nil hc)
      refine (plainSegments_of_overflow hfront h.fits hfit (List.cons_ne_nil c []) rfl ?_).symm
      rw [List.append_nil, List.nil_append, hlast]
      rfl

/-! ## Whole paragraphs -/

theorem segments_eq_plainSegments {cs : List (Cluster ℚ)} (hn : NonNeg cs) (width : ℚ) :
    segments width cs = plainSegments width cs :=
  pack_eq_plainSegments (open_nil width) hn

/-- Where no width is negative, the lines of a paragraph are those of plain
wrapping. -/
theorem wrapParagraph_eq_plainWrap (paragraph : List Char) {cs : List (Cluster ℚ)}
    (hn : NonNeg cs) (width : ℚ) :
    wrapParagraph paragraph cs width = plainWrap paragraph cs width := by
  have hsegments := segments_eq_plainSegments hn width
  cases hplain : plainSegments width cs with
  | nil => simp only [wrapParagraph, plainWrap, hsegments, hplain]
  | cons seg segs => simp only [wrapParagraph, plainWrap, hsegments, hplain]

/-- Clusters with a space in front, widths that are no whole numbers, a tail that is
carried over a break, and a cluster wider than the line. -/
def carriedClusters : List (Cluster ℚ) :=
  [⟨0, 1, 1 / 2, true⟩, ⟨1, 2, 1, false⟩, ⟨2, 3, 0, true⟩, ⟨3, 4, 3 / 2, false⟩,
    ⟨4, 5, 1 / 3, false⟩, ⟨5, 6, 7, false⟩, ⟨6, 7, 1, true⟩]

/-- The first line is broken behind its space, so the solid tail goes on in the second, and the
wide cluster has a line of its own. -/
theorem wrapParagraph_eq_plainWrap_carried :
    NonNeg carriedClusters ∧
      wrapParagraph " a bcd ".toList carriedClusters 3 =
        plainWrap " a bcd ".toList carriedClusters 3 ∧
      plainWrap " a bcd ".toList carriedClusters 3 = [['a'], ['b', 'c'], ['d']] := by
  have hn : NonNeg carriedClusters := by
    simp only [carriedClusters, nonNeg_cons]
    norm_num [NonNeg]
  have hwrap := wrapParagraph_eq_plainWrap " a bcd ".toList hn 3
  have hlines : wrapParagraph " a bcd ".toList carriedClusters 3 = [['a'], ['b', 'c'], ['d']] := by
    cbv
  exact ⟨hn, hwrap, hwrap.symm.trans hlines⟩

end Colloquy.Typeset
