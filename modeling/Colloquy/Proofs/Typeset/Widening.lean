import Colloquy.Proofs.Typeset.Plain

/-!
# Widening

With more room a paragraph has no more lines, and a text has no more either
(`length_wrap_le`).

Plain wrapping restarts behind each segment, so two runs are compared by where
they restart.  `firstSegment_append_le` says that a segment which starts later,
in more room, ends no earlier.  It has a case for each way a segment can end:
with the last cluster, with a space, or right before a cluster that does not fit.
Spaces passed over keep that order (`afterFirst_isSuffix`), and so the run in more
room stays ahead until nothing is left.
-/

namespace Colloquy.Typeset

variable {width width' : ℚ} {cs ds front rest : List (Cluster ℚ)}

/-! ## How many clusters fit -/

theorem fitting_le_length (width filled : ℚ) (cs : List (Cluster ℚ)) :
    fitting width filled cs ≤ cs.length := by
  induction cs generalizing filled with
  | nil => exact Nat.le_refl 0
  | cons c cs ih =>
      rw [fitting]
      split
      · exact Nat.succ_le_succ (ih _)
      · exact Nat.zero_le _

/-- More fit in more room, and where less is filled. -/
theorem fitting_mono {filled filled' : ℚ} (hw : width ≤ width') (hf : filled' ≤ filled)
    (cs : List (Cluster ℚ)) : fitting width filled cs ≤ fitting width' filled' cs := by
  induction cs generalizing filled filled' with
  | nil => exact Nat.le_refl 0
  | cons c cs ih =>
      have hc : filled' + c.advance ≤ filled + c.advance := by linarith
      rw [fitting, fitting]
      split
      next hfit =>
        rw [if_pos (le_trans hc (le_trans hfit hw))]
        exact Nat.succ_le_succ (ih hc)
      next => exact Nat.zero_le _

/-- Behind clusters that need not fit themselves no more fit than they leave room
for. -/
theorem fitting_append_le (width filled : ℚ) (front rest : List (Cluster ℚ)) :
    fitting width filled (front ++ rest) ≤
      front.length + fitting width (filled + totalAdvance front) rest := by
  induction front generalizing filled with
  | nil => simp [totalAdvance]
  | cons c front ih =>
      rw [List.cons_append, fitting, totalAdvance_cons, ← add_assoc, List.length_cons]
      split
      · have hrest := ih (filled + c.advance)
        omega
      · exact Nat.zero_le _

/-- What fits of clusters fits of their rest in more room. -/
theorem fitting_append_le_of_le (hw : width ≤ width') (hn : NonNeg front)
    (rest : List (Cluster ℚ)) :
    fitting width 0 (front ++ rest) ≤ front.length + fitting width' 0 rest := by
  have happend := fitting_append_le width 0 front rest
  rw [zero_add] at happend
  have hmono := fitting_mono hw hn.totalAdvance_nonneg rest
  omega

/-! ## The last space -/

theorem noSpaces_of_afterLastSpace?_eq_none (h : afterLastSpace? cs = none) : NoSpaces cs := by
  induction cs with
  | nil => exact noSpaces_nil
  | cons c cs ih =>
      rw [afterLastSpace?] at h
      cases hl : afterLastSpace? cs with
      | none =>
          rw [hl] at h
          refine List.forall_mem_cons.2 ⟨?_, ih hl⟩
          by_contra hc
          rw [if_pos (eq_true_of_ne_false hc)] at h
          cases h
      | some n =>
          rw [hl] at h
          cases h

/-- The last space is one of the clusters. -/
theorem exists_of_afterLastSpace?_eq_some {n : Nat} (h : afterLastSpace? cs = some n) :
    ∃ k c, n = k + 1 ∧ cs[k]? = some c ∧ c.isSpace = true := by
  induction cs generalizing n with
  | nil => cases h
  | cons c cs ih =>
      rw [afterLastSpace?] at h
      cases hl : afterLastSpace? cs with
      | none =>
          rw [hl] at h
          dsimp only at h
          split at h
          next hc =>
            cases h
            exact ⟨0, c, rfl, rfl, hc⟩
          next => cases h
      | some m =>
          rw [hl] at h
          obtain ⟨k, d, rfl, hd, hs⟩ := ih hl
          cases h
          exact ⟨k + 1, d, rfl, hd, hs⟩

/-- No space comes after the last one. -/
theorem exists_afterLastSpace? {k : Nat} {c : Cluster ℚ} (hk : cs[k]? = some c)
    (hc : c.isSpace = true) : ∃ n, afterLastSpace? cs = some n ∧ k < n := by
  induction cs generalizing k with
  | nil => cases hk
  | cons d cs ih =>
      rw [afterLastSpace?]
      cases k with
      | zero =>
          rw [List.getElem?_cons_zero, Option.some.injEq] at hk
          rw [hk]
          cases afterLastSpace? cs with
          | none => exact ⟨1, if_pos hc, Nat.one_pos⟩
          | some n => exact ⟨n + 1, rfl, Nat.succ_pos n⟩
      | succ k =>
          obtain ⟨n, hn, hlt⟩ := ih (by rwa [List.getElem?_cons_succ] at hk)
          rw [hn]
          exact ⟨n + 1, rfl, Nat.succ_lt_succ hlt⟩

/-! ## Where the first segment ends -/

/-- The first segment ends with the clusters, with a space that comes no later than
the first cluster that does not fit, or for want of a space right before that
cluster. -/
theorem firstSegment_cases (width : ℚ) (cs : List (Cluster ℚ)) :
    (fitting width 0 cs = cs.length ∧ firstSegment width cs = cs.length) ∨
    (∃ k c, k ≤ fitting width 0 cs ∧ cs[k]? = some c ∧ c.isSpace = true ∧
      firstSegment width cs = k + 1) ∨
    (fitting width 0 cs < cs.length ∧ NoSpaces (cs.take (fitting width 0 cs + 1)) ∧
      firstSegment width cs = max (fitting width 0 cs) 1) := by
  rw [firstSegment]
  by_cases hall : fitting width 0 cs = cs.length
  · exact .inl ⟨hall, by rw [if_pos hall, hall]⟩
  · have hlt := lt_of_le_of_ne (fitting_le_length width 0 cs) hall
    simp only [if_neg hall]
    cases hl : afterLastSpace? (cs.take (fitting width 0 cs + 1)) with
    | none => exact .inr (.inr ⟨hlt, noSpaces_of_afterLastSpace?_eq_none hl, rfl⟩)
    | some n =>
        obtain ⟨k, c, rfl, hk, hc⟩ := exists_of_afterLastSpace?_eq_some hl
        rw [List.getElem?_take] at hk
        split at hk
        next hle => exact .inr (.inl ⟨k, c, Nat.le_of_lt_succ hle, hk, hc, rfl⟩)
        next => cases hk

theorem firstSegment_le_length (width : ℚ) (cs : List (Cluster ℚ)) :
    firstSegment width cs ≤ cs.length := by
  rcases firstSegment_cases width cs with ⟨_, h⟩ | ⟨k, c, _, hk, _, h⟩ | ⟨hlt, _, h⟩
  · exact h.le
  · rw [h]
    exact (List.getElem?_eq_some_iff.1 hk).1
  · omega

theorem firstSegment_pos (width : ℚ) (hne : cs ≠ []) : 0 < firstSegment width cs := by
  have hpos := List.length_pos_of_ne_nil hne
  rcases firstSegment_cases width cs with ⟨_, h⟩ | ⟨k, c, _, _, _, h⟩ | ⟨_, _, h⟩
  · omega
  · omega
  · omega

/-- The first segment does not end before a space that could end it. -/
theorem lt_firstSegment_of_space {k : Nat} {c : Cluster ℚ} (hk : k ≤ fitting width 0 cs)
    (hc : cs[k]? = some c) (hs : c.isSpace = true) : k < firstSegment width cs := by
  have hlen := (List.getElem?_eq_some_iff.1 hc).1
  rw [firstSegment]
  split
  · omega
  · have htake : (cs.take (fitting width 0 cs + 1))[k]? = some c := by
      rw [List.getElem?_take, if_pos (Nat.lt_succ_of_le hk), hc]
    obtain ⟨n, hn, hlt⟩ := exists_afterLastSpace? htake hs
    rw [hn]
    exact hlt

/-- The first segment has what fits up to the first space. -/
theorem le_firstSegment_of_noSpaces {k : Nat} (hk : k ≤ fitting width 0 cs)
    (hn : NoSpaces (cs.take k)) : k ≤ firstSegment width cs := by
  have hlen := fitting_le_length width 0 cs
  rcases firstSegment_cases width cs with ⟨_, h⟩ | ⟨j, c, _, hj, hs, h⟩ | ⟨_, _, h⟩
  · omega
  · by_contra hlt
    have htake : (cs.take k)[j]? = some c := by
      rw [List.getElem?_take, if_pos (by omega), hj]
    rw [hn c (List.mem_of_getElem? htake)] at hs
    cases hs
  · omega

/-- A segment that starts later ends no earlier in more room. -/
theorem firstSegment_append_le (hw : width ≤ width') (hn : NonNeg front)
    (rest : List (Cluster ℚ)) :
    firstSegment width (front ++ rest) ≤ front.length + firstSegment width' rest := by
  have hfit := fitting_append_le_of_le hw hn rest
  have hall := fitting_le_length width' 0 rest
  rcases firstSegment_cases width (front ++ rest) with
    ⟨hlen, h⟩ | ⟨k, c, hk, hc, hs, h⟩ | ⟨hlt, hsolid, h⟩
  · -- all fit, and so does the rest
    rw [List.length_append] at hlen h
    have hrest : fitting width' 0 rest = rest.length := by omega
    rw [h, firstSegment]
    simp [hrest]
  · -- the space ends the later segment too, if it is not before it
    rw [h]
    rcases Nat.lt_or_ge k front.length with hlt | hge
    · omega
    · rw [List.getElem?_append_right hge] at hc
      have hreach : k - front.length ≤ fitting width' 0 rest := by omega
      have hlater := lt_firstSegment_of_space hreach hc hs
      omega
  · -- up to the cluster that does not fit there is no space to end the later segment
    rw [h]
    have hnone : NoSpaces (rest.take (fitting width 0 (front ++ rest) - front.length)) := by
      intro d hd
      refine hsolid d (List.take_subset_take_left _ (Nat.le_succ _) ?_)
      rw [List.take_append]
      exact List.mem_append_right _ hd
    have hreach : fitting width 0 (front ++ rest) - front.length ≤ fitting width' 0 rest := by omega
    have hlater := le_firstSegment_of_noSpaces hreach hnone
    by_cases hf : front = []
    · have hne : rest ≠ [] := by
        rintro rfl
        simp [hf] at hlt
      have hpos := firstSegment_pos width' hne
      omega
    · have hpos := List.length_pos_of_ne_nil hf
      omega

/-! ## Where the next segment starts -/

/-- What is left behind the first segment and the spaces passed over. -/
def afterFirst (width : ℚ) (cs : List (Cluster ℚ)) : List (Cluster ℚ) :=
  dropSpaces (cs.drop (firstSegment width cs))

theorem plainSegments_of_ne_nil (width : ℚ) (hne : cs ≠ []) :
    plainSegments width cs =
      cs.take (firstSegment width cs) :: plainSegments width (afterFirst width cs) := by
  have hlen : (cs.take (firstSegment width cs)).length = firstSegment width cs :=
    List.length_take_of_le (firstSegment_le_length width cs)
  have hseg : cs.take (firstSegment width cs) ≠ [] := by
    apply List.ne_nil_of_length_pos
    rw [hlen]
    exact firstSegment_pos width hne
  have hcut : cs.take (firstSegment width cs) ++ cs.drop (firstSegment width cs) = cs :=
    List.take_append_drop ..
  have hfirst : firstSegment width
      (cs.take (firstSegment width cs) ++ cs.drop (firstSegment width cs)) =
      (cs.take (firstSegment width cs)).length := by
    rw [hcut, hlen]
  have h := plainSegments_append hseg hfirst
  rwa [hcut] at h

theorem length_afterFirst_lt (width : ℚ) (hne : cs ≠ []) :
    (afterFirst width cs).length < cs.length := by
  have hdrop := length_dropSpaces_le (cs.drop (firstSegment width cs))
  have hpos := firstSegment_pos width hne
  have hlen := List.length_pos_of_ne_nil hne
  rw [List.length_drop] at hdrop
  rw [afterFirst]
  omega

theorem nonNeg_afterFirst (width : ℚ) (hn : NonNeg cs) : NonNeg (afterFirst width cs) := by
  intro c hc
  exact hn c (List.drop_subset _ _ ((List.dropWhile_sublist _).subset hc))

theorem dropSpaces_isSuffix (h : ds <:+ cs) : dropSpaces ds <:+ dropSpaces cs := by
  obtain ⟨front, rfl⟩ := h
  rw [dropSpaces, dropSpaces, List.dropWhile_append]
  split
  · exact List.suffix_refl _
  · exact (List.dropWhile_suffix _).trans (List.suffix_append _ _)

/-- Of two segments the one that starts later, in more room, is followed by one that
starts no earlier. -/
theorem afterFirst_isSuffix (hw : width ≤ width') (hn : NonNeg cs) (h : ds <:+ cs) :
    afterFirst width' ds <:+ afterFirst width cs := by
  obtain ⟨front, rfl⟩ := h
  have hle := firstSegment_append_le hw (nonNeg_append.1 hn).1 ds
  have hdrop : ds.drop (firstSegment width' ds) =
      (front ++ ds).drop (front.length + firstSegment width' ds) := by
    rw [← List.drop_drop, List.drop_left]
  rw [afterFirst, afterFirst, hdrop]
  exact dropSpaces_isSuffix (List.drop_suffix_drop_left _ hle)

/-! ## Counting lines -/

/-- In more room, and from later on, there are no more segments. -/
theorem length_plainSegments_le (hw : width ≤ width') (hn : NonNeg cs) (h : ds <:+ cs) :
    (plainSegments width' ds).length ≤ (plainSegments width cs).length := by
  induction hlen : cs.length using Nat.strong_induction_on generalizing cs ds with
  | _ n ih =>
      by_cases hd : ds = []
      · rw [hd, plainSegments]
        exact Nat.zero_le _
      · have hc : cs ≠ [] := by
          rintro rfl
          exact hd (List.suffix_nil.1 h)
        rw [plainSegments_of_ne_nil width' hd, plainSegments_of_ne_nil width hc,
          List.length_cons, List.length_cons]
        exact Nat.succ_le_succ (ih _ (hlen ▸ length_afterFirst_lt width hc)
          (nonNeg_afterFirst width hn) (afterFirst_isSuffix hw hn h) rfl)

theorem length_wrapParagraph_le (paragraph : List Char) (hw : width ≤ width') (hn : NonNeg cs) :
    (wrapParagraph paragraph cs width').length ≤ (wrapParagraph paragraph cs width).length := by
  by_cases hne : cs = []
  · rw [hne, wrapParagraph_nil, wrapParagraph_nil]
  · rw [wrapParagraph_of_ne_nil paragraph hne, wrapParagraph_of_ne_nil paragraph hne,
      List.length_map, List.length_map, segments_eq_plainSegments hn, segments_eq_plainSegments hn]
    exact length_plainSegments_le hw hn (List.suffix_refl cs)

variable {shaper : Shaper ℚ}

theorem length_wrapPieces_le (hn : ∀ text, NonNeg (shaper text)) (hw : width ≤ width')
    (ps : List (List Char)) :
    (wrapPieces shaper width' ps).length ≤ (wrapPieces shaper width ps).length := by
  induction ps with
  | nil => exact Nat.le_refl 0
  | cons p ps ih =>
      have hp := length_wrapParagraph_le p hw (hn (String.ofList p))
      by_cases hne : ps = []
      · rw [hne]
        exact hp
      · -- the empty lines between the paragraphs do not depend on the width
        rw [wrapPieces_cons shaper width' p hne, wrapPieces_cons shaper width p hne]
        simp only [List.length_append]
        omega

/-- With more room a text has no more lines. -/
theorem length_wrap_le (hn : ∀ text, NonNeg (shaper text)) (text : String) (hw : width ≤ width') :
    (shaper.wrap text width').length ≤ (shaper.wrap text width).length := by
  rw [Shaper.wrap, Shaper.wrap, List.length_map, List.length_map]
  exact length_wrapPieces_le hn hw _

end Colloquy.Typeset
