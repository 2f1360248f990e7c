import Colloquy.Proofs.Typeset.Plain
import Colloquy.Proofs.Typeset.Sums

/-!
# The width of a text

A text is as wide as its clusters are together, and the pen goes as far as its glyphs say.
These are the same distance where the advances of each place come to an advance
(`totalAdvance_clustersOfGlyphs`), as they do where merging them in passes does not overflow
(`AdvancesHold.of_merged`).

Advances wrap around, so the sum of a place is right up to multiples of `2^32`, whatever it was
on the way (`modEq_sumAt_advances`).  Nothing more has to be known of it than that it is an
advance in the end.
-/

namespace Colloquy.Typeset

variable {place : Nat} {es : List (Nat × Int32)} {glyphs : List Glyph}

/-- How far glyphs move the pen one way, in sixty-fourths of a pixel. -/
def travel (advance : Glyph → Int32) (glyphs : List Glyph) : Int :=
  (glyphs.map fun g => (advance g).toInt).sum

/-- How far glyphs move the pen to the right. -/
def xTotal (glyphs : List Glyph) : Int := travel Glyph.xAdvance glyphs

/-- How far glyphs move the pen down. -/
def yTotal (glyphs : List Glyph) : Int := travel Glyph.yAdvance glyphs

theorem travel_concat (advance : Glyph → Int32) (glyphs : List Glyph) (glyph : Glyph) :
    travel advance (glyphs ++ [glyph]) = travel advance glyphs + (advance glyph).toInt := by
  rw [travel, List.map_append, List.sum_append, List.map_singleton, List.sum_singleton, travel]

/-- The sum of all advances. -/
def total (es : List (Nat × Int32)) : Int := (es.map fun e => e.2.toInt).sum

/-- Whether the advances of the glyphs of each place come to an advance. -/
def AdvancesHold (glyphs : List Glyph) : Prop :=
  ∀ place, Int32.minValue.toInt ≤ sumAt place (glyphs.map Glyph.entry) ∧
    sumAt place (glyphs.map Glyph.entry) ≤ Int32.maxValue.toInt

/-! ## Sums that wrap around -/

theorem modEq_toInt_add (a b : Int32) : (a + b).toInt ≡ a.toInt + b.toInt [ZMOD 2 ^ 32] := by
  rw [Int32.toInt_add]
  exact Int.bmod_emod

/-- An insertion adds to the sum of its place, up to multiples of `2^32`. -/
theorem modEq_sumAt_addAdvance (p : Nat) (a : Int32) (es : List (Nat × Int32)) :
    sumAt place (addAdvance p a es) ≡ sumAt place ((p, a) :: es) [ZMOD 2 ^ 32] := by
  fun_induction addAdvance p a es with
  | case1 => exact .refl _
  | case2 => exact .refl _
  | case3 b es =>
      simp only [sumAt_cons, ← Int.add_assoc]
      refine Int.ModEq.add_right _ ?_
      split
      · exact modEq_toInt_add a b
      · exact .refl _
  | case4 q b es _ _ ih =>
      rw [sumAt_cons] at ih ⊢
      rw [sumAt_cons, sumAt_cons, Int.add_left_comm]
      exact ih.add_left _

theorem modEq_sumAt_advances (place : Nat) (glyphs : List Glyph) :
    sumAt place (advances glyphs) ≡ sumAt place (glyphs.map Glyph.entry) [ZMOD 2 ^ 32] := by
  induction glyphs with
  | nil => exact .refl _
  | cons g glyphs ih =>
      refine (modEq_sumAt_addAdvance g.place g.xAdvance (advances glyphs)).trans ?_
      rw [List.map_cons, sumAt_cons, sumAt_cons]
      exact ih.add_left _

/-- The sums at the places of a list in order are advances. -/
theorem InOrder.sumAt_mem (h : InOrder es) (place : Nat) :
    Int32.minValue.toInt ≤ sumAt place es ∧ sumAt place es ≤ Int32.maxValue.toInt := by
  by_cases hplace : place ∈ es.map Prod.fst
  · obtain ⟨⟨p, a⟩, ha, rfl⟩ := List.mem_map.1 hplace
    rw [h.sumAt_eq ha]
    exact ⟨Int32.minValue_le_toInt a, Int32.toInt_le a⟩
  · rw [sumAt_of_notMem hplace]
    decide

theorem sumAt_advances (h : AdvancesHold glyphs) (place : Nat) :
    sumAt place (advances glyphs) = sumAt place (glyphs.map Glyph.entry) := by
  have hmin : Int32.minValue.toInt = -2 ^ 31 := rfl
  have hmax : Int32.maxValue.toInt = 2 ^ 31 - 1 := rfl
  obtain ⟨hlower, hupper⟩ := h place
  obtain ⟨hlower', hupper'⟩ := (inOrder_advances glyphs).sumAt_mem place
  have hmod := modEq_sumAt_advances place glyphs
  rw [Int.ModEq] at hmod
  omega

/-- The sum of a place is no larger than all advances together. -/
theorem natAbs_sumAt_le (place : Nat) (es : List (Nat × Int32)) :
    (sumAt place es).natAbs ≤ spread es := by
  induction es with
  | nil => exact Nat.le_refl _
  | cons e es ih =>
      rw [sumAt_cons, spread_cons]
      refine (Int.natAbs_add_le ..).trans (Nat.add_le_add ?_ ih)
      split
      · exact Nat.le_refl _
      · exact Nat.zero_le _

theorem AdvancesHold.of_spread (h : spread (glyphs.map Glyph.entry) < 2 ^ 31) :
    AdvancesHold glyphs := by
  have hmin : Int32.minValue.toInt = -2 ^ 31 := rfl
  have hmax : Int32.maxValue.toInt = 2 ^ 31 - 1 := rfl
  intro place
  have hle := natAbs_sumAt_le place (glyphs.map Glyph.entry)
  omega

/-- The advances hold where merging in passes does not overflow. -/
theorem AdvancesHold.of_merged {sums : List (Nat × Int32)} (h : mergedAdvances glyphs = .ok sums) :
    AdvancesHold glyphs := by
  obtain ⟨hamounts, horder⟩ := amountsTo_mergedAdvances h
  intro place
  rw [← hamounts.sum place]
  exact horder.sumAt_mem place

/-! ## Totals -/

/-- The sums at all places come to the sum of all advances. -/
theorem sum_sumAt {places : Finset Nat} (h : ∀ e ∈ es, e.1 ∈ places) :
    ∑ place ∈ places, sumAt place es = total es := by
  induction es with
  | nil => exact Finset.sum_const_zero
  | cons e es ih =>
      obtain ⟨he, hes⟩ := List.forall_mem_cons.1 h
      simp only [sumAt_cons]
      rw [Finset.sum_add_distrib, Finset.sum_ite_eq, if_pos he, ih hes, total, total,
        List.map_cons, List.sum_cons]

theorem total_advances (h : AdvancesHold glyphs) : total (advances glyphs) = xTotal glyphs := by
  have htotal : total (glyphs.map Glyph.entry) = xTotal glyphs := by
    rw [total, List.map_map]
    rfl
  let all := advances glyphs ++ glyphs.map Glyph.entry
  have hplaces : ∀ e ∈ all, e.1 ∈ (all.map Prod.fst).toFinset := fun e he =>
    List.mem_toFinset.2 (List.mem_map_of_mem he)
  obtain ⟨hsums, hentries⟩ := List.forall_mem_append.1 hplaces
  rw [← htotal, ← sum_sumAt hsums, ← sum_sumAt hentries]
  exact Finset.sum_congr rfl fun place _ => sumAt_advances h place

theorem totalAdvance_clustersOfAdvances (text : List Char) (es : List (Nat × Int32)) :
    totalAdvance (clustersOfAdvances (α := ℚ) text es) = (total es : ℚ) / 64 := by
  fun_induction clustersOfAdvances (α := ℚ) text es with
  | case1 => simp [totalAdvance, total]
  | case2 p a => simp [totalAdvance, total, pixels]
  | case3 p a q b rest ih =>
      rw [totalAdvance_cons, ih]
      simp only [total, List.map_cons, List.sum_cons, pixels]
      push_cast
      ring

/-- The clusters of glyphs are as wide as the pen goes. -/
theorem totalAdvance_clustersOfGlyphs (text : String) (h : AdvancesHold glyphs) :
    totalAdvance (clustersOfGlyphs (α := ℚ) text glyphs) = (xTotal glyphs : ℚ) / 64 := by
  rw [clustersOfGlyphs, totalAdvance_clustersOfAdvances, total_advances h]

end Colloquy.Typeset
