import Colloquy.Typeset.Merging
import Mathlib

/-!
# Sums of the advances of a place

A list of places with advances comes to a sum at each place.  Joining two entries of a
place, or putting entries into another order, keeps the places and the sums, and the sizes of
the advances do not grow (`AmountsTo`).  So where all sizes together are less than an advance
can hold, no sum on the way is too large for one.

A list in the order of places is known from its places and sums, however it was made
(`AmountsTo.eq_of_inOrder`).  So glyphs inserted one by one and glyphs merged in passes come
to the same list, in whatever order they are (`advances_perm`, `mergedAdvances_perm`).
-/

namespace Colloquy.Typeset

variable {place : Nat} {es fs : List (Nat × Int32)} {glyphs glyphs' : List Glyph}

/-! ## Sums -/

/-- The sum of the advances at a place. -/
def sumAt (place : Nat) (es : List (Nat × Int32)) : Int :=
  ((es.filter fun e => e.1 = place).map fun e => e.2.toInt).sum

/-- The sum of the sizes of all advances. -/
def spread (es : List (Nat × Int32)) : Nat := (es.map fun e => e.2.toInt.natAbs).sum

@[simp] theorem sumAt_cons (e : Nat × Int32) (es : List (Nat × Int32)) :
    sumAt place (e :: es) = (if e.1 = place then e.2.toInt else 0) + sumAt place es := by
  by_cases h : e.1 = place <;> simp [sumAt, h]

@[simp] theorem spread_cons (e : Nat × Int32) (es : List (Nat × Int32)) :
    spread (e :: es) = e.2.toInt.natAbs + spread es := by
  simp [spread]

theorem sumAt_of_notMem (h : place ∉ es.map Prod.fst) : sumAt place es = 0 := by
  have hnone : es.filter (fun e => e.1 = place) = [] := by
    rw [List.filter_eq_nil_iff]
    intro e he hp
    exact h (List.mem_map.2 ⟨e, he, by simpa using hp⟩)
  rw [sumAt, hnone]
  rfl

/-- The entries of a list come to those of another one, which has the same places and the
same sum at each. -/
structure AmountsTo (es fs : List (Nat × Int32)) : Prop where
  places : ∀ p, p ∈ fs.map Prod.fst ↔ p ∈ es.map Prod.fst
  sum : ∀ p, sumAt p fs = sumAt p es
  /-- The sizes have not grown. -/
  spread_le : spread fs ≤ spread es

namespace AmountsTo

variable {gs : List (Nat × Int32)}

theorem refl (es : List (Nat × Int32)) : AmountsTo es es where
  places := fun _ => Iff.rfl
  sum := fun _ => rfl
  spread_le := Nat.le_refl _

theorem trans (h : AmountsTo es fs) (h' : AmountsTo fs gs) : AmountsTo es gs where
  places := fun p => (h'.places p).trans (h.places p)
  sum := fun p => (h'.sum p).trans (h.sum p)
  spread_le := h'.spread_le.trans h.spread_le

theorem cons (e : Nat × Int32) (h : AmountsTo es fs) : AmountsTo (e :: es) (e :: fs) where
  places := fun p => by simp only [List.map_cons, List.mem_cons, h.places]
  sum := fun p => by rw [sumAt_cons, sumAt_cons, h.sum]
  spread_le := by
    rw [spread_cons, spread_cons]
    exact Nat.add_le_add_left h.spread_le _

theorem of_perm (h : fs.Perm es) : AmountsTo es fs where
  places := fun _ => (h.map Prod.fst).mem_iff
  sum := fun _ => ((h.filter _).map _).sum_eq
  spread_le := ((h.map _).sum_eq).le

/-- Two entries of a place joined. -/
theorem join {a b c : Int32} (hc : c.toInt = a.toInt + b.toInt) :
    AmountsTo ((place, a) :: (place, b) :: es) ((place, c) :: es) where
  places := fun p => by simp
  sum := fun p => by
    simp only [sumAt_cons]
    split <;> omega
  spread_le := by
    simp only [spread_cons]
    omega

end AmountsTo

/-! ## Additions that hold -/

/-- An addition that is not refused adds numbers. -/
theorem toInt_of_addAt {a b c : Int32} (h : addAt place a b = .ok c) :
    c.toInt = a.toInt + b.toInt := by
  have hmin : Int32.minValue.toInt = -2 ^ 31 := rfl
  have hmax : Int32.maxValue.toInt = 2 ^ 31 - 1 := rfl
  rw [addAt] at h
  split at h
  · cases h
    rw [Int32.toInt_add]
    exact Int.bmod_eq_of_le_mul_two (by omega) (by omega)
  · cases h

theorem addAt_eq {a b : Int32} (h : a.toInt.natAbs + b.toInt.natAbs < 2 ^ 31) :
    addAt place a b = .ok (a + b) := by
  have hmin : Int32.minValue.toInt = -2 ^ 31 := rfl
  have hmax : Int32.maxValue.toInt = 2 ^ 31 - 1 := rfl
  rw [addAt, if_pos (by omega)]

/-- Advances whose sizes are few enough are added as numbers. -/
theorem toInt_add_of_lt {a b : Int32} (h : a.toInt.natAbs + b.toInt.natAbs < 2 ^ 31) :
    (a + b).toInt = a.toInt + b.toInt :=
  toInt_of_addAt (addAt_eq h : addAt 0 a b = .ok (a + b))

/-! ## Lists in the order of places -/

/-- The place of an entry is before that of another one. -/
def Precedes (e f : Nat × Int32) : Prop := e.1 < f.1

instance : Std.Irrefl Precedes := ⟨fun e => Nat.lt_irrefl e.1⟩

instance : Std.Antisymm Precedes := ⟨fun _ _ h h' => absurd h (Nat.lt_asymm h')⟩

/-- Entries in the order of places, one for each. -/
def InOrder (es : List (Nat × Int32)) : Prop := es.Pairwise Precedes

theorem InOrder.sumAt_eq (h : InOrder es) {a : Int32} (ha : (place, a) ∈ es) :
    sumAt place es = a.toInt := by
  induction es with
  | nil => cases ha
  | cons e es ih =>
      obtain ⟨hbefore, horder⟩ := List.pairwise_cons.1 h
      rw [sumAt_cons]
      rcases List.mem_cons.1 ha with rfl | ha
      · have hrest : place ∉ es.map Prod.fst := by
          intro hmem
          obtain ⟨f, hf, hfp⟩ := List.mem_map.1 hmem
          exact Nat.lt_irrefl _ (hfp ▸ hbefore f hf)
        rw [if_pos rfl, sumAt_of_notMem hrest, Int.add_zero]
      · rw [if_neg (Nat.ne_of_lt (hbefore _ ha)), Int.zero_add]
        exact ih horder ha

/-- The entries of a list in order are the sums at its places. -/
theorem InOrder.mem_iff (h : InOrder es) {a : Int32} :
    (place, a) ∈ es ↔ place ∈ es.map Prod.fst ∧ sumAt place es = a.toInt := by
  constructor
  · intro ha
    exact ⟨List.mem_map.2 ⟨_, ha, rfl⟩, h.sumAt_eq ha⟩
  · rintro ⟨hplace, ha⟩
    obtain ⟨⟨p, b⟩, hb, rfl⟩ := List.mem_map.1 hplace
    rw [h.sumAt_eq hb, Int32.toInt_inj] at ha
    rwa [ha] at hb

/-- Two lists in order that the same entries amount to are one list. -/
theorem AmountsTo.eq_of_inOrder {gs : List (Nat × Int32)} (h : AmountsTo es fs)
    (h' : AmountsTo es gs) (hf : InOrder fs) (hg : InOrder gs) : fs = gs := by
  refine List.Pairwise.eq_of_mem_iff hf hg fun e => ?_
  rw [hf.mem_iff, hg.mem_iff, h.places, h'.places, h.sum, h'.sum]

/-! ## Insertion -/

theorem places_addAdvance (place : Nat) (a : Int32) (es : List (Nat × Int32)) (p : Nat) :
    p ∈ (addAdvance place a es).map Prod.fst ↔ p = place ∨ p ∈ es.map Prod.fst := by
  fun_induction addAdvance place a es with
  | case1 => simp
  | case2 => simp
  | case3 => simp
  | case4 q b es _ _ ih =>
      simp only [List.map_cons, List.mem_cons, ih]
      exact or_left_comm

/-- An insertion keeps a list in order. -/
theorem inOrder_addAdvance {a : Int32} (h : InOrder es) : InOrder (addAdvance place a es) := by
  fun_induction addAdvance place a es with
  | case1 => exact List.pairwise_singleton ..
  | case2 q b es hlt =>
      refine .cons (List.forall_mem_cons.2 ⟨hlt, fun e he => ?_⟩) h
      exact Nat.lt_trans hlt ((List.pairwise_cons.1 h).1 e he)
  | case3 b es => exact .cons (List.pairwise_cons.1 h).1 (List.pairwise_cons.1 h).2
  | case4 q b es hlt hne ih =>
      obtain ⟨hbefore, horder⟩ := List.pairwise_cons.1 h
      refine .cons (fun e he => ?_) (ih horder)
      rcases (places_addAdvance ..).1 (List.mem_map_of_mem he) with hp | hp
      · show q < e.1
        omega
      · obtain ⟨f, hf, hfe⟩ := List.mem_map.1 hp
        have hqf : q < f.1 := hbefore f hf
        exact Nat.lt_of_lt_of_eq hqf hfe

theorem amountsTo_addAdvance {a : Int32} (h : spread ((place, a) :: es) < 2 ^ 31) :
    AmountsTo ((place, a) :: es) (addAdvance place a es) := by
  fun_induction addAdvance place a es with
  | case1 => exact .refl _
  | case2 => exact .refl _
  | case3 b es =>
      simp only [spread_cons] at h
      exact .join (toInt_add_of_lt (by omega))
  | case4 q b es _ _ ih =>
      have hswap : AmountsTo ((place, a) :: (q, b) :: es) ((q, b) :: (place, a) :: es) :=
        .of_perm (.swap ..)
      refine hswap.trans (.cons _ (ih ?_))
      simp only [spread_cons] at h ⊢
      omega

theorem inOrder_advances (glyphs : List Glyph) : InOrder (advances glyphs) := by
  induction glyphs with
  | nil => exact .nil
  | cons g glyphs ih => exact inOrder_addAdvance ih

theorem amountsTo_advances (h : spread (glyphs.map Glyph.entry) < 2 ^ 31) :
    AmountsTo (glyphs.map Glyph.entry) (advances glyphs) := by
  induction glyphs with
  | nil => exact .refl _
  | cons g glyphs ih =>
      rw [List.map_cons] at h ⊢
      have hrest : spread (glyphs.map Glyph.entry) < 2 ^ 31 := by
        rw [spread_cons] at h
        omega
      have hstep := (ih hrest).cons g.entry
      exact hstep.trans (amountsTo_addAdvance (hstep.spread_le.trans_lt h))

/-! ## Passes -/

section Passes

variable {sum : Int32} {joined sums : List (Nat × Int32)}

/-- An entry is joined with the sum of those before it, or the next sum starts with it. -/
theorem joinFrom_cases {p : Nat} {a : Int32} (h : joinFrom place sum ((p, a) :: es) = .ok joined) :
    (p = place ∧ ∃ c, addAt place sum a = .ok c ∧ joinFrom place c es = .ok joined) ∨
      (p ≠ place ∧ ∃ rest, joinFrom p a es = .ok rest ∧ joined = (place, sum) :: rest) := by
  rw [joinFrom] at h
  by_cases hp : p = place
  · rw [if_pos hp] at h
    cases hadd : addAt place sum a with
    | error fault =>
        rw [hadd] at h
        cases h
    | ok c =>
        rw [hadd] at h
        exact .inl ⟨hp, c, rfl, h⟩
  · rw [if_neg hp] at h
    cases hrest : joinFrom p a es with
    | error fault =>
        rw [hrest] at h
        cases h
    | ok rest =>
        rw [hrest] at h
        cases h
        exact .inr ⟨hp, rest, rfl, rfl⟩

theorem amountsTo_joinFrom (h : joinFrom place sum es = .ok joined) :
    AmountsTo ((place, sum) :: es) joined := by
  induction es generalizing place sum joined with
  | nil =>
      cases h
      exact .refl _
  | cons e es ih =>
      obtain ⟨rfl, c, hadd, hjoined⟩ | ⟨-, rest, hrest, rfl⟩ := joinFrom_cases h
      · exact (AmountsTo.join (toInt_of_addAt hadd)).trans (ih hjoined)
      · exact (ih hrest).cons _

/-- Of a list with its places in order, neighbours are joined to one with its entries in
order. -/
theorem inOrder_joinFrom (h : joinFrom place sum es = .ok joined)
    (hs : ((place, sum) :: es).Pairwise (fun e f => e.1 ≤ f.1)) : InOrder joined := by
  induction es generalizing place sum joined with
  | nil =>
      cases h
      exact List.pairwise_singleton ..
  | cons e es ih =>
      obtain ⟨hle, hes⟩ := List.pairwise_cons.1 hs
      obtain ⟨hrest, htail⟩ := List.pairwise_cons.1 hes
      obtain ⟨rfl, c, -, hjoined⟩ | ⟨hp, rest, hjoined, rfl⟩ := joinFrom_cases h
      · exact ih hjoined (.cons (fun f hf => hle f (List.mem_cons_of_mem _ hf)) htail)
      · refine .cons (fun f hf => ?_) (ih hjoined hes)
        -- the places that are left are those of the entries behind
        have hplace := ((amountsTo_joinFrom hjoined).places f.1).1 (List.mem_map_of_mem hf)
        have hhead : place ≤ e.1 := hle _ (List.mem_cons_self ..)
        show place < f.1
        rcases List.mem_cons.1 hplace with hfp | hmem
        · change f.1 = e.1 at hfp
          omega
        · obtain ⟨g, hg, hgf⟩ := List.mem_map.1 hmem
          have hpg : e.1 ≤ g.1 := hrest g hg
          omega

/-- Neighbours are joined without an overflow where the sizes are few enough. -/
theorem exists_joinFrom (h : spread ((place, sum) :: es) < 2 ^ 31) :
    ∃ joined, joinFrom place sum es = .ok joined := by
  induction es generalizing place sum with
  | nil => exact ⟨_, rfl⟩
  | cons e es ih =>
      obtain ⟨p, a⟩ := e
      simp only [spread_cons] at h
      rw [joinFrom]
      by_cases hp : p = place
      · have hadd : addAt place sum a = .ok (sum + a) := addAt_eq (by omega)
        have hsum := toInt_of_addAt hadd
        obtain ⟨joined, hjoined⟩ := @ih place (sum + a) (by simp only [spread_cons]; omega)
        refine ⟨joined, ?_⟩
        rw [if_pos hp, hadd]
        exact hjoined
      · obtain ⟨joined, hjoined⟩ := @ih p a (by simp only [spread_cons]; omega)
        refine ⟨(place, sum) :: joined, ?_⟩
        rw [if_neg hp, hjoined]
        rfl

theorem amountsTo_joinNeighbours (h : joinNeighbours es = .ok joined) : AmountsTo es joined := by
  cases es with
  | nil =>
      cases h
      exact .refl _
  | cons e es => exact amountsTo_joinFrom h

theorem inOrder_joinNeighbours (h : joinNeighbours es = .ok joined)
    (hs : es.Pairwise (fun e f => e.1 ≤ f.1)) : InOrder joined := by
  cases es with
  | nil =>
      cases h
      exact .nil
  | cons e es => exact inOrder_joinFrom h hs

theorem exists_joinNeighbours (h : spread es < 2 ^ 31) :
    ∃ joined, joinNeighbours es = .ok joined := by
  cases es with
  | nil => exact ⟨[], rfl⟩
  | cons e es => exact exists_joinFrom h

theorem amountsTo_mergeSort (runs : List (Nat × Int32)) :
    AmountsTo runs (runs.mergeSort fun r s => r.1 ≤ s.1) :=
  .of_perm (List.mergeSort_perm ..)

/-- Passes that do not overflow keep what the glyphs come to, and end in a list in order. -/
theorem amountsTo_mergedAdvances (h : mergedAdvances glyphs = .ok sums) :
    AmountsTo (glyphs.map Glyph.entry) sums ∧ InOrder sums := by
  rw [mergedAdvances] at h
  cases hruns : joinNeighbours (glyphs.map Glyph.entry) with
  | error fault =>
      rw [hruns] at h
      cases h
  | ok runs =>
      rw [hruns] at h
      have hsorted := (amountsTo_joinNeighbours hruns).trans (amountsTo_mergeSort runs)
      exact ⟨hsorted.trans (amountsTo_joinNeighbours h), inOrder_joinNeighbours h
        (List.pairwise_mergeSort' (fun r s : Nat × Int32 => r.1 ≤ s.1) runs)⟩

/-- They do not overflow where the sizes are few enough. -/
theorem exists_mergedAdvances (h : spread (glyphs.map Glyph.entry) < 2 ^ 31) :
    ∃ sums, mergedAdvances glyphs = .ok sums := by
  obtain ⟨runs, hruns⟩ := exists_joinNeighbours h
  have hsorted := (amountsTo_joinNeighbours hruns).trans (amountsTo_mergeSort runs)
  obtain ⟨sums, hsums⟩ := exists_joinNeighbours (hsorted.spread_le.trans_lt h)
  refine ⟨sums, ?_⟩
  rw [mergedAdvances, hruns]
  exact hsums

end Passes

/-! ## Any order of the glyphs -/

theorem AmountsTo.of_glyphs_perm (hp : glyphs'.Perm glyphs) :
    AmountsTo (glyphs.map Glyph.entry) (glyphs'.map Glyph.entry) :=
  .of_perm (hp.map _)

/-- Glyphs inserted in any order have the same sums. -/
theorem advances_perm (h : spread (glyphs.map Glyph.entry) < 2 ^ 31)
    (hp : glyphs'.Perm glyphs) : advances glyphs' = advances glyphs := by
  have hentries := AmountsTo.of_glyphs_perm hp
  have hamounts := hentries.trans (amountsTo_advances (hentries.spread_le.trans_lt h))
  exact hamounts.eq_of_inOrder (amountsTo_advances h) (inOrder_advances _) (inOrder_advances _)

/-- Passes over glyphs in any order come to the sums that insertions come to. -/
theorem mergedAdvances_perm (h : spread (glyphs.map Glyph.entry) < 2 ^ 31)
    (hp : glyphs'.Perm glyphs) : mergedAdvances glyphs' = .ok (advances glyphs) := by
  have hentries := AmountsTo.of_glyphs_perm hp
  obtain ⟨sums, hsums⟩ := exists_mergedAdvances (hentries.spread_le.trans_lt h)
  obtain ⟨hmerged, horder⟩ := amountsTo_mergedAdvances hsums
  have hamounts := hentries.trans hmerged
  rw [hsums, hamounts.eq_of_inOrder (amountsTo_advances h) horder (inOrder_advances _)]

end Colloquy.Typeset
