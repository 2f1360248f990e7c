import Colloquy.Proofs.Typeset.Strips
import Colloquy.Typeset.Scan

/-!
# Scanning is packing

A scan that walks through a paragraph by places comes to the lines of packing, in
two turns for each cluster and one more.  So none of its places is wrong and it does
not go on for ever (`scan_wrapParagraph`).

`Stands` ties the places of a scan to the parts that packing works on: what has been
passed, the open segment up to its last space, the rest of the segment.  Every
recursive call of packing is a turn of the scan, and the measure that makes packing
end counts the turns (`run_eq`).  No law of addition or order is used, so widths may be
negative, infinite or no numbers at all.
-/

namespace Colloquy.Typeset

variable {α : Type} {cs seg passed before word rest : List (Cluster α)}

theorem ok_bind {β γ : Type} (b : β) (f : β → Except PlaceFault γ) :
    (Except.ok b >>= f) = f b := rfl

/-! ## Right places -/

theorem clusterAt_of_getElem? {place : Nat} {c : Cluster α} (h : cs[place]? = some c) :
    clusterAt cs place = .ok c := by
  rw [clusterAt, h]

theorem clusterAt_append (passed rest : List (Cluster α)) (c : Cluster α) :
    clusterAt (passed ++ c :: rest) passed.length = .ok c :=
  clusterAt_of_getElem? (by simp)

theorem clustersBetween_append (passed seg rest : List (Cluster α)) :
    clustersBetween (passed ++ (seg ++ rest)) passed.length (passed ++ seg).length = .ok seg := by
  rw [clustersBetween, if_pos (by simp), ← List.append_assoc, List.take_left, List.drop_left]

/-- Spaces are passed over up to what does not begin with one. -/
theorem skipSpaces_append (passed : List (Cluster α)) {gap : List (Cluster α)}
    (hg : AllSpaces gap) (ho : Opens rest) :
    skipSpaces (passed ++ (gap ++ rest)) passed.length = .ok (passed ++ gap).length := by
  induction gap generalizing passed with
  | nil =>
      rw [skipSpaces, List.nil_append, List.append_nil]
      cases rest with
      | nil => simp; rfl
      | cons c rest =>
          rw [if_pos (by simp), clusterAt_append, ok_bind, if_neg (by simp [ho c rfl])]
          rfl
  | cons c gap ih =>
      obtain ⟨hc, hgap⟩ := List.forall_mem_cons.1 hg
      have h := ih (passed ++ [c]) hgap
      rw [skipSpaces, List.cons_append, if_pos (by simp), clusterAt_append, ok_bind, if_pos hc]
      simpa using h

/-! ## The line between two places -/

theorem visible_cons (c : Cluster α) (cs : List (Cluster α)) :
    visible (c :: cs) = if c.isSpace then visible cs else c :: visible cs := by
  rw [visible, List.filter_cons]
  cases c.isSpace with
  | true => rfl
  | false => rfl

theorem visible_of_findIdx?_eq_none (h : (cs.findIdx? fun c => !c.isSpace) = none) :
    visible cs = [] := by
  rw [List.findIdx?_eq_none_iff] at h
  exact List.filter_eq_nil_iff.2 fun c hc => by simp [h c hc]

theorem exists_of_findIdx?_eq_some {place : Nat}
    (h : (cs.findIdx? fun c => !c.isSpace) = some place) :
    ∃ c, cs[place]? = some c ∧ (visible cs).head? = some c := by
  induction cs generalizing place with
  | nil => cases h
  | cons c cs ih =>
      rw [List.findIdx?_cons] at h
      cases hc : c.isSpace with
      | false =>
          simp only [hc, Bool.not_false, if_true, Option.some.injEq] at h
          exact ⟨c, by rw [← h]; rfl, by simp [visible_cons, hc]⟩
      | true =>
          simp only [hc, Bool.not_true, Bool.false_eq_true, if_false, Option.map_eq_some_iff] at h
          obtain ⟨behind, hb, rfl⟩ := h
          obtain ⟨d, hd, hv⟩ := ih hb
          exact ⟨d, hd, by rw [visible_cons, if_pos hc, hv]⟩

theorem visible_of_lastVisible?_eq_none (h : lastVisible? cs = none) : visible cs = [] := by
  induction cs with
  | nil => rfl
  | cons c cs ih =>
      rw [lastVisible?] at h
      cases hlast : lastVisible? cs with
      | some place => simp [hlast] at h
      | none =>
          cases hc : c.isSpace with
          | false => simp [hlast, hc] at h
          | true => rw [visible_cons, if_pos hc, ih hlast]

theorem exists_of_lastVisible?_eq_some {place : Nat} (h : lastVisible? cs = some place) :
    ∃ c, cs[place]? = some c ∧ (visible cs).getLast? = some c := by
  induction cs generalizing place with
  | nil => cases h
  | cons c cs ih =>
      rw [lastVisible?] at h
      cases hlast : lastVisible? cs with
      | some behind =>
          rw [hlast] at h
          cases h
          obtain ⟨d, hd, hv⟩ := ih hlast
          refine ⟨d, hd, ?_⟩
          rw [visible_cons]
          split
          · exact hv
          · rw [List.getLast?_cons, hv]
            rfl
      | none =>
          cases hc : c.isSpace with
          | true => simp [hlast, hc] at h
          | false =>
              simp only [hlast, hc, Bool.false_eq_true, if_false, Option.some.injEq] at h
              exact ⟨c, by rw [← h]; rfl,
                by simp [visible_cons, hc, visible_of_lastVisible?_eq_none hlast]⟩

/-- Between the places of a segment stands the line of the segment. -/
theorem lineBetween_append (paragraph : List Char) (passed seg rest : List (Cluster α)) {last : Nat}
    (hlast : last + 1 = (passed ++ seg).length) :
    lineBetween paragraph (passed ++ (seg ++ rest)) passed.length last =
      .ok (lineOf paragraph seg) := by
  rw [lineBetween, hlast, clustersBetween_append, ok_bind, lineOf, visibleRange?_eq_visible]
  cases hhead : seg.findIdx? fun c => !c.isSpace with
  | none =>
      rw [visible_of_findIdx?_eq_none hhead]
      rfl
  | some head =>
      obtain ⟨opening, ho, hvo⟩ := exists_of_findIdx?_eq_some hhead
      cases htail : lastVisible? seg with
      | none =>
          rw [visible_of_lastVisible?_eq_none htail] at hvo
          cases hvo
      | some tail =>
          obtain ⟨closing, hc, hvc⟩ := exists_of_lastVisible?_eq_some htail
          rw [hvo, hvc]
          simp only [Option.getD_some, clusterAt_of_getElem? ho, clusterAt_of_getElem? hc, ok_bind]
          rfl

/-! ## Scans that stand in a paragraph -/

namespace Scan

/-- How the places of a scan lie among the clusters: behind those passed and before the
rest stands the open segment, first up to its last space and then without one. -/
structure Stands (all passed before word rest : List (Cluster α)) (filled : α) (s : Scan α) :
    Prop where
  all_eq : all = passed ++ (before ++ (word ++ rest))
  first : s.first = passed.length
  next : s.next = (passed ++ (before ++ word)).length
  filled_eq : s.filled = filled
  word_noSpaces : NoSpaces word
  space : s.space.map (· + 1) = if before.isEmpty then none else some (passed ++ before).length

variable {all : List (Cluster α)} {filled : α} {c : Cluster α} {s : Scan α}

/-- Before the first turn nothing is passed and nothing is open. -/
theorem stands_start [Zero α] (cs : List (Cluster α)) : start.Stands cs [] [] [] cs 0 :=
  ⟨rfl, rfl, rfl, rfl, noSpaces_nil, rfl⟩

theorem Stands.clusterAt (h : s.Stands all passed before word (c :: rest) filled) :
    clusterAt all s.next = .ok c := by
  have hc := clusterAt_append (passed ++ (before ++ word)) rest c
  rwa [List.append_assoc, List.append_assoc, ← h.all_eq, ← h.next] at hc

theorem Stands.next_lt_iff (h : s.Stands all passed before word rest filled) :
    s.next < all.length ↔ rest ≠ [] := by
  rw [h.next, h.all_eq, ← List.length_pos_iff_ne_nil]
  simp

theorem Stands.first_lt_iff (h : s.Stands all passed before word [] filled) :
    s.first < all.length ↔ before ++ word ≠ [] := by
  rw [h.first, h.all_eq, ← List.length_pos_iff_ne_nil]
  simp

theorem Stands.space_eq_none (h : s.Stands all passed [] word rest filled) : s.space = none :=
  Option.map_eq_none_iff.1 h.space

theorem Stands.exists_space (h : s.Stands all passed before word rest filled) (hb : before ≠ []) :
    ∃ place, s.space = some place ∧ place + 1 = (passed ++ before).length := by
  have hspace := h.space
  rw [if_neg (by simpa using hb)] at hspace
  exact Option.map_eq_some_iff.1 hspace

/-! ## Where a segment ends -/

theorem noting_of_space (hc : c.isSpace = true) :
    s.noting c = { s with space := some s.next } := if_pos hc

theorem noting_of_solid (hc : c.isSpace = false) : s.noting c = s := if_neg (by simp [hc])

theorem breakAt_of_space {place : Nat} (h : s.space = some place) (hle : s.first ≤ place) :
    s.breakAt = .ok place := by
  have hfilter : s.space.filter (fun place => s.first ≤ place) = some place := by
    rw [h, Option.filter_some, if_pos (decide_eq_true hle)]
  rw [breakAt, hfilter]

/-- Without a space the segment ends before the next cluster, or with it if that is all
there is. -/
theorem breakAt_of_unspaced (h : s.space = none) :
    s.breakAt = if s.next = s.first then .ok s.next else placeBefore s.next := by
  rw [breakAt, h]
  rfl

/-- Closing adds the line of the open segment, if one is open. -/
theorem Stands.close (paragraph : List Char) (h : s.Stands all passed before word [] filled) :
    s.close paragraph all = .ok (orEmptyLine
      (s.lines ++ if before ++ word = [] then [] else [lineOf paragraph (before ++ word)])) := by
  have hall : all = passed ++ (before ++ word ++ []) := by
    rw [h.all_eq]
    simp
  rw [Scan.close]
  by_cases hempty : before ++ word = []
  · rw [if_neg (by simp [h.first_lt_iff, hempty]), if_pos hempty, List.append_nil]
    rfl
  · have hlen : 0 < (before ++ word).length := List.length_pos_of_ne_nil hempty
    obtain ⟨last, hlast⟩ := Nat.exists_eq_add_one_of_ne_zero (n := all.length)
      (by rw [hall]; simp only [List.length_append] at hlen ⊢; omega)
    have hend : last + 1 = (passed ++ (before ++ word)).length := by
      rw [← hlast, hall, List.append_nil]
    have hline := lineBetween_append paragraph passed (before ++ word) [] hend
    rw [← hall, ← h.first] at hline
    rw [if_pos (h.first_lt_iff.2 hempty), if_neg hempty, hlast]
    show (lineBetween paragraph all s.first last >>= _) = _
    rw [hline]
    rfl

section Ending

variable [Zero α] [Add α] {paragraph : List Char} {last : Nat}

/-- What stands between the end of a segment and the next cluster is taken along. -/
theorem endSegment_carry (hall : all = passed ++ (seg ++ (word ++ rest)))
    (hfirst : s.first = passed.length) (hbreak : s.breakAt = .ok last)
    (hlast : last + 1 = (passed ++ seg).length) (hnext : s.next = (passed ++ (seg ++ word)).length)
    (hw : NoSpaces word) (ho : Opens (word ++ rest)) :
    ∃ s', s.endSegment paragraph all = .ok s' ∧ s'.lines = s.lines ++ [lineOf paragraph seg] ∧
      s'.Stands all (passed ++ seg) [] word rest (totalAdvance word) := by
  have hskip := skipSpaces_append (passed ++ seg) allSpaces_nil ho
  have hcarried := clustersBetween_append (passed ++ seg) word rest
  rw [List.append_nil, List.nil_append, List.append_assoc, ← hall] at hskip
  rw [List.append_assoc, List.append_assoc, ← hall, ← hnext] at hcarried
  have hline := lineBetween_append paragraph passed seg (word ++ rest) hlast
  rw [← hall, ← hfirst] at hline
  have hle : (passed ++ seg).length ≤ s.next := by
    rw [hnext]
    simp
  rw [endSegment, hbreak, ok_bind, hline, ok_bind, hlast, hskip, ok_bind, if_pos hle, hcarried,
    ok_bind]
  refine ⟨_, rfl, rfl, ⟨?_, rfl, ?_, rfl, hw, rfl⟩⟩
  · rw [hall, List.nil_append, List.append_assoc]
  · rw [List.nil_append, List.append_assoc]
    exact hnext

/-- A segment that ends with the next cluster is passed, and the spaces behind it too. -/
theorem endSegment_pass (hall : all = passed ++ (seg ++ rest))
    (hfirst : s.first = passed.length) (hbreak : s.breakAt = .ok last)
    (hlast : last + 1 = (passed ++ seg).length) (hnext : s.next = last) :
    ∃ s' passed', s.endSegment paragraph all = .ok s' ∧
      s'.lines = s.lines ++ [lineOf paragraph seg] ∧
      s'.Stands all passed' [] [] (dropSpaces rest) 0 := by
  obtain ⟨gap, hrest, hg, ho⟩ := exists_spaces rest
  have hskip := skipSpaces_append (passed ++ seg) hg ho
  rw [← hrest, List.append_assoc, ← hall] at hskip
  have hline := lineBetween_append paragraph passed seg rest hlast
  rw [← hall, ← hfirst] at hline
  have hbehind : ¬ (passed ++ seg ++ gap).length ≤ s.next := by
    rw [List.length_append, ← hlast]
    omega
  rw [endSegment, hbreak, ok_bind, hline, ok_bind, hlast, hskip, ok_bind, if_neg hbehind]
  refine ⟨_, passed ++ seg ++ gap, rfl, rfl, ⟨?_, rfl, ?_, rfl, noSpaces_nil, rfl⟩⟩
  · rw [hall, List.nil_append, List.nil_append, List.append_assoc, List.append_assoc, ← hrest]
  · simp

end Ending

/-! ## Every turn is a step of packing -/

section Turns

variable [Zero α] [Add α] [LE α] [DecidableLE α] (paragraph : List Char) {width : α}

theorem turn_of_fits (hc : Typeset.clusterAt all s.next = .ok c)
    (hfit : s.filled + c.advance ≤ width) :
    s.turn paragraph all width =
      .ok { s.noting c with filled := s.filled + c.advance, next := s.next + 1 } := by
  have hsame : (s.noting c).filled = s.filled ∧ (s.noting c).next = s.next := by
    rw [noting]
    split <;> exact ⟨rfl, rfl⟩
  rw [turn, hc, ok_bind]
  dsimp only
  rw [hsame.1, hsame.2, if_pos hfit]
  rfl

theorem turn_of_overflow (hc : Typeset.clusterAt all s.next = .ok c)
    (hfit : ¬ s.filled + c.advance ≤ width) :
    s.turn paragraph all width = (s.noting c).endSegment paragraph all := by
  have hsame : (s.noting c).filled = s.filled := by
    rw [noting]
    split <;> rfl
  rw [turn, hc, ok_bind]
  dsimp only
  rw [hsame, if_neg hfit]

theorem Stands.turn_space (h : s.Stands all passed before word (c :: rest) filled)
    (hfit : filled + c.advance ≤ width) (hc : c.isSpace = true) :
    ∃ s', s.turn paragraph all width = .ok s' ∧ s'.lines = s.lines ∧
      s'.Stands all passed (before ++ (word ++ [c])) [] rest (filled + c.advance) := by
  have hnext : s.next + 1 = (passed ++ (before ++ (word ++ [c]))).length := by
    rw [h.next]
    simp [Nat.add_assoc]
  rw [← h.filled_eq] at hfit ⊢
  rw [turn_of_fits paragraph h.clusterAt hfit, noting_of_space hc]
  refine ⟨_, rfl, rfl, ⟨?_, h.first, ?_, rfl, noSpaces_nil, ?_⟩⟩
  · rw [h.all_eq]
    simp
  · rw [List.append_nil]
    exact hnext
  · rw [if_neg (by simp), ← hnext]
    rfl

theorem Stands.turn_solid (h : s.Stands all passed before word (c :: rest) filled)
    (hfit : filled + c.advance ≤ width) (hc : c.isSpace = false) :
    ∃ s', s.turn paragraph all width = .ok s' ∧ s'.lines = s.lines ∧
      s'.Stands all passed before (word ++ [c]) rest (filled + c.advance) := by
  rw [← h.filled_eq] at hfit ⊢
  rw [turn_of_fits paragraph h.clusterAt hfit, noting_of_solid hc]
  refine ⟨_, rfl, rfl, ⟨?_, h.first, ?_, rfl, noSpaces_concat h.word_noSpaces hc, h.space⟩⟩
  · rw [h.all_eq]
    simp
  · dsimp only
    rw [h.next]
    simp [Nat.add_assoc]

/-- A space that does not fit ends its segment. -/
theorem Stands.turn_lastSpace (h : s.Stands all passed before word (c :: rest) filled)
    (hfit : ¬ filled + c.advance ≤ width) (hc : c.isSpace = true) :
    ∃ s' passed', s.turn paragraph all width = .ok s' ∧
      s'.lines = s.lines ++ [lineOf paragraph (before ++ (word ++ [c]))] ∧
      s'.Stands all passed' [] [] (dropSpaces rest) 0 := by
  rw [← h.filled_eq] at hfit
  rw [turn_of_overflow paragraph h.clusterAt hfit, noting_of_space hc]
  have hall : all = passed ++ ((before ++ (word ++ [c])) ++ rest) := by
    rw [h.all_eq]
    simp
  have hle : s.first ≤ s.next := by
    rw [h.first, h.next, List.length_append]
    exact Nat.le_add_right _ _
  refine endSegment_pass hall h.first (breakAt_of_space rfl hle) ?_ rfl
  rw [h.next]
  simp [Nat.add_assoc]

/-- Before any other cluster the segment ends after its last space. -/
theorem Stands.turn_afterSpace (h : s.Stands all passed before word (c :: rest) filled)
    (hfit : ¬ filled + c.advance ≤ width) (hc : c.isSpace = false) (hb : before ≠ []) :
    ∃ s', s.turn paragraph all width = .ok s' ∧
      s'.lines = s.lines ++ [lineOf paragraph before] ∧
      s'.Stands all (passed ++ before) [] word (c :: rest) (totalAdvance word) := by
  obtain ⟨place, hplace, hlast⟩ := h.exists_space hb
  have hpos := List.length_pos_of_ne_nil hb
  rw [← h.filled_eq] at hfit
  rw [turn_of_overflow paragraph h.clusterAt hfit, noting_of_solid hc]
  refine endSegment_carry h.all_eq h.first (breakAt_of_space hplace ?_) hlast h.next
    h.word_noSpaces (opens_append h.word_noSpaces (opens_cons hc))
  rw [List.length_append] at hlast
  rw [h.first]
  omega

/-- Without a space the segment ends right before the cluster. -/
theorem Stands.turn_before (h : s.Stands all passed [] word (c :: rest) filled)
    (hfit : ¬ filled + c.advance ≤ width) (hc : c.isSpace = false) (hw : word ≠ []) :
    ∃ s', s.turn paragraph all width = .ok s' ∧
      s'.lines = s.lines ++ [lineOf paragraph word] ∧
      s'.Stands all (passed ++ word) [] [] (c :: rest) 0 := by
  have hnext : s.next = (passed ++ word).length := h.next
  have hpos := List.length_pos_of_ne_nil hw
  rw [List.length_append] at hnext
  have hne : s.next ≠ s.first := by
    rw [hnext, h.first]
    omega
  obtain ⟨last, hlast⟩ := Nat.exists_eq_add_one_of_ne_zero (n := s.next) (by omega)
  have hbreak : s.breakAt = .ok last := by
    rw [breakAt_of_unspaced h.space_eq_none, if_neg hne, hlast]
    rfl
  rw [← h.filled_eq] at hfit
  rw [turn_of_overflow paragraph h.clusterAt hfit, noting_of_solid hc]
  refine endSegment_carry h.all_eq h.first hbreak ?_ ?_ noSpaces_nil (opens_cons hc)
  · rw [← hlast]
    exact h.next
  · rw [List.append_nil]
    exact h.next

/-- A cluster too wide for an empty segment is a segment of its own. -/
theorem Stands.turn_lone (h : s.Stands all passed [] [] (c :: rest) filled)
    (hfit : ¬ filled + c.advance ≤ width) (hc : c.isSpace = false) :
    ∃ s' passed', s.turn paragraph all width = .ok s' ∧
      s'.lines = s.lines ++ [lineOf paragraph [c]] ∧
      s'.Stands all passed' [] [] (dropSpaces rest) 0 := by
  have hnext : s.next = passed.length := by
    rw [h.next]
    simp
  have hbreak : s.breakAt = .ok s.next := by
    rw [breakAt_of_unspaced h.space_eq_none, if_pos (by rw [hnext, h.first])]
  rw [← h.filled_eq] at hfit
  rw [turn_of_overflow paragraph h.clusterAt hfit, noting_of_solid hc]
  refine endSegment_pass h.all_eq h.first hbreak ?_ rfl
  rw [hnext]
  simp

end Turns

/-! ## Whole runs -/

section Runs

variable [Zero α] [Add α] [LE α] [DecidableLE α] {paragraph : List Char} {width : α}

theorem Stands.run_turn (h : s.Stands all passed before word (c :: rest) filled) {s' : Scan α}
    {turns : Nat} (hpos : 0 < turns) (hturn : s.turn paragraph all width = .ok s') :
    run paragraph all width turns s = run paragraph all width (turns - 1) s' := by
  obtain ⟨turns, rfl⟩ := Nat.exists_eq_add_one_of_ne_zero (Nat.ne_of_gt hpos)
  rw [run, if_pos (h.next_lt_iff.2 (List.cons_ne_nil c rest)), hturn, ok_bind]
  rfl

theorem Stands.run_close (h : s.Stands all passed before word [] filled) {turns : Nat}
    (hpos : 0 < turns) : run paragraph all width turns s = s.close paragraph all := by
  obtain ⟨turns, rfl⟩ := Nat.exists_eq_add_one_of_ne_zero (Nat.ne_of_gt hpos)
  rw [run, if_neg (by simp [h.next_lt_iff])]

/-- Enough turns come to the lines of what packing makes of the open segment and the
rest.  A turn takes a cluster off the rest, or takes one at least off the open segment
and the rest together, so the turns needed are counted by both. -/
theorem run_eq (h : s.Stands all passed before word rest filled) {turns : Nat}
    (hturns : 2 * rest.length + before.length + word.length < turns) :
    run paragraph all width turns s = .ok (orEmptyLine
      (s.lines ++ (pack width before word filled rest).map (lineOf paragraph))) := by
  have hpos : 0 < turns := Nat.zero_lt_of_lt hturns
  fun_induction pack width before word filled rest generalizing passed s turns with
  | case1 before word filled hempty =>
      rw [Bool.and_eq_true, List.isEmpty_iff, List.isEmpty_iff] at hempty
      rw [h.run_close hpos, h.close, if_pos (by simp [hempty])]
      rfl
  | case2 before word filled hempty =>
      rw [Bool.and_eq_true, List.isEmpty_iff, List.isEmpty_iff] at hempty
      rw [h.run_close hpos, h.close, if_neg (by simpa using hempty)]
      rfl
  | case3 before word filled c cs hfit hspace ih =>
      obtain ⟨s', hturn, hlines, hs'⟩ := h.turn_space paragraph hfit hspace
      have hleft : 2 * cs.length + (before ++ (word ++ [c])).length + 0 < turns - 1 := by
        simp only [List.length_append, List.length_cons, List.length_nil] at hturns ⊢
        omega
      rw [h.run_turn hpos hturn, ih hs' hleft (Nat.zero_lt_of_lt hleft), hlines]
  | case4 before word filled c cs hfit hspace ih =>
      obtain ⟨s', hturn, hlines, hs'⟩ :=
        h.turn_solid paragraph hfit (eq_false_of_ne_true hspace)
      have hleft : 2 * cs.length + before.length + (word ++ [c]).length < turns - 1 := by
        simp only [List.length_append, List.length_cons, List.length_nil] at hturns ⊢
        omega
      rw [h.run_turn hpos hturn, ih hs' hleft (Nat.zero_lt_of_lt hleft), hlines]
  | case5 before word filled c cs hfit hspace ih =>
      obtain ⟨s', passed', hturn, hlines, hs'⟩ :=
        h.turn_lastSpace paragraph hfit hspace
      have hdrop := length_dropSpaces_le cs
      have hleft : 2 * (dropSpaces cs).length + 0 + 0 < turns - 1 := by
        simp only [List.length_cons] at hturns
        omega
      rw [h.run_turn hpos hturn, ih hs' hleft (Nat.zero_lt_of_lt hleft), hlines]
      simp
  | case6 before word filled c cs hfit hspace hb ih =>
      have hbefore := length_pos_of_not_isEmpty hb
      obtain ⟨s', hturn, hlines, hs'⟩ := h.turn_afterSpace paragraph hfit
        (eq_false_of_ne_true hspace) (List.ne_nil_of_length_pos hbefore)
      have hleft : 2 * (c :: cs).length + 0 + word.length < turns - 1 := by omega
      rw [h.run_turn hpos hturn, ih hs' hleft (Nat.zero_lt_of_lt hleft), hlines]
      simp
  | case7 before word filled c cs hfit hspace hb hword ih =>
      have hlen := length_pos_of_not_isEmpty hword
      obtain rfl : before = [] := by simpa using hb
      obtain ⟨s', hturn, hlines, hs'⟩ := h.turn_before paragraph hfit
        (eq_false_of_ne_true hspace) (List.ne_nil_of_length_pos hlen)
      have hleft : 2 * (c :: cs).length + 0 + 0 < turns - 1 := by omega
      rw [h.run_turn hpos hturn, ih hs' hleft (Nat.zero_lt_of_lt hleft), hlines]
      simp
  | case8 before word filled c cs hfit hspace hb hword ih =>
      obtain rfl : before = [] := by simpa using hb
      obtain rfl : word = [] := by simpa using hword
      obtain ⟨s', passed', hturn, hlines, hs'⟩ :=
        h.turn_lone paragraph hfit (eq_false_of_ne_true hspace)
      have hdrop := length_dropSpaces_le cs
      have hleft : 2 * (dropSpaces cs).length + 0 + 0 < turns - 1 := by
        simp only [List.length_cons] at hturns
        omega
      rw [h.run_turn hpos hturn, ih hs' hleft (Nat.zero_lt_of_lt hleft), hlines]
      simp

/-- A scan of a whole paragraph. -/
theorem run_start (paragraph : List Char) (cs : List (Cluster α)) (width : α) :
    run paragraph cs width (2 * cs.length + 1) start = .ok (wrapParagraph paragraph cs width) := by
  have hturns : 2 * cs.length + 0 + 0 < 2 * cs.length + 1 := Nat.lt_succ_self _
  rw [run_eq (stands_start cs) hturns, ← segments]
  by_cases hne : cs = []
  · subst hne
    rw [wrapParagraph_nil, segments_nil]
    rfl
  · rw [wrapParagraph_of_ne_nil paragraph hne]
    refine congrArg Except.ok (if_neg ?_)
    simpa [start] using segments_ne_nil hne width

end Runs

end Scan

/-! ## Lines -/

section Lines

variable [Zero α] [Add α] [LE α] [DecidableLE α]

theorem length_le_length_wrapPieces (shaper : Shaper α) (width : α) (ps : List (List Char)) :
    ps.length ≤ (wrapPieces shaper width ps).length := by
  induction ps with
  | nil => exact Nat.le_refl 0
  | cons p ps ih =>
      have hp := length_wrapParagraph_pos p (shaper (String.ofList p)) width
      by_cases hne : ps = []
      · rw [hne]
        exact hp
      · rw [wrapPieces_cons shaper width p hne]
        simp only [List.length_append, List.length_cons]
        omega

/-- Whatever the clusters and widths are, a scan of a paragraph ends after two turns for
each cluster and one more, without a fault, with the lines of the paragraph.  There is at
least one, there are no more than clusters, and each is a part of the paragraph.  So a
text has a line at least for each of its paragraphs. -/
theorem scan_wrapParagraph (paragraph : List Char) (cs : List (Cluster α)) (width : α) :
    Scan.run paragraph cs width (2 * cs.length + 1) Scan.start =
      .ok (wrapParagraph paragraph cs width) ∧
    1 ≤ (wrapParagraph paragraph cs width).length ∧
    (wrapParagraph paragraph cs width).length ≤ max 1 cs.length ∧
    (∀ line ∈ wrapParagraph paragraph cs width, line <:+: paragraph) ∧
    ∀ (shaper : Shaper α) (text : String),
      (Text.pieces text.toList).length ≤ (shaper.wrap text width).length := by
  refine ⟨Scan.run_start paragraph cs width, length_wrapParagraph_pos paragraph cs width,
    length_wrapParagraph_le_max paragraph cs width, fun line => isInfix_of_mem_wrapParagraph, ?_⟩
  intro shaper text
  rw [Shaper.wrap, List.length_map]
  exact length_le_length_wrapPieces shaper width _

end Lines

end Colloquy.Typeset
