import Colloquy.Proofs.Script.Places

/-!
# The first faulty line

A script with a faulty line is refused, at the first such line and for what is wrong
there (`read_at_first_fault`).  What stands behind the line does not matter, and the
lines before it are not refused when they stand alone.  Only an announcement on the
last line is different: it is at fault because nothing follows.

`HasFault` says what a fault is, without the reader.  The reader comes to the end of some
lines when none of them is at fault, and has refused the first one that is otherwise
(`Reading.steps_cases`).
-/

namespace Colloquy.Script

open Colloquy.Text

/-! ## Faults of a script -/

/-- What is wrong with trimmed lines.  Lines in a text block are never at fault. -/
inductive HasFault (ts : List (List Char)) : Fault → Prop where
  /-- The last line announces a text block. -/
  | endAfterText {i : Nat} : ts[i]? = some textKey → placeAfter (ts.take i) = .top →
      i + 1 = ts.length → HasFault ts (.endAfterText (i + 1))
  /-- A line announces a text block, and the line behind it does not open one. -/
  | missingOpen {i : Nat} {t : List Char} : ts[i]? = some textKey →
      placeAfter (ts.take i) = .top → ts[i + 1]? = some t → t ≠ openMark →
      HasFault ts (.missingOpen (i + 2))
  /-- A choice cannot be divided, or lacks a part. -/
  | choice {i : Nat} {t : List Char} {fault : Fault} : ts[i]? = some t →
      placeAfter (ts.take i) = .top → ChoiceFault (i + 1) t fault → HasFault ts fault

/-- The line with a number of lines before it is at fault where it stands. -/
def FaultAt (ts : List (List Char)) (i : Nat) (fault : Fault) : Prop :=
  ∃ t, ts[i]? = some t ∧ LineFault (placeAfter (ts.take i)) (i + 1) t fault

/-- The last line, with a number of lines before it, announces a text block. -/
structure EndsAnnounced (ts : List (List Char)) (i : Nat) : Prop where
  /-- The line announces a text block. -/
  announces : ts[i]? = some textKey
  /-- The line is in no text block itself. -/
  top : placeAfter (ts.take i) = .top
  /-- No line follows. -/
  last : i + 1 = ts.length

theorem placeAfter_take_succ {ts : List (List Char)} {i : Nat} {t : List Char}
    (h : ts[i]? = some t) :
    placeAfter (ts.take (i + 1)) = (placeAfter (ts.take i)).next t := by
  rw [List.take_add_one, h, Option.toList_some, placeAfter_concat]

theorem FaultAt.line? {ts : List (List Char)} {i : Nat} {fault : Fault} (h : FaultAt ts i fault) :
    fault.line? = some (i + 1) := by
  obtain ⟨t, -, hf⟩ := h
  exact hf.line?

theorem FaultAt.lt_length {ts : List (List Char)} {i : Nat} {fault : Fault}
    (h : FaultAt ts i fault) : i < ts.length := by
  obtain ⟨t, ht, -⟩ := h
  exact (List.getElem?_eq_some_iff.1 ht).1

/-- What is wrong with lines is wrong with one of them, or is the end of the script. -/
theorem hasFault_iff {ts : List (List Char)} {fault : Fault} :
    HasFault ts fault ↔ (∃ i, FaultAt ts i fault) ∨
      ∃ i, EndsAnnounced ts i ∧ fault = .endAfterText (i + 1) := by
  constructor
  · intro h
    cases h with
    | endAfterText ht hp hl => exact .inr ⟨_, ⟨ht, hp, hl⟩, rfl⟩
    | @missingOpen i t ht hp hn hne =>
        refine .inl ⟨i + 1, t, hn, ?_⟩
        rw [placeAfter_take_succ ht, hp]
        exact ⟨hne, rfl⟩
    | choice ht hp hc =>
        refine .inl ⟨_, _, ht, ?_⟩
        rw [hp]
        exact hc
  · rintro (⟨i, t, ht, hf⟩ | ⟨i, ⟨ht, hp, hl⟩, rfl⟩)
    · cases hp : placeAfter (ts.take i) with
      | top =>
          rw [hp] at hf
          exact .choice ht hp hf
      | announced =>
          rw [hp] at hf
          obtain ⟨hne, rfl⟩ := hf
          -- the line before this one is the announcement
          cases i with
          | zero => cases hp
          | succ i =>
              obtain ⟨hi, -⟩ := List.getElem?_eq_some_iff.1 ht
              have hbefore := List.getElem?_eq_getElem (Nat.lt_of_succ_lt hi)
              rw [placeAfter_take_succ hbefore, next_eq_announced_iff] at hp
              rw [hp.2] at hbefore
              exact .missingOpen hbefore hp.1 ht hne
      | inside =>
          rw [hp] at hf
          exact hf.elim
    · exact .endAfterText ht hp hl

/-- Whether a line is at fault does not depend on the lines behind it. -/
theorem FaultAt.of_take_eq {ts us : List (List Char)} {i k : Nat} {fault : Fault}
    (h : FaultAt ts i fault) (he : ts.take k = us.take k) (hi : i < k) : FaultAt us i fault := by
  obtain ⟨t, ht, hf⟩ := h
  refine ⟨t, ?_, ?_⟩
  · rw [← List.getElem?_take_of_lt hi, ← he, List.getElem?_take_of_lt hi, ht]
  · have htake : us.take i = ts.take i := by
      rw [← min_eq_left hi.le, ← List.take_take, ← he, List.take_take]
    rwa [htake]

/-- The fault of the first line that is at fault. -/
def FirstFault (ts : List (List Char)) (fault : Fault) : Prop :=
  ∃ i, FaultAt ts i fault ∧ ∀ j < i, ∀ fault', ¬ FaultAt ts j fault'

theorem FirstFault.unique {ts : List (List Char)} {fault fault' : Fault} (h : FirstFault ts fault)
    (h' : FirstFault ts fault') : fault = fault' := by
  obtain ⟨i, hi, hfirst⟩ := h
  obtain ⟨i', hi', hfirst'⟩ := h'
  rcases Nat.lt_trichotomy i i' with hlt | rfl | hlt
  · exact absurd hi (hfirst' i hlt fault)
  · obtain ⟨t, ht, hf⟩ := hi
    obtain ⟨t', ht', hf'⟩ := hi'
    cases ht.symm.trans ht'
    exact hf.unique hf'
  · exact absurd hi' (hfirst i' hlt fault')

theorem faultAt_concat_iff {ts : List (List Char)} {t : List Char} {i : Nat} {fault : Fault} :
    FaultAt (ts ++ [t]) i fault ↔
      FaultAt ts i fault ∨ i = ts.length ∧ LineFault (placeAfter ts) (i + 1) t fault := by
  have htake : (ts ++ [t]).take ts.length = ts.take ts.length := by simp
  constructor
  · intro h
    rcases Nat.lt_or_ge i ts.length with hi | hi
    · exact .inl (h.of_take_eq htake hi)
    · have hlast : i = ts.length := by
        have hlt := h.lt_length
        rw [List.length_append, List.length_singleton] at hlt
        omega
      obtain ⟨t', ht', hf⟩ := h
      subst hlast
      rw [List.getElem?_concat_length] at ht'
      cases ht'
      rw [List.take_left' rfl] at hf
      exact .inr ⟨rfl, hf⟩
  · rintro (h | ⟨rfl, hf⟩)
    · exact h.of_take_eq htake.symm h.lt_length
    · refine ⟨t, List.getElem?_concat_length .., ?_⟩
      rwa [List.take_left' rfl]

theorem endsAnnounced_concat_iff {ts : List (List Char)} {t : List Char} {i : Nat} :
    EndsAnnounced (ts ++ [t]) i ↔ i = ts.length ∧ placeAfter ts = .top ∧ t = textKey := by
  constructor
  · rintro ⟨ht, hp, hl⟩
    rw [List.length_append, List.length_singleton, Nat.add_right_cancel_iff] at hl
    subst hl
    rw [List.getElem?_concat_length] at ht
    rw [List.take_left' rfl] at hp
    exact ⟨rfl, hp, Option.some.inj ht⟩
  · rintro ⟨rfl, hp, rfl⟩
    refine ⟨List.getElem?_concat_length .., ?_, ?_⟩
    · rwa [List.take_left' rfl]
    · rw [List.length_append, List.length_singleton]

/-! ## The reader line by line -/

theorem value_andThen_eq_bind {ε α β : Type} (x : Logged (Except ε α))
    (f : α → Logged (Except ε β)) :
    (x.andThen f).value = x.value.bind fun a => (f a).value := by
  rw [Logged.andThen]
  cases x.value with
  | error e => rfl
  | ok a => rfl

namespace Reading

/-- One more line. -/
theorem value_steps_concat (ls : List (List Char)) (l : List Char) :
    (steps {} 1 (ls ++ [l])).value =
      (steps {} 1 ls).value.bind fun r => (r.step (ls.length + 1) l).value := by
  rw [steps_append, value_andThen_eq_bind, Nat.add_comm 1]
  congr 1
  funext r
  rw [steps, value_andThen_eq_bind]
  cases (r.step (ls.length + 1) l).value with
  | error fault => rfl
  | ok r' => rfl

/-- The reader comes to the end of lines when none of them is at fault.  Otherwise it
refuses the first one that is. -/
theorem steps_cases (ls : List (List Char)) :
    (∃ r, (steps {} 1 ls).value = .ok r ∧ r.position.place = placeAfter (ls.map trim) ∧
      ∀ i fault, ¬ FaultAt (ls.map trim) i fault) ∨
    ∃ fault, (steps {} 1 ls).value = .error fault ∧ FirstFault (ls.map trim) fault := by
  induction ls using List.reverseRecOn with
  | nil =>
      refine .inl ⟨{}, rfl, rfl, fun i fault h => ?_⟩
      exact Nat.not_lt_zero i h.lt_length
  | append_singleton ls l ih =>
      rw [value_steps_concat, List.map_append, List.map_singleton]
      rcases ih with ⟨r, hr, hp, hnone⟩ | ⟨fault, hr, i, hi, hfirst⟩
      · rw [hr]
        cases hs : (r.step (ls.length + 1) l).value with
        | ok r' =>
            refine .inl ⟨r', hs, ?_, fun i fault h => ?_⟩
            · rw [place_of_step hs, hp, placeAfter_concat]
            · rcases faultAt_concat_iff.1 h with h | ⟨rfl, hf⟩
              · exact hnone i fault h
              · rw [← hp, List.length_map, ← value_step_eq_error_iff, hs] at hf
                cases hf
        | error fault =>
            have hlast : FaultAt (ls.map trim ++ [trim l]) ls.length fault := by
              refine faultAt_concat_iff.2 (.inr ?_)
              rw [List.length_map, ← hp]
              exact ⟨rfl, value_step_eq_error_iff.1 hs⟩
            refine .inr ⟨fault, hs, ls.length, hlast, fun j hj fault' h => ?_⟩
            · rcases faultAt_concat_iff.1 h with h | ⟨he, -⟩
              · exact hnone j fault' h
              · rw [List.length_map] at he
                exact absurd he hj.ne
      · rw [hr]
        refine .inr ⟨fault, rfl, i, faultAt_concat_iff.2 (.inl hi), fun j hj fault' h => ?_⟩
        rcases faultAt_concat_iff.1 h with h | ⟨he, -⟩
        · exact hfirst j hj fault' h
        · exact absurd he (hj.trans hi.lt_length).ne

theorem place_of_steps {ls : List (List Char)} {r : Reading}
    (h : (steps {} 1 ls).value = .ok r) : r.position.place = placeAfter (ls.map trim) := by
  rcases steps_cases ls with ⟨r', hr, hp, -⟩ | ⟨fault, hr, -⟩
  · rw [hr] at h
    cases h
    exact hp
  · rw [hr] at h
    cases h

/-- The reader waits for a block to be opened just when the last line announces one. -/
theorem position_of_steps_iff {ls : List (List Char)} {r : Reading} {n : Nat}
    (h : (steps {} 1 ls).value = .ok r) :
    r.position = .announced n ↔ ∃ i, EndsAnnounced (ls.map trim) i ∧ n = i + 1 := by
  rcases List.eq_nil_or_concat' ls with rfl | ⟨front, l, rfl⟩
  · cases h
    constructor
    · exact fun hr => by cases hr
    · rintro ⟨i, hi, -⟩
      cases hi.last
  · rw [value_steps_concat] at h
    rw [List.map_append, List.map_singleton]
    cases hr : (steps {} 1 front).value with
    | error fault =>
        rw [hr] at h
        cases h
    | ok r₀ =>
        rw [hr] at h
        have hp := place_of_steps hr
        have hopens : r₀.position.place = .top → trim l = textKey →
            r.position = .announced (front.length + 1) := fun ht hl =>
          position_of_announces (Position.eq_top_of_place ht) hl h
        constructor
        · intro hn
          have hplace := place_of_step h
          rw [hn] at hplace
          obtain ⟨ht, hl⟩ := next_eq_announced_iff.1 hplace.symm
          have hnumber := (hopens ht hl).symm.trans hn
          refine ⟨front.length, endsAnnounced_concat_iff.2 ⟨?_, hp ▸ ht, hl⟩, ?_⟩
          · rw [List.length_map]
          · injection hnumber with hnumber
            exact hnumber.symm
        · rintro ⟨i, hi, rfl⟩
          obtain ⟨rfl, ht, hl⟩ := endsAnnounced_concat_iff.1 hi
          rw [List.length_map]
          exact hopens (hp.trans ht) hl

/-- At the end only a block that is announced and not opened is at fault. -/
theorem value_finish_eq_error_iff {r : Reading} {fault : Fault} (hf : fault ≠ .noStates) :
    r.finish.value = .error fault ↔ ∃ n, r.position = .announced n ∧ fault = .endAfterText n := by
  have hstarted : ∀ g : Graph, g.started ≠ .error fault := fun g h => hf (started_eq_error h)
  rw [finish, value_andThen_eq_bind, closeBlock]
  cases r.position with
  | top => simp [Except.bind, hstarted]
  | announced textLine => simp [Except.bind, eq_comm]
  | inside textLine openLine body => simp [Except.bind, hstarted]

end Reading

/-! ## The end of a script -/

/-- A script is refused at a line when one of its lines is at fault, and for the first
that is, or else when its last line announces a text block. -/
theorem read_eq_error_iff {source : String} {fault : Fault} (hf : fault ≠ .noStates) :
    (read source).value = .error fault ↔
      FirstFault (trimmedLines source) fault ∨
        (∀ i fault', ¬ FaultAt (trimmedLines source) i fault') ∧
          ∃ i, EndsAnnounced (trimmedLines source) i ∧ fault = .endAfterText (i + 1) := by
  rw [read, readLines, value_andThen_eq_bind, trimmedLines]
  rcases Reading.steps_cases (lines source.toList) with ⟨r, hr, -, hnone⟩ | ⟨fault', hr, hfirst⟩
  · rw [hr]
    show (Reading.finish r).value = .error fault ↔ _
    rw [Reading.value_finish_eq_error_iff hf]
    simp only [Reading.position_of_steps_iff hr]
    constructor
    · rintro ⟨_, ⟨i, hi, rfl⟩, rfl⟩
      exact .inr ⟨hnone, i, hi, rfl⟩
    · rintro (⟨i, hi, -⟩ | ⟨-, i, hi, rfl⟩)
      · exact absurd hi (hnone i fault)
      · exact ⟨_, ⟨i, hi, rfl⟩, rfl⟩
  · rw [hr]
    constructor
    · rintro ⟨⟩
      exact .inl hfirst
    · rintro (h | ⟨hnone, -⟩)
      · rw [hfirst.unique h]
        rfl
      · obtain ⟨i, hi, -⟩ := hfirst
        exact absurd hi (hnone i fault')

theorem Fault.ne_noStates {fault : Fault} {n : Nat} (h : fault.line? = some n) :
    fault ≠ .noStates := by
  rintro rfl
  cases h

/-- A script is refused for a fault it has, unless it names no state to start at. -/
theorem hasFault_of_read {source : String} {fault : Fault}
    (h : (read source).value = .error fault) :
    fault = .noStates ∨ HasFault (trimmedLines source) fault := by
  by_cases hf : fault = .noStates
  · exact .inl hf
  · rcases (read_eq_error_iff hf).1 h with ⟨i, hi, -⟩ | ⟨-, i, hi, rfl⟩
    · exact .inr (hasFault_iff.2 (.inl ⟨i, hi⟩))
    · exact .inr (hasFault_iff.2 (.inr ⟨i, hi, rfl⟩))

/-! ## What is reported -/

/-- A fault at a line is what a script is to be refused for. -/
structure ReportedAt (source : String) (fault : Fault) (n : Nat) : Prop where
  /-- The number is that of a line. -/
  inRange : 1 ≤ n ∧ n ≤ (trimmedLines source).length
  /-- The fault is there. -/
  found : HasFault (trimmedLines source) fault
  /-- No fault is at an earlier line. -/
  first : ∀ fault' m, HasFault (trimmedLines source) fault' → fault'.line? = some m → n ≤ m
  /-- The lines before it have no fault of their own, but may announce a block at their end. -/
  before : ∀ fault', HasFault ((trimmedLines source).take (n - 1)) fault' →
    fault' = .endAfterText (n - 1)
  /-- A script of the lines before it is refused for nothing else. -/
  alone : ∀ front : String, trimmedLines front = (trimmedLines source).take (n - 1) →
    ∀ fault', (read front).value = .error fault' →
      fault' = .noStates ∨ fault' = .endAfterText (n - 1)
  /-- A script that starts with the lines up to it is refused for it, unless the fault is
  that nothing follows. -/
  stable : fault ≠ .endAfterText n → ∀ front rest : String, Whole front.toList →
    trimmedLines front = (trimmedLines source).take n → (read (front ++ rest)).value = .error fault

theorem trimmedLines_append {front : String} (h : Whole front.toList) (rest : String) :
    trimmedLines (front ++ rest) = trimmedLines front ++ trimmedLines rest := by
  rw [trimmedLines, String.toList_append, lines_append h, List.map_append]
  rfl

/-- Before a line that no fault is before, there is at most an announcement at the end. -/
theorem eq_endAfterText_of_hasFault_take {ts : List (List Char)} {i : Nat} {fault : Fault}
    (hfirst : ∀ j < i, ∀ fault', ¬ FaultAt ts j fault') (hi : i ≤ ts.length)
    (h : HasFault (ts.take i) fault) : fault = .endAfterText i := by
  have hlength : (ts.take i).length = i := List.length_take_of_le hi
  have htake : (ts.take i).take i = ts.take i := by rw [List.take_take, min_self]
  rcases hasFault_iff.1 h with ⟨j, hj⟩ | ⟨j, hj, rfl⟩
  · have hlt := hlength ▸ hj.lt_length
    exact absurd (hj.of_take_eq htake hlt) (hfirst j hlt fault)
  · rw [hj.last, hlength]

/-- A script with a fault is refused, at a line. -/
theorem exists_fault_of_hasFault {source : String} {fault : Fault}
    (h : HasFault (trimmedLines source) fault) :
    ∃ fault' n, (read source).value = .error fault' ∧ fault'.line? = some n := by
  rcases Reading.steps_cases (lines source.toList) with ⟨-, -, -, hnone⟩ | ⟨fault', -, hfirst⟩
  · rcases hasFault_iff.1 h with ⟨i, hi⟩ | ⟨i, hi, rfl⟩
    · exact absurd hi (hnone i fault)
    · have hread := (read_eq_error_iff (Fault.ne_noStates rfl)).2 (.inr ⟨hnone, i, hi, rfl⟩)
      exact ⟨_, i + 1, hread, rfl⟩
  · obtain ⟨i, hi, hbefore⟩ := hfirst
    have hread := (read_eq_error_iff (Fault.ne_noStates hi.line?)).2 (.inl ⟨i, hi, hbefore⟩)
    exact ⟨fault', i + 1, hread, hi.line?⟩

/-- The fault of a line that no fault is before is reported. -/
theorem FaultAt.reportedAt {source : String} {i : Nat} {fault : Fault}
    (h : FaultAt (trimmedLines source) i fault)
    (hfirst : ∀ j < i, ∀ fault', ¬ FaultAt (trimmedLines source) j fault') :
    ReportedAt source fault (i + 1) where
  inRange := ⟨Nat.succ_pos i, h.lt_length⟩
  found := hasFault_iff.2 (.inl ⟨i, h⟩)
  first fault' m hf hm := by
    rcases hasFault_iff.1 hf with ⟨j, hj⟩ | ⟨j, hj, rfl⟩
    · cases hm.symm.trans hj.line?
      exact Nat.succ_le_succ (Nat.le_of_not_lt fun hlt => hfirst j hlt fault' hj)
    · cases hm
      exact hj.last ▸ h.lt_length
  before fault' hf := eq_endAfterText_of_hasFault_take hfirst h.lt_length.le hf
  alone front hfront fault' hread := (hasFault_of_read hread).imp_right fun hf =>
    eq_endAfterText_of_hasFault_take hfirst h.lt_length.le (hfront ▸ hf)
  stable _ front rest hwhole hfront := by
    have hlength : (trimmedLines front).length = i + 1 := by
      rw [hfront, List.length_take_of_le h.lt_length]
    have htake : (trimmedLines source).take (i + 1) =
        (trimmedLines (front ++ rest)).take (i + 1) := by
      rw [trimmedLines_append hwhole, List.take_left' hlength, hfront]
    have hi := i.lt_succ_self
    refine (read_eq_error_iff (Fault.ne_noStates h.line?)).2 (.inl ⟨i, h.of_take_eq htake hi, ?_⟩)
    exact fun j hj fault' hj' => hfirst j hj fault' (hj'.of_take_eq htake.symm (hj.trans hi))

/-- The end behind an announcement is reported when no line is at fault. -/
theorem EndsAnnounced.reportedAt {source : String} {i : Nat}
    (h : EndsAnnounced (trimmedLines source) i)
    (hnone : ∀ j fault', ¬ FaultAt (trimmedLines source) j fault') :
    ReportedAt source (.endAfterText (i + 1)) (i + 1) where
  inRange := ⟨Nat.succ_pos i, h.last.le⟩
  found := hasFault_iff.2 (.inr ⟨i, h, rfl⟩)
  first fault' m hf hm := by
    rcases hasFault_iff.1 hf with ⟨j, hj⟩ | ⟨j, hj, rfl⟩
    · exact absurd hj (hnone j fault')
    · cases hm
      exact (h.last.trans hj.last.symm).le
  before fault' hf :=
    eq_endAfterText_of_hasFault_take (fun j _ => hnone j) (Nat.le_of_lt h.last.le) hf
  alone front hfront fault' hread := (hasFault_of_read hread).imp_right fun hf =>
    eq_endAfterText_of_hasFault_take (fun j _ => hnone j) (Nat.le_of_lt h.last.le) (hfront ▸ hf)
  stable hne := absurd rfl hne

/-- A script is refused at its first faulty line, and a script with a faulty line is
refused. -/
theorem read_at_first_fault (source : String) :
    (∀ fault n, (read source).value = .error fault → fault.line? = some n →
      ReportedAt source fault n) ∧
    ∀ fault, HasFault (trimmedLines source) fault →
      ∃ fault' n, (read source).value = .error fault' ∧ fault'.line? = some n := by
  refine ⟨fun fault n hread hn => ?_, fun fault hf => exists_fault_of_hasFault hf⟩
  have hcases := (read_eq_error_iff (Fault.ne_noStates hn)).1 hread
  rcases hcases with ⟨i, hi, hfirst⟩ | ⟨hnone, i, hi, rfl⟩
  · cases hn.symm.trans hi.line?
    exact hi.reportedAt hfirst
  · cases hn
    exact hi.reportedAt hnone

/-- The lines of a script up to a choice without an arrow.  A comment and a body look like
faults. -/
def untilFault : String :=
  "# option: no\nstate: a\ntext:\n<<<\noption: none\ntext:\n>>>\noption: Go b\n"

/-- What follows does not matter, a worse choice and an announcement at the end included. -/
theorem read_at_first_fault_untilFault :
    ReportedAt (untilFault ++ "option: ->\ntext:") (.missingArrow 8) 8 ∧
      (trimmedLines untilFault)[4]? = some ("option: none".toList) ∧
      ∀ rest, (read (untilFault ++ rest)).value = .error (.missingArrow 8) := by
  have hread : (read (untilFault ++ "option: ->\ntext:")).value = .error (.missingArrow 8) := by
    decide +kernel
  have hreported := (read_at_first_fault (untilFault ++ "option: ->\ntext:")).1 _ 8 hread rfl
  refine ⟨hreported, by decide +kernel, fun rest => ?_⟩
  exact hreported.stable nofun untilFault rest (by decide +kernel) (by decide +kernel)

end Colloquy.Script
