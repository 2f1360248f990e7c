import Colloquy.Proofs.Dialogue.Actions
import Mathlib.Data.List.Induction

/-!
# A cursor follows the steps of its dialogue

`Step` says how a dialogue goes on, without a selection.  The cursor refines it
in both directions.  An action leaves the standing of the cursor alone or takes
one step (`standing_act`), and every step can be taken by selecting the choice
it goes through and confirming (`standing_select_confirm`).

`StepAt` is a step with the index of its choice.  A step from a standing to
itself is possible, at a choice whose target is its own node, so that the
standings before and after do not tell whether a step was taken.  The index
does.
-/

namespace Colloquy.Dialogue

open Colloquy.Script

/-- One step of a dialogue through the choice with an index.  A node without
choices is left with any index. -/
inductive StepAt (d : Dialogue) (i : Nat) : Standing → Standing → Prop where
  /-- The end at a node without choices. -/
  | stop {s : String} {k : Bool} {node : Node} :
      d.graph.get? s = some node → node.choices = [] → StepAt d i ⟨s, k, false⟩ ⟨s, k, true⟩
  /-- The end through the choice. -/
  | leave {s : String} {k : Bool} {node : Node} {choice : Choice} :
      d.graph.get? s = some node → node.choices[i]? = some choice → IsOpen d.rules k choice →
      choice.next = d.rules.endWord → StepAt d i ⟨s, k, false⟩ ⟨s, k, true⟩
  /-- The choice leads on. -/
  | go {s : String} {k : Bool} {node : Node} {choice : Choice} :
      d.graph.get? s = some node → node.choices[i]? = some choice → IsOpen d.rules k choice →
      choice.next ≠ d.rules.endWord →
      StepAt d i ⟨s, k, false⟩ ⟨choice.next, k || choice.next == d.rules.keyState, false⟩

/-- Steps are the steps at an index. -/
theorem step_iff_exists_stepAt {d : Dialogue} {s t : Standing} :
    Step d s t ↔ ∃ i, StepAt d i s t := by
  constructor
  · intro h
    cases h with
    | stop hn he => exact ⟨0, .stop hn he⟩
    | leave hn hc ho hw =>
        obtain ⟨i, hi⟩ := List.mem_iff_getElem?.1 hc
        exact ⟨i, .leave hn hi ho hw⟩
    | go hn hc ho hw =>
        obtain ⟨i, hi⟩ := List.mem_iff_getElem?.1 hc
        exact ⟨i, .go hn hi ho hw⟩
  · rintro ⟨i, h⟩
    cases h with
    | stop hn he => exact .stop hn he
    | leave hn hi ho hw => exact .leave hn (List.mem_of_getElem? hi) ho hw
    | go hn hi ho hw => exact .go hn (List.mem_of_getElem? hi) ho hw

/-! ## What an action does to the standing -/

theorem standing_move (d : Dialogue) (c : Cursor) (delta : Int32) :
    (d.move c delta).standing = c.standing := by
  obtain ⟨i, h⟩ := d.move_eq c delta
  rw [h]
  rfl

theorem standing_select (d : Dialogue) (c : Cursor) (index : Nat) :
    (d.select c index).standing = c.standing := by
  obtain ⟨i, h⟩ := d.select_eq c index
  rw [h]
  rfl

/-- Where a dialogue in play stands. -/
theorem standing_of_playing {c : Cursor} (h : c.finished = false) :
    c.standing = ⟨c.state, c.key, false⟩ := by
  rw [Cursor.standing, h]

/-- An index leaves no choice of steps. -/
theorem StepAt.unique {d : Dialogue} {i : Nat} {s t u : Standing}
    (ht : StepAt d i s t) (hu : StepAt d i s u) : t = u := by
  cases ht with
  | stop hn he =>
      cases hu with
      | stop _ _ => rfl
      | leave _ _ _ _ => rfl
      | go hn' hi _ _ =>
          rw [hn] at hn'
          cases hn'
          simp [he] at hi
  | leave hn hi _ hw =>
      cases hu with
      | stop _ _ => rfl
      | leave _ _ _ _ => rfl
      | go hn' hi' _ hw' =>
          rw [hn] at hn'
          cases hn'
          rw [hi] at hi'
          cases hi'
          exact absurd hw hw'
  | go hn hi _ hw =>
      cases hu with
      | stop hn' he =>
          rw [hn] at hn'
          cases hn'
          simp [he] at hi
      | leave hn' hi' _ hw' =>
          rw [hn] at hn'
          cases hn'
          rw [hi] at hi'
          cases hi'
          exact absurd hw' hw
      | go hn' hi' _ _ =>
          rw [hn] at hn'
          cases hn'
          rw [hi] at hi'
          cases hi'
          rfl

/-- What a step at an index needs of the cursor it starts from. -/
theorem StepAt.enabled {d : Dialogue} {c : Cursor} {i : Nat} {t : Standing}
    (h : StepAt d i c.standing t) :
    c.finished = false ∧ ∃ node, d.node? c = some node ∧
      (node.choices = [] ∨
        ∃ choice, node.choices[i]? = some choice ∧ IsOpen d.rules c.key choice) := by
  obtain ⟨state, selected, finished, key⟩ := c
  generalize hs : (⟨state, selected, finished, key⟩ : Cursor).standing = s at h
  cases h with
  | stop hn he =>
      cases hs
      exact ⟨rfl, _, hn, .inl he⟩
  | leave hn hi ho _ =>
      cases hs
      exact ⟨rfl, _, hn, .inr ⟨_, hi, ho⟩⟩
  | go hn hi ho _ =>
      cases hs
      exact ⟨rfl, _, hn, .inr ⟨_, hi, ho⟩⟩

/-- No outcome both takes a step and refuses one. -/
theorem not_refused_of_taken {outcome : Outcome} (h : outcome ∈ [Outcome.moved, .finished]) :
    outcome ∉ [Outcome.locked, .ignored] := by
  cases outcome with
  | ignored => simp at h
  | locked => simp at h
  | finished => simp
  | moved => simp

/-- Confirming takes a step at the selection, or it is refused, nothing changes
and no step at the selection is possible. -/
theorem confirm_step (d : Dialogue) (c : Cursor) :
    ((d.confirm c).value.1 ∈ [Outcome.moved, .finished] ∧
      StepAt d c.selected c.standing (d.confirm c).value.2.standing) ∨
    ((d.confirm c).value.1 ∈ [Outcome.locked, .ignored] ∧ (d.confirm c).value.2 = c ∧
      ∀ t, ¬ StepAt d c.selected c.standing t) := by
  have h := d.confirms c
  generalize (d.confirm c).value = r at h
  cases h with
  | ended hf =>
      refine .inr ⟨by simp, rfl, fun t ht => ?_⟩
      have hp := ht.enabled.1
      rw [hf] at hp
      cases hp
  | lost hf hn =>
      refine .inr ⟨by simp, rfl, fun t ht => ?_⟩
      obtain ⟨_, node, hn', _⟩ := ht.enabled
      rw [hn] at hn'
      cases hn'
  | stop hf hn he =>
      refine .inl ⟨by simp, ?_⟩
      rw [standing_of_playing hf]
      exact .stop hn he
  | astray hf hn he hs =>
      refine .inr ⟨by simp, rfl, fun t ht => ?_⟩
      obtain ⟨_, node, hn', hc⟩ := ht.enabled
      rw [hn] at hn'
      cases hn'
      rcases hc with he' | ⟨choice, hi, _⟩
      · exact he he'
      · rw [hs] at hi
        cases hi
  | locked hp hl =>
      refine .inr ⟨by simp, rfl, fun t ht => ?_⟩
      obtain ⟨_, node, hn', hc⟩ := ht.enabled
      rw [hp.atNode] at hn'
      cases hn'
      have hs := hp.selected
      rcases hc with he | ⟨choice, hi, ho⟩
      · rw [he] at hs
        cases hs
      · rw [hs] at hi
        cases hi
        exact hl ho
  | leave hp ho hw =>
      refine .inl ⟨by simp, ?_⟩
      rw [standing_of_playing hp.playing]
      exact .leave hp.atNode hp.selected ho hw
  | go hp ho hw =>
      refine .inl ⟨by simp, ?_⟩
      rw [standing_of_playing hp.playing, Cursor.standing]
      simp only [hp.playing]
      exact .go hp.atNode hp.selected ho hw

/-- An action leaves the standing as it is or takes one step. -/
theorem standing_act (d : Dialogue) (c : Cursor) (action : Action) :
    (d.act c action).standing = c.standing ∨
      Step d c.standing (d.act c action).standing := by
  cases action with
  | move delta => exact .inl (standing_move d c delta)
  | select index => exact .inl (standing_select d c index)
  | confirm =>
      rcases d.confirm_step c with ⟨_, h⟩ | ⟨_, h, _⟩
      · exact .inr (step_iff_exists_stepAt.2 ⟨_, h⟩)
      · left
        rw [act, h]

/-! ## Runs and standings -/

/-- A run ends where the dialogue can come to stand. -/
theorem canStand_run (d : Dialogue) (actions : List Action) :
    CanStand d (d.run d.begin actions).standing := by
  refine run_induction (P := fun c => CanStand d c.standing) ?_ actions CanStand.start
  intro c action h
  rcases d.standing_act c action with he | hs
  · rw [he]
    exact h
  · exact h.step hs

/-- The step at the selection is the one that confirming takes. -/
theorem standing_confirm {d : Dialogue} {c : Cursor} {t : Standing}
    (h : StepAt d c.selected c.standing t) : (d.confirm c).value.2.standing = t := by
  rcases d.confirm_step c with ⟨_, hs⟩ | ⟨_, _, hn⟩
  · exact hs.unique h
  · exact absurd h (hn t)

/-- A step at an index is taken by selecting the index and confirming.  At a
node without choices nothing is selected, and the node is left all the same. -/
theorem standing_select_confirm {d : Dialogue} {c : Cursor} {i : Nat} {t : Standing}
    (h : StepAt d i c.standing t) : (d.run c [.select i, .confirm]).standing = t := by
  show (d.confirm (d.select c i)).value.2.standing = t
  apply standing_confirm
  rw [standing_select]
  obtain ⟨hf, node, hn, hc⟩ := h.enabled
  rcases hc with he | ⟨choice, hi, _⟩
  · have hs : StepAt d (d.select c i).selected c.standing ⟨c.state, c.key, true⟩ := by
      rw [standing_of_playing hf]
      exact .stop hn he
    have hs' : StepAt d i c.standing ⟨c.state, c.key, true⟩ := by
      rw [standing_of_playing hf]
      exact .stop hn he
    rw [h.unique hs']
    exact hs
  · obtain ⟨hlt, _⟩ := List.getElem?_eq_some_iff.1 hi
    rw [select_of_lt hn hlt]
    exact h

/-- Every place a dialogue can come to stand is reached by selecting and
confirming, without moving the selection. -/
theorem exists_picks_of_canStand {d : Dialogue} {s : Standing} (h : CanStand d s) :
    ∃ actions, (∀ delta, .move delta ∉ actions) ∧ (d.run d.begin actions).standing = s := by
  induction h with
  | start => exact ⟨[], by simp, rfl⟩
  | step _ hst ih =>
      obtain ⟨actions, hno, ha⟩ := ih
      obtain ⟨i, hi⟩ := step_iff_exists_stepAt.1 hst
      refine ⟨actions ++ [.select i, .confirm], by simp [hno], ?_⟩
      rw [run_append]
      apply standing_select_confirm
      rw [ha]
      exact hi

/-- Every place a dialogue can come to stand is reached by a run. -/
theorem exists_run_of_canStand {d : Dialogue} {s : Standing} (h : CanStand d s) :
    ∃ actions, (d.run d.begin actions).standing = s := by
  obtain ⟨actions, _, ha⟩ := exists_picks_of_canStand h
  exact ⟨actions, ha⟩

/-! ## The key -/

/-- The key is found by moving to the state that gives it, and no other way. -/
theorem key_act {d : Dialogue} {c : Cursor} {action : Action}
    (h : (d.act c action).key = true) :
    c.key = true ∨ (action = .confirm ∧ (d.confirm c).value.1 = .moved ∧
      (d.act c action).state = d.rules.keyState) := by
  cases action with
  | move delta =>
      obtain ⟨i, he⟩ := d.move_eq c delta
      rw [act, he] at h
      exact .inl h
  | select index =>
      obtain ⟨i, he⟩ := d.select_eq c index
      rw [act, he] at h
      exact .inl h
  | confirm =>
      rw [act] at h ⊢
      have hc := d.confirms c
      generalize (d.confirm c).value = r at h hc
      cases hc with
      | ended _ => exact .inl h
      | lost _ _ => exact .inl h
      | stop _ _ _ => exact .inl h
      | astray _ _ _ _ => exact .inl h
      | locked _ _ => exact .inl h
      | leave _ _ _ => exact .inl h
      | go _ _ _ =>
          rcases Bool.or_eq_true_iff.1 h with hk | hk
          · exact .inl hk
          · exact .inr ⟨rfl, rfl, eq_of_beq hk⟩

/-- A run that has the key has moved to the state that gives it. -/
theorem exists_arrival_of_key {d : Dialogue} {actions : List Action}
    (h : (d.run d.begin actions).key = true) :
    ∃ before after, actions = before ++ .confirm :: after ∧
      (d.confirm (d.run d.begin before)).value.1 = .moved ∧
      (d.run d.begin (before ++ [.confirm])).state = d.rules.keyState := by
  induction actions using List.reverseRecOn with
  | nil => cases h
  | append_singleton actions action ih =>
      rw [run_concat] at h
      rcases key_act h with hk | ⟨rfl, hm, hs⟩
      · obtain ⟨before, after, rfl, hm, hs⟩ := ih hk
        exact ⟨before, after ++ [action], by simp, hm, hs⟩
      · rw [← run_concat] at hs
        exact ⟨actions, [], rfl, hm, hs⟩

/-- A locked choice is taken with the key only. -/
theorem key_of_taken {d : Dialogue} {c : Cursor} {node : Node} {choice : Choice}
    (hn : d.node? c = some node) (hs : node.choices[c.selected]? = some choice)
    (hl : d.rules.isLocked choice.label = true)
    (ht : (d.confirm c).value.1 ∈ [Outcome.moved, .finished]) : c.key = true := by
  rcases d.confirm_step c with ⟨_, h⟩ | ⟨hr, _⟩
  · obtain ⟨_, node', hn', hc⟩ := h.enabled
    rw [hn] at hn'
    cases hn'
    rcases hc with he | ⟨choice', hs', ho⟩
    · simp [he] at hs
    · rw [hs] at hs'
      cases hs'
      exact ho hl
  · exact absurd hr (not_refused_of_taken ht)

/-! ## The refinement -/

/-- A cursor refines the steps of its dialogue, in both directions.  After any
run an action leaves the standing as it is or takes one step.  Confirming takes
the step at the selection just when it says that it moved or finished, and
changes nothing when it says that it was refused or ignored.  A locked choice is
taken only by a run that has moved to the state that gives the key.  What the
runs lead to is what the dialogue can come to. -/
theorem run_refines_steps (d : Dialogue) :
    (∀ actions action,
      (d.run d.begin (actions ++ [action])).standing = (d.run d.begin actions).standing ∨
        Step d (d.run d.begin actions).standing
          (d.run d.begin (actions ++ [action])).standing) ∧
    (∀ actions,
      let c := d.run d.begin actions
      let outcome := (d.confirm c).value.1
      let c' := (d.confirm c).value.2
      (outcome ∈ [Outcome.moved, .finished] ↔ StepAt d c.selected c.standing c'.standing) ∧
      (outcome ∈ [Outcome.locked, .ignored] → c' = c) ∧
      ∀ node choice, d.node? c = some node → node.choices[c.selected]? = some choice →
        d.rules.isLocked choice.label = true → outcome ∈ [Outcome.moved, .finished] →
        ∃ before after, actions = before ++ .confirm :: after ∧
          (d.confirm (d.run d.begin before)).value.1 = .moved ∧
          (d.run d.begin (before ++ [.confirm])).state = d.rules.keyState) ∧
    ∀ s, CanStand d s ↔ ∃ actions, (d.run d.begin actions).standing = s := by
  refine ⟨fun actions action => ?_, fun actions => ⟨⟨fun ht => ?_, fun hs => ?_⟩, fun hr => ?_, ?_⟩,
    fun s => ?_⟩
  · rw [run_concat]
    exact d.standing_act _ action
  · rcases d.confirm_step (d.run d.begin actions) with ⟨_, hs⟩ | ⟨hr, _⟩
    · exact hs
    · exact absurd hr (not_refused_of_taken ht)
  · rcases d.confirm_step (d.run d.begin actions) with ⟨ht, _⟩ | ⟨_, _, hn⟩
    · exact ht
    · exact absurd hs (hn _)
  · rcases d.confirm_step (d.run d.begin actions) with ⟨ht, _⟩ | ⟨_, he, _⟩
    · exact absurd hr (not_refused_of_taken ht)
    · exact he
  · intro node choice hn hs hl ht
    exact exists_arrival_of_key (key_of_taken hn hs hl ht)
  · constructor
    · exact exists_run_of_canStand
    · rintro ⟨actions, rfl⟩
      exact canStand_run d actions

end Colloquy.Dialogue
