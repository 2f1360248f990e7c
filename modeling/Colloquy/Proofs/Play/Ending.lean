import Colloquy.Proofs.Dialogue.Refinement
import Colloquy.Proofs.Play.Events

/-!
# After the end of a dialogue

Nothing leads out of the end: state, key and end stay as they are whatever a
player does.  Moving and confirming do nothing at all then.  Selecting still
selects.  So the cursor as a whole stays as it is just as long as no other choice
of the last node is selected, by an action or by a pointer
(`finished_stays_iff`).

What a sequence leaves as it is, it leaves so all the way (`forall_prefix_iff`):
a selection that is changed and changed back is a change.
-/

namespace Colloquy

/-- Something stays true all along a fold just when every item of the list keeps
it, provided an item does or does not whatever came before. -/
theorem forall_prefix_iff {α β : Type} {f : β → α → β} {R : β → Prop} {Keeps : α → Prop}
    (hstep : ∀ b a, R b → (R (f b a) ↔ Keeps a)) (items : List α) :
    ∀ {b : β}, R b →
      ((∀ before, before <+: items → R (before.foldl f b)) ↔ ∀ a ∈ items, Keeps a) := by
  induction items with
  | nil =>
      intro b hb
      simp [hb]
  | cons a items ih =>
      intro b hb
      constructor
      · intro h
        have ha : R (f b a) := h [a] (List.prefix_append [a] items)
        rw [List.forall_mem_cons]
        refine ⟨(hstep b a hb).1 ha, (ih ha).1 fun before hbefore => ?_⟩
        exact h (a :: before) ((List.prefix_cons_inj a).2 hbefore)
      · intro h before hbefore
        rw [List.forall_mem_cons] at h
        cases before with
        | nil => exact hb
        | cons a' before =>
            obtain ⟨rfl, hrest⟩ := List.cons_prefix_cons.1 hbefore
            exact (ih ((hstep b a' hb).2 h.1)).2 h.2 before hrest

namespace Dialogue

variable {d : Dialogue} {c : Cursor}

theorem move_of_finished (h : c.finished = true) (delta : Int32) : d.move c delta = c := by
  rw [move, if_pos h]

theorem confirm_of_finished (h : c.finished = true) : (d.confirm c).value.2 = c := by
  rw [confirm, if_pos h]
  rfl

/-- Selecting leaves a cursor as it is unless another choice is selected. -/
theorem select_eq_self_iff {index : Nat} :
    d.select c index = c ↔ (d.hasChoice c index = true → index = c.selected) := by
  rw [select]
  split
  next h =>
    constructor
    · exact fun he _ => congrArg Cursor.selected he
    · intro he
      rw [he h]
  next h => exact ⟨fun _ hc => absurd hc h, fun _ => rfl⟩

/-- After the end an action leaves the cursor as it is unless it selects another
choice. -/
theorem act_eq_self_iff (h : c.finished = true) {action : Action} :
    d.act c action = c ↔
      ∀ index, action = .select index → d.hasChoice c index = true → index = c.selected := by
  cases action with
  | move delta => simp [act, move_of_finished h]
  | select index =>
      rw [act, select_eq_self_iff]
      simp
  | confirm => simp [act, confirm_of_finished h]

/-- No step leads out of the end. -/
theorem not_step_of_finished {s t : Standing} (h : s.finished = true) : ¬ Step d s t := by
  intro hst
  cases hst <;> cases h

/-- An action keeps the standing of an ended dialogue. -/
theorem standing_act_of_ended {s : Standing} (h : s.finished = true) (c : Cursor) (action : Action)
    (hc : c.standing = s) : (d.act c action).standing = s := by
  rcases d.standing_act c action with he | hst
  · rw [he, hc]
  · rw [hc] at hst
    exact absurd hst (not_step_of_finished h)

end Dialogue

namespace Play.Mode

variable {S α : Type} [Surface S α] [Zero α] [Add α] [Sub α] [Mul α] [Div α] [NatCast α] [LE α]
  [DecidableLE α]

/-- After the end an event leaves the cursor as it is unless it points at another
choice. -/
theorem run_actions_eq_self_iff {m : Mode S α} (h : m.cursor.finished = true) {viewport : Nat}
    {event : Event α} :
    m.dialogue.run m.cursor (m.actions viewport event) = m.cursor ↔
      ∀ index, m.pointedAt? viewport event = some index →
        m.dialogue.hasChoice m.cursor index = true → index = m.cursor.selected := by
  have hmove : ∀ delta, m.dialogue.move m.cursor delta = m.cursor :=
    Dialogue.move_of_finished h
  have hkeep : (m.dialogue.confirm m.cursor).value.2 = m.cursor := Dialogue.confirm_of_finished h
  have hconfirm : ∀ index, (m.dialogue.confirm (m.dialogue.select m.cursor index)).value.2 =
      m.dialogue.select m.cursor index := by
    intro index
    obtain ⟨i, he⟩ := m.dialogue.select_eq m.cursor index
    apply Dialogue.confirm_of_finished
    rw [he]
    exact h
  cases event with
  | key key =>
      cases key <;> simp [actions, pointedAt?, Dialogue.run, Dialogue.act, hmove, hkeep]
  | press button x y =>
      cases button with
      | left =>
          cases hc : m.choiceAt? y viewport <;>
            simp [actions, pointedAt?, hc, Dialogue.run, Dialogue.act, hconfirm,
              Dialogue.select_eq_self_iff]
      | right => simp [actions, pointedAt?, Dialogue.run]
      | middle => simp [actions, pointedAt?, Dialogue.run]
  | motion x y =>
      cases hc : m.choiceAt? y viewport <;>
        simp [actions, pointedAt?, hc, Dialogue.run, Dialogue.act, Dialogue.select_eq_self_iff]

/-- A mode that differs from another at most in who holds the pointer. -/
def Resembles (m m' : Mode S α) : Prop := ∃ holds, m' = { m with holdsPointer := holds }

/-- Events that leave the cursor as it is leave the mode as it is, but for the
pointer. -/
theorem resembles_hear_iff {m : Mode S α} {events : List (Nat × Event α)} :
    m.Resembles (m.hear events) ↔ (m.hear events).cursor = m.cursor := by
  obtain ⟨cursor, holds, he⟩ := exists_hear_eq events m
  rw [he]
  constructor
  · rintro ⟨_, he'⟩
    injection he'
  · rintro (rfl : cursor = m.cursor)
    exact ⟨holds, rfl⟩

/-- Who holds the pointer makes no difference to what an event does. -/
theorem resembles_handle_iff {m m' : Mode S α} (hm : m.Resembles m')
    (h : m.cursor.finished = true) (viewport : Nat) (event : Event α) :
    m.Resembles (m'.handle viewport event).value.2 ↔
      ∀ index, m.pointedAt? viewport event = some index →
        m.dialogue.hasChoice m.cursor index = true → index = m.cursor.selected := by
  obtain ⟨holds, rfl⟩ := hm
  obtain ⟨holds', he⟩ := exists_handle_eq { m with holdsPointer := holds } viewport event
  rw [he, ← run_actions_eq_self_iff h]
  constructor
  · rintro ⟨_, he'⟩
    injection he'
  · intro hrun
    refine ⟨holds', ?_⟩
    conv_rhs => rw [← hrun]
    rfl

/-- After the end events leave the cursor as it is, all the way, just when none of
them points at another choice. -/
theorem cursor_hear_iff {m : Mode S α} (h : m.cursor.finished = true)
    (events : List (Nat × Event α)) :
    (∀ before, before <+: events → (m.hear before).cursor = m.cursor) ↔
      ∀ e ∈ events, ∀ index, m.pointedAt? e.1 e.2 = some index →
        m.dialogue.hasChoice m.cursor index = true → index = m.cursor.selected := by
  simp only [← resembles_hear_iff]
  refine forall_prefix_iff (R := m.Resembles) (fun _ e hm => ?_) events ⟨m.holdsPointer, rfl⟩
  exact resembles_handle_iff hm h e.1 e.2

end Play.Mode

/-- After the end of a dialogue the state, the key and the end itself stay, whatever
the player does and whatever a play mode hears.  The cursor as a whole stays just
as long as no action selects another choice of the last node and no event points
at one. -/
theorem finished_stays_iff (d : Dialogue) {c : Dialogue.Cursor} (h : c.finished = true) :
    (∀ actions, (d.run c actions).standing = c.standing ∧
      ((∀ before, before <+: actions → d.run c before = c) ↔
        ∀ index, .select index ∈ actions → d.hasChoice c index = true → index = c.selected)) ∧
    ∀ {S α : Type} [Play.Surface S α] [Zero α] [Add α] [Sub α] [Mul α] [Div α] [NatCast α] [LE α]
      [DecidableLE α] (m : Play.Mode S α), m.dialogue = d → m.cursor = c →
      ∀ events, (m.hear events).cursor.standing = c.standing ∧
        ((∀ before, before <+: events → (m.hear before).cursor = c) ↔
          ∀ e ∈ events, ∀ index, m.pointedAt? e.1 e.2 = some index →
            d.hasChoice c index = true → index = c.selected) := by
  refine ⟨fun actions => ⟨?_, ?_⟩, ?_⟩
  · exact Dialogue.run_induction (Dialogue.standing_act_of_ended h) actions rfl
  · have hstep : ∀ c' action, c' = c → (d.act c' action = c ↔
        ∀ index, action = .select index → d.hasChoice c index = true → index = c.selected) := by
      rintro _ action rfl
      exact Dialogue.act_eq_self_iff h
    rw [show (∀ before, before <+: actions → d.run c before = c) ↔ _ from
      forall_prefix_iff (R := (· = c)) hstep actions rfl]
    constructor
    · exact fun hall index hi => hall _ hi index rfl
    · rintro hall _ ha index rfl
      exact hall index ha
  · rintro S α _ _ _ _ _ _ _ _ _ m rfl rfl events
    refine ⟨?_, Play.Mode.cursor_hear_iff h events⟩
    exact Play.Mode.cursor_hear_induction (Dialogue.standing_act_of_ended h) rfl events

/-- A room with two ways out. -/
def twoExits : Dialogue where
  graph := { start := "a", nodes := [⟨"a", "", [⟨"Out", "END"⟩, ⟨"Away", "END"⟩]⟩] }

/-- A player who has left. -/
def departed : Dialogue.Cursor := twoExits.run twoExits.begin [.confirm]

theorem finished_stays_iff_departed :
    departed.finished = true ∧ ∀ before,
      before <+: [.move 1, .select 0, .confirm, .select 2] →
        twoExits.run departed before = departed := by
  have hf : departed.finished = true := by decide
  refine ⟨hf, (((finished_stays_iff twoExits hf).1 _).2).2 fun index hi hc => ?_⟩
  have hcases : index = 0 ∨ index = 2 := by simpa using hi
  rcases hcases with rfl | rfl
  · decide
  · exact absurd hc (by decide)

/-- Selecting goes on after the end. -/
theorem select_after_end :
    departed.finished = true ∧ twoExits.run departed [.select 1] ≠ departed := by
  decide

end Colloquy
