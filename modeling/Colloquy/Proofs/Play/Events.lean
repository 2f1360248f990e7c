import Colloquy.Play.Mode
import Colloquy.Proofs.Dialogue.Actions

/-!
# Events as actions

An event does to the cursor of a play mode what some actions of the player do
(`Mode.actions`), and apart from the cursor it only ever changes who holds the
pointer (`Mode.exists_handle_eq`).  So whatever is known of runs of actions is
known of play.

Keys move the selection or confirm it.  A left click or a motion points at the
choice at its height, if there is one (`Mode.pointedAt?`).  Nothing else of the
pointer counts.
-/

namespace Colloquy.Play

open Colloquy.Dialogue (Action Cursor)

variable {S α : Type}

namespace Mode

/-- A mode of parts has these parts, and is at the start of its dialogue. -/
theorem eq_of_ofParts {settings : Settings α} {surface : S} {graph : Script.Graph}
    {scene : Asset.Scene} {samples : List Asset.Sample} {m : Mode S α}
    (h : (ofParts settings surface graph scene samples).value = .ok m) :
    m = { settings, surface, scene, samples
          dialogue := ⟨graph, settings.gating⟩
          cursor := Dialogue.begin ⟨graph, settings.gating⟩ } := by
  rw [ofParts] at h
  split at h
  · cases h
  · split at h
    · cases h
      rfl
    · cases h
      rfl

variable [Surface S α] [Zero α] [Add α] [Sub α] [Mul α] [Div α] [NatCast α] [LE α] [DecidableLE α]

/-- The choice that an event in a window points at. -/
def pointedAt? (m : Mode S α) (viewport : Nat) : Event α → Option Nat
  | .press .left _ y | .motion _ y => m.choiceAt? y viewport
  | _ => none

/-- What an event in a window makes the player do. -/
def actions (m : Mode S α) (viewport : Nat) : Event α → List Action
  | .key .escape => []
  | .key .enter => [.confirm]
  | .key .up => [.move (-1)]
  | .key .down => [.move 1]
  | .press .left _ y =>
      match m.choiceAt? y viewport with
      | none => []
      | some index => [.select index, .confirm]
  | .press _ _ _ => []
  | .motion _ y =>
      match m.choiceAt? y viewport with
      | none => []
      | some index => [.select index]

/-- An event does what its actions do, and may let go of the pointer. -/
theorem exists_handle_eq (m : Mode S α) (viewport : Nat) (event : Event α) :
    ∃ holds, (m.handle viewport event).value.2 =
      { m with
        cursor := m.dialogue.run m.cursor (m.actions viewport event), holdsPointer := holds } := by
  cases event with
  | key key =>
      cases key with
      | escape => exact ⟨false, rfl⟩
      | enter => exact ⟨m.holdsPointer, rfl⟩
      | up => exact ⟨m.holdsPointer, rfl⟩
      | down => exact ⟨m.holdsPointer, rfl⟩
  | press button x y =>
      refine ⟨m.holdsPointer, ?_⟩
      cases button with
      | left =>
          simp only [handle, actions]
          cases m.choiceAt? y viewport with
          | none => rfl
          | some index => rfl
      | right => rfl
      | middle => rfl
  | motion x y =>
      refine ⟨m.holdsPointer, ?_⟩
      simp only [handle, actions]
      cases m.choiceAt? y viewport with
      | none => rfl
      | some index => rfl

/-! ## One event after another -/

/-- The mode after events, each in a window. -/
def hear (m : Mode S α) (events : List (Nat × Event α)) : Mode S α :=
  events.foldl (fun m e => (m.handle e.1 e.2).value.2) m

theorem exists_hear_eq (events : List (Nat × Event α)) : ∀ m : Mode S α,
    ∃ cursor holds, m.hear events = { m with cursor := cursor, holdsPointer := holds } := by
  induction events with
  | nil => exact fun m => ⟨m.cursor, m.holdsPointer, rfl⟩
  | cons e events ih =>
      intro m
      obtain ⟨holds, hhandle⟩ := m.exists_handle_eq e.1 e.2
      obtain ⟨cursor, holds', hhear⟩ := ih (m.handle e.1 e.2).value.2
      refine ⟨cursor, holds', ?_⟩
      show ((m.handle e.1 e.2).value.2).hear events = _
      rw [hhear, hhandle]

/-- What holds of a cursor and is kept by each action is kept by events. -/
theorem cursor_hear_induction {P : Cursor → Prop} {m : Mode S α}
    (hact : ∀ c action, P c → P (m.dialogue.act c action)) (hm : P m.cursor)
    (events : List (Nat × Event α)) : P (m.hear events).cursor := by
  induction events generalizing m with
  | nil => exact hm
  | cons e events ih =>
      obtain ⟨holds, hhandle⟩ := m.exists_handle_eq e.1 e.2
      show P (((m.handle e.1 e.2).value.2).hear events).cursor
      apply ih
      · rw [hhandle]
        exact hact
      · rw [hhandle]
        exact Dialogue.run_induction hact _ hm

end Mode

end Colloquy.Play
