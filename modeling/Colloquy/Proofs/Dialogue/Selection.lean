import Colloquy.Proofs.Dialogue.Actions
import Mathlib

/-!
# The selected choice

The selection names a choice of the node a player is at.  Where the node has none,
or there is no node, it is zero (`inRange_run`).  So what is confirmed is always a
choice that is there.

As long as a dialogue goes on, moving the selection adds up.  After any number of
moves the selection is where one move by their sum leads, counted round and round
through the choices (`run_moves`).  So selecting a choice is moving down as often as
it takes to get there (`run_moves_to`).
-/

namespace Colloquy.Dialogue

open Colloquy.Script

variable {d : Dialogue} {c : Cursor}

/-- The number of choices a player has. -/
def choiceCount (d : Dialogue) (c : Cursor) : Nat :=
  (d.node? c).elim 0 fun node => node.choices.length

theorem choiceCount_of_node {node : Node} (h : d.node? c = some node) :
    d.choiceCount c = node.choices.length := by
  rw [choiceCount, h]
  rfl

theorem hasChoice_iff_lt {index : Nat} : d.hasChoice c index = true ↔ index < d.choiceCount c := by
  rw [hasChoice, choiceCount]
  cases d.node? c with
  | none => simp
  | some node => simp

/-! ## The selection in range -/

/-- The selection names a choice, or is zero where there is none to name. -/
def InRange (d : Dialogue) (c : Cursor) : Prop :=
  c.selected < d.choiceCount c ∨ d.choiceCount c = 0 ∧ c.selected = 0

theorem inRange_of_eq_zero (h : c.selected = 0) : d.InRange c := by
  rcases Nat.eq_zero_or_pos (d.choiceCount c) with hn | hn
  · exact .inr ⟨hn, h⟩
  · exact .inl (h.symm ▸ hn)

theorem InRange.lt_of_pos (h : d.InRange c) (hn : 0 < d.choiceCount c) :
    c.selected < d.choiceCount c := by
  rcases h with h | ⟨h, -⟩
  · exact h
  · omega

/-- A move goes round the choices, as long as the dialogue goes on. -/
theorem move_of_pos (hf : c.finished = false) (hn : 0 < d.choiceCount c) (delta : Int32) :
    d.move c delta =
      { c with selected := ((c.selected + delta.toInt) % d.choiceCount c).toNat } := by
  rw [move, hf, if_neg Bool.false_ne_true]
  cases h : d.node? c with
  | none =>
      rw [choiceCount, h] at hn
      cases hn
  | some node =>
      rw [choiceCount_of_node h] at hn ⊢
      exact if_neg (List.ne_nil_of_length_pos hn)

/-- Without choices, or after the end, a move does nothing. -/
theorem move_of_not_pos (h : ¬ (c.finished = false ∧ 0 < d.choiceCount c)) (delta : Int32) :
    d.move c delta = c := by
  rw [move]
  split
  · rfl
  next hf =>
    cases hn : d.node? c with
    | none => rfl
    | some node =>
        rw [choiceCount_of_node hn, List.length_pos_iff] at h
        exact if_pos (by simpa [hf] using h)

theorem inRange_move (h : d.InRange c) (delta : Int32) : d.InRange (d.move c delta) := by
  by_cases hc : c.finished = false ∧ 0 < d.choiceCount c
  · rw [move_of_pos hc.1 hc.2]
    have hlt := Int.emod_lt_of_pos (c.selected + delta.toInt) (Int.natCast_pos.2 hc.2)
    have hle := Int.emod_nonneg (c.selected + delta.toInt)
      (Int.natCast_ne_zero.2 (Nat.pos_iff_ne_zero.1 hc.2))
    refine .inl ?_
    show Int.toNat _ < d.choiceCount c
    omega
  · rwa [move_of_not_pos hc]

theorem inRange_select (h : d.InRange c) (index : Nat) : d.InRange (d.select c index) := by
  rw [select]
  split
  next hc => exact .inl (hasChoice_iff_lt.1 hc)
  next => exact h

theorem inRange_confirm (h : d.InRange c) : d.InRange (d.confirm c).value.2 := by
  have hc := d.confirms c
  generalize (d.confirm c).value = r at hc
  cases hc with
  | ended _ => exact h
  | lost _ _ => exact h
  | stop _ _ _ => exact h
  | astray _ _ _ _ => exact h
  | locked _ _ => exact h
  | leave _ _ _ => exact h
  | go _ _ _ => exact inRange_of_eq_zero rfl

/-- Every action keeps the selection in range. -/
theorem inRange_act (c : Cursor) (action : Action) (h : d.InRange c) :
    d.InRange (d.act c action) := by
  cases action with
  | move delta => exact inRange_move h delta
  | select index => exact inRange_select h index
  | confirm => exact inRange_confirm h

theorem inRange_begin (d : Dialogue) : d.InRange d.begin := inRange_of_eq_zero rfl

theorem inRange_run (d : Dialogue) (actions : List Action) : d.InRange (d.run d.begin actions) :=
  run_induction inRange_act actions d.inRange_begin

/-- In range, the selection finds a choice wherever there is one. -/
theorem InRange.lt_length {node : Node} (h : d.InRange c) (hn : d.node? c = some node)
    (hne : node.choices ≠ []) : c.selected < node.choices.length := by
  have hlt := h.lt_of_pos (by rw [choiceCount_of_node hn]; exact List.length_pos_of_ne_nil hne)
  rwa [choiceCount_of_node hn] at hlt

/-- In range, confirming is ignored for two reasons only. -/
theorem InRange.confirm_eq_ignored_iff (h : d.InRange c) :
    (d.confirm c).value.1 = .ignored ↔ c.finished = true ∨ d.node? c = none := by
  have hplaying : ∀ {node : Node} {outcome : Outcome}, c.finished = false → d.node? c = some node →
      outcome ≠ .ignored → (outcome = .ignored ↔ c.finished = true ∨ d.node? c = none) := by
    intro node outcome hf hn ho
    simp [hf, hn, ho]
  have hc := d.confirms c
  generalize (d.confirm c).value = r at hc
  cases hc with
  | ended hf => exact ⟨fun _ => .inl hf, fun _ => rfl⟩
  | lost _ hn => exact ⟨fun _ => .inr hn, fun _ => rfl⟩
  | stop hf hn _ => exact hplaying hf hn nofun
  | astray hf hn hne hs => exact absurd (h.lt_length hn hne) (List.getElem?_eq_none_iff.1 hs).not_gt
  | locked hp _ => exact hplaying hp.playing hp.atNode nofun
  | leave hp _ _ => exact hplaying hp.playing hp.atNode nofun
  | go hp _ _ => exact hplaying hp.playing hp.atNode nofun

/-! ## Moves one after the other -/

theorem run_moves (deltas : List Int32) : ∀ {c : Cursor}, c.finished = false →
    c.selected < d.choiceCount c →
    d.run c (deltas.map .move) = { c with
      selected := ((c.selected + (deltas.map Int32.toInt).sum) % d.choiceCount c).toNat } := by
  induction deltas with
  | nil =>
      intro c _ hs
      have hself : ((c.selected : Int) % d.choiceCount c).toNat = c.selected := by
        rw [Int.emod_eq_of_lt (Int.natCast_nonneg _) (Int.ofNat_lt.2 hs), Int.toNat_natCast]
      simp [run, hself]
  | cons delta deltas ih =>
      intro c hf hs
      have hpos : 0 < d.choiceCount c := Nat.zero_lt_of_lt hs
      have hround := Int.emod_nonneg (c.selected + delta.toInt)
        (Int.natCast_ne_zero.2 (Nat.pos_iff_ne_zero.1 hpos))
      have hin : (d.move c delta).selected < d.choiceCount (d.move c delta) := by
        rcases inRange_move (.inl hs) delta with h | ⟨h, -⟩
        · exact h
        · rw [move_of_pos hf hpos] at h
          exact absurd h (Nat.pos_iff_ne_zero.1 hpos)
      calc d.run c ((delta :: deltas).map .move)
          = d.run (d.move c delta) (deltas.map .move) := rfl
        _ = { d.move c delta with selected := (((d.move c delta).selected +
              (deltas.map Int32.toInt).sum) % d.choiceCount (d.move c delta)).toNat } :=
            ih (by rw [move_of_pos hf hpos]; exact hf) hin
        _ = { c with selected := ((((c.selected + delta.toInt) % d.choiceCount c).toNat +
              (deltas.map Int32.toInt).sum) % d.choiceCount c).toNat } := by
            rw [move_of_pos hf hpos]
            rfl
        _ = { c with selected := ((c.selected + ((delta :: deltas).map Int32.toInt).sum) %
              d.choiceCount c).toNat } := by
            rw [Int.toNat_of_nonneg hround, Int.emod_add_emod, Int.add_assoc, List.map_cons,
              List.sum_cons]

/-- As many moves down as the next choice lies ahead, counted round, select it. -/
theorem run_moves_to {index : Nat} (hf : c.finished = false)
    (hs : c.selected < d.choiceCount c) (hi : index < d.choiceCount c) :
    d.run c (List.replicate (((index : Int) - c.selected) % d.choiceCount c).toNat (.move 1)) =
      d.select c index := by
  have hpos : (d.choiceCount c : Int) ≠ 0 := by omega
  have hsum : ∀ n : Nat, ((List.replicate n (1 : Int32)).map Int32.toInt).sum = n := by
    intro n
    rw [List.map_replicate, List.sum_replicate_int]
    exact Int.mul_one n
  have hround : ((c.selected : Int) + ((index : Int) - c.selected) % d.choiceCount c) %
      d.choiceCount c = index := by
    rw [Int.add_emod_emod, Int.add_comm, Int.sub_add_cancel,
      Int.emod_eq_of_lt (Int.natCast_nonneg index) (Int.ofNat_lt.2 hi)]
  rw [← List.map_replicate, run_moves _ hf hs, hsum, Int.toNat_of_nonneg (Int.emod_nonneg _ hpos),
    hround, select, if_pos (hasChoice_iff_lt.2 hi)]
  rfl

end Colloquy.Dialogue
