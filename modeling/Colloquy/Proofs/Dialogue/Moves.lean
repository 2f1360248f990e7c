import Colloquy.Proofs.Dialogue.Selection
import Mathlib

/-!
# Moves add up

Moving the selection is addition, counted round and round through the choices.  So it
is the sum of some moves that counts and not their order, and a move back undoes a move
(`moves_add_up`).

The sums are those of whole numbers.  A machine adds in words of sixty-four bits, and
`moveInWords` has no answer where a word does not hold a sum.  A selection is a place
among the choices, and a move has thirty-two bits.  So there is an answer as long as the
choices leave room in a word for one move (`runInWords_eq`).  Choices that are held in memory
leave far more.
-/

namespace Colloquy.Dialogue

open Colloquy.Script

variable {d : Dialogue} {c : Cursor}

/-! ## Moving in words -/

/-- A number as a word, if a word holds it. -/
def word? (n : Nat) : Option Int64 := if n < 2 ^ 63 then some (Int64.ofNat n) else none

/-- The sum of two words, if a word holds it. -/
def addWords? (a b : Int64) : Option Int64 :=
  if -2 ^ 63 ≤ a.toInt + b.toInt ∧ a.toInt + b.toInt < 2 ^ 63 then some (a + b) else none

/-- The selection moved in words.  It stays where there is nothing to move along, or
where the choices cannot be counted. -/
def moveInWords (d : Dialogue) (c : Cursor) (delta : Int32) : Option Cursor :=
  if c.finished then some c
  else match word? (d.choiceCount c), word? c.selected with
    | some count, some selected =>
        if count = 0 then some c
        else (addWords? selected delta.toInt64).map fun sum =>
          { c with selected := (sum.toInt % count.toInt).toNat }
    | _, _ => some c

/-- Moves in words, one after the other. -/
def runInWords (d : Dialogue) (c : Cursor) (deltas : List Int32) : Option Cursor :=
  deltas.foldlM d.moveInWords c

theorem word?_of_lt {n : Nat} (h : n < 2 ^ 63) : ∃ w, word? n = some w ∧ w.toInt = n :=
  ⟨Int64.ofNat n, if_pos h, Int64.toInt_ofNat_of_lt h⟩

/-- A sum that a word holds is the sum of whole numbers. -/
theorem addWords?_of_holds {a b : Int64} (hlow : -2 ^ 63 ≤ a.toInt + b.toInt)
    (hhigh : a.toInt + b.toInt < 2 ^ 63) :
    ∃ sum, addWords? a b = some sum ∧ sum.toInt = a.toInt + b.toInt := by
  refine ⟨a + b, if_pos ⟨hlow, hhigh⟩, ?_⟩
  rw [Int64.toInt_add]
  exact Int.bmod_eq_of_le (by omega) (by omega)

/-- Where there is room for a move, moving in words is moving. -/
theorem moveInWords_eq (hs : c.selected < d.choiceCount c)
    (hroom : d.choiceCount c ≤ 2 ^ 63 - 2 ^ 31) (delta : Int32) :
    d.moveInWords c delta = some (d.move c delta) := by
  rw [moveInWords]
  by_cases hf : c.finished = true
  · rw [if_pos hf, move, if_pos hf]
  · obtain ⟨count, hcount, hcount'⟩ := word?_of_lt (n := d.choiceCount c) (by omega)
    obtain ⟨selected, hselected, hselected'⟩ := word?_of_lt (n := c.selected) (by omega)
    have hlow := delta.le_toInt
    have hhigh := delta.toInt_lt
    rw [← Int32.toInt_toInt64] at hlow hhigh
    obtain ⟨sum, hsum, hsum'⟩ := addWords?_of_holds (a := selected) (b := delta.toInt64)
      (by omega) (by omega)
    have hne : count ≠ 0 := by
      rintro rfl
      have hzero : (0 : Int) = d.choiceCount c := hcount'
      omega
    rw [if_neg hf, hcount, hselected]
    simp only [if_neg hne, hsum, Option.map_some, hsum', hselected', hcount',
      Int32.toInt_toInt64]
    rw [move_of_pos (eq_false_of_ne_true hf) (Nat.zero_lt_of_lt hs)]

/-- A move keeps the choices there are. -/
theorem choiceCount_move (c : Cursor) (delta : Int32) :
    d.choiceCount (d.move c delta) = d.choiceCount c := by
  obtain ⟨i, hi⟩ := d.move_eq c delta
  rw [hi]
  rfl

/-- Where there is room for a move, no sum on the way is too great for a word. -/
theorem runInWords_eq (deltas : List Int32) : ∀ {c : Cursor}, c.selected < d.choiceCount c →
    d.choiceCount c ≤ 2 ^ 63 - 2 ^ 31 →
    d.runInWords c deltas = some (d.run c (deltas.map .move)) := by
  induction deltas with
  | nil => exact fun _ _ => rfl
  | cons delta deltas ih =>
      intro c hs hroom
      have hmoved : (d.move c delta).selected < d.choiceCount (d.move c delta) :=
        (inRange_move (.inl hs) delta).lt_of_pos (by rw [choiceCount_move]; omega)
      calc d.runInWords c (delta :: deltas)
          = (d.moveInWords c delta).bind fun c => d.runInWords c deltas := List.foldlM_cons
        _ = d.runInWords (d.move c delta) deltas := by rw [moveInWords_eq hs hroom]; rfl
        _ = some (d.run (d.move c delta) (deltas.map .move)) :=
            ih hmoved (by rw [choiceCount_move]; exact hroom)
        _ = some (d.run c ((delta :: deltas).map .move)) := rfl

/-! ## The order of moves -/

theorem toInt_neg_of_ne {delta : Int32} (h : delta ≠ Int32.minValue) :
    (-delta).toInt = -delta.toInt := by
  have hlow := delta.le_toInt
  have hhigh := delta.toInt_lt
  have hne : delta.toInt ≠ -2 ^ 31 := fun he => h (Int32.toInt_inj.1 he)
  rw [Int32.toInt_neg]
  exact Int.bmod_eq_of_le (by omega) (by omega)

/-- Wherever a dialogue goes on at a node with choices, moves lead to the selection and
their sum, counted round.  No sum on the way is too great for a word.  The order of the
moves makes no difference, and moving there and back makes none at all. -/
theorem moves_add_up (d : Dialogue) (actions : List Action) {node : Node}
    (hf : (d.run d.begin actions).finished = false)
    (hn : d.node? (d.run d.begin actions) = some node) (hne : node.choices ≠ []) :
    let c := d.run d.begin actions
    (∀ deltas : List Int32, d.run c (deltas.map .move) = { c with
      selected := ((c.selected + (deltas.map Int32.toInt).sum) % node.choices.length).toNat }) ∧
    (node.choices.length ≤ 2 ^ 63 - 2 ^ 31 →
      ∀ deltas, d.runInWords c deltas = some (d.run c (deltas.map .move))) ∧
    (∀ deltas deltas' : List Int32, deltas.Perm deltas' →
      d.run c (deltas.map .move) = d.run c (deltas'.map .move)) ∧
    ∀ delta, delta ≠ Int32.minValue → d.run c [.move delta, .move (-delta)] = c := by
  intro c
  have hcount : d.choiceCount c = node.choices.length := choiceCount_of_node hn
  have hs : c.selected < d.choiceCount c := by
    rw [hcount]
    exact (d.inRange_run actions).lt_length hn hne
  rw [← hcount]
  have hsum := fun deltas => run_moves (d := d) deltas hf hs
  refine ⟨hsum, fun hroom deltas => runInWords_eq deltas hs hroom, fun deltas deltas' hp => ?_,
    fun delta hd => ?_⟩
  · rw [hsum, hsum, (hp.map Int32.toInt).sum_eq]
  · have hback : ([delta, -delta].map Int32.toInt).sum = 0 := by
      simp [toInt_neg_of_ne hd]
    have hround := hsum [delta, -delta]
    rw [hback, Int.add_zero, Int.emod_eq_of_lt (Int.natCast_nonneg _) (Int.ofNat_lt.2 hs)]
      at hround
    exact hround

/-- A round room with three doors. -/
def rotundaRoom : Node :=
  ⟨"rotunda", "Three doors.", [⟨"Red", "rotunda"⟩, ⟨"Green", "END"⟩, ⟨"Blue", "rotunda"⟩]⟩

/-- A player in the round room. -/
def rotunda : Dialogue where
  graph := { start := "rotunda", nodes := [rotundaRoom] }

/-- From the last door, the farthest move down, the farthest one up and three more lead to
the second door. -/
theorem moves_add_up_rotunda :
    let c := rotunda.run rotunda.begin [.select 2]
    let deltas := [Int32.maxValue, Int32.minValue, -3]
    c.finished = false ∧ rotunda.node? c = some rotundaRoom ∧ rotundaRoom.choices ≠ [] ∧
    rotunda.run c (deltas.map .move) = { state := "rotunda", selected := 1 } ∧
    rotunda.runInWords c deltas = some { state := "rotunda", selected := 1 } ∧
    rotunda.run c (deltas.reverse.map .move) = rotunda.run c (deltas.map .move) ∧
    Int32.maxValue ≠ Int32.minValue ∧
    rotunda.run c [.move Int32.maxValue, .move (-Int32.maxValue)] = c := by
  intro c deltas
  have hf : c.finished = false := by decide
  have hn : rotunda.node? c = some rotundaRoom := by decide
  have hne : rotundaRoom.choices ≠ [] := List.cons_ne_nil _ _
  have hd : Int32.maxValue ≠ Int32.minValue := by decide
  obtain ⟨hsum, hwords, horder, hback⟩ := moves_add_up rotunda [.select 2] hf hn hne
  have hmoved : rotunda.run c (deltas.map .move) = { state := "rotunda", selected := 1 } := by
    rw [hsum deltas]
    decide
  refine ⟨hf, hn, hne, hmoved, ?_, horder _ _ deltas.reverse_perm, hd, hback _ hd⟩
  rw [hwords (by decide) deltas, hmoved]

end Colloquy.Dialogue
