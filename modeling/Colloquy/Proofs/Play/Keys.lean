import Colloquy.Proofs.Dialogue.Selection
import Colloquy.Proofs.Play.Events
import Colloquy.Proofs.Play.Pointing

/-!
# The pointer as keys

A pointer and the keys lead to the same places.  Moving the pointer over a choice
is pressing Down as often as it takes to get there, round past the last choice if
need be, and clicking the choice is pressing Enter after that
(`pointer_as_keys`).

A pointer selects a choice and keys move the selection.  The two agree since
moves add up and since the selection is in range wherever events lead.
-/

namespace Colloquy.Play

variable {S α : Type}

/-! ## What a layout points at -/

section Layout

variable [Add α] [Sub α] [Mul α] [Div α] [NatCast α]

theorem Layout.index_lt_of_mem {metrics : Metrics α} {labels : List (List String)} {index : Nat}
    {baseline : α} {row : Row α} (h : row ∈ rowsFrom metrics index baseline labels) :
    row.index < index + labels.length := by
  have hindex := List.mem_map_of_mem (f := Row.index) h
  rw [map_index_rowsFrom] at hindex
  exact (List.mem_range'_1.1 hindex).2

variable [Zero α] [LE α] [DecidableLE α]

/-- What a layout of a node points at is a choice of the node. -/
theorem Layout.lt_of_choiceAt? {node : Script.Node} {shaper : Typeset.Shaper α}
    {metrics : Metrics α} {viewport : Nat} {rules : Dialogue.Gating} {key : Bool} {y : α}
    {index : Nat} (h : (ofNode node shaper metrics viewport rules key).choiceAt? y = some index) :
    index < node.choices.length := by
  obtain ⟨row, hrow, rfl⟩ := Option.map_eq_some_iff.1 h
  have hlt := index_lt_of_mem (List.mem_of_find?_eq_some hrow)
  rwa [List.length_map, Nat.zero_add] at hlt

end Layout

namespace Mode

/-- A mode of parts is at the start of its dialogue. -/
theorem cursor_of_ofParts {settings : Settings α} {surface : S} {graph : Script.Graph}
    {scene : Asset.Scene} {samples : List Asset.Sample} {m : Mode S α}
    (h : (ofParts settings surface graph scene samples).value = .ok m) :
    m.cursor = m.dialogue.begin := by
  rw [eq_of_ofParts h]

variable [Surface S α] [Zero α] [Add α] [Sub α] [Mul α] [Div α] [NatCast α] [LE α] [DecidableLE α]

theorem dialogue_hear (m : Mode S α) (events : List (Nat × Event α)) :
    (m.hear events).dialogue = m.dialogue := by
  obtain ⟨cursor, holds, h⟩ := exists_hear_eq events m
  rw [h]

/-- Wherever events lead from the start, the selection is in range. -/
theorem inRange_hear {m : Mode S α} (h : m.cursor = m.dialogue.begin)
    (events : List (Nat × Event α)) :
    (m.hear events).dialogue.InRange (m.hear events).cursor := by
  rw [dialogue_hear]
  refine cursor_hear_induction Dialogue.inRange_act ?_ events
  rw [h]
  exact m.dialogue.inRange_begin

theorem layout?_eq_none_iff {m : Mode S α} {viewport : Nat} :
    m.layout? viewport = none ↔ m.dialogue.node? m.cursor = none := Option.map_eq_none_iff

/-- A choice that is pointed at is one of the current node. -/
theorem exists_node_of_choiceAt? {m : Mode S α} {viewport index : Nat} {y : α}
    (h : m.choiceAt? y viewport = some index) :
    ∃ node, m.dialogue.node? m.cursor = some node ∧ index < node.choices.length := by
  obtain ⟨layout, hlayout, hindex⟩ := Option.bind_eq_some_iff.1 h
  obtain ⟨node, hnode, rfl⟩ := Option.map_eq_some_iff.1 hlayout
  exact ⟨node, hnode, Layout.lt_of_choiceAt? hindex⟩

/-! ## Pressing keys -/

/-- Down pressed a number of times. -/
def downs (viewport count : Nat) : List (Nat × Event α) :=
  List.replicate count (viewport, .key .down)

theorem hear_downs (viewport count : Nat) : ∀ m : Mode S α, m.hear (downs viewport count) =
    { m with cursor := m.dialogue.run m.cursor (List.replicate count (.move 1)) } := by
  induction count with
  | zero => exact fun m => rfl
  | succ count ih => exact fun m => ih { m with cursor := m.dialogue.move m.cursor 1 }

theorem hear_append (m : Mode S α) (before after : List (Nat × Event α)) :
    m.hear (before ++ after) = (m.hear before).hear after := List.foldl_append

/-- A pointer at a height is another way to press keys.  Moving there is pressing
Down a number of times, and clicking there is pressing Enter as well, whether or
not the pointer was moved there before. -/
structure ActsAsKeys (m : Mode S α) (viewport : Nat) (y : α) (count : Nat) : Prop where
  motion : ∀ x, (m.handle viewport (.motion x y)).value = (true, m.hear (downs viewport count))
  click : ∀ x, (m.handle viewport (.press .left x y)).value =
    (true, m.hear (downs viewport count ++ [(viewport, .key .enter)]))
  motion_click : ∀ x x', (m.handle viewport (.motion x y)).value.2.handle viewport
    (.press .left x' y) = m.handle viewport (.press .left x' y)

theorem actsAsKeys_of_choiceAt? {m : Mode S α} {viewport index : Nat} {y : α}
    (hf : m.cursor.finished = false) (hr : m.dialogue.InRange m.cursor)
    (h : m.choiceAt? y viewport = some index) (hi : index < m.dialogue.choiceCount m.cursor) :
    m.ActsAsKeys viewport y
      (((index : Int) - m.cursor.selected) % m.dialogue.choiceCount m.cursor).toNat := by
  have hhas := Dialogue.hasChoice_iff_lt.2 hi
  have hkeys := hear_downs viewport
    (((index : Int) - m.cursor.selected) % m.dialogue.choiceCount m.cursor).toNat m
  rw [Dialogue.run_moves_to hf (hr.lt_of_pos (Nat.zero_lt_of_lt hi)) hi] at hkeys
  refine ⟨fun x => ?_, fun x => ?_, fun x x' => ?_⟩
  · simp only [handle, h, hhas, Logged.value_pure, hkeys]
  · rw [hear_append, hkeys]
    simp only [handle, h]
    rfl
  · -- the layout does not depend on the selection, and selecting twice is selecting once
    have hselect : m.dialogue.select m.cursor index = { m.cursor with selected := index } := by
      rw [Dialogue.select, if_pos hhas]
    have hagain : ({ m with cursor := m.dialogue.select m.cursor index } : Mode S α).choiceAt? y
        viewport = some index := by
      rw [hselect]
      exact h
    have htwice : m.dialogue.select (m.dialogue.select m.cursor index) index =
        m.dialogue.select m.cursor index := by
      rw [hselect, Dialogue.select]
      exact ite_self _
    simp only [handle, h, Logged.value_pure, hagain, htwice]

/-- Pointer and keys lead to the same places.  Take a mode that has just been made
and any events.  If the dialogue has not ended, pointing at a choice acts as
pressing Down as often as the choice lies ahead of the selection, counted round
the choices of the node.  Where there is no choice, or no node, the pointer is
not consumed and changes nothing.  Another button never does. -/
theorem pointer_as_keys {settings : Settings α} {surface : S} {graph : Script.Graph}
    {scene : Asset.Scene} {samples : List Asset.Sample} {start : Mode S α}
    (h : (ofParts settings surface graph scene samples).value = .ok start)
    (events : List (Nat × Event α)) :
    let m := start.hear events
    (m.cursor.finished = false → ∀ viewport y,
      (∀ layout, m.layout? viewport = some layout → ∀ index, layout.choiceAt? y = some index →
        ∃ node, m.dialogue.node? m.cursor = some node ∧ index < node.choices.length ∧
          m.ActsAsKeys viewport y
            (((index : Int) - m.cursor.selected) % node.choices.length).toNat) ∧
      ((∃ layout, m.layout? viewport = some layout ∧ layout.choiceAt? y = none) ∨
          m.dialogue.node? m.cursor = none →
        ∀ x, m.handle viewport (.motion x y) = pure (false, m) ∧
          m.handle viewport (.press .left x y) = pure (false, m))) ∧
    ∀ viewport button, button ≠ .left → ∀ x y,
      m.handle viewport (.press button x y) = pure (false, m) := by
  intro m
  have hr : m.dialogue.InRange m.cursor := inRange_hear (cursor_of_ofParts h) events
  refine ⟨fun hf viewport y => ⟨fun layout hlayout index hindex => ?_, fun hnone x => ?_⟩, ?_⟩
  · have hat : m.choiceAt? y viewport = some index :=
      Option.bind_eq_some_iff.2 ⟨layout, hlayout, hindex⟩
    obtain ⟨node, hnode, hi⟩ := exists_node_of_choiceAt? hat
    refine ⟨node, hnode, hi, ?_⟩
    rw [← Dialogue.choiceCount_of_node hnode] at hi ⊢
    exact actsAsKeys_of_choiceAt? hf hr hat hi
  · have hat : m.choiceAt? y viewport = none := by
      rw [choiceAt?, Option.bind_eq_none_iff]
      rintro layout hlayout
      rcases hnone with ⟨_, hlayout', hindex⟩ | hnode
      · rw [hlayout] at hlayout'
        cases hlayout'
        exact hindex
      · rw [layout?_eq_none_iff.2 hnode] at hlayout
        cases hlayout
    constructor
    · simp only [handle, hat]
    · simp only [handle, hat]
  · intro viewport button hb x y
    cases button with
    | left => exact absurd rfl hb
    | right => rfl
    | middle => rfl

/-- The hall, made of its parts and with a camera. -/
def builtHall : Mode (Recorder ℚ) ℚ := { hall with scene := ⟨[default]⟩ }

/-- From the way up, one Down and the pointer both lead round to the locked way
out.  Above the choices the pointer does nothing. -/
theorem pointer_as_keys_hall :
    let m := builtHall.hear [(6, .key .down)]
    (ofParts builtHall.settings builtHall.surface builtHall.dialogue.graph builtHall.scene
      []).value = .ok builtHall ∧
    m.cursor.finished = false ∧ m.cursor.selected = 1 ∧ m.choiceAt? 25 6 = some 0 ∧
    m.ActsAsKeys 6 25 1 ∧ m.choiceAt? 14 6 = none ∧
    m.handle 6 (.press .left 2 14) = pure (false, m) ∧
    m.handle 6 (.press .right 2 25) = pure (false, m) := by
  intro m
  have hbuilt : (ofParts builtHall.settings builtHall.surface builtHall.dialogue.graph
      builtHall.scene []).value = .ok builtHall := rfl
  have hf : m.cursor.finished = false := rfl
  have hs : m.cursor.selected = 1 := by decide
  obtain ⟨layout, hlayout, hout, habove⟩ : ∃ layout, m.layout? 6 = some layout ∧
      layout.choiceAt? 25 = some 0 ∧ layout.choiceAt? 14 = none :=
    ⟨_, layout?_hall, by norm_num [Layout.choiceAt?, Row.holds],
      by norm_num [Layout.choiceAt?, Row.holds]⟩
  obtain ⟨hopen, hother⟩ := pointer_as_keys hbuilt [(6, .key .down)]
  obtain ⟨node, hnode, -, hkeys⟩ := (hopen hf 6 25).1 layout hlayout 0 hout
  have hcount : (((0 : Nat) : Int) - m.cursor.selected) % node.choices.length = 1 := by
    have hhall : m.dialogue.node? m.cursor = some hallNode := by decide
    cases hnode.symm.trans hhall
    rw [hs]
    rfl
  have hmiss := (hopen hf 6 14).2 (.inl ⟨layout, hlayout, habove⟩) 2
  refine ⟨hbuilt, hf, hs, ?_, ?_, ?_, hmiss.2, hother 6 .right (by decide) 2 25⟩
  · rw [choiceAt?, hlayout]
    exact hout
  · rw [hcount] at hkeys
    exact hkeys
  · rw [choiceAt?, hlayout]
    exact habove

end Mode

end Colloquy.Play
