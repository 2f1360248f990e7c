import Colloquy.Proofs.Play.Rows
import Colloquy.Proofs.Play.Watching
import Mathlib

/-!
# The parts of a frame

Every line of a frame belongs to the body or to the row of a choice (`Mode.Shows`).  A frame
draws these lines from top to bottom, each in the colour of its part, and leaves out those
without text.  Where there is no node there is the one line that says so (`Mode.picture`).

The picture that is drawn is that of the mode in the pass.  The whole of it is drawn where
nothing fails (`Mode.strokes_of_ok`).
-/

namespace Colloquy.Play

open Colloquy.Render Colloquy.Typeset

variable {S α : Type}

/-! ## Parts -/

/-- What a line of a frame belongs to. -/
inductive Part where
  /-- The message in place of a missing node. -/
  | message
  /-- The body. -/
  | body
  /-- The choice with an index. -/
  | choice (index : Nat)
deriving Repr, DecidableEq, Inhabited

/-- The colour of a part, given the selected choice. -/
def Part.color (palette : Palette) (selected : Nat) : Part → Rgb
  | message => palette.missing
  | body => palette.body
  | choice index => if index = selected then palette.selected else palette.choice

namespace Layout

/-- The lines of a layout from top to bottom, with what they belong to. -/
def parts (l : Layout α) : List (Part × Line α) :=
  l.body.map (fun line => (.body, line)) ++
    l.rows.zipIdx.flatMap fun (row, index) => row.lines.map fun line => (.choice index, line)

end Layout

namespace Mode

/-- The rows of a layout in their colours are those with a part for each row. -/
theorem flatMap_linesToDraw {palette : Palette} {selected : Nat} {rows : List (Row α)}
    (h : ∀ (index : Nat) (row : Row α), rows[index]? = some row → row.index = index) :
    (rows.flatMap fun row => linesToDraw (palette.ofChoice (row.index == selected)) row.lines) =
      rows.zipIdx.flatMap fun (row, index) =>
        linesToDraw ((Part.choice index).color palette selected) row.lines := by
  conv_lhs => rw [← List.zipIdx_map_fst 0 rows, List.flatMap_map]
  refine List.flatMap_congr fun x hx => ?_
  have hindex : x.1.index = x.2 := h x.2 x.1 (List.mem_zipIdx_iff_getElem?.1 hx)
  rw [hindex]
  by_cases he : x.2 = selected <;> simp [Part.color, Palette.ofChoice, he]

section Parts

variable [Surface S α] [Zero α] [Add α] [Sub α] [Mul α] [Div α] [NatCast α] [LE α] [DecidableLE α]

/-- The lines a frame shows in a viewport, with what they belong to. -/
inductive Shows (m : Mode S α) (viewport : Nat) : Part → Line α → Prop where
  /-- There is no node. -/
  | message : m.layout? viewport = none →
      Shows m viewport .message
        ⟨missingNodeMessage, m.settings.metrics.marginLeft, m.settings.metrics.startY⟩
  /-- A line of the body that is not empty. -/
  | body {layout : Layout α} {line : Line α} : m.layout? viewport = some layout →
      line ∈ layout.body → line.text ≠ "" → Shows m viewport .body line
  /-- A line of the row of a choice that is not empty. -/
  | choice {layout : Layout α} {index : Nat} {row : Row α} {line : Line α} :
      m.layout? viewport = some layout → layout.rows[index]? = some row → line ∈ row.lines →
      line.text ≠ "" → Shows m viewport (.choice index) line

/-- The lines a frame has in a viewport, with what they belong to. -/
def parts (m : Mode S α) (viewport : Nat) : List (Part × Line α) :=
  match m.layout? viewport with
  | none =>
      [(.message,
        ⟨missingNodeMessage, m.settings.metrics.marginLeft, m.settings.metrics.startY⟩)]
  | some layout => layout.parts

/-- The lines that are not empty. -/
def inked (m : Mode S α) (viewport : Nat) : List (Part × Line α) :=
  (m.parts viewport).filter fun piece => piece.2.text ≠ ""

/-- The lines that are not empty, in their colours. -/
def picture (m : Mode S α) (viewport : Nat) : List (Line α × Rgb) :=
  (m.inked viewport).map fun piece =>
    (piece.2, piece.1.color m.settings.palette m.cursor.selected)

/-- A row of a layout has the index it stands at. -/
theorem index_eq_of_layout? {m : Mode S α} {viewport index : Nat} {layout : Layout α}
    {row : Row α} (h : m.layout? viewport = some layout) (hrow : layout.rows[index]? = some row) :
    row.index = index := by
  obtain ⟨node, _, rfl⟩ := Option.map_eq_some_iff.1 h
  have hindex := congrArg (fun l => l[index]?) (Layout.map_index_ofNode node
    (Surface.shaper m.surface) m.settings.metrics viewport m.settings.gating m.cursor.key)
  simp only [List.getElem?_map, hrow, Option.map_some] at hindex
  obtain ⟨_, he⟩ := List.getElem?_eq_some_iff.1 hindex.symm
  rw [← he, List.getElem_range]

/-- A frame draws its picture. -/
theorem frame_eq_picture (m : Mode S α) (viewport : Nat) :
    m.frame viewport = m.picture viewport := by
  have hlines : ∀ (part : Part) (lines : List (Line α)),
      (((lines.map fun line => (part, line)).filter fun piece => piece.2.text ≠ "").map fun piece =>
        (piece.2, piece.1.color m.settings.palette m.cursor.selected)) =
      linesToDraw (part.color m.settings.palette m.cursor.selected) lines := by
    intro part lines
    rw [List.filter_map, List.map_map]
    rfl
  rw [frame, picture, inked, parts]
  cases hlayout : m.layout? viewport with
  | none => rfl
  | some layout =>
      simp only [Layout.parts, List.filter_append, List.map_append, List.filter_flatMap,
        List.map_flatMap, hlines]
      rw [flatMap_linesToDraw fun index row => index_eq_of_layout? hlayout]
      rfl

/-- The lines that are not empty are the ones that are shown. -/
theorem mem_inked_iff {m : Mode S α} {viewport : Nat} {part : Part} {line : Line α} :
    (part, line) ∈ m.inked viewport ↔ m.Shows viewport part line := by
  rw [inked, List.mem_filter, parts, decide_eq_true_iff]
  constructor
  · rintro ⟨hpart, htext⟩
    cases hlayout : m.layout? viewport with
    | none =>
        rw [hlayout] at hpart
        cases List.mem_singleton.1 hpart
        exact .message hlayout
    | some layout =>
        rw [hlayout] at hpart
        rcases List.mem_append.1 hpart with hpart | hpart
        · obtain ⟨line', hline, he⟩ := List.mem_map.1 hpart
          cases he
          exact .body hlayout hline htext
        · obtain ⟨⟨row, index⟩, hrow, hpart⟩ := List.mem_flatMap.1 hpart
          obtain ⟨line', hline, he⟩ := List.mem_map.1 hpart
          cases he
          exact .choice hlayout (List.mem_zipIdx_iff_getElem?.1 hrow) hline htext
  · intro h
    cases h with
    | message hlayout =>
        rw [hlayout]
        exact ⟨List.mem_singleton_self _, (by decide : missingNodeMessage ≠ "")⟩
    | body hlayout hline htext =>
        rw [hlayout]
        exact ⟨List.mem_append_left _ (List.mem_map_of_mem hline), htext⟩
    | @choice layout index row line hlayout hrow hline htext =>
        rw [hlayout]
        refine ⟨List.mem_append_right _ (List.mem_flatMap.2 ⟨(row, index), ?_, ?_⟩), htext⟩
        · exact List.mem_zipIdx_iff_getElem?.2 hrow
        · exact List.mem_map_of_mem hline

/-- A picture depends on the settings, the dialogue, the cursor and how text is shaped. -/
theorem picture_congr {m m' : Mode S α} (hs : m'.settings = m.settings)
    (hd : m'.dialogue = m.dialogue) (hc : m'.cursor = m.cursor)
    (hshaper : Surface.shaper m'.surface = Surface.shaper m.surface) (viewport : Nat) :
    m'.picture viewport = m.picture viewport := by
  rw [picture, picture, inked, inked, parts, parts, layout?_congr hs hd hc hshaper, hs, hc]

/-! ## What is drawn of it -/

/-- A line that drawing asks for belongs to a part of the frame in the pass. -/
theorem exists_part_of_mem_strokes {m : Mode S α} {width height : Nat} {text : String}
    {x baseline : α} {color : Rgb} (h : .text text x baseline color ∈ m.strokes width height) :
    ∃ part, (m.inPass width height).Shows width part ⟨text, x, baseline⟩ := by
  have hframe := mem_frame_of_mem_strokes h
  rw [frame_eq_picture] at hframe
  obtain ⟨⟨part, line⟩, hpiece, he⟩ := List.mem_map.1 hframe
  cases he
  exact ⟨part, mem_inked_iff.1 hpiece⟩

/-- Where drawing does not fail it asks for the whole picture. -/
theorem strokes_of_ok {m : Mode S α} {width height : Nat}
    (h : (m.draw width height).value.1 = .ok ()) :
    m.strokes width height = .clear m.settings.palette.clear :: .start width height ::
      (((m.inPass width height).picture width).map textStroke ++ [.finish]) := by
  cases hstart : (Surface.start (Surface.clear m.surface m.settings.palette.clear).value width
      height).value with
  | mk answer s =>
      cases answer with
      | error fault =>
          rw [(strokes_of_error hstart).2] at h
          cases h
      | ok =>
          obtain ⟨sent, answer, s', hup, hstrokes, hanswer, -⟩ := exists_strokes_of_ok hstart
          have hok : answer = .ok () := by
            cases answer with
            | error fault =>
                rw [hanswer] at h
                cases h
            | ok => rfl
          rw [hstrokes, hup.eq_of_ok hok, inPass, hstart, ← frame_eq_picture]
          rfl

section Steady

variable [Steady S]

theorem shows_inPass {m : Mode S α} {width height viewport : Nat} {part : Part} {line : Line α} :
    (m.inPass width height).Shows viewport part line ↔ m.Shows viewport part line := by
  rw [← mem_inked_iff, ← mem_inked_iff, inked, inked, parts, parts, layout?_inPass]
  rfl

theorem picture_inPass (m : Mode S α) (width height viewport : Nat) :
    (m.inPass width height).picture viewport = m.picture viewport := by
  apply picture_congr
  · rfl
  · rfl
  · rfl
  · exact shaper_start m.surface m.settings.palette.clear width height

end Steady

end Parts

end Mode

end Colloquy.Play
