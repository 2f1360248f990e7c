import Colloquy.Proofs.Meeting
import Colloquy.Proofs.Play.Geometry
import Colloquy.Proofs.Play.Rows
import Colloquy.Proofs.Typeset.Cuts
import Colloquy.Typeset.Simple

/-!
# Rows tile the area of the choices

With exact numbers every place of a layout has a closed form (`Layout.Placed`).  Tops and
bottoms are computed apart, and yet a row ends where the next one starts.

From that alone, and rows that are not upside down (`Joined`), the choice at a height is
found: it is that of the first row which does not end above the height, unless the height
is above the first row or below the last one (`Layout.Resolves`).  The rows above it are
not asked for their upper edges, since each starts where one that ends too early ends
(`Joined.find?_eq`).
-/

namespace Colloquy.Play

open Colloquy.Typeset

/-! ## Rows that meet -/

/-- Rows of which each ends where the next one starts, and none above its start. -/
structure Joined (rows : List (Row ℚ)) : Prop where
  /-- A row ends where the next one starts. -/
  meets : rows.IsChain fun r s => r.bottom = s.top
  /-- A row does not end above its start. -/
  upright : ∀ r ∈ rows, r.top ≤ r.bottom

namespace Joined

variable {r : Row ℚ} {rows : List (Row ℚ)} {y : ℚ}

theorem tail (h : Joined (r :: rows)) : Joined rows where
  meets := h.meets.tail
  upright := fun s hs => h.upright s (List.mem_cons_of_mem _ hs)

/-- The rows behind a row lie below it. -/
theorem pairwise (h : Joined rows) : rows.Pairwise fun r s => r.bottom ≤ s.top :=
  pairwise_of_meets h.meets h.upright

theorem head_top_le (h : Joined rows) : ∀ r ∈ rows.head?, ∀ s ∈ rows, r.top ≤ s.top := by
  intro r hr s hs
  obtain ⟨rows, rfl⟩ := List.head?_eq_some_iff.1 hr
  rcases List.mem_cons.1 hs with rfl | hs
  · exact le_refl _
  · have hbelow := (List.pairwise_cons.1 h.pairwise).1 s hs
    exact (h.upright r (List.mem_cons_self ..)).trans hbelow

theorem bottom_le_last (h : Joined rows) :
    ∀ s ∈ rows.getLast?, ∀ r ∈ rows, r.bottom ≤ s.bottom := by
  intro s hs r hr
  obtain ⟨front, rfl⟩ := List.getLast?_eq_some_iff.1 hs
  rcases List.mem_append.1 hr with hr | hr
  · have hbefore := (List.pairwise_append.1 h.pairwise).2.2 r hr s (List.mem_singleton_self s)
    exact hbefore.trans (h.upright s (by simp))
  · cases List.mem_singleton.1 hr
    exact le_refl _

/-- From the upper edge of the first row on, the row at a height is the first one that does
not end above it. -/
theorem find?_eq (h : Joined rows) (hy : ∀ r ∈ rows.head?, r.top ≤ y) :
    rows.find? (fun r => r.holds y) = rows.find? fun r => y ≤ r.bottom := by
  induction rows with
  | nil => rfl
  | cons r rows ih =>
      have hr : r.top ≤ y := hy r rfl
      by_cases hb : y ≤ r.bottom
      · have hholds : r.holds y = true := Layout.holds_iff.2 ⟨hr, hb⟩
        simp only [List.find?_cons, hholds, hb, decide_true]
      · have hmisses : r.holds y = false := by
          rw [← Bool.not_eq_true, Layout.holds_iff]
          exact fun hh => hb hh.2
        simp only [List.find?_cons, hmisses, hb, decide_false]
        refine ih h.tail fun s hs => ?_
        -- the next row starts where this one ends, and that is above the height
        obtain ⟨rest, rfl⟩ := List.head?_eq_some_iff.1 hs
        rw [← (List.isChain_cons_cons.1 h.meets).1]
        exact (lt_of_not_ge hb).le

theorem head_top_le_of_holds (h : Joined rows) (hr : r ∈ rows) (hy : r.holds y = true) :
    ∀ s ∈ rows.head?, s.top ≤ y := fun s hs =>
  (h.head_top_le s hs r hr).trans (Layout.holds_iff.1 hy).1

/-- There is no row at a height above the first one or below the last one. -/
theorem find?_eq_none_iff (h : Joined rows) :
    rows.find? (fun r => r.holds y) = none ↔
      rows = [] ∨ (∃ r ∈ rows.head?, y < r.top) ∨ ∃ r ∈ rows.getLast?, r.bottom < y := by
  constructor
  · intro hnone
    by_cases hne : rows = []
    · exact .inl hne
    refine .inr (or_iff_not_imp_left.2 fun habove => ?_)
    have hy : ∀ r ∈ rows.head?, r.top ≤ y := fun r hr => not_lt.1 fun hlt => habove ⟨r, hr, hlt⟩
    rw [h.find?_eq hy, List.find?_eq_none] at hnone
    have hlast := List.getLast?_eq_some_getLast hne
    exact ⟨_, hlast, by simpa using hnone _ (List.getLast_mem hne)⟩
  · intro hout
    rw [List.find?_eq_none]
    intro s hs hholds
    obtain ⟨htop, hbottom⟩ := Layout.holds_iff.1 hholds
    rcases hout with rfl | ⟨r, hr, hlt⟩ | ⟨r, hr, hlt⟩
    · cases hs
    · exact absurd (h.head_top_le r hr s hs) (by linarith)
    · exact absurd (h.bottom_le_last r hr s hs) (by linarith)

end Joined

/-! ## What is at a height -/

namespace Layout

/-- The layout has an answer for every height. -/
structure Resolves (l : Layout ℚ) : Prop where
  /-- There is no choice above the rows or below them, and there is one everywhere else. -/
  none_iff : ∀ y, l.choiceAt? y = none ↔
    l.rows = [] ∨ (∃ r ∈ l.rows.head?, y < r.top) ∨ ∃ r ∈ l.rows.getLast?, r.bottom < y
  /-- From the first row on, the choice is the least one whose row does not end above the
  height. -/
  some_iff : ∀ (y : ℚ) (i : Nat), l.choiceAt? y = some i ↔
    (∀ r ∈ l.rows.head?, r.top ≤ y) ∧ ∃ r, l.rows[i]? = some r ∧ y ≤ r.bottom ∧
      ∀ j < i, ∀ s : Row ℚ, l.rows[j]? = some s → s.bottom < y
  /-- Further down the choice is no earlier one. -/
  mono : ∀ y y' i i', y ≤ y' → l.choiceAt? y = some i → l.choiceAt? y' = some i' → i ≤ i'
  /-- A row ends before those behind it start. -/
  apart : l.rows.Pairwise fun r s => r.bottom ≤ s.top

variable {l : Layout ℚ}

theorem choiceAt?_eq_some_iff (h : Joined l.rows)
    (hindex : ∀ (i : Nat) (r : Row ℚ), l.rows[i]? = some r → r.index = i) (y : ℚ) (i : Nat) :
    l.choiceAt? y = some i ↔
      (∀ r ∈ l.rows.head?, r.top ≤ y) ∧ ∃ r, l.rows[i]? = some r ∧ y ≤ r.bottom ∧
        ∀ j < i, ∀ s : Row ℚ, l.rows[j]? = some s → s.bottom < y := by
  rw [choiceAt?, Option.map_eq_some_iff]
  constructor
  · rintro ⟨r, hr, rfl⟩
    have hy := h.head_top_le_of_holds (List.mem_of_find?_eq_some hr)
      (by simpa using List.find?_some hr)
    rw [h.find?_eq hy, List.find?_eq_some_iff_getElem] at hr
    obtain ⟨hb, k, hk, rfl, hbefore⟩ := hr
    have hget : l.rows[k]? = some l.rows[k] := List.getElem?_eq_getElem hk
    rw [hindex k _ hget]
    refine ⟨hy, _, hget, by simpa using hb, fun j hj s hs => ?_⟩
    obtain ⟨_, rfl⟩ := List.getElem?_eq_some_iff.1 hs
    simpa using hbefore j hj
  · rintro ⟨hy, r, hr, hb, hbefore⟩
    refine ⟨r, ?_, hindex i r hr⟩
    obtain ⟨hi, hget⟩ := List.getElem?_eq_some_iff.1 hr
    rw [h.find?_eq hy, List.find?_eq_some_iff_getElem]
    refine ⟨by simpa using hb, i, hi, hget, fun j hj => ?_⟩
    have hlt := hbefore j hj _ (List.getElem?_eq_getElem (hj.trans hi))
    simpa using hlt

theorem resolves_of_joined (h : Joined l.rows)
    (hindex : ∀ (i : Nat) (r : Row ℚ), l.rows[i]? = some r → r.index = i) : l.Resolves where
  none_iff := fun y => by rw [choiceAt?, Option.map_eq_none_iff, h.find?_eq_none_iff]
  some_iff := choiceAt?_eq_some_iff h hindex
  mono := by
    intro y y' i i' hle hi hi'
    obtain ⟨-, r, -, -, hbefore⟩ := (choiceAt?_eq_some_iff h hindex y i).1 hi
    obtain ⟨-, r', hr', hb', -⟩ := (choiceAt?_eq_some_iff h hindex y' i').1 hi'
    by_contra hlt
    have hends := hbefore i' (not_le.1 hlt) r' hr'
    linarith
  apart := h.pairwise

/-! ## Where everything is -/

/-- The places of a layout, from those of its first line on. -/
structure Placed (m : Metrics ℚ) (l : Layout ℚ) : Prop where
  /-- The lines of the body are a line height apart. -/
  body : ∀ (k : Nat) (line : Line ℚ), l.body[k]? = some line →
    line.baseline = m.startY + k * m.lineHeight
  /-- A row has the index it stands at. -/
  index : ∀ (i : Nat) (r : Row ℚ), l.rows[i]? = some r → r.index = i
  /-- A row has a line. -/
  lines_ne_nil : ∀ r ∈ l.rows, r.lines ≠ []
  /-- A row starts half a line above its first one, with all lines before it and the gap
  above that. -/
  top : ∀ (i : Nat) (r : Row ℚ), l.rows[i]? = some r →
    r.top = m.startY +
      (l.body.length + ((l.rows.take i).map fun s => s.lines.length).sum - 1 / 2) * m.lineHeight +
        m.choiceGap
  /-- The lines of a row are a line height apart, from half a line below its top on. -/
  baseline : ∀ r ∈ l.rows, ∀ (k : Nat) (line : Line ℚ), r.lines[k]? = some line →
    line.baseline = r.top + (k + 1 / 2) * m.lineHeight
  /-- A row is as high as its lines. -/
  bottom : ∀ r ∈ l.rows, r.bottom = r.top + r.lines.length * m.lineHeight
  /-- A row ends where the next one starts. -/
  meets : ∀ (i : Nat) (r s : Row ℚ), l.rows[i]? = some r → l.rows[i + 1]? = some s →
    r.bottom = s.top

end Layout

/-! ## Lines and rows by their places -/

theorem getElem?_stack (x lineHeight baseline : ℚ) (texts : List String) (k : Nat) :
    (stack x lineHeight baseline texts)[k]? =
      texts[k]?.map fun text => ⟨text, x, baseline + k * lineHeight⟩ := by
  induction texts generalizing baseline k with
  | nil => rfl
  | cons text texts ih =>
      cases k with
      | zero => simp [stack]
      | succ k =>
          rw [stack, List.getElem?_cons_succ, List.getElem?_cons_succ, ih]
          congr 1
          funext text'
          congr 1
          push_cast
          ring

namespace Layout

variable (m : Metrics ℚ)

/-- The lines of the first rows are those of the first labels. -/
theorem sum_take_rowsFrom (index : Nat) (baseline : ℚ) (labels : List (List String)) (k : Nat) :
    (((rowsFrom m index baseline labels).take k).map fun r => r.lines.length).sum =
      lineCount (labels.take k) := by
  have hlines := congrArg (List.map List.length) (map_lines_rowsFrom m index baseline labels)
  rw [List.map_map] at hlines
  rw [lineCount, List.map_take, List.map_take, ← hlines]
  simp [Function.comp_def]

end Layout

theorem wrapPieces_ne_nil {α : Type u} [Zero α] [Add α] [LE α] [DecidableLE α]
    (shaper : Shaper α) (width : α) {ps : List (List Char)} (hp : ps ≠ []) :
    wrapPieces shaper width ps ≠ [] := by
  obtain ⟨p, ps, rfl⟩ := List.exists_cons_of_ne_nil hp
  have hlines := List.ne_nil_of_length_pos
    (length_wrapParagraph_pos p (shaper (String.ofList p)) width)
  by_cases hps : ps = []
  · rw [hps]
    exact hlines
  · rw [wrapPieces_cons shaper width p hps]
    exact List.append_ne_nil_of_left_ne_nil hlines _

/-- A text has a line. -/
theorem wrap_ne_nil {α : Type u} [Zero α] [Add α] [LE α] [DecidableLE α] (shaper : Shaper α)
    (text : String) (width : α) : shaper.wrap text width ≠ [] := by
  rw [Shaper.wrap, Ne, List.map_eq_nil_iff]
  exact wrapPieces_ne_nil shaper width (Text.pieces_ne_nil _)

/-! ## The layout of a node -/

section Node

variable (node : Script.Node) (shaper : Shaper ℚ) (m : Metrics ℚ) (viewport : Nat)
  (rules : Dialogue.Gating) (hasKey : Bool)

/-- The labels of a node, as the lines they are wrapped to. -/
def labelsOf : List (List String) :=
  node.choices.map fun c => shaper.wrap (rules.shown hasKey c.label) (m.choiceWidth viewport)

/-- A row of a node is that of its label, as far down as there are lines before it. -/
theorem exists_row_of_getElem? {i : Nat} {r : Row ℚ}
    (h : (Layout.ofNode node shaper m viewport rules hasKey).rows[i]? = some r) :
    ∃ texts, (labelsOf node shaper m viewport rules hasKey)[i]? = some texts ∧
      r = Layout.row m i (m.startY +
        ((shaper.wrap node.text (m.bodyWidth viewport)).length +
          lineCount ((labelsOf node shaper m viewport rules hasKey).take i)) * m.lineHeight +
        m.choiceGap) texts := by
  simp only [Layout.ofNode, Layout.getElem?_rowsFrom, below_eq, Nat.zero_add] at h
  obtain ⟨texts, ht, rfl⟩ := Option.map_eq_some_iff.1 h
  refine ⟨texts, ht, ?_⟩
  congr 1
  simp only [labelsOf]
  ring

theorem placed_ofNode : (Layout.ofNode node shaper m viewport rules hasKey).Placed m where
  body := by
    intro k line h
    simp only [Layout.ofNode, getElem?_stack] at h
    obtain ⟨text, _, rfl⟩ := Option.map_eq_some_iff.1 h
    rfl
  index := by
    intro i r h
    obtain ⟨texts, _, rfl⟩ := exists_row_of_getElem? node shaper m viewport rules hasKey h
    rfl
  lines_ne_nil := by
    intro r h
    obtain ⟨i, hi⟩ := List.mem_iff_getElem?.1 h
    obtain ⟨texts, ht, rfl⟩ := exists_row_of_getElem? node shaper m viewport rules hasKey hi
    obtain ⟨c, _, rfl⟩ := List.mem_map.1 (List.mem_of_getElem? ht)
    rw [Layout.row, ← List.length_pos_iff, length_stack, List.length_pos_iff]
    exact wrap_ne_nil shaper _ _
  top := by
    intro i r h
    obtain ⟨texts, _, rfl⟩ := exists_row_of_getElem? node shaper m viewport rules hasKey h
    have hbody : (Layout.ofNode node shaper m viewport rules hasKey).body.length =
        (shaper.wrap node.text (m.bodyWidth viewport)).length := length_stack ..
    have hrows : (((Layout.ofNode node shaper m viewport rules hasKey).rows.take i).map
        fun s => s.lines.length).sum =
        lineCount ((labelsOf node shaper m viewport rules hasKey).take i) :=
      Layout.sum_take_rowsFrom ..
    rw [hbody, hrows, Layout.top_row]
    ring
  baseline := by
    intro r h k line hline
    obtain ⟨i, hi⟩ := List.mem_iff_getElem?.1 h
    obtain ⟨texts, _, rfl⟩ := exists_row_of_getElem? node shaper m viewport rules hasKey hi
    rw [Layout.row, getElem?_stack] at hline
    obtain ⟨text, _, rfl⟩ := Option.map_eq_some_iff.1 hline
    rw [Layout.top_row]
    ring
  bottom := by
    intro r h
    obtain ⟨i, hi⟩ := List.mem_iff_getElem?.1 h
    obtain ⟨texts, _, rfl⟩ := exists_row_of_getElem? node shaper m viewport rules hasKey hi
    rw [Layout.bottom_row, Layout.top_row, Layout.row, length_stack]
    ring
  meets := by
    intro i r s hr hs
    obtain ⟨texts, ht, rfl⟩ := exists_row_of_getElem? node shaper m viewport rules hasKey hr
    obtain ⟨texts', _, rfl⟩ := exists_row_of_getElem? node shaper m viewport rules hasKey hs
    rw [Layout.bottom_row, Layout.top_row, lineCount_take_succ ht]
    push_cast
    ring

end Node

theorem Layout.Placed.joined {m : Metrics ℚ} {l : Layout ℚ} (h : l.Placed m)
    (hl : 0 ≤ m.lineHeight) : Joined l.rows where
  meets := by
    rw [List.isChain_iff_getElem]
    intro i hi
    exact h.meets i _ _ (List.getElem?_eq_getElem (by omega)) (List.getElem?_eq_getElem hi)
  upright := by
    intro r hr
    rw [h.bottom r hr]
    have hlines : (0 : ℚ) ≤ r.lines.length := Nat.cast_nonneg _
    nlinarith

/-- A node is laid out with a row for each choice and a line for each line its texts are
wrapped to, all of them at the places they should be.  Where lines go down there is an
answer to what is at a height. -/
theorem ofNode_tiles (node : Script.Node) (shaper : Shaper ℚ) (m : Metrics ℚ) (viewport : Nat)
    (rules : Dialogue.Gating) (hasKey : Bool) :
    let l := Layout.ofNode node shaper m viewport rules hasKey
    l.rows.length = node.choices.length ∧
      l.body.map Line.text = shaper.wrap node.text (m.bodyWidth viewport) ∧
      (l.rows.map fun r => r.lines.map Line.text) = node.choices.map (fun c =>
        shaper.wrap (rules.shown hasKey c.label) (m.choiceWidth viewport)) ∧
      l.Placed m ∧ (0 < m.lineHeight → l.Resolves) := by
  intro l
  have htexts : (l.rows.map fun r => r.lines.map Line.text) =
      labelsOf node shaper m viewport rules hasKey := Layout.map_lines_ofNode ..
  have hcount : l.rows.length = node.choices.length := Layout.length_rows_ofNode ..
  have hplaced : l.Placed m := placed_ofNode node shaper m viewport rules hasKey
  exact ⟨hcount, map_text_stack .., htexts, hplaced,
    fun hl => Layout.resolves_of_joined (hplaced.joined hl.le) hplaced.index⟩

/-- A lighthouse with a locked room and a way down that takes three lines. -/
def lighthouse : Script.Node :=
  ⟨"lighthouse", "The lamp is out.\n\nWind.",
    [⟨"[LOCKED]To the lamp", "lamp"⟩, ⟨"Down the steep stairs", "shore"⟩,
      ⟨"Wait", "lighthouse"⟩]⟩

/-- The lighthouse laid out for a player without the key, with letters all of one width and
a gap that is negative. -/
def lighthouseLayout : Layout ℚ :=
  Layout.ofNode lighthouse (perChar (fun _ => 1) (· == ' ')) ⟨1, 1, 10, 5 / 2, -3, 1⟩ 12 {} false

theorem ofNode_tiles_lighthouse :
    (0 : ℚ) < 5 / 2 ∧ lighthouseLayout.Placed ⟨1, 1, 10, 5 / 2, -3, 1⟩ ∧
      lighthouseLayout.Resolves ∧
      [18, 73 / 4, 83 / 4, 21, 113 / 4, 29, 31].map lighthouseLayout.choiceAt? =
        [none, some 0, some 0, some 1, some 1, some 2, none] := by
  have hl : (0 : ℚ) < 5 / 2 := by norm_num
  obtain ⟨-, -, -, hplaced, hresolves⟩ := ofNode_tiles lighthouse
    (perChar (fun _ => 1) (· == ' ')) ⟨1, 1, 10, 5 / 2, -3, 1⟩ 12 {} false
  exact ⟨hl, hplaced, hresolves hl, by cbv⟩

end Colloquy.Play
