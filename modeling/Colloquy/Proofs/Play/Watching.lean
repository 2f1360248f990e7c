import Colloquy.Play.Mode

/-!
# What a frame asks of a surface

Drawing goes on as long as the surface answers that it can.  There are four
cases, a line that is drawn or fails and a pass that starts or does not, and
whatever is said of drawing is said by these.

A *watched* surface is any surface with a record of what was asked of it.  It
does what the surface does, so a frame comes out on it as on the surface itself,
and `Mode.strokes` is what the frame asks for (`Mode.value_draw_watched`).  A frame is
laid out in its pass (`Mode.inPass`).

Lines are drawn in order up to the first that fails (`UpToFault`).

A surface is steady when drawing does not change how it shapes text.  Recorders
and engines are.  An engine keeps its font while it caches glyphs.
-/

namespace Colloquy.Play

open Colloquy.Render Colloquy.Typeset

variable {S α : Type}

/-! ## How a frame is drawn -/

namespace Mode

section Draw

variable [Surface S α]

/-- Drawing stops at a line that fails. -/
theorem value_drawLines_of_error {s s' : S} {line : Line α × Rgb} {fault : Typeset.Fault}
    (lines : List (Line α × Rgb))
    (h : (Surface.drawText s line.1.text line.1.x line.1.baseline line.2).value =
      (.error fault, s')) :
    (drawLines s (line :: lines)).value = (.error fault, s') := by
  rw [drawLines, Logged.value_bind, h]
  rfl

/-- Behind a line that is drawn the others are. -/
theorem value_drawLines_of_ok {s s' : S} {line : Line α × Rgb} (lines : List (Line α × Rgb))
    (h : (Surface.drawText s line.1.text line.1.x line.1.baseline line.2).value =
      (.ok (), s')) :
    (drawLines s (line :: lines)).value = (drawLines s' lines).value := by
  rw [drawLines, Logged.value_bind, h]

/-- A frame whose pass does not start is given up. -/
theorem value_drawFrame_of_error {s s' : S} {clear : Rgba} {width height : Nat}
    {fault : Typeset.Fault} (lines : S → List (Line α × Rgb))
    (h : (Surface.start (Surface.clear s clear).value width height).value = (.error fault, s')) :
    (drawFrame s clear width height lines).value = (.error fault, s') := by
  rw [drawFrame, Logged.value_bind, Logged.value_bind, h]
  rfl

/-- The lines are drawn in the pass, which is ended whatever came of them. -/
theorem value_drawFrame_of_ok {s s' : S} {clear : Rgba} {width height : Nat}
    (lines : S → List (Line α × Rgb))
    (h : (Surface.start (Surface.clear s clear).value width height).value = (.ok (), s')) :
    (drawFrame s clear width height lines).value =
      ((drawLines s' (lines s')).value.1,
        (Surface.finish (drawLines s' (lines s')).value.2).value) := by
  rw [drawFrame, Logged.value_bind, Logged.value_bind, h]
  rfl

end Draw

end Mode

section UpToFault

variable [Surface S α]

/-- Lines drawn on a surface in order, up to the first that fails: those it is asked for, what
comes of them, and the surface behind them. -/
inductive UpToFault : S → List (Line α × Rgb) → List (Line α × Rgb) →
    Except Typeset.Fault Unit → S → Prop where
  /-- All lines are drawn. -/
  | all {s : S} : UpToFault s [] [] (.ok ()) s
  /-- A line fails, and the surface is asked for none behind it. -/
  | fails {s s' : S} {line : Line α × Rgb} {lines : List (Line α × Rgb)} {fault : Typeset.Fault} :
      (Surface.drawText s line.1.text line.1.x line.1.baseline line.2).value =
        (.error fault, s') →
      UpToFault s (line :: lines) [line] (.error fault) s'
  /-- A line is drawn, and the next ones follow. -/
  | drawn {s s' s'' : S} {line : Line α × Rgb} {lines sent : List (Line α × Rgb)}
      {answer : Except Typeset.Fault Unit} :
      (Surface.drawText s line.1.text line.1.x line.1.baseline line.2).value = (.ok (), s') →
      UpToFault s' lines sent answer s'' → UpToFault s (line :: lines) (line :: sent) answer s''

variable {s s' : S} {lines sent : List (Line α × Rgb)} {answer : Except Typeset.Fault Unit}

theorem UpToFault.isPrefix (h : UpToFault s lines sent answer s') : sent <+: lines := by
  induction h with
  | all => exact List.nil_prefix
  | fails _ => exact List.prefix_append [_] _
  | drawn _ _ ih => exact (List.prefix_cons_inj _).2 ih

/-- Where no line fails the surface is asked for all of them. -/
theorem UpToFault.eq_of_ok (h : UpToFault s lines sent answer s') (hok : answer = .ok ()) :
    sent = lines := by
  induction h with
  | all => rfl
  | fails _ => cases hok
  | drawn _ _ ih => rw [ih hok]

end UpToFault

/-! ## Watched surfaces -/

/-- A surface with a record of what was asked of it. -/
structure Watched (S α : Type) where
  /-- The surface. -/
  surface : S
  /-- What was asked of it. -/
  strokes : List (Stroke α) := []

instance [Surface S α] : Surface (Watched S α) α where
  shaper w := Surface.shaper w.surface
  clear w color := do
    let surface ← Surface.clear w.surface color
    pure ⟨surface, w.strokes ++ [.clear color]⟩
  start w width height := do
    let (answer, surface) ← Surface.start w.surface width height
    pure (answer, ⟨surface, w.strokes ++ [.start width height]⟩)
  drawText w text x baseline color := do
    let (answer, surface) ← Surface.drawText w.surface text x baseline color
    pure (answer, ⟨surface, w.strokes ++ [.text text x baseline color]⟩)
  finish w := do
    let surface ← Surface.finish w.surface
    pure ⟨surface, w.strokes ++ [.finish]⟩

/-- What is asked of a surface to draw a line in a colour. -/
def textStroke (line : Line α × Rgb) : Stroke α :=
  .text line.1.text line.1.x line.1.baseline line.2

namespace Watched

section Surface

variable [Surface S α]

theorem value_clear (w : Watched S α) (color : Rgba) : (Surface.clear w color).value =
    ⟨(Surface.clear w.surface color).value, w.strokes ++ [.clear color]⟩ := rfl

theorem value_start {w : Watched S α} {width height : Nat} {answer : Except Typeset.Fault Unit}
    {s : S} (h : (Surface.start w.surface width height).value = (answer, s)) :
    (Surface.start w width height).value =
      (answer, ⟨s, w.strokes ++ [.start width height]⟩) := by
  simp only [Surface.start, Logged.value_bind, h, Logged.value_pure]

theorem value_drawText {w : Watched S α} {line : Line α × Rgb}
    {answer : Except Typeset.Fault Unit} {s : S}
    (h : (Surface.drawText w.surface line.1.text line.1.x line.1.baseline line.2).value =
      (answer, s)) :
    (Surface.drawText w line.1.text line.1.x line.1.baseline line.2).value =
      (answer, ⟨s, w.strokes ++ [textStroke line]⟩) := by
  simp only [Surface.drawText, Logged.value_bind, h, Logged.value_pure, textStroke]

/-- Lines come out on a watched surface as on the surface itself, and are asked
for in order, up to the first that fails. -/
theorem exists_value_drawLines (lines : List (Line α × Rgb)) : ∀ w : Watched S α,
    ∃ sent answer s, UpToFault w.surface lines sent answer s ∧
      (Mode.drawLines w.surface lines).value = (answer, s) ∧
      (Mode.drawLines w lines).value = (answer, ⟨s, w.strokes ++ sent.map textStroke⟩) := by
  induction lines with
  | nil =>
      intro w
      exact ⟨[], .ok (), w.surface, .all, rfl, by simp [Mode.drawLines]⟩
  | cons line lines ih =>
      intro w
      cases hdraw : (Surface.drawText w.surface line.1.text line.1.x line.1.baseline
          line.2).value with
      | mk answer s =>
          have hwatch := value_drawText hdraw
          cases answer with
          | error fault =>
              exact ⟨[line], .error fault, s, .fails hdraw,
                Mode.value_drawLines_of_error lines hdraw,
                Mode.value_drawLines_of_error lines hwatch⟩
          | ok =>
              obtain ⟨sent, answer, s', hup, hinner, hsent⟩ :=
                ih ⟨s, w.strokes ++ [textStroke line]⟩
              refine ⟨line :: sent, answer, s', .drawn hdraw hup, ?_, ?_⟩
              · rw [Mode.value_drawLines_of_ok lines hdraw, hinner]
              · rw [Mode.value_drawLines_of_ok lines hwatch, hsent]
                simp

/-- A frame whose pass does not start asks for nothing else. -/
theorem value_drawFrame_of_error {w : Watched S α} {clear : Rgba} {width height : Nat}
    {fault : Typeset.Fault} {s : S} (lines : Watched S α → List (Line α × Rgb))
    (h : (Surface.start (Surface.clear w.surface clear).value width height).value =
      (.error fault, s)) :
    (Mode.drawFrame w clear width height lines).value =
      (.error fault, ⟨s, w.strokes ++ [.clear clear, .start width height]⟩) := by
  have hwatch := value_start (w := (Surface.clear w clear).value) h
  rw [Mode.value_drawFrame_of_error lines hwatch, value_clear, List.append_assoc]
  rfl

/-- Once its pass is started a frame asks for the lines of the surface in the pass, in order, up
to the first that fails, and then to end the pass. -/
theorem exists_value_drawFrame_of_ok {w : Watched S α} {clear : Rgba} {width height : Nat}
    {s : S} (lines : S → List (Line α × Rgb))
    (h : (Surface.start (Surface.clear w.surface clear).value width height).value = (.ok (), s)) :
    ∃ sent answer s', UpToFault s (lines s) sent answer s' ∧
      (Mode.drawFrame w.surface clear width height lines).value =
        (answer, (Surface.finish s').value) ∧
      (Mode.drawFrame w clear width height fun w' => lines w'.surface).value =
        (answer, ⟨(Surface.finish s').value,
          w.strokes ++ .clear clear :: .start width height ::
            (sent.map textStroke ++ [.finish])⟩) := by
  have hwatch := value_start (w := (Surface.clear w clear).value) h
  rw [value_clear] at hwatch
  obtain ⟨sent, answer, s', hup, hinner, hsent⟩ := exists_value_drawLines (lines s)
    ⟨s, w.strokes ++ [.clear clear] ++ [.start width height]⟩
  refine ⟨sent, answer, s', hup, ?_, ?_⟩
  · rw [Mode.value_drawFrame_of_ok lines h, hinner]
  · rw [Mode.value_drawFrame_of_ok _ (by rw [value_clear]; exact hwatch), hsent]
    simp [Surface.finish]

/-- A frame comes out on a watched surface as on the surface itself. -/
theorem value_drawFrame (w : Watched S α) (clear : Rgba) (width height : Nat)
    (lines : S → List (Line α × Rgb)) :
    (Mode.drawFrame w.surface clear width height lines).value =
      ((Mode.drawFrame w clear width height fun w' => lines w'.surface).value.1,
        (Mode.drawFrame w clear width height fun w' => lines w'.surface).value.2.surface) := by
  cases hstart : (Surface.start (Surface.clear w.surface clear).value width height).value with
  | mk answer s =>
      cases answer with
      | error fault =>
          rw [value_drawFrame_of_error _ hstart, Mode.value_drawFrame_of_error lines hstart]
      | ok =>
          obtain ⟨sent, answer, s', -, hinner, hframe⟩ :=
            exists_value_drawFrame_of_ok lines hstart
          rw [hframe, hinner]

end Surface

end Watched

namespace Mode

/-- A play mode whose surface is watched from now on. -/
def watched (m : Mode S α) : Mode (Watched S α) α :=
  { settings := m.settings, surface := ⟨m.surface, []⟩, dialogue := m.dialogue, cursor := m.cursor,
    scene := m.scene, samples := m.samples, holdsPointer := m.holdsPointer }

/-- A play mode with its surface in the pass of a frame, where the frame is laid out. -/
def inPass [Surface S α] (m : Mode S α) (width height : Nat) : Mode S α :=
  { m with surface := (Surface.start (Surface.clear m.surface m.settings.palette.clear).value
      width height).value.2 }

section Frame

variable [Surface S α] [Zero α] [Add α] [Sub α] [Mul α] [Div α] [NatCast α] [LE α] [DecidableLE α]

/-- What drawing a frame asks of the surface. -/
def strokes (m : Mode S α) (width height : Nat) : List (Stroke α) :=
  (m.watched.draw width height).value.2.surface.strokes

theorem value_draw (m : Mode S α) (width height : Nat) : (m.draw width height).value =
    ((drawFrame m.surface m.settings.palette.clear width height (m.frameOn width)).value.1.mapError
        Fault.text,
      { m with
        scene := (fitScene m.scene width height).value
        surface := (drawFrame m.surface m.settings.palette.clear width height
          (m.frameOn width)).value.2 }) := rfl

/-- A watched mode draws what the mode draws, and the strokes are what it asks for. -/
theorem value_draw_watched (m : Mode S α) (width height : Nat) :
    (m.watched.draw width height).value = ((m.draw width height).value.1,
      { (m.draw width height).value.2.watched with
        surface := ⟨(m.draw width height).value.2.surface, m.strokes width height⟩ }) := by
  have hframe := Watched.value_drawFrame m.watched.surface m.settings.palette.clear width height
    (m.frameOn width)
  rw [value_draw m, show drawFrame m.surface = drawFrame m.watched.surface.surface from rfl, hframe]
  rfl

/-- A pass that does not start is all that is asked for, and its fault is the answer. -/
theorem strokes_of_error {m : Mode S α} {width height : Nat} {fault : Typeset.Fault} {s : S}
    (h : (Surface.start (Surface.clear m.surface m.settings.palette.clear).value width
      height).value = (.error fault, s)) :
    m.strokes width height = [.clear m.settings.palette.clear, .start width height] ∧
      (m.draw width height).value.1 = .error (.text fault) := by
  constructor
  · rw [strokes, value_draw, Watched.value_drawFrame_of_error _ h]
    rfl
  · rw [value_draw, value_drawFrame_of_error _ h]
    rfl

/-- In a pass that starts the lines of the frame are drawn, up to the first that fails.  Then
the pass is ended, and what came of the lines is the answer. -/
theorem exists_strokes_of_ok {m : Mode S α} {width height : Nat} {s : S}
    (h : (Surface.start (Surface.clear m.surface m.settings.palette.clear).value width
      height).value = (.ok (), s)) :
    ∃ sent answer s', UpToFault s (m.frameOn width s) sent answer s' ∧
      m.strokes width height = .clear m.settings.palette.clear :: .start width height ::
        (sent.map textStroke ++ [.finish]) ∧
      (m.draw width height).value.1 = answer.mapError Fault.text ∧
      (m.draw width height).value.2.surface = (Surface.finish s').value := by
  obtain ⟨sent, answer, s', hup, hdrawn, hwatched⟩ :=
    Watched.exists_value_drawFrame_of_ok (w := m.watched.surface) (m.frameOn width) h
  refine ⟨sent, answer, s', hup, ?_, ?_, ?_⟩
  · exact congrArg (fun p => p.2.strokes) hwatched
  · exact congrArg (fun p => p.1.mapError Fault.text) hdrawn
  · exact congrArg Prod.snd hdrawn

/-- A line that drawing asks for is a line of the frame in the pass. -/
theorem mem_frame_of_mem_strokes {m : Mode S α} {width height : Nat} {text : String}
    {x baseline : α} {color : Rgb} (h : .text text x baseline color ∈ m.strokes width height) :
    (⟨text, x, baseline⟩, color) ∈ (m.inPass width height).frame width := by
  cases hstart : (Surface.start (Surface.clear m.surface m.settings.palette.clear).value width
      height).value with
  | mk answer s =>
      cases answer with
      | error fault =>
          rw [(strokes_of_error hstart).1] at h
          simp at h
      | ok =>
          obtain ⟨sent, answer, s', hup, hstrokes, -⟩ := exists_strokes_of_ok hstart
          rw [hstrokes] at h
          simp only [List.mem_cons, List.mem_append, List.mem_map, reduceCtorEq, false_or,
            List.not_mem_nil, or_false] at h
          obtain ⟨line, hline, he⟩ := h
          cases he
          rw [inPass, hstart]
          exact hup.isPrefix.subset hline

/-- A layout depends on the settings, the dialogue, the cursor and how text is
shaped. -/
theorem layout?_congr {m m' : Mode S α} (hs : m'.settings = m.settings)
    (hd : m'.dialogue = m.dialogue) (hc : m'.cursor = m.cursor)
    (hshaper : Surface.shaper m'.surface = Surface.shaper m.surface) (viewport : Nat) :
    m'.layout? viewport = m.layout? viewport := by
  rw [layout?, layout?, hs, hd, hc, hshaper]

end Frame

end Mode

/-! ## Steady surfaces -/

/-- A surface that shapes text the same way whatever is drawn on it. -/
class Steady (S : Type) {α : outParam Type} [Surface S α] : Prop where
  shaper_clear : ∀ (s : S) (color : Rgba),
    Surface.shaper (Surface.clear s color).value = Surface.shaper s
  shaper_start : ∀ (s : S) (width height : Nat),
    Surface.shaper (Surface.start s width height).value.2 = Surface.shaper s
  shaper_drawText : ∀ (s : S) (text : String) (x baseline : α) (color : Rgb),
    Surface.shaper (Surface.drawText s text x baseline color).value.2 = Surface.shaper s
  shaper_finish : ∀ s : S, Surface.shaper (Surface.finish s).value = Surface.shaper s

instance : Steady (Recorder α) where
  shaper_clear _ _ := rfl
  shaper_start r width height := by
    simp only [Surface.start]
    split
    · rfl
    · rfl
  shaper_drawText r text x baseline color := by
    simp only [Surface.drawText]
    split
    · rfl
    · rfl
  shaper_finish _ := rfl

/-- An engine shapes text with its font alone. -/
theorem shaper_eq_of_font {B : Type} [Backend B α] [Div α] [NatCast α] [IntCast α]
    {e e' : Engine B α} (h : e'.font.map FontInUse.font = e.font.map FontInUse.font) :
    e'.shaper = e.shaper := by
  funext text
  rw [Engine.shaper, Engine.shaper]
  cases hf : e.font with
  | none =>
      rw [hf, Option.map_none, Option.map_eq_none_iff] at h
      rw [h]
  | some font =>
      rw [hf, Option.map_some, Option.map_eq_some_iff] at h
      obtain ⟨font', hf', he⟩ := h
      simp only [hf', he]

instance {B : Type} [Backend B α] [Add α] [Sub α] [Div α] [NatCast α] [IntCast α] :
    Steady (Engine B α) where
  shaper_clear _ _ := rfl
  shaper_start e width height := by
    apply shaper_eq_of_font
    simp only [Surface.start, Engine.start]
    split
    · rfl
    · rfl
  shaper_drawText e text x baseline color := by
    apply shaper_eq_of_font
    simp only [Surface.drawText, Engine.drawText]
    cases hf : e.font with
    | none => simp [hf]
    | some font =>
        cases hb : e.buffer with
        | none => simp [hf]
        | some buffer => rfl
  shaper_finish e := by
    apply shaper_eq_of_font
    simp only [Surface.finish, Engine.finish]
    split
    · rfl
    · rfl

namespace Mode

section Steady

variable [Surface S α] [Steady S]

theorem shaper_drawLines (lines : List (Line α × Rgb)) :
    ∀ s : S, Surface.shaper (drawLines s lines).value.2 = Surface.shaper s := by
  induction lines with
  | nil => exact fun s => rfl
  | cons line lines ih =>
      intro s
      have hsteady := Steady.shaper_drawText s line.1.text line.1.x line.1.baseline line.2
      cases hdraw : (Surface.drawText s line.1.text line.1.x line.1.baseline line.2).value with
      | mk answer s' =>
          rw [hdraw] at hsteady
          cases answer with
          | error fault =>
              rw [value_drawLines_of_error lines hdraw]
              exact hsteady
          | ok =>
              rw [value_drawLines_of_ok lines hdraw, ih s']
              exact hsteady

/-- A pass shapes text as the surface does before it. -/
theorem shaper_start (s : S) (clear : Rgba) (width height : Nat) :
    Surface.shaper (Surface.start (Surface.clear s clear).value width height).value.2 =
      Surface.shaper s := by
  rw [Steady.shaper_start, Steady.shaper_clear]

theorem shaper_drawFrame (s : S) (clear : Rgba) (width height : Nat)
    (lines : S → List (Line α × Rgb)) :
    Surface.shaper (drawFrame s clear width height lines).value.2 = Surface.shaper s := by
  have hsteady := shaper_start s clear width height
  cases hstart : (Surface.start (Surface.clear s clear).value width height).value with
  | mk answer s' =>
      rw [hstart] at hsteady
      cases answer with
      | error fault =>
          rw [value_drawFrame_of_error lines hstart]
          exact hsteady
      | ok =>
          rw [value_drawFrame_of_ok lines hstart, Steady.shaper_finish, shaper_drawLines]
          exact hsteady

variable [Zero α] [Add α] [Sub α] [Mul α] [Div α] [NatCast α] [LE α] [DecidableLE α]

/-- A frame is laid out in its pass as before it. -/
theorem layout?_inPass (m : Mode S α) (width height viewport : Nat) :
    (m.inPass width height).layout? viewport = m.layout? viewport := by
  apply layout?_congr
  · rfl
  · rfl
  · rfl
  · exact shaper_start m.surface m.settings.palette.clear width height

/-- Drawing changes no layout. -/
theorem layout?_draw (m : Mode S α) (width height viewport : Nat) :
    (m.draw width height).value.2.layout? viewport = m.layout? viewport := by
  apply layout?_congr
  · rfl
  · rfl
  · rfl
  · exact shaper_drawFrame m.surface m.settings.palette.clear width height (m.frameOn width)

end Steady

end Mode

/-! ## Recorders without faults -/

/-- Whether a recorder is told to fail nowhere. -/
structure Recorder.Faultless (r : Recorder α) : Prop where
  start : r.startFault = none
  text : ∀ texts, r.textFault texts = none

namespace Mode

theorem drawLines_of_faultless (lines : List (Line α × Rgb)) : ∀ {r : Recorder α}, r.Faultless →
    (drawLines r lines).value.1 = .ok () ∧ (drawLines r lines).value.2.Faultless := by
  induction lines with
  | nil => exact fun h => ⟨rfl, h⟩
  | cons line lines ih =>
      intro r h
      have hdraw : (Surface.drawText r line.1.text line.1.x line.1.baseline line.2).value =
          (.ok (), ({ r with texts := r.texts + 1 } : Recorder α).keep (textStroke line)) := by
        simp only [Surface.drawText, h.text]
        rfl
      rw [value_drawLines_of_ok lines hdraw]
      exact ih ⟨h.start, h.text⟩

variable [Zero α] [Add α] [Sub α] [Mul α] [Div α] [NatCast α] [LE α] [DecidableLE α]

/-- A frame on a recorder without faults is drawn, and so is the next one. -/
theorem draw_of_faultless {m : Mode (Recorder α) α} (h : m.surface.Faultless)
    (width height : Nat) :
    (m.draw width height).value.1 = .ok () ∧ (m.draw width height).value.2.surface.Faultless := by
  let r := (m.surface.keep (.clear m.settings.palette.clear)).keep (.start width height)
  have hstart : (Surface.start (Surface.clear m.surface m.settings.palette.clear).value width
      height).value = (.ok (), r) := by
    simp only [Surface.start]
    split
    next fault hfault => cases hfault.symm.trans h.start
    next => rfl
  obtain ⟨hok, hafter⟩ := drawLines_of_faultless (m.frameOn width r) (r := r) ⟨h.start, h.text⟩
  rw [value_draw, value_drawFrame_of_ok _ hstart, hok]
  exact ⟨rfl, hafter.start, hafter.text⟩

end Mode

end Colloquy.Play
