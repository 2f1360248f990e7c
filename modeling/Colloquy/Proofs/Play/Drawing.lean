import Colloquy.Proofs.Play.Pointing

/-!
# Drawing a frame

The lines of a picture are drawn in one pass, up to the first that fails, and the pass is
ended all the same.  A pass that does not start is not ended, and nothing is drawn in it.  The
picture is that of the surface in the pass, whatever became of it there (`draw_ends_pass`).

On a steady surface the picture depends on nothing that drawing changes.  So where nothing
fails the next frame is the same.
-/

namespace Colloquy.Play.Mode

open Colloquy.Render Colloquy.Typeset

section Draw

variable {S α : Type} [Surface S α] [Zero α] [Add α] [Sub α] [Mul α] [Div α] [NatCast α] [LE α]
  [DecidableLE α]

/-- After a frame the picture is the same. -/
theorem picture_draw [Steady S] (m : Mode S α) (width height viewport : Nat) :
    (m.draw width height).value.2.picture viewport = m.picture viewport := by
  apply picture_congr
  · rfl
  · rfl
  · rfl
  · exact shaper_drawFrame m.surface m.settings.palette.clear width height (m.frameOn width)

/-- Drawing fills the surface and starts a pass.  If the pass does not start nothing else is
asked for.  Otherwise the lines of the picture in the pass are, up to the first that fails, and
then the end of the pass.  The fault of what failed is the answer.  The cursor stays where it is,
and if nothing fails and the surface is steady, another frame of that size asks for the same. -/
theorem draw_ends_pass (m : Mode S α) (width height : Nat) :
    let clear := m.settings.palette.clear
    let started := (Surface.start (Surface.clear m.surface clear).value width height).value
    let drawn := (m.draw width height).value
    (∀ fault s, started = (.error fault, s) →
      m.strokes width height = [.clear clear, .start width height] ∧
        drawn.1 = .error (.text fault)) ∧
    (∀ s, started = (.ok (), s) → ∃ sent answer s',
      UpToFault s ({ m with surface := s }.picture width) sent answer s' ∧
      m.strokes width height =
        .clear clear :: .start width height :: (sent.map textStroke ++ [.finish]) ∧
      drawn.1 = answer.mapError Fault.text ∧ drawn.2.surface = (Surface.finish s').value) ∧
    drawn.2.cursor = m.cursor ∧ drawn.2.dialogue = m.dialogue ∧
    (Steady S → drawn.1 = .ok () → (drawn.2.draw width height).value.1 = .ok () →
      drawn.2.strokes width height = m.strokes width height) := by
  intro clear started drawn
  refine ⟨fun fault s h => strokes_of_error h, fun s h => ?_, rfl, rfl,
    fun hsteady hok hagain => ?_⟩
  · obtain ⟨sent, answer, s', hup, hdrawn⟩ := exists_strokes_of_ok h
    rw [frameOn, frame_eq_picture] at hup
    exact ⟨sent, answer, s', hup, hdrawn⟩
  · rw [strokes_of_ok hok, strokes_of_ok hagain, picture_inPass, picture_inPass, picture_draw]
    rfl

end Draw

/-- The hall on a surface that fails at the second line. -/
def stainedHall : Mode (Recorder ℚ) ℚ :=
  { hall with surface := {
      shaper := unitShaper
      textFault := fun texts => if texts = 1 then some (.glyphIndex 7) else none } }

/-- The line that fails is the last one that is asked for.  Where none fails another frame is the
same. -/
theorem draw_ends_pass_stained :
    stainedHall.strokes 6 6 = [.clear ⟨⟨0.96, 0.87, 0.70⟩, 1.0⟩, .start 6 6,
      .text "A" 1 10 ⟨0.0, 0.0, 0.0⟩, .text "hall" 1 14 ⟨0.0, 0.0, 0.0⟩, .finish] ∧
    (stainedHall.draw 6 6).value.1 = .error (.text (.glyphIndex 7)) ∧
    (hall.draw 6 6).value.1 = .ok () ∧
    (hall.draw 6 6).value.2.strokes 6 6 = hall.strokes 6 6 := by
  obtain ⟨-, hdraw, -⟩ := draw_ends_pass stainedHall 6 6
  obtain ⟨-, -, -, -, hsame⟩ := draw_ends_pass hall 6 6
  obtain ⟨sent, answer, s', hup, hstrokes, hanswer, -⟩ := hdraw _ rfl
  obtain ⟨hok, hfaultless⟩ := draw_of_faultless (m := hall) ⟨rfl, fun _ => rfl⟩ 6 6
  have hagain := hsame inferInstance hok (draw_of_faultless hfaultless 6 6).1
  -- the stain changes nothing in how text is shaped
  change UpToFault _ (hall.picture 6) _ _ _ at hup
  rw [picture_hall] at hup
  cases hup with
  | fails h => cases h
  | drawn h hup =>
      cases h
      cases hup with
      | fails h =>
          cases h
          exact ⟨hstrokes, hanswer, hok, hagain⟩
      | drawn h _ => cases h

end Colloquy.Play.Mode
