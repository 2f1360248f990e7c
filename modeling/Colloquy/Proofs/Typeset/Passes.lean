import Colloquy.Proofs.Render.Passes
import Colloquy.Proofs.Typeset.Custody

/-!
# Passes of an engine

An engine starts passes with its own program, which is there until the engine is
shut down, so every pass it is asked to start starts.  Once it is shut down it
starts and ends nothing, and a pass that was in progress then stays so.

So calls leave no pass in progress just when the last pass of those up to the
first shutdown is ended before it (`Engine.atRest_serveAll_iff`).  An end behind
the shutdown comes too late (`Engine.end_after_shutdown`).
-/

namespace Colloquy.Typeset

open Colloquy.Render

variable {B α : Type}

namespace Call

/-- Whether a call starts a pass. -/
def starts : Call α → Bool
  | start _ _ => true
  | _ => false

/-- Whether a call ends a pass. -/
def ends : Call α → Bool
  | finish => true
  | _ => false

/-- Whether a call shuts the engine down. -/
def shutsDown : Call α → Bool
  | shutdown => true
  | _ => false

/-- The calls before the first that shuts the engine down. -/
def beforeShutdown (calls : List (Call α)) : List (Call α) :=
  calls.takeWhile fun call => !call.shutsDown

theorem beforeShutdown_cons {call : Call α} (h : call.shutsDown = false) (calls : List (Call α)) :
    beforeShutdown (call :: calls) = call :: beforeShutdown calls := by
  rw [beforeShutdown, List.takeWhile_cons, if_pos (by rw [h]; rfl)]
  rfl

theorem exists_ends_iff {calls : List (Call α)} :
    (∃ call ∈ calls, call.ends = true) ↔ .finish ∈ calls := by
  constructor
  · rintro ⟨call, hc, he⟩
    cases call <;> cases he
    exact hc
  · exact fun hf => ⟨.finish, hf, rfl⟩

end Call

/-! ## What calls ask of a backend -/

section Requests

variable [Backend B α] {P : B → Prop}

theorem dropTextures_induction
    (hdrop : ∀ b (r : Request α), r.released? ≠ none → P b → P (Backend.perform b r).value.2)
    (entries : List (Nat × GlyphTexture α)) :
    ∀ b, P b → P (GlyphCache.dropTextures b entries).value := by
  induction entries with
  | nil => exact fun b hb => hb
  | cons entry entries ih =>
      intro b hb
      exact ih _ (hdrop b (.dropTexture entry.2.texture) (by simp [Request.released?]) hb)

theorem fetch_induction
    (hupload : ∀ b bitmap, P b → P (Backend.perform b (.upload bitmap)).value.2)
    (cache : GlyphCache α) {b : B} (hb : P b) (index : Nat) :
    P (cache.fetch b index).value.2.2 := by
  rw [GlyphCache.fetch]
  split
  · exact hb
  split
  · have h := hupload b (cache.rasterizer.raster index).bitmap hb
    simp only [Logged.value_bind]
    split
    · exact h
    · exact h
  · exact hb

namespace Engine

/-- What releasing resources keeps is kept by shutting down. -/
theorem shutdown_induction
    (hdrop : ∀ b (r : Request α), r.released? ≠ none → P b → P (Backend.perform b r).value.2)
    (e : Engine B α) (he : P e.backend) : P e.shutdown.value.backend := by
  have hfont : P e.dropFont.value.backend := by
    rw [dropFont]
    split
    · exact he
    · exact dropTextures_induction hdrop _ _ he
  have hbuffer : ∀ e : Engine B α, P e.backend → P e.dropBuffer.value.backend := by
    intro e he
    rw [dropBuffer]
    split
    · exact he
    · exact hdrop _ _ (by simp [Request.released?]) he
  have hprogram : ∀ e : Engine B α, P e.backend → P e.dropProgram.value.backend := by
    intro e he
    rw [dropProgram]
    split
    · exact he
    · exact hdrop _ _ (by simp [Request.released?]) he
  exact hprogram _ (hbuffer _ hfont)

theorem program_shutdown (e : Engine B α) : e.shutdown.value.program = none := by
  show (Engine.dropProgram _).value.program = none
  rw [dropProgram]
  split
  · assumption
  · rfl

section Draw

variable [Add α] [Sub α] [Div α] [NatCast α] [IntCast α]

theorem drawGlyphs_induction
    (hupload : ∀ b bitmap, P b → P (Backend.perform b (.upload bitmap)).value.2)
    (hdraw : ∀ b buffer texture quad color, P b →
      P (Backend.perform b (.draw buffer texture quad color)).value.2)
    (buffer : Handle .buffer) (color : Rgb) (glyphs : List Glyph) :
    ∀ (cache : GlyphCache α) (b : B) (penX penY : α), P b →
      P (drawGlyphs buffer color cache b penX penY glyphs).value.2.2 := by
  induction glyphs with
  | nil => exact fun _ _ _ _ hb => hb
  | cons glyph glyphs ih =>
      intro cache b penX penY hb
      have hfetch := fetch_induction hupload cache hb glyph.id.toNat
      rw [drawGlyphs]
      simp only [Logged.value_bind]
      split
      · exact ih _ _ _ _ hfetch
      · exact hfetch
      split
      · exact ih _ _ _ _ hfetch
      · simp only [Logged.value_bind]
        split
        · exact hdraw _ _ _ _ _ hfetch
        · exact ih _ _ _ _ (hdraw _ _ _ _ _ hfetch)

/-- What uploading bitmaps and drawing quads keep is kept by drawing a text. -/
theorem drawText_induction
    (hupload : ∀ b bitmap, P b → P (Backend.perform b (.upload bitmap)).value.2)
    (hdraw : ∀ b buffer texture quad color, P b →
      P (Backend.perform b (.draw buffer texture quad color)).value.2)
    (e : Engine B α) (he : P e.backend) (text : String) (x baseline : α) (color : Rgb) :
    P (e.drawText text x baseline color).value.2.backend := by
  rw [drawText]
  split
  · exact drawGlyphs_induction hupload hdraw _ _ _ _ _ _ _ he
  · exact he

theorem program_drawText (e : Engine B α) (text : String) (x baseline : α) (color : Rgb) :
    (e.drawText text x baseline color).value.2.program = e.program := by
  rw [drawText]
  split
  · rfl
  · rfl

end Draw

/-- An engine that is built has the program that its backend has made for it. -/
theorem exists_compile_of_build {b : B} {font : Except Font.Fault (LoadedFont α)} {pixels : Nat}
    {e : Engine B α} (h : (build b font pixels).value = .ok e) :
    ∃ program b', (Backend.perform b (.compile vertexShader fragmentShader)).value =
        (.ok program, b') ∧
      e.program = some program ∧ e.backend = (Backend.perform b' .makeBuffer).value.2 := by
  rw [build] at h
  simp only [Logged.value_bind] at h
  cases hcompile : (Backend.perform b (.compile vertexShader fragmentShader)).value with
  | mk answer b' =>
      rw [hcompile] at h
      cases answer with
      | error fault => cases h
      | ok program =>
          simp only [Logged.value_bind] at h
          split at h
          · cases h
          split at h
          · cases h
          · cases h
            exact ⟨program, b', rfl, rfl, rfl⟩

/-- Where its program and its buffer are made and its font is loaded, an engine is
built. -/
theorem value_build_of_ok {b b₁ b₂ : B} {program : Handle .program} {buffer : Handle .buffer}
    (hcompile : (Backend.perform b (.compile vertexShader fragmentShader)).value =
      (.ok program, b₁))
    (hbuffer : (Backend.perform b₁ .makeBuffer).value = (.ok buffer, b₂)) (font : LoadedFont α)
    (pixels : Nat) : (build b (.ok font) pixels).value = .ok {
      backend := b₂, program := some program, buffer := some buffer
      font := some ⟨font, { rasterizer := font.rasterizer }⟩ } := by
  simp only [build, Logged.value_bind, hcompile, hbuffer]
  rfl

end Engine

end Requests

/-! ## Passes -/

namespace Engine

variable {e : Engine (Headless α) α}

/-- Whether an engine has a program to start passes with. -/
def Ready (e : Engine (Headless α) α) : Prop :=
  ∃ program, e.program = some program ∧ e.backend.programs.contains program = true

theorem ready_build {b : Headless α} (hb : b.Sound) {font : Except Font.Fault (LoadedFont α)}
    {pixels : Nat} (he : (build b font pixels).value = .ok e) :
    e.Ready ∧ b.SamePass e.backend := by
  obtain ⟨program, b', hcompile, hprogram, hbackend⟩ := exists_compile_of_build he
  have hcontains := Headless.contains_of_compile hb hcompile
  have hsame := b.samePass_perform (r := .compile vertexShader fragmentShader) rfl
  rw [show (b.perform _).value = _ from hcompile] at hsame
  constructor
  · refine ⟨program, hprogram, ?_⟩
    rw [hbackend]
    exact hcontains
  · rw [hbackend]
    exact hsame.trans (b'.samePass_perform (r := .makeBuffer) rfl)

/-- No pass fails to start, of an engine that is ready or shut down. -/
theorem value_start_of_ready (h : e.Ready ∨ e.program = none) (width height : Nat) :
    (e.start width height).value.1 = .ok () := by
  rcases h with ⟨program, hprogram, hcontains⟩ | hprogram
  · have hok : (e.backend.perform (.start program width height)).value.1 = .ok () := by
      rw [Headless.value_perform_start hcontains]
    simp only [start, hprogram, Logged.value_bind]
    show Except.mapError _ (e.backend.perform (.start program width height)).value.1 = _
    rw [hok]
    rfl
  · simp only [start, hprogram]
    rfl

/-- A text whose beginning is not blank is not blank. -/
theorem isAllBlank_append {s t : String} (h : Text.isAllBlank s.toList = false) :
    Text.isAllBlank (s ++ t).toList = false := by
  rw [String.toList_append, Text.isAllBlank, List.all_append, ← Text.isAllBlank, h, Bool.false_and]

/-- The shaders of an engine are not blank, as their first lines are not. -/
theorem value_compile_shaders (b : Headless α) :
    (Backend.perform b (.compile vertexShader fragmentShader)).value =
      (.ok (b.programs.insert ()).1, { b with programs := (b.programs.insert ()).2 }) := by
  have hvertex : Text.isAllBlank vertexShader.toList = false := by
    unfold vertexShader
    iterate 10 refine isAllBlank_append ?_
    decide
  have hfragment : Text.isAllBlank fragmentShader.toList = false := by
    unfold fragmentShader
    iterate 7 refine isAllBlank_append ?_
    decide
  simp only [Backend.perform, Headless.perform, Headless.compile, hvertex, hfragment,
    Logged.value_pure, Bool.or_self, Bool.false_eq_true, if_false]

/-- With a font that is loaded an engine is built. -/
theorem value_build (b : Headless α) (font : LoadedFont α) (pixels : Nat) :
    (build b (.ok font) pixels).value = .ok {
      backend := { b with
        programs := (b.programs.insert ()).2, buffers := (b.buffers.insert ()).2 }
      program := some (b.programs.insert ()).1
      buffer := some (b.buffers.insert ()).1
      font := some ⟨font, { rasterizer := font.rasterizer }⟩ } :=
  value_build_of_ok (value_compile_shaders b) rfl font pixels

variable [Add α] [Sub α] [Div α] [NatCast α] [IntCast α]

/-- Filling the screen and drawing a text make no difference to passes. -/
theorem samePass_serve {call : Call α} (hs : call.starts = false) (he : call.ends = false) :
    e.backend.SamePass (e.serve call).value.backend := by
  cases call with
  | clear color => exact e.backend.samePass_perform (r := .clear color) rfl
  | start width height => cases hs
  | text text x baseline color =>
      exact drawText_induction (P := e.backend.SamePass)
        (fun b bitmap h => h.trans (b.samePass_perform (r := .upload bitmap) rfl))
        (fun b _ _ _ _ h => h.trans (b.samePass_perform (r := .draw _ _ _ _) rfl))
        e (.refl _) text x baseline color
  | finish => cases he
  | shutdown =>
      exact shutdown_induction (P := e.backend.SamePass)
        (fun b r hr h => h.trans (b.samePass_perform (r.isOfPass_of_released hr))) e (.refl _)

/-- An engine that is not shut down stays ready. -/
theorem Ready.serve (h : e.Ready) {call : Call α} (hc : call.shutsDown = false) :
    (e.serve call).value.Ready := by
  obtain ⟨program, hprogram, hcontains⟩ := h
  cases call with
  | clear color => exact ⟨program, hprogram, hcontains⟩
  | start width height =>
      have hstart : (e.serve (.start width height)).value.program = some program ∧
          (e.serve (.start width height)).value.backend =
            (e.backend.perform (.start program width height)).value.2 := by
        simp only [Engine.serve, start, hprogram]
        exact ⟨rfl, rfl⟩
      refine ⟨program, hstart.1, ?_⟩
      rw [hstart.2, Headless.programs_perform _ rfl]
      exact hcontains
  | text text x baseline color =>
      refine ⟨program, (e.program_drawText text x baseline color).trans hprogram, ?_⟩
      have hprograms : (e.drawText text x baseline color).value.2.backend.programs =
          e.backend.programs :=
        drawText_induction (P := fun b => b.programs = e.backend.programs)
          (fun b bitmap h => (b.programs_perform (r := .upload bitmap) rfl).trans h)
          (fun b _ _ _ _ h => (b.programs_perform (r := .draw _ _ _ _) rfl).trans h)
          e rfl text x baseline color
      show (e.drawText text x baseline color).value.2.backend.programs.contains program = true
      rw [hprograms]
      exact hcontains
  | finish =>
      refine ⟨program, ?_⟩
      simp only [Engine.serve, finish, hprogram]
      exact ⟨rfl, hcontains⟩
  | shutdown => cases hc

/-- An engine that is ready starts a pass. -/
theorem Ready.not_atRest_start (h : e.Ready) (width height : Nat) :
    ¬ (e.serve (.start width height)).value.backend.AtRest := by
  obtain ⟨program, hprogram, hcontains⟩ := h
  simp only [Engine.serve, start, hprogram]
  exact Headless.not_atRest_start hcontains width height

theorem Ready.atRest_finish (h : e.Ready) : (e.serve .finish).value.backend.AtRest := by
  obtain ⟨program, hprogram, -⟩ := h
  simp only [Engine.serve, finish, hprogram]
  exact e.backend.atRest_finish

/-! ## Runs of calls -/

/-- An engine that is shut down stays so, and makes no difference to passes. -/
theorem serve_of_shutDown (h : e.program = none) (call : Call α) :
    (e.serve call).value.program = none ∧
      e.backend.SamePass (e.serve call).value.backend := by
  cases call with
  | clear color => exact ⟨h, samePass_serve rfl rfl⟩
  | start width height =>
      simp only [Engine.serve, start, h]
      exact ⟨rfl, .refl _⟩
  | text text x baseline color =>
      exact ⟨(e.program_drawText text x baseline color).trans h, samePass_serve rfl rfl⟩
  | finish =>
      simp only [Engine.serve, finish, h]
      exact ⟨h, .refl _⟩
  | shutdown => exact ⟨e.program_shutdown, samePass_serve rfl rfl⟩

theorem serveAll_of_shutDown (calls : List (Call α)) :
    ∀ {e : Engine (Headless α) α}, e.program = none →
      (e.serveAll calls).value.program = none ∧
        e.backend.SamePass (e.serveAll calls).value.backend := by
  induction calls with
  | nil => exact fun h => ⟨h, .refl _⟩
  | cons call calls ih =>
      intro e h
      obtain ⟨hprogram, hsame⟩ := serve_of_shutDown h call
      obtain ⟨hprogram', hsame'⟩ := ih hprogram
      exact ⟨hprogram', hsame.trans hsame'⟩

theorem ready_serveAll (calls : List (Call α)) :
    ∀ {e : Engine (Headless α) α}, e.Ready →
      (e.serveAll calls).value.Ready ∨ (e.serveAll calls).value.program = none := by
  induction calls with
  | nil => exact fun h => .inl h
  | cons call calls ih =>
      intro e h
      cases hc : call.shutsDown with
      | false => exact ih (h.serve hc)
      | true =>
          cases call <;> cases hc
          exact .inr (serveAll_of_shutDown calls e.program_shutdown).1

/-- A pass is in progress in the end unless the last one was ended before the first
shutdown. -/
theorem atRest_serveAll_of_ready (calls : List (Call α)) :
    ∀ {e : Engine (Headless α) α}, e.Ready →
      ((e.serveAll calls).value.backend.AtRest ↔
        Closes Call.starts Call.ends (Call.beforeShutdown calls) ∧
          (.finish ∈ Call.beforeShutdown calls ∨ e.backend.AtRest)) := by
  induction calls with
  | nil =>
      intro e _
      simp [Call.beforeShutdown, closes_nil, serveAll]
  | cons call calls ih =>
      intro e h
      show ((e.serve call).value.serveAll calls).value.backend.AtRest ↔ _
      have hother (hs : call.starts = false) (he : call.ends = false)
          (hd : call.shutsDown = false) :
          ((e.serve call).value.serveAll calls).value.backend.AtRest ↔
            Closes Call.starts Call.ends (Call.beforeShutdown (call :: calls)) ∧
              (.finish ∈ Call.beforeShutdown (call :: calls) ∨ e.backend.AtRest) := by
        have hne : Call.finish ≠ call := by
          rintro rfl
          cases he
        rw [ih (h.serve hd), (samePass_serve hs he).atRest_iff, Call.beforeShutdown_cons hd,
          closes_cons]
        simp [hs, hne]
      cases call with
      | clear color => exact hother rfl rfl rfl
      | text text x baseline color => exact hother rfl rfl rfl
      | start width height =>
          rw [ih (h.serve rfl), Call.beforeShutdown_cons rfl, closes_cons, Call.exists_ends_iff]
          simp only [h.not_atRest_start, Call.starts, List.mem_cons, reduceCtorEq, false_or,
            or_false, forall_const]
          tauto
      | finish =>
          rw [ih (h.serve rfl), Call.beforeShutdown_cons rfl, closes_cons]
          simp [h.atRest_finish, Call.starts]
      | shutdown =>
          have hshutdown : e.backend.SamePass (e.serve .shutdown).value.backend :=
            samePass_serve rfl rfl
          have hsame := hshutdown.trans (serveAll_of_shutDown calls e.program_shutdown).2
          rw [show ((e.serve .shutdown).value.serveAll calls).value.backend.AtRest ↔ _ from
            hsame.atRest_iff]
          simp [Call.beforeShutdown, Call.shutsDown, closes_nil]

/-- Whatever has been asked of an engine, a pass that it is asked to start starts.
The calls leave no pass in progress just when, among those before the first
shutdown, every start has an end behind it, and there is an end at all unless no
pass was in progress when the engine was built. -/
theorem atRest_serveAll_iff {b : Headless α} (hb : b.Reachable)
    {font : Except Font.Fault (LoadedFont α)} {pixels : Nat} {e : Engine (Headless α) α}
    (he : (build b font pixels).value = .ok e) (calls : List (Call α)) :
    (∀ width height, ((e.serveAll calls).value.start width height).value.1 = .ok ()) ∧
      ((e.serveAll calls).value.backend.AtRest ↔
        Closes Call.starts Call.ends (Call.beforeShutdown calls) ∧
          (.finish ∈ Call.beforeShutdown calls ∨ b.AtRest)) := by
  obtain ⟨hready, hsame⟩ := ready_build hb.sound he
  refine ⟨value_start_of_ready (ready_serveAll calls hready), ?_⟩
  rw [atRest_serveAll_of_ready calls hready, hsame.atRest_iff]

/-- A font of one dot. -/
def dot : LoadedFont Int where
  shape _ := [⟨0, 0, 64, 0, 0, 0⟩]
  rasterizer := ⟨1, fun _ => ⟨⟨1, 1, [255]⟩, 0, 0, 1⟩⟩

/-- An engine for it over a new backend. -/
def lantern : Engine (Headless Int) Int where
  backend :=
    { programs := { slots := [⟨1, some ()⟩] }
      buffers := { slots := [⟨1, some ()⟩] } }
  program := some ⟨1, 1⟩
  buffer := some ⟨1, 1⟩
  font := some ⟨dot, { rasterizer := dot.rasterizer }⟩

theorem build_lantern : (build {} (.ok dot) 16).value = .ok lantern := value_build {} dot 16

/-- Two starts with one end, and a pass behind the shutdown that nothing comes of. -/
theorem atRest_serveAll_iff_lantern :
    ({} : Headless Int).Reachable ∧ (build {} (.ok dot) 16).value = .ok lantern ∧
      (lantern.serveAll [.start 8 8, .text "Hello" 0 4 ⟨0, 0, 0⟩, .start 8 8, .finish, .shutdown,
        .start 8 8, .finish]).value.backend.AtRest := by
  refine ⟨.new, build_lantern, ((atRest_serveAll_iff .new build_lantern _).2).2 ⟨?_, .inl ?_⟩⟩
  · simp [Call.beforeShutdown, Call.shutsDown, closes_cons, closes_nil, Call.starts, Call.ends]
  · simp [Call.beforeShutdown, Call.shutsDown]

/-- An end that comes behind the shutdown does not end the pass. -/
theorem end_after_shutdown :
    ({} : Headless Int).AtRest ∧ (build {} (.ok dot) 16).value = .ok lantern ∧
      Closes Call.starts Call.ends ([.start 8 8, .shutdown, .finish] : List (Call Int)) ∧
      ¬ (lantern.serveAll [.start 8 8, .shutdown, .finish]).value.backend.AtRest := by
  refine ⟨⟨closes_nil, fun _ _ _ _ => rfl⟩, build_lantern, ?_, fun hrest => ?_⟩
  · simp [closes_cons, closes_nil, Call.starts, Call.ends]
  · have hcommands : Closes Command.starts Command.ends
        ([.start ⟨1, 1⟩ 8 8] : List (Command Int)) := hrest.closes
    exact not_closes_concat rfl [] hcommands

end Engine

end Colloquy.Typeset
