import Colloquy.Proofs.Typeset.Custody

/-!
# Engines over related backends

An engine knows its backend by its answers alone.  So a map of backends that
changes no answer and no notice (`Backend.Commutes`) commutes with everything an
engine does.  Forgetting an audit is such a map.
-/

namespace Colloquy.Typeset

open Colloquy.Render

variable {B C α : Type} {f : B → C}

/-- An engine over another backend. -/
def Engine.map (f : B → C) (e : Engine B α) : Engine C α :=
  { backend := f e.backend, program := e.program, buffer := e.buffer, font := e.font,
    screen := e.screen }

/-- A failure with another backend, or a success over it. -/
def outcomeMap {ε β γ : Type} (f : B → C) (g : β → γ) : Except (ε × B) β → Except (ε × C) γ
  | .error p => .error (p.1, f p.2)
  | .ok a => .ok (g a)

variable [Backend B α] [Backend C α]

/-! ## The glyph cache -/

theorem dropTextures_map (hf : Backend.Commutes f) (entries : List (Nat × GlyphTexture α)) :
    ∀ b, GlyphCache.dropTextures (f b) entries = f <$> GlyphCache.dropTextures b entries := by
  induction entries with
  | nil => exact fun b => rfl
  | cons entry entries ih =>
      intro b
      simp [GlyphCache.dropTextures, hf b, ih]

theorem fetch_map (hf : Backend.Commutes f) (cache : GlyphCache α) (b : B) (index : Nat) :
    cache.fetch (f b) index = (fun p => (p.1, p.2.1, f p.2.2)) <$> cache.fetch b index := by
  rw [GlyphCache.fetch, GlyphCache.fetch]
  split
  · rfl
  split
  · simp only [hf b, bind_map_left, map_bind]
    refine bind_congr ?_
    rintro ⟨answer, b'⟩
    cases answer with
    | error fault => rfl
    | ok texture => rfl
  · rfl

namespace Engine

/-! ## The end and the start of an engine -/

theorem dropFont_map (hf : Backend.Commutes f) (e : Engine B α) :
    (e.map f).dropFont = map f <$> e.dropFont := by
  obtain ⟨backend, program, buffer, font, screen⟩ := e
  cases font with
  | none => rfl
  | some font => simp [dropFont, map, GlyphCache.release, dropTextures_map hf]

theorem dropBuffer_map (hf : Backend.Commutes f) (e : Engine B α) :
    (e.map f).dropBuffer = map f <$> e.dropBuffer := by
  obtain ⟨backend, program, buffer, font, screen⟩ := e
  cases buffer with
  | none => rfl
  | some buffer => simp [dropBuffer, map, hf backend]

theorem dropProgram_map (hf : Backend.Commutes f) (e : Engine B α) :
    (e.map f).dropProgram = map f <$> e.dropProgram := by
  obtain ⟨backend, program, buffer, font, screen⟩ := e
  cases program with
  | none => rfl
  | some program => simp [dropProgram, map, hf backend]

theorem shutdown_map (hf : Backend.Commutes f) (e : Engine B α) :
    (e.map f).shutdown = map f <$> e.shutdown := by
  simp only [shutdown, dropFont_map hf, bind_map_left, dropBuffer_map hf, dropProgram_map hf,
    map_bind]

theorem close_map (hf : Backend.Commutes f) (e : Engine B α) :
    (e.map f).close = f <$> e.close := by
  simp only [close, shutdown_map hf, bind_map_left, map_bind, map_pure]
  rfl

theorem abandon_map (hf : Backend.Commutes f) (e : Engine B α) (fault : Fault) :
    (e.map f).abandon fault = outcomeMap f (map f) <$> e.abandon fault := by
  simp [abandon, close_map hf, outcomeMap]

theorem build_map (hf : Backend.Commutes f) (b : B) (font : Except Font.Fault (LoadedFont α))
    (pixels : Nat) : build (f b) font pixels = outcomeMap f (map f) <$> build b font pixels := by
  simp only [build, hf b, bind_map_left, map_bind]
  refine bind_congr ?_
  rintro ⟨answer, b₁⟩
  cases answer with
  | error fault => exact abandon_map hf { backend := b₁ } _
  | ok program =>
      simp only [hf b₁, bind_map_left, map_bind]
      refine bind_congr ?_
      rintro ⟨answer, b₂⟩
      cases answer with
      | error fault => exact abandon_map hf { backend := b₂, program := some program } _
      | ok buffer =>
          cases font with
          | error fault =>
              exact abandon_map hf
                { backend := b₂, program := some program, buffer := some buffer } _
          | ok font => rfl

/-! ## Calls -/

theorem clear_map (hf : Backend.Commutes f) (e : Engine B α) (color : Rgba) :
    (e.map f).clear color = map f <$> e.clear color := by
  simp [clear, map, hf e.backend]

theorem start_map (hf : Backend.Commutes f) (e : Engine B α) (width height : Nat) :
    (e.map f).start width height = Prod.map id (map f) <$> e.start width height := by
  obtain ⟨backend, program, buffer, font, screen⟩ := e
  cases program with
  | none => rfl
  | some program => simp [start, map, hf backend]

theorem finish_map (hf : Backend.Commutes f) (e : Engine B α) :
    (e.map f).finish = map f <$> e.finish := by
  obtain ⟨backend, program, buffer, font, screen⟩ := e
  cases program with
  | none => rfl
  | some program => simp [finish, map, hf backend]

section Draw

variable [Add α] [Sub α] [Div α] [NatCast α] [IntCast α]

theorem drawGlyphs_map (hf : Backend.Commutes f) (buffer : Handle .buffer) (color : Rgb)
    (glyphs : List Glyph) : ∀ (cache : GlyphCache α) (b : B) (penX penY : α),
      drawGlyphs buffer color cache (f b) penX penY glyphs =
        (fun p => (p.1, p.2.1, f p.2.2)) <$> drawGlyphs buffer color cache b penX penY glyphs := by
  induction glyphs with
  | nil => exact fun _ _ _ _ => rfl
  | cons glyph glyphs ih =>
      intro cache b penX penY
      simp only [drawGlyphs, fetch_map hf, bind_map_left, map_bind]
      refine bind_congr ?_
      rintro ⟨answer, cache', b'⟩
      dsimp only
      split
      · simp [ih]
      · rfl
      split
      · exact ih _ _ _ _
      · simp only [hf b', bind_map_left, map_bind]
        refine bind_congr ?_
        rintro ⟨answer, b''⟩
        cases answer with
        | error fault => rfl
        | ok => exact ih _ _ _ _

theorem drawText_map (hf : Backend.Commutes f) (e : Engine B α) (text : String) (x baseline : α)
    (color : Rgb) :
    (e.map f).drawText text x baseline color =
      Prod.map id (map f) <$> e.drawText text x baseline color := by
  obtain ⟨backend, program, buffer, font, screen⟩ := e
  cases font with
  | none => rfl
  | some font =>
      cases buffer with
      | none => rfl
      | some buffer => simp [drawText, map, drawGlyphs_map hf]

theorem serve_map (hf : Backend.Commutes f) (e : Engine B α) (call : Call α) :
    (e.map f).serve call = map f <$> e.serve call := by
  cases call with
  | clear color => exact clear_map hf e color
  | start width height => simp [serve, start_map hf]
  | text text x baseline color => simp [serve, drawText_map hf]
  | finish => exact finish_map hf e
  | shutdown => exact shutdown_map hf e

theorem serveAll_map (hf : Backend.Commutes f) (calls : List (Call α)) : ∀ e : Engine B α,
    (e.map f).serveAll calls = map f <$> e.serveAll calls := by
  induction calls with
  | nil => exact fun e => rfl
  | cons call calls ih =>
      intro e
      simp only [serveAll, List.foldlM_cons, serve_map hf, bind_map_left, map_bind] at ih ⊢
      exact bind_congr fun e' => ih e'

end Draw

end Engine

end Colloquy.Typeset
