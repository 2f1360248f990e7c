import Colloquy.Proofs.Typeset.Cache
import Colloquy.Proofs.Typeset.Passes

/-!
# Engines in use

An engine shares its backend with others, and whatever is asked of it, it keeps what it draws
with until it is shut down: the textures of the glyphs drawn so far and a buffer
(`Engine.Used.draws`).  Nothing is asked of the others but that they release none of it.
-/

namespace Colloquy.Typeset

open scoped List
open Colloquy.Render Logged

variable {α : Type}

/-! ## Backends with more textures -/

/-- What drawing makes of a backend: it has more textures, and commands are written down. -/
structure Grown (b b' : Headless α) (commands : List (Command α)) : Prop where
  buffers : b'.buffers = b.buffers
  active : b'.active = b.active
  commands : b'.commands = b.commands ++ commands
  textures : ∀ t bitmap, b.textures.get? t = some bitmap → b'.textures.get? t = some bitmap

namespace Grown

variable {b b' b'' : Headless α} {commands commands' : List (Command α)}

theorem refl (b : Headless α) : Grown b b [] where
  buffers := rfl
  active := rfl
  commands := (List.append_nil _).symm
  textures := fun _ _ h => h

theorem trans (h : Grown b b' commands) (h' : Grown b' b'' commands') :
    Grown b b'' (commands ++ commands') where
  buffers := h'.buffers.trans h.buffers
  active := h'.active.trans h.active
  commands := by rw [h'.commands, h.commands, List.append_assoc]
  textures := fun t bitmap ht => h'.textures t bitmap (h.textures t bitmap ht)

theorem record (b : Headless α) (c : Command α) : Grown b (b.record c) [c] where
  buffers := rfl
  active := rfl
  commands := rfl
  textures := fun _ _ h => h

end Grown

theorem Fetched.grown {cache : GlyphCache α} {b : Headless α} {index : Nat}
    {p : Except Fault (GlyphTexture α) × GlyphCache α × Headless α} (h : Fetched cache b index p)
    (hb : b.Sound) : Grown b p.2.2 [] := by
  cases h with
  | cached => exact .refl b
  | outside => exact .refl b
  | refused => exact .refl b
  | made hget hcount hfits hinsert =>
      have hinserted := Slots.inserted hb.textures (cache.rasterizer.raster index).bitmap
      rw [hinsert] at hinserted
      exact
        { buffers := rfl
          active := rfl
          commands := (List.append_nil _).symm
          textures := fun t bitmap ht => hinserted.get?_of_some ht }

/-! ## What is there to draw with -/

/-- Whether a cache on a backend has its textures, and a buffer to draw them with is there. -/
structure Drawable (rasterizer : Rasterizer α) (buffer : Handle .buffer) (cache : GlyphCache α)
    (b : Headless α) : Prop where
  kept : ∃ others, CacheKept rasterizer cache b others
  asRead : buffer.asRead = buffer
  buffer : b.buffers.get? buffer = some ()

namespace Drawable

variable {rasterizer : Rasterizer α} {buffer : Handle .buffer} {cache : GlyphCache α}
  {b : Headless α}

/-- An act that releases neither a texture of the cache nor the buffer makes no difference. -/
theorem act (h : Drawable rasterizer buffer cache b) {a : Act α}
    (htextures : ∀ t ∈ cache.textures, a.released? ≠ some ⟨.texture, t⟩)
    (hbuffer : a.released? ≠ some ⟨.buffer, buffer⟩) :
    Drawable rasterizer buffer cache (b.act a) := by
  obtain ⟨⟨others, hkept⟩, hread, hget⟩ := h
  have hstored : (b.store .buffer).get? buffer = some () := hget
  exact
    { kept := ⟨_, hkept.other htextures⟩
      asRead := hread
      buffer := Headless.get?_act_of_unreleased hkept.sound hread hstored hbuffer }

/-- Nor does a request that releases nothing. -/
theorem perform (h : Drawable rasterizer buffer cache b) {r : Request α}
    (hr : r.released? = none) : Drawable rasterizer buffer cache (Backend.perform b r).value.2 := by
  have hreleased : (Act.ask r).released? = none := by rw [Act.released?, hr, Option.map_none]
  exact h.act (a := .ask r) (by simp [hreleased]) (by simp [hreleased])

theorem fetch (h : Drawable rasterizer buffer cache b) (index : Nat) :
    Drawable rasterizer buffer (cache.fetch b index).value.2.1 (cache.fetch b index).value.2.2 := by
  obtain ⟨⟨others, hkept⟩, hread, hget⟩ := h
  have hfetched := fetched cache b index
  refine ⟨⟨others, hkept.of_fetched hfetched⟩, hread, ?_⟩
  rw [(hfetched.grown hkept.sound).buffers, hget]

section Draw

variable [Add α] [Sub α] [Div α] [NatCast α] [IntCast α]

/-- Whatever is drawn, and whether it fails, more can be drawn afterwards. -/
theorem drawGlyphs (color : Rgb) (glyphs : List Glyph) :
    ∀ {cache : GlyphCache α} {b : Headless α} (penX penY : α),
      Drawable rasterizer buffer cache b →
      Drawable rasterizer buffer
        (Engine.drawGlyphs buffer color cache b penX penY glyphs).value.2.1
        (Engine.drawGlyphs buffer color cache b penX penY glyphs).value.2.2 := by
  induction glyphs with
  | nil => exact fun _ _ h => h
  | cons glyph glyphs ih =>
      intro cache b penX penY h
      have hfetch := h.fetch glyph.id.toNat
      rw [Engine.drawGlyphs]
      simp only [value_bind]
      -- a glyph outside the font, a failure, a glyph without pixels, a quad to draw
      split
      · exact ih _ _ hfetch
      · exact hfetch
      split
      · exact ih _ _ hfetch
      · simp only [value_bind]
        split
        · exact hfetch.perform (r := .draw _ _ _ _) rfl
        · exact ih _ _ (hfetch.perform (r := .draw _ _ _ _) rfl)

end Draw

end Drawable

namespace Engine

variable {font : LoadedFont α} {e : Engine (Headless α) α}

/-- Whether an engine has a font and something to draw with. -/
def Draws (font : LoadedFont α) (e : Engine (Headless α) α) : Prop :=
  ∃ cache buffer, e.font = some ⟨font, cache⟩ ∧ e.buffer = some buffer ∧
    Drawable font.rasterizer buffer cache e.backend

theorem draws_build {b : Headless α} (hb : b.Reachable) {pixels : Nat}
    (he : (build b (.ok font) pixels).value = .ok e) : e.Draws font := by
  cases (value_build b font pixels).symm.trans he
  have hcompiled := hb.perform (.compile vertexShader fragmentShader)
  rw [show (b.perform _).value = _ from value_compile_shaders b] at hcompiled
  have hinserted := Slots.inserted hb.sound.buffers ()
  exact ⟨_, _, rfl, rfl,
    { kept := ⟨_, .new (hcompiled.perform .makeBuffer)⟩
      asRead := hinserted.asRead
      buffer := (hinserted.get? _).trans (if_pos hinserted.asRead) }⟩

/-- So does an engine after an act of others that releases none of it. -/
theorem Draws.act (h : e.Draws font) {a : Act α}
    (ha : ∀ x ∈ e.textures ++ resourceOf e.buffer, a.released? ≠ some x) :
    Draws font { e with backend := e.backend.act a } := by
  obtain ⟨cache, buffer, hfont, hbuffer, hdraw⟩ := h
  rw [textures, hfont, hbuffer] at ha
  refine ⟨cache, buffer, hfont, hbuffer, hdraw.act (fun t ht => ha _ ?_) (ha _ (by simp))⟩
  obtain ⟨entry, hentry, rfl⟩ := List.mem_map.1 ht
  exact List.mem_append_left _ (List.mem_map.2 ⟨entry, hentry, rfl⟩)

section Use

variable [Add α] [Sub α] [Div α] [NatCast α] [IntCast α]

/-- What an engine with a font can become, over a backend that others use as well. -/
inductive Used (font : LoadedFont α) : Engine (Headless α) α → Prop where
  /-- A new engine. -/
  | built {b : Headless α} {pixels : Nat} {e : Engine (Headless α) α} : b.Reachable →
      (build b (.ok font) pixels).value = .ok e → Used font e
  /-- A call, whether it fails or not. -/
  | served {e : Engine (Headless α) α} (call : Call α) :
      Used font e → Used font (e.serve call).value
  /-- An act of others, which releases nothing that the engine draws with. -/
  | other {e : Engine (Headless α) α} (a : Act α) :
      (∀ x ∈ e.textures ++ resourceOf e.buffer, a.released? ≠ some x) →
      Used font e → Used font { e with backend := e.backend.act a }

/-- A text is drawn glyph by glyph. -/
theorem value_drawText {cache : GlyphCache α} {buffer : Handle .buffer}
    (hfont : e.font = some ⟨font, cache⟩) (hbuffer : e.buffer = some buffer) (text : String)
    (x baseline : α) (color : Rgb) {answer : Except Fault Unit} {cache' : GlyphCache α}
    {b : Headless α} (h : (drawGlyphs buffer color cache e.backend x baseline
      (font.shape text)).value = (answer, cache', b)) :
    (e.drawText text x baseline color).value =
      (answer, { e with backend := b, font := some ⟨font, cache'⟩ }) := by
  simp only [drawText, hfont, hbuffer, value_bind, h, value_pure]

theorem Draws.serve (h : e.Draws font) (call : Call α) :
    (e.serve call).value.program = none ∨ (e.serve call).value.Draws font := by
  obtain ⟨cache, buffer, hfont, hbuffer, hdraw⟩ := h
  cases call with
  | clear color =>
      exact .inr ⟨cache, buffer, hfont, hbuffer, hdraw.perform (r := .clear color) rfl⟩
  | start width height =>
      refine .inr ⟨cache, buffer, ?_⟩
      simp only [Engine.serve, start]
      split
      · exact ⟨hfont, hbuffer, hdraw⟩
      · exact ⟨hfont, hbuffer, hdraw.perform (r := .start _ width height) rfl⟩
  | text text x baseline color =>
      have hglyphs := hdraw.drawGlyphs color (font.shape text) x baseline
      rw [Engine.serve, value_map, value_drawText hfont hbuffer text x baseline color rfl]
      exact .inr ⟨_, buffer, rfl, hbuffer, hglyphs⟩
  | finish =>
      refine .inr ⟨cache, buffer, ?_⟩
      simp only [Engine.serve, finish]
      split
      · exact ⟨hfont, hbuffer, hdraw⟩
      · exact ⟨hfont, hbuffer, hdraw.perform (r := .finish) rfl⟩
  | shutdown => exact .inl e.program_shutdown

/-- An engine draws until it is shut down. -/
theorem Used.draws (h : e.Used font) : e.program = none ∨ e.Draws font := by
  induction h with
  | built hb he => exact .inr (draws_build hb he)
  | served call _ ih =>
      rcases ih with hnone | hdraws
      · exact .inl (serve_of_shutDown hnone call).1
      · exact hdraws.serve call
  | other a ha _ ih => exact ih.imp_right fun hdraws => hdraws.act ha

end Use

end Engine

end Colloquy.Typeset
