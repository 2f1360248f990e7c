import Colloquy.Proofs.Typeset.Measures
import Colloquy.Proofs.Typeset.Usage

/-!
# Where glyphs are drawn

The pen starts at a place and goes on with each glyph, so a glyph is drawn where all glyphs
before it lead the pen, those without pixels included.  Whether a glyph was drawn before makes
no difference: there is a texture with its bitmap afterwards (`Drawable.exists_drawGlyphs_cons`).

By induction on the glyphs, a text is drawn as one quad for each glyph that has pixels, in
order, and the pen ends as far to the right as the text is wide (`Engine.drawText_places`).
The pen is not part of any state.  Where it ends is where glyphs behind the text would be drawn
(`Engine.LeavesPenAt`).
-/

namespace Colloquy.Typeset

open Colloquy.Render Logged

variable {α : Type}

/-! ## Glyphs in the font -/

/-- The bitmap of a glyph. -/
def Rasterizer.bitmap (rasterizer : Rasterizer α) (glyph : Glyph) : Bitmap :=
  (rasterizer.raster glyph.id.toNat).bitmap

theorem Bitmap.pixels_eq_nil_iff {bitmap : Bitmap} (h : bitmap.fits = true) :
    bitmap.pixels = [] ↔ bitmap.width = 0 ∨ bitmap.height = 0 := by
  rw [Bitmap.fits, beq_iff_eq] at h
  rw [← List.length_eq_zero_iff, h, Nat.mul_eq_zero]

section

variable {rasterizer : Rasterizer α} {buffer : Handle .buffer} {cache : GlyphCache α}
  {b : Headless α}

/-- A glyph of the font has a texture with its bitmap, whether it was drawn before or not. -/
theorem Fetched.exists_ok {others : List (Handle .texture)} {index : Nat}
    {p : Except Fault (GlyphTexture α) × GlyphCache α × Headless α} (h : Fetched cache b index p)
    (hkept : CacheKept rasterizer cache b others) (hcount : index < rasterizer.count)
    (hfits : (rasterizer.raster index).bitmap.fits = true) :
    ∃ t, p.1 = .ok ((rasterizer.raster index).onTexture t) ∧
      p.2.2.textures.get? t = some (rasterizer.raster index).bitmap := by
  have hrefused := h.exists_error_iff
  rw [hkept.rasterizer_eq] at hrefused
  cases hanswer : p.1 with
  | error fault =>
      obtain ⟨-, hcount' | hfits'⟩ := hrefused.1 ⟨fault, hanswer⟩
      · exact absurd hcount (Nat.not_lt.2 hcount')
      · rw [hfits] at hfits'
        cases hfits'
  | ok glyph =>
      have hafter := hkept.of_fetched h
      obtain ⟨hglyph, hstored⟩ := hafter.glyphs _ (hafter.get?_eq_some.1 (h.get?_of_ok hanswer))
      exact ⟨glyph.texture, by rw [← hglyph], hstored⟩

section Draw

variable [Add α] [Sub α] [Div α] [NatCast α] [IntCast α]

/-- A glyph without pixels moves the pen. -/
theorem Engine.value_drawGlyphs_of_blank {glyph : Glyph} {texture : GlyphTexture α}
    {cache' : GlyphCache α} {b' : Headless α}
    (hfetch : (cache.fetch b glyph.id.toNat).value = (.ok texture, cache', b'))
    (hblank : texture.width = 0 ∨ texture.height = 0) (color : Rgb) (penX penY : α)
    (rest : List Glyph) :
    (drawGlyphs buffer color cache b penX penY (glyph :: rest)).value =
      (drawGlyphs buffer color cache' b' (penX + pixels glyph.xAdvance)
        (penY + pixels glyph.yAdvance) rest).value := by
  simp only [drawGlyphs, value_bind, hfetch]
  rw [if_pos hblank]

/-- So does a glyph that is drawn. -/
theorem Engine.value_drawGlyphs_of_drawn {glyph : Glyph} {texture : GlyphTexture α}
    {cache' : GlyphCache α} {b' b'' : Headless α} {color : Rgb} {penX penY : α}
    (hfetch : (cache.fetch b glyph.id.toNat).value = (.ok texture, cache', b'))
    (hsolid : ¬ (texture.width = 0 ∨ texture.height = 0))
    (hperform : (Backend.perform b'
      (.draw buffer texture.texture (place glyph texture penX penY) color)).value = (.ok (), b''))
    (rest : List Glyph) :
    (drawGlyphs buffer color cache b penX penY (glyph :: rest)).value =
      (drawGlyphs buffer color cache' b'' (penX + pixels glyph.xAdvance)
        (penY + pixels glyph.yAdvance) rest).value := by
  simp only [drawGlyphs, value_bind, hfetch]
  rw [if_neg hsolid, value_bind, hperform]

/-- A glyph of the font is drawn, if it has pixels, and the pen goes on. -/
theorem Drawable.exists_drawGlyphs_cons (h : Drawable rasterizer buffer cache b)
    (hpass : b.active.isSome = true) {glyph : Glyph} (hcount : glyph.id.toNat < rasterizer.count)
    (hfits : (rasterizer.bitmap glyph).fits = true) (color : Rgb) (penX penY : α) :
    ∃ t cache' b', Drawable rasterizer buffer cache' b' ∧
      b'.textures.get? t = some (rasterizer.bitmap glyph) ∧
      Grown b b' (if (rasterizer.bitmap glyph).pixels = [] then [] else [.quad t
        (Engine.place glyph ((rasterizer.raster glyph.id.toNat).onTexture t) penX penY) color]) ∧
      ∀ rest, (Engine.drawGlyphs buffer color cache b penX penY (glyph :: rest)).value =
        (Engine.drawGlyphs buffer color cache' b' (penX + pixels glyph.xAdvance)
          (penY + pixels glyph.yAdvance) rest).value := by
  obtain ⟨others, hkept⟩ := h.kept
  have hfetched := fetched cache b glyph.id.toNat
  have hdraw := h.fetch glyph.id.toNat
  have hgrown := hfetched.grown hkept.sound
  obtain ⟨t, hok, hstored⟩ := hfetched.exists_ok hkept hcount hfits
  have hblank := Bitmap.pixels_eq_nil_iff hfits
  generalize hfetch : (cache.fetch b glyph.id.toNat).value = p at hdraw hgrown hok hstored
  obtain ⟨answer, cache', b'⟩ := p
  obtain rfl : answer = _ := hok
  by_cases hempty : (rasterizer.bitmap glyph).pixels = []
  · refine ⟨t, cache', b', hdraw, hstored, by rwa [if_pos hempty], ?_⟩
    exact Engine.value_drawGlyphs_of_blank hfetch (hblank.1 hempty) color penX penY
  · have hbuffer : b'.buffers.contains buffer = true := by
      rw [Slots.contains, hdraw.buffer, Option.isSome_some]
    have htexture : b'.textures.contains t = true := by
      rw [Slots.contains, hstored, Option.isSome_some]
    let quad := Engine.place glyph ((rasterizer.raster glyph.id.toNat).onTexture t) penX penY
    have hperform : (Backend.perform b' (.draw buffer t quad color)).value =
        (.ok (), b'.record (.quad t quad color)) :=
      Headless.value_perform_draw (by rwa [hgrown.active]) hbuffer htexture quad color
    have hafter := hdraw.perform (r := .draw buffer t quad color) rfl
    rw [hperform] at hafter
    refine ⟨t, cache', _, hafter, hstored, ?_, ?_⟩
    · rw [if_neg hempty]
      exact hgrown.trans (.record b' _)
    · exact Engine.value_drawGlyphs_of_drawn hfetch (mt hblank.2 hempty) hperform

end Draw

end

/-! ## Places -/

/-- Where the pen is that started at a coordinate and went a distance. -/
def penAt (start : ℚ) (distance : Int) : ℚ := start + (distance : ℚ) / 64

theorem penAt_zero (start : ℚ) : penAt start 0 = start := by
  rw [penAt, Int.cast_zero, zero_div, add_zero]

theorem penAt_add (start : ℚ) (distance : Int) (advance : Int32) :
    penAt start distance + pixels advance = penAt start (distance + advance.toInt) := by
  simp only [penAt, pixels]
  push_cast
  ring

/-- Where a glyph is drawn behind others, the pen starting at a place. -/
def quadAt (x baseline : ℚ) (before : List Glyph) (glyph : Glyph) (raster : Raster ℚ) : Quad ℚ :=
  Quad.ofSize
    (penAt x (xTotal before + glyph.xOffset.toInt) + ((raster.bearingX.toInt : Int) : ℚ))
    (penAt baseline (yTotal before - glyph.yOffset.toInt) - ((raster.bearingY.toInt : Int) : ℚ))
    raster.bitmap.width raster.bitmap.height

theorem place_eq_quadAt (x baseline : ℚ) (before : List Glyph) (glyph : Glyph)
    (raster : Raster ℚ) (t : Handle .texture) :
    Engine.place glyph (raster.onTexture t) (penAt x (xTotal before))
      (penAt baseline (yTotal before)) = quadAt x baseline before glyph raster := by
  have hleft : penAt x (xTotal before) + pixels glyph.xOffset =
      penAt x (xTotal before + glyph.xOffset.toInt) := penAt_add ..
  have htop : penAt baseline (yTotal before) - pixels glyph.yOffset =
      penAt baseline (yTotal before - glyph.yOffset.toInt) := by
    simp only [penAt, pixels]
    push_cast
    ring
  rw [Engine.place, hleft, htop]
  rfl

/-! ## Glyphs one after the other -/

/-- The glyphs with pixels, each with its index, counted from that of the first glyph. -/
def Rasterizer.visible (rasterizer : Rasterizer α) (glyphs : List Glyph) (first : Nat) :
    List (Glyph × Nat) :=
  (glyphs.zipIdx first).filter fun p => (rasterizer.bitmap p.1).pixels ≠ []

theorem Rasterizer.visible_cons (rasterizer : Rasterizer α) (glyph : Glyph) (glyphs : List Glyph)
    (first : Nat) : rasterizer.visible (glyph :: glyphs) first =
      (if (rasterizer.bitmap glyph).pixels = [] then [] else [(glyph, first)]) ++
        rasterizer.visible glyphs (first + 1) := by
  rw [visible, List.zipIdx_cons, List.filter_cons, visible]
  by_cases hempty : (rasterizer.bitmap glyph).pixels = [] <;> simp [hempty]

/-- Whether a command draws the glyph of a list with an index, with its bitmap, where the
glyphs before it lead the pen. -/
def DrawsGlyph (rasterizer : Rasterizer ℚ) (b : Headless ℚ) (x baseline : ℚ) (color : Rgb)
    (glyphs : List Glyph) (p : Glyph × Nat) (c : Command ℚ) : Prop :=
  ∃ t, b.textures.get? t = some (rasterizer.bitmap p.1) ∧
    c = .quad t (quadAt x baseline (glyphs.take p.2) p.1 (rasterizer.raster p.1.id.toNat)) color

section

variable {rasterizer : Rasterizer ℚ} {buffer : Handle .buffer}

/-- Glyphs are drawn behind others, and what comes behind them is drawn where they lead
the pen. -/
theorem Drawable.exists_drawGlyphs
    (hfits : ∀ index < rasterizer.count, (rasterizer.raster index).bitmap.fits = true)
    (x baseline : ℚ) (color : Rgb) {glyphs : List Glyph}
    (hcount : ∀ g ∈ glyphs, g.id.toNat < rasterizer.count) :
    ∀ (before : List Glyph) {cache : GlyphCache ℚ} {b : Headless ℚ},
      Drawable rasterizer buffer cache b → b.active.isSome = true →
      ∃ drawn cache' b', Drawable rasterizer buffer cache' b' ∧ Grown b b' drawn ∧
        List.Forall₂ (DrawsGlyph rasterizer b' x baseline color (before ++ glyphs))
          (rasterizer.visible glyphs before.length) drawn ∧
        ∀ more, (Engine.drawGlyphs buffer color cache b (penAt x (xTotal before))
            (penAt baseline (yTotal before)) (glyphs ++ more)).value =
          (Engine.drawGlyphs buffer color cache' b' (penAt x (xTotal (before ++ glyphs)))
            (penAt baseline (yTotal (before ++ glyphs))) more).value := by
  induction glyphs with
  | nil =>
      intro before cache b h hpass
      refine ⟨[], cache, b, h, .refl b, .nil, fun more => ?_⟩
      rw [List.append_nil, List.nil_append]
  | cons glyph glyphs ih =>
      intro before cache b h hpass
      obtain ⟨hglyph, hglyphs⟩ := List.forall_mem_cons.1 hcount
      obtain ⟨t, cache₁, b₁, h₁, hstored, hgrown₁, hvalue₁⟩ :=
        h.exists_drawGlyphs_cons hpass hglyph (hfits _ hglyph) color (penAt x (xTotal before))
          (penAt baseline (yTotal before))
      obtain ⟨drawn, cache', b', h', hgrown', hdrawn, hvalue'⟩ :=
        ih hglyphs (before ++ [glyph]) h₁ (by rwa [hgrown₁.active])
      rw [List.append_assoc, List.singleton_append] at hdrawn hvalue'
      rw [List.length_append, List.length_singleton] at hdrawn
      have hx : xTotal (before ++ [glyph]) = xTotal before + glyph.xAdvance.toInt :=
        travel_concat ..
      have hy : yTotal (before ++ [glyph]) = yTotal before + glyph.yAdvance.toInt :=
        travel_concat ..
      rw [hx, hy] at hvalue'
      refine ⟨_, cache', b', h', hgrown₁.trans hgrown', ?_, fun more => ?_⟩
      · rw [Rasterizer.visible_cons]
        refine List.rel_append ?_ hdrawn
        split
        · exact .nil
        · refine .cons ⟨t, hgrown'.textures _ _ hstored, ?_⟩ .nil
          rw [place_eq_quadAt, List.take_left]
      · rw [List.cons_append, hvalue₁, penAt_add, penAt_add, hvalue']

end

namespace Engine

/-- Whether an engine is in a pass. -/
structure InPass (e : Engine (Headless α) α) : Prop where
  running : e.isShutDown = false
  active : e.backend.active.isSome = true

/-- Whether a text leaves the pen at a place: it is drawn, and glyphs behind it would be drawn
from there, on what it left. -/
def LeavesPenAt (e : Engine (Headless ℚ) ℚ) (text : String) (x baseline : ℚ) (color : Rgb)
    (penX penY : ℚ) : Prop :=
  ∃ font buffer cache b, e.font = some font ∧ e.buffer = some buffer ∧
    (e.drawText text x baseline color).value =
      (.ok (), { e with backend := b, font := some ⟨font.font, cache⟩ }) ∧
    ∀ more, (drawGlyphs buffer color font.cache e.backend x baseline
        (font.font.shape text ++ more)).value =
      (drawGlyphs buffer color cache b penX penY more).value

/-- In a pass, a text whose glyphs are all in the font is drawn, whatever was drawn before.
Each glyph with pixels is drawn where those before it lead the pen, in order and in the colour,
with a texture that has its bitmap.  In the end the pen is where all glyphs lead it, and that is
as far to the right as the text is wide if its advances hold. -/
theorem drawText_places {font : LoadedFont ℚ} {e : Engine (Headless ℚ) ℚ} (h : e.Used font)
    (hpass : e.InPass)
    (hfits : ∀ index < font.rasterizer.count, (font.rasterizer.raster index).bitmap.fits = true)
    {text : String} (hcount : ∀ g ∈ font.shape text, g.id.toNat < font.rasterizer.count)
    (x baseline : ℚ) (color : Rgb) :
    (∃ e' drawn, (e.drawText text x baseline color).value = (.ok (), e') ∧
      e'.backend.commands = e.backend.commands ++ drawn ∧
      List.Forall₂ (DrawsGlyph font.rasterizer e'.backend x baseline color (font.shape text))
        (font.rasterizer.visible (font.shape text) 0) drawn) ∧
    e.LeavesPenAt text x baseline color (penAt x (xTotal (font.shape text)))
      (penAt baseline (yTotal (font.shape text))) ∧
    (AdvancesHold (font.shape text) → e.LeavesPenAt text x baseline color
      (x + e.shaper.measure text) (penAt baseline (yTotal (font.shape text)))) := by
  obtain ⟨cache, buffer, hfont, hbuffer, hdraw⟩ := h.draws.resolve_left fun hnone => by
    have hrunning := hpass.running
    rw [isShutDown, hnone] at hrunning
    cases hrunning
  obtain ⟨drawn, cache', b', -, hgrown, hdrawn, hvalue⟩ :=
    hdraw.exists_drawGlyphs hfits x baseline color hcount [] hpass.active
  have hx : penAt x (xTotal []) = x := penAt_zero x
  have hbaseline : penAt baseline (yTotal []) = baseline := penAt_zero baseline
  rw [List.nil_append] at hvalue hdrawn
  rw [hx, hbaseline] at hvalue
  have htext := value_drawText hfont hbuffer text x baseline color
    (by simpa [drawGlyphs] using hvalue [])
  have hleaves : e.LeavesPenAt text x baseline color (penAt x (xTotal (font.shape text)))
      (penAt baseline (yTotal (font.shape text))) :=
    ⟨_, buffer, cache', b', hfont, hbuffer, htext, hvalue⟩
  refine ⟨⟨_, drawn, htext, hgrown.commands, hdrawn⟩, hleaves, fun hsums => ?_⟩
  have hmeasure : e.shaper.measure text = (xTotal (font.shape text) : ℚ) / 64 := by
    rw [Shaper.measure, shaper, hfont]
    exact totalAdvance_clustersOfGlyphs text hsums
  rwa [hmeasure]

/-- A font of a blank, a dot and a bar. -/
def morse : LoadedFont ℚ where
  shape text := text.toList.zipIdx.map fun p =>
    if p.1 = '.' then ⟨1, p.2, 96, -32, 0, 16⟩
    else if p.1 = '-' then ⟨2, p.2, 160, 0, -8, 0⟩
    else ⟨0, p.2, 64, 0, 0, 0⟩
  rasterizer :=
    { count := 3
      raster index :=
        if index = 0 then ⟨⟨0, 0, []⟩, 0, 0, 1⟩
        else if index = 1 then ⟨⟨1, 1, [255]⟩, 0, 1, 3 / 2⟩
        else ⟨⟨2, 1, [200, 255]⟩, 1, 2, 5 / 2⟩ }

/-- A backend with a texture slot that is used again. -/
def worn : Headless ℚ where
  textures := { slots := [⟨2, none⟩], free := [1] }

/-- An engine for them over it. -/
def telegraph : Engine (Headless ℚ) ℚ where
  backend :=
    { worn with
      programs := { slots := [⟨1, some ()⟩] }
      buffers := { slots := [⟨1, some ()⟩] } }
  program := some ⟨1, 1⟩
  buffer := some ⟨1, 1⟩
  font := some ⟨morse, { rasterizer := morse.rasterizer }⟩

theorem build_telegraph : (build worn (.ok morse) 16).value = .ok telegraph :=
  value_build worn morse 16

theorem reachable_worn : worn.Reachable :=
  .perform (.dropTexture ⟨1, 1⟩) (.perform (.upload ⟨1, 1, [7]⟩) .new)

/-- The engine in a pass, after a bar was drawn. -/
def signalling : Engine (Headless ℚ) ℚ :=
  ((telegraph.serve (.start 80 20)).value.serve (.text "-" 3 7 ⟨0, 0, 0⟩)).value

/-- A dot that was not drawn before, a blank, the bar that was, and the dot again, higher. -/
theorem drawText_places_signalling :
    signalling.Used morse ∧ signalling.InPass ∧ signalling.cachedGlyphs = 1 ∧
    AdvancesHold (morse.shape ". -.") ∧
    (∃ e' t t' t'', (signalling.drawText ". -." 0 10 ⟨1, 0, 0⟩).value = (.ok (), e') ∧
      e'.backend.textures.get? t = some ⟨1, 1, [255]⟩ ∧
      e'.backend.textures.get? t' = some ⟨2, 1, [200, 255]⟩ ∧
      e'.backend.textures.get? t'' = some ⟨1, 1, [255]⟩ ∧
      e'.backend.commands = signalling.backend.commands ++
        [.quad t ⟨0, 35 / 4, 1, 39 / 4⟩ ⟨1, 0, 0⟩,
          .quad t' ⟨27 / 8, 15 / 2, 43 / 8, 17 / 2⟩ ⟨1, 0, 0⟩,
          .quad t'' ⟨5, 33 / 4, 6, 37 / 4⟩ ⟨1, 0, 0⟩]) ∧
    signalling.LeavesPenAt ". -." 0 10 ⟨1, 0, 0⟩ (0 + signalling.shaper.measure ". -.") 9 := by
  have hused : signalling.Used morse :=
    .served _ (.served _ (.built reachable_worn build_telegraph))
  have hpass : signalling.InPass := ⟨rfl, rfl⟩
  have hsums : AdvancesHold (morse.shape ". -.") := .of_spread (by decide)
  have hcount : ∀ g ∈ morse.shape ". -.", g.id.toNat < morse.rasterizer.count := by decide
  obtain ⟨⟨e', drawn, htext, hcommands, hdrawn⟩, -, hleaves⟩ :=
    drawText_places hused hpass (by decide) hcount 0 10 ⟨1, 0, 0⟩
  rw [show morse.rasterizer.visible (morse.shape ". -.") 0 =
    [(⟨1, 0, 96, -32, 0, 16⟩, 0), (⟨2, 2, 160, 0, -8, 0⟩, 2), (⟨1, 3, 96, -32, 0, 16⟩, 3)] from rfl]
    at hdrawn
  rcases hdrawn with _ | ⟨⟨t, ht, rfl⟩, _ | ⟨⟨t', ht', rfl⟩, _ | ⟨⟨t'', ht'', rfl⟩, _ | _⟩⟩⟩
  have hdown : penAt 10 (yTotal (morse.shape ". -.")) = 9 := by decide +kernel
  refine ⟨hused, hpass, rfl, hsums, ⟨e', t, t', t'', htext, ht, ht', ht'', ?_⟩, ?_⟩
  · rw [hcommands]
    simp only [List.append_cancel_left_eq, List.cons.injEq, Command.quad.injEq, true_and, and_true]
    decide +kernel
  · rw [← hdown]
    exact hleaves hsums

end Engine

end Colloquy.Typeset
