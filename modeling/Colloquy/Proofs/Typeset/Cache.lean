import Colloquy.Proofs.Render.Audit
import Colloquy.Proofs.Render.Store
import Colloquy.Typeset.GlyphCache

/-!
# Glyph caches on a shared backend

A cache makes textures in a headless backend that others use as well.  Calls of the
cache and acts of others come in any order (`Shared`).  The others may do anything but
release textures of the cache.  They have the textures that were there in the
beginning and what they make.

The textures that are there are those of the cached glyphs and those of the others,
none of them twice (`CacheKept`).  Each call and each act keeps this, together with
what the textures of the glyphs hold.

The order in which a cache releases its textures is left open.
-/

namespace Colloquy.Typeset

open scoped List
open Colloquy.Render Logged

variable {α B : Type}

namespace GlyphCache

/-- The textures of the glyphs drawn so far. -/
def textures (cache : GlyphCache α) : List (Handle .texture) :=
  cache.entries.map fun entry => entry.2.texture

/-- All textures released in an order, and how many there were. -/
def releaseIn [Backend B α] (order : List (Nat × GlyphTexture α)) (cache : GlyphCache α)
    (backend : B) : Logged (Nat × GlyphCache α × B) := do
  let backend ← dropTextures backend order
  pure (cache.size, { cache with entries := [] }, backend)

theorem release_eq [Backend B α] (cache : GlyphCache α) (backend : B) :
    cache.release backend = cache.releaseIn cache.entries backend := rfl

end GlyphCache

/-! ## Textures of others -/

/-- The handle of a texture. -/
def textureOf? : Resource → Option (Handle .texture)
  | ⟨.texture, h⟩ => some h
  | _ => none

theorem textureOf?_eq_some {x : Resource} {t : Handle .texture} :
    textureOf? x = some t ↔ x = ⟨.texture, t⟩ := by
  obtain ⟨kind, h⟩ := x
  cases kind <;> simp [textureOf?]

theorem textureOf?_eq_none {x : Resource} (hx : x.kind ≠ .texture) : textureOf? x = none := by
  refine Option.eq_none_iff_forall_ne_some.2 fun t ht => hx ?_
  rw [textureOf?_eq_some.1 ht]

/-- The textures of others after an act of theirs. -/
def othersAfter (b : Headless α) (others : List (Handle .texture)) (a : Act α) :
    List (Handle .texture) :=
  ((b.made? a).bind textureOf?).toList ++ others.diff (a.released?.bind textureOf?).toList

/-- What a cache, a backend and the textures of others can become. -/
inductive Shared (rasterizer : Rasterizer α) :
    GlyphCache α → Headless α → List (Handle .texture) → Prop where
  /-- An empty cache.  Whatever is in the backend belongs to others. -/
  | new {b : Headless α} : b.Reachable → Shared rasterizer { rasterizer } b b.textures.handles
  /-- A glyph asked for. -/
  | fetch {cache : GlyphCache α} {b : Headless α} {others : List (Handle .texture)} (index : Nat) :
      Shared rasterizer cache b others →
      Shared rasterizer (cache.fetch b index).value.2.1 (cache.fetch b index).value.2.2 others
  /-- All textures released, in some order. -/
  | release {cache : GlyphCache α} {b : Headless α} {others : List (Handle .texture)}
      {order : List (Nat × GlyphTexture α)} : order ~ cache.entries →
      Shared rasterizer cache b others →
      Shared rasterizer (cache.releaseIn order b).value.2.1 (cache.releaseIn order b).value.2.2
        others
  /-- An act of others, which releases no texture of the cache. -/
  | other {cache : GlyphCache α} {b : Headless α} {others : List (Handle .texture)} (a : Act α) :
      (∀ h ∈ cache.textures, a.released? ≠ some ⟨.texture, h⟩) →
      Shared rasterizer cache b others →
      Shared rasterizer cache (b.act a) (othersAfter b others a)

/-- What is kept by calls of a cache and acts of others. -/
structure CacheKept (rasterizer : Rasterizer α) (cache : GlyphCache α) (b : Headless α)
    (others : List (Handle .texture)) : Prop where
  sound : b.Sound
  rasterizer_eq : cache.rasterizer = rasterizer
  /-- The textures that are there are those of the cached glyphs and those of others. -/
  handles : b.textures.handles ~ cache.textures ++ others
  /-- No glyph is cached twice. -/
  indices : (cache.entries.map Prod.fst).Nodup
  /-- A cached glyph is what the rasterizer makes of it. -/
  glyphs : ∀ entry ∈ cache.entries,
    entry.2 = (rasterizer.raster entry.1).onTexture entry.2.texture ∧
    b.textures.get? entry.2.texture = some (rasterizer.raster entry.1).bitmap

namespace CacheKept

variable {rasterizer : Rasterizer α} {cache : GlyphCache α} {b : Headless α}
  {others : List (Handle .texture)}

theorem new (hb : b.Reachable) : CacheKept rasterizer { rasterizer } b b.textures.handles where
  sound := hb.sound
  rasterizer_eq := rfl
  handles := .refl _
  indices := List.nodup_nil
  glyphs := by simp

theorem asRead_of_mem_textures (h : CacheKept rasterizer cache b others) {t : Handle .texture}
    (ht : t ∈ cache.textures) : t.asRead = t :=
  h.sound.textures.odd t (h.handles.mem_iff.2 (List.mem_append_left _ ht))

theorem handles_other (h : CacheKept rasterizer cache b others) {a : Act α}
    (ha : ∀ t ∈ cache.textures, a.released? ≠ some ⟨.texture, t⟩) :
    (b.act a).textures.handles ~ cache.textures ++ othersAfter b others a := by
  cases h.sound.storeEffect a .texture with
  | @makes t _ _ hmade hreleased hstore =>
      have hothers : othersAfter b others a = t :: others := by
        simp [othersAfter, hmade, hreleased, textureOf?]
      rw [hothers]
      exact hstore.handles.trans ((h.handles.cons t).trans List.perm_middle.symm)
  | @releases t hmade hreleased hstore =>
      have hothers : othersAfter b others a = others.erase t.asRead := by
        simp [othersAfter, hmade, hreleased, textureOf?]
      -- no texture of the cache is released, so it is one of the others
      have hmem : t.asRead ∈ others := by
        have hthere : t.asRead ∈ cache.textures ++ others :=
          (hstore.handles.symm.trans h.handles).mem_iff.1 (List.mem_cons_self ..)
        refine (List.mem_append.1 hthere).resolve_left fun hcached => ?_
        exact ha _ hcached hreleased
      have hperm : t.asRead :: (b.act a).textures.handles ~
          t.asRead :: (cache.textures ++ others.erase t.asRead) :=
        hstore.handles.symm.trans (h.handles.trans
          (((List.perm_cons_erase hmem).append_left _).trans List.perm_middle))
      rw [hothers]
      exact hperm.cons_inv
  | rests hmade hreleased hstore =>
      -- whatever the act made is no texture, and what it was to release was not there
      have hnew : (b.made? a).bind textureOf? = none := by
        refine Option.bind_eq_none_iff.2 fun x hx => ?_
        exact textureOf?_eq_none (hmade x hx)
      have hsame : others.diff (a.released?.bind textureOf?).toList = others := by
        cases ht : a.released?.bind textureOf? with
        | none => rfl
        | some t =>
            obtain ⟨x, hx, ht⟩ := Option.bind_eq_some_iff.1 ht
            rw [textureOf?_eq_some.1 ht] at hx
            have hgone : b.textures.get? t = none := hreleased t hx
            have hmem : t ∉ others := fun hmem => by
              have hthere := h.sound.textures.isSome_get?
                (h.handles.mem_iff.2 (List.mem_append_right _ hmem))
              rw [hgone] at hthere
              cases hthere
            rw [Option.toList_some, List.diff_cons, List.diff_nil, List.erase_of_not_mem hmem]
      rw [othersAfter, hnew, hsame]
      show ((b.act a).store .texture).handles ~ _
      rw [hstore]
      exact h.handles

theorem other (h : CacheKept rasterizer cache b others) {a : Act α}
    (ha : ∀ t ∈ cache.textures, a.released? ≠ some ⟨.texture, t⟩) :
    CacheKept rasterizer cache (b.act a) (othersAfter b others a) where
  sound := h.sound.act a
  rasterizer_eq := h.rasterizer_eq
  handles := h.handles_other ha
  indices := h.indices
  glyphs := by
    intro entry hentry
    have ht : entry.2.texture ∈ cache.textures := List.mem_map_of_mem hentry
    obtain ⟨hglyph, hget⟩ := h.glyphs entry hentry
    have hstored : (b.store .texture).get? entry.2.texture =
        some (rasterizer.raster entry.1).bitmap := hget
    exact ⟨hglyph, Headless.get?_act_of_unreleased h.sound (h.asRead_of_mem_textures ht) hstored
      (ha _ ht)⟩

end CacheKept

/-! ## Glyphs asked for -/

/-- What asking for a glyph gives. -/
inductive Fetched (cache : GlyphCache α) (b : Headless α) (index : Nat) :
    Except Fault (GlyphTexture α) × GlyphCache α × Headless α → Prop where
  /-- The glyph is cached. -/
  | cached {glyph : GlyphTexture α} (hget : cache.get? index = some glyph) :
      Fetched cache b index (.ok glyph, cache, b)
  /-- The font has no such glyph. -/
  | outside (hget : cache.get? index = none) (hcount : cache.rasterizer.count ≤ index) :
      Fetched cache b index (.error (.glyphIndex index), cache, b)
  /-- The backend refuses the bitmap. -/
  | refused (fault : BackendFault) (hget : cache.get? index = none)
      (hcount : index < cache.rasterizer.count)
      (hfits : (cache.rasterizer.raster index).bitmap.fits = false) :
      Fetched cache b index (.error (.backend fault), cache, b)
  /-- A texture is made. -/
  | made (hget : cache.get? index = none) (hcount : index < cache.rasterizer.count)
      (hfits : (cache.rasterizer.raster index).bitmap.fits = true) {t : Handle .texture}
      {textures : Slots .texture Bitmap}
      (hinsert : b.textures.insert (cache.rasterizer.raster index).bitmap = (t, textures)) :
      Fetched cache b index
        (.ok ((cache.rasterizer.raster index).onTexture t),
          { cache with entries :=
              cache.entries ++ [(index, (cache.rasterizer.raster index).onTexture t)] },
          { b with textures })

theorem fetched (cache : GlyphCache α) (b : Headless α) (index : Nat) :
    Fetched cache b index (cache.fetch b index).value := by
  rw [GlyphCache.fetch]
  cases hget : cache.get? index with
  | some glyph => exact .cached hget
  | none =>
      by_cases hcount : index < cache.rasterizer.count
      · cases hfits : (cache.rasterizer.raster index).bitmap.fits with
        | true =>
            cases hinsert : b.textures.insert (cache.rasterizer.raster index).bitmap with
            | mk t textures =>
                have hupload : b.upload (cache.rasterizer.raster index).bitmap =
                    (.ok t, { b with textures }) := by
                  rw [Headless.upload, if_pos hfits, hinsert]
                simpa [hcount, Backend.perform, Headless.perform, hupload] using
                  Fetched.made hget hcount hfits hinsert
        | false =>
            simpa [hcount, Backend.perform, Headless.perform, Headless.upload, hfits] using
              Fetched.refused _ hget hcount hfits
      · simpa [hcount] using Fetched.outside hget (Nat.le_of_not_lt hcount)

namespace Fetched

variable {cache : GlyphCache α} {b : Headless α} {index : Nat}
  {p : Except Fault (GlyphTexture α) × GlyphCache α × Headless α}

theorem get?_of_ok (h : Fetched cache b index p) {glyph : GlyphTexture α} (hok : p.1 = .ok glyph) :
    p.2.1.get? index = some glyph := by
  cases h with
  | cached hget =>
      cases hok
      exact hget
  | made hget _ _ _ =>
      cases hok
      rw [GlyphCache.get?] at hget
      simp [GlyphCache.get?, List.lookup_append, hget]
  | outside | refused => cases hok

theorem unchanged_of_error (h : Fetched cache b index p) {fault : Fault}
    (herror : p.1 = .error fault) : p.2 = (cache, b) := by
  cases h with
  | cached | made => cases herror
  | outside | refused => rfl

theorem exists_error_iff (h : Fetched cache b index p) :
    (∃ fault, p.1 = .error fault) ↔ cache.get? index = none ∧
      (cache.rasterizer.count ≤ index ∨ (cache.rasterizer.raster index).bitmap.fits = false) := by
  cases h with
  | cached hget => simp [hget]
  | outside hget hcount => simp [hget, hcount]
  | refused fault hget hcount hfits => simp [hget, hfits]
  | made hget hcount hfits hinsert => simp [hget, hfits, Nat.not_le.2 hcount]

end Fetched

theorem lookup_eq_none {β : Type} {l : List (Nat × β)} {k : Nat} :
    l.lookup k = none ↔ k ∉ l.map Prod.fst := by
  rw [List.lookup_eq_none_iff]
  simp only [List.mem_map, not_exists, not_and, bne_iff_ne, ne_eq]
  exact ⟨fun h p hp he => h p hp he.symm, fun h p hp he => h p hp he.symm⟩

theorem lookup_eq_some {β : Type} {l : List (Nat × β)} (hl : (l.map Prod.fst).Nodup) {k : Nat}
    {v : β} : l.lookup k = some v ↔ (k, v) ∈ l := by
  rw [List.lookup_eq_some_iff]
  constructor
  · rintro ⟨front, back, rfl, -⟩
    simp
  · intro hv
    obtain ⟨front, back, rfl⟩ := List.append_of_mem hv
    refine ⟨front, back, rfl, fun p hp => ?_⟩
    rw [List.map_append, List.nodup_append] at hl
    exact bne_iff_ne.2 (hl.2.2 p.1 (List.mem_map_of_mem hp) k (by simp)).symm

theorem CacheKept.of_fetched {rasterizer : Rasterizer α} {cache : GlyphCache α} {b : Headless α}
    {others : List (Handle .texture)} (h : CacheKept rasterizer cache b others) {index : Nat}
    {p : Except Fault (GlyphTexture α) × GlyphCache α × Headless α}
    (hp : Fetched cache b index p) : CacheKept rasterizer p.2.1 p.2.2 others := by
  cases hp with
  | cached hget => exact h
  | outside hget hcount => exact h
  | refused fault hget hcount hfits => exact h
  | @made hget hcount hfits t textures hinsert =>
      obtain ⟨hsound, rfl, hhandles, hindices, hglyphs⟩ := h
      have hin := Slots.inserted hsound.textures (cache.rasterizer.raster index).bitmap
      have hsound' := hsound.textures.insert (cache.rasterizer.raster index).bitmap
      rw [hinsert] at hin hsound'
      have hnew : index ∉ cache.entries.map Prod.fst := lookup_eq_none.1 hget
      exact
        { sound := ⟨hsound.programs, hsound.buffers, hsound'⟩
          rasterizer_eq := rfl
          handles := by
            have hperm : textures.handles ~ t :: (cache.textures ++ others) :=
              hin.handles.trans (hhandles.cons t)
            simpa [GlyphCache.textures, Raster.onTexture] using
              hperm.trans List.perm_middle.symm
          indices := by
            rw [List.map_append, List.nodup_append']
            exact ⟨hindices, List.nodup_singleton _, by simpa using hnew⟩
          glyphs := by
            intro entry hentry
            rcases List.mem_append.1 hentry with hentry | hentry
            · obtain ⟨hglyph, hget⟩ := hglyphs entry hentry
              exact ⟨hglyph, hin.get?_of_some hget⟩
            · cases List.mem_singleton.1 hentry
              exact ⟨rfl, (hin.get? t).trans (if_pos hin.asRead)⟩ }

/-! ## All textures released -/

namespace GlyphCache

/-- The textures of entries are released, and nothing else changes. -/
theorem quietly_dropTextures_of_perm {rest : List (Handle .texture)}
    (entries : List (Nat × GlyphTexture α)) {b : Headless α} (hb : b.Sound)
    (hhandles : b.textures.handles ~ entries.map (fun entry => entry.2.texture) ++ rest) :
    (dropTextures b entries).Quietly fun b' => b'.Sound ∧ b'.textures.handles ~ rest ∧
      (∀ t ∈ rest, b'.textures.get? t = b.textures.get? t) ∧
      b' = { b with textures := b'.textures } := by
  induction entries generalizing b with
  | nil => exact quietly_pure ⟨hb, hhandles, fun t ht => rfl, rfl⟩
  | cons entry entries ih =>
      have hmem : entry.2.texture ∈ b.textures.handles := hhandles.mem_iff.2 (by simp)
      obtain ⟨textures, hremove, hperm⟩ := Slots.exists_remove? hb.textures hmem
      have hperform : Backend.perform b (.dropTexture entry.2.texture) =
          pure ((), { b with textures }) := by
        simp [Backend.perform, Headless.perform, Headless.release, hremove]
      have hrest := (hperm.symm.trans hhandles).cons_inv
      have hsound : ({ b with textures } : Headless α).Sound :=
        ⟨hb.programs, hb.buffers, hb.textures.remove? hremove⟩
      rw [dropTextures, hperform, pure_bind]
      refine (ih hsound hrest).imp ?_
      rintro b' ⟨hsound', hhandles', hget, hothers⟩
      refine ⟨hsound', hhandles', fun t ht => (hget t ht).trans ?_, hothers⟩
      -- the texture of another is not the one released
      have hnodup := hhandles.nodup_iff.1 b.textures.nodup_handles
      have hne : t ≠ entry.2.texture := by
        rintro rfl
        exact (List.nodup_cons.1 hnodup).1 (List.mem_append_right _ ht)
      have hread := hb.textures.odd t (hhandles.mem_iff.2 (List.mem_append_right _ ht))
      rw [(Slots.removed hremove).get?, hread, hb.textures.odd _ hmem, if_neg hne]

theorem entries_dropTextures [Backend B α] (entries : List (Nat × GlyphTexture α))
    (b : Audited B) : (dropTextures b entries).value.entries =
      b.entries ++ entries.map fun entry => .released ⟨.texture, entry.2.texture⟩ := by
  induction entries generalizing b with
  | nil => simp [dropTextures]
  | cons entry entries ih =>
      rw [dropTextures, value_bind, ih]
      simp [Backend.perform, Request.auditEntries, Request.made?, Request.released?]

end GlyphCache

namespace CacheKept

variable {rasterizer : Rasterizer α} {cache : GlyphCache α} {b : Headless α}
  {others : List (Handle .texture)} {order : List (Nat × GlyphTexture α)}

theorem quietly_releaseIn (h : CacheKept rasterizer cache b others)
    (horder : order ~ cache.entries) :
    (cache.releaseIn order b).Quietly fun p =>
      CacheKept rasterizer p.2.1 p.2.2 others ∧ p.1 = cache.entries.length ∧ p.2.1.entries = [] ∧
      (∀ t ∈ others, p.2.2.textures.get? t = b.textures.get? t) ∧
      p.2.2 = { b with textures := p.2.2.textures } := by
  have hhandles := h.handles.trans ((horder.symm.map fun entry => entry.2.texture).append_right _)
  refine (GlyphCache.quietly_dropTextures_of_perm order h.sound hhandles).bind ?_
  rintro b' ⟨hsound, hothers, hget, hrest⟩
  refine quietly_pure ⟨?_, rfl, rfl, hget, hrest⟩
  exact
    { sound := hsound
      rasterizer_eq := h.rasterizer_eq
      handles := hothers
      indices := List.nodup_nil
      glyphs := by simp }

theorem nodup_textures (h : CacheKept rasterizer cache b others) :
    (cache.textures ++ others).Nodup :=
  h.handles.nodup_iff.1 b.textures.nodup_handles

theorem get?_eq_some (h : CacheKept rasterizer cache b others) {index : Nat}
    {glyph : GlyphTexture α} :
    cache.get? index = some glyph ↔ (index, glyph) ∈ cache.entries :=
  lookup_eq_some h.indices

end CacheKept

theorem Shared.kept {rasterizer : Rasterizer α} {cache : GlyphCache α} {b : Headless α}
    {others : List (Handle .texture)} (h : Shared rasterizer cache b others) :
    CacheKept rasterizer cache b others := by
  induction h with
  | new hb => exact .new hb
  | fetch index _ ih => exact ih.of_fetched (fetched _ _ index)
  | release horder _ ih => exact (ih.quietly_releaseIn horder).2.1
  | other a ha _ ih => exact ih.other ha

/-- A cache on a backend that others use has a texture for each glyph that it has drawn
and no others.  A texture holds what the rasterizer makes of its glyph.  A glyph asked
for again is the same one.  A glyph is refused where the font does not have it or its
bitmap does not fit, and then nothing changes.  When all textures are released, each of
them is released once, and nothing else changes. -/
theorem Shared.cache_keeps {rasterizer : Rasterizer α} {cache : GlyphCache α} {b : Headless α}
    {others : List (Handle .texture)} (h : Shared rasterizer cache b others) :
    (cache.entries.map Prod.fst).Nodup ∧
    (∀ index glyph, cache.get? index = some glyph →
      (glyph.texture ∈ b.textures.handles ∧ glyph.texture ∉ others) ∧
      glyph = (rasterizer.raster index).onTexture glyph.texture ∧
      b.textures.get? glyph.texture = some (rasterizer.raster index).bitmap ∧
      cache.fetch b index = pure (.ok glyph, cache, b)) ∧
    (∀ t ∈ b.textures.handles, t ∉ others →
      ∃! index, (cache.get? index).map GlyphTexture.texture = some t) ∧
    (∀ index glyph, (cache.fetch b index).value.1 = .ok glyph →
      (cache.fetch b index).value.2.1.get? index = some glyph ∧
      glyph = (rasterizer.raster index).onTexture glyph.texture ∧
      (cache.fetch b index).value.2.2.textures.get? glyph.texture =
        some (rasterizer.raster index).bitmap) ∧
    (∀ index fault, (cache.fetch b index).value.1 = .error fault →
      (cache.fetch b index).value.2 = (cache, b)) ∧
    (∀ index, (∃ fault, (cache.fetch b index).value.1 = .error fault) ↔
      cache.get? index = none ∧
        (rasterizer.count ≤ index ∨ (rasterizer.raster index).bitmap.fits = false)) ∧
    cache.release b = cache.releaseIn cache.entries b ∧ ∀ order, order ~ cache.entries →
      ((cache.releaseIn order b).Quietly fun p =>
        p.1 = cache.entries.length ∧ p.2.1.entries = [] ∧ p.2.2.textures.handles ~ others ∧
        (∀ t ∈ others, p.2.2.textures.get? t = b.textures.get? t) ∧
        p.2.2 = { b with textures := p.2.2.textures }) ∧
      ∃ released, released ~ cache.textures ∧ released.Nodup ∧
        (cache.releaseIn order ({ inner := b } : Audited (Headless α))).value.2.2.entries =
          released.map fun t => .released ⟨.texture, t⟩ := by
  have hkept := h.kept
  refine ⟨hkept.indices, ?_, ?_, ?_, ?_, ?_, cache.release_eq b, ?_⟩
  · intro index glyph hget
    have hentry := hkept.get?_eq_some.1 hget
    have ht : glyph.texture ∈ cache.textures :=
      List.mem_map_of_mem (f := fun entry => entry.2.texture) hentry
    obtain ⟨hglyph, hstored⟩ := hkept.glyphs _ hentry
    refine ⟨⟨?_, ?_⟩, hglyph, hstored, by rw [GlyphCache.fetch, hget]⟩
    · exact hkept.handles.mem_iff.2 (List.mem_append_left _ ht)
    · exact fun hothers => (List.nodup_append.1 hkept.nodup_textures).2.2 _ ht _ hothers rfl
  · intro t ht hothers
    have hmem := (List.mem_append.1 (hkept.handles.mem_iff.1 ht)).resolve_right hothers
    obtain ⟨⟨index, glyph⟩, hentry, rfl⟩ := List.mem_map.1 hmem
    refine ⟨index, ?_, fun index' hindex' => ?_⟩
    · simp [hkept.get?_eq_some.2 hentry]
    · obtain ⟨glyph', hget, hsame⟩ := Option.map_eq_some_iff.1 hindex'
      have hnodup := hkept.nodup_textures.of_append_left
      have hentries := List.inj_on_of_nodup_map hnodup (hkept.get?_eq_some.1 hget) hentry hsame
      exact congrArg Prod.fst hentries
  · intro index glyph hok
    have hget := (fetched cache b index).get?_of_ok hok
    have hafter := hkept.of_fetched (fetched cache b index)
    exact ⟨hget, hafter.glyphs _ (hafter.get?_eq_some.1 hget)⟩
  · exact fun index fault => (fetched cache b index).unchanged_of_error
  · intro index
    rw [(fetched cache b index).exists_error_iff, hkept.rasterizer_eq]
  · intro order horder
    obtain ⟨hquiet, hafter, hcount, hempty, hget, hrest⟩ := hkept.quietly_releaseIn horder
    have hhandles := hafter.handles
    rw [GlyphCache.textures, hempty] at hhandles
    refine ⟨⟨hquiet, hcount, hempty, hhandles, hget, hrest⟩, ?_⟩
    refine ⟨order.map fun entry => entry.2.texture, horder.map _, ?_, ?_⟩
    · exact (horder.map _).nodup_iff.2 hkept.nodup_textures.of_append_left
    · have haudit := GlyphCache.entries_dropTextures order ({ inner := b } : Audited (Headless α))
      simpa [GlyphCache.releaseIn, Function.comp_def] using haudit

/-- A face of three glyphs.  The bitmap of the second one does not fit. -/
def threeGlyphs : Rasterizer Nat where
  count := 3
  raster index := ⟨⟨1, 1, if index = 1 then [] else [UInt8.ofNat index]⟩, 0, 1, index + 8⟩

/-- A backend with a texture of others. -/
def oneTexture : Headless Nat := (({} : Headless Nat).perform (.upload ⟨1, 1, [255]⟩)).value.2

/-- A cache and the backend after the first glyph was drawn. -/
def firstDrawn : GlyphCache Nat × Headless Nat :=
  (({ rasterizer := threeGlyphs } : GlyphCache Nat).fetch oneTexture 0).value.2

theorem Shared.cache_keeps_firstDrawn :
    Shared threeGlyphs firstDrawn.1 firstDrawn.2 [⟨1, 1⟩] ∧
    (∃ fault, (firstDrawn.1.fetch firstDrawn.2 1).value.1 = .error fault) ∧
    (firstDrawn.1.fetch firstDrawn.2 0).value =
      (.ok ⟨⟨1, 2⟩, 1, 1, 0, 1, 8⟩, firstDrawn.1, firstDrawn.2) ∧
    (firstDrawn.1.release firstDrawn.2).value.2.2.textures.handles ~ [⟨1, 1⟩] := by
  have hshared : Shared threeGlyphs firstDrawn.1 firstDrawn.2 [⟨1, 1⟩] :=
    .fetch 0 (.new (.perform (.upload ⟨1, 1, [255]⟩) .new))
  obtain ⟨-, hcached, -, -, -, herror, hrelease, hreleased⟩ := Shared.cache_keeps hshared
  refine ⟨hshared, ?_, ?_, ?_⟩
  · exact (herror 1).2 ⟨rfl, .inr rfl⟩
  · rw [(hcached 0 ⟨⟨1, 2⟩, 1, 1, 0, 1, 8⟩ rfl).2.2.2]
    rfl
  · rw [hrelease]
    exact (hreleased firstDrawn.1.entries (.refl _)).1.2.2.2.1

end Colloquy.Typeset
