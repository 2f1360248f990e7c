import Colloquy.Proofs.Meeting
import Colloquy.Proofs.Text.Bytes
import Colloquy.Proofs.Typeset.Strips
import Colloquy.Proofs.Typeset.Sums

/-!
# Glyphs fold into clusters

The clusters of glyphs are read off the sums of their advances, so how the glyphs stand in
the shaped text does not matter.  What the clusters say of the glyphs (`Folds`) is enough for
them to cover the text where a glyph is at its first byte and none is behind its last one
(`Folds.covers`).  They tile it when the glyphs stand between its characters.
-/

namespace Colloquy.Typeset

open Colloquy.Text

variable {es : List (Nat × Int32)} {glyphs : List Glyph}

/-! ## Clusters that meet -/

section

variable {α : Type u} {c : Cluster α} {clusters : List (Cluster α)}

/-- Clusters of all bytes of a text, the count of which is given. -/
structure Covers (size : Nat) (clusters : List (Cluster α)) : Prop where
  /-- The first cluster starts with the first byte. -/
  first : ∃ c ∈ clusters.head?, c.start = 0
  /-- The last one ends with the last byte. -/
  last : ∃ c ∈ clusters.getLast?, c.stop = size
  /-- None is empty. -/
  nonempty : ∀ c ∈ clusters, c.start < c.stop
  /-- A byte is in one cluster only. -/
  once : ∀ place < size, ∃! c, c ∈ clusters ∧ c.start ≤ place ∧ place < c.stop

/-- A cluster that is not the last ends at the start of a later one. -/
theorem meets_or_last (hjoined : clusters.IsChain fun c d => c.stop = d.start)
    (hstarts : (clusters.map Cluster.start).Pairwise (· < ·)) (hc : c ∈ clusters) :
    (∃ d ∈ clusters, c.stop = d.start ∧ c.start < d.start) ∨ c ∈ clusters.getLast? := by
  induction clusters with
  | nil => cases hc
  | cons b clusters ih =>
      obtain ⟨hbefore, hrest⟩ := List.pairwise_cons.1 hstarts
      cases clusters with
      | nil =>
          cases List.mem_singleton.1 hc
          exact .inr rfl
      | cons d clusters =>
          obtain ⟨hmeet, hchain⟩ := List.isChain_cons_cons.1 hjoined
          rw [List.getLast?_cons_cons]
          rcases List.mem_cons.1 hc with rfl | hc
          · exact .inl ⟨d, by simp, hmeet, hbefore _ (by simp)⟩
          · refine (ih hchain hrest hc).imp_left ?_
            rintro ⟨e, he, hin⟩
            exact ⟨e, List.mem_cons_of_mem _ he, hin⟩

end

/-! ## Clusters of sums -/

variable {α : Type u} [Div α] [NatCast α] [IntCast α] {text : List Char}

theorem starts_clustersOfAdvances (text : List Char) (es : List (Nat × Int32)) :
    (clustersOfAdvances (α := α) text es).map Cluster.start = es.map Prod.fst := by
  fun_induction clustersOfAdvances (α := α) text es with
  | case1 => rfl
  | case2 => rfl
  | case3 p a q b rest ih =>
      rw [List.map_cons, ih]
      rfl

/-- Each cluster ends where the next one starts. -/
theorem isChain_clustersOfAdvances (text : List Char) (es : List (Nat × Int32)) :
    (clustersOfAdvances (α := α) text es).IsChain fun c d => c.stop = d.start := by
  fun_induction clustersOfAdvances (α := α) text es with
  | case1 => exact .nil
  | case2 => exact .singleton _
  | case3 p a q b rest ih =>
      refine List.isChain_cons.2 ⟨fun d hd => ?_, ih⟩
      cases rest with
      | nil => cases hd; rfl
      | cons => cases hd; rfl

theorem getLast?_clustersOfAdvances (text : List Char) (es : List (Nat × Int32)) :
    ∀ c ∈ (clustersOfAdvances (α := α) text es).getLast?, c.stop = byteSize text := by
  fun_induction clustersOfAdvances (α := α) text es with
  | case1 => simp
  | case2 => simp
  | case3 p a q b rest ih =>
      intro c hc
      cases hback : clustersOfAdvances (α := α) text ((q, b) :: rest) with
      | nil => cases rest <;> cases hback
      | cons d ds =>
          rw [hback, List.getLast?_cons_cons, ← hback] at hc
          exact ih c hc

/-- A cluster is that of a sum. -/
theorem exists_of_mem_clustersOfAdvances {c : Cluster α} (h : c ∈ clustersOfAdvances text es) :
    ∃ a, (c.start, a) ∈ es ∧ c.advance = pixels a ∧ c.isSpace = isSpaceAt text c.start := by
  fun_induction clustersOfAdvances (α := α) text es with
  | case1 => cases h
  | case2 p a =>
      cases List.mem_singleton.1 h
      exact ⟨a, List.mem_singleton_self _, rfl, rfl⟩
  | case3 p a q b rest ih =>
      rcases List.mem_cons.1 h with rfl | h
      · exact ⟨a, List.mem_cons_self .., rfl, rfl⟩
      · obtain ⟨sum, hmem, hrest⟩ := ih h
        exact ⟨sum, List.mem_cons_of_mem _ hmem, hrest⟩

/-- Whether a cluster is a space is seen from the byte at its start. -/
theorem isSpaceAt_iff (text : String) (place : Nat) :
    isSpaceAt text.toList place = true ↔
      (encodeUtf8 text)[place]? = some 0x20 ∨ (encodeUtf8 text)[place]? = some 0x09 := by
  have hspace := getElem?_encodeUtf8 (c := ' ') rfl text place
  have htab := getElem?_encodeUtf8 (c := '\t') rfl text place
  rw [isSpaceAt, Bool.or_eq_true, decide_eq_true_iff, decide_eq_true_iff, ← hspace, ← htab]
  rfl

/-! ## Clusters of glyphs -/

/-- What the clusters of a text say of its glyphs. -/
structure Folds (text : String) (glyphs : List Glyph) (clusters : List (Cluster α)) : Prop where
  /-- A cluster starts at each place of a glyph, and nowhere else. -/
  mem_starts : ∀ p, p ∈ clusters.map Cluster.start ↔ p ∈ glyphs.map Glyph.place
  /-- No two start at one place, and they are in order. -/
  starts : (clusters.map Cluster.start).Pairwise (· < ·)
  /-- Each ends where the next one starts. -/
  joined : clusters.IsChain fun c d => c.stop = d.start
  /-- The last one ends with the text. -/
  last : ∀ c ∈ clusters.getLast?, c.stop = (encodeUtf8 text).length
  /-- Each is as wide as all glyphs of its place are together. -/
  advance : ∀ c ∈ clusters, ∃ sum : Int32, c.advance = pixels sum ∧
    sum.toInt = ((glyphs.filter fun g => g.place = c.start).map fun g => g.xAdvance.toInt).sum
  /-- Those that start with the byte of a space or a tab are spaces. -/
  isSpace : ∀ c ∈ clusters, c.isSpace = true ↔
    (encodeUtf8 text)[c.start]? = some 0x20 ∨ (encodeUtf8 text)[c.start]? = some 0x09

theorem places_entries (glyphs : List Glyph) :
    (glyphs.map Glyph.entry).map Prod.fst = glyphs.map Glyph.place := by
  rw [List.map_map]
  rfl

theorem sumAt_entries (place : Nat) (glyphs : List Glyph) :
    sumAt place (glyphs.map Glyph.entry) =
      ((glyphs.filter fun g => g.place = place).map fun g => g.xAdvance.toInt).sum := by
  rw [sumAt, List.filter_map, List.map_map]
  rfl

theorem spread_entries (glyphs : List Glyph) :
    spread (glyphs.map Glyph.entry) = (glyphs.map fun g => g.xAdvance.toInt.natAbs).sum := by
  rw [spread, List.map_map]
  rfl

theorem folds_clustersOfGlyphs (text : String)
    (h : spread (glyphs.map Glyph.entry) < 2 ^ 31) :
    Folds text glyphs (clustersOfGlyphs (α := α) text glyphs) where
  mem_starts := fun p => by
    rw [clustersOfGlyphs, starts_clustersOfAdvances, (amountsTo_advances h).places, places_entries]
  starts := by
    rw [clustersOfGlyphs, starts_clustersOfAdvances, List.pairwise_map]
    exact inOrder_advances glyphs
  joined := isChain_clustersOfAdvances ..
  last := fun c hc => by
    rw [length_encodeUtf8]
    exact getLast?_clustersOfAdvances _ _ c hc
  advance := fun c hc => by
    obtain ⟨sum, hsum, hadvance, -⟩ := exists_of_mem_clustersOfAdvances hc
    refine ⟨sum, hadvance, ?_⟩
    rw [← (inOrder_advances glyphs).sumAt_eq hsum, (amountsTo_advances h).sum, sumAt_entries]
  isSpace := fun c hc => by
    obtain ⟨-, -, -, hspace⟩ := exists_of_mem_clustersOfAdvances hc
    rw [hspace, isSpaceAt_iff]

namespace Folds

variable {text : String} {clusters : List (Cluster α)}

theorem exists_glyph (h : Folds text glyphs clusters) {c : Cluster α} (hc : c ∈ clusters) :
    ∃ g ∈ glyphs, g.place = c.start :=
  List.mem_map.1 ((h.mem_starts c.start).1 (List.mem_map_of_mem hc))

theorem nonempty (h : Folds text glyphs clusters)
    (hsize : ∀ g ∈ glyphs, g.place < (encodeUtf8 text).length) :
    ∀ c ∈ clusters, c.start < c.stop := by
  intro c hc
  rcases meets_or_last h.joined h.starts hc with ⟨d, -, hmeet, hlt⟩ | hlast
  · exact hmeet ▸ hlt
  · obtain ⟨g, hg, hplace⟩ := h.exists_glyph hc
    rw [h.last c hlast, ← hplace]
    exact hsize g hg

/-- With a glyph at the first byte, and none behind the last one, no byte is left out. -/
theorem covers (h : Folds text glyphs clusters) (hzero : ∃ g ∈ glyphs, g.place = 0)
    (hsize : ∀ g ∈ glyphs, g.place < (encodeUtf8 text).length) :
    Covers (encodeUtf8 text).length clusters := by
  obtain ⟨g, hg, hplace⟩ := hzero
  have hmem : 0 ∈ clusters.map Cluster.start :=
    (h.mem_starts 0).2 (hplace ▸ List.mem_map_of_mem hg)
  have hfirst : ∃ c ∈ clusters.head?, c.start = 0 := by
    have hstarts := h.starts
    cases clusters with
    | nil => cases hmem
    | cons c clusters =>
        refine ⟨c, rfl, ?_⟩
        rcases List.mem_cons.1 hmem with hc | hbehind
        · exact hc.symm
        · exact absurd ((List.pairwise_cons.1 hstarts).1 0 hbehind) (Nat.not_lt_zero _)
  have hlast : ∃ c ∈ clusters.getLast?, c.stop = (encodeUtf8 text).length := by
    have hne : clusters ≠ [] := by
      rintro rfl
      cases hmem
    exact ⟨_, List.getLast?_eq_some_getLast hne, h.last _ (List.getLast?_eq_some_getLast hne)⟩
  refine ⟨hfirst, hlast, h.nonempty hsize, fun place hlt => ?_⟩
  refine existsUnique_of_meets h.joined (fun c hc => (h.nonempty hsize c hc).le) ?_ ?_
  · obtain ⟨c, hc, hstart⟩ := hfirst
    exact ⟨c, hc, hstart ▸ Nat.zero_le _⟩
  · obtain ⟨c, hc, hstop⟩ := hlast
    exact ⟨c, hc, hstop ▸ hlt⟩

/-- Clusters that cover a text tile it when its glyphs stand between characters. -/
theorem tiles_iff (h : Folds text glyphs clusters)
    (hcovers : Covers (encodeUtf8 text).length clusters) :
    Tiles text.toList clusters ↔ ∀ g ∈ glyphs, Between text.toList g.place := by
  constructor
  · intro htiles g hg
    obtain ⟨c, hc, hplace⟩ := List.mem_map.1 ((h.mem_starts g.place).2 (List.mem_map_of_mem hg))
    exact hplace ▸ (htiles.between c hc).1
  · intro hbetween
    have hstart : ∀ c ∈ clusters, Between text.toList c.start := by
      intro c hc
      obtain ⟨g, hg, hplace⟩ := h.exists_glyph hc
      exact hplace ▸ hbetween g hg
    obtain ⟨first, hfirst, hzero⟩ := hcovers.first
    obtain ⟨last, hlast, hstop⟩ := hcovers.last
    refine ⟨fun c hc => ?_, h.joined, ?_, fun c hc => ⟨hstart c hc, ?_⟩, hcovers.nonempty⟩
    · cases Option.mem_unique hc hfirst
      exact hzero
    · rw [Option.mem_def.1 hlast, Option.map_some, Option.getD_some, hstop, length_encodeUtf8]
    · rcases meets_or_last h.joined h.starts hc with ⟨d, hd, hmeet, -⟩ | hend
      · exact hmeet ▸ hstart d hd
      · rw [h.last c hend, length_encodeUtf8]
        exact ⟨text.toList, [], (List.append_nil _).symm, rfl⟩

end Folds

/-- Where the sizes of all advances together can be an advance, the clusters have the sums
of the glyphs of each place, and they are the same in whatever order the glyphs stand,
inserted one by one or merged in passes without an overflow.  With a glyph at the first byte
and none behind the last one they cover the text. -/
theorem clustersOfGlyphs_any_order (text : String) (glyphs : List Glyph)
    (h : (glyphs.map fun g => g.xAdvance.toInt.natAbs).sum < 2 ^ 31) :
    Folds text glyphs (clustersOfGlyphs (α := α) text glyphs) ∧
      (∀ glyphs' : List Glyph, glyphs'.Perm glyphs →
        mergedClusters text glyphs' = .ok (clustersOfGlyphs (α := α) text glyphs) ∧
          clustersOfGlyphs (α := α) text glyphs' = clustersOfGlyphs text glyphs) ∧
      ((∃ g ∈ glyphs, g.place = 0) → (∀ g ∈ glyphs, g.place < (encodeUtf8 text).length) →
        Covers (encodeUtf8 text).length (clustersOfGlyphs (α := α) text glyphs) ∧
          (Tiles text.toList (clustersOfGlyphs (α := α) text glyphs) ↔
            ∀ g ∈ glyphs, Between text.toList g.place)) := by
  rw [← spread_entries] at h
  have hfolds := folds_clustersOfGlyphs (α := α) text h
  refine ⟨hfolds, fun glyphs' hp => ?_, fun hzero hsize => ?_⟩
  · constructor
    · rw [mergedClusters, mergedAdvances_perm h hp, clustersOfGlyphs]
    · rw [clustersOfGlyphs, advances_perm h hp, clustersOfGlyphs]
  · have hcovers := hfolds.covers hzero hsize
    exact ⟨hcovers, hfolds.tiles_iff hcovers⟩

/-- A text with an accent, its glyphs from right to left.  The accent takes back some of
what its letter is wide, and does not stand beside it. -/
def accentedGlyphs : List Glyph :=
  [⟨4, 3, 320, 0, 0, 0⟩, ⟨5, 1, -64, 0, 0, 0⟩, ⟨3, 4, 0, 0, 0, 0⟩, ⟨2, 1, 640, 0, 0, 0⟩,
    ⟨1, 0, 192, 0, 0, 0⟩]

/-- The clusters of that text. -/
def accentedClusters : List (Cluster ℚ) :=
  [⟨0, 1, 3, false⟩, ⟨1, 3, 9, false⟩, ⟨3, 4, 5, true⟩, ⟨4, 5, 0, false⟩]

theorem clustersOfGlyphs_any_order_accented :
    (accentedGlyphs.map fun g => g.xAdvance.toInt.natAbs).sum < 2 ^ 31 ∧
      clustersOfGlyphs "aé x" accentedGlyphs = accentedClusters ∧
      Folds "aé x" accentedGlyphs accentedClusters ∧
      mergedClusters "aé x" accentedGlyphs.reverse = .ok accentedClusters ∧
      (∃ g ∈ accentedGlyphs, g.place = 0) ∧
      (∀ g ∈ accentedGlyphs, g.place < (encodeUtf8 "aé x").length) ∧
      Covers (encodeUtf8 "aé x").length accentedClusters ∧
      Tiles "aé x".toList accentedClusters := by
  have hsum : (accentedGlyphs.map fun g => g.xAdvance.toInt.natAbs).sum < 2 ^ 31 := by decide
  have hclusters : clustersOfGlyphs "aé x" accentedGlyphs = accentedClusters := by decide +kernel
  have hzero : ∃ g ∈ accentedGlyphs, g.place = 0 := by decide
  have hsize : ∀ g ∈ accentedGlyphs, g.place < (encodeUtf8 "aé x").length := by
    rw [length_encodeUtf8]
    decide
  obtain ⟨hfolds, horders, hcovers⟩ :=
    clustersOfGlyphs_any_order (α := ℚ) "aé x" accentedGlyphs hsum
  obtain ⟨hcovered, htiles⟩ := hcovers hzero hsize
  obtain ⟨hmerged, -⟩ := horders _ (List.reverse_perm _)
  rw [hclusters] at hfolds hmerged hcovered htiles
  exact ⟨hsum, hclusters, hfolds, hmerged, hzero, hsize, hcovered, htiles.2 (by decide)⟩

end Colloquy.Typeset
