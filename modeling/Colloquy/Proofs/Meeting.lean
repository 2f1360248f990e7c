import Mathlib

/-!
# Parts that meet

The rows of a layout and the clusters of a text are parts of a whole.  Each has a start and
an end.  Where each ends where the next one starts, and none before its own start, all parts
behind a part start after it (`pairwise_of_meets`).  So what lies between the first start and
the last end is in one part, and in no other (`existsUnique_of_meets`).
-/

namespace Colloquy

variable {ι : Type u} {β : Type v} {start stop : ι → β} {parts : List ι}

theorem pairwise_of_meets [Preorder β] (hmeets : parts.IsChain fun p q => stop p = start q)
    (hupright : ∀ p ∈ parts, start p ≤ stop p) :
    parts.Pairwise fun p q => stop p ≤ start q := by
  induction parts with
  | nil => exact .nil
  | cons p parts ih =>
      obtain ⟨-, hrest⟩ := List.forall_mem_cons.1 hupright
      have hapart := ih hmeets.tail hrest
      refine .cons ?_ hapart
      cases parts with
      | nil => exact List.forall_mem_nil _
      | cons q parts =>
          have hmeet : stop p = start q := (List.isChain_cons_cons.1 hmeets).1
          refine List.forall_mem_cons.2 ⟨hmeet.le, fun r hr => ?_⟩
          calc stop p = start q := hmeet
            _ ≤ stop q := hrest q (List.mem_cons_self ..)
            _ ≤ start r := (List.pairwise_cons.1 hapart).1 r hr

theorem existsUnique_of_meets [LinearOrder β] {x : β}
    (hmeets : parts.IsChain fun p q => stop p = start q)
    (hupright : ∀ p ∈ parts, start p ≤ stop p) (hfirst : ∃ p ∈ parts.head?, start p ≤ x)
    (hlast : ∃ p ∈ parts.getLast?, x < stop p) :
    ∃! p, p ∈ parts ∧ start p ≤ x ∧ x < stop p := by
  induction parts with
  | nil =>
      obtain ⟨p, hp, -⟩ := hfirst
      cases hp
  | cons p parts ih =>
      obtain ⟨_, ⟨⟩, hstart⟩ := hfirst
      have hbehind := (List.pairwise_cons.1 (pairwise_of_meets hmeets hupright)).1
      by_cases hstop : x < stop p
      · refine ⟨p, ⟨List.mem_cons_self .., hstart, hstop⟩, ?_⟩
        rintro q ⟨hq, hqx, -⟩
        rcases List.mem_cons.1 hq with rfl | hq
        · rfl
        · exact absurd hstop (not_lt_of_ge ((hbehind q hq).trans hqx))
      · -- the next part starts at the end of this one, and that is not behind the place
        cases parts with
        | nil =>
            obtain ⟨_, ⟨⟩, hlt⟩ := hlast
            exact absurd hlt hstop
        | cons q parts =>
            obtain ⟨hmeet, hchain⟩ := List.isChain_cons_cons.1 hmeets
            rw [List.getLast?_cons_cons] at hlast
            have hnext : start q ≤ x := hmeet ▸ le_of_not_gt hstop
            obtain ⟨r, ⟨hr, hrx⟩, honly⟩ :=
              ih hchain (List.forall_mem_cons.1 hupright).2 ⟨q, rfl, hnext⟩ hlast
            refine ⟨r, ⟨List.mem_cons_of_mem _ hr, hrx⟩, ?_⟩
            rintro s ⟨hs, hsx⟩
            rcases List.mem_cons.1 hs with rfl | hs
            · exact absurd hsx.2 hstop
            · exact honly s ⟨hs, hsx⟩

end Colloquy
