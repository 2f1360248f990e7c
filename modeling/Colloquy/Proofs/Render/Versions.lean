import Colloquy.Proofs.Render.Resources
import Mathlib.Algebra.Group.Nat.Defs
import Mathlib.Data.List.Count
import Mathlib.Data.List.Nodup

/-!
# The versions of slots

Putting a resource in changes one slot, and so does releasing one (`Inserted`,
`Removed`).  All that a handle finds before and after follows from that.

A slot counts how often it was taken or freed.  So the handles it gives out have the
versions one, three, five and so on, in this order (`Tally`).  Versions have 32 bits,
so the handles are different as long as no slot is taken more than `2^31` times
(`nodup_of_versions`).
-/

namespace Colloquy.Render

open scoped List

variable {kind : Kind} {β : Type}

/-! ## One slot changed -/

namespace Slots

variable {s s' : Slots kind β} {b : β} {h : Handle kind}

/-- The version of the slot with an index.  Before the slot is made it is zero. -/
def version (s : Slots kind β) (index : Nat) : UInt32 := (s.slot? index).elim 0 Slot.version

/-- Whether the slot with an index is taken. -/
def taken (s : Slots kind β) (index : Nat) : Bool :=
  (s.slot? index).any fun slot => slot.content.isSome

/-- What putting in a resource does. -/
structure Inserted (s : Slots kind β) (b : β) (h : Handle kind) (s' : Slots kind β) : Prop where
  /-- The slot was not taken. -/
  vacant : ∀ slot, s.slot? h.index = some slot → slot.content = none
  /-- Its version goes up to the next odd number. -/
  version : h.version = s.version h.index ||| 1
  /-- It has the resource. -/
  new : s'.slot? h.index = some ⟨h.version, some b⟩
  /-- The other slots stay as they are. -/
  others : ∀ i, i ≠ h.index → s'.slot? i = s.slot? i
  /-- There is one resource more. -/
  handles : s'.handles ~ h :: s.handles

/-- What the release of a resource does. -/
structure Removed (s : Slots kind β) (h : Handle kind) (s' : Slots kind β) : Prop where
  /-- The slot was taken, and its version was that of the handle. -/
  old : ∃ b, s.slot? h.index = some ⟨h.version ||| 1, some b⟩
  /-- The slot is free, and its version is one more. -/
  new : s'.slot? h.index = some ⟨(h.version ||| 1) + 1, none⟩
  /-- The other slots stay as they are. -/
  others : ∀ i, i ≠ h.index → s'.slot? i = s.slot? i
  /-- There is one resource less. -/
  handles : s.handles ~ h.asRead :: s'.handles

theorem slot?_concat_of_ne {slot : Slot β} {i : Nat} (hi : i ≠ s.slots.length + 1) :
    ({ s with slots := s.slots ++ [slot] } : Slots kind β).slot? i = s.slot? i := by
  cases i with
  | zero => rfl
  | succ i =>
      show (s.slots ++ [slot])[i]? = s.slots[i]?
      rw [List.getElem?_append]
      split
      · rfl
      · rw [List.getElem?_eq_none (by simp; omega), List.getElem?_eq_none (by omega)]

theorem inserted (hs : s.Sound) (b : β) : Inserted s b (s.insert b).1 (s.insert b).2 := by
  have hhandles := handles_insert hs b
  cases hfree : s.free with
  | nil =>
      rw [insert_of_nil hfree] at hhandles ⊢
      have hnone : s.slot? (s.slots.length + 1) = none := List.getElem?_eq_none (Nat.le_refl _)
      exact
        { vacant := fun slot hslot => by simp [hnone] at hslot
          version := by
            rw [Slots.version, hnone, Option.elim_none, UInt32.zero_or]
          new := List.getElem?_concat_length
          others := fun i hi => slot?_concat_of_ne hi
          handles := hhandles }
  | cons index free =>
      obtain ⟨slot, hslot, hvacant⟩ := hs.vacant index (by simp [hfree])
      rw [insert_of_cons hfree hslot] at hhandles ⊢
      exact
        { vacant := fun slot' hslot' => by
            rw [← Option.some.inj (hslot.symm.trans hslot')]
            exact hvacant
          version := by
            rw [Slots.version, hslot]
            rfl
          new := slot?_setSlot_self hslot _
          others := fun i hi => slot?_setSlot_of_ne hslot hi _
          handles := hhandles }

theorem removed (hremove : s.remove? h = some s') : Removed s h s' := by
  have hhandles := handles_remove? hremove
  obtain ⟨hh, rfl⟩ := remove?_eq_some.1 hremove
  obtain ⟨⟨version, content⟩, hslot, hversion, htaken⟩ := mem_handles.1 hh
  obtain ⟨b, rfl⟩ := Option.isSome_iff_exists.1 htaken
  cases hversion
  exact
    { old := ⟨b, hslot⟩
      new := slot?_setSlot_self hslot _
      others := fun i hi => slot?_setSlot_of_ne hslot hi _
      handles := hhandles }

theorem asRead_eq_iff {h h' : Handle kind} :
    h.asRead = h'.asRead ↔ h.version ||| 1 = h'.version ||| 1 ∧ h.index = h'.index := by
  simp [Handle.asRead]

/-- Nothing is found where nothing was put in. -/
theorem get?_empty (h : Handle kind) : ({} : Slots kind β).get? h = none := by
  cases h with
  | mk version index => cases index <;> rfl

theorem Sound.isSome_get? (hs : s.Sound) (hh : h ∈ s.handles) : (s.get? h).isSome = true := by
  refine contains_iff.2 ?_
  rwa [hs.odd h hh]

theorem get?_asRead (s : Slots kind β) (h : Handle kind) : s.get? h.asRead = s.get? h := by
  rw [get?, get?, Handle.asRead, UInt32.or_assoc, UInt32.or_self]

theorem Inserted.asRead (hi : Inserted s b h s') : h.asRead = h := by
  have hodd : h.version ||| 1 = h.version := by
    rw [hi.version, UInt32.or_assoc, UInt32.or_self]
  rw [Handle.asRead, hodd]

/-- Before a resource is put in a slot, nothing is found there. -/
theorem Inserted.get?_eq_none (hi : Inserted s b h s') {h' : Handle kind}
    (hindex : h'.index = h.index) : s.get? h' = none := by
  rw [Slots.get?, hindex]
  cases hslot : s.slot? h.index with
  | none => rfl
  | some slot => simp [hi.vacant slot hslot]

/-- A resource put in is found under its handle, and the others as before. -/
theorem Inserted.get? (hi : Inserted s b h s') (h' : Handle kind) :
    s'.get? h' = if h'.asRead = h then some b else s.get? h' := by
  by_cases hindex : h'.index = h.index
  · rw [Slots.get?, hindex, hi.new, Option.bind_some]
    by_cases hversion : h'.version ||| 1 = h.version
    · have hread : h'.asRead = h := by rw [Handle.asRead, hversion, hindex]
      rw [if_pos hversion.symm, if_pos hread]
    · have hread : h'.asRead ≠ h := fun he => hversion (congrArg Handle.version he)
      rw [if_neg (Ne.symm hversion), if_neg hread, hi.get?_eq_none hindex]
  · have hread : h'.asRead ≠ h := fun he => hindex (by rw [← he, Handle.asRead])
    rw [if_neg hread, Slots.get?, Slots.get?, hi.others _ hindex]

/-- What is found before is found afterwards. -/
theorem Inserted.get?_of_some (hi : Inserted s b h s') {h' : Handle kind} {b' : β}
    (hget : s.get? h' = some b') : s'.get? h' = some b' := by
  rw [hi.get?, if_neg, hget]
  intro hread
  have hnone : s.get? h' = none := hi.get?_eq_none (by rw [← hread, Handle.asRead])
  cases hget.symm.trans hnone

theorem Removed.isSome_get? (hr : Removed s h s') : (s.get? h).isSome = true := by
  obtain ⟨b, hold⟩ := hr.old
  rw [Slots.get?, hold, Option.bind_some, if_pos rfl, Option.isSome_some]

/-- A released resource is not found, and the others are as before. -/
theorem Removed.get? (hr : Removed s h s') (h' : Handle kind) :
    s'.get? h' = if h'.asRead = h.asRead then none else s.get? h' := by
  simp only [asRead_eq_iff]
  by_cases hindex : h'.index = h.index
  · obtain ⟨b, hold⟩ := hr.old
    rw [Slots.get?, Slots.get?, hindex, hr.new, hold, Option.bind_some, Option.bind_some,
      ite_self]
    by_cases hversion : h'.version ||| 1 = h.version ||| 1
    · rw [if_pos ⟨hversion, rfl⟩]
    · rw [if_neg fun he => hversion he.1, if_neg (Ne.symm hversion)]
  · rw [if_neg fun he => hindex he.2, Slots.get?, Slots.get?, hr.others _ hindex]

end Slots

/-! ## The handles of a slot -/

/-- The slot of a resource: its kind and its index. -/
def Resource.slot (x : Resource) : Kind × Nat := (x.kind, x.handle.index)

/-- How often a slot was taken, where these resources were made. -/
def takings (made : List Resource) (slot : Kind × Nat) : Nat := made.countP fun x => x.slot = slot

/-- The first handles of a slot, with the versions one, three, five and so on. -/
def firstOf (slot : Kind × Nat) (n : Nat) : List Resource :=
  (List.range n).map fun k => ⟨slot.1, ⟨UInt32.ofNat (2 * k + 1), slot.2⟩⟩

theorem firstOf_succ (slot : Kind × Nat) (n : Nat) :
    firstOf slot (n + 1) = firstOf slot n ++ [⟨slot.1, ⟨UInt32.ofNat (2 * n + 1), slot.2⟩⟩] := by
  rw [firstOf, List.range_succ, List.map_append]
  rfl

theorem ofNat_or_one (n : Nat) : UInt32.ofNat (2 * n) ||| 1 = UInt32.ofNat (2 * n + 1) := by
  have hmod : 2 * n % 2 ^ 32 = 2 ^ 1 * (n % 2 ^ 31) := by omega
  have hmod' : (2 * n + 1) % 2 ^ 32 = 2 ^ 1 * (n % 2 ^ 31) + 1 := by omega
  refine UInt32.toNat_inj.1 ?_
  rw [UInt32.toNat_or, UInt32.toNat_ofNat', UInt32.toNat_ofNat', hmod, hmod',
    Nat.two_pow_add_eq_or_of_lt (by decide)]
  rfl

theorem nodup_firstOf {slot : Kind × Nat} {n : Nat} (hn : n ≤ 2 ^ 31) : (firstOf slot n).Nodup := by
  refine List.Nodup.map_on ?_ List.nodup_range
  intro k hk l hl he
  have hversion := congrArg (fun x => x.handle.version.toNat) he
  rw [List.mem_range] at hk hl
  simp only [UInt32.toNat_ofNat'] at hversion
  omega

/-- Handles are different if each slot gives them out in order and is not taken too
often. -/
theorem nodup_of_versions {made : List Resource}
    (hversions : ∀ slot, made.filter (fun x => x.slot = slot) = firstOf slot (takings made slot))
    (hbound : ∀ slot, takings made slot ≤ 2 ^ 31) : made.Nodup := by
  -- a resource comes as often among those of its slot as among all
  refine List.nodup_iff_count_le_one.2 fun x => ?_
  have hnodup : (firstOf x.slot (takings made x.slot)).Nodup := nodup_firstOf (hbound x.slot)
  rw [← hversions x.slot] at hnodup
  have hcount := List.nodup_iff_count_le_one.1 hnodup x
  rwa [List.count_filter (by simp)] at hcount

/-- The handles that a store has given out, among those of other stores.  Each slot has
given out its first ones, and its version tells how many. -/
structure Tally (s : Slots kind β) (made : List Resource) : Prop where
  /-- The handles of a slot come in order. -/
  versions : ∀ i, made.filter (fun x => x.slot = (kind, i)) =
    firstOf (kind, i) (takings made (kind, i))
  /-- A version is twice the number of handles, or one less while the slot is taken. -/
  counted : ∀ i, s.version i + (if s.taken i then 1 else 0) =
    UInt32.ofNat (2 * takings made (kind, i))

namespace Tally

variable {s s' : Slots kind β} {b : β} {h : Handle kind} {made : List Resource}

theorem empty : Tally ({} : Slots kind β) [] where
  versions _ := rfl
  counted i := by cases i <;> rfl

/-- A handle of another store makes no difference. -/
theorem other (ht : Tally s made) {x : Resource} (hx : x.kind ≠ kind) : Tally s (made ++ [x]) := by
  have hslot : ∀ i, x.slot ≠ (kind, i) := fun i he => hx (congrArg Prod.fst he)
  have htakings : ∀ i, takings (made ++ [x]) (kind, i) = takings made (kind, i) := fun i => by
    simp [takings, hslot i]
  constructor
  · intro i
    rw [htakings, ← ht.versions i]
    simp [hslot i]
  · intro i
    rw [htakings, ht.counted i]

/-- A new handle is the next one of its slot. -/
theorem insert (ht : Tally s made) (hi : s.Inserted b h s') : Tally s' (made ++ [⟨kind, h⟩]) := by
  have hvacant : s.taken h.index = false := by
    rw [Slots.taken]
    cases hslot : s.slot? h.index with
    | none => rfl
    | some slot => simp [hi.vacant slot hslot]
  have hversion : h.version = UInt32.ofNat (2 * takings made (kind, h.index) + 1) := by
    have hcounted := ht.counted h.index
    rw [hvacant] at hcounted
    rw [hi.version, ← ofNat_or_one, ← hcounted]
    simp
  have hself :
      takings (made ++ [⟨kind, h⟩]) (kind, h.index) = takings made (kind, h.index) + 1 := by
    simp [takings, Resource.slot]
  have hothers : ∀ i, i ≠ h.index →
      takings (made ++ [⟨kind, h⟩]) (kind, i) = takings made (kind, i) := fun i hne => by
    simp [takings, Resource.slot, hne.symm]
  constructor
  · intro i
    by_cases hne : i = h.index
    · subst hne
      rw [hself, firstOf_succ, ← ht.versions, ← hversion]
      simp [Resource.slot]
    · rw [hothers i hne, ← ht.versions i]
      simp [Resource.slot, Ne.symm hne]
  · intro i
    by_cases hne : i = h.index
    · subst hne
      rw [hself, Slots.version, Slots.taken, hi.new, Nat.mul_succ]
      simp only [Option.elim_some, Option.any_some, Option.isSome_some, if_true, hversion,
        UInt32.ofNat_add, UInt32.add_assoc]
      rfl
    · rw [hothers i hne, Slots.version, Slots.taken, hi.others i hne]
      exact ht.counted i

/-- Releasing a resource gives out no handle. -/
theorem remove (ht : Tally s made) (hr : s.Removed h s') : Tally s' made := by
  refine ⟨ht.versions, fun i => ?_⟩
  by_cases hne : i = h.index
  · subst hne
    obtain ⟨b, hold⟩ := hr.old
    have hcounted := ht.counted h.index
    rw [Slots.version, Slots.taken, hold] at hcounted
    rw [← hcounted, Slots.version, Slots.taken, hr.new]
    simp
  · rw [Slots.version, Slots.taken, hr.others i hne]
    exact ht.counted i

end Tally

end Colloquy.Render
