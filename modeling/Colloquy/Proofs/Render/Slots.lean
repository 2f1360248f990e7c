import Colloquy.Render.Slots
import Mathlib.Data.List.Nodup
import Mathlib.Data.List.Perm.Basic

/-!
# The handles of slots

Slots are seen here as the list of the handles they hold a resource for
(`Slots.handles`).  Putting a resource in adds its handle, and releasing one takes
its handle away, in either case up to order (`handles_insert`, `exists_remove?`).

That rests on what every store of slots keeps (`Slots.Sound`).  The version of a
taken slot is odd, and the indices to be used next are those of different free
slots.  Counting versions anew after `2^32` of them does no harm here, as a
resource that is there keeps its slot, and the slot its version.
-/

namespace Colloquy.Render

open scoped List

variable {kind : Kind} {β : Type}

/-- A handle as it is read, its version odd. -/
def Handle.asRead (h : Handle kind) : Handle kind := { h with version := h.version ||| 1 }

/-- The handle of the resource in a slot with an index. -/
def Slot.handle? (slot : Slot β) (index : Nat) : Option (Handle kind) :=
  slot.content.map fun _ => ⟨slot.version, index⟩

theorem Slot.handle?_eq_some {slot : Slot β} {index : Nat} {h : Handle kind} :
    slot.handle? index = some h ↔
      index = h.index ∧ slot.version = h.version ∧ slot.content.isSome = true := by
  obtain ⟨version, content⟩ := slot
  obtain ⟨version', index'⟩ := h
  cases content with
  | none => simp [Slot.handle?]
  | some b => simp [Slot.handle?, and_comm]

namespace Slots

/-- The handles of the resources in slots of which the first has an index. -/
def handlesFrom (index : Nat) (slots : List (Slot β)) : List (Handle kind) :=
  (slots.zipIdx index).filterMap fun (slot, index) => slot.handle? index

/-- The handles that slots hold a resource for. -/
def handles (s : Slots kind β) : List (Handle kind) := handlesFrom 1 s.slots

theorem handlesFrom_cons (index : Nat) (slot : Slot β) (rest : List (Slot β)) :
    (handlesFrom index (slot :: rest) : List (Handle kind)) =
      (slot.handle? index).toList ++ handlesFrom (index + 1) rest := by
  simp only [handlesFrom, List.zipIdx_cons, List.filterMap_cons]
  cases (slot.handle? index : Option (Handle kind)) with
  | none => rfl
  | some h => rfl

theorem handlesFrom_append (index : Nat) (slots rest : List (Slot β)) :
    (handlesFrom index (slots ++ rest) : List (Handle kind)) =
      handlesFrom index slots ++ handlesFrom (index + slots.length) rest := by
  rw [handlesFrom, List.zipIdx_append, List.filterMap_append, handlesFrom, handlesFrom]

theorem mem_handles {s : Slots kind β} {h : Handle kind} :
    h ∈ s.handles ↔ ∃ slot, s.slot? h.index = some slot ∧ slot.version = h.version ∧
      slot.content.isSome = true := by
  simp only [handles, handlesFrom, List.mem_filterMap, Prod.exists,
    List.mk_mem_zipIdx_iff_le_and_getElem?_sub, Slot.handle?_eq_some]
  constructor
  · rintro ⟨slot, index, ⟨hle, hslot⟩, rfl, hheld⟩
    obtain ⟨i, hi⟩ := Nat.exists_eq_add_of_le' hle
    refine ⟨slot, ?_, hheld⟩
    rwa [hi] at hslot ⊢
  · rintro ⟨slot, hslot, hheld⟩
    obtain ⟨version, index⟩ := h
    cases index with
    | zero => simp [slot?] at hslot
    | succ i => exact ⟨slot, i + 1, ⟨Nat.le_add_left 1 i, hslot⟩, rfl, hheld⟩

/-- No two resources have the same handle. -/
theorem nodup_handles (s : Slots kind β) : s.handles.Nodup := by
  refine List.pairwise_filterMap.2 ?_
  have hindex : ((s.slots.zipIdx 1).map Prod.snd).Nodup := by
    rw [List.zipIdx_map_snd]
    exact List.nodup_range'
  refine (List.pairwise_map.1 hindex).imp ?_
  intro a b hne h ha h' hb heq
  subst heq
  exact hne ((Slot.handle?_eq_some.1 ha).1.trans (Slot.handle?_eq_some.1 hb).1.symm)

/-- As many resources are there as handles. -/
theorem live_eq_length_handles (s : Slots kind β) : s.live = s.handles.length := by
  have hslots : s.slots = (s.slots.zipIdx 1).map Prod.fst := by rw [List.zipIdx_map_fst]
  rw [live, handles, handlesFrom, List.length_filterMap_eq_countP, hslots, List.countP_map,
    List.zipIdx_map_fst]
  refine List.countP_congr fun p _ => ?_
  simp [Slot.handle?]

/-- A resource is there where the handle as it is read is one of those held. -/
theorem contains_iff {s : Slots kind β} {h : Handle kind} :
    s.contains h = true ↔ h.asRead ∈ s.handles := by
  rw [mem_handles, contains, get?, Handle.asRead]
  cases hslot : s.slot? h.index with
  | none => simp
  | some slot =>
      by_cases hversion : slot.version = h.version ||| 1
      · simp [hversion]
      · simp [hversion]

/-! ## Slots replaced -/

theorem slot?_setSlot_of_ne {s : Slots kind β} {i index : Nat} {old : Slot β}
    (hold : s.slot? index = some old) (h : i ≠ index) (slot : Slot β) :
    (s.setSlot index slot).slot? i = s.slot? i := by
  cases index with
  | zero => simp [slot?] at hold
  | succ j =>
      cases i with
      | zero => rfl
      | succ i => exact List.getElem?_set_ne (by omega)

theorem slot?_setSlot_self {s : Slots kind β} {index : Nat} {old : Slot β}
    (h : s.slot? index = some old) (slot : Slot β) :
    (s.setSlot index slot).slot? index = some slot := by
  cases index with
  | zero => simp [slot?] at h
  | succ i =>
      show (s.slots.set i slot)[i]? = some slot
      exact List.getElem?_set_self (List.getElem?_eq_some_iff.1 h).1

/-- The handle of the new slot stands in for that of the old one. -/
theorem handles_setSlot {s : Slots kind β} {index : Nat} {old : Slot β}
    (h : s.slot? index = some old) (slot : Slot β) :
    (old.handle? index).toList ++ (s.setSlot index slot).handles ~
      (slot.handle? index).toList ++ s.handles := by
  cases index with
  | zero => simp [slot?] at h
  | succ i =>
      obtain ⟨hi, hold⟩ := List.getElem?_eq_some_iff.1 h
      have hslots : s.slots = s.slots.take i ++ old :: s.slots.drop (i + 1) := by
        rw [← hold, ← List.drop_eq_getElem_cons hi, List.take_append_drop]
      have hset : (s.setSlot (i + 1) slot).slots =
          s.slots.take i ++ slot :: s.slots.drop (i + 1) := by
        show s.slots.set i slot = _
        rw [List.set_eq_take_append_cons_drop, if_pos hi]
      have hindex : 1 + (s.slots.take i).length = i + 1 := by
        rw [List.length_take_of_le (Nat.le_of_lt hi), Nat.add_comm]
      rw [handles, handles, hset]
      conv_rhs => rw [hslots]
      rw [handlesFrom_append, handlesFrom_append, handlesFrom_cons, handlesFrom_cons, hindex]
      exact (List.perm_append_comm_assoc _ _ _).trans
        (((List.perm_append_comm_assoc _ _ _).append_left _).trans
          (List.perm_append_comm_assoc _ _ _))

/-! ## Resources put in and released -/

/-- What every store of slots keeps. -/
structure Sound (s : Slots kind β) : Prop where
  /-- The version of a taken slot is odd. -/
  odd : ∀ h ∈ s.handles, h.asRead = h
  /-- The slots to be used next are free. -/
  vacant : ∀ i ∈ s.free, ∃ slot, s.slot? i = some slot ∧ slot.content = none
  /-- None of them comes twice. -/
  nodup : s.free.Nodup

theorem Sound.empty : ({} : Slots kind β).Sound where
  odd := by simp [handles, handlesFrom]
  vacant := by simp
  nodup := List.nodup_nil

/-- Without a free slot a new one is made. -/
theorem insert_of_nil {s : Slots kind β} (hfree : s.free = []) (b : β) :
    s.insert b = (⟨1, s.slots.length + 1⟩, { s with slots := s.slots ++ [⟨1, some b⟩] }) := by
  rw [insert, hfree]

/-- The slot freed last is taken again. -/
theorem insert_of_cons {s : Slots kind β} {index : Nat} {free : List Nat} {slot : Slot β}
    (hfree : s.free = index :: free) (hslot : s.slot? index = some slot) (b : β) :
    s.insert b = (⟨slot.version ||| 1, index⟩,
      { s.setSlot index ⟨slot.version ||| 1, some b⟩ with free }) := by
  rw [insert, hfree]
  simp only [hslot, Option.elim_some]

/-- A resource put in adds its handle to those held. -/
theorem handles_insert {s : Slots kind β} (hs : s.Sound) (b : β) :
    (s.insert b).2.handles ~ (s.insert b).1 :: s.handles := by
  cases hfree : s.free with
  | nil =>
      rw [insert_of_nil hfree, handles, handlesFrom_append, handlesFrom_cons, Nat.add_comm 1]
      exact List.perm_append_comm
  | cons index free =>
      obtain ⟨slot, hslot, hvacant⟩ := hs.vacant index (by simp [hfree])
      have hset := handles_setSlot hslot ⟨slot.version ||| 1, some b⟩
      have hold : (slot.handle? index : Option (Handle kind)) = none := by
        rw [Slot.handle?, hvacant, Option.map_none]
      rw [hold] at hset
      rw [insert_of_cons hfree hslot]
      exact hset

theorem Sound.insert {s : Slots kind β} (hs : s.Sound) (b : β) : (s.insert b).2.Sound := by
  have hperm := handles_insert hs b
  cases hfree : s.free with
  | nil =>
      rw [insert_of_nil hfree] at hperm ⊢
      exact
        { odd := fun h hh => by
            rcases List.mem_cons.1 (hperm.mem_iff.1 hh) with rfl | hh
            · simp [Handle.asRead]
            · exact hs.odd h hh
          vacant := by simp [hfree]
          nodup := hs.nodup }
  | cons index free =>
      obtain ⟨slot, hslot, -⟩ := hs.vacant index (by simp [hfree])
      have hnodup := hs.nodup
      rw [hfree, List.nodup_cons] at hnodup
      rw [insert_of_cons hfree hslot] at hperm ⊢
      exact
        { odd := fun h hh => by
            rcases List.mem_cons.1 (hperm.mem_iff.1 hh) with rfl | hh
            · simp [Handle.asRead, UInt32.or_assoc]
            · exact hs.odd h hh
          vacant := fun i hi => by
            obtain ⟨slot', hslot', hvacant⟩ := hs.vacant i (by simp [hfree, hi])
            refine ⟨slot', ?_, hvacant⟩
            rw [← hslot']
            exact slot?_setSlot_of_ne hslot (ne_of_mem_of_not_mem hi hnodup.1) _
          nodup := hnodup.2 }

/-- The slots after the release of a resource that is there. -/
theorem remove?_eq_some {s s' : Slots kind β} {h : Handle kind} :
    s.remove? h = some s' ↔ h.asRead ∈ s.handles ∧
      s' = { s.setSlot h.index ⟨(h.version ||| 1) + 1, none⟩ with free := h.index :: s.free } := by
  rw [remove?, ← contains_iff]
  by_cases hc : s.contains h = true
  · simp [hc, eq_comm]
  · simp [hc]

/-- A released resource takes its handle from those held. -/
theorem handles_remove? {s s' : Slots kind β} {h : Handle kind} (hremove : s.remove? h = some s') :
    s.handles ~ h.asRead :: s'.handles := by
  obtain ⟨hh, rfl⟩ := remove?_eq_some.1 hremove
  obtain ⟨slot, hslot, hversion, htaken⟩ := mem_handles.1 hh
  have hset := handles_setSlot hslot ⟨(h.version ||| 1) + 1, none⟩
  rw [Slot.handle?_eq_some.2 ⟨rfl, hversion, htaken⟩] at hset
  exact hset.symm

/-- A resource that is there can be released. -/
theorem exists_remove? {s : Slots kind β} (hs : s.Sound) {h : Handle kind} (hh : h ∈ s.handles) :
    ∃ s', s.remove? h = some s' ∧ s.handles ~ h :: s'.handles := by
  have hremove := remove?_eq_some.2 ⟨(hs.odd h hh).symm ▸ hh, rfl⟩
  have hperm := handles_remove? hremove
  rw [hs.odd h hh] at hperm
  exact ⟨_, hremove, hperm⟩

theorem Sound.remove? {s s' : Slots kind β} (hs : s.Sound) {h : Handle kind}
    (hremove : s.remove? h = some s') : s'.Sound := by
  have hperm := handles_remove? hremove
  obtain ⟨hh, rfl⟩ := remove?_eq_some.1 hremove
  obtain ⟨slot, hslot, -, htaken⟩ := mem_handles.1 hh
  -- the slot was taken, so it is none of those that were free before
  have hfree : h.index ∉ s.free := by
    intro hmem
    obtain ⟨slot', hslot', hvacant⟩ := hs.vacant _ hmem
    obtain rfl : slot = slot' := Option.some.inj (hslot.symm.trans hslot')
    simp [hvacant] at htaken
  exact
    { odd := fun h' hh' => hs.odd h' (hperm.mem_iff.2 (List.mem_cons_of_mem _ hh'))
      vacant := fun i hi => by
        rcases List.mem_cons.1 hi with rfl | hi
        · exact ⟨_, slot?_setSlot_self hslot _, rfl⟩
        · obtain ⟨slot', hslot', hvacant⟩ := hs.vacant i hi
          refine ⟨slot', ?_, hvacant⟩
          rw [← hslot']
          exact slot?_setSlot_of_ne hslot (ne_of_mem_of_not_mem hi hfree) _
      nodup := List.nodup_cons.2 ⟨hfree, hs.nodup⟩ }

end Slots

end Colloquy.Render
