import Colloquy.Render.Handle

/-!
# Slots

A store of resources that never gives out a handle twice.  Each slot counts its
versions.  The version is odd while the slot is taken and even while it is
free, and it grows by one when the slot is taken or freed.  A handle holds the
version its slot had, so it finds nothing once the slot has been freed.

A freed slot is taken again before a new one is made, the one freed last first.
Versions are counted in 32 bits.  So handles repeat only after a slot has been
taken `2^31` times.

A handle is read as if its version were odd.
-/

namespace Colloquy.Render

/-- A place for one resource. -/
structure Slot (β : Type u) where
  /-- How often the slot has been taken or freed. -/
  version : UInt32
  /-- The resource, while the slot is taken. -/
  content : Option β
deriving Repr, DecidableEq, Inhabited

/-- The slots for one kind of resource. -/
structure Slots (kind : Kind) (β : Type u) where
  /-- The slots made so far.  The first one has the index one. -/
  slots : List (Slot β) := []
  /-- The indices of the free slots, the one freed last in front. -/
  free : List Nat := []
deriving Repr, DecidableEq, Inhabited

namespace Slots

variable {kind : Kind} {β : Type u}

/-- The slot with an index. -/
def slot? (s : Slots kind β) : Nat → Option (Slot β)
  | 0 => none
  | i + 1 => s.slots[i]?

/-- The slot with an index replaced. -/
def setSlot (s : Slots kind β) (index : Nat) (slot : Slot β) : Slots kind β :=
  { s with slots := s.slots.set (index - 1) slot }

/-- The resource of a handle, if it is still there. -/
def get? (s : Slots kind β) (h : Handle kind) : Option β :=
  (s.slot? h.index).bind fun slot =>
    if slot.version = h.version ||| 1 then slot.content else none

/-- Whether a handle has a resource. -/
def contains (s : Slots kind β) (h : Handle kind) : Bool := (s.get? h).isSome

/-- How many resources there are. -/
def live (s : Slots kind β) : Nat := s.slots.countP fun slot => slot.content.isSome

/-- A resource put in, with its handle. -/
def insert (s : Slots kind β) (b : β) : Handle kind × Slots kind β :=
  match s.free with
  | index :: free =>
      let version := ((s.slot? index).elim 0 Slot.version) ||| 1
      (⟨version, index⟩, { s.setSlot index ⟨version, some b⟩ with free })
  | [] => (⟨1, s.slots.length + 1⟩, { s with slots := s.slots ++ [⟨1, some b⟩] })

/-- The slots without the resource of a handle.  Nothing where there is none. -/
def remove? (s : Slots kind β) (h : Handle kind) : Option (Slots kind β) :=
  if s.contains h then
    some { s.setSlot h.index ⟨(h.version ||| 1) + 1, none⟩ with free := h.index :: s.free }
  else none

end Slots

end Colloquy.Render
