import Colloquy.Typeset.Wrap

/-!
# Wrapping by places

The clusters of a paragraph, numbered from nought and walked through in one pass.
A scan knows where the open segment begins, how wide it is, where it has its last
space, and which cluster comes next.  A turn takes that cluster into the segment, or
ends the segment with a line.

Nothing keeps a place from being wrong.  There may be no cluster at it, a range may
run past the clusters or end before it begins, and there is no place before the
first one.  Each of these is a fault here.  A scan is given a number of turns, and
needing more of them is a fault as well.
-/

namespace Colloquy.Typeset

variable {α : Type}

/-- What can be wrong with the places of a scan. -/
inductive PlaceFault where
  /-- There is no cluster at the place. -/
  | noCluster (place : Nat)
  /-- The clusters have no such range. -/
  | noRange (first stop : Nat)
  /-- Nothing is before the first place. -/
  | beforeFirst
  /-- No turn is left. -/
  | outOfTurns
deriving Repr, DecidableEq

/-! ## Places -/

def clusterAt (cs : List (Cluster α)) (place : Nat) : Except PlaceFault (Cluster α) :=
  match cs[place]? with
  | some c => .ok c
  | none => .error (.noCluster place)

/-- The clusters from a place on, up to another one. -/
def clustersBetween (cs : List (Cluster α)) (first stop : Nat) :
    Except PlaceFault (List (Cluster α)) :=
  if first ≤ stop ∧ stop ≤ cs.length then .ok ((cs.take stop).drop first)
  else .error (.noRange first stop)

def placeBefore : Nat → Except PlaceFault Nat
  | 0 => .error .beforeFirst
  | place + 1 => .ok place

/-- The first place, from a place on, that has no space. -/
def skipSpaces (cs : List (Cluster α)) (place : Nat) : Except PlaceFault Nat :=
  if place < cs.length then do
    let c ← clusterAt cs place
    if c.isSpace then skipSpaces cs (place + 1) else pure place
  else pure place
termination_by cs.length - place

/-- The last place that has no space. -/
def lastVisible? : List (Cluster α) → Option Nat
  | [] => none
  | c :: cs =>
      match lastVisible? cs with
      | some place => some (place + 1)
      | none => if c.isSpace then none else some 0

/-- The line of the clusters from a place to another, both included. -/
def lineBetween (paragraph : List Char) (cs : List (Cluster α)) (first last : Nat) :
    Except PlaceFault (List Char) := do
  let seg ← clustersBetween cs first (last + 1)
  match seg.findIdx? fun c => !c.isSpace with
  | none => pure []
  | some head =>
      let opening ← clusterAt seg head
      let closing ← clusterAt seg ((lastVisible? seg).getD head)
      pure ((Text.slice? opening.start closing.stop paragraph).getD [])

/-! ## Scans -/

/-- Where a scan of a paragraph stands. -/
structure Scan (α : Type) where
  /-- The lines of the segments that have ended. -/
  lines : List (List Char) := []
  /-- The place the open segment begins at. -/
  first : Nat := 0
  /-- How wide it is so far. -/
  filled : α
  /-- The place of its last space. -/
  space : Option Nat := none
  /-- The place of the next cluster. -/
  next : Nat := 0
deriving Repr, DecidableEq

namespace Scan

/-- Before the first turn. -/
def start [Zero α] : Scan α := { filled := 0 }

/-- The scan with the next cluster looked at. -/
def noting (s : Scan α) (c : Cluster α) : Scan α :=
  if c.isSpace then { s with space := some s.next } else s

/-- The last place of a segment whose next cluster does not fit. -/
def breakAt (s : Scan α) : Except PlaceFault Nat :=
  match s.space.filter fun place => s.first ≤ place with
  | some place => .ok place
  | none => if s.next = s.first then .ok s.next else placeBefore s.next

section Turns

variable [Zero α] [Add α] [LE α] [DecidableLE α]

/-- The open segment ended, and the next one begun behind the spaces that follow.
What stands between there and the next cluster is taken along. -/
def endSegment (paragraph : List Char) (cs : List (Cluster α)) (s : Scan α) :
    Except PlaceFault (Scan α) := do
  let last ← s.breakAt
  let line ← lineBetween paragraph cs s.first last
  let first ← skipSpaces cs (last + 1)
  if first ≤ s.next then
    let carried ← clustersBetween cs first s.next
    pure { lines := s.lines ++ [line], first, filled := totalAdvance carried, next := s.next }
  else
    pure { lines := s.lines ++ [line], first, filled := 0, next := first }

/-- One turn, at the next cluster. -/
def turn (paragraph : List Char) (cs : List (Cluster α)) (width : α) (s : Scan α) :
    Except PlaceFault (Scan α) := do
  let c ← clusterAt cs s.next
  let s := s.noting c
  if s.filled + c.advance ≤ width then
    pure { s with filled := s.filled + c.advance, next := s.next + 1 }
  else s.endSegment paragraph cs

/-- Lines, or an empty one if there are none. -/
def orEmptyLine (lines : List (List Char)) : List (List Char) :=
  if lines.isEmpty then [[]] else lines

/-- The lines once there is no next cluster. -/
def close (paragraph : List Char) (cs : List (Cluster α)) (s : Scan α) :
    Except PlaceFault (List (List Char)) := do
  if s.first < cs.length then
    let last ← placeBefore cs.length
    let line ← lineBetween paragraph cs s.first last
    pure (orEmptyLine (s.lines ++ [line]))
  else pure (orEmptyLine s.lines)

/-- The lines after a number of turns at most, closing included. -/
def run (paragraph : List Char) (cs : List (Cluster α)) (width : α) :
    Nat → Scan α → Except PlaceFault (List (List Char))
  | 0, _ => .error .outOfTurns
  | turns + 1, s =>
      if s.next < cs.length then do
        let s ← s.turn paragraph cs width
        run paragraph cs width turns s
      else s.close paragraph cs

end Turns

end Scan

end Colloquy.Typeset
