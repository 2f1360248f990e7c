import Colloquy.Typeset.Wrap

/-!
# Plain wrapping

The rules of wrapping one segment at a time.  From the start of a segment its
widths are added up afresh.  The first cluster that does not fit decides where
the segment ends: after the last space up to and with that cluster, or else right
before it.  A segment has at least one cluster.  The next one starts after the
spaces that follow.
-/

namespace Colloquy.Typeset

variable {α : Type u}

/-- The place after the last space of clusters. -/
def afterLastSpace? : List (Cluster α) → Option Nat
  | [] => none
  | c :: cs =>
      match afterLastSpace? cs with
      | some n => some (n + 1)
      | none => if c.isSpace then some 1 else none

section

variable [Zero α] [Add α] [LE α] [DecidableLE α]

/-- How many clusters fit beside those that fill a width already. -/
def fitting (width filled : α) : List (Cluster α) → Nat
  | [] => 0
  | c :: cs =>
      if filled + c.advance ≤ width then fitting width (filled + c.advance) cs + 1 else 0

/-- How many clusters the first segment has. -/
def firstSegment (width : α) (cs : List (Cluster α)) : Nat :=
  let n := fitting width 0 cs
  if n = cs.length then n else (afterLastSpace? (cs.take (n + 1))).getD (max n 1)

/-- The segments of a paragraph, one after the other. -/
def plainSegments (width : α) (cs : List (Cluster α)) : List (List (Cluster α)) :=
  match cs with
  | [] => []
  | c :: cs =>
      let n := firstSegment width (c :: cs)
      (c :: cs).take n :: plainSegments width (dropSpaces (cs.drop (n - 1)))
termination_by cs.length
decreasing_by
  have := length_dropSpaces_le (cs.drop (firstSegment width (c :: cs) - 1))
  simp only [List.length_cons, List.length_drop] at this ⊢
  omega

/-- The lines of a paragraph, at least one. -/
def plainWrap (paragraph : List Char) (cs : List (Cluster α)) (width : α) : List (List Char) :=
  match plainSegments width cs with
  | [] => [[]]
  | segs => segs.map (lineOf paragraph)

end

end Colloquy.Typeset
