import Colloquy.Text.Lines
import Colloquy.Text.Slice
import Colloquy.Typeset.Cluster

/-!
# Wrapping lines

A paragraph is packed into segments, from left to right, each as full as the
width allows.  A cluster that does not fit ends the segment.

* A space that does not fit ends the segment it stands in.
* Before any other cluster the segment ends after its last space.  What stands
  behind that space opens the next segment.
* Without a space the segment ends right before the cluster.
* A cluster too wide for an empty segment is a segment of its own.

Spaces after the end of a segment are passed over.  The line of a segment
reaches from its first cluster that is no space to its last.

A text is wrapped paragraph by paragraph.  A newline right before another one
leaves an empty line of its own, on top of the empty paragraph between them.
-/

namespace Colloquy.Typeset

variable {α : Type u}

/-- Clusters without the spaces in front. -/
def dropSpaces (cs : List (Cluster α)) : List (Cluster α) := cs.dropWhile Cluster.isSpace

theorem length_dropSpaces_le (cs : List (Cluster α)) : (dropSpaces cs).length ≤ cs.length :=
  (List.dropWhile_sublist _).length_le

theorem length_pos_of_not_isEmpty {cs : List (Cluster α)} (h : (!cs.isEmpty) = true) :
    0 < cs.length := by
  cases cs <;> simp_all

section Pack

variable [Zero α] [Add α] [LE α] [DecidableLE α]

/-- The segments of a paragraph.  The open segment is `before`, which is empty
or ends in its last space, and then `word`, in which there is none.  Its width
so far is `filled`. -/
def pack (width : α) (before word : List (Cluster α)) (filled : α)
    (rest : List (Cluster α)) : List (List (Cluster α)) :=
  match rest with
  | [] => if before.isEmpty && word.isEmpty then [] else [before ++ word]
  | c :: cs =>
      if filled + c.advance ≤ width then
        if c.isSpace then pack width (before ++ (word ++ [c])) [] (filled + c.advance) cs
        else pack width before (word ++ [c]) (filled + c.advance) cs
      else if c.isSpace then (before ++ (word ++ [c])) :: pack width [] [] 0 (dropSpaces cs)
      else if !before.isEmpty then before :: pack width [] word (totalAdvance word) (c :: cs)
      else if !word.isEmpty then word :: pack width [] [] 0 (c :: cs)
      else [c] :: pack width [] [] 0 (dropSpaces cs)
termination_by (rest.length, before.length + word.length)
decreasing_by
  · exact Prod.Lex.left _ _ (by simp)
  · exact Prod.Lex.left _ _ (by simp)
  · exact Prod.Lex.left _ _ (Nat.lt_succ_of_le (length_dropSpaces_le cs))
  · have := length_pos_of_not_isEmpty ‹(!before.isEmpty) = true›
    exact Prod.Lex.right _ (by simp; omega)
  · have := length_pos_of_not_isEmpty ‹(!word.isEmpty) = true›
    exact Prod.Lex.right _ (by simp; omega)
  · exact Prod.Lex.left _ _ (Nat.lt_succ_of_le (length_dropSpaces_le cs))

/-- The segments of a whole paragraph. -/
def segments (width : α) (cs : List (Cluster α)) : List (List (Cluster α)) :=
  pack width [] [] 0 cs

end Pack

/-- The bytes a segment shows, if it shows any. -/
def visibleRange? (segment : List (Cluster α)) : Option (Nat × Nat) :=
  let visible := segment.filter fun c => !c.isSpace
  match visible.head?, visible.getLast? with
  | some first, some last => some (first.start, last.stop)
  | _, _ => none

/-- The line of a segment.  It is empty where the clusters name no slice of the
paragraph. -/
def lineOf (paragraph : List Char) (segment : List (Cluster α)) : List Char :=
  match visibleRange? segment with
  | some (start, stop) => (Text.slice? start stop paragraph).getD []
  | none => []

section Wrap

variable [Zero α] [Add α] [LE α] [DecidableLE α]

/-- The lines of a paragraph, at least one. -/
def wrapParagraph (paragraph : List Char) (cs : List (Cluster α)) (width : α) :
    List (List Char) :=
  match segments width cs with
  | [] => [[]]
  | segs => segs.map (lineOf paragraph)

/-- The lines of paragraphs.  An empty paragraph that is not the last puts an
empty line in front of its own, unless it is the first. -/
def wrapPieces (shaper : Shaper α) (width : α) : List (List Char) → List (List Char)
  | [] => []
  | [p] => wrapParagraph p (shaper (String.ofList p)) width
  | p :: q :: ps =>
      wrapParagraph p (shaper (String.ofList p)) width ++
      ((if q.isEmpty && !ps.isEmpty then [[]] else []) ++ wrapPieces shaper width (q :: ps))

/-- The lines of a text. -/
def Shaper.wrap (shaper : Shaper α) (text : String) (width : α) : List String :=
  (wrapPieces shaper width (Text.pieces text.toList)).map String.ofList

end Wrap

end Colloquy.Typeset
