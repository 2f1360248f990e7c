/-!
# Gating rules

Three words steer a dialogue.  A label that starts with the lock marker is
locked until the player has the key.  A choice whose target is the end word
ends the dialogue.  Reaching the state named by the key word gives the key.

An empty lock marker locks nothing.
-/

namespace Colloquy.Dialogue

/-- The words that steer a dialogue. -/
structure Gating where
  /-- What the label of a locked choice starts with. -/
  lockMarker : String := "[LOCKED]"
  /-- The target that ends the dialogue. -/
  endWord : String := "END"
  /-- The state that gives the key. -/
  keyState : String := "end"
deriving Repr, DecidableEq, Inhabited

namespace Gating

/-- What stands behind the lock marker of a label, for a locked label. -/
def behindMarker? (rules : Gating) (label : String) : Option String :=
  if rules.lockMarker = "" then none
  else (rules.lockMarker.toList.isPrefixOf? label.toList).map String.ofList

/-- Whether a label is locked. -/
def isLocked (rules : Gating) (label : String) : Bool :=
  rules.lockMarker ≠ "" && rules.lockMarker.toList.isPrefixOf label.toList

/-- A label as the player sees it: blank while it is locked, and without the
marker once there is a key. -/
def shown (rules : Gating) (hasKey : Bool) (label : String) : String :=
  match rules.behindMarker? label with
  | none => label
  | some rest => if hasKey then rest else ""

end Gating

end Colloquy.Dialogue
