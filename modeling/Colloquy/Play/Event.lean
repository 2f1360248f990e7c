/-!
# Events

What a window reports: keys, mouse buttons and the pointer.  Positions are
pixels from the top left corner of the window.
-/

namespace Colloquy.Play

/-- A key. -/
inductive Key where
  /-- Confirms the selected choice. -/
  | enter
  /-- Lets go of the pointer. -/
  | escape
  /-- Moves the selection up. -/
  | up
  /-- Moves the selection down. -/
  | down
deriving Repr, DecidableEq, Inhabited

/-- A mouse button. -/
inductive Button where
  /-- The left one. -/
  | left
  /-- The right one. -/
  | right
  /-- The one in the middle. -/
  | middle
deriving Repr, DecidableEq, Inhabited

/-- Something a window reports. -/
inductive Event (α : Type) where
  /-- A key is pressed. -/
  | key (key : Key)
  /-- A mouse button is pressed. -/
  | press (button : Button) (x y : α)
  /-- The pointer is moved. -/
  | motion (x y : α)
deriving Repr, DecidableEq, Inhabited

/-- The position of an event. -/
def Event.position? {α : Type} : Event α → Option (α × α)
  | key _ => none
  | press _ x y | motion x y => some (x, y)

end Colloquy.Play
