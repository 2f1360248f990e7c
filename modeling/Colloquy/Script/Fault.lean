/-!
# Faults of a dialogue script

A script is refused at its first faulty line, or as a whole when it names no
state to start at.  Lines are counted from one.
-/

namespace Colloquy.Script

/-- Why a script is refused. -/
inductive Fault where
  /-- The script ends right after the line `text:`. -/
  | endAfterText (line : Nat)
  /-- The line after `text:` does not open a block. -/
  | missingOpen (line : Nat)
  /-- A choice has no arrow. -/
  | missingArrow (line : Nat)
  /-- A choice has no label or no target. -/
  | emptyPart (line : Nat)
  /-- There is nothing to start at. -/
  | noStates
deriving Repr, DecidableEq, Inhabited

namespace Fault

/-- The faulty line. -/
def line? : Fault → Option Nat
  | endAfterText n | missingOpen n | missingArrow n | emptyPart n => some n
  | noStates => none

/-- The fault in words. -/
def message : Fault → String
  | endAfterText n => s!"Unexpected EOF after 'text:' (line {n})"
  | missingOpen n => s!"Expected '<<<' after text: at line {n}"
  | missingArrow n => s!"Malformed option, missing '->' at line {n}"
  | emptyPart n => s!"Option missing label or target at line {n}"
  | noStates => "No states loaded"

end Fault

end Colloquy.Script
