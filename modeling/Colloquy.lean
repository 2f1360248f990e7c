import Colloquy.Dialogue.Step
import Colloquy.Font.Outline
import Colloquy.Play.Opening
import Colloquy.Proofs.Dialogue.Moves
import Colloquy.Proofs.Dialogue.Paths
import Colloquy.Proofs.Play.Ending
import Colloquy.Proofs.Play.Life
import Colloquy.Proofs.Play.Marking
import Colloquy.Proofs.Play.Refusals
import Colloquy.Proofs.Play.Revealing
import Colloquy.Proofs.Play.Widening
import Colloquy.Proofs.Render.History
import Colloquy.Proofs.Script.Blocks
import Colloquy.Proofs.Script.Findings
import Colloquy.Proofs.Script.Insertion
import Colloquy.Proofs.Script.Reach
import Colloquy.Proofs.Script.Returns
import Colloquy.Proofs.Text.Slices
import Colloquy.Proofs.Typeset.Cache
import Colloquy.Proofs.Typeset.Folding
import Colloquy.Proofs.Typeset.Junctions
import Colloquy.Proofs.Typeset.Passes
import Colloquy.Proofs.Typeset.Placing
import Colloquy.Proofs.Typeset.Rewrapping
import Colloquy.Proofs.Typeset.Scan
import Colloquy.Proofs.Typeset.Widths
import Colloquy.Render.Faulty
import Colloquy.Render.Headless
import Colloquy.Script.Path
import Colloquy.Script.Writing
import Colloquy.Settings.File
import Colloquy.Typeset.Simple
