import Colloquy.Asset.Fault

/-!
# Sound samples

A sample is kept as the bytes of its file.  Its format is told by the first
four of them.
-/

namespace Colloquy.Asset

/-- A format of sound. -/
inductive AudioFormat where
  /-- Samples in a RIFF file. -/
  | wav
  /-- An Ogg stream. -/
  | ogg
  /-- Layer three of MPEG audio. -/
  | mp3
  /-- Samples packed without loss. -/
  | flac
deriving Repr, DecidableEq, Inhabited

/-- The format of a file, told by its first four bytes. -/
def AudioFormat.detect? (bytes : List UInt8) : Option AudioFormat :=
  match bytes with
  | a :: b :: c :: d :: _ =>
      if [a, b, c, d] = [0x52, 0x49, 0x46, 0x46] then some .wav
      else if [a, b, c, d] = [0x4F, 0x67, 0x67, 0x53] then some .ogg
      else if [a, b, c, d] = [0x66, 0x4C, 0x61, 0x43] then some .flac
      else if [a, b, c] = [0x49, 0x44, 0x33] then some .mp3
      else if a = 0xFF ∧ [0xFB, 0xFA, 0xF3, 0xF2].contains b then some .mp3
      else none
  | _ => none

/-- A sound sample. -/
structure Sample where
  /-- The bytes of the file. -/
  data : List UInt8
  /-- Their format. -/
  format : AudioFormat
deriving Repr, DecidableEq, Inhabited

/-- The sample in the bytes of a file. -/
def Sample.ofBytes (bytes : List UInt8) : Except Fault Sample :=
  if bytes.isEmpty then .error (.invalid .emptySample)
  else match AudioFormat.detect? bytes with
    | none => .error (.invalid .unknownFormat)
    | some format => .ok ⟨bytes, format⟩

end Colloquy.Asset
