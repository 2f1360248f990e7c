import Colloquy.Font.Fault

/-!
# Table directories

A font file starts with a directory of its tables.  It is four bytes that tell
the kind of file, a count of tables in two bytes, six bytes that only help
searching, and a record of sixteen bytes for each table.  A record is a tag, a
checksum, and where in the file the table starts and how long it is.

A collection of fonts starts with a kind of its own and lists where the
directory of each font starts.  The first font counts.

All numbers have their most significant byte first.  The first fault on the way
from the kind of file to the tables is what is wrong with a file.
-/

namespace Colloquy.Font

/-! ## Bytes of a file -/

/-- The number that bytes stand for. -/
def bigEndian (bs : List UInt8) : Nat := bs.foldl (fun n b => n * 256 + b.toNat) 0

/-- A count of bytes from a place on, if there are as many. -/
def bytesAt? (bs : List UInt8) (place count : Nat) : Option (List UInt8) :=
  if place + count ≤ bs.length then some ((bs.drop place).take count) else none

/-- The number in a count of bytes from a place on. -/
def numberAt? (bs : List UInt8) (place count : Nat) : Option Nat :=
  (bytesAt? bs place count).map bigEndian

/-! ## The directory -/

/-- How a font can start. -/
def fontMagics : List (List UInt8) :=
  [[0x00, 0x01, 0x00, 0x00], [0x74, 0x72, 0x75, 0x65], [0x4F, 0x54, 0x54, 0x4F]]

/-- How a collection of fonts starts. -/
def collectionMagic : List UInt8 := [0x74, 0x74, 0x63, 0x66]

/-- Where the directory of the first font of a collection starts. -/
def firstOfCollection (bs : List UInt8) : Except Fault Nat :=
  match numberAt? bs 8 4 with
  | none => .error .truncated
  | some count =>
      match bytesAt? bs 12 (4 * count) with
      | none => .error .truncated
      | some places =>
          let start := bigEndian (places.take 4)
          if count = 0 then .error .emptyCollection
          else if start < 12 + 4 * count ∨ bs.length < start then .error .truncated
          else match bytesAt? bs start 4 with
            | some magic => if fontMagics.contains magic then .ok start else .error .badMagic
            | none => .error .badMagic

/-- Where the directory of a font starts. -/
def directoryStart (bs : List UInt8) : Except Fault Nat :=
  let magic := bs.take 4
  if fontMagics.contains magic then .ok 0
  else if magic = collectionMagic then firstOfCollection bs
  else .error .badMagic

/-- Sixteen bytes for each table of the directory that starts at a place. -/
def recordsAt? (bs : List UInt8) (start : Nat) : Option (List (List UInt8)) :=
  match numberAt? bs (start + 4) 2 with
  | none => none
  | some count =>
      if start + 12 + 16 * count ≤ bs.length then
        some ((List.range count).map fun i => (bs.drop (start + 12 + 16 * i)).take 16)
      else none

/-- The bytes of a table.  Of two records with its tag the last one counts. -/
def tableBytes? (bs : List UInt8) (records : List (List UInt8)) (table : Table) :
    Option (List UInt8) :=
  match (records.filter fun r => r.take 4 = table.tag.toUTF8.toList).getLast? with
  | none => none
  | some record =>
      bytesAt? bs (bigEndian ((record.drop 8).take 4)) (bigEndian ((record.drop 12).take 4))

/-! ## Tables -/

/-- Whether a number of units is one a font can have. -/
def isUnitCount (n : Nat) : Bool := 16 ≤ n && n ≤ 16384

/-- Whether bytes are a table as it has to be.  Only the tables a font has to
have are looked into. -/
def Table.accepts : Table → List UInt8 → Bool
  | .head, bs =>
      bs.length == 54 && ((numberAt? bs 18 2).any isUnitCount) &&
        ((numberAt? bs 50 2).any fun format => format == 0 || format == 1)
  | .hhea, bs => bs.length == 36
  | .maxp, bs =>
      ((numberAt? bs 0 4).any fun version => version == 0x5000 || version == 0x10000) &&
        ((numberAt? bs 4 2).any fun glyphs => glyphs != 0)
  | _, _ => true

/-- What is wrong with the bytes of a font file. -/
def fileFault (bs : List UInt8) : Fault :=
  match directoryStart bs with
  | .error fault => fault
  | .ok start =>
      match recordsAt? bs start with
      | none => .truncated
      | some records =>
          let bad := Table.required.find? fun table =>
            !(tableBytes? bs records table).any table.accepts
          match bad with
          | some table => .badTable table
          | none => .noFace

end Colloquy.Font
