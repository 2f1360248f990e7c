import Colloquy.Toml.Lexeme

/-!
# Reading TOML

A document is read line by line.  A line defines a name, is the header of a
table, or has only a comment.  Names belong to the table of the last header
above them.
-/

namespace Colloquy.Toml

open Colloquy.Text

/-! ## Values -/

/-- A value that holds no others. -/
def scalar : Reader Value := do
  match ← Reader.peek with
  | some '"' | some '\'' => do
      let s ← text
      pure (.text s)
  | some 't' => do
      Reader.expect ['t', 'r', 'u', 'e']
      pure (.boolean true)
  | some 'f' => do
      Reader.expect ['f', 'a', 'l', 's', 'e']
      pure (.boolean false)
  | _ => do
      match ← Reader.attempt moment with
      | some v => pure v
      | none => number

/-- Values with commas between them, up to a closing bracket.  A comma can stand
after the last. -/
def listRest (item : Reader Value) : Nat → Reader (List Value)
  | 0 => failure
  | n + 1 => do
      gap
      if ← Reader.accept [']'] then pure []
      else
        let v ← item
        gap
        if ← Reader.accept [','] then
          let rest ← listRest item n
          pure (v :: rest)
        else
          Reader.expect [']']
          pure [v]

/-- A name with its value, put into a table. -/
def definition (item : Reader Value) (origin : Origin) (es : Entries) : Reader Entries := do
  let (path, key) ← dottedName
  Reader.expect ['=']
  blank
  let v ← item
  Reader.require (es.define path key v origin)

/-- Definitions with commas between them, up to a closing brace.  No comma stands
after the last. -/
def tableRest (item : Reader Value) : Nat → Entries → Reader Entries
  | 0, _ => failure
  | n + 1, es => do
      let es ← definition item .inline es
      blank
      if ← Reader.accept [','] then tableRest item n es
      else
        Reader.expect ['\x7d']
        pure es

/-- A table in braces. -/
def inlineTable (item : Reader Value) : Reader Value := do
  blank
  if ← Reader.accept ['\x7d'] then pure (.table .inline [])
  else
    let es ← Reader.fueled fun n => tableRest item n []
    pure (.table .inline es)

/-- A value, with so many values around each other at most. -/
def value : Nat → Reader Value
  | 0 => scalar
  | depth + 1 => do
      if ← Reader.accept ['['] then
        let items ← Reader.fueled (listRest (value depth))
        pure (.list items)
      else if ← Reader.accept ['\x7b'] then inlineTable (value depth)
      else scalar

/-! ## Lines -/

/-- A header, as the path to its table and the document with that table in it. -/
def header (es : Entries) : Reader (List String × Entries) := do
  Reader.expect ['[']
  let double ← Reader.accept ['[']
  let (path, key) ← dottedName
  Reader.expect (if double then [']', ']'] else [']'])
  let change := if double then Entries.addTable key else Entries.openTable key
  let es ← Reader.require (es.within false change path .header)
  pure (path ++ [key], es)

/-- The lines from here on.  `here` is the path to the table of the last header. -/
def documentRest : Nat → List String → Entries → Reader Entries
  | 0, _, _ => failure
  | n + 1, here, es => do
      comment
      if ← lineBreak then documentRest n here es
      else
        match ← Reader.peek with
        | none => pure es
        | some '[' => do
            let (here, es) ← header es
            lineEnd
            documentRest n here es
        | some _ => do
            let (path, key) ← dottedName
            Reader.expect ['=']
            blank
            let v ← value depthLimit
            lineEnd
            let es ← Reader.require (es.within false (Entries.define path key v) here .header)
            documentRest n here es

/-- The entries of a document.  A byte order mark can stand in front. -/
def document (text : String) : Option Entries :=
  Reader.whole
    (do
      let _ ← Reader.accept ['\uFEFF']
      Reader.fueled fun n => documentRest n [] [])
    text

end Colloquy.Toml
