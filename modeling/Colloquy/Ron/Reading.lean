import Colloquy.Ron.Lexeme

/-!
# Reading the notation

RON text is read for a purpose: the reader knows the fields it looks for.  Any
other field is passed over, and its value only has to be one.  Between two
values there is a comma, and one can stand after the last.

A record can carry its name, and then it has to be the right one.  A known field
cannot come twice.

Values can be nested up to a number of levels.  Brackets take one level, and
each value in them takes another.  The content of `Some` takes one.
-/

namespace Colloquy.Ron

open Colloquy.Text

/-- What a value is read under. -/
structure Scope where
  /-- How many levels are left. -/
  levels : Nat := 128
  /-- Whether the content of `Some` can stand without parentheses. -/
  bareSome : Bool := false
deriving Repr, DecidableEq, Inhabited

/-- The scope of a value in brackets, if there are levels left for both. -/
def Scope.inner? (s : Scope) : Option Scope :=
  match s.levels with
  | levels + 2 => some { s with levels }
  | _ => none

section Items

variable {α : Type}

/-- Values up to a closing bracket. -/
def itemsRest (item : Reader α) (closing : Char) : Nat → Reader (List α)
  | 0 => failure
  | n + 1 => do
      gap
      if ← Reader.accept [closing] then pure []
      else do
        let a ← item
        if ← comma then
          let rest ← itemsRest item closing n
          pure (a :: rest)
        else
          Reader.expect [closing]
          pure [a]

/-- Values in brackets. -/
def items (opening closing : Char) (item : Reader α) : Reader (List α) := do
  Reader.expect [opening]
  Reader.fueled (itemsRest item closing)

/-- A list. -/
def list (item : Reader α) : Reader (List α) := items '[' ']' item

/-- A number of values up to a closing parenthesis. -/
def exactlyRest (item : Reader α) : Nat → Reader (List α)
  | 0 => do
      Reader.expect [')']
      pure []
  | n + 1 => do
      let a ← item
      let more ← comma
      if 0 < n ∧ more = false then failure
      let rest ← exactlyRest item n
      pure (a :: rest)

/-- A tuple of a number of values. -/
def tuple (count : Nat) (item : Reader α) : Reader (List α) := do
  Reader.expect ['(']
  gap
  exactlyRest item count

end Items

/-! ## Values of no interest -/

/-- Fields with their values up to a closing bracket. -/
def skipFields (value : Reader Unit) : Nat → Reader Unit
  | 0 => failure
  | n + 1 => do
      gap
      if ← Reader.accept [')'] then pure ()
      else do
        let _ ← name
        gap
        Reader.expect [':']
        gap
        value
        if ← comma then skipFields value n else Reader.expect [')']

/-- An entry of a map. -/
def skipEntry (value : Reader Unit) : Reader Unit := do
  value
  gap
  Reader.expect [':']
  gap
  value

/-- Whether what comes next in parentheses has named fields. -/
def hasFields : Reader Bool := Reader.ahead do
  Reader.expect ['(']
  gap
  match ← Reader.attempt name with
  | none => pure false
  | some _ => do
      gap
      let c ← Reader.peek
      pure (c == some ':')

/-- A record or a tuple. -/
def skipGroup (value : Reader Unit) : Reader Unit := do
  if ← hasFields then
    Reader.expect ['(']
    Reader.fueled (skipFields value)
  else
    let _ ← items '(' ')' value

/-- The words that are values. -/
def valueWords : List (List Char) :=
  [['t', 'r', 'u', 'e'], ['f', 'a', 'l', 's', 'e'], ['N', 'o', 'n', 'e'], ['i', 'n', 'f'],
   ['-', 'i', 'n', 'f'], ['N', 'a', 'N']]

/-- The content after `Some`, in parentheses or without any. -/
def skipContent (bareSome : Bool) (content : Reader Unit) : Reader Unit := do
  gap
  if ← Reader.accept ['('] then
    gap
    content
    let _ ← comma
    Reader.expect [')']
  else if bareSome then content
  else failure

/-- A value that is neither a word nor starts with `Some`.  Brackets need a
reader of the values in them. -/
def skipRest (inner : Option (Reader Unit)) : Reader Unit := do
  let named ← Reader.attempt name
  if named.isSome then gap
  match ← Reader.peek with
  | some '(' => skipGroup (← Reader.require inner)
  | c =>
      if named.isSome then return
      match c with
      | some '[' => let _ ← list (← Reader.require inner)
      | some '{' => let _ ← items '\x7b' '\x7d' (skipEntry (← Reader.require inner))
      | some '"' | some 'r' => let _ ← string
      | some '\'' => let _ ← character
      | _ => anyNumber

/-- A value, given the reader of the content of `Some` and that of the values in
brackets.  Where no level is left there is none for brackets. -/
def skipOne (bareSome : Bool) (content : Reader Unit) (inner : Option (Reader Unit)) :
    Reader Unit := do
  if ← anyKeyword valueWords then return
  if ← Reader.accept ['(', ')'] then return
  if ← keyword ['S', 'o', 'm', 'e'] then skipContent bareSome content
  else skipRest inner

/-- Any value, given the levels that are left.  Nothing in `()` is a value of its
own, and takes no level. -/
def skipValue (bareSome : Bool) : Nat → Reader Unit
  | 0, cs => skipOne bareSome failure none cs
  | 1, cs => skipOne bareSome (skipValue bareSome 0) (some failure) cs
  | levels + 2, cs =>
      skipOne bareSome (skipValue bareSome (levels + 1)) (some (skipValue bareSome levels)) cs

/-! ## Records -/

/-- A field that is looked for: its name, and how its value changes a state. -/
structure Wanted (σ : Type) where
  /-- The name. -/
  name : String
  /-- The reader of the value, given its scope. -/
  value : Scope → σ → Reader σ

/-- The fields of a record up to the closing bracket, with the names of those
that were looked for. -/
def recordRest {σ : Type} (fields : List (Wanted σ)) (scope : Scope) :
    Nat → σ × List String → Reader (σ × List String)
  | 0, _ => failure
  | n + 1, (s, seen) => do
      gap
      if ← Reader.accept [')'] then pure (s, seen)
      else do
        let key ← name
        gap
        Reader.expect [':']
        gap
        let inner ← Reader.require scope.inner?
        let next ←
          match fields.find? fun f => f.name.toList = key with
          | none => do
              skipValue inner.bareSome inner.levels
              pure (s, seen)
          | some field => do
              if seen.contains field.name then failure
              let s ← field.value inner s
              pure (s, field.name :: seen)
        if ← comma then recordRest fields scope n next
        else
          Reader.expect [')']
          pure next

/-- A record, starting with a state. -/
def record {σ : Type} (recordName : String) (fields : List (Wanted σ)) (scope : Scope) (s : σ) :
    Reader (σ × List String) := do
  match ← Reader.peek with
  | some c =>
      if inName c then
        let found ← name
        if found ≠ recordName.toList then failure
  | none => failure
  gap
  Reader.expect ['(']
  Reader.fueled fun n => recordRest fields scope n (s, [])

/-- A record of which every field has to be there. -/
def fullRecord {σ : Type} (recordName : String) (fields : List (Wanted σ)) (scope : Scope)
    (s : σ) : Reader σ := do
  let (s, seen) ← record recordName fields scope s
  if fields.all fun f => seen.contains f.name then pure s else failure

/-- A truth value. -/
def bool : Reader Bool := do
  if ← keyword ['t', 'r', 'u', 'e'] then pure true
  else if ← keyword ['f', 'a', 'l', 's', 'e'] then pure false
  else failure

/-! ## Documents -/

/-- The switch that lets the content of `Some` stand without parentheses. -/
def bareSomeSwitch : String := "implicit_some"

/-- The switches a document can turn on.  The others change nothing that is read
here. -/
def switches : List String := [bareSomeSwitch, "unwrap_newtypes", "unwrap_variant_newtypes"]

/-- The names of switches up to the closing bracket. -/
def switchesRest : Nat → Reader (List String)
  | 0 => failure
  | n + 1 => do
      let key := String.ofList (← name)
      if !switches.contains key then failure
      let more ← comma
      let c ← Reader.peek
      if more && (c.map inName).getD false then
        let rest ← switchesRest n
        pure (key :: rest)
      else pure [key]

/-- Words, with blank space after each. -/
def expectAll : List (List Char) → Reader Unit
  | [] => pure ()
  | w :: ws => do
      Reader.expect w
      gap
      expectAll ws

/-- Lines that turn on switches, at the head of a document. -/
def headers : Nat → Reader (List String)
  | 0 => failure
  | n + 1 => do
      if (← Reader.peek) = some '#' then
        expectAll [['#'], ['!'], ['['], ['e', 'n', 'a', 'b', 'l', 'e'], ['(']]
        let found ← Reader.fueled switchesRest
        gap
        expectAll [[')'], [']']]
        let more ← headers n
        pure (found ++ more)
      else pure []

/-- What a reader makes of a document. -/
def document {α : Type} (r : Scope → Reader α) (text : String) : Option α :=
  Reader.whole
    (do
      gap
      let found ← Reader.fueled headers
      let a ← r { bareSome := found.contains bareSomeSwitch }
      gap
      pure a)
    text

end Colloquy.Ron
