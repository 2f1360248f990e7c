/-!
# Tables

A TOML document is a table: names with their values, which can be tables again.
It is built up line by line, and how a table came to be decides what can be
added to it later.

* A table of a header holds the lines below it.  No other header opens it, and
  no dotted name leads into it.
* An implied table stands on the way to a table of a header.  A header can
  still open it.
* A dotted table stands on the way of a dotted name.  Only dotted names add to
  it.
* An inline table is complete.

A header in double brackets adds a table to a list of tables.  What leads into
such a list leads into its last table.
-/

namespace Colloquy.Toml

/-- How a table came to be. -/
inductive Origin where
  /-- By its own header. -/
  | header
  /-- On the way to a table of a header. -/
  | implied
  /-- On the way of a dotted name. -/
  | dotted
  /-- In braces. -/
  | inline
deriving Repr, DecidableEq, Inhabited

/-- A value of a document. -/
inductive Value where
  /-- A text. -/
  | text (s : String)
  /-- A whole number. -/
  | integer (n : Int)
  /-- A number with a point or an exponent. -/
  | float (x : Float)
  /-- A truth value. -/
  | boolean (b : Bool)
  /-- A date or a time of day. -/
  | moment
  /-- A list in brackets. -/
  | list (items : List Value)
  /-- A table. -/
  | table (origin : Origin) (entries : List (String × Value))
  /-- A list of tables with headers: those before the last, and the last. -/
  | tables (earlier : List Value) (last : List (String × Value))
deriving Repr, Inhabited

/-- The names of a table with their values. -/
abbrev Entries := List (String × Value)

namespace Entries

/-- The entries with a value under a name, in place of the one that was there
before. -/
def put (key : String) (v : Value) : Entries → Entries
  | [] => [(key, v)]
  | (k, w) :: es => if k = key then (k, v) :: es else (k, w) :: put key v es

/-- What becomes of a table where a change is made at the end of a path.  Tables
missing on the way are made.  The names of a path are those of a dotted name or
those of a header. -/
def within (dotted : Bool) (change : Origin → Entries → Option Entries) :
    List String → Origin → Entries → Option Entries
  | [], origin, es => change origin es
  | key :: path, _, es =>
      let next : Option Value :=
        match es.lookup key with
        | none =>
            let origin := if dotted then .dotted else .implied
            (within dotted change path origin []).map (.table origin)
        | some (.table origin inner) =>
            if origin = .inline ∨ dotted ∧ origin = .header then none
            else (within dotted change path origin inner).map (.table origin)
        | some (.tables earlier last) =>
            (within dotted change path .header last).map (.tables earlier)
        | some _ => none
      next.map fun v => put key v es

/-- A new name in a table.  A dotted table takes it from a dotted name and any
other table from a plain one. -/
def insert (isDotted : Bool) (key : String) (v : Value) (origin : Origin) (es : Entries) :
    Option Entries :=
  if (origin = .dotted) = isDotted ∧ (es.lookup key).isNone then some (es ++ [(key, v)]) else none

/-- The table with the value of a dotted name. -/
def define (path : List String) (key : String) (v : Value) (origin : Origin) (es : Entries) :
    Option Entries :=
  within true (insert (!path.isEmpty) key v) path origin es

/-- The table in which a header opens a table. -/
def openTable (key : String) (_ : Origin) (es : Entries) : Option Entries :=
  match es.lookup key with
  | none => some (put key (.table .header []) es)
  | some (.table .implied inner) => some (put key (.table .header inner) es)
  | some _ => none

/-- The table in which a header adds to a list of tables. -/
def addTable (key : String) (_ : Origin) (es : Entries) : Option Entries :=
  match es.lookup key with
  | none => some (put key (.tables [] []) es)
  | some (.tables earlier last) =>
      some (put key (.tables (earlier ++ [.table .header last]) []) es)
  | some _ => none

end Entries

end Colloquy.Toml
