/-
What a TOML document says: values, tables of them, and rows of tables.

How a table came about decides how it may grow. A table under a header
takes keys while its header is the last one; one that is only on the
way to such a table may still get a header of its own; one made by a
dotted key grows by dotted keys alone; an inline table is closed.

`define` adds a key, dotted or not, and `amend` goes where a header
points. Both refuse to define anything twice.
-/

namespace FlashLink.Toml

/-- How a table came about. -/
inductive Standing where
  /-- It has a header, or is the document itself. -/
  | headed
  /-- It is on the way to a headed one. -/
  | implied
  /-- A dotted key made it. -/
  | dotted
  /-- It stands inline. -/
  | closed
  deriving DecidableEq, Repr, Inhabited

/-- A value, a table, or the rows of a table array. -/
inductive Node where
  | text (value : String)
  | integer (value : Int)
  | boolean (value : Bool)
  /-- A number with a point or an exponent, as written. -/
  | real (written : String)
  /-- A date, a time or both, as written. -/
  | moment (written : String)
  | list (items : List Node)
  | table (standing : Standing) (entries : List (String × Node))
  /-- The row that grows, and the rows before it. -/
  | rows (last : List (String × Node)) (before : List (List (String × Node)))
  deriving Inhabited

/-- What is under the keys of a table, in order. -/
abbrev Entries := List (String × Node)

namespace Entries

/-- What is under a key. -/
def get? (entries : Entries) (key : String) : Option Node :=
  (entries.find? (·.1 == key)).map (·.2)

/-- The entries with `node` under a key, in place of what was there. -/
def set (entries : Entries) (key : String) (node : Node) : Entries :=
  if (entries.get? key).isSome then
    entries.map fun entry => if entry.1 == key then (key, node) else entry
  else entries ++ [(key, node)]

/-- Adds a key, unless it is there. -/
def add (entries : Entries) (key : String) (node : Node) : Option Entries :=
  if (entries.get? key).isSome then none else some (entries ++ [(key, node)])

/-- Adds a key below the tables of `path`, which the dots before the
key name. -/
def define (entries : Entries) (key : String) (node : Node) : List String → Option Entries
  | [] => entries.add key node
  | name :: path =>
    match entries.get? name with
    | none =>
      (define [] key node path).map fun inner => entries.set name (.table .dotted inner)
    | some (.table .dotted inner) =>
      (define inner key node path).map fun inner => entries.set name (.table .dotted inner)
    | some (.table .implied inner) =>
      if path = [] then none
      else
        (define inner key node path).map fun inner => entries.set name (.table .implied inner)
    | some (.rows last before) =>
      if path = [] then none
      else (define last key node path).map fun last => entries.set name (.rows last before)
    | some _ => none

/-- Changes what a header points to, below the tables of `path`. Tables
on the way that are not there are implied. -/
def amend (change : Option Node → Option Node) (entries : Entries) (key : String) :
    List String → Option Entries
  | [] => (change (entries.get? key)).map fun node => entries.set key node
  | name :: path =>
    match entries.get? name with
    | none => (amend change [] key path).map fun inner => entries.set name (.table .implied inner)
    | some (.table .closed _) => none
    | some (.table standing inner) =>
      (amend change inner key path).map fun inner => entries.set name (.table standing inner)
    | some (.rows last before) =>
      (amend change last key path).map fun last => entries.set name (.rows last before)
    | some _ => none

end Entries

/-- What a table header makes of what is there. -/
def Node.head : Option Node → Option Node
  | none => some (.table .headed [])
  | some (.table .implied entries) => some (.table .headed entries)
  | some _ => none

/-- What the header of a row makes of what is there. -/
def Node.headRow : Option Node → Option Node
  | none => some (.rows [] [])
  | some (.rows last before) => some (.rows [] (last :: before))
  | some _ => none

/-- What a key under a header makes of the table or row it points to. -/
def Node.grow (add : Entries → Option Entries) : Option Node → Option Node
  | some (.table standing entries) => (add entries).map (.table standing)
  | some (.rows last before) => (add last).map (.rows · before)
  | _ => none

end FlashLink.Toml
