/-
Reading a TOML document.

A document is a list of lines: blank ones, comments, headers of tables
and of rows, and keys with values. Values are scalars, strings, lists
and inline tables; lists may run over several lines, with comments.
Values nest to a depth of `nesting`, and a dotted key has at most
`keyLimit` parts, which bounds the recursion of the reader.

The reader answers the entries of the document, or nothing: whoever
reads settings does not care which rule was broken. Each of its loops
takes a character or more in every round, so as many rounds as there
are characters are enough; that number is their fuel.

Line ends are made single before anything else, so a carriage return
that is left is refused wherever it stands.
-/
import FlashLink.Toml.Quoted

namespace FlashLink.Toml

/-- How deep lists and inline tables may nest. -/
def nesting : Nat := 79

/-- How many parts a dotted key may have. -/
def keyLimit : Nat := 79

-- ====================================================== blanks, comments

/-- A text with single line ends. -/
def singleLineEnds : List Char → List Char
  | [] => []
  | '\r' :: '\n' :: rest => '\n' :: singleLineEnds rest
  | c :: rest => c :: singleLineEnds rest

/-- What follows the blanks of a line. -/
def dropBlanks : List Char → List Char := List.dropWhile Quoted.isBlank

/-- What follows the end of a line that may have a comment. -/
def endLine? (s : List Char) : Option (List Char) :=
  match dropBlanks s with
  | [] => some []
  | '\n' :: rest => some rest
  | '#' :: rest =>
    match rest.dropWhile Quoted.isPlain with
    | [] => some []
    | '\n' :: rest => some rest
    | _ => none
  | _ => none

/-- What follows blanks, line ends and comments; a comment has to end
before the text does. -/
def dropLines (comment : Bool) : List Char → Option (List Char)
  | [] => if comment then none else some []
  | c :: rest =>
    if c = '\n' then dropLines false rest
    else if comment then if Quoted.isPlain c then dropLines true rest else none
    else if Quoted.isBlank c then dropLines false rest
    else if c = '#' then dropLines true rest
    else some (c :: rest)

-- ================================================================== keys

/-- A character of a key without quotes. -/
def isBareChar (c : Char) : Bool := c.isAlphanum || c = '-' || c = '_'

/-- One part of a key, and the rest. -/
def keyPart? (s : List Char) : Option (String × List Char) :=
  match s.span isBareChar with
  | ([], rest) => (Quoted.readLine? rest).map fun (part, rest) => (String.ofList part, rest)
  | (part, rest) => some (String.ofList part, rest)

/-- The parts of a key: those before the last dot, the last one, and
the rest of the text. At most `limit` parts. -/
def key? : Nat → List Char → Option (List String × String × List Char)
  | 0, _ => none
  | limit + 1, s =>
    match keyPart? (dropBlanks s) with
    | none => none
    | some (part, rest) =>
      match dropBlanks rest with
      | '.' :: rest => (key? limit rest).map fun (path, last, rest) => (part :: path, last, rest)
      | rest => some ([], part, rest)

-- ================================================================ values

/-- The items of a list up to its bracket; `found` is what was read,
newest first. -/
def listItems (item : List Char → Option (Node × List Char)) :
    Nat → List Node → List Char → Option (List Node × List Char)
  | 0, _, _ => none
  | fuel + 1, found, s =>
    match dropLines false s with
    | none => none
    | some (']' :: rest) => some (found.reverse, rest)
    | some s =>
      match item s with
      | none => none
      | some (node, rest) =>
        match dropLines false rest with
        | some (',' :: rest) => listItems item fuel (node :: found) rest
        | some (']' :: rest) => some ((node :: found).reverse, rest)
        | _ => none

/-- A key, an equals sign and a value: the path, the last part, the
value and the rest. -/
def pair? (item : List Char → Option (Node × List Char)) (s : List Char) :
    Option (List String × String × Node × List Char) :=
  match key? keyLimit s with
  | some (path, last, '=' :: rest) =>
    (item (dropBlanks rest)).map fun (node, rest) => (path, last, node, rest)
  | _ => none

/-- The pairs of an inline table up to its brace. -/
def tablePairs (item : List Char → Option (Node × List Char)) :
    Nat → Entries → List Char → Option (Entries × List Char)
  | 0, _, _ => none
  | fuel + 1, found, s =>
    match pair? item s with
    | none => none
    | some (path, last, node, rest) =>
      match found.define last node path with
      | none => none
      | some found =>
        match dropBlanks rest with
        | ',' :: rest => tablePairs item fuel found rest
        | '\x7d' :: rest => some (found, rest)
        | _ => none

/-- An inline table after its opening brace. -/
def inlineTable? (item : List Char → Option (Node × List Char)) (fuel : Nat) (s : List Char) :
    Option (Entries × List Char) :=
  match dropBlanks s with
  | '\x7d' :: rest => some ([], rest)
  | s => tablePairs item fuel [] s

/-- The value at the front, nesting at most `depth` deep, and the rest;
`fuel` is for each of its loops. -/
def value? (fuel : Nat) : Nat → List Char → Option (Node × List Char)
  | _, '\x22' :: rest =>
    (Quoted.read? ('\x22' :: rest)).map fun (cs, rest) => (.text (String.ofList cs), rest)
  | _, '\x27' :: rest =>
    (Quoted.read? ('\x27' :: rest)).map fun (cs, rest) => (.text (String.ofList cs), rest)
  | 0, '[' :: _ => none
  | depth + 1, '[' :: rest =>
    (listItems (value? fuel depth) fuel [] rest).map fun (items, rest) => (.list items, rest)
  | 0, '\x7b' :: _ => none
  | depth + 1, '\x7b' :: rest =>
    (inlineTable? (value? fuel depth) fuel rest).map fun (entries, rest) =>
      (.table .closed entries, rest)
  | _, s => Scalar.read s

-- ============================================================= documents

/-- A document being read: what it says so far, and the table or row
that the last header named. -/
structure Draft where
  entries : Entries
  /-- The parts of the last header; the document itself has none. -/
  header : Option (List String × String)

namespace Draft

/-- The draft after a pair. -/
def addPair (d : Draft) (path : List String) (last : String) (node : Node) : Option Draft :=
  match d.header with
  | none => (d.entries.define last node path).map fun entries => { d with entries }
  | some (above, name) =>
    (Entries.amend (Node.grow fun inner => inner.define last node path) d.entries name
      above).map fun entries => { d with entries }

/-- The draft after a header that makes of its place what `change` says. -/
def addHeader (d : Draft) (change : Option Node → Option Node) (path : List String)
    (last : String) : Option Draft :=
  (Entries.amend change d.entries last path).map fun entries =>
    { entries, header := some (path, last) }

/-- One line that is neither blank nor a comment, and the rest; `fuel`
is for its value. -/
def readLine (fuel : Nat) (d : Draft) (s : List Char) : Option (Draft × List Char) :=
  match s with
  | '[' :: '[' :: rest =>
    match key? keyLimit rest with
    | some (path, last, ']' :: ']' :: rest) => do
      return (← d.addHeader Node.headRow path last, ← endLine? rest)
    | _ => none
  | '[' :: rest =>
    match key? keyLimit rest with
    | some (path, last, ']' :: rest) => do
      return (← d.addHeader Node.head path last, ← endLine? rest)
    | _ => none
  | s =>
    match pair? (value? fuel nesting) s with
    | some (path, last, node, rest) => do
      return (← d.addPair path last node, ← endLine? rest)
    | none => none

/-- At most so many lines, to the end of the text; `fuel` is for the
value of each. -/
def readLines (fuel : Nat) : Nat → Draft → List Char → Option Draft
  | 0, _, _ => none
  | lines + 1, d, s =>
    match dropBlanks s with
    | [] => some d
    | '\n' :: rest => readLines fuel lines d rest
    | '#' :: rest =>
      match endLine? ('#' :: rest) with
      | some rest => readLines fuel lines d rest
      | none => none
    | s =>
      match d.readLine fuel s with
      | some (d, rest) => readLines fuel lines d rest
      | none => none

end Draft

/-- The text without a byte order mark in front. -/
def dropMark : List Char → List Char
  | '\uFEFF' :: rest => rest
  | s => s

/-- What a document says, if it is one. -/
def read? (text : String) : Option Entries :=
  let s := singleLineEnds (dropMark text.toList)
  let fuel := s.length + 1
  (Draft.readLines fuel fuel { entries := [], header := none } s).map (·.entries)

end FlashLink.Toml
