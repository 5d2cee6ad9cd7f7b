/-
The files of the host, as far as a session sees them: a tree of
directories and files in and around the working directory.

A path is walked name by name, and slashes next to each other count as
one. A dot stays where it is and two dots go up; every other name but
the last has to lead to a directory. What the last name stands for
depends on what is asked. Reading looks it up, and a slash after it
insists on a directory. Creating refuses such a slash before it looks:
what it makes is never a directory.

Creating a file empties it if it is there. It is the only operation
that adds an entry; `store` then fills it.

Everything that is there can be read and written: no permission is
missing, no disk is full and no read of a file fails midway. What can go
wrong with a file is in its path, in what its names stand for, and in
what it holds.
-/
import FlashLink.Content
import FlashLink.Text.Utf8

namespace FlashLink

/-- What a name stands for. -/
inductive Entry where
  | file (content : Content)
  | directory
  deriving DecidableEq, Repr, Inhabited

/-- What is in and around the working directory, each entry under the
names that lead to it. Above the working directory they begin with two
dots, or with a slash for the root of the host. -/
structure Files where
  entries : List (List String × Entry)
  deriving DecidableEq, Repr, Inhabited

/-- Where a path leads. -/
inductive Place where
  /-- A directory that needs no name: its path ends in dots, or there
  is nothing but slashes in it. -/
  | directory
  /-- `name` in a directory, not looked up yet. `slash` says that the
  path goes on with a slash and so asks for a directory. -/
  | inside (directory : List String) (name : String) (slash : Bool)
  deriving DecidableEq, Repr, Inhabited

namespace Files

/-- No files. -/
def empty : Files := { entries := [] }

-- ========================================================= walking a path

/-- The longest name, in bytes. -/
def nameLimit : Nat := 255

/-- The first path length, in bytes, that is too long. -/
def pathLimit : Nat := 4096

/-- The root of the host. -/
def root : String := "/"

/-- The directory above a directory. The root is above itself. -/
def above (here : List String) : List String :=
  match here.getLast? with
  | none => [".."]
  | some last =>
    if last = root then here
    else if last = ".." then here ++ [".."]
    else here.dropLast

/-- The entry under some names. -/
def entry? (fs : Files) (names : List String) : Option Entry :=
  (fs.entries.find? (·.1 = names)).map (·.2)

/-- What a name in a directory stands for. -/
def lookUp (fs : Files) (here : List String) (name : String) : Except FileFailure Entry :=
  if nameLimit < name.utf8ByteSize then .error .nameTooLong
  else
    match fs.entry? (here ++ [name]) with
    | some entry => .ok entry
    | none => .error .notFound

/-- Where names lead from the directory `here`; `slash` says whether a
slash follows the last one. -/
def walk (fs : Files) (slash : Bool) (here : List String) :
    List String → Except FileFailure Place
  | [] => .ok .directory
  | name :: rest =>
    if name = "." then walk fs slash here rest
    else if name = ".." then walk fs slash (above here) rest
    else if rest = [] then .ok (.inside here name slash)
    else
      match fs.lookUp here name with
      | .ok .directory => walk fs slash (here ++ [name]) rest
      | .ok (.file _) => .error .notADirectory
      | .error cause => .error cause

/-- The names between the slashes of a path. -/
def namesOf (path : List Char) : List String :=
  ((path.splitOn '/').filter (· ≠ [])).map String.ofList

/-- Where a path leads. -/
def resolve (fs : Files) (path : String) : Except FileFailure Place :=
  let chars := path.toList
  if '\x00' ∈ chars then .error .nulInPath
  else if pathLimit ≤ path.utf8ByteSize then .error .nameTooLong
  else if path = "" then .error .notFound
  else
    walk fs (chars.getLast? = some '/') (if chars.head? = some '/' then [root] else [])
      (namesOf chars)

-- =============================================================== reading

/-- What a file holds. -/
def read (fs : Files) (path : String) : Except FileFailure Content :=
  match fs.resolve path with
  | .error cause => .error cause
  | .ok .directory => .error .isADirectory
  | .ok (.inside here name slash) =>
    match fs.lookUp here name with
    | .error cause => .error cause
    | .ok .directory => .error .isADirectory
    | .ok (.file content) => if slash then .error .notADirectory else .ok content

/-- The text a file holds. -/
def readText (fs : Files) (path : String) : Except FileFailure String :=
  match fs.read path with
  | .error cause => .error cause
  | .ok content =>
    match Utf8.text? content.toBytes with
    | some text => .ok text
    | none => .error .notUtf8

/-- The image in a file: a regular file whose size fits the size field
of a request. -/
def image (fs : Files) (path : String) : Except ParamFailure (UInt32 × Content) :=
  match fs.read path with
  | .error _ => .error (.notAFile path)
  | .ok content =>
    if content.size < UInt32.size then .ok (UInt32.ofNat content.size, content)
    else .error (.imageTooLarge path)

-- =============================================================== writing

/-- The files with `content` under some names. -/
def store (fs : Files) (names : List String) (content : Content) : Files :=
  { entries := (names, .file content) :: fs.entries.filter (·.1 ≠ names) }

/-- Makes an empty file, or empties the one that is there. Answers the
names it is stored under. -/
def create (fs : Files) (path : String) : Except FileFailure (List String × Files) :=
  match fs.resolve path with
  | .error cause => .error cause
  | .ok .directory => .error .isADirectory
  | .ok (.inside here name slash) =>
    let names := here ++ [name]
    if slash then .error .isADirectory
    else
      match fs.lookUp here name with
      | .ok .directory => .error .isADirectory
      | .ok (.file _) | .error .notFound => .ok (names, fs.store names .empty)
      | .error cause => .error cause

/-- Writes a whole file. -/
def write (fs : Files) (path : String) (bytes : Bytes) : Except FileFailure Files :=
  match fs.create path with
  | .error cause => .error cause
  | .ok (names, fs) => .ok (fs.store names (.ofBytes bytes))

end Files

end FlashLink
