/-
Strings in quotes: four forms, read and written.

Between quotation marks a backslash begins an escape; between
apostrophes every character stands for itself. Three quotes open a form
that may hold line ends and up to two quotes in a row; its first line
end, if that is the first thing in it, does not count, and five quotes
at the end are two that belong to the string and three that close it.

Controls other than the tab have to be escaped. `write` picks the first
form that needs no escape and only escapes when none is left.

Line ends are single here: whoever reads a document has already read
carriage return and line feed as one.
-/
import FlashLink.Toml.Scalar

namespace FlashLink.Toml.Quoted

-- ============================================================ characters

/-- A control character: below the space, or the delete. -/
def isControl (c : Char) : Bool := c.toNat < 0x20 || c.toNat = 0x7F

/-- A character that may stand in a string as it is. -/
def isPlain (c : Char) : Bool := !isControl c || c = '\t'

/-- A blank within a line. -/
def isBlank (c : Char) : Bool := c = ' ' || c = '\t'

/-- The character of exactly `count` hexadecimal digits, and the rest. -/
def codePoint? (count : Nat) (s : List Char) : Option (Char × List Char) :=
  let digits := s.take count
  let n := Scalar.valueIn 16 digits
  if digits.length = count && digits.all Scalar.isHexDigit && n.isValidChar then
    some (Char.ofNat n, s.drop count)
  else none

/-- The character an escape stands for, and the rest. -/
def escape? : List Char → Option (Char × List Char)
  | 'b' :: rest => some ('\x08', rest)
  | 't' :: rest => some ('\t', rest)
  | 'n' :: rest => some ('\n', rest)
  | 'f' :: rest => some ('\x0C', rest)
  | 'r' :: rest => some ('\r', rest)
  | '\x22' :: rest => some ('\x22', rest)
  | '\\' :: rest => some ('\\', rest)
  | 'u' :: rest => codePoint? 4 rest
  | 'U' :: rest => codePoint? 8 rest
  | _ => none

/-- The rest after hexadecimal digits is no longer than before. -/
theorem length_codePoint?_le {count : Nat} {s rest : List Char} {c : Char}
    (h : codePoint? count s = some (c, rest)) : rest.length ≤ s.length := by
  unfold codePoint? at h
  simp only [Option.ite_none_right_eq_some, Option.some.injEq, Prod.mk.injEq] at h
  rw [← h.2.2, List.length_drop]
  omega

/-- The rest after an escape is shorter than before. -/
theorem length_escape?_lt {s rest : List Char} {c : Char} (h : escape? s = some (c, rest)) :
    rest.length < s.length := by
  unfold escape? at h
  split at h <;> first
    | exact Nat.lt_succ_of_le (length_codePoint?_le h)
    | (cases h; exact Nat.lt_succ_self _)
    | cases h

/-- What follows blanks and line ends. -/
def dropGap : List Char → List Char := List.dropWhile fun c => isBlank c || c = '\n'

/-- What follows a backslash at the end of a line: all blanks and line
ends after it vanish. -/
def joined? (s : List Char) : Option (List Char) :=
  match s.dropWhile isBlank with
  | '\n' :: rest => some (dropGap rest)
  | _ => none

/-- Joining lines takes at least the line end. -/
theorem length_joined?_lt {s rest : List Char} (h : joined? s = some rest) :
    rest.length < s.length := by
  unfold joined? at h
  split at h
  · rename_i tail hs
    cases h
    have h₁ : (s.dropWhile isBlank).length ≤ s.length :=
      (List.dropWhile_sublist isBlank).length_le
    have h₂ : (dropGap tail).length ≤ tail.length := (List.dropWhile_sublist _).length_le
    rw [hs, List.length_cons] at h₁
    omega
  · cases h

-- =============================================================== reading

/-- The quotes that still belong to the string after the first three of
a closing run, newest last, and the rest. -/
def closing (quote : Char) : List Char → List Char × List Char
  | c :: d :: rest =>
    if c = quote then if d = quote then ([c, d], rest) else ([c], d :: rest)
    else ([], c :: d :: rest)
  | [c] => if c = quote then ([c], []) else ([], [c])
  | [] => ([], [])

/-- Up to the closing quotation mark; `found` is what was read, newest
first. -/
def readBasic (found : List Char) (s : List Char) : Option (List Char × List Char) :=
  match s with
  | [] => none
  | '\x22' :: rest => some (found.reverse, rest)
  | '\\' :: rest =>
    match _h : escape? rest with
    | some (c, rest) => readBasic (c :: found) rest
    | none => none
  | c :: rest => if isPlain c then readBasic (c :: found) rest else none
  termination_by s.length
  decreasing_by
    · have := length_escape?_lt ‹_›
      simp only [List.length_cons]
      omega
    · simp

/-- Up to three closing quotation marks. -/
def readLongBasic (found : List Char) (s : List Char) : Option (List Char × List Char) :=
  match s with
  | [] => none
  | '\x22' :: '\x22' :: '\x22' :: rest =>
    let (quotes, rest) := closing '\x22' rest
    some (found.reverse ++ quotes, rest)
  | '\\' :: rest =>
    match _h : joined? rest with
    | some rest => readLongBasic found rest
    | none =>
      match _h : escape? rest with
      | some (c, rest) => readLongBasic (c :: found) rest
      | none => none
  | c :: rest => if isPlain c || c = '\n' then readLongBasic (c :: found) rest else none
  termination_by s.length
  decreasing_by
    · have := length_joined?_lt ‹_›
      simp only [List.length_cons]
      omega
    · have := length_escape?_lt ‹_›
      simp only [List.length_cons]
      omega
    · simp

/-- Up to the closing apostrophe. -/
def readLiteral (found : List Char) : List Char → Option (List Char × List Char)
  | [] => none
  | c :: rest =>
    if c = '\x27' then some (found.reverse, rest)
    else if isPlain c then readLiteral (c :: found) rest
    else none

/-- Up to three closing apostrophes. -/
def readLongLiteral (found : List Char) : List Char → Option (List Char × List Char)
  | [] => none
  | '\x27' :: '\x27' :: '\x27' :: rest =>
    let (quotes, rest) := closing '\x27' rest
    some (found.reverse ++ quotes, rest)
  | c :: rest => if isPlain c || c = '\n' then readLongLiteral (c :: found) rest else none

/-- What follows a line end right after the opening quotes. -/
def dropLineEnd : List Char → List Char
  | '\n' :: rest => rest
  | s => s

/-- The string at the front, in a form of one line, and the rest. -/
def readLine? : List Char → Option (List Char × List Char)
  | '\x22' :: rest => readBasic [] rest
  | '\x27' :: rest => readLiteral [] rest
  | _ => none

/-- The string at the front, in any form, and the rest. -/
def read? : List Char → Option (List Char × List Char)
  | '\x22' :: '\x22' :: '\x22' :: rest => readLongBasic [] (dropLineEnd rest)
  | '\x27' :: '\x27' :: '\x27' :: rest => readLongLiteral [] (dropLineEnd rest)
  | s => readLine? s

-- =============================================================== writing

/-- A control as its four digits. -/
def escapeCode (c : Char) : List Char :=
  '\\' :: 'u' :: ((Nat.toDigits 16 c.toNat).map Char.toUpper).leftpad 4 '0'

/-- A character between single quotation marks. -/
def escapeChar (c : Char) : List Char :=
  if c = '\x08' then ['\\', 'b']
  else if c = '\t' then ['\\', 't']
  else if c = '\n' then ['\\', 'n']
  else if c = '\x0C' then ['\\', 'f']
  else if c = '\r' then ['\\', 'r']
  else if c = '\x22' then ['\\', '\x22']
  else if c = '\\' then ['\\', '\\']
  else if isControl c then escapeCode c
  else [c]

/-- Characters between three quotation marks, `quotes` of which stand
right before them: every third one in a row is escaped. -/
def escapeLong (quotes : Nat) : List Char → List Char
  | [] => []
  | c :: rest =>
    if c = '\x22' then
      if quotes = 2 then '\\' :: '\x22' :: escapeLong 0 rest
      else '\x22' :: escapeLong (quotes + 1) rest
    else if c = '\n' then '\n' :: escapeLong 0 rest
    else escapeChar c ++ escapeLong 0 rest

/-- Whether more than two of a quote stand in a row, `seen` of them
right before. -/
def hasRun (quote : Char) (seen : Nat) : List Char → Bool
  | [] => false
  | c :: rest =>
    if c = quote then seen = 2 || hasRun quote (seen + 1) rest else hasRun quote 0 rest

/-- A string between three quotes. It begins with a line end of its own
if it has any. -/
def long (quote : Char) (s written : List Char) : List Char :=
  let fence := [quote, quote, quote]
  fence ++ (if s.contains '\n' then ['\n'] else []) ++ written ++ fence

/-- A string in the first form that fits. -/
def write (s : List Char) : List Char :=
  let short := s.all isPlain
  let lines := s.all fun c => isPlain c || c = '\n'
  if short && !s.contains '\\' && !s.contains '\x22' then
    '\x22' :: (s.flatMap escapeChar ++ ['\x22'])
  else if short && !s.contains '\x27' then '\x27' :: (s ++ ['\x27'])
  else if lines && !s.contains '\\' && !hasRun '\x22' 0 s then long '\x22' s (escapeLong 0 s)
  else if lines && !hasRun '\x27' 0 s then long '\x27' s s
  else if s.contains '\n' then long '\x22' s (escapeLong 0 s)
  else '\x22' :: (s.flatMap escapeChar ++ ['\x22'])

end FlashLink.Toml.Quoted
