/-
Numbers, truth values, dates and times.

A scalar is read as one word, everything up to the next character that
none of them has, and then told apart by form:

- integers in base ten without leading zeros, or without sign in base
  sixteen, eight and two, each of them a signed 64-bit number;
- reals with a point, an exponent or both, the infinities and the
  not-a-numbers; a real too large for any finite one is refused;
- dates, times of day, and both, with or without an offset. A day has to
  be one that the month has; a minute may have sixty-one seconds.

Underscores may group digits, one at a time and only between them.
-/
import FlashLink.Toml.Node

namespace FlashLink.Toml.Scalar

-- ================================================================ digits

/-- A digit up to base sixteen. -/
def isHexDigit (c : Char) : Bool :=
  c.isDigit || ('a' ≤ c && c ≤ 'f') || ('A' ≤ c && c ≤ 'F')

/-- The value of a digit up to base sixteen. -/
def digitValue (c : Char) : Nat :=
  if c.isDigit then c.toNat - '0'.toNat else c.toLower.toNat - 'a'.toNat + 10

/-- The value of digits in a base. -/
def valueIn (base : Nat) (digits : List Char) : Nat :=
  digits.foldl (fun n c => base * n + digitValue c) 0

/-- Whether a text goes on with digits, one underscore between two of
them at most, and ends after a digit; `after` says whether it stands
after one. -/
def isGrouped (isDigit : Char → Bool) (after : Bool) : List Char → Bool
  | [] => after
  | c :: rest =>
    if isDigit c then isGrouped isDigit true rest
    else after && c = '_' && isGrouped isDigit false rest

/-- Digits without the underscores between them; at least one. -/
def ungroup (isDigit : Char → Bool) (s : List Char) : Option (List Char) :=
  if isGrouped isDigit false s then some (s.filter (· != '_')) else none

/-- Whether a number is negative, and the rest of it. -/
def sign : List Char → Bool × List Char
  | '-' :: rest => (true, rest)
  | '+' :: rest => (false, rest)
  | s => (false, s)

-- ============================================================== integers

/-- The digits of a number in base ten: a zero, or no zero in front. -/
def decimal? : List Char → Option (List Char)
  | ['0'] => some ['0']
  | '0' :: _ => none
  | s => ungroup Char.isDigit s

/-- The least number too large for an integer. -/
def integerBound : Nat := 0x8000000000000000

/-- The digits an integer has at most, in any base, after the zeros in
front. -/
def digitLimit : Nat := 64

/-- Digits without the zeros in front. -/
def significant : List Char → List Char := List.dropWhile (· = '0')

/-- The number of a sign and digits, if a signed 64-bit word holds it. -/
def inWord (negative : Bool) (base : Nat) (digits : List Char) : Option Int :=
  if digitLimit < (significant digits).length then none
  else
    let n : Int := if negative then -valueIn base digits else valueIn base digits
    if -integerBound ≤ n ∧ n < integerBound then some n else none

/-- An integer. -/
def integer? : List Char → Option Int
  | '0' :: 'x' :: rest => (ungroup isHexDigit rest).bind (inWord false 16)
  | '0' :: 'o' :: rest => (ungroup (fun c => '0' ≤ c && c ≤ '7') rest).bind (inWord false 8)
  | '0' :: 'b' :: rest => (ungroup (fun c => c = '0' || c = '1') rest).bind (inWord false 2)
  | s =>
    let (negative, rest) := sign s
    (decimal? rest).bind (inWord negative 10)

-- ================================================================= reals

/-- The least number that rounds to infinity: halfway between the
largest finite one and the next power of two. It has `overflowDigits`
digits. -/
def overflow : Nat := Nat.pow 2 1024 - Nat.pow 2 970

/-- The digits of `overflow`. -/
def overflowDigits : Nat := 309

/-- Whether `digits` times ten to the power of `exponent` is too large
for a finite real. How many digits stand before the point decides but
for one case, and in that one the digits after it do not matter. -/
def isTooLarge (digits : List Char) (exponent : Int) : Bool :=
  let digits := significant digits
  let whole := digits.length + exponent
  if digits.isEmpty || whole < overflowDigits then false
  else if overflowDigits < whole then true
  else overflow ≤ valueIn 10 ((digits.take overflowDigits).rightpad overflowDigits '0')

/-- The digits after a point, if there is a point. -/
def fraction? : List Char → Option (List Char)
  | [] => some []
  | _ :: digits => ungroup Char.isDigit digits

/-- A power as large as this is taken as it is: digits that follow are
not read. -/
def powerBound : Nat := 0x10000

/-- The value of the digits of a power. -/
def powerOf (digits : List Char) : Nat :=
  digits.foldl (fun n c => if n < powerBound then 10 * n + digitValue c else n) 0

/-- The power after an exponent letter, if there is one. -/
def power? : List Char → Option Int
  | [] => some 0
  | _ :: rest =>
    let (negative, digits) := sign rest
    (ungroup Char.isDigit digits).map fun ds =>
      if negative then -(powerOf ds : Int) else (powerOf ds : Int)

/-- Whether a word is a real number. -/
def isReal (s : List Char) : Bool :=
  let (negative, body) := sign s
  if body = ['i', 'n', 'f'] || body = ['n', 'a', 'n'] then true
  else
    let (mantissa, power) := body.span fun c => c != 'e' && c != 'E'
    let (whole, fraction) := mantissa.span (· != '.')
    if fraction.isEmpty && power.isEmpty then false
    else
      match decimal? whole, fraction? fraction, power? power with
      | some whole, some fraction, some power =>
        negative || !isTooLarge (whole ++ fraction) (power - fraction.length)
      | _, _, _ => false

-- ======================================================= dates and times

/-- The value of the first `count` characters, all digits, and the rest. -/
def digits? (count : Nat) (s : List Char) : Option (Nat × List Char) :=
  let head := s.take count
  if head.length = count && head.all Char.isDigit then some (valueIn 10 head, s.drop count)
  else none

/-- What follows a character. -/
def after? (c : Char) : List Char → Option (List Char)
  | d :: rest => if d = c then some rest else none
  | [] => none

/-- The days of a month. -/
def daysOf (year month : Nat) : Nat :=
  if month = 2 then
    if year % 4 = 0 ∧ (year % 100 ≠ 0 ∨ year % 400 = 0) then 29 else 28
  else if month = 4 ∨ month = 6 ∨ month = 9 ∨ month = 11 then 30
  else 31

/-- What follows a date. -/
def date? (s : List Char) : Option (List Char) := do
  let (year, s) ← digits? 4 s
  let (month, s) ← digits? 2 (← after? '-' s)
  let (day, s) ← digits? 2 (← after? '-' s)
  if 1 ≤ month ∧ month ≤ 12 ∧ 1 ≤ day ∧ day ≤ daysOf year month then some s else none

/-- What follows a time of day. -/
def time? (s : List Char) : Option (List Char) := do
  let (hour, s) ← digits? 2 s
  let (minute, s) ← digits? 2 (← after? ':' s)
  let (second, s) ← digits? 2 (← after? ':' s)
  if hour ≤ 23 ∧ minute ≤ 59 ∧ second ≤ 60 then
    match s with
    | '.' :: rest =>
      match rest.span Char.isDigit with
      | ([], _) => none
      | (_, rest) => some rest
    | s => some s
  else none

/-- Whether a word is nothing or the offset of a time. -/
def isOffset : List Char → Bool
  | [] | ['Z'] | ['z'] => true
  | c :: rest =>
    (c = '+' || c = '-') &&
      match digits? 2 rest with
      | some (hour, ':' :: rest) =>
        match digits? 2 rest with
        | some (minute, []) => hour ≤ 23 && minute ≤ 59
        | _ => false
      | _ => false

/-- Whether a word is a time of day with an offset or without. -/
def isOffsetTime (s : List Char) : Bool :=
  match time? s with
  | some rest => isOffset rest
  | none => false

/-- Whether a word is a date, a time of day, or both joined by a `T`. -/
def isMoment (s : List Char) : Bool :=
  match date? s with
  | some [] => true
  | some (c :: rest) => (c = 'T' || c = 't') && isOffsetTime rest
  | none => time? s == some []

-- ================================================================= words

/-- A character that a scalar may have. -/
def isWordChar (c : Char) : Bool :=
  c.isAlphanum || c = '+' || c = '-' || c = '_' || c = '.' || c = ':'

/-- The scalar a word stands for. -/
def ofWord (s : List Char) : Option Node :=
  if s = ['t', 'r', 'u', 'e'] then some (.boolean true)
  else if s = ['f', 'a', 'l', 's', 'e'] then some (.boolean false)
  else
    match integer? s with
    | some n => some (.integer n)
    | none =>
      if isReal s then some (.real (String.ofList s))
      else if isMoment s then some (.moment (String.ofList s))
      else none

/-- The scalar at the front, and the rest. A date and a time may be
joined by one space: a digit after it belongs to the time. -/
def read (s : List Char) : Option (Node × List Char) :=
  let (word, rest) := s.span isWordChar
  match date? word, rest with
  | some [], ' ' :: c :: rest =>
    if c.isDigit then
      let (time, rest) := (c :: rest).span isWordChar
      if isOffsetTime time then
        some (.moment (String.ofList (word ++ ' ' :: time)), rest)
      else none
    else some (.moment (String.ofList word), ' ' :: c :: rest)
  | _, _ => (ofWord word).map (·, rest)

end FlashLink.Toml.Scalar
