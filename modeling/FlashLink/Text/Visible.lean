/-
Text as a terminal may be shown it.

A journal goes to a terminal, and its messages repeat what others
wrote. The characters by which a text could steer the terminal are
therefore spelt out: escape, bell, backspace, form feed and delete by
two digits, the second set of controls by its code in braces. All other
characters stand for themselves, line ends included.
-/

namespace FlashLink.Visible

/-- The controls below the second set that are spelt out. -/
def steering : List Char := ['\x07', '\x08', '\x0C', '\x1B', '\x7F']

/-- The code of a character in hexadecimal, at least two digits. -/
def code (c : Char) : List Char := (Nat.toDigits 16 c.toNat).leftpad 2 '0'

/-- A character as it is shown. -/
def ofChar (c : Char) : List Char :=
  if steering.contains c then '\\' :: 'x' :: code c
  else if 0x80 ≤ c.toNat && c.toNat ≤ 0x9F then '\\' :: 'u' :: '\x7b' :: (code c ++ ['\x7d'])
  else [c]

/-- A text as it is shown. -/
def text (s : String) : String := String.ofList (s.toList.flatMap ofChar)

end FlashLink.Visible
