/-
White space at the ends of a text.

`isBlank` is the Unicode property White_Space, all twenty-five code
points of it; `trim` drops blanks at both ends and keeps those inside.
A banner from a device may carry any of them: it is text the device
chose.
-/

namespace FlashLink.Blank

/-- The Unicode property White_Space. -/
def isBlank (c : Char) : Bool :=
  let n := c.toNat
  (9 ≤ n && n ≤ 13) || n == 0x20 || n == 0x85 || n == 0xA0 || n == 0x1680
    || (0x2000 ≤ n && n ≤ 0x200A) || n == 0x2028 || n == 0x2029 || n == 0x202F
    || n == 0x205F || n == 0x3000

/-- `cs` without the blanks at its two ends. -/
def trim (cs : List Char) : List Char :=
  ((cs.dropWhile isBlank).reverse.dropWhile isBlank).reverse

end FlashLink.Blank
