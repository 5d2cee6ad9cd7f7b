/-
Texts as 16-bit units, the form in which partition names travel.

A character below U+10000 is one unit, any other a pair of surrogates;
`units` writes a text and `lossy` reads one back, showing a surrogate
that stands alone as U+FFFD. A name field counts units, so a character
outside the basic plane costs two.
-/

namespace FlashLink.Utf16

/-- The units of one character. -/
def ofChar (c : Char) : List UInt16 :=
  if c.toNat < 0x10000 then [UInt16.ofNat c.toNat]
  else
    [UInt16.ofNat (0xD800 + (c.toNat - 0x10000) / 1024),
     UInt16.ofNat (0xDC00 + (c.toNat - 0x10000) % 1024)]

/-- The units of a text. -/
def units (cs : List Char) : List UInt16 := cs.flatMap ofChar

/-- The first unit of a pair. -/
def isHigh (u : UInt16) : Bool := 0xD800 ≤ u && u ≤ 0xDBFF

/-- The second unit of a pair. -/
def isLow (u : UInt16) : Bool := 0xDC00 ≤ u && u ≤ 0xDFFF

/-- The character a pair stands for. -/
def ofPair (high low : UInt16) : Char :=
  Char.ofNat (0x10000 + (high.toNat - 0xD800) * 1024 + (low.toNat - 0xDC00))

/-- The text of a unit list, with U+FFFD for every surrogate that is
not half of a pair. -/
def lossy : List UInt16 → List Char
  | [] => []
  | [u] => [if isHigh u || isLow u then '\uFFFD' else Char.ofNat u.toNat]
  | u :: v :: rest =>
    if isHigh u then
      if isLow v then ofPair u v :: lossy rest
      else '\uFFFD' :: lossy (v :: rest)
    else if isLow u then '\uFFFD' :: lossy (v :: rest)
    else Char.ofNat u.toNat :: lossy (v :: rest)

end FlashLink.Utf16
