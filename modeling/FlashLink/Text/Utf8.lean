/-
Reading UTF-8 that may be damaged.

`decode` walks a byte list and answers, item by item, either a
character or the mark that a stretch of bytes is no character. The
stretch is the longest one that still begins some well-formed sequence
(at least one byte), so damage inside a character costs one mark and
the reader is in step again at the next lead byte.

Two readings are built on it: `lossy` shows each damaged stretch as
U+FFFD, and `text?` refuses damaged text altogether.
-/
import FlashLink.Word

namespace FlashLink.Utf8

-- ======================================================= one sequence

/-- A continuation byte. -/
def isTail (b : UInt8) : Bool := 0x80 ≤ b && b ≤ 0xBF

/-- The six payload bits of a continuation byte. -/
def tailBits (b : UInt8) : Nat := b.toNat % 64

/-- The second bytes that may follow `lead`: the limits keep out the
overlong forms, the surrogates and what lies above U+10FFFF. -/
def secondOk (lead second : UInt8) : Bool :=
  if lead == 0xE0 then 0xA0 ≤ second && second ≤ 0xBF
  else if lead == 0xED then 0x80 ≤ second && second ≤ 0x9F
  else if lead == 0xF0 then 0x90 ≤ second && second ≤ 0xBF
  else if lead == 0xF4 then 0x80 ≤ second && second ≤ 0x8F
  else isTail second

/-- The item that begins with `lead`, and how many bytes of `rest`
belong to it. -/
def item (lead : UInt8) (rest : Bytes) : Option Char × Nat :=
  let l := lead.toNat
  if l < 0x80 then (some (Char.ofNat l), 0)
  else if l < 0xC2 then (none, 0)
  else if l < 0xE0 then
    match rest with
    | b :: _ => if isTail b then (some (Char.ofNat (l % 32 * 64 + tailBits b)), 1) else (none, 0)
    | [] => (none, 0)
  else if l < 0xF0 then
    match rest with
    | b :: c :: _ =>
      if secondOk lead b then
        if isTail c then (some (Char.ofNat ((l % 16 * 64 + tailBits b) * 64 + tailBits c)), 2)
        else (none, 1)
      else (none, 0)
    | [b] => (none, if secondOk lead b then 1 else 0)
    | [] => (none, 0)
  else if l < 0xF5 then
    match rest with
    | b :: c :: d :: _ =>
      if secondOk lead b then
        if isTail c then
          if isTail d then
            (some (Char.ofNat
              (((l % 8 * 64 + tailBits b) * 64 + tailBits c) * 64 + tailBits d)), 3)
          else (none, 2)
        else (none, 1)
      else (none, 0)
    | [b, c] => (none, if secondOk lead b then if isTail c then 2 else 1 else 0)
    | [b] => (none, if secondOk lead b then 1 else 0)
    | [] => (none, 0)
  else (none, 0)

-- ========================================================= whole texts

/-- `decode` with the items found so far, newest first. -/
def decodeOnto (found : List (Option Char)) : Bytes → List (Option Char)
  | [] => found.reverse
  | lead :: rest =>
    decodeOnto ((item lead rest).1 :: found) (rest.drop (item lead rest).2)
  termination_by bytes => bytes.length
  decreasing_by simp only [List.length_drop, List.length_cons]; omega

/-- The items of a byte list in order; `none` marks a damaged stretch. -/
def decode (bytes : Bytes) : List (Option Char) := decodeOnto [] bytes

/-- The text with U+FFFD in place of every damaged stretch. -/
def lossy (bytes : Bytes) : List Char :=
  (decode bytes).map (·.getD '\uFFFD')

/-- The text, if nothing in it is damaged. -/
def text? (bytes : Bytes) : Option String :=
  ((decode bytes).mapM id).map String.ofList

/-- The bytes of a text. -/
def encode (text : String) : Bytes := text.toUTF8.toList

end FlashLink.Utf8
