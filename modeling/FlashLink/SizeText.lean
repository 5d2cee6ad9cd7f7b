/-
Sizes as a user writes them: decimal digits, optionally followed by one
of `k K m M` for 1024 or 1048576 bytes. A size is at least one byte and
fits the 32-bit size field of a request.

The digits may be any number, leading zeros included. They are read into
a 64-bit word, one after the other, and the unit is applied to that word;
a size that outgrows the word at either step is out of range, like one
that outgrows the field.
-/
import FlashLink.Failure

namespace FlashLink.SizeText

/-- The bytes a unit letter stands for. -/
def unit? : Char → Option Nat
  | 'k' | 'K' => some 1024
  | 'm' | 'M' => some (1024 * 1024)
  | _ => none

/-- The digits of a size and the bytes they count. -/
def split (cs : List Char) : List Char × Nat :=
  match cs.getLast? with
  | none => ([], 1)
  | some last =>
    match unit? last with
    | some unit => (cs.dropLast, unit)
    | none => (cs, 1)

/-- A number as a word, unless it is too large for one. -/
def word? (n : Nat) : Option UInt64 :=
  if n < UInt64.size then some (UInt64.ofNat n) else none

/-- The value of a digit string behind digits of some value, as long as
a word holds it. -/
def valueFrom? (value : UInt64) (digits : List Char) : Option UInt64 :=
  digits.foldlM (fun value c => word? (10 * value.toNat + (c.toNat - '0'.toNat))) value

/-- The bytes a size text asks for. -/
def parse (text : String) : Except ParamFailure UInt32 :=
  let (digits, unit) := split text.toList
  if digits.isEmpty || !digits.all Char.isDigit then .error (.invalidSize text)
  else
    match (valueFrom? 0 digits).bind fun value => word? (value.toNat * unit) with
    | none => .error (.invalidSize text)
    | some bytes =>
      if bytes = 0 ∨ UInt32.size ≤ bytes.toNat then .error (.invalidSize text)
      else .ok bytes.toUInt32

end FlashLink.SizeText
