/-
Upper-case hexadecimal, as codes, checksums and addresses are shown in
messages: at least so many digits, padded on the left with zeros, and
more only when the value needs them.
-/

namespace FlashLink.Hex

/-- `n` in upper-case hexadecimal, at least `width` digits. -/
def upper (width n : Nat) : String :=
  String.ofList (((Nat.toDigits 16 n).map Char.toUpper).leftpad width '0')

/-- Two digits: the form of a command or reply code. -/
def byte (b : UInt8) : String := upper 2 b.toNat

/-- Four digits: the form of a checksum or a USB identifier. -/
def word (w : UInt16) : String := upper 4 w.toNat

/-- Eight digits: the form of a load address. -/
def long (w : UInt32) : String := upper 8 w.toNat

end FlashLink.Hex
