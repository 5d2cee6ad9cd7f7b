/-
The cyclic redundancy check of the boot ROM: sixteen bits, generator
x^16 + x^12 + x^5 + 1, most significant bit first, no reflection and no
final complement.

The register is the remainder of a polynomial division over two
elements. A byte enters at the top eight bits, and eight single steps
shift it out, each subtracting the generator when the bit leaving at
the top is set. Started from a register other than zero the check
continues an earlier one, so a message can be checked piece by piece.
-/
import FlashLink.Word

namespace FlashLink.Crc

/-- The generator without its leading term. -/
def generator : UInt16 := 0x1021

/-- One step of the division: shift left, and subtract the generator
if the bit that left was set. -/
def shift (r : UInt16) : UInt16 :=
  if r &&& 0x8000 == 0 then r <<< 1 else (r <<< 1) ^^^ generator

/-- Eight steps of the division. -/
def shift8 (r : UInt16) : UInt16 :=
  shift (shift (shift (shift (shift (shift (shift (shift r)))))))

/-- The register after one more byte. -/
def step (r : UInt16) (b : UInt8) : UInt16 :=
  shift8 (r ^^^ (b.toUInt16 <<< 8))

/-- The register after `bytes`, started at `seed`. -/
def crc16 (seed : UInt16) (bytes : Bytes) : UInt16 :=
  bytes.foldl step seed

@[simp] theorem crc16_nil (seed : UInt16) : crc16 seed [] = seed := rfl

@[simp] theorem crc16_cons (seed : UInt16) (b : UInt8) (bytes : Bytes) :
    crc16 seed (b :: bytes) = crc16 (step seed b) bytes := rfl

end FlashLink.Crc
