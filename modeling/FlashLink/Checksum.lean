/-
The two checksums a frame can carry, and which of them is in force.

The boot ROM and the loader it starts are spoken to with the cyclic
check until the first loader runs; from then on every frame carries the
one's-complement sum. The mode is therefore a property of the peer's
current program and is passed to everything that builds or checks a
frame.
-/
import FlashLink.Checksum.Crc
import FlashLink.Checksum.OnesSum

namespace FlashLink

/-- Which checksum the peer expects. -/
inductive ChecksumMode where
  /-- The cyclic check of the boot ROM. -/
  | crc
  /-- The one's-complement sum of the loaders. -/
  | sum
  deriving DecidableEq, Repr, Inhabited

namespace ChecksumMode

/-- The name a mode is shown by. -/
def name : ChecksumMode → String
  | crc => "CRC16"
  | sum => "IPSUM"

/-- The checksum of `bytes` in a mode. -/
def checksum : ChecksumMode → Bytes → UInt16
  | crc, bytes => Crc.crc16 0 bytes
  | sum, bytes => OnesSum.onesSum bytes

end ChecksumMode

end FlashLink
