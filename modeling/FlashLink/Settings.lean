/-
The settings of a session: where the two loaders are and where in
memory they go, and how large the pieces of each kind of transfer are.

The time-out and the wait for a device to appear belong to whoever
opens the channel; they are carried along with the rest.
-/
import FlashLink.Word

namespace FlashLink

/-- What a session needs to know before it begins. -/
structure Settings where
  /-- File of the first loader. -/
  firstPath : String := "fdl1.bin"
  firstAddress : UInt32 := 0x50000000
  firstWindow : UInt32 := 528
  /-- File of the second loader. -/
  secondPath : String := "fdl2.bin"
  secondAddress : UInt32 := 0x9F000000
  secondWindow : UInt32 := 2112
  /-- Largest piece of a partition read. -/
  uploadWindow : UInt32 := 0x3000
  /-- Largest piece of a partition write. -/
  downloadWindow : UInt32 := 0x1000
  /-- How long one channel access may take, in milliseconds. -/
  timeout : UInt64 := 200
  /-- How long to wait for a device, in seconds. -/
  deviceWait : UInt64 := 0
  deriving DecidableEq, Repr

namespace Settings

/-- The settings of a session that was told nothing. -/
def standard : Settings := {}

end Settings

end FlashLink
