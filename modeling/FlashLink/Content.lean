/-
What a file or an image holds: bytes, then a run of zeros that is
counted and not stored. A sparse file is all run.

Reading takes exactly the bytes asked for, or fails and is at the end.
-/
import FlashLink.Failure
import FlashLink.Word

namespace FlashLink

/-- Bytes followed by `zeros` zero bytes. -/
structure Content where
  bytes : Bytes
  zeros : Nat
  deriving DecidableEq, Repr, Inhabited

namespace Content

/-- Plain bytes. -/
def ofBytes (bytes : Bytes) : Content := { bytes, zeros := 0 }

/-- Nothing. -/
def empty : Content := ofBytes []

/-- All the bytes, the run written out. -/
def toBytes (c : Content) : Bytes := c.bytes ++ List.replicate c.zeros 0

/-- How many bytes there are. -/
def size (c : Content) : Nat := c.bytes.length + c.zeros

/-- Takes exactly `count` bytes off the front. -/
def read (count : Nat) : EStateM FileFailure Content Bytes := fun c =>
  let stored := c.bytes.take count
  let wanted := count - stored.length
  if wanted ≤ c.zeros then
    .ok (stored ++ List.replicate wanted 0)
      { bytes := c.bytes.drop count, zeros := c.zeros - wanted }
  else .error .unexpectedEnd empty

end Content

-- ============================================================= the sink

/-- Where received bytes go: all of them, or so many and no more. -/
structure Sink where
  bytes : Array UInt8
  /-- How many more it takes, if that is limited. -/
  room : Option Nat
  deriving DecidableEq, Repr, Inhabited

namespace Sink

/-- An empty sink without a limit. -/
def unlimited : Sink := { bytes := #[], room := none }

/-- Writes all of `data`, or as much as there is room for and fails. -/
def write (data : Bytes) : EStateM FileFailure Sink Unit := fun sink =>
  match sink.room with
  | none => .ok () { sink with bytes := sink.bytes.appendList data }
  | some room =>
    if data.length ≤ room then
      .ok () { bytes := sink.bytes.appendList data, room := some (room - data.length) }
    else
      .error .nothingWritten
        { bytes := sink.bytes.appendList (data.take room), room := some 0 }

end Sink

end FlashLink
