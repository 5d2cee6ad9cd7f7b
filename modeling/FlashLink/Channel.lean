/-
The channel: two byte pipes to one device, and the device's end of them.

What the device has sent waits in a queue of arrivals, each a chunk of
bytes or a read that will bring nothing in time. Reading takes at most
a limit of bytes from the front chunk and leaves the rest of it there.
Writing hands the bytes to the peer, whose answer, cut into chunks as
the peer likes, joins the queue at once.

The peer is any state with an answer function, so a theorem about a
channel speaks of every device that answers what is written to it. It
does not speak of a device that is unplugged halfway: whether a channel
is connected is settled when it is opened. Over a connected channel
every write succeeds and a read fails only by timing out; over another
one everything fails. The other failures of a channel have their
wording and never arise here.

The channel also keeps the traffic that went through it, in order: it
is what a statement about requests and replies is stated over.

`weight` counts entries and bytes of the queue. Every successful read
makes it smaller, which is why the receive loops end.
-/
import FlashLink.Failure
import FlashLink.Word

namespace FlashLink

-- ============================================================ the peer

/-- One queued read result. -/
inductive Arrival where
  /-- Bytes that arrive together. -/
  | chunk (bytes : Bytes)
  /-- A read that times out. -/
  | silence
  deriving DecidableEq, Repr, Inhabited

/-- A device behind a channel: how it answers a write, and what it is
afterwards. -/
class Peer (σ : Type) where
  answer : σ → Bytes → List Bytes × σ

/-- A device that answers nothing. -/
instance : Peer Unit := ⟨fun s _ => ([], s)⟩

/-- A device that answers its n-th write with the n-th list of chunks,
and later writes with nothing. -/
instance : Peer (List (List Bytes)) where
  answer
    | [], _ => ([], [])
    | chunks :: rest, _ => (chunks, rest)

-- ============================================================ the channel

/-- What went through a channel. -/
inductive Traffic where
  /-- A buffer written to the device. -/
  | sent (bytes : Bytes)
  /-- A non-empty chunk read from it. -/
  | heard (bytes : Bytes)
  deriving DecidableEq, Repr, Inhabited

/-- A channel and the device behind it. -/
structure Channel (σ : Type) where
  arrivals : List Arrival
  traffic : Array Traffic
  connected : Bool
  peer : σ

/-- Actions on a channel. -/
abbrev ChannelM (σ : Type) := EStateM ChannelFailure (Channel σ)

namespace Channel

variable {σ : Type}

/-- The vendor a channel reports. -/
def vendor : UInt16 := 0x1782

/-- The product a channel reports: a device in download mode. -/
def product : UInt16 := 0x4D00

/-- How long a read waits, in milliseconds. -/
def readTimeout : Nat := 200

/-- A connected channel with nothing queued. -/
def connect (peer : σ) : Channel σ :=
  { arrivals := [], traffic := #[], connected := true, peer }

/-- Writes bytes and lets the device answer. -/
def write [Peer σ] (bytes : Bytes) : ChannelM σ Nat := fun channel =>
  if channel.connected then
    let (chunks, peer) := Peer.answer channel.peer bytes
    .ok bytes.length
      { channel with
        arrivals := channel.arrivals ++ chunks.map .chunk
        traffic := channel.traffic.push (.sent bytes)
        peer }
  else .error .disconnected channel

/-- Traffic after a chunk was read; an empty one leaves no trace. -/
def traceHeard (traffic : Array Traffic) (bytes : Bytes) : Array Traffic :=
  if bytes.isEmpty then traffic else traffic.push (.heard bytes)

/-- Reads at most `limit` bytes of the front chunk. -/
def read (limit : Nat) : ChannelM σ Bytes := fun channel =>
  if channel.connected then
    match channel.arrivals with
    | [] => .error (.timeout readTimeout) channel
    | .silence :: rest => .error (.timeout readTimeout) { channel with arrivals := rest }
    | .chunk bytes :: rest =>
      if limit < bytes.length then
        .ok (bytes.take limit)
          { channel with
            arrivals := .chunk (bytes.drop limit) :: rest
            traffic := traceHeard channel.traffic (bytes.take limit) }
      else
        .ok bytes { channel with arrivals := rest, traffic := traceHeard channel.traffic bytes }
  else .error .disconnected channel

/-- The buffers written so far, oldest first. -/
def sent (channel : Channel σ) : List Bytes :=
  channel.traffic.toList.filterMap fun
    | .sent bytes => some bytes
    | .heard _ => none

/-- The non-empty chunks read so far, oldest first. -/
def heard (channel : Channel σ) : List Bytes :=
  channel.traffic.toList.filterMap fun
    | .sent _ => none
    | .heard bytes => some bytes

-- ===================================================== why reading ends

/-- Entries and bytes of a queue. -/
def queueWeight : List Arrival → Nat
  | [] => 0
  | .silence :: rest => queueWeight rest + 1
  | .chunk bytes :: rest => queueWeight rest + bytes.length + 1

/-- What is left to read. -/
def weight (channel : Channel σ) : Nat := queueWeight channel.arrivals

/-- A successful read takes something off the queue. -/
theorem weight_read_lt {limit : Nat} (hlimit : 0 < limit) {channel after : Channel σ}
    {bytes : Bytes} (h : read limit channel = .ok bytes after) : after.weight < channel.weight := by
  unfold read at h
  split at h
  · split at h
    · cases h
    · cases h
    · rename_i chunk rest harr
      split at h
      · cases h
        simp only [weight, harr, queueWeight, List.length_drop]
        omega
      · cases h
        simp only [weight, harr, queueWeight]
        omega
  · cases h

end Channel

end FlashLink
