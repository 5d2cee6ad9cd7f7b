/-
The link: one request, one reply.

A link is a channel, the checksum the peer expects, and the events heard
so far. Sending builds a frame in the current mode, stuffs it and
writes it. Receiving puts a frame together from whatever chunks arrive:

- `receiveChunk` reads until what it has does not end in an escape, so
  that every chunk can be unstuffed on its own;
- `receiveFrame` appends unstuffed chunks until the length field says
  that the frame is complete, drops what came after it, and judges it;
- `receive` makes that attempt a bounded number of times, going on
  after a failure of the channel or the frame.

`exchange` sends once and never again, then judges the reply code by a
policy. `probe` is the one request that is no frame: a bare delimiter,
sent anew for every attempt, answered with a banner.

The two receive loops end because each successful read makes the queue
lighter (`Channel.weight_read_lt`).
-/
import FlashLink.Banner
import FlashLink.Event
import FlashLink.Frame
import FlashLink.Channel

namespace FlashLink

open Stuffing (delimiter)

-- ============================================================ policies

/-- How often to try receiving, and which replies to accept. -/
structure Policy where
  /-- Receive attempts after the single send; none counts as one. -/
  attempts : Nat
  /-- The reply that completes the step. -/
  expected : Reply
  /-- Replies accepted in its place. -/
  tolerated : List Reply
  deriving DecidableEq, Repr, Inhabited

namespace Policy

/-- One attempt, one acceptable reply. -/
def expect (expected : Reply) : Policy :=
  { attempts := 1, expected, tolerated := [] }

/-- An acknowledgement, received at the first attempt. -/
def ack : Policy := expect .ack

/-- The same policy with more receive attempts. -/
def within (policy : Policy) (attempts : Nat) : Policy := { policy with attempts }

/-- The same policy, accepting more replies. -/
def tolerating (policy : Policy) (tolerated : List Reply) : Policy := { policy with tolerated }

/-- Whether a reply completes the step. -/
def accepts (policy : Policy) (reply : Reply) : Bool :=
  reply == policy.expected || policy.tolerated.contains reply

end Policy

-- ============================================================ the link

/-- A channel, the checksum in force, and the events heard. -/
structure Link (σ : Type) where
  channel : Channel σ
  mode : ChecksumMode
  /-- Who hears of packets. -/
  audience : Audience
  events : Array Event

/-- Actions on a link. -/
abbrev LinkM (σ : Type) := EStateM Failure (Link σ)

namespace Link

variable {σ : Type}

/-- A link nobody watches. -/
def ofChannel (channel : Channel σ) (mode : ChecksumMode) : Link σ :=
  { channel, mode, audience := .nobody, events := #[] }

/-- The largest chunk a read asks for. -/
def readLimit : Nat := 65536

/-- Tells an audience of an event. -/
def tell (audience : Audience) (event : Event) : LinkM σ Unit := fun link =>
  .ok () { link with events := audience.hear link.events event }

/-- Puts another checksum in force. -/
def setMode (mode : ChecksumMode) : LinkM σ Unit := fun link =>
  .ok () { link with mode }

-- =========================================================== the wires

/-- Writes bytes to the device. -/
def write [Peer σ] (bytes : Bytes) : LinkM σ Unit := fun link =>
  match Channel.write bytes link.channel with
  | .ok _ channel =>
    .ok () { link with
      channel
      events := link.audience.hear link.events (.ofPacket .tx bytes) }
  | .error cause channel => .error (.channel cause) { link with channel }

/-- Reads one chunk from the device. An empty one is no packet. -/
def read : LinkM σ Bytes := fun link =>
  match Channel.read readLimit link.channel with
  | .ok bytes channel =>
    .ok bytes { link with
      channel
      events := if bytes.isEmpty then link.events
        else link.audience.hear link.events (.ofPacket .rx bytes) }
  | .error cause channel => .error (.channel cause) { link with channel }

/-- A successful read takes something off the queue. -/
theorem weight_read_lt {link after : Link σ} {bytes : Bytes} (h : read link = .ok bytes after) :
    after.channel.weight < link.channel.weight := by
  unfold read at h
  split at h
  · rename_i hread
    cases h
    exact Channel.weight_read_lt (by decide) hread
  · cases h

-- ============================================================= sending

/-- The frame of a command in the mode in force. -/
def frame (command : Command) (payload : Bytes) : LinkM σ Frame := fun link =>
  match Frame.ofCommand command payload link.mode with
  | .ok frame => .ok frame link
  | .error cause => .error (.frame cause) link

/-- Stuffs and writes a frame. -/
def send [Peer σ] (frame : Frame) : LinkM σ Unit := write frame.encode

/-- Writes the bare delimiter that boot programs answer with their
banner. -/
def sendProbe [Peer σ] : LinkM σ Unit := write [delimiter]

-- =========================================================== receiving

/-- Reads a chunk, extended until it does not end in an escape. `empty`
is the complaint about a chunk that holds nothing. -/
def receiveChunk (empty : String) (link : Link σ) : EStateM.Result Failure (Link σ) Bytes :=
  match _h : read link with
  | .error cause after => .error cause after
  | .ok bytes after =>
    if bytes.isEmpty then .error (.channel (.readFailed empty)) after
    else if Stuffing.endsMidEscape bytes then
      match receiveChunk "Empty continuation" after with
      | .ok more last => .ok (bytes ++ more) last
      | .error cause last => .error cause last
    else .ok bytes after
  termination_by link.channel.weight
  decreasing_by exact weight_read_lt ‹_›

/-- One chunk, fit to be unstuffed on its own. -/
def receiveOne : LinkM σ Bytes := receiveChunk "Empty response"

/-- A chunk takes something off the queue. -/
theorem weight_receiveChunk_lt {empty : String} {link after : Link σ} {bytes : Bytes}
    (h : receiveChunk empty link = .ok bytes after) :
    after.channel.weight < link.channel.weight := by
  induction empty, link using receiveChunk.induct generalizing bytes after with
  | case1 empty link cause last hread =>
    rw [receiveChunk, hread] at h
    cases h
  | case2 empty link chunk last hread hempty =>
    rw [receiveChunk, hread] at h
    simp only [hempty, if_true] at h
    cases h
  | case3 empty link chunk last hread hempty hescape more final hmore ih =>
    rw [receiveChunk, hread] at h
    simp only [hempty, hescape, hmore, if_true] at h
    cases h
    exact Nat.lt_trans (ih hmore) (weight_read_lt hread)
  | case4 empty link chunk last hread hempty hescape cause final hmore ih =>
    rw [receiveChunk, hread] at h
    simp only [hempty, hescape, hmore, if_true] at h
    cases h
  | case5 empty link chunk last hread hempty hescape =>
    rw [receiveChunk, hread] at h
    simp only [hempty, hescape] at h
    cases h
    exact weight_read_lt hread

/-- Appends unstuffed chunks to `raw` until they hold a whole frame. -/
def collect (raw : Array UInt8) (link : Link σ) : EStateM.Result Failure (Link σ) Frame :=
  match _h : receiveOne link with
  | .error cause after => .error cause after
  | .ok wire after =>
    let raw := raw.appendList (Stuffing.unstuff wire)
    if raw[0]? ≠ some delimiter then .error (.frame .badDelimiter) after
    else
      match Frame.announcedLength (raw.extract 0 5).toList with
      | some length =>
        if length ≤ raw.size then
          match Frame.parse (raw.toList.take length) after.mode with
          | .ok frame => .ok frame after
          | .error cause => .error (.frame cause) after
        else collect raw after
      | none => collect raw after
  termination_by link.channel.weight
  decreasing_by all_goals exact weight_receiveChunk_lt ‹_›

/-- One attempt at receiving a frame. -/
def receiveFrame : LinkM σ Frame := collect #[]

/-- A first attempt and up to `more` further ones. -/
def receiveAgain : Nat → LinkM σ Frame
  | 0 => receiveFrame
  | more + 1 => fun link =>
    match receiveFrame link with
    | .ok frame after => .ok frame after
    | .error cause after =>
      if cause.isRetryable then receiveAgain more after else .error cause after

/-- Up to `attempts` attempts at receiving a frame, at least one. -/
def receive (attempts : Nat) : LinkM σ Frame := receiveAgain (attempts - 1)

-- ========================================================= round trips

/-- Accepts or refuses a reply. -/
def judge (command : Command) (policy : Policy) (reply : Frame) : LinkM σ Frame :=
  if policy.accepts reply.reply then pure reply
  else throw (.protocol (.unexpectedReply command policy.expected reply.reply))

/-- Sends a command once and waits for a reply the policy accepts. -/
def exchange [Peer σ] (command : Command) (payload : Bytes) (policy : Policy) :
    LinkM σ Frame := do
  let request ← frame command payload
  send request
  let reply ← receive policy.attempts
  judge command policy reply

/-- A first probe and up to `more` further ones, each sent anew. -/
def probeAgain [Peer σ] : Nat → LinkM σ String
  | 0 => do
    sendProbe
    let frame ← receiveFrame
    return Banner.text frame.payload
  | more + 1 => fun link =>
    match sendProbe link with
    | .error cause after => .error cause after
    | .ok _ after =>
      match receiveFrame after with
      | .ok frame last => .ok (Banner.text frame.payload) last
      | .error cause last =>
        if cause.isRetryable then probeAgain more last else .error cause last

/-- Up to `attempts` probes, at least one: the banner of the boot
program. -/
def probe [Peer σ] (attempts : Nat) : LinkM σ String := probeAgain (attempts - 1)

end Link

end FlashLink
