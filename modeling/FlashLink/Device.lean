/-
A simulated device: what boot ROM, first loader and second loader
answer, frame by frame.

The device runs one of three programs and judges frames by that
program's checksum; a frame it cannot read gets no answer, and a bare
delimiter gets its banner. Images go to memory under an address until
the second loader runs, and to partitions under a name from then on.
Starting the boot ROM's image makes the first loader answer, starting
the next makes the second. Every answer is cut into chunks of a set
size.

A device can be told to misbehave: to stay silent when probed, to
answer the start of a read, either start of an image or one piece of a
download with another code, to stall before the second loader answers,
and to have only so much room in a partition.

The device is a `Peer`, so whole sessions run against it; its records
(commands seen, requests to read, what was loaded and written) are what
end-to-end statements compare with.
-/
import FlashLink.Link
import FlashLink.Request

namespace FlashLink

open Stuffing (delimiter)

-- ======================================================== small records

/-- What is kept under keys, each content in pieces, the newest first:
a content grows by a piece at the cost of that piece. -/
abbrev Records (κ : Type) := List (κ × List Bytes)

namespace Records

variable {κ : Type} [DecidableEq κ]

/-- The pieces kept under a key. -/
def pieces? (records : Records κ) (key : κ) : Option (List Bytes) :=
  (records.find? (·.1 = key)).map (·.2)

/-- The records with `pieces` kept under `key`, in place of what was
there. -/
def put (records : Records κ) (key : κ) (pieces : List Bytes) : Records κ :=
  (key, pieces) :: records.filter (·.1 ≠ key)

/-- What is kept under a key. -/
def get? (records : Records κ) (key : κ) : Option Bytes :=
  (pieces? records key).map fun pieces => pieces.reverse.flatten

/-- The records with nothing under a key yet. -/
def clear (records : Records κ) (key : κ) : Records κ := put records key []

/-- The records with bytes appended to what is kept under a key. -/
def extend (records : Records κ) (key : κ) (bytes : Bytes) : Records κ :=
  put records key (bytes :: (pieces? records key).getD [])

/-- What was put under a key is found there. -/
theorem pieces?_put_self (records : Records κ) (key : κ) (pieces : List Bytes) :
    pieces? (put records key pieces) key = some pieces := by
  simp [pieces?, put]

/-- What is kept under other keys stays. -/
theorem get?_put_of_ne (records : Records κ) {key other : κ} (h : other ≠ key)
    (pieces : List Bytes) : get? (put records key pieces) other = get? records other := by
  unfold get? pieces? put
  rw [List.find?_cons_of_neg (by simpa using Ne.symm h), List.find?_filter]
  congr 3
  funext r
  by_cases hr : r.1 = other
  · simp [hr, h]
  · simp [hr]

/-- A key that was cleared holds nothing, and yet something. -/
theorem get?_clear_self (records : Records κ) (key : κ) :
    get? (clear records key) key = some [] := by
  simp [get?, clear, pieces?_put_self]

/-- Appended bytes stand after what was there. -/
theorem get?_extend_self (records : Records κ) (key : κ) (bytes : Bytes) :
    get? (extend records key bytes) key = some ((get? records key).getD [] ++ bytes) := by
  unfold get? extend
  rw [pieces?_put_self]
  cases pieces? records key <;> simp

end Records

-- ========================================================= cutting chunks

/-- `cut` with the chunks cut off so far. -/
def Device.cutOnto (size : Nat) (cut : Array Bytes) (bytes : Bytes) : Array Bytes :=
  if bytes.isEmpty || size = 0 then cut
  else cutOnto size (cut.push (bytes.take size)) (bytes.drop size)
  termination_by bytes.length
  decreasing_by
    rename_i h
    simp only [Bool.or_eq_true, List.isEmpty_iff, decide_eq_true_eq, not_or] at h
    have := List.length_pos_iff.2 h.1
    simp only [List.length_drop]
    omega

/-- Bytes in chunks of `size`, the last one possibly shorter. -/
def Device.cut (size : Nat) (bytes : Bytes) : List Bytes :=
  (Device.cutOnto size #[] bytes).toList

-- ============================================================ the device

/-- Which program answers. -/
inductive Program where
  | rom
  | first
  | second
  deriving DecidableEq, Repr, Inhabited

/-- The checksum a program expects and sends. -/
def Program.mode : Program → ChecksumMode
  | rom => .crc
  | first | second => .sum

/-- What pieces of a download are appended to. -/
inductive Destination where
  | memory (address : UInt32)
  | partition (name : String)
  deriving DecidableEq, Repr

/-- A simulated device. -/
structure Device where
  program : Program
  /-- Largest chunk a single read brings. -/
  chunk : Nat
  chunk_pos : 0 < chunk
  silentProbe : Bool
  /-- Answer to the start of a read. -/
  startReply : Reply
  /-- Answer of the boot ROM to starting its image. -/
  romExecReply : Reply
  /-- Answer to starting the image of the first loader. -/
  loaderExecReply : Reply
  /-- Empty reads before that answer. -/
  stalls : Nat
  /-- The piece, counted from zero, that fails. -/
  failingPiece : Option Nat
  /-- Room in every partition. -/
  capacity : Option UInt32
  /-- Contents that can be read. -/
  partitions : List (String × Array UInt8)
  piecesSeen : Nat
  pending : Option Destination
  reading : Option String
  loaded : Records UInt32
  written : Records String
  readRequests : Array ReadRequest
  /-- Kinds of the frames it could read. -/
  commands : Array UInt8

namespace Device

/-- A device running `program` that behaves well and holds nothing. -/
def fresh (program : Program) : Device where
  program
  chunk := 4096
  chunk_pos := by decide
  silentProbe := false
  startReply := .ack
  romExecReply := .ack
  loaderExecReply := .ack
  stalls := 0
  failingPiece := none
  capacity := none
  partitions := []
  piecesSeen := 0
  pending := none
  reading := none
  loaded := []
  written := []
  readRequests := #[]
  commands := #[]

/-- The banner of a program. -/
def banner : Program → Bytes
  | .rom => Utf8.encode "SPRD3\x00"
  | .first | .second => Utf8.encode "Spreadtrum Boot Block version 1.1\x00"

/-- The wire bytes of a reply; none if the payload fits no frame. -/
def wireOf (reply : Reply) (payload : Bytes) (mode : ChecksumMode) : Bytes :=
  match Frame.build reply.code payload mode with
  | .ok frame => frame.encode
  | .error _ => []

/-- What a device answers to a frame: so many empty reads, then a
reply. -/
structure Answer where
  reply : Reply
  payload : Bytes
  stalls : Nat

/-- An answer that carries nothing. -/
def Answer.plain (reply : Reply) : Answer := { reply, payload := [], stalls := 0 }

/-- The bytes a read request finds in the open partition. -/
def window (d : Device) (request : ReadRequest) : Bytes :=
  match d.reading.bind fun name => d.partitions.find? (·.1 = name) with
  | some (_, bytes) =>
    (bytes.extract request.offset.toNat (request.offset.toNat + request.size.toNat)).toList
  | none => []

/-- Begins a download. -/
def startData (d : Device) (payload : Bytes) : Reply × Device :=
  if d.program = .second then
    match PartitionRequest.ofBytes payload with
    | .error _ => (.invalidCommand, d)
    | .ok request =>
      if d.capacity.any (· < request.size) then (.downSizeError, d)
      else
        (.ack, { d with
          written := Records.clear d.written request.name
          pending := some (.partition request.name) })
  else
    match LoadRequest.ofBytes payload with
    | .error _ => (.invalidCommand, d)
    | .ok request =>
      (.ack, { d with
        loaded := Records.clear d.loaded request.address
        pending := some (.memory request.address) })

/-- Takes a piece of a download. -/
def takePiece (d : Device) (payload : Bytes) : Reply × Device :=
  let index := d.piecesSeen
  let d := { d with piecesSeen := index + 1 }
  if d.failingPiece = some index then (.operationFailed, d)
  else
    match d.pending with
    | some (.memory address) =>
      (.ack, { d with loaded := Records.extend d.loaded address payload })
    | some (.partition name) =>
      (.ack, { d with written := Records.extend d.written name payload })
    | none => (.invalidCommand, d)

/-- Starts the image that was loaded. -/
def exec (d : Device) : Answer × Device :=
  match d.program with
  | .rom =>
    (.plain d.romExecReply,
      if d.romExecReply = .ack then { d with program := .first } else d)
  | .first =>
    ({ reply := d.loaderExecReply, payload := [], stalls := d.stalls },
      { d with program := .second })
  | .second => (.plain .invalidCommand, d)

/-- Serves a frame. -/
def serve (d : Device) (frame : Frame) : Answer × Device :=
  match Command.ofCode? frame.kind with
  | some .connect | some .normalReset | some .powerDown => (.plain .ack, d)
  | some .startData =>
    let (reply, d) := d.startData frame.payload
    (.plain reply, d)
  | some .midstData =>
    let (reply, d) := d.takePiece frame.payload
    (.plain reply, d)
  | some .endData => (.plain .ack, { d with pending := none })
  | some .execData => d.exec
  | some .readFlashStart =>
    match PartitionRequest.ofBytes frame.payload with
    | .error _ => (.plain .invalidCommand, d)
    | .ok request => (.plain d.startReply, { d with reading := some request.name })
  | some .readFlashMidst =>
    match ReadRequest.ofBytes frame.payload with
    | .error _ => (.plain .invalidCommand, d)
    | .ok request =>
      ({ reply := .readFlashData, payload := d.window request, stalls := 0 },
        { d with readRequests := d.readRequests.push request })
  | some .readFlashEnd => (.plain .ack, { d with reading := none })
  | _ => (.plain .invalidCommand, d)

/-- Answers a write: nothing, a banner, or the reply to a frame in the
mode of the program that received it. -/
def answer (d : Device) (wire : Bytes) : List Bytes × Device :=
  let mode := d.program.mode
  if wire = [delimiter] then
    (if d.silentProbe then [] else cut d.chunk (wireOf .version (banner d.program) mode), d)
  else
    match Frame.parse (Stuffing.unstuff wire) mode with
    | .error _ => ([], d)
    | .ok frame =>
      let (answer, d) := { d with commands := d.commands.push frame.kind }.serve frame
      (List.replicate answer.stalls [] ++ cut d.chunk (wireOf answer.reply answer.payload mode), d)

instance : Peer Device := ⟨answer⟩

end Device

end FlashLink
