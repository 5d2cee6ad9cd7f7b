/-
Frames: the messages of the link.

    7E  reserved  kind  length(2)  payload  checksum(2)  7E

Length and checksum are big-endian. The checksum covers everything
between the opening delimiter and itself: reserved byte, kind, length
and payload. The host writes zero in the reserved byte and ignores it
when it reads.

`build` makes a frame, refusing a payload that the length field cannot
describe; `toBytes` lays it out and `encode` stuffs it for the wire.
`parse` reads the unstuffed bytes back: delimiters and checksum are
judged first, by position from both ends, and the length field last, so
a damaged length shows as a checksum that does not match.

`announcedLength` reads the length field of a prefix; it is what tells
a receiver how many bytes to wait for.
-/
import FlashLink.Checksum
import FlashLink.Stuffing
import FlashLink.Failure

namespace FlashLink

open Stuffing (delimiter)

/-- One message, without delimiters and stuffing. -/
structure Frame where
  /-- A command or reply code. -/
  kind : UInt8
  payload : Bytes
  checksum : UInt16
  deriving DecidableEq, Repr, Inhabited

namespace Frame

/-- Delimiters, reserved byte, kind, length and checksum. -/
def overhead : Nat := 8

/-- The longest payload the length field can describe. -/
def maxPayload : Nat := 65535

-- ============================================================= making

/-- The bytes a checksum covers. -/
def body (kind : UInt8) (payload : Bytes) : Bytes :=
  0x00 :: kind :: (Word.be16 (UInt16.ofNat payload.length) ++ payload)

/-- The frame of a kind and a payload, checksummed in `mode`. -/
def build (kind : UInt8) (payload : Bytes) (mode : ChecksumMode) : Except FrameFailure Frame :=
  if maxPayload < payload.length then .error (.payloadTooLarge payload.length)
  else .ok { kind, payload, checksum := mode.checksum (body kind payload) }

/-- The frame of a command. -/
def ofCommand (command : Command) (payload : Bytes) (mode : ChecksumMode) :
    Except FrameFailure Frame :=
  build command.code payload mode

/-- The unstuffed bytes of a frame, delimiters included. -/
def toBytes (f : Frame) : Bytes :=
  delimiter :: (body f.kind f.payload ++ Word.be16 f.checksum ++ [delimiter])

/-- The wire bytes of a frame. -/
def encode (f : Frame) : Bytes := Stuffing.stuff f.toBytes

/-- The kind of a frame, read as a device's answer. -/
def reply (f : Frame) : Reply := Reply.ofCode f.kind

-- ============================================================ reading

/-- Judges delimiters and checksum of unstuffed bytes, and answers the
checksum they carry. -/
def verify (raw : Bytes) (mode : ChecksumMode) : Except FrameFailure UInt16 :=
  if raw.length < overhead then .error (.truncated raw.length)
  else
    match raw.drop (raw.length - 3) with
    | [hi, lo, last] =>
      if raw.head? ≠ some delimiter ∨ last ≠ delimiter then .error .badDelimiter
      else
        let received := Word.ofBytes16 hi lo
        let computed := mode.checksum ((raw.drop 1).take (raw.length - 4))
        if received ≠ computed then .error (.checksumMismatch received computed)
        else .ok received
    | _ => .error (.truncated raw.length)

/-- Reads a frame from unstuffed bytes. -/
def parse (raw : Bytes) (mode : ChecksumMode) : Except FrameFailure Frame :=
  match verify raw mode with
  | .error cause => .error cause
  | .ok checksum =>
    match raw with
    | _ :: _ :: kind :: hi :: lo :: rest =>
      let declared := (Word.ofBytes16 hi lo).toNat
      let actual := raw.length - overhead
      if declared ≠ actual then .error (.lengthMismatch declared actual)
      else .ok { kind, payload := rest.take actual, checksum }
    | _ => .error (.truncated raw.length)

/-- The whole unstuffed length that a prefix announces, once its length
field is there. -/
def announcedLength : Bytes → Option Nat
  | _ :: _ :: _ :: hi :: lo :: _ => some ((Word.ofBytes16 hi lo).toNat + overhead)
  | _ => none

end Frame

end FlashLink
