/-
Why an operation failed.

A failure names its cause in one of five layers: the channel that moves
bytes, the frame read from them, the device's answer, the caller's
arguments, the files of the host. Each layer is an inductive type whose
constructors carry what the message needs, and each has one function
that words it; `Failure` joins them and prefixes the layer.

Channel and frame failures are transient: another attempt at receiving may
succeed, so they are the retryable ones. The other three are verdicts.
-/
import FlashLink.Code.Command
import FlashLink.Code.Reply

namespace FlashLink

-- ============================================================ the channel

/-- The channel could not move bytes. -/
inductive ChannelFailure where
  | deviceNotFound (vendor product : UInt16)
  | openFailed (reason : String)
  | claimFailed (interface : Nat) (reason : String)
  | endpointNotFound (kind direction : String)
  | writeFailed (reason : String)
  | readFailed (reason : String)
  | disconnected
  | timeout (milliseconds : Nat)
  deriving DecidableEq, Repr, Inhabited

/-- The wording of a channel failure. -/
def ChannelFailure.message : ChannelFailure → String
  | deviceNotFound vendor product =>
    s!"No download-mode device: VID={Hex.word vendor} PID={Hex.word product}"
  | openFailed reason => s!"Failed to open device: {reason}"
  | claimFailed interface reason => s!"Failed to claim interface {interface}: {reason}"
  | endpointNotFound kind direction =>
    s!"Endpoint not found: type={kind}, direction={direction}"
  | writeFailed reason => s!"Write failed: {reason}"
  | readFailed reason => s!"Read failed: {reason}"
  | disconnected => "Device disconnected"
  | timeout milliseconds => s!"No data within {milliseconds}ms"

-- =========================================================== the frame

/-- The bytes received are no frame, or the payload makes none. -/
inductive FrameFailure where
  | truncated (length : Nat)
  | badDelimiter
  | checksumMismatch (received computed : UInt16)
  | lengthMismatch (declared actual : Nat)
  | payloadTooLarge (length : Nat)
  deriving DecidableEq, Repr, Inhabited

/-- The wording of a frame failure. -/
def FrameFailure.message : FrameFailure → String
  | truncated length => s!"Frame too short: {length} bytes"
  | badDelimiter => "Missing frame delimiter"
  | checksumMismatch received computed =>
    s!"Checksum mismatch: frame carries 0x{Hex.word received}, computed 0x{Hex.word computed}"
  | lengthMismatch declared actual =>
    s!"Length field says {declared} payload bytes, frame holds {actual}"
  | payloadTooLarge length =>
    s!"Payload of {length} bytes exceeds the 16-bit length field"

-- ============================================================ the reply

/-- The device answered, but not as the step requires. -/
inductive ProtocolFailure where
  | unexpectedReply (command : Command) (expected actual : Reply)
  | sizeMismatch (target : String) (size : Nat)
  | shortData (expected actual : Nat)
  | unsupported (operation : String)
  | notOpen (partition : String)
  deriving DecidableEq, Repr, Inhabited

/-- The wording of a protocol failure. -/
def ProtocolFailure.message : ProtocolFailure → String
  | unexpectedReply command expected actual =>
    s!"{command.display}: expected {expected.display}, device answered {actual.display}"
  | sizeMismatch target size =>
    s!"Partition '{target}' is smaller than the {size}-byte image"
  | shortData expected actual =>
    s!"Device returned {actual} bytes for a {expected}-byte window"
  | unsupported operation => s!"Operation not supported: {operation}"
  | notOpen partition => s!"Partition '{partition}' is not open"

-- ======================================================== the arguments

/-- A request payload that cannot be made or read. -/
inductive RequestFailure where
  | bufferTooSmall (expected actual : Nat)
  | nameTooLong (name : String) (limit : Nat)
  | emptyName
  deriving DecidableEq, Repr, Inhabited

/-- The wording of a request failure. -/
def RequestFailure.message : RequestFailure → String
  | bufferTooSmall expected actual =>
    s!"Buffer too small: expected {expected}, got {actual}"
  | nameTooLong name limit =>
    s!"Partition name '{name}' is longer than {limit} UTF-16 units"
  | emptyName => "Partition name is empty"

/-- An argument of the caller that cannot be used. -/
inductive ParamFailure where
  | unknownPartition (name : String)
  | invalidSize (text : String)
  | invalidWindow (size : Nat)
  | notAFile (path : String)
  | imageTooLarge (path : String)
  | blockRange (start count : Nat)
  | request (cause : RequestFailure)
  deriving DecidableEq, Repr, Inhabited

/-- The wording of an argument failure. -/
def ParamFailure.message : ParamFailure → String
  | unknownPartition name => s!"Unknown partition '{name}'"
  | invalidSize text => s!"Invalid size '{text}' (expected <n>, <n>k or <n>m)"
  | invalidWindow size => s!"Invalid window size {size} (must be 1..=65535)"
  | notAFile path => s!"'{path}' is not a readable regular file"
  | imageTooLarge path => s!"Image '{path}' is larger than 4 GiB"
  | blockRange start count => s!"Blocks {start}+{count} are outside the device"
  | request cause => s!"Invalid request: {cause.message}"

-- ============================================================ the files

/-- A file of the host that cannot be read or written. -/
inductive FileFailure where
  | notFound
  | notADirectory
  | isADirectory
  | notUtf8
  | unexpectedEnd
  | nothingWritten
  | nulInPath
  | nameTooLong
  deriving DecidableEq, Repr, Inhabited

/-- The wording of a file failure. -/
def FileFailure.message : FileFailure → String
  | notFound => "No such file or directory (os error 2)"
  | notADirectory => "Not a directory (os error 20)"
  | isADirectory => "Is a directory (os error 21)"
  | notUtf8 => "stream did not contain valid UTF-8"
  | unexpectedEnd => "failed to fill whole buffer"
  | nothingWritten => "failed to write whole buffer"
  | nulInPath => "file name contained an unexpected NUL byte"
  | nameTooLong => "File name too long (os error 36)"

-- =========================================================== all layers

/-- Why a session operation failed. -/
inductive Failure where
  | channel (cause : ChannelFailure)
  | frame (cause : FrameFailure)
  | protocol (cause : ProtocolFailure)
  | param (cause : ParamFailure)
  | file (cause : FileFailure)
  deriving DecidableEq, Repr, Inhabited

namespace Failure

/-- The wording of a failure, its layer in front. -/
def message : Failure → String
  | channel cause => s!"Transport error: {cause.message}"
  | frame cause => s!"Frame error: {cause.message}"
  | protocol cause => s!"Protocol error: {cause.message}"
  | param cause => s!"Parameter error: {cause.message}"
  | file cause => s!"IO error: {cause.message}"

/-- Whether another receive attempt is worth making. -/
def isRetryable : Failure → Bool
  | channel _ | frame _ => true
  | _ => false

end Failure

end FlashLink
