/-
What a session tells whoever listens.

Events report phases, versions, progress, packets and the end of an
operation. Whether anyone listens is a matter of the caller and never
of the operation: an operation hands every event to its audience, and
an audience of nobody forgets them.
-/
import FlashLink.Word

namespace FlashLink

/-- The phases a session passes through. -/
inductive SessionPhase where
  | waitingForDevice
  | bootRom
  | loader
  | ready
  | upload
  | download
  | deviceReset
  | complete
  | error
  deriving DecidableEq, Repr, Inhabited

/-- A phase as it is shown. -/
def SessionPhase.display : SessionPhase → String
  | waitingForDevice => "Waiting for Device"
  | bootRom => "Boot ROM"
  | loader => "Loader"
  | ready => "Ready"
  | upload => "Upload"
  | download => "Download"
  | deviceReset => "Device Reset"
  | complete => "Complete"
  | error => "Error"

/-- Which way a packet went. -/
inductive Direction where
  /-- Host to device. -/
  | tx
  /-- Device to host. -/
  | rx
  deriving DecidableEq, Repr, Inhabited

/-- A direction as it is shown. -/
def Direction.display : Direction → String
  | tx => "TX"
  | rx => "RX"

/-- One report of a session. -/
inductive Event where
  | deviceConnected (vendor product : UInt16)
  | phaseChanged (before after : SessionPhase)
  | versionReported (phase : SessionPhase) (version : String)
  | progress (phase : SessionPhase) (operation : String) (current total : Nat)
  | failed (message : String)
  | packet (direction : Direction) (length : Nat) (head : Option Bytes)
  | complete
  deriving DecidableEq, Repr, Inhabited

namespace Event

/-- How many bytes of a packet its event shows. -/
def packetHead : Nat := 32

/-- The report of a packet: its length and its first bytes. -/
def ofPacket (direction : Direction) (bytes : Bytes) : Event :=
  .packet direction bytes.length (some (bytes.take packetHead))

end Event

/-- Who hears the events of an operation. -/
inductive Audience where
  /-- Every event is forgotten. -/
  | nobody
  /-- Every event is kept, in order. -/
  | recorder
  deriving DecidableEq, Repr, Inhabited

/-- The events kept after one more. -/
def Audience.hear (audience : Audience) (events : Array Event) (event : Event) : Array Event :=
  match audience with
  | nobody => events
  | recorder => events.push event

end FlashLink
