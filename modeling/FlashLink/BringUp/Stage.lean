/-
How far a device has been brought up.

Four stages talk to the boot ROM, the rest to a loader, and the stage
alone decides the checksum. Bring-up ends ready or aborted, with the
reason; a new run may still be made after either.

The course keeps every stage left behind, oldest first.
-/
import FlashLink.Checksum

namespace FlashLink

/-- A stage of bring-up. -/
inductive Stage where
  /-- Waiting for the boot ROM. -/
  | probing
  /-- The boot ROM acknowledged the connection. -/
  | connected
  /-- The first loader is in memory. -/
  | firstLoaded
  /-- The first loader was started. -/
  | firstRunning
  /-- Waiting for the first loader. -/
  | loaderProbing
  /-- The first loader acknowledged the connection. -/
  | loaderConnected
  /-- The second loader is in memory. -/
  | secondLoaded
  /-- The second loader was started. -/
  | secondRunning
  /-- The second loader serves partitions. -/
  | ready
  /-- Bring-up failed. -/
  | aborted (reason : String)
  deriving DecidableEq, Repr, Inhabited

namespace Stage

/-- A stage as it is shown. -/
def display : Stage → String
  | probing => "PROBING"
  | connected => "CONNECTED"
  | firstLoaded => "STAGE1_LOADED"
  | firstRunning => "STAGE1_EXEC"
  | loaderProbing => "STAGE2_PROBING"
  | loaderConnected => "STAGE2_CONNECTED"
  | secondLoaded => "STAGE2_LOADED"
  | secondRunning => "STAGE2_EXEC"
  | ready => "READY"
  | aborted reason => s!"ABORTED ({reason})"

/-- The stages of a bring-up that succeeds, in order. -/
def steps : List Stage :=
  [probing, connected, firstLoaded, firstRunning, loaderProbing, loaderConnected,
   secondLoaded, secondRunning, ready]

/-- The checksum the program of a stage expects. -/
def mode : Stage → ChecksumMode
  | probing | connected | firstLoaded | firstRunning => .crc
  | _ => .sum

/-- Whether bring-up succeeded. -/
def isReady : Stage → Bool
  | ready => true
  | _ => false

/-- Whether bring-up failed. -/
def isAborted : Stage → Bool
  | aborted _ => true
  | _ => false

/-- Whether bring-up ended. -/
def isTerminal (stage : Stage) : Bool := stage.isReady || stage.isAborted

end Stage

/-- The stage reached and the stages before it. -/
structure Course where
  stage : Stage
  /-- Stages left behind, oldest first. -/
  history : Array Stage
  deriving DecidableEq, Repr, Inhabited

namespace Course

/-- Where every device begins. -/
def start : Course := { stage := .probing, history := #[] }

/-- Goes on to another stage. -/
def enter (course : Course) (next : Stage) : Course :=
  { stage := next, history := course.history.push course.stage }

/-- Gives up. -/
def abort (course : Course) (reason : String) : Course := course.enter (.aborted reason)

end Course

end FlashLink
