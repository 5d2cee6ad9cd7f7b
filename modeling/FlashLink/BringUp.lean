/-
Bring-up: from a device in its boot ROM to a second loader that serves
partitions.

The host greets the boot ROM, loads the first loader and starts it;
greets the first loader, loads the second and starts it. A greeting is
a probe for the banner, whose failure means nothing, and a connection,
which decides. The second loader may need a while before it answers and
may say that its partition table differs from the flash; that is
reported and no failure.

A run carries its course along, so another run may follow on the same
course. When a step fails the course ends aborted, with the message of
the failure, and the device is left where it stopped.
-/
import FlashLink.BringUp.Image
import FlashLink.BringUp.Stage
import FlashLink.Transfer.Download

namespace FlashLink

variable {σ : Type}

/-- What a device said during bring-up. -/
structure BootReport where
  romVersion : Option String
  loaderVersion : Option String
  /-- The second loader reported another partition table. -/
  incompatiblePartition : Bool
  deriving DecidableEq, Repr, Inhabited

/-- Actions on a course of bring-up and the link it goes over. -/
abbrev BringUpM (σ : Type) := EStateM Failure (Course × Link σ)

namespace BringUp

/-- Probes of the boot ROM. -/
def romProbes : Nat := 1

/-- Probes of the first loader. -/
def loaderProbes : Nat := 2

/-- What may answer the start of the second loader, and how long to
wait for it. -/
def startPolicy : Policy := (Policy.ack.within 15).tolerating [.incompatiblePartition]

-- ============================================================= the steps

/-- An action on the link. -/
def onLink {α : Type} (act : LinkM σ α) : BringUpM σ α := fun (course, link) =>
  match act link with
  | .ok value after => .ok value (course, after)
  | .error cause after => .error cause (course, after)

/-- Goes on to another stage. -/
def enter (stage : Stage) : BringUpM σ Unit := fun (course, link) =>
  .ok () (course.enter stage, link)

/-- Puts the checksum of the stage in force. -/
def followMode : BringUpM σ Unit := fun (course, link) =>
  .ok () (course, { link with mode := course.stage.mode })

/-- Asks for a banner. A device that shows none may still connect. -/
def greet [Peer σ] (audience : Audience) (phase : SessionPhase) (probes : Nat) :
    LinkM σ (Option String) := fun link =>
  match Link.probe probes link with
  | .ok version after =>
    .ok (some version)
      { after with
        events := audience.hear after.events (.versionReported phase version) }
  | .error _ after => .ok none after

/-- Connects to the program that runs. -/
def connect [Peer σ] : LinkM σ Unit := do
  let _ ← Link.exchange .connect [] .ack

/-- Sends a loader to its address. -/
def load [Peer σ] (audience : Audience) (image : LoaderImage) : LinkM σ Unit := do
  let _ ← download (.memory image.address) image.size image.window.size (.ofBytes image.data)
    audience

-- =============================================================== the run

/-- From the boot ROM to a running first loader; the version of the
ROM. -/
def bootFirst [Peer σ] (audience : Audience) (first : LoaderImage) :
    BringUpM σ (Option String) := do
  followMode
  onLink (Link.tell audience (.phaseChanged .waitingForDevice .bootRom))
  let version ← onLink (greet audience .bootRom romProbes)
  onLink connect
  enter .connected
  onLink (load audience first)
  enter .firstLoaded
  let _ ← onLink (Link.exchange .execData [] .ack)
  enter .firstRunning
  return version

/-- From the first loader to a running second one; the version of the
first loader and the answer of the second. -/
def bootSecond [Peer σ] (audience : Audience) (second : LoaderImage) :
    BringUpM σ (Option String × Reply) := do
  enter .loaderProbing
  followMode
  onLink (Link.tell audience (.phaseChanged .bootRom .loader))
  let version ← onLink (greet audience .loader loaderProbes)
  onLink connect
  enter .loaderConnected
  onLink (load audience second)
  enter .secondLoaded
  let answer ← onLink (Link.exchange .execData [] startPolicy)
  enter .secondRunning
  enter .ready
  onLink (Link.tell audience (.phaseChanged .loader .ready))
  return (version, answer.reply)

/-- All stages, one after the other. -/
def stages [Peer σ] (audience : Audience) (first second : LoaderImage) :
    BringUpM σ BootReport := do
  let romVersion ← bootFirst audience first
  let (loaderVersion, reply) ← bootSecond audience second
  return { romVersion, loaderVersion,
           incompatiblePartition := reply == .incompatiblePartition }

/-- Brings a device up. A failure aborts the course and is told. -/
def run [Peer σ] (audience : Audience) (first second : LoaderImage) : BringUpM σ BootReport :=
  fun s =>
    match stages audience first second s with
    | .ok report after => .ok report after
    | .error cause (course, link) =>
      .error cause
        (course.abort cause.message,
          { link with events := audience.hear link.events (.failed cause.message) })

end BringUp

end FlashLink
