/-
A session: one channel, the settings every operation uses, the files of
the host, and whoever hears what happens.

There are six operations. Each goes over a link of its own, in the
checksum of the program it speaks to, and each ends with one event:
complete, or failed with the message of the failure. What an operation
may refuse without the device (an unknown partition, a window that fits
no frame, an image that is no file) is refused where it is first used.

An operation that receives into a file makes the file first; the file
then holds whatever arrived, whether the operation failed or not.
-/
import FlashLink.BringUp
import FlashLink.PartitionTable
import FlashLink.Settings
import FlashLink.Transfer.Dump

namespace FlashLink

variable {σ : Type}

-- ========================================================= the operations

/-- What a session can be asked to do. -/
inductive Operation where
  /-- Bring the device from its boot ROM to the second loader. -/
  | ready
  /-- Restart the device into its own firmware. -/
  | reset
  /-- Power the device off. -/
  | shutdown
  /-- Read the first bytes of a partition into a new file. -/
  | read (partition : String) (size : UInt32) (path : String)
  /-- Write a file into a partition. -/
  | write (partition path : String)
  /-- Copy blocks of a partition into a new file. -/
  | dump (partition : String) (start : UInt64) (count : UInt32) (path : String)
  deriving DecidableEq, Repr

/-- What an operation answers. -/
inductive Outcome where
  | done
  | booted (report : BootReport)
  | moved (summary : Summary)
  | dumped (bytes : Nat)
  deriving DecidableEq, Repr, Inhabited

-- ============================================================ the session

/-- A channel in use. -/
structure Session (σ : Type) where
  channel : Channel σ
  settings : Settings
  files : Files
  audience : Audience
  events : Array Event

/-- Actions on a session. -/
abbrev SessionM (σ : Type) := EStateM Failure (Session σ)

namespace Session

/-- A session over a channel. The audience hears which device is there. -/
def begin (channel : Channel σ) (settings : Settings) (files : Files) (audience : Audience) :
    Session σ :=
  { channel, settings, files, audience,
    events := audience.hear #[] (.deviceConnected Channel.vendor Channel.product) }

/-- The link of one operation. -/
def link (s : Session σ) (mode : ChecksumMode) : Link σ :=
  { channel := s.channel, mode, audience := s.audience, events := s.events }

/-- The session once its link is done with. -/
def resume (s : Session σ) (link : Link σ) : Session σ :=
  { s with channel := link.channel, events := link.events }

/-- The session after one more event. -/
def heard (s : Session σ) (event : Event) : Session σ :=
  { s with events := s.audience.hear s.events event }

/-- Tells the audience of an event. -/
def tell (event : Event) : SessionM σ Unit := fun s => .ok () (s.heard event)

/-- A check of arguments. -/
def check {α : Type} : Except ParamFailure α → SessionM σ α
  | .ok value => fun s => .ok value s
  | .error cause => fun s => .error (.param cause) s

/-- An action on a link in some mode. -/
def overLink {α : Type} (mode : ChecksumMode) (act : LinkM σ α) : SessionM σ α := fun s =>
  match act (s.link mode) with
  | .ok value link => .ok value (s.resume link)
  | .error cause link => .error cause (s.resume link)

/-- Makes or empties a file. -/
def createFile (path : String) : SessionM σ (List String) := fun s =>
  match s.files.create path with
  | .ok (names, files) => .ok names { s with files }
  | .error cause => .error (.file cause) s

/-- Receives into a file, which holds what arrived however it ends. -/
def fillFile {α : Type} (names : List String) (act : EStateM Failure (Sink × Link σ) α) :
    SessionM σ α := fun s =>
  match act (.unlimited, s.link .sum) with
  | .ok value (sink, link) =>
    .ok value
      { s.resume link with files := s.files.store names (.ofBytes sink.bytes.toList) }
  | .error cause (sink, link) =>
    .error cause
      { s.resume link with files := s.files.store names (.ofBytes sink.bytes.toList) }

-- ======================================================== what they do

/-- Loads both images and brings the device up. -/
def bringUp [Peer σ] : SessionM σ BootReport := do
  let s ← get
  let first ← check (LoaderImage.ofFile s.files s.settings.firstPath s.settings.firstAddress
    s.settings.firstWindow)
  let second ← check (LoaderImage.ofFile s.files s.settings.secondPath
    s.settings.secondAddress s.settings.secondWindow)
  overLink .crc fun link =>
    match BringUp.run s.audience first second (.start, link) with
    | .ok report (_, link) => .ok report link
    | .error cause (_, link) => .error cause link

/-- Sends a command that ends the second loader's work. -/
def command [Peer σ] (command : Command) : SessionM σ Unit := do
  tell (.phaseChanged .ready .deviceReset)
  let _ ← overLink .sum (Link.exchange command [] .ack)

/-- Reads a partition into a file. -/
def readPartition [Peer σ] (partition : String) (size : UInt32) (path : String) :
    SessionM σ Summary := do
  let s ← get
  let partition ← check (PartitionTable.lookup partition)
  tell (.phaseChanged .ready .upload)
  let names ← createFile path
  fillFile names (upload partition size s.settings.uploadWindow s.audience)

/-- Writes a file into a partition. -/
def writePartition [Peer σ] (partition path : String) : SessionM σ Summary := do
  let s ← get
  let partition ← check (PartitionTable.lookup partition)
  tell (.phaseChanged .ready .download)
  overLink .sum (downloadFile (.partition partition) s.files path s.settings.downloadWindow
    s.audience)

/-- Copies blocks of a partition into a file. -/
def dumpBlocks [Peer σ] (partition : String) (start : UInt64) (count : UInt32)
    (path : String) : SessionM σ Nat := do
  let s ← get
  let partition ← check (PartitionTable.lookup partition)
  tell (.phaseChanged .ready .upload)
  let names ← createFile path
  fillFile names (dump partition start count s.settings.uploadWindow s.audience)

/-- The work of an operation. -/
def attempt [Peer σ] : Operation → SessionM σ Outcome
  | .ready => do return .booted (← bringUp)
  | .reset => do command .normalReset; return .done
  | .shutdown => do command .powerDown; return .done
  | .read partition size path => do return .moved (← readPartition partition size path)
  | .write partition path => do return .moved (← writePartition partition path)
  | .dump partition start count path => do
    return .dumped (← dumpBlocks partition start count path)

/-- An operation, and the event that ends it. -/
def perform [Peer σ] (operation : Operation) : SessionM σ Outcome := fun s =>
  match attempt operation s with
  | .ok outcome after => .ok outcome (after.heard .complete)
  | .error cause after => .error cause (after.heard (.failed cause.message))

end Session

end FlashLink
