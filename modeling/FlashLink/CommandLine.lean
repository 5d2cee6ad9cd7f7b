/-
The program behind the command line.

A command line is read, then the settings it names are loaded and
overridden, then the arguments of its task are judged; only after that
is a device asked for. Each of these steps has its own way to fail, and
the first that fails ends the program: with code 2 if the words make no
sense, with code 1 otherwise.

`carryOut` runs a command line over a channel. `withoutDevice` is the same
program where no device can be reached: it goes as far as it can and
says so. What the program writes for its user is a list of records.
-/
import FlashLink.CommandLine.Grammar
import FlashLink.Event.Journal
import FlashLink.Session
import FlashLink.Settings.Text
import FlashLink.SizeText

namespace FlashLink.CommandLine

-- ============================================================== failures

/-- Why a command line that makes sense fails. -/
inductive RunFailure where
  /-- The settings could not be loaded. -/
  | settings (path : String) (cause : SettingsFailure)
  /-- An argument of the task cannot be used. -/
  | argument (cause : ParamFailure)
  /-- No device appeared in time. -/
  | noDevice (seconds : Nat)
  /-- The operation failed. -/
  | operation (cause : Failure)
  deriving DecidableEq, Repr, Inhabited

/-- The wording of a failure. -/
def RunFailure.message : RunFailure → String
  | settings path (.file cause) => s!"loading {path}: {cause.message}"
  | settings path _ => s!"loading {path}"
  | argument cause => cause.message
  | noDevice seconds => s!"No Spreadtrum device found after {seconds}s"
  | operation cause => cause.message

/-- Why the program stops early. -/
inductive Stop where
  | refused (cause : Refusal)
  | failed (cause : RunFailure)
  deriving DecidableEq, Repr, Inhabited

/-- The code the program ends with. -/
def Stop.code : Stop → Nat
  | refused cause => if cause.isAnswer then 0 else 2
  | failed _ => 1

-- ======================================================= before the device

/-- The settings that options ask for; `readText` reads a file. -/
def settingsFor (readText : String → Except FileFailure String) (o : Options) :
    Except RunFailure Settings := do
  let base ← match o.config with
    | none => .ok Settings.standard
    | some path => (Settings.ofReading (readText path)).mapError (.settings path)
  return { base with
    firstPath := o.fdl1.getD base.firstPath
    secondPath := o.fdl2.getD base.secondPath
    uploadWindow := o.window.getD base.uploadWindow
    deviceWait := o.wait.getD base.deviceWait }

/-- The operation of a task, unless its arguments rule it out. -/
def Task.operation : Task → Except ParamFailure Operation
  | ready => .ok .ready
  | reset => .ok .reset
  | shutdown => .ok .shutdown
  | read partition size file => do
    let partition ← PartitionTable.lookup partition
    return .read partition (← SizeText.parse size) file
  | write partition file => do return .write (← PartitionTable.lookup partition) file
  | dumpBlocks partition start count file => do
    return .dump (← PartitionTable.lookup partition) start count file

/-- All that is settled before a device is asked for. -/
def prepare (readText : String → Except FileFailure String) (i : Invocation) :
    Except RunFailure (Settings × Operation) := do
  let settings ← settingsFor readText i.options
  let operation ← i.task.operation.mapError .argument
  return (settings, operation)

-- ================================================================ reports

/-- What the program says about an operation that succeeded. -/
def reportOf : Operation → Outcome → List Record
  | .ready, .booted report =>
    (if report.incompatiblePartition then
      [Record.warn "FDL2 reports an incompatible partition table"] else [])
      ++ [Record.info "ready: ok" []]
  | .ready, _ => [Record.info "ready: ok" []]
  | .reset, _ => [Record.info "reset: ok" []]
  | .shutdown, _ => [Record.info "shutdown: ok" []]
  | .read _ _ path, .moved summary =>
    [Record.info "read: ok" [("bytes", toString summary.bytes), ("file", path)]]
  | .write _ _, .moved summary =>
    [Record.info "write: ok" [("bytes", toString summary.bytes)]]
  | .dump _ _ _ path, .dumped bytes =>
    [Record.info "dump-blocks: ok" [("bytes", toString bytes), ("file", path)]]
  | _, _ => []

-- ============================================================ the program

/-- A command line that was carried out, or stopped. -/
structure Run (σ : Type) where
  /-- Why it stopped, if it did. -/
  stop : Option Stop
  /-- What it told the user. -/
  records : List Record
  channel : Channel σ
  files : Files

/-- Carries a command line out over a channel. -/
def carryOut {σ : Type} [Peer σ] (channel : Channel σ) (files : Files) (words : List String) :
    Run σ :=
  match parse words with
  | .error cause => { stop := some (.refused cause), records := [], channel, files }
  | .ok invocation =>
    match prepare files.readText invocation with
    | .error cause => { stop := some (.failed cause), records := [], channel, files }
    | .ok (settings, operation) =>
      match Session.perform operation (Session.begin channel settings files .nobody) with
      | .ok outcome s =>
        { stop := none, records := reportOf operation outcome, channel := s.channel,
          files := s.files }
      | .error cause s =>
        { stop := some (.failed (.operation cause)), records := [], channel := s.channel,
          files := s.files }

/-- How far a command line gets where no device can be reached. -/
def withoutDevice (readText : String → Except FileFailure String) (words : List String) : Stop :=
  match parse words with
  | .error cause => .refused cause
  | .ok invocation =>
    match prepare readText invocation with
    | .error cause => .failed cause
    | .ok (settings, _) => .failed (.noDevice settings.deviceWait.toNat)

/-- The record the program begins with. -/
def greeting : Record := .info "Starting bsl (nusb backend)..." []

/-- The record of a failure. -/
def complaint (cause : RunFailure) : Record :=
  { level := .error, message := s!"Error: {cause.message}", fields := [] }

end FlashLink.CommandLine
