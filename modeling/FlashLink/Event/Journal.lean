/-
The journal: events as log records.

A record has a level, a message and named fields, all text. Every event
has one record; packets are the only ones that are traced rather than
reported, and a failure is the only error.
-/
import FlashLink.Event
import FlashLink.Text.Hex
import FlashLink.Text.Visible

namespace FlashLink

/-- How much a record matters. -/
inductive Level where
  | trace
  | info
  | warn
  | error
  deriving DecidableEq, Repr, Inhabited

/-- A level as it is shown. -/
def Level.display : Level → String
  | trace => "TRACE"
  | info => "INFO"
  | warn => "WARN"
  | error => "ERROR"

/-- One line of a journal. -/
structure Record where
  level : Level
  message : String
  fields : List (String × String)
  deriving DecidableEq, Repr, Inhabited

namespace Record

/-- A record as a journal on a terminal shows it, without its fields. -/
def line (r : Record) : String := s!"{r.level.display} {Visible.text r.message}"

/-- A report with fields. -/
def info (message : String) (fields : List (String × String)) : Record :=
  { level := .info, message, fields }

/-- A warning without fields. -/
def warn (message : String) : Record := { level := .warn, message, fields := [] }

/-- The share of `total` that `current` is, in whole percents; nothing
of nothing is none. -/
def share (current total : Nat) : String :=
  let percent := if total = 0 then 0 else current * 100 / total
  s!"{percent}%"

/-- The first bytes of a packet as a list of numbers, if they were
kept. -/
def headText : Option Bytes → String
  | none => "None"
  | some bytes =>
    "Some([" ++ ", ".intercalate (bytes.map fun b => toString b.toNat) ++ "])"

/-- The record of an event. -/
def ofEvent : Event → Record
  | .deviceConnected vendor product =>
    info "Device connected" [("vid", Hex.word vendor), ("pid", Hex.word product)]
  | .phaseChanged before after =>
    info "Phase changed" [("from", before.display), ("to", after.display)]
  | .versionReported phase version =>
    info "Version" [("phase", phase.display), ("version", version)]
  | .progress phase operation current total =>
    info "Progress"
      [("phase", phase.display), ("operation", operation), ("progress", share current total)]
  | .failed message => { level := .error, message := s!"Error: {message}", fields := [] }
  | .packet direction length head =>
    { level := .trace
      message := "USB Packet"
      fields :=
        [("dir", direction.display), ("len", toString length), ("head", headText head)] }
  | .complete => info "Operation complete" []

end Record

end FlashLink
