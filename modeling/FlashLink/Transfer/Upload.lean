/-
Uploads: reading a partition from the device.

Opening names the partition and asks for all of it; a device that finds
the size too large says so and goes on, so that reply is tolerated.
Each piece is asked for by size and offset and must come back whole.
Closing ends the read.

`readPieces` is the loop: a piece reaches the sink and the window moves
on only after its reply was accepted, so sink and window agree whenever
the loop stops. It ends because every piece taken leaves less.
-/
import FlashLink.Content
import FlashLink.Link
import FlashLink.Request
import FlashLink.Transfer.Phase
import FlashLink.Window

namespace FlashLink

variable {σ : Type}

/-- One partition being read. -/
structure Upload where
  partition : String
  phase : TransferPhase
  deriving DecidableEq, Repr, Inhabited

namespace Upload

/-- A read of a partition that was not begun. -/
def ofPartition (partition : String) : Upload := { partition, phase := .start }

/-- The size that asks for everything. -/
def readAll : UInt32 := 0xFFFFFFFF

/-- Receive attempts for the answer to an opening. -/
def startAttempts : Nat := 5

/-- What may answer an opening. -/
def startPolicy : Policy := (Policy.ack.within startAttempts).tolerating [.downSizeError]

/-- What may answer a request for a piece. -/
def piecePolicy : Policy := .expect .readFlashData

-- ============================================================ the pieces

/-- Opens the partition on the device. -/
def openPartition [Peer σ] (partition : String) : LinkM σ Reply := fun link =>
  match PartitionRequest.make partition readAll with
  | .error cause => .error (.param (.request cause)) link
  | .ok request =>
    match Link.exchange .readFlashStart request.toBytes startPolicy link with
    | .ok frame after => .ok frame.reply after
    | .error cause after => .error cause after

/-- Asks for one piece and insists on all of it. -/
def readPiece [Peer σ] (chunk offset : UInt32) : LinkM σ Bytes := do
  let request := ReadRequest.mk chunk offset
  let frame ← Link.exchange .readFlashMidst request.toBytes piecePolicy
  if frame.payload.length = chunk.toNat then return frame.payload
  else throw (.protocol (.shortData chunk.toNat frame.payload.length))

/-- A link with the window being read over it and the sink being
filled. -/
structure Reading (σ : Type) where
  link : Link σ
  window : Window
  sink : Sink

/-- The report of progress after a piece, if there is one. -/
def tellProgress (audience : Audience) (phase : SessionPhase) (operation : String)
    (report : Option Nat) (window : Window) (link : Link σ) : Link σ :=
  match report with
  | none => link
  | some _ =>
    { link with
      events := audience.hear link.events
        (.progress phase operation window.transferred.toNat window.total.toNat) }

@[simp] theorem channel_tellProgress (audience : Audience) (phase : SessionPhase)
    (operation : String) (report : Option Nat) (window : Window) (link : Link σ) :
    (tellProgress audience phase operation report window link).channel = link.channel := by
  cases report <;> rfl

@[simp] theorem mode_tellProgress (audience : Audience) (phase : SessionPhase)
    (operation : String) (report : Option Nat) (window : Window) (link : Link σ) :
    (tellProgress audience phase operation report window link).mode = link.mode := by
  cases report <;> rfl

/-- Reads piece after piece until the window is done. -/
def readPieces [Peer σ] (partition : String) (audience : Audience) (moved : Summary)
    (r : Reading σ) : EStateM.Result Failure (Reading σ) Summary :=
  match _h : r.window.nextChunk? with
  | none => .ok moved r
  | some chunk =>
    match readPiece chunk r.window.offset r.link with
    | .error cause link => .error cause { r with link }
    | .ok data link =>
      match Sink.write data r.sink with
      | .error cause sink => .error (.file cause) { r with link, sink }
      | .ok _ sink =>
        let step := r.window.advance chunk
        readPieces partition audience (moved.add chunk)
          { link := tellProgress audience .upload partition step.1 step.2 link
            window := step.2
            sink }
  termination_by r.window.remaining.toNat
  decreasing_by exact Window.remaining_advance_lt ‹_›

-- ============================================================= the steps

/-- Opens the partition for reading. -/
def start [Peer σ] : EStateM Failure (Upload × Link σ) Reply := fun (u, link) =>
  match openPartition u.partition link with
  | .ok reply after => .ok reply ({ u with phase := .transferring }, after)
  | .error cause after => .error cause ({ u with phase := .failed cause }, after)

/-- Reads all that is left of a window into a sink, in order. -/
def readRange [Peer σ] (audience : Audience) : EStateM Failure (Upload × Reading σ) Summary :=
  fun (u, r) =>
    match readPieces u.partition audience .none r with
    | .ok moved after => .ok moved (u, after)
    | .error cause after => .error cause ({ u with phase := .failed cause }, after)

/-- Closes the partition. -/
def finish [Peer σ] : EStateM Failure (Upload × Link σ) Unit := fun (u, link) =>
  let u := { u with phase := .ending }
  match Link.exchange .readFlashEnd [] .ack link with
  | .ok _ after => .ok () ({ u with phase := .done }, after)
  | .error cause after => .error cause ({ u with phase := .failed cause }, after)

end Upload

/-- Reads `size` bytes of a partition into a sink, in pieces of at most
`windowSize`. -/
def upload [Peer σ] (partition : String) (size windowSize : UInt32) (audience : Audience) :
    EStateM Failure (Sink × Link σ) Summary := fun (sink, link) =>
  match Window.make 0 size windowSize with
  | .error cause => .error (.param cause) (sink, link)
  | .ok window =>
    match Upload.start (.ofPartition partition, link) with
    | .error cause (_, link) => .error cause (sink, link)
    | .ok _ (u, link) =>
      match Upload.readRange audience (u, { link, window, sink }) with
      | .error cause (_, r) => .error cause (r.sink, r.link)
      | .ok moved (u, r) =>
        match Upload.finish (u, r.link) with
        | .error cause (_, link) => .error cause (r.sink, link)
        | .ok _ (_, link) => .ok moved (r.sink, link)

end FlashLink
