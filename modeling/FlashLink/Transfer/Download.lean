/-
Downloads: writing an image to a partition or to memory.

Starting announces where the image goes and how large it is; a device
without the room says so, which is told apart from every other refusal.
Pieces are sent one at a time, each only after the one before it was
acknowledged. Ending completes the image.

A partition's start may take the device some time, so its answer gets
more receive attempts than that of a load into memory.
-/
import FlashLink.Files
import FlashLink.Transfer.Upload

namespace FlashLink

variable {σ : Type}

-- ============================================================= the target

/-- Where a download lands. -/
inductive Target where
  /-- An image in memory. -/
  | memory (address : UInt32)
  /-- A named partition. -/
  | partition (name : String)
  deriving DecidableEq, Repr, Inhabited

namespace Target

/-- A target as it is shown. -/
def display : Target → String
  | memory address => s!"0x{Hex.long address}"
  | partition name => name

/-- The request that announces `size` bytes. -/
def startPayload (size : UInt32) : Target → Except RequestFailure Bytes
  | memory address => .ok (LoadRequest.toBytes { address, size })
  | partition name => (PartitionRequest.make name size).map PartitionRequest.toBytes

/-- What may answer the announcement. -/
def startPolicy : Target → Policy
  | memory _ => .ack
  | partition _ => Policy.ack.within Upload.startAttempts

end Target

-- ============================================================ the pieces

/-- One image being written. -/
structure Download where
  target : Target
  phase : TransferPhase
  deriving DecidableEq, Repr, Inhabited

namespace Download

/-- A write to a target that was not begun. -/
def toTarget (target : Target) : Download := { target, phase := .start }

/-- Tells a device without room apart from other refusals. -/
def refuseSize (target : Target) (size : UInt32) : Failure → Failure
  | .protocol (.unexpectedReply _ _ .downSizeError) =>
    .protocol (.sizeMismatch target.display size.toNat)
  | cause => cause

/-- Announces `size` bytes for a target. -/
def announce [Peer σ] (target : Target) (size : UInt32) : LinkM σ Unit := fun link =>
  match target.startPayload size with
  | .error cause => .error (.param (.request cause)) link
  | .ok payload =>
    match Link.exchange .startData payload target.startPolicy link with
    | .ok _ after => .ok () after
    | .error cause after => .error (refuseSize target size cause) after

/-- A link with the window being written over it and the source being
read. -/
structure Writing (σ : Type) where
  link : Link σ
  window : Window
  source : Content

/-- Sends piece after piece until the window is done. -/
def writePieces [Peer σ] (target : Target) (audience : Audience) (moved : Summary)
    (w : Writing σ) : EStateM.Result Failure (Writing σ) Summary :=
  match _h : w.window.nextChunk? with
  | none => .ok moved w
  | some chunk =>
    match Content.read chunk.toNat w.source with
    | .error cause source => .error (.file cause) { w with source }
    | .ok data source =>
      match Link.exchange .midstData data .ack w.link with
      | .error cause link => .error cause { w with link, source }
      | .ok _ link =>
        let step := w.window.advance chunk
        writePieces target audience (moved.add chunk)
          { link := Upload.tellProgress audience .download target.display step.1 step.2 link
            window := step.2
            source }
  termination_by w.window.remaining.toNat
  decreasing_by exact Window.remaining_advance_lt ‹_›

-- ============================================================= the steps

/-- Announces the image. -/
def start [Peer σ] (size : UInt32) : EStateM Failure (Download × Link σ) Unit :=
  fun (d, link) =>
    match announce d.target size link with
    | .ok _ after => .ok () ({ d with phase := .transferring }, after)
    | .error cause after => .error cause ({ d with phase := .failed cause }, after)

/-- Sends all that is left of a window from a source. -/
def writeAll [Peer σ] (audience : Audience) :
    EStateM Failure (Download × Writing σ) Summary := fun (d, w) =>
  match writePieces d.target audience .none w with
  | .ok moved after => .ok moved (d, after)
  | .error cause after => .error cause ({ d with phase := .failed cause }, after)

/-- Completes the image. -/
def finish [Peer σ] : EStateM Failure (Download × Link σ) Unit := fun (d, link) =>
  let d := { d with phase := .ending }
  match Link.exchange .endData [] .ack link with
  | .ok _ after => .ok () ({ d with phase := .done }, after)
  | .error cause after => .error cause ({ d with phase := .failed cause }, after)

/-- Writes a whole window of a source to a target. -/
def run [Peer σ] (target : Target) (window : Window) (source : Content) (audience : Audience) :
    LinkM σ Summary := fun link =>
  match start window.total (toTarget target, link) with
  | .error cause (_, link) => .error cause link
  | .ok _ (d, link) =>
    match writeAll audience (d, { link, window, source }) with
    | .error cause (_, w) => .error cause w.link
    | .ok moved (d, w) =>
      match finish (d, w.link) with
      | .error cause (_, link) => .error cause link
      | .ok _ (_, link) => .ok moved link

end Download

/-- Writes the first `size` bytes of a source to a target, in pieces of
at most `windowSize`. -/
def download [Peer σ] (target : Target) (size windowSize : UInt32) (source : Content)
    (audience : Audience) : LinkM σ Summary := fun link =>
  match Window.make 0 size windowSize with
  | .error cause => .error (.param cause) link
  | .ok window => Download.run target window source audience link

/-- Writes the image in a file to a target. The window is judged before
the file. -/
def downloadFile [Peer σ] (target : Target) (files : Files) (path : String)
    (windowSize : UInt32) (audience : Audience) : LinkM σ Summary := fun link =>
  match WindowSize.check windowSize with
  | .error cause => .error (.param cause) link
  | .ok window =>
    match files.image path with
    | .error cause => .error (.param cause) link
    | .ok (size, source) => Download.run target (.start 0 size window) source audience link

end FlashLink
