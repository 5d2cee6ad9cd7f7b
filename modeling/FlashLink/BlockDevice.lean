/-
A partition as a block device: 512-byte blocks, read only.

The partition is opened once, read any number of times at any block,
and closed. A read becomes one window over the bytes of its blocks, so
it is made of as many requests as the window size asks for, and answers
the bytes only when all of them came.

Opening what is open and closing what is closed do nothing. A failing
opening or closing leaves the device as open or closed as it was; the
phase of the transfer underneath tells what happened.
-/
import FlashLink.Transfer.Upload

namespace FlashLink

variable {σ : Type}

/-- A block device over one partition. -/
structure BlockDevice where
  upload : Upload
  /-- Largest piece per request. -/
  window : WindowSize
  isOpen : Bool

/-- Actions on a block device and the link it is read over. -/
abbrev BlockDeviceM (σ : Type) := EStateM Failure (BlockDevice × Link σ)

namespace BlockDevice

-- ========================================================== the geometry

/-- Bytes of a block. -/
def blockSize : Nat := 512

/-- Blocks of a device, whatever the partition: four gigabytes. -/
def blockCount : Nat := 8388608

/-- The piece size of a device that was given none. -/
def defaultWindow : WindowSize := ⟨0x3000, by decide, by decide⟩

/-- A closed block device over a partition. -/
def ofPartition (partition : String) (window : WindowSize) : BlockDevice :=
  { upload := .ofPartition partition, window, isOpen := false }

/-- Device offset and byte length of `count` blocks from `start` on,
where both must fit the fields of a request. -/
def byteRange (start : UInt64) (count : UInt32) : Except ParamFailure (UInt32 × UInt32) :=
  let offset := start.toNat * blockSize
  let length := count.toNat * blockSize
  if blockCount < start.toNat + count.toNat ∨ UInt32.size ≤ offset ∨ UInt32.size ≤ length then
    .error (.blockRange start.toNat count.toNat)
  else .ok (UInt32.ofNat offset, UInt32.ofNat length)

-- ============================================================= the calls

/-- Opens the partition, unless it is open. -/
def start [Peer σ] : BlockDeviceM σ Unit := fun (d, link) =>
  if d.isOpen then .ok () (d, link)
  else
    match Upload.start (d.upload, link) with
    | .ok _ (upload, after) => .ok () ({ d with upload, isOpen := true }, after)
    | .error cause (upload, after) => .error cause ({ d with upload }, after)

/-- The bytes of `count` blocks from `start` on. -/
def readBlocks [Peer σ] (start : UInt64) (count : UInt32) : BlockDeviceM σ Bytes :=
  fun (d, link) =>
    if d.isOpen then
      match byteRange start count with
      | .error cause => .error (.param cause) (d, link)
      | .ok (offset, length) =>
        let window := Window.start offset length d.window
        match Upload.readRange .nobody (d.upload, { link, window, sink := .unlimited }) with
        | .ok _ (upload, r) => .ok r.sink.bytes.toList ({ d with upload }, r.link)
        | .error cause (upload, r) => .error cause ({ d with upload }, r.link)
    else .error (.protocol (.notOpen d.upload.partition)) (d, link)

/-- Refuses to write blocks: no request of the loader does it. -/
def writeBlocks (_start : UInt64) (_data : Bytes) : BlockDeviceM σ Unit := fun s =>
  .error (.protocol (.unsupported "block writes")) s

/-- Closes the partition, unless it is closed. -/
def finish [Peer σ] : BlockDeviceM σ Unit := fun (d, link) =>
  if d.isOpen then
    match Upload.finish (d.upload, link) with
    | .ok _ (upload, after) => .ok () ({ d with upload, isOpen := false }, after)
    | .error cause (upload, after) => .error cause ({ d with upload }, after)
  else .ok () (d, link)

end BlockDevice

end FlashLink
