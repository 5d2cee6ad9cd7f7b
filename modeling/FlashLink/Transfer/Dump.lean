/-
Dumps: copying blocks of a partition into a sink.

The partition is opened as a block device, read in batches and closed.
A batch reaches the sink only when all of it was read, and progress is
told once for each batch, in blocks.
-/
import FlashLink.BlockDevice

namespace FlashLink

variable {σ : Type}

namespace Dump

/-- Blocks of a batch. -/
def batchBlocks : Nat := 2048

/-- A block device being read into a sink. -/
structure Copying (σ : Type) where
  device : BlockDevice
  link : Link σ
  sink : Sink

/-- The link after the report of a batch. -/
def tellBatch (audience : Audience) (partition : String) (done total : Nat) (link : Link σ) :
    Link σ :=
  { link with events := audience.hear link.events (.progress .upload partition done total) }

/-- Copies batch after batch until `total` blocks are done. -/
def copyBatches [Peer σ] (audience : Audience) (start : UInt64) (total done : Nat)
    (c : Copying σ) : EStateM.Result Failure (Copying σ) Unit :=
  if total ≤ done then .ok () c
  else
    let batch := min (total - done) batchBlocks
    match BlockDevice.readBlocks (start + UInt64.ofNat done) (UInt32.ofNat batch)
        (c.device, c.link) with
    | .error cause (device, link) => .error cause { c with device, link }
    | .ok data (device, link) =>
      match Sink.write data c.sink with
      | .error cause sink => .error (.file cause) { device, link, sink }
      | .ok _ sink =>
        copyBatches audience start total (done + batch)
          { device, sink,
            link := tellBatch audience device.upload.partition (done + batch) total link }
  termination_by total - done
  decreasing_by
    have : 0 < batchBlocks := by decide
    omega

end Dump

/-- Copies `count` blocks of a partition from `start` on into a sink,
and answers how many bytes that is. -/
def dump [Peer σ] (partition : String) (start : UInt64) (count windowSize : UInt32)
    (audience : Audience) : EStateM Failure (Sink × Link σ) Nat := fun (sink, link) =>
  match WindowSize.check windowSize with
  | .error cause => .error (.param cause) (sink, link)
  | .ok window =>
    match BlockDevice.start (.ofPartition partition window, link) with
    | .error cause (_, link) => .error cause (sink, link)
    | .ok _ (device, link) =>
      match Dump.copyBatches audience start count.toNat 0 { device, link, sink } with
      | .error cause c => .error cause (c.sink, c.link)
      | .ok _ c =>
        match BlockDevice.finish (c.device, c.link) with
        | .error cause (_, link) => .error cause (c.sink, link)
        | .ok _ (_, link) => .ok (count.toNat * BlockDevice.blockSize) (c.sink, link)

end FlashLink
