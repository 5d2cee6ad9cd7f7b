/-
Where a dump stops that runs over the end of its device.

A dump judges its window before it does anything, but a range of blocks
only when it comes to read it. By then the partition is open, and every
batch in front of the end of the device was asked for and copied. Which
batch is blamed is known beforehand: the first that is not all inside,
behind as many whole ones as fit (`Dump.inside`).

For this the layers below say what they write, however they end, and
what they read when they succeed: a piece is asked for at most once and
comes whole, a window is asked for piece by piece, a range of blocks is
a window. The loop over the batches is an induction on what is left to
copy; it carries that the blocks copied so far are inside the device, so
that no block number wraps.
-/
import FlashLink.Proofs.Blameless
import FlashLink.Transfer.Dump

namespace FlashLink

open Link (Wrote request)

variable {σ : Type} [Peer σ] {link after : Link σ}

namespace Upload

/-- How pieces are asked for. -/
def asks (mode : ChecksumMode) (requests : List ReadRequest) : List Bytes :=
  requests.map fun r => request .readFlashMidst r.toBytes mode

@[simp] theorem asks_append (mode : ChecksumMode) (requests more : List ReadRequest) :
    asks mode (requests ++ more) = asks mode requests ++ asks mode more :=
  List.map_append

/-- A piece is asked for at most once. -/
theorem readPiece_follows (chunk offset : UInt32) (link : Link σ) :
    Follows (Wrote link) (asks link.mode [{ size := chunk, offset }])
      (readPiece chunk offset link) := by
  have hfollows := Link.exchange_follows .readFlashMidst
    (ReadRequest.toBytes { size := chunk, offset }) piecePolicy link
  cases hexchange : Link.exchange .readFlashMidst
      (ReadRequest.toBytes { size := chunk, offset }) piecePolicy link with
  | error cause after =>
      rw [readPiece_of_error hexchange]
      exact hfollows.of_error hexchange
  | ok f after =>
      have hafter := hfollows.of_ok hexchange
      rw [readPiece_of_ok hexchange]
      split
      · exact hafter
      · exact ⟨_, List.prefix_rfl, hafter⟩

/-- A window is asked for piece by piece, as far as pieces come, whatever
becomes of the bytes. -/
theorem readPieces_ahead (partition : String) (audience : Audience) (moved : Summary)
    (r : Reading σ) :
    Follows (fun buffers last => Wrote r.link buffers last.link)
      (asks r.link.mode r.window.ahead) (readPieces partition audience moved r) := by
  cases hnext : r.window.nextChunk? with
  | none =>
      rw [readPieces_of_none hnext, Window.ahead_of_isDone (Window.isDone_of_none hnext)]
      exact Wrote.refl r.link
  | some chunk =>
      have hpiece := readPiece_follows chunk r.window.offset r.link
      rw [Window.ahead_of_some hnext, ← List.singleton_append, asks_append]
      cases hrun : readPiece chunk r.window.offset r.link with
      | error cause link =>
          rw [readPieces_of_error hnext hrun]
          rw [hrun] at hpiece
          exact hpiece.cut (β := Summary) _
      | ok data link =>
          have hasked := hpiece.of_ok hrun
          rw [readPieces_of_piece hnext hrun]
          cases Sink.write data r.sink with
          | error cause sink => exact ⟨_, List.prefix_append .., hasked⟩
          | ok done sink =>
              have htold : Wrote r.link (asks r.link.mode _)
                  (r.take partition audience chunk data link).link := hasked.told _ _ _ _ _
              have hlt := Window.remaining_advance_lt hnext
              have hrest := readPieces_ahead partition audience (moved.add chunk)
                { r.take partition audience chunk data link with sink }
              rw [show asks (r.take partition audience chunk data link).link.mode
                  = asks r.link.mode from congrArg asks htold.mode] at hrest
              exact hrest.behind fun h => htold.trans h
  termination_by r.window.remaining.toNat

/-- Inside the address space these are the requests by number. -/
theorem readPieces_follows (partition : String) (audience : Audience) (moved : Summary)
    {r : Reading σ} {offset remaining : Nat} (hat : r.window.At offset remaining) :
    Follows (fun buffers last => Wrote r.link buffers last.link)
      (asks r.link.mode (Window.requests r.window.size.size.toNat offset remaining))
      (readPieces partition audience moved r) := by
  rw [← hat.ahead]
  exact readPieces_ahead partition audience moved r

/-- Opening names the partition, at most once. -/
theorem start_follows (u : Upload) (link : Link σ) :
    Follows (fun buffers s => Wrote link buffers s.2)
      [request .readFlashStart (opening u.partition) link.mode] (start (u, link)) := by
  cases hmake : PartitionRequest.make u.partition readAll with
  | error cause =>
      rw [start_of_make_error hmake]
      exact .stop (.refl link)
  | ok named =>
      obtain ⟨rfl, -, -⟩ := PartitionRequest.eq_of_make hmake
      have hfollows := Link.exchange_follows .readFlashStart (opening u.partition) startPolicy link
      cases hexchange : Link.exchange .readFlashStart (opening u.partition) startPolicy link with
      | error cause after =>
          rw [start_of_error hmake hexchange]
          exact hfollows.of_error hexchange
      | ok f after =>
          rw [start_of_ok hmake hexchange]
          exact hfollows.of_ok hexchange

/-- A piece that was read is whole. -/
theorem length_of_readPiece {chunk offset : UInt32} {data : Bytes}
    (h : readPiece chunk offset link = .ok data after) : data.length = chunk.toNat := by
  cases hexchange : Link.exchange .readFlashMidst
      (ReadRequest.toBytes { size := chunk, offset }) piecePolicy link with
  | error cause last =>
      rw [readPiece_of_error hexchange] at h
      cases h
  | ok f last =>
      rw [readPiece_of_ok hexchange] at h
      split at h
      · rename_i hlen
        cases h
        exact hlen
      · cases h

/-- A window that was read came whole. -/
theorem size_of_readPieces {partition : String} {audience : Audience} {moved total : Summary}
    {r last : Reading σ} {offset remaining : Nat} (hat : r.window.At offset remaining)
    (hroom : r.sink.room = none)
    (h : readPieces partition audience moved r = .ok total last) :
    last.sink.bytes.size = r.sink.bytes.size + remaining := by
  have hsize := r.window.size.pos
  by_cases hzero : remaining = 0
  · subst hzero
    rw [readPieces_of_none hat.done] at h
    cases h
    rfl
  · have hpos : 0 < remaining := Nat.pos_of_ne_zero hzero
    have hnext := hat.nextChunk? hpos
    have hchunk := r.window.toNat_chunk remaining
    have hadvance := hat.advance
    generalize hn : min r.window.size.size.toNat remaining = n at *
    cases hpiece : readPiece (UInt32.ofNat n) r.window.offset r.link with
    | error cause link =>
        rw [readPieces_of_error hnext hpiece] at h
        cases h
    | ok data link =>
        rw [readPieces_of_ok hnext hpiece hroom] at h
        have hlen := length_of_readPiece hpiece
        have hrest := size_of_readPieces
          (r := r.take partition audience (UInt32.ofNat n) data link) hadvance hroom h
        have htaken : (r.take partition audience (UInt32.ofNat n) data link).sink.bytes.size
            = r.sink.bytes.size + n := by
          simp only [Reading.take, ← Array.length_toList, Array.appendList_eq_append,
            Array.toList_appendList, List.length_append, hlen, hchunk]
        omega
  termination_by remaining
  decreasing_by omega

end Upload

/-- It has no limit afterwards either. -/
theorem Sink.write_ok {data : Bytes} {sink full : Sink} (hroom : sink.room = none)
    (h : Sink.write data sink = .ok () full) :
    full.room = none ∧ full.bytes.size = sink.bytes.size + data.length := by
  rw [Sink.write_of_room hroom] at h
  cases h
  refine ⟨hroom, ?_⟩
  rw [← Array.length_toList, Array.appendList_eq_append, Array.toList_appendList,
    List.length_append, Array.length_toList]

namespace BlockDevice

omit [Peer σ] in
/-- A short range that is refused ends behind the device. -/
theorem byteRange_error {first : UInt64} {count : UInt32} {argument : ParamFailure}
    (hpos : 0 < count.toNat) (hcount : count.toNat < blockCount)
    (h : byteRange first count = .error argument) :
    blockCount < first.toNat + count.toNat
      ∧ argument = .blockRange first.toNat count.toNat := by
  refine ⟨?_, eq_blockRange_of_error h⟩
  have hrange := byteRange_error_iff.1 ⟨argument, h⟩
  omega

/-- A range of blocks that was read is inside the device, was asked for
as a window, and came whole. -/
theorem readBlocks_ok {d d' : BlockDevice} {first : UInt64} {count : UInt32} {data : Bytes}
    (hopen : d.isOpen = true) (h : readBlocks first count (d, link) = .ok data (d', after)) :
    d' = d ∧ first.toNat + count.toNat ≤ blockCount ∧ data.length = count.toNat * blockSize
      ∧ Wrote link (Upload.asks link.mode (Window.requests d.window.size.toNat
          (first.toNat * blockSize) (count.toNat * blockSize))) after := by
  cases hrange : byteRange first count with
  | error argument =>
      rw [readBlocks_of_range_error hopen hrange] at h
      cases h
  | ok range =>
      obtain ⟨offset, length⟩ := range
      obtain ⟨hoffset, hlength, hin⟩ := byteRange_eq hrange
      rw [readBlocks_of_range hopen hrange] at h
      split at h
      · rename_i r hread
        cases h
        have hat := Window.At.start offset length d.window hin
        have hsum := Upload.size_of_readPieces hat rfl hread
        have hwrote : Wrote link _ r.link :=
          (Upload.readPieces_follows _ _ _ hat).of_ok hread
        rw [hoffset, hlength] at hin hwrote
        refine ⟨rfl, ?_, ?_, hwrote⟩
        · rw [← Nat.add_mul] at hin
          exact Nat.le_of_mul_le_mul_right hin (by decide)
        · rw [Array.length_toList, hsum, hlength]
          exact Nat.zero_add _
      · cases h

/-- An open device blames nothing but the range, before it reads any of
it. -/
theorem readBlocks_param {d : BlockDevice} {first : UInt64} {count : UInt32}
    {argument : ParamFailure} {last : BlockDevice × Link σ} (hopen : d.isOpen = true)
    (h : readBlocks first count (d, link) = .error (.param argument) last) :
    byteRange first count = .error argument ∧ last = (d, link) := by
  cases hrange : byteRange first count with
  | error cause =>
      rw [readBlocks_of_range_error hopen hrange] at h
      cases h
      exact ⟨rfl, rfl⟩
  | ok range =>
      rw [readBlocks_of_range hopen hrange] at h
      split at h
      · cases h
      · rename_i hread
        cases h
        exact (Upload.readPieces_blameless _ _ _ _).elim hread

theorem finish_blameless (s : BlockDevice × Link σ) : Blameless (finish s) := by
  obtain ⟨d, link⟩ := s
  cases hopen : d.isOpen with
  | false =>
      rw [finish_of_closed hopen]
      trivial
  | true =>
      rw [finish_of_open hopen]
      split
      · trivial
      · rename_i hfinish
        exact (Upload.finish_blameless _).of_error hfinish

end BlockDevice

namespace Dump

open BlockDevice (blockCount blockSize)

/-- Whole batches between a block and the end of the device. -/
def inside (start : Nat) : Nat := (blockCount - start) / batchBlocks

/-- What some whole batches ask for. -/
def requests (size start batches : Nat) : List ReadRequest :=
  (List.range batches).flatMap fun i =>
    Window.requests size ((start + i * batchBlocks) * blockSize) (batchBlocks * blockSize)

theorem requests_succ (size start batches : Nat) :
    requests size start (batches + 1)
      = Window.requests size (start * blockSize) (batchBlocks * blockSize)
        ++ requests size (start + batchBlocks) batches := by
  unfold requests
  rw [List.range_succ_eq_map, List.flatMap_cons, List.flatMap_map]
  rw [Nat.zero_mul, Nat.add_zero]
  have hrest : ∀ i, start + (i + 1) * batchBlocks = start + batchBlocks + i * batchBlocks := by
    intro i
    rw [Nat.succ_mul, Nat.add_comm (i * batchBlocks), Nat.add_assoc]
  simp only [Nat.succ_eq_add_one, hrest]

/-- From the block `first` on, with `left` blocks to copy, `batches` whole
ones were copied and the next one is blamed. -/
structure Overran (first left batches : Nat) (argument : ParamFailure) (c last : Copying σ) :
    Prop where
  short : batches * batchBlocks < left
  inside : 0 < batches → first + batches * batchBlocks ≤ blockCount
  past : blockCount
    < first + batches * batchBlocks + min (left - batches * batchBlocks) batchBlocks
  blamed : argument = .blockRange (first + batches * batchBlocks)
    (min (left - batches * batchBlocks) batchBlocks)
  wrote : Wrote c.link (Upload.asks c.link.mode
    (requests c.device.window.size.toNat first batches)) last.link
  copied : last.sink.bytes.size = c.sink.bytes.size + batches * batchBlocks * blockSize

namespace Overran

variable {first left batches : Nat} {argument : ParamFailure} {c last : Copying σ}

omit [Peer σ] in
/-- How many were copied depends on the first block alone. -/
theorem batches_eq (h : Overran first left batches argument c last) :
    batches = Dump.inside first := by
  have hpast := h.past
  have hpos : 0 < batchBlocks := by decide
  have hsucc : (batches + 1) * batchBlocks = batches * batchBlocks + batchBlocks :=
    Nat.succ_mul ..
  unfold Dump.inside
  apply Eq.symm
  rcases Nat.eq_zero_or_pos batches with rfl | hsome
  · exact Nat.div_eq_of_lt (by omega)
  · have hinside := h.inside hsome
    exact Nat.div_eq_of_lt_le (by omega) (by omega)

omit [Peer σ] in
/-- One more batch in front. -/
theorem cons {next : Copying σ}
    (h : Overran (first + batchBlocks) (left - batchBlocks) batches argument next last)
    (hin : first + batchBlocks ≤ blockCount)
    (hdevice : next.device = c.device)
    (hwrote : Wrote c.link (Upload.asks c.link.mode (Window.requests c.device.window.size.toNat
      (first * blockSize) (batchBlocks * blockSize))) next.link)
    (hcopied : next.sink.bytes.size = c.sink.bytes.size + batchBlocks * blockSize) :
    Overran first left (batches + 1) argument c last := by
  have hsucc : (batches + 1) * batchBlocks = batches * batchBlocks + batchBlocks :=
    Nat.succ_mul ..
  have hshort := h.short
  have hfirst : first + (batches + 1) * batchBlocks = first + batchBlocks + batches * batchBlocks :=
    by omega
  have hrest : left - (batches + 1) * batchBlocks = left - batchBlocks - batches * batchBlocks := by
    omega
  constructor
  · omega
  · intro _
    rcases Nat.eq_zero_or_pos batches with rfl | hpos
    · rwa [Nat.zero_add, Nat.one_mul]
    · rw [hfirst]
      exact h.inside hpos
  · rw [hfirst, hrest]
    exact h.past
  · rw [hfirst, hrest]
    exact h.blamed
  · have hmore := h.wrote
    rw [hwrote.mode, hdevice] at hmore
    rw [requests_succ, Upload.asks_append]
    exact hwrote.trans hmore
  · rw [h.copied, hcopied, hsucc, Nat.add_mul, Nat.add_comm (batches * batchBlocks * blockSize),
      Nat.add_assoc]

end Overran

/-- The number of a block inside the device does not wrap. -/
theorem toNat_add_ofNat {start : UInt64} {done : Nat}
    (h : done = 0 ∨ start.toNat + done ≤ blockCount) :
    (start + UInt64.ofNat done).toNat = start.toNat + done := by
  rcases h with rfl | hin
  · simp
  · have hspace : blockCount < UInt64.size := by decide
    have hsum : start.toNat + done < UInt64.size := Nat.lt_of_le_of_lt hin hspace
    have hdone : (UInt64.ofNat done).toNat = done :=
      UInt64.toNat_ofNat_of_lt' (Nat.lt_of_le_of_lt (Nat.le_add_left ..) hsum)
    rw [UInt64.toNat_add, hdone]
    exact Nat.mod_eq_of_lt hsum

/-- A dump that blames its range copied what is inside the device. -/
theorem copyBatches_param {audience : Audience} {start : UInt64} {total done : Nat}
    {c last : Copying σ} {argument : ParamFailure} (hopen : c.device.isOpen = true)
    (hroom : c.sink.room = none) (hin : done = 0 ∨ start.toNat + done ≤ blockCount)
    (h : copyBatches audience start total done c = .error (.param argument) last) :
    ∃ batches, Overran (start.toNat + done) (total - done) batches argument c last := by
  have hbatch : min (total - done) batchBlocks < UInt32.size :=
    Nat.lt_of_le_of_lt (Nat.min_le_right ..) (by decide)
  have hcount : (UInt32.ofNat (min (total - done) batchBlocks)).toNat
      = min (total - done) batchBlocks := UInt32.toNat_ofNat_of_lt' hbatch
  have hfirst := toNat_add_ofNat hin
  have hsmall : batchBlocks < blockCount := by decide
  have hpos : 0 < batchBlocks := by decide
  rw [copyBatches] at h
  split at h
  · cases h
  · rename_i hleft
    dsimp only at h
    split at h
    · -- this batch
      rename_i hread
      cases h
      obtain ⟨hrange, hlast⟩ := BlockDevice.readBlocks_param hopen hread
      obtain ⟨hpast, hargument⟩ :=
        BlockDevice.byteRange_error (by omega) (by omega) hrange
      cases hlast
      rw [hfirst, hcount] at hpast hargument
      refine ⟨0, ?_, ?_, ?_, ?_, ?_, ?_⟩
      · omega
      · intro hzero
        omega
      · rwa [Nat.zero_mul, Nat.add_zero, Nat.sub_zero]
      · rwa [Nat.zero_mul, Nat.add_zero, Nat.sub_zero]
      · exact Wrote.refl c.link
      · rw [Nat.zero_mul, Nat.zero_mul, Nat.add_zero]
    · rename_i data device link hread
      obtain ⟨rfl, hinside, hlen, hwrote⟩ := BlockDevice.readBlocks_ok hopen hread
      rw [hfirst, hcount] at hinside hwrote
      rw [hcount] at hlen
      split at h
      · cases h
      · rename_i sink hwrite
        -- the blocks behind this batch; it was a whole one, or there were none
        obtain ⟨hfree, hcopied⟩ := Sink.write_ok hroom hwrite
        obtain ⟨batches, hrest⟩ := copyBatches_param
          (c := ⟨c.device, tellBatch audience c.device.upload.partition
            (done + min (total - done) batchBlocks) total link, sink⟩)
          hopen hfree (.inr (by omega)) h
        have hshort := hrest.short
        have hwhole : min (total - done) batchBlocks = batchBlocks := by omega
        rw [hwhole] at hrest hinside hwrote hlen
        rw [← Nat.add_assoc, Nat.sub_add_eq] at hrest
        refine ⟨batches + 1, hrest.cons hinside rfl (hwrote.events _) ?_⟩
        rw [hcopied, hlen]
  termination_by total - done
  decreasing_by
    have : 0 < Dump.batchBlocks := by decide
    omega

/-- The blocks a dump asks for end behind the device, and these are the
ones blamed. -/
structure PastEnd (start count : Nat) (argument : ParamFailure) : Prop where
  past : blockCount < start + count
  short : inside start * batchBlocks < count
  blamed : argument = .blockRange (start + inside start * batchBlocks)
    (min (count - inside start * batchBlocks) batchBlocks)

omit [Peer σ] in
theorem Overran.pastEnd {start count batches : Nat} {argument : ParamFailure} {c last : Copying σ}
    (h : Overran start count batches argument c last) : PastEnd start count argument := by
  have hshort := h.short
  have hpast := h.past
  have hblamed := h.blamed
  rw [h.batches_eq] at hshort hpast hblamed
  exact ⟨by omega, hshort, hblamed⟩

end Dump

/-- A dump of a known partition can blame its window, before it does
anything, or its range, and then it has copied what lies in front of the
end. -/
theorem dump_param {name found : String} (hname : PartitionTable.lookup name = .ok found)
    {start : UInt64} {count windowSize : UInt32} {audience : Audience} {argument : ParamFailure}
    {sink : Sink}
    (h : dump found start count windowSize audience (.unlimited, link)
      = .error (.param argument) (sink, after)) :
    (WindowSize.check windowSize = .error argument ∧ sink = .unlimited ∧ after = link)
      ∨ Dump.PastEnd start.toNat count.toNat argument
        ∧ Wrote link (request .readFlashStart (Upload.opening found) link.mode
            :: Upload.asks link.mode
              (Dump.requests windowSize.toNat start.toNat (Dump.inside start.toNat))) after
        ∧ sink.bytes.size
          = Dump.inside start.toNat * Dump.batchBlocks * BlockDevice.blockSize := by
  unfold dump at h
  dsimp only at h
  cases hcheck : WindowSize.check windowSize with
  | error cause =>
      rw [hcheck] at h
      cases h
      exact .inl ⟨rfl, rfl, rfl⟩
  | ok window =>
      apply Or.inr
      rw [hcheck] at h
      dsimp only at h
      rw [BlockDevice.start_of_closed rfl,
        show (BlockDevice.ofPartition found window).upload = .ofPartition found from rfl] at h
      cases hstart : Upload.start (.ofPartition found, link) with
      | error cause s =>
          rw [hstart] at h
          cases h
          exact (Upload.start_blameless hname link).elim hstart
      | ok reply s =>
          obtain ⟨u, opened⟩ := s
          rw [hstart] at h
          dsimp only at h
          have hopened : Wrote link _ opened := (Upload.start_follows _ link).of_ok hstart
          split at h
          · rename_i c hcopy
            cases h
            obtain ⟨batches, hover⟩ := Dump.copyBatches_param rfl rfl (.inl rfl) hcopy
            have hwrote := hover.wrote
            have hcopied := hover.copied
            rw [hover.batches_eq, Nat.add_zero] at hwrote hcopied
            rw [hopened.mode] at hwrote
            refine ⟨hover.pastEnd, ?_, ?_⟩
            · rw [← WindowSize.size_of_check hcheck]
              exact hopened.trans hwrote
            · exact hcopied.trans (Nat.zero_add _)
          · split at h
            · rename_i hfinish
              cases h
              exact (BlockDevice.finish_blameless _).elim hfinish
            · cases h

/-- A dump whose first batch is not inside the device has opened the
partition when it says so. -/
theorem dump_of_range_error {name : String} {start : UInt64} {count windowSize : UInt32}
    {audience : Audience} {sink : Sink} {opened : Link σ} {reply : Reply} {u : Upload}
    {window : WindowSize} {argument : ParamFailure}
    (hcheck : WindowSize.check windowSize = .ok window)
    (hstart : Upload.start (.ofPartition name, link) = .ok reply (u, opened))
    (hcount : 0 < count.toNat)
    (hrange : BlockDevice.byteRange start (UInt32.ofNat (min count.toNat Dump.batchBlocks))
      = .error argument) :
    dump name start count windowSize audience (sink, link)
      = .error (.param argument) (sink, opened) := by
  unfold dump
  dsimp only
  rw [hcheck]
  dsimp only
  rw [BlockDevice.start_of_closed rfl,
    show (BlockDevice.ofPartition name window).upload = .ofPartition name from rfl, hstart]
  dsimp only
  rw [Dump.copyBatches, if_neg (Nat.not_le.2 hcount), Nat.sub_zero,
    show start + UInt64.ofNat 0 = start from UInt64.add_zero start]
  dsimp only
  rw [BlockDevice.readBlocks_of_range_error rfl hrange]

end FlashLink
