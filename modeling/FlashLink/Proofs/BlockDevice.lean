/-
Reading blocks when answers are late.

A run is a list of calls on one block device; `trace` pairs each with
what it answered. A read is right when it answers exactly the blocks
that were asked for (`Right`).

Over a quiet link every exchange is answered by the device itself or
fails, so a read that comes back whole is right, and the link is quiet
again unless the channel failed. That is the invariant `Faithful`, and
with it every read of a run is right until a call fails in the channel.
If no more silences are queued than an opening has attempts to spare,
no call does (`Prompt`), and every read of the run is right.
-/
import FlashLink.BlockDevice
import FlashLink.Proofs.Late
import FlashLink.Proofs.Upload

namespace FlashLink

open Link (Quiet Quietly Attuned Served Asked)

namespace Upload

-- ===================================================== a window, quietly

/-- Over a quiet link a piece is read as it is stored, or not at
all. -/
theorem readPiece_quiet {link : Link Device} (hquiet : Quiet link) (chunk offset : UInt32) :
    (∃ cause after, readPiece chunk offset link = .error (.channel cause) after)
      ∨ (∃ cause after, readPiece chunk offset link = .error cause after ∧ Quiet after
        ∧ ∃ requests, after.channel.peer = link.channel.peer.asked requests)
      ∨ ∃ data after, readPiece chunk offset link = .ok data after ∧ Quiet after
        ∧ after.channel.peer = link.channel.peer.asked [{ size := chunk, offset }]
        ∧ data = (link.channel.peer.contents.drop offset.toNat).take chunk.toNat
        ∧ data.length = chunk.toNat := by
  have hx := Link.exchange_quiet hquiet .readFlashMidst
    (ReadRequest.toBytes { size := chunk, offset }) piecePolicy
    (link.channel.peer.respond_readFlashMidst { size := chunk, offset })
  cases hexchange : Link.exchange .readFlashMidst (ReadRequest.toBytes { size := chunk, offset })
      piecePolicy link with
  | error cause after =>
      rw [hexchange] at hx
      rw [readPiece_of_error hexchange]
      cases hx with
      | severed cause => exact .inl ⟨cause, after, rfl⟩
      | refused cause quiet peer =>
          refine .inr (.inl ⟨cause, after, rfl, quiet, ?_⟩)
          rcases peer with peer | peer
          · exact ⟨[], by rw [peer, Device.asked_nil]⟩
          · exact ⟨_, peer⟩
  | ok f after =>
      rw [hexchange] at hx
      rw [readPiece_of_ok hexchange]
      cases hx with
      | answered quiet peer reply payload =>
          by_cases hall : f.payload.length = chunk.toNat
          · rw [if_pos hall]
            refine .inr (.inr ⟨_, after, rfl, quiet, peer, ?_, hall⟩)
            rw [payload]
            exact Device.window_eq _ _
          · rw [if_neg hall]
            exact .inr (.inl ⟨_, after, rfl, quiet, _, peer⟩)

/-- How reading `wanted`, the bytes of a window, ends over a quiet
link. -/
inductive ReadQuietly (r : Reading Device) (wanted : Bytes) (count : Nat) :
    EStateM.Result Failure (Reading Device) Summary → Prop where
  /-- The channel failed. -/
  | severed (cause : ChannelFailure) (after : Reading Device) :
      ReadQuietly r wanted count (.error (.channel cause) after)
  /-- Something else did. -/
  | refused (cause : Failure) {after : Reading Device} (quiet : Quiet after.link)
      (asked : ∃ requests, after.link.channel.peer = r.link.channel.peer.asked requests) :
      ReadQuietly r wanted count (.error cause after)
  /-- All of it was read. -/
  | whole (moved : Summary) {after : Reading Device} (quiet : Quiet after.link)
      (asked : ∃ requests, after.link.channel.peer = r.link.channel.peer.asked requests)
      (gained : after.sink.bytes.toList = r.sink.bytes.toList ++ wanted)
      (length : wanted.length = count) : ReadQuietly r wanted count (.ok moved after)

/-- What was read after a piece was read after it. -/
theorem ReadQuietly.after_piece {r next : Reading Device} {piece rest : Bytes} {count : Nat}
    {result : EStateM.Result Failure (Reading Device) Summary}
    (h : ReadQuietly next rest count result)
    (hasked : ∃ requests, next.link.channel.peer = r.link.channel.peer.asked requests)
    (hsink : next.sink.bytes.toList = r.sink.bytes.toList ++ piece) :
    ReadQuietly r (piece ++ rest) (piece.length + count) result := by
  obtain ⟨first, hfirst⟩ := hasked
  cases h with
  | severed cause after => exact .severed cause after
  | refused cause quiet asked =>
      obtain ⟨requests, hpeer⟩ := asked
      exact .refused cause quiet ⟨first ++ requests, by rw [hpeer, hfirst, Device.asked_append]⟩
  | whole moved quiet asked gained length =>
      obtain ⟨requests, hpeer⟩ := asked
      refine .whole moved quiet ⟨first ++ requests, by rw [hpeer, hfirst, Device.asked_append]⟩
        ?_ ?_
      · rw [gained, hsink, List.append_assoc]
      · rw [List.length_append, length]

/-- Over a quiet link a window is read as it is stored, or not at
all. -/
theorem readPieces_quiet (partition : String) (audience : Audience) (moved : Summary)
    {r : Reading Device} {offset remaining : Nat} (hquiet : Quiet r.link)
    (hroom : r.sink.room = none) (hat : r.window.At offset remaining) {behind : Bytes}
    (hbehind : r.link.channel.peer.contents.drop offset = behind) :
    ReadQuietly r (behind.take remaining) remaining (readPieces partition audience moved r) := by
  by_cases hzero : remaining = 0
  · subst hzero
    rw [readPieces_of_none hat.done]
    exact .whole _ hquiet ⟨[], (Device.asked_nil _).symm⟩ (by simp) (by simp)
  · have hpos : 0 < remaining := by omega
    have hnext := hat.nextChunk? hpos
    have hchunk := r.window.toNat_chunk remaining
    have hadvance := hat.advance
    have hoffset : r.window.offset.toNat = offset := by
      have := hat.inside
      rw [hat.offset_eq]
      exact UInt32.toNat_ofNat_of_lt' (by omega)
    have hn : 0 < min r.window.size.size.toNat remaining
        ∧ min r.window.size.size.toNat remaining ≤ remaining := by
      have := r.window.size.pos
      omega
    generalize min r.window.size.size.toNat remaining = n at *
    rcases readPiece_quiet hquiet (UInt32.ofNat n) r.window.offset with
      ⟨cause, link, hpiece⟩ | ⟨cause, link, hpiece, quiet, asked⟩
        | ⟨data, link, hpiece, quiet, peer, hdata, hlength⟩
    · rw [readPieces_of_error hnext hpiece]
      exact .severed _ _
    · rw [readPieces_of_error hnext hpiece]
      exact .refused _ quiet asked
    · rw [hchunk, hoffset, hbehind] at hdata
      rw [hchunk] at hlength
      have hchannel : (r.take partition audience (UInt32.ofNat n) data link).link.channel
          = link.channel := channel_tellProgress ..
      have hread := readPieces_quiet partition audience (moved.add (UInt32.ofNat n))
        (r := r.take partition audience (UInt32.ofNat n) data link)
        (by unfold Quiet; rw [hchannel]; exact quiet) hroom hadvance
        (by rw [hchannel, peer, Device.contents_asked, ← List.drop_drop, hbehind])
      have hsink : (r.take partition audience (UInt32.ofNat n) data link).sink.bytes.toList
          = r.sink.bytes.toList ++ data := by
        simp [Reading.take]
      have hwanted : data ++ (behind.drop n).take (remaining - n) = behind.take remaining := by
        rw [hdata, ← List.take_add, Nat.add_sub_cancel' hn.2]
      have hwhole := hread.after_piece (r := r) ⟨_, by rw [hchannel, peer]⟩ hsink
      rw [hwanted, hlength, Nat.add_sub_cancel' hn.2] at hwhole
      rw [readPieces_of_ok hnext hpiece hroom]
      exact hwhole
  termination_by remaining
  decreasing_by omega

end Upload

namespace BlockDevice

-- ========================================================= calls and runs

/-- A call on a block device. -/
inductive Call where
  | start
  | read (first : UInt64) (count : UInt32)
  | write (first : UInt64) (data : Bytes)
  | finish
  deriving DecidableEq, Repr

section

variable {σ : Type} [Peer σ]

/-- Makes a call. Only reading answers bytes. -/
def Call.make : Call → BlockDeviceM σ Bytes
  | .start => do BlockDevice.start; return []
  | .read first count => readBlocks first count
  | .write first data => do writeBlocks first data; return []
  | .finish => do BlockDevice.finish; return []

/-- The calls of a run, each with what it answered. -/
def trace (s : BlockDevice × Link σ) : List Call → List (Call × Except Failure Bytes)
  | [] => []
  | call :: rest => (call, outcome (call.make s)) :: trace (endState (call.make s)) rest

end

/-- Whether an answer is a failure of the channel. -/
def Severed {α : Type} : Except Failure α → Prop
  | .error (.channel _) => True
  | _ => False

/-- Whether a read answers the blocks that were asked for, of all that
is stored. -/
def Right (stored : Bytes) : Call × Except Failure Bytes → Prop
  | (.read first count, .ok data) =>
    data.length = count.toNat * blockSize
      ∧ data = (stored.drop (first.toNat * blockSize)).take (count.toNat * blockSize)
  | _ => True

theorem severed_bind_pure {τ α β : Type} (act : EStateM Failure τ α) (value : β) (s : τ) :
    Severed (outcome ((act >>= fun _ => pure value) s)) ↔ Severed (outcome (act s)) := by
  simp only [bind, EStateM.bind]
  cases act s with
  | ok given after => exact Iff.rfl
  | error cause after => cases cause <;> exact Iff.rfl

-- ======================================================== single calls

/-- The range of some blocks lies in the address space. -/
theorem byteRange_eq {first : UInt64} {count offset length : UInt32}
    (h : byteRange first count = .ok (offset, length)) :
    offset.toNat = first.toNat * blockSize ∧ length.toNat = count.toNat * blockSize
      ∧ offset.toNat + length.toNat ≤ UInt32.size := by
  unfold byteRange at h
  dsimp only at h
  split at h
  · cases h
  · rename_i hrange
    cases h
    obtain ⟨hblocks, hoffset, hlength⟩ : ¬ blockCount < first.toNat + count.toNat
        ∧ ¬ UInt32.size ≤ first.toNat * blockSize ∧ ¬ UInt32.size ≤ count.toNat * blockSize := by
      simpa only [not_or] using hrange
    have ho := UInt32.toNat_ofNat_of_lt' (Nat.lt_of_not_le hoffset)
    have hl := UInt32.toNat_ofNat_of_lt' (Nat.lt_of_not_le hlength)
    refine ⟨ho, hl, ?_⟩
    rw [ho, hl, ← Nat.add_mul]
    exact Nat.mul_le_mul_right blockSize (Nat.le_of_not_lt hblocks)

/-- Blocks are refused for their range alone. -/
theorem eq_blockRange_of_error {first : UInt64} {count : UInt32} {argument : ParamFailure}
    (h : byteRange first count = .error argument) :
    argument = .blockRange first.toNat count.toNat := by
  unfold byteRange at h
  dsimp only at h
  split at h
  · cases h
    rfl
  · cases h

/-- Refused are the ranges that end behind the device, and two that do not:
bytes are counted in words that stop one short of it, so the offset of its
end is too much for them, and so is the length of the whole. -/
theorem byteRange_error_iff {first : UInt64} {count : UInt32} :
    (∃ argument, byteRange first count = .error argument)
      ↔ blockCount < first.toNat + count.toNat
        ∨ (first.toNat = blockCount ∧ count.toNat = 0)
        ∨ (first.toNat = 0 ∧ count.toNat = blockCount) := by
  have hspace : UInt32.size = blockCount * blockSize := rfl
  have hoffset : UInt32.size ≤ first.toNat * blockSize ↔ blockCount ≤ first.toNat := by
    rw [hspace]
    exact Nat.mul_le_mul_right_iff (by decide)
  have hlength : UInt32.size ≤ count.toNat * blockSize ↔ blockCount ≤ count.toNat := by
    rw [hspace]
    exact Nat.mul_le_mul_right_iff (by decide)
  unfold byteRange
  dsimp only
  split
  · rename_i hrange
    rw [hoffset, hlength] at hrange
    exact ⟨fun _ => by omega, fun _ => ⟨_, rfl⟩⟩
  · rename_i hrange
    rw [hoffset, hlength] at hrange
    constructor
    · rintro ⟨argument, h⟩
      cases h
    · intro h
      exact absurd (by omega) hrange

section

variable {σ : Type} [Peer σ] {d : BlockDevice} {link : Link σ} {first : UInt64} {count : UInt32}

theorem readBlocks_of_closed (hopen : d.isOpen = false) :
    readBlocks first count (d, link)
      = .error (.protocol (.notOpen d.upload.partition)) (d, link) := by
  unfold readBlocks
  dsimp only
  rw [hopen]
  rfl

theorem readBlocks_of_range_error (hopen : d.isOpen = true) {cause : ParamFailure}
    (hrange : byteRange first count = .error cause) :
    readBlocks first count (d, link) = .error (.param cause) (d, link) := by
  unfold readBlocks
  dsimp only
  rw [if_pos hopen, hrange]

/-- A read of an open device is one of a window. -/
theorem readBlocks_of_range (hopen : d.isOpen = true) {offset length : UInt32}
    (hrange : byteRange first count = .ok (offset, length)) :
    readBlocks first count (d, link)
      = match Upload.readPieces d.upload.partition .nobody .none
          ⟨link, .start offset length d.window, .unlimited⟩ with
        | .ok _ r => .ok r.sink.bytes.toList (d, r.link)
        | .error cause r =>
          .error cause ({ d with upload := { d.upload with phase := .failed cause } }, r.link) := by
  unfold readBlocks Upload.readRange
  dsimp only
  rw [if_pos hopen, hrange]
  dsimp only
  cases Upload.readPieces d.upload.partition .nobody .none
    ⟨link, .start offset length d.window, .unlimited⟩ <;> rfl

theorem start_of_open (hopen : d.isOpen = true) :
    BlockDevice.start (d, link) = .ok () (d, link) := by
  unfold BlockDevice.start
  dsimp only
  rw [if_pos hopen]

theorem start_of_closed (hopen : d.isOpen = false) :
    BlockDevice.start (d, link)
      = match Upload.start (d.upload, link) with
        | .ok _ (upload, after) => .ok () ({ d with upload, isOpen := true }, after)
        | .error cause (upload, after) => .error cause ({ d with upload }, after) := by
  unfold BlockDevice.start
  dsimp only
  rw [hopen]
  rfl

theorem finish_of_open (hopen : d.isOpen = true) :
    finish (d, link)
      = match Upload.finish (d.upload, link) with
        | .ok _ (upload, after) => .ok () ({ d with upload, isOpen := false }, after)
        | .error cause (upload, after) => .error cause ({ d with upload }, after) := by
  unfold finish
  exact if_pos hopen

theorem finish_of_closed (hopen : d.isOpen = false) :
    finish (d, link) = .ok () (d, link) := by
  unfold finish
  dsimp only
  rw [hopen]
  rfl

end

-- ================================================== as long as it is quiet

/-- The link is quiet, and an open device has either the partition open
or nothing. -/
structure Faithful (name : String) (stored : Bytes) (s : BlockDevice × Link Device) : Prop where
  partition : s.1.upload.partition = name
  quiet : Quiet s.2
  stored : s.2.channel.peer.stored (Upload.nameSeen name) = stored
  reading : s.1.isOpen = true → s.2.channel.peer.reading = none
    ∨ s.2.channel.peer.reading = some (Upload.nameSeen name)

namespace Faithful

variable {name : String} {stored : Bytes} {s : BlockDevice × Link Device}

/-- What is stored stays, whether or not the device took a request
that changes none of it. -/
theorem stored_after {link after : Link Device} {d : Device}
    (hpeer : after.channel.peer = link.channel.peer ∨ after.channel.peer = d)
    (hkept : d.partitions = link.channel.peer.partitions)
    (hstored : link.channel.peer.stored (Upload.nameSeen name) = stored) :
    after.channel.peer.stored (Upload.nameSeen name) = stored := by
  rw [← hstored]
  unfold Device.stored
  rcases hpeer with hpeer | hpeer
  · rw [hpeer]
  · rw [hpeer, hkept]

theorem start (h : Faithful name stored s) :
    (∃ cause after, BlockDevice.start s = .error (.channel cause) after)
      ∨ Faithful name stored (endState (BlockDevice.start s)) := by
  obtain ⟨d, link⟩ := s
  obtain ⟨hname, hquiet, hstored, hreading⟩ := h
  dsimp only at hname hquiet hstored hreading
  cases hopen : d.isOpen with
  | true =>
      rw [start_of_open hopen]
      exact .inr ⟨hname, hquiet, hstored, hreading⟩
  | false =>
      rw [start_of_closed hopen]
      have hclosed : ∀ {p : Prop}, d.isOpen = true → p := by
        intro p h
        rw [hopen] at h
        cases h
      cases hmake : PartitionRequest.make d.upload.partition Upload.readAll with
      | error cause =>
          rw [Upload.start_of_make_error hmake]
          exact .inr ⟨hname, hquiet, hstored, hclosed⟩
      | ok request =>
          obtain ⟨rfl, -, hunits⟩ := PartitionRequest.eq_of_make hmake
          have hx := Link.exchange_quiet hquiet .readFlashStart
            (Upload.opening d.upload.partition) Upload.startPolicy
            (link.channel.peer.respond_readFlashStart (Upload.ofBytes_opening hunits))
          cases hexchange : Link.exchange .readFlashStart (Upload.opening d.upload.partition)
              Upload.startPolicy link with
          | error cause after =>
              rw [hexchange] at hx
              rw [Upload.start_of_error hmake hexchange]
              cases hx with
              | severed cause => exact .inl ⟨cause, _, rfl⟩
              | refused cause quiet peer =>
                  have hkept := stored_after peer rfl hstored
                  exact .inr ⟨hname, quiet, hkept, hclosed⟩
          | ok f after =>
              rw [hexchange] at hx
              rw [Upload.start_of_ok hmake hexchange]
              cases hx with
              | answered quiet peer reply payload =>
                  have hkept := stored_after (.inr peer) rfl hstored
                  refine .inr ⟨hname, quiet, hkept, fun _ => .inr ?_⟩
                  show after.channel.peer.reading = _
                  rw [peer, ← hname]
                  rfl

theorem finish (h : Faithful name stored s) :
    (∃ cause after, BlockDevice.finish s = .error (.channel cause) after)
      ∨ Faithful name stored (endState (BlockDevice.finish s)) := by
  obtain ⟨d, link⟩ := s
  obtain ⟨hname, hquiet, hstored, hreading⟩ := h
  dsimp only at hname hquiet hstored hreading
  cases hopen : d.isOpen with
  | false =>
      rw [finish_of_closed hopen]
      exact .inr ⟨hname, hquiet, hstored, hreading⟩
  | true =>
      rw [finish_of_open hopen]
      have hx := Link.exchange_quiet hquiet .readFlashEnd [] .ack
        link.channel.peer.respond_readFlashEnd
      cases hexchange : Link.exchange .readFlashEnd [] .ack link with
      | error cause after =>
          rw [hexchange] at hx
          rw [Upload.finish_of_error hexchange]
          cases hx with
          | severed cause => exact .inl ⟨cause, _, rfl⟩
          | refused cause quiet peer =>
              have hkept := stored_after peer rfl hstored
              refine .inr ⟨hname, quiet, hkept, fun _ => ?_⟩
              show after.channel.peer.reading = _ ∨ after.channel.peer.reading = _
              rcases peer with peer | peer
              · rw [peer]
                exact hreading hopen
              · left
                rw [peer]
                rfl
      | ok f after =>
          rw [hexchange] at hx
          rw [Upload.finish_of_ok hexchange]
          cases hx with
          | answered quiet peer reply payload =>
              have hkept := stored_after (.inr peer) rfl hstored
              exact .inr ⟨hname, quiet, hkept, fun h => by cases h⟩

/-- A read that comes back whole is right. -/
theorem readBlocks (h : Faithful name stored s) (first : UInt64) (count : UInt32) :
    (∃ cause after, BlockDevice.readBlocks first count s = .error (.channel cause) after)
      ∨ Faithful name stored (endState (BlockDevice.readBlocks first count s))
        ∧ Right stored (.read first count, outcome (BlockDevice.readBlocks first count s)) := by
  obtain ⟨d, link⟩ := s
  obtain ⟨hname, hquiet, hstored, hreading⟩ := h
  dsimp only at hname hquiet hstored hreading
  cases hopen : d.isOpen with
  | false =>
      rw [readBlocks_of_closed hopen]
      exact .inr ⟨⟨hname, hquiet, hstored, hreading⟩, trivial⟩
  | true =>
      cases hrange : byteRange first count with
      | error cause =>
          rw [readBlocks_of_range_error hopen hrange]
          exact .inr ⟨⟨hname, hquiet, hstored, hreading⟩, trivial⟩
      | ok range =>
          obtain ⟨offset, length⟩ := range
          obtain ⟨hoffset, hlength, hinside⟩ := byteRange_eq hrange
          rw [readBlocks_of_range hopen hrange]
          have hx := Upload.readPieces_quiet d.upload.partition .nobody .none
            (r := ⟨link, .start offset length d.window, .unlimited⟩) hquiet rfl
            (Window.At.start offset length d.window hinside) rfl
          have hafter : ∀ {after : Link Device}, Quiet after →
              (∃ requests, after.channel.peer = link.channel.peer.asked requests) →
              ∀ upload : Upload, upload.partition = name →
              Faithful name stored ({ d with upload }, after) := by
            rintro after quiet ⟨requests, peer⟩ upload hupload
            have hkept := stored_after (.inr peer) rfl hstored
            refine ⟨hupload, quiet, hkept, fun _ => ?_⟩
            show after.channel.peer.reading = _ ∨ after.channel.peer.reading = _
            rw [peer]
            exact hreading hopen
          cases hread : Upload.readPieces d.upload.partition .nobody .none
              ⟨link, .start offset length d.window, .unlimited⟩ with
          | error cause r =>
              rw [hread] at hx
              cases hx with
              | severed cause => exact .inl ⟨cause, _, rfl⟩
              | refused cause quiet asked =>
                  exact .inr ⟨hafter quiet asked _ hname, trivial⟩
          | ok moved r =>
              rw [hread] at hx
              cases hx with
              | whole moved quiet asked gained all =>
                  refine .inr ⟨hafter quiet asked d.upload hname, ?_⟩
                  show r.sink.bytes.toList.length = _ ∧ r.sink.bytes.toList = _
                  replace gained : r.sink.bytes.toList
                      = (link.channel.peer.contents.drop offset.toNat).take length.toNat := gained
                  rw [gained, all, hoffset, hlength]
                  refine ⟨rfl, ?_⟩
                  rcases hreading hopen with hnone | hsome
                  · -- nothing is open, so nothing was asked for
                    have hempty : link.channel.peer.contents = [] := by
                      unfold Device.contents
                      rw [hnone]
                    rw [hempty, List.drop_nil, List.take_nil, List.length_nil, hlength] at all
                    rw [hempty, ← all, List.take_zero, List.take_zero]
                  · have hcontents : link.channel.peer.contents = stored := by
                      unfold Device.contents
                      rw [hsome]
                      exact hstored
                    rw [hcontents]

/-- Every call keeps the device faithful, unless it fails in the
channel. -/
theorem make (h : Faithful name stored s) (call : Call) :
    Right stored (call, outcome (call.make s))
      ∧ (Severed (outcome (call.make s)) ∨ Faithful name stored (endState (call.make s))) := by
  cases call with
  | start =>
      refine ⟨trivial, ?_⟩
      rcases h.start with ⟨cause, after, hstart⟩ | hafter
      · left
        show Severed (outcome ((BlockDevice.start >>= fun _ => pure []) s))
        rw [severed_bind_pure, hstart]
        trivial
      · right
        show Faithful name stored (endState ((BlockDevice.start >>= fun _ => pure []) s))
        rwa [endState_bind_pure]
  | read first count =>
      rcases h.readBlocks first count with ⟨cause, after, hread⟩ | ⟨hafter, hright⟩
      · have houtcome : outcome (Call.make (.read first count) s) = .error (.channel cause) := by
          show outcome (BlockDevice.readBlocks first count s) = _
          rw [hread, outcome_error]
        rw [houtcome]
        exact ⟨trivial, .inl trivial⟩
      · exact ⟨hright, .inr hafter⟩
  | write first data => exact ⟨trivial, .inr h⟩
  | finish =>
      refine ⟨trivial, ?_⟩
      rcases h.finish with ⟨cause, after, hfinish⟩ | hafter
      · left
        show Severed (outcome ((BlockDevice.finish >>= fun _ => pure []) s))
        rw [severed_bind_pure, hfinish]
        trivial
      · right
        show Faithful name stored (endState ((BlockDevice.finish >>= fun _ => pure []) s))
        rwa [endState_bind_pure]

/-- Every read of a run is right up to a call that fails in the
channel. -/
theorem right_of_trace {before after : List (Call × Except Failure Bytes)}
    {r : Call × Except Failure Bytes} {calls : List Call} (h : Faithful name stored s)
    (htrace : trace s calls = before ++ r :: after) (hbefore : ∀ q ∈ before, ¬ Severed q.2) :
    Right stored r := by
  induction before generalizing s calls with
  | nil =>
      cases calls with
      | nil => cases htrace
      | cons call calls =>
          obtain ⟨rfl, -⟩ := List.cons_eq_cons.1 htrace
          exact (h.make call).1
  | cons q before ih =>
      cases calls with
      | nil => cases htrace
      | cons call calls =>
          obtain ⟨rfl, hrest⟩ := List.cons_eq_cons.1 htrace
          rcases (h.make call).2 with hsevered | hnext
          · exact absurd hsevered (hbefore _ List.mem_cons_self)
          · exact ih hnext hrest fun q hq => hbefore q (List.mem_cons_of_mem _ hq)

end Faithful

-- ============================================ with attempts for all silences

/-- The link is in the mode of the device, and no more is idle in the
queue than an opening has attempts to spare; nothing is while the
device is open. -/
structure Prompt (s : BlockDevice × Link Device) : Prop where
  attuned : Attuned s.2
  quiet : Quiet s.2
  spare : s.2.channel.arrivals.length ≤ Upload.startPolicy.attempts - 1
  empty : s.1.isOpen = true → s.2.channel.arrivals = []

namespace Prompt

variable {s : BlockDevice × Link Device}

theorem of_empty {d : BlockDevice} {link : Link Device} (hlink : Attuned link)
    (hempty : link.channel.arrivals = []) : Prompt (d, link) :=
  ⟨hlink, .of_empty hempty, by rw [hempty]; exact Nat.zero_le _, fun _ => hempty⟩

theorem start (h : Prompt s) :
    ¬ Severed (outcome (BlockDevice.start s))
      ∧ Prompt (endState (BlockDevice.start s)) := by
  obtain ⟨d, link⟩ := s
  have h' := h
  obtain ⟨hlink, hquiet, hspare, hempty⟩ := h'
  dsimp only at hlink hquiet hspare hempty
  cases hopen : d.isOpen with
  | true =>
      rw [start_of_open hopen]
      exact ⟨id, h⟩
  | false =>
      rw [start_of_closed hopen]
      cases hmake : PartitionRequest.make d.upload.partition Upload.readAll with
      | error cause =>
          rw [Upload.start_of_make_error hmake]
          refine ⟨id, hlink, hquiet, hspare, fun h => ?_⟩
          rw [show d.isOpen = true from h] at hopen
          cases hopen
      | ok request =>
          obtain ⟨rfl, hname, hunits⟩ := PartitionRequest.eq_of_make hmake
          obtain ⟨u, after, -, hstart, hserved⟩ :=
            Upload.start_device hlink hquiet hspare hname hunits rfl
          have hafter : Attuned after := hserved.attuned hlink rfl
          rw [hstart]
          split
          · rename_i hrun
            split at hrun
            · cases hrun
              exact ⟨id, of_empty hafter hserved.empty⟩
            · cases hrun
          · rename_i hrun
            split at hrun
            · cases hrun
            · cases hrun
              exact ⟨id, of_empty hafter hserved.empty⟩

theorem finish (h : Prompt s) :
    ¬ Severed (outcome (BlockDevice.finish s))
      ∧ Prompt (endState (BlockDevice.finish s)) := by
  obtain ⟨d, link⟩ := s
  cases hopen : d.isOpen with
  | false =>
      rw [finish_of_closed hopen]
      exact ⟨id, h⟩
  | true =>
      rw [finish_of_open hopen]
      obtain ⟨after, hfinish, hserved⟩ :=
        Upload.finish_device h.attuned (h.empty hopen) d.upload
      rw [hfinish]
      exact ⟨id, of_empty (hserved.attuned h.attuned rfl) hserved.empty⟩

theorem readBlocks (h : Prompt s) (first : UInt64) (count : UInt32) :
    ¬ Severed (outcome (BlockDevice.readBlocks first count s))
      ∧ Prompt (endState (BlockDevice.readBlocks first count s)) := by
  obtain ⟨d, link⟩ := s
  cases hopen : d.isOpen with
  | false =>
      rw [readBlocks_of_closed hopen]
      exact ⟨id, h⟩
  | true =>
      cases hrange : byteRange first count with
      | error cause =>
          rw [readBlocks_of_range_error hopen hrange]
          exact ⟨id, h⟩
      | ok range =>
          obtain ⟨offset, length⟩ := range
          obtain ⟨-, -, hinside⟩ := byteRange_eq hrange
          have hat := Window.At.start offset length d.window hinside
          rw [readBlocks_of_range hopen hrange]
          by_cases hle : length.toNat ≤ (link.channel.peer.contents.drop offset.toNat).length
          · obtain ⟨after, hread, -, hasked⟩ :=
              Upload.readPieces_of_le d.upload.partition .nobody .none
                (r := ⟨link, .start offset length d.window, .unlimited⟩)
                h.attuned (h.empty hopen) rfl hat rfl hle
            rw [hread]
            exact ⟨id,
              of_empty (hasked.attuned h.attuned rfl) hasked.empty⟩
          · obtain ⟨after, hread, -, hasked⟩ :=
              Upload.readPieces_of_lt d.upload.partition .nobody .none
                (r := ⟨link, .start offset length d.window, .unlimited⟩)
                h.attuned (h.empty hopen) rfl hat rfl rfl (Nat.lt_of_not_le hle)
            rw [hread]
            exact ⟨id,
              of_empty (hasked.attuned h.attuned rfl) hasked.empty⟩

/-- No call fails in the channel, and every one keeps the device
prompt. -/
theorem make (h : Prompt s) (call : Call) :
    ¬ Severed (outcome (call.make s)) ∧ Prompt (endState (call.make s)) := by
  cases call with
  | start =>
      show ¬ Severed (outcome ((BlockDevice.start >>= fun _ => pure []) s))
        ∧ Prompt (endState ((BlockDevice.start >>= fun _ => pure []) s))
      rw [severed_bind_pure, endState_bind_pure]
      exact h.start
  | read first count => exact h.readBlocks first count
  | write first data => exact ⟨id, h⟩
  | finish =>
      show ¬ Severed (outcome ((BlockDevice.finish >>= fun _ => pure []) s))
        ∧ Prompt (endState ((BlockDevice.finish >>= fun _ => pure []) s))
      rw [severed_bind_pure, endState_bind_pure]
      exact h.finish

theorem not_severed_of_mem_trace {r : Call × Except Failure Bytes} {calls : List Call}
    (h : Prompt s) (hr : r ∈ trace s calls) : ¬ Severed r.2 := by
  induction calls generalizing s with
  | nil => cases hr
  | cons call calls ih =>
      obtain ⟨hcall, hnext⟩ := h.make call
      rcases List.mem_cons.1 hr with rfl | hr
      · exact hcall
      · exact ih hnext hr

end Prompt

-- =========================================================== whole runs

/-- However many silences are queued, every read is right until a call
fails in the channel. If they are fewer than the attempts of an opening
and the link is in the mode of the device, none does, and every read is
right. -/
theorem trace_right {link : Link Device} {silences : Nat}
    (hqueue : link.channel.arrivals = List.replicate silences .silence) (name : String)
    (window : WindowSize) (calls : List Call) :
    (∀ before r after, trace (.ofPartition name window, link) calls = before ++ r :: after →
        (∀ q ∈ before, ¬ Severed q.2) →
        Right (link.channel.peer.stored (Upload.nameSeen name)) r)
      ∧ (silences < Upload.startAttempts → Attuned link →
        ∀ r ∈ trace (.ofPartition name window, link) calls,
          ¬ Severed r.2 ∧ Right (link.channel.peer.stored (Upload.nameSeen name)) r) := by
  have hquiet : Quiet link := .of_silences hqueue
  have hfaithful : Faithful name (link.channel.peer.stored (Upload.nameSeen name))
      (.ofPartition name window, link) :=
    ⟨rfl, hquiet, rfl, fun h => by cases h⟩
  refine ⟨fun before r after htrace hbefore => hfaithful.right_of_trace htrace hbefore, ?_⟩
  intro hfew hlink r hr
  have hprompt : Prompt (.ofPartition name window, link) := by
    refine ⟨hlink, hquiet, ?_, fun h => by cases h⟩
    show link.channel.arrivals.length ≤ _
    rw [hqueue, List.length_replicate]
    exact Nat.le_of_lt_succ hfew
  refine ⟨hprompt.not_severed_of_mem_trace hr, ?_⟩
  obtain ⟨before, after, htrace⟩ := List.append_of_mem hr
  refine hfaithful.right_of_trace htrace fun q hq => ?_
  have hmem : q ∈ trace (.ofPartition name window, link) calls := by
    rw [htrace]
    exact List.mem_append_left _ hq
  exact hprompt.not_severed_of_mem_trace hmem

/-- A second loader with a block of zeros and a block of ones in one
partition, that keeps its host waiting before it answers. -/
def twoBlocks (silences : Nat) : Link Device :=
  let device := { Device.fresh .second with
    partitions := [("boot", ⟨List.replicate 512 0 ++ List.replicate 512 1⟩)] }
  .ofChannel { Channel.connect device with arrivals := List.replicate silences .silence } .sum

theorem stored_twoBlocks (silences : Nat) :
    (twoBlocks silences).channel.peer.stored (Upload.nameSeen "boot")
      = List.replicate 512 0 ++ List.replicate 512 1 := by
  have hname : Upload.nameSeen "boot" = "boot" := by decide
  rw [hname]
  rfl

/-- Four silences are no more than an opening waits for. -/
theorem trace_right_twoBlocks :
    (twoBlocks 4).channel.arrivals = List.replicate 4 .silence
      ∧ ∀ r ∈ trace (.ofPartition "boot" defaultWindow, twoBlocks 4)
          [.start, .read 0 1, .read 1 1, .finish],
        ¬ Severed r.2
          ∧ Right ((twoBlocks 4).channel.peer.stored (Upload.nameSeen "boot")) r := by
  have hqueue : (twoBlocks 4).channel.arrivals = List.replicate 4 .silence := rfl
  have hlink : Attuned (twoBlocks 4) := ⟨rfl, rfl⟩
  exact ⟨hqueue,
    (trace_right hqueue "boot" defaultWindow [.start, .read 0 1, .read 1 1, .finish]).2
      (by decide) hlink⟩

end BlockDevice

end FlashLink
