/-
One silence too many.

Reads are right until a call fails in the channel, and none does if an
opening has attempts for all the silences. That is as far as it goes.
With one silence more the first opening gives up on its answer, which
stays in the queue, and from then on every call is given the answer to
the one before (`Behind`): a second opening succeeds on the
acknowledgement of the first, a first read fails on that of the second,
and a second read, of as many blocks, answers what the first one asked
for (`trace_late`). No reply says what it is a reply to, so nothing is
noticed.
-/
import FlashLink.Proofs.BlockDevice

namespace FlashLink

open Link (Attuned)

namespace BlockDevice

-- ===================================================== one answer behind

/-- A link in the mode of the device `d`, with one frame in the queue
that answers a request made before. -/
structure Behind (link : Link Device) (reply : Reply) (payload : Bytes) (d : Device) : Prop where
  attuned : Attuned link
  queued : link.Queued (Frame.sealed reply.code payload link.mode).encode []
  fits : payload.length ≤ Frame.maxPayload
  peer : link.channel.peer = d

namespace Behind

variable {link : Link Device} {reply : Reply} {payload : Bytes} {d d' : Device}

/-- The next exchange is given that frame, and leaves its own answer in
its place. -/
theorem exchange (h : Behind link reply payload d) {command : Command} {sent : Bytes}
    (policy : Policy) (hlen : sent.length ≤ Frame.maxPayload) {a : Device.Answer}
    (hrespond : d.respond command sent = (a, d')) (hstalls : a.stalls = 0)
    (hreply : a.payload.length ≤ Frame.maxPayload)
    (hprogram : d'.program.mode = d.program.mode) :
    ∃ f after, Link.exchange command sent policy link = Link.judge command policy f after
      ∧ f.reply = Reply.ofCode reply.code ∧ f.payload = payload
      ∧ Behind after a.reply a.payload d' := by
  rw [← h.peer] at hrespond
  obtain ⟨after, hexchange, hqueued, hmode, hpeer⟩ :=
    Link.exchange_stale hlen h.attuned.mode h.fits rfl h.queued hrespond hstalls hreply
  refine ⟨_, after, hexchange, rfl, rfl, ⟨hqueued.1, ?_⟩, by rwa [hmode], hreply, hpeer⟩
  rw [hmode, hpeer, hprogram, h.attuned.mode, h.peer]

/-- Only channel and mode count. -/
theorem of_channel (h : Behind link reply payload d) {after : Link Device}
    (hchannel : after.channel = link.channel) (hmode : after.mode = link.mode) :
    Behind after reply payload d := by
  obtain ⟨⟨hconn, hmatch⟩, hqueued, hfits, hpeer⟩ := h
  refine ⟨⟨by rw [hchannel]; exact hconn, by rw [hmode, hchannel]; exact hmatch⟩, ?_, hfits,
    by rw [hchannel]; exact hpeer⟩
  unfold Link.Queued at hqueued ⊢
  rw [hchannel, hmode]
  exact hqueued

end Behind

/-- An opening that finds as many silences as it has attempts gives
up, and leaves its answer in the queue. -/
theorem start_behind {u : Upload} {link : Link Device} (hlink : Attuned link)
    (hqueue : link.channel.arrivals = List.replicate Upload.startAttempts .silence)
    {request : PartitionRequest}
    (hmake : PartitionRequest.make u.partition Upload.readAll = .ok request) :
    ∃ cause after, Upload.start (u, link)
        = .error (.channel cause) ({ u with phase := .failed (.channel cause) }, after)
      ∧ Behind after link.channel.peer.startReply []
          (link.channel.peer.opened (Upload.nameSeen u.partition)) := by
  obtain ⟨rfl, -, hunits⟩ := PartitionRequest.eq_of_make hmake
  have hrespond := link.channel.peer.respond_readFlashStart (Upload.ofBytes_opening hunits)
  have hlen := Upload.length_opening_le u.partition
  have hanswer := Device.answer_request hlen hrespond
  rw [← hlink.mode] at hanswer
  have harr := Link.arrivals_answered hanswer
  rw [hqueue, show (Device.Answer.plain link.channel.peer.startReply).stalls = 0 from rfl,
    List.replicate_zero, List.append_nil] at harr
  obtain ⟨cause, after, hexchange, hafter, hs⟩ :=
    Link.exchange_of_idle hlen hlink.connected
      (fun _ ha => Arrival.idle_of_mem_replicate (a := .silence) trivial ha)
      (show Upload.startPolicy.attempts - 1 < _ by decide) harr
  have hpeer : after.channel.peer
      = link.channel.peer.opened (Upload.nameSeen u.partition) := by
    rw [hs.peer, Link.peer_wrote, show Peer.answer _ _ = _ from hanswer]
  refine ⟨cause, after, Upload.start_of_error hmake hexchange,
    ⟨hs.connected.trans hlink.connected, ?_⟩, ?_, Nat.zero_le _, hpeer⟩
  · rw [hs.mode, hpeer]
    exact hlink.mode
  · rw [hs.mode]
    exact Link.queued_wire (hs.connected.trans hlink.connected) link.channel.peer
      (Nat.zero_le _) hafter

section

variable {d : BlockDevice} {link : Link Device} {reply : Reply} {payload : Bytes} {dev : Device}
  {first : UInt64} {count offset length : UInt32}

/-- A read of one piece, given the frame in the queue. -/
theorem readPiece_behind (h : Behind link reply payload dev)
    (hone : length.toNat ≤ Frame.maxPayload) (offset : UInt32) :
    ∃ f after, Link.exchange .readFlashMidst (ReadRequest.toBytes { size := length, offset })
        Upload.piecePolicy link = Link.judge .readFlashMidst Upload.piecePolicy f after
      ∧ f.reply = Reply.ofCode reply.code ∧ f.payload = payload
      ∧ Behind after .readFlashData ((dev.contents.drop offset.toNat).take length.toNat)
          (dev.asked [{ size := length, offset }]) := by
  have hwindow := dev.window_eq { size := length, offset }
  have hrespond := dev.respond_readFlashMidst { size := length, offset }
  rw [hwindow] at hrespond
  refine h.exchange _ (by rw [ReadRequest.length_toBytes]; decide) hrespond rfl ?_ rfl
  show ((dev.contents.drop offset.toNat).take length.toNat).length ≤ _
  rw [List.length_take]
  omega

/-- The only piece of a window that is no larger than a piece. -/
theorem nextChunk?_one (hpos : 0 < length.toNat) {window : WindowSize}
    (hone : length ≤ window.size) (offset : UInt32) :
    (Window.start offset length window).nextChunk? = some length := by
  show (if length = 0 then none else some (if length ≤ window.size then length else _)) = _
  rw [if_neg (by rintro rfl; exact absurd hpos (by decide)), if_pos hone]

theorem readBlocks_behind_ack (h : Behind link .ack [] dev) (hopen : d.isOpen = true)
    (hrange : byteRange first count = .ok (offset, length)) (hpos : 0 < length.toNat)
    (hone : length ≤ d.window.size) :
    ∃ upload after, readBlocks first count (d, link)
        = .error (.protocol (.unexpectedReply .readFlashMidst .readFlashData .ack))
            ({ d with upload }, after)
      ∧ Behind after .readFlashData ((dev.contents.drop offset.toNat).take length.toNat)
          (dev.asked [{ size := length, offset }]) := by
  obtain ⟨f, after, hexchange, hf, -, hafter⟩ := readPiece_behind h
    (Nat.le_trans (UInt32.le_iff_toNat_le.1 hone) d.window.fits) offset
  replace hf : f.reply = .ack := hf.trans (by decide)
  have hrefused : Upload.piecePolicy.accepts f.reply = false := by
    rw [hf]
    decide
  rw [Link.judge_of_refused hrefused, hf,
    show Upload.piecePolicy.expected = .readFlashData from rfl] at hexchange
  generalize Failure.protocol (.unexpectedReply .readFlashMidst .readFlashData .ack) = cause
    at hexchange ⊢
  refine ⟨{ d.upload with phase := .failed cause }, after, ?_, hafter⟩
  have hnext := nextChunk?_one hpos hone offset
  rw [readBlocks_of_range hopen hrange]
  generalize hw : Window.start offset length d.window = window at hnext ⊢
  have hoffset : window.offset = offset := by
    rw [← hw]
    rfl
  have hpiece := Upload.readPiece_of_error hexchange
  rw [Upload.readPieces_of_error hnext (by rw [hoffset]; exact hpiece)]

theorem readBlocks_behind_data (h : Behind link .readFlashData payload dev)
    (hopen : d.isOpen = true) (hrange : byteRange first count = .ok (offset, length))
    (hpos : 0 < length.toNat) (hone : length ≤ d.window.size)
    (hpayload : payload.length = length.toNat) :
    ∃ after, readBlocks first count (d, link) = .ok payload (d, after)
      ∧ Behind after .readFlashData ((dev.contents.drop offset.toNat).take length.toNat)
          (dev.asked [{ size := length, offset }]) := by
  obtain ⟨f, after, hexchange, hf, hdata, hafter⟩ := readPiece_behind h
    (Nat.le_trans (UInt32.le_iff_toNat_le.1 hone) d.window.fits) offset
  have haccept : Upload.piecePolicy.accepts f.reply = true := by
    rw [hf]
    decide
  rw [Link.judge_of_accepts haccept] at hexchange
  have hpiece := Upload.readPiece_of_ok hexchange
  rw [hdata, if_pos hpayload] at hpiece
  have hnext := nextChunk?_one hpos hone offset
  rw [readBlocks_of_range hopen hrange]
  generalize hw : Window.start offset length d.window = window at hnext ⊢
  have hoffset : window.offset = offset := by
    rw [← hw]
    rfl
  have hleft : (window.advance length).2.nextChunk? = none := by
    have hremaining : window.remaining = length := by
      rw [← hw]
      rfl
    unfold Window.nextChunk?
    rw [window.remaining_advance (by rw [hremaining]; exact UInt32.le_refl _), hremaining,
      UInt32.sub_self, if_pos rfl]
  rw [Upload.readPieces_of_ok hnext (by rw [hoffset]; exact hpiece) rfl,
    Upload.readPieces_of_none hleft]
  have hsink : (Array.appendList Sink.unlimited.bytes payload).toList = payload := by
    simp [Sink.unlimited]
  refine ⟨Upload.tellProgress .nobody .upload d.upload.partition (window.advance length).1
    (window.advance length).2 after, ?_, ?_⟩
  · exact congrArg (fun data => EStateM.Result.ok data (d, _)) hsink
  · exact hafter.of_channel (Upload.channel_tellProgress ..) (Upload.mode_tellProgress ..)

/-- An opening that is given the acknowledgement of the one before. -/
theorem start_behind_ack (h : Behind link .ack [] dev) (hopen : d.isOpen = false)
    {request : PartitionRequest}
    (hmake : PartitionRequest.make d.upload.partition Upload.readAll = .ok request)
    (hack : dev.startReply = .ack) :
    ∃ upload after, BlockDevice.start (d, link) = .ok () ({ d with upload, isOpen := true }, after)
      ∧ Behind after .ack [] (dev.opened (Upload.nameSeen d.upload.partition)) := by
  obtain ⟨rfl, -, hunits⟩ := PartitionRequest.eq_of_make hmake
  have hrespond := dev.respond_readFlashStart (Upload.ofBytes_opening hunits)
  rw [hack] at hrespond
  obtain ⟨f, after, hexchange, hf, -, hafter⟩ :=
    h.exchange Upload.startPolicy (Upload.length_opening_le _) hrespond rfl (Nat.zero_le _)
      rfl
  have haccept : Upload.startPolicy.accepts f.reply = true := by
    rw [hf]
    decide
  rw [Link.judge_of_accepts haccept] at hexchange
  refine ⟨{ d.upload with phase := .transferring }, after, ?_, hafter⟩
  rw [start_of_closed hopen, Upload.start_of_ok hmake hexchange]

/-- What an opening answers, as a call. -/
theorem make_start_of_ok {s after : BlockDevice × Link Device}
    (h : BlockDevice.start s = .ok () after) : Call.make .start s = .ok [] after := by
  show (BlockDevice.start >>= fun _ => pure []) s = _
  simp only [bind, EStateM.bind]
  rw [h]
  rfl

theorem make_start_of_error {s after : BlockDevice × Link Device} {cause : Failure}
    (h : BlockDevice.start s = .error cause after) : Call.make .start s = .error cause after := by
  show (BlockDevice.start >>= fun _ => pure []) s = _
  simp only [bind, EStateM.bind]
  rw [h]

/-- With as many silences as an opening has attempts, a second opening
succeeds on the answer to the first, a first read fails on the answer
to the second, and a second read answers what the first one asked
for. -/
theorem trace_late {name : String} {request : PartitionRequest}
    (hmake : PartitionRequest.make name Upload.readAll = .ok request) (hlink : Attuned link)
    (hqueue : link.channel.arrivals = List.replicate Upload.startAttempts .silence)
    (hack : link.channel.peer.startReply = .ack) {window : WindowSize} {second : UInt64}
    {offset' : UInt32} (hfirst : byteRange first count = .ok (offset, length))
    (hsecond : byteRange second count = .ok (offset', length)) (hpos : 0 < length.toNat)
    (hone : length ≤ window.size) {wanted : Bytes}
    (hwanted : ((link.channel.peer.stored (Upload.nameSeen name)).drop offset.toNat).take
      length.toNat = wanted) (hstored : wanted.length = length.toNat) :
    ∃ cause, trace (.ofPartition name window, link)
        [.start, .start, .read first count, .read second count]
      = [(.start, .error (.channel cause)), (.start, .ok []),
         (.read first count,
          .error (.protocol (.unexpectedReply .readFlashMidst .readFlashData .ack))),
         (.read second count, .ok wanted)] := by
  obtain ⟨cause, late, hstart, hlate⟩ :=
    start_behind (u := .ofPartition name) hlink hqueue hmake
  rw [hack] at hlate
  obtain ⟨given, hgiven, hname⟩ : ∃ given : Upload,
      Upload.start (.ofPartition name, link) = .error (.channel cause) (given, late)
        ∧ given.partition = name := ⟨_, hstart, rfl⟩
  obtain ⟨u, reopened, hagain, hbehind⟩ :=
    start_behind_ack (d := ⟨given, window, false⟩) hlate rfl (by rw [hname]; exact hmake) hack
  obtain ⟨dev, hopened, hcontents⟩ : ∃ dev : Device, Behind reopened .ack [] dev
      ∧ dev.contents = link.channel.peer.stored (Upload.nameSeen name) := by
    refine ⟨_, hbehind, ?_⟩
    show link.channel.peer.stored (Upload.nameSeen given.partition) = _
    rw [hname]
  obtain ⟨v, refused, hread, hrefused⟩ :=
    readBlocks_behind_ack (d := ⟨u, window, true⟩) hopened rfl hfirst hpos hone
  rw [hcontents, hwanted] at hrefused
  obtain ⟨answered, hlast, -⟩ :=
    readBlocks_behind_data (d := ⟨v, window, true⟩) hrefused rfl hsecond hpos hone hstored
  have hmade₁ : Call.make .start (.ofPartition name window, link)
      = .error (.channel cause) (⟨given, window, false⟩, late) := by
    refine make_start_of_error ?_
    show BlockDevice.start (⟨.ofPartition name, window, false⟩, link) = _
    rw [start_of_closed rfl, hgiven]
  have hmade₂ : Call.make .start (⟨given, window, false⟩, late)
      = .ok [] (⟨u, window, true⟩, reopened) := make_start_of_ok hagain
  have hmade₃ : Call.make (.read first count) (⟨u, window, true⟩, reopened)
      = .error (.protocol (.unexpectedReply .readFlashMidst .readFlashData .ack))
        (⟨v, window, true⟩, refused) := hread
  have hmade₄ : Call.make (.read second count) (⟨v, window, true⟩, refused)
      = .ok wanted (⟨v, window, true⟩, answered) := hlast
  refine ⟨cause, ?_⟩
  simp only [trace, hmade₁, hmade₂, hmade₃, hmade₄, endState, outcome]

/-- Behind five silences the block of zeros is read for the block of
ones. -/
theorem not_right_twoBlocks :
    (twoBlocks 5).channel.arrivals = List.replicate 5 .silence
      ∧ (.read 1 1, .ok (List.replicate 512 0))
        ∈ trace (.ofPartition "boot" defaultWindow, twoBlocks 5)
          [.start, .start, .read 0 1, .read 1 1]
      ∧ ¬ Right ((twoBlocks 5).channel.peer.stored (Upload.nameSeen "boot"))
        (.read 1 1, .ok (List.replicate 512 0)) := by
  rw [stored_twoBlocks]
  have hzeros : (List.replicate 512 (0 : UInt8)).length = 512 := List.length_replicate
  have hones : (List.replicate 512 (1 : UInt8)).length = 512 := List.length_replicate
  refine ⟨rfl, ?_, ?_⟩
  · have hwanted : (((twoBlocks 5).channel.peer.stored (Upload.nameSeen "boot")).drop 0).take 512
        = List.replicate 512 0 := by
      rw [stored_twoBlocks, List.drop_zero, List.take_left' hzeros]
    have hmake : PartitionRequest.make "boot" Upload.readAll = .ok ⟨"boot", Upload.readAll⟩ := rfl
    have hlink : Attuned (twoBlocks 5) := ⟨rfl, rfl⟩
    have hfirst : byteRange 0 1 = .ok (0, 512) := rfl
    have hsecond : byteRange 1 1 = .ok (512, 512) := rfl
    have hone : (512 : UInt32) ≤ defaultWindow.size := by decide
    obtain ⟨cause, htrace⟩ :=
      trace_late hmake hlink rfl rfl hfirst hsecond (by decide) hone hwanted hzeros
    rw [htrace]
    exact .tail _ (.tail _ (.tail _ (.head _)))
  · rintro ⟨-, hread⟩
    replace hread : List.replicate 512 (0 : UInt8)
        = ((List.replicate 512 0 ++ List.replicate 512 (1 : UInt8)).drop 512).take 512 := hread
    rw [List.drop_left' hzeros, List.take_of_length_le (Nat.le_of_eq hones)] at hread
    exact absurd (congrArg List.head? hread) (by decide)

end

end BlockDevice

end FlashLink
