/-
An upload reads what is stored.

The device answers a request for a piece with the bytes of the open
partition that lie in the piece, and with fewer when the partition ends
in it (`window_eq`). A window of `remaining` bytes at `offset` is
therefore decided by what is stored behind `offset`:

- if that is enough, every piece comes back whole, in order, and the
  sink gains exactly those bytes (`readPieces_of_le`);
- if it is not, the pieces that fit come back whole and the next one
  short, which ends the read; nothing of it reaches the sink
  (`readPieces_of_lt`).

In both cases the requests made are those of the window, the first of
them or all. Both are inductions along the pieces; what is carried is
that nothing is left in the queue between two of them (`Asked`). A
whole upload puts opening and closing around it.
-/
import FlashLink.Proofs.Device
import FlashLink.Proofs.Request
import FlashLink.Proofs.Window
import FlashLink.Transfer.Upload

namespace FlashLink

namespace Device

-- ===================================================== what is stored

/-- What is stored under a name. -/
def stored (d : Device) (name : String) : Bytes :=
  match d.partitions.find? (·.1 = name) with
  | some (_, bytes) => bytes.toList
  | none => []

/-- What the open partition holds. -/
def contents (d : Device) : Bytes :=
  match d.reading with
  | some name => d.stored name
  | none => []

/-- A piece holds what is stored in its range. -/
theorem window_eq (d : Device) (request : ReadRequest) :
    d.window request
      = (d.contents.drop request.offset.toNat).take request.size.toNat := by
  unfold window contents stored
  cases d.reading with
  | none => simp
  | some name =>
      rw [Option.bind_some]
      dsimp only
      cases d.partitions.find? (·.1 = name) with
      | none => simp
      | some found =>
          show (found.2.extract _ _).toList = (found.2.toList.drop _).take _
          rw [Array.toList_extract, List.extract_eq_take_drop, Nat.add_sub_cancel_left]

/-- A device after some requests for a piece. -/
def asked (d : Device) (requests : List ReadRequest) : Device :=
  { d with
    commands := d.commands ++ List.replicate requests.length Command.readFlashMidst.code
    readRequests := d.readRequests ++ requests }

@[simp] theorem asked_nil (d : Device) : d.asked [] = d := by
  simp [asked]

@[simp] theorem asked_append (d : Device) (requests more : List ReadRequest) :
    (d.asked requests).asked more = d.asked (requests ++ more) := by
  unfold asked
  dsimp only
  congr 1
  · exact Array.toList_inj.1 (by simp)
  · exact Array.toList_inj.1 (by simp [List.replicate_append_replicate])

@[simp] theorem contents_asked (d : Device) (requests : List ReadRequest) :
    (d.asked requests).contents = d.contents := rfl

-- ======================================================== its answers

/-- A device after it was told to open a partition. -/
def opened (d : Device) (name : String) : Device :=
  { d with commands := d.commands.push Command.readFlashStart.code, reading := some name }

/-- A device after it was told to close what is open. -/
def closed (d : Device) : Device :=
  { d with commands := d.commands.push Command.readFlashEnd.code, reading := none }

theorem respond_readFlashStart (d : Device) {payload : Bytes} {request : PartitionRequest}
    (h : PartitionRequest.ofBytes payload = .ok request) :
    d.respond .readFlashStart payload = (.plain d.startReply, d.opened request.name) := by
  unfold respond serve
  rw [show Command.ofCode? _ = some .readFlashStart from rfl]
  dsimp only
  rw [Frame.payload_sealed, h]
  rfl

theorem respond_readFlashMidst (d : Device) (request : ReadRequest) :
    d.respond .readFlashMidst request.toBytes
      = ({ reply := .readFlashData, payload := d.window request, stalls := 0 },
          d.asked [request]) := by
  unfold respond serve
  rw [show Command.ofCode? _ = some .readFlashMidst from rfl]
  dsimp only
  rw [Frame.payload_sealed, ReadRequest.ofBytes_toBytes]
  simp [asked, window]

theorem respond_readFlashEnd (d : Device) :
    d.respond .readFlashEnd [] = (.plain .ack, d.closed) := rfl

end Device

namespace Link

/-- After some requests for a piece, sent and answered. -/
abbrev Asked (link after : Link Device) (requests : List ReadRequest) : Prop :=
  Served link after (requests.map fun r => (.readFlashMidst, r.toBytes))
    (link.channel.peer.asked requests)

namespace Asked

variable {a b c : Link Device} {requests more : List ReadRequest}

theorem refl (h : a.channel.arrivals = []) : Asked a a [] := by
  have := Served.refl h
  rwa [← Device.asked_nil a.channel.peer] at this

theorem trans (h : Asked a b requests) (h' : Asked b c more) : Asked a c (requests ++ more) := by
  have := Served.trans h h'
  rwa [h.peer, Device.asked_append, ← List.map_append] at this

theorem contents (h : Asked a b requests) :
    b.channel.peer.contents = a.channel.peer.contents := by
  rw [h.peer, Device.contents_asked]

end Asked

/-- Telling of progress is no request. -/
theorem Served.told {link after : Link Device} {requests : List (Command × Bytes)} {d : Device}
    (h : Served link after requests d) (audience : Audience) (phase : SessionPhase)
    (operation : String) (report : Option Nat) (window : Window) :
    Served link (Upload.tellProgress audience phase operation report window after) requests d :=
  ⟨by simpa using h.mode, by simpa using h.connected, by simpa using h.empty,
    by simpa using h.peer, by simpa using h.sent⟩

end Link

/-- A sink without a limit takes everything. -/
theorem Sink.write_of_room {sink : Sink} (h : sink.room = none) (data : Bytes) :
    Sink.write data sink = .ok () { sink with bytes := sink.bytes.appendList data } := by
  unfold Sink.write
  split
  · rfl
  · rename_i hlimit
    rw [h] at hlimit
    cases hlimit

namespace Upload

open Link (Attuned Served Asked)

-- ============================================================ one piece

section

variable {σ : Type} [Peer σ] {chunk offset : UInt32} {link after : Link σ}

/-- A reply that was accepted still has to bring the whole piece. -/
theorem readPiece_of_ok {frame : Frame}
    (h : Link.exchange .readFlashMidst (ReadRequest.toBytes { size := chunk, offset })
      piecePolicy link = .ok frame after) :
    readPiece chunk offset link
      = if frame.payload.length = chunk.toNat then .ok frame.payload after
        else .error (.protocol (.shortData chunk.toNat frame.payload.length)) after := by
  unfold readPiece
  simp only [bind, EStateM.bind, h]
  split <;> rfl

theorem readPiece_of_error {cause : Failure}
    (h : Link.exchange .readFlashMidst (ReadRequest.toBytes { size := chunk, offset })
      piecePolicy link = .error cause after) :
    readPiece chunk offset link = .error cause after := by
  unfold readPiece
  simp only [bind, EStateM.bind, h]

end

/-- A piece is read if all of it is stored. -/
theorem readPiece_device {link : Link Device} (hlink : Attuned link)
    (hempty : link.channel.arrivals = []) {chunk offset : UInt32}
    (hfits : chunk.toNat ≤ Frame.maxPayload) {data : Bytes}
    (hdata : (link.channel.peer.contents.drop offset.toNat).take chunk.toNat = data) :
    ∃ after, readPiece chunk offset link
        = (if data.length = chunk.toNat then .ok data after
          else .error (.protocol (.shortData chunk.toNat data.length)) after)
      ∧ Asked link after [{ size := chunk, offset }] := by
  have hwindow : link.channel.peer.window { size := chunk, offset } = data := by
    rw [Device.window_eq, hdata]
  have hrespond := link.channel.peer.respond_readFlashMidst { size := chunk, offset }
  rw [hwindow] at hrespond
  have hlen : data.length ≤ Frame.maxPayload := by
    rw [← hdata, List.length_take]
    omega
  obtain ⟨f, after, hexchange, hreply, hpayload, hserved⟩ :=
    Link.exchange_device (by rw [ReadRequest.length_toBytes]; decide) hlink hrespond hlen
      (.of_empty hempty) (by rw [hempty]; exact Nat.zero_le _)
  have haccept : piecePolicy.accepts f.reply = true := by
    rw [hreply]
    show piecePolicy.accepts (Reply.ofCode Reply.readFlashData.code) = true
    decide
  rw [Link.judge_of_accepts haccept] at hexchange
  refine ⟨after, ?_, hserved⟩
  rw [readPiece_of_ok hexchange, hpayload]

-- ============================================================= the loop

section

variable {σ : Type} [Peer σ] {partition : String} {audience : Audience} {moved : Summary}

/-- What is read over after one more piece. -/
def Reading.take (r : Reading σ) (partition : String) (audience : Audience) (chunk : UInt32)
    (data : Bytes) (link : Link σ) : Reading σ :=
  { link := tellProgress audience .upload partition (r.window.advance chunk).1
      (r.window.advance chunk).2 link
    window := (r.window.advance chunk).2
    sink := { r.sink with bytes := r.sink.bytes.appendList data } }

theorem readPieces_of_none {r : Reading σ} (h : r.window.nextChunk? = none) :
    readPieces partition audience moved r = .ok moved r := by
  rw [readPieces]
  split
  · rfl
  · rename_i hsome
    rw [h] at hsome
    cases hsome

/-- A piece that comes back goes to the sink. -/
theorem readPieces_of_piece {r : Reading σ} {chunk : UInt32} (h : r.window.nextChunk? = some chunk)
    {data : Bytes} {link : Link σ}
    (hpiece : readPiece chunk r.window.offset r.link = .ok data link) :
    readPieces partition audience moved r
      = match Sink.write data r.sink with
        | .error cause sink => .error (.file cause) { r with link, sink }
        | .ok _ sink =>
          readPieces partition audience (moved.add chunk)
            { r.take partition audience chunk data link with sink } := by
  rw [readPieces]
  split
  · rename_i hnone
    rw [h] at hnone
    cases hnone
  · rename_i chunk' hsome
    rw [h] at hsome
    cases hsome
    rw [hpiece]
    rfl

/-- A sink without a limit takes it. -/
theorem readPieces_of_ok {r : Reading σ} {chunk : UInt32} (h : r.window.nextChunk? = some chunk)
    {data : Bytes} {link : Link σ} (hpiece : readPiece chunk r.window.offset r.link = .ok data link)
    (hroom : r.sink.room = none) :
    readPieces partition audience moved r
      = readPieces partition audience (moved.add chunk)
          (r.take partition audience chunk data link) := by
  rw [readPieces_of_piece h hpiece, Sink.write_of_room hroom]
  rfl

/-- One that does not come back ends the read. -/
theorem readPieces_of_error {r : Reading σ} {chunk : UInt32}
    (h : r.window.nextChunk? = some chunk) {cause : Failure} {link : Link σ}
    (hpiece : readPiece chunk r.window.offset r.link = .error cause link) :
    readPieces partition audience moved r = .error cause { r with link } := by
  rw [readPieces]
  split
  · rename_i hnone
    rw [h] at hnone
    cases hnone
  · rename_i chunk' hsome
    rw [h] at hsome
    cases hsome
    rw [hpiece]

end

/-- The next piece of a window, as the device answers it. -/
theorem readPiece_next {r : Reading Device} {offset remaining : Nat} (hlink : Attuned r.link)
    (hempty : r.link.channel.arrivals = []) (hat : r.window.At offset remaining)
    (hpos : 0 < remaining) {data : Bytes}
    (hdata : (r.link.channel.peer.contents.drop offset).take
      (min r.window.size.size.toNat remaining) = data) :
    ∃ chunk link, r.window.nextChunk? = some chunk
      ∧ chunk = UInt32.ofNat (min r.window.size.size.toNat remaining)
      ∧ chunk.toNat = min r.window.size.size.toNat remaining
      ∧ readPiece chunk r.window.offset r.link
        = (if data.length = chunk.toNat then .ok data link
          else .error (.protocol (.shortData chunk.toNat data.length)) link)
      ∧ Asked r.link link [{ size := chunk, offset := UInt32.ofNat offset }] := by
  have hchunk := r.window.toNat_chunk remaining
  have hoffset : (UInt32.ofNat offset).toNat = offset := by
    have := hat.inside
    exact UInt32.toNat_ofNat_of_lt' (by omega)
  have hfits : (UInt32.ofNat (min r.window.size.size.toNat remaining)).toNat
      ≤ Frame.maxPayload := by
    rw [hchunk]
    exact Nat.le_trans (Nat.min_le_left ..) r.window.size.fits
  rw [← hchunk, ← hoffset] at hdata
  obtain ⟨link, hpiece, hasked⟩ := readPiece_device hlink hempty hfits hdata
  refine ⟨_, link, hat.nextChunk? hpos, rfl, hchunk, ?_, hasked⟩
  rw [hat.offset_eq]
  exact hpiece

/-- A window is read whole if all of it is stored. -/
theorem readPieces_of_le (partition : String) (audience : Audience) (moved : Summary)
    {r : Reading Device} {offset remaining : Nat} (hlink : Attuned r.link)
    (hempty : r.link.channel.arrivals = []) (hroom : r.sink.room = none)
    (hat : r.window.At offset remaining) {behind : Bytes}
    (hbehind : r.link.channel.peer.contents.drop offset = behind)
    (hle : remaining ≤ behind.length) :
    ∃ after, readPieces partition audience moved r
        = .ok { bytes := moved.bytes + remaining
                chunks := moved.chunks
                  + (Window.requests r.window.size.size.toNat offset remaining).length } after
      ∧ after.sink.bytes.toList = r.sink.bytes.toList ++ behind.take remaining
      ∧ Asked r.link after.link
          (Window.requests r.window.size.size.toNat offset remaining) := by
  by_cases hzero : remaining = 0
  · subst hzero
    refine ⟨r, ?_, by rw [List.take_zero, List.append_nil], ?_⟩
    · rw [readPieces_of_none hat.done, Window.requests_zero r.window.size.pos]
      rfl
    · rw [Window.requests_zero r.window.size.pos]
      exact Asked.refl hempty
  · have hpos : 0 < remaining := by omega
    have hsize := r.window.size.pos
    obtain ⟨chunk, link, hnext, rfl, hchunk, hpiece, hasked⟩ :=
      readPiece_next hlink hempty hat hpos (by rw [hbehind])
    rw [Window.requests_of_pos hsize hpos]
    have hadvance := hat.advance
    generalize hn : min r.window.size.size.toNat remaining = n at *
    have hnle : n ≤ remaining ∧ 0 < n := by omega
    rw [hchunk, List.length_take, if_pos (by omega)] at hpiece
    have hstep : Asked r.link
        (r.take partition audience (UInt32.ofNat n) (behind.take n) link).link _ :=
      Served.told hasked _ _ _ _ _
    have hrest : (r.take partition audience (UInt32.ofNat n) (behind.take n)
        link).link.channel.peer.contents.drop (offset + n) = behind.drop n := by
      rw [hstep.contents, ← List.drop_drop, hbehind]
    obtain ⟨after, hread, hsink, hmore⟩ :=
      readPieces_of_le partition audience (moved.add (UInt32.ofNat n))
        (hstep.attuned hlink rfl) hstep.empty hroom hadvance hrest
        (by rw [List.length_drop]; omega)
    refine ⟨after, ?_, ?_, hstep.trans hmore⟩
    · rw [readPieces_of_ok hnext hpiece hroom, hread]
      simp only [Summary.add, hchunk, List.length_cons, Reading.take, Window.size_advance]
      congr 2 <;> omega
    · rw [hsink]
      simp only [Reading.take, Array.appendList_eq_append, Array.toList_appendList]
      rw [List.append_assoc, ← List.take_add]
      congr 2
      omega
  termination_by remaining
  decreasing_by omega

/-- A window is read up to the piece in which the stored bytes end, and
that piece is not. -/
theorem readPieces_of_lt (partition : String) (audience : Audience) (moved : Summary)
    {r : Reading Device} {offset remaining size : Nat} (hlink : Attuned r.link)
    (hempty : r.link.channel.arrivals = []) (hroom : r.sink.room = none)
    (hat : r.window.At offset remaining) (hsize : r.window.size.size.toNat = size)
    {behind : Bytes} (hbehind : r.link.channel.peer.contents.drop offset = behind)
    (hlt : behind.length < remaining) :
    ∃ after, readPieces partition audience moved r
        = .error (.protocol (.shortData
            (min size (remaining - behind.length / size * size))
            (behind.length - behind.length / size * size))) after
      ∧ after.sink.bytes.toList
        = r.sink.bytes.toList ++ behind.take (behind.length / size * size)
      ∧ Asked r.link after.link
          ((Window.requests size offset remaining).take (behind.length / size + 1)) := by
  have hpos : 0 < remaining := by omega
  have hsize_pos : 0 < size := hsize ▸ r.window.size.pos
  obtain ⟨chunk, link, hnext, rfl, hchunk, hpiece, hasked⟩ :=
    readPiece_next hlink hempty hat hpos (by rw [hbehind])
  rw [Window.requests_of_pos hsize_pos hpos]
  have hadvance := hat.advance
  rw [hsize] at hnext hchunk hpiece hasked hadvance
  rw [hchunk, List.length_take] at hpiece
  by_cases hshort : behind.length < min size remaining
  · -- the stored bytes end in this piece
    have hnone : behind.length / size = 0 := Nat.div_eq_of_lt (by omega)
    rw [Nat.min_eq_right (Nat.le_of_lt hshort), if_neg (Nat.ne_of_lt hshort)] at hpiece
    refine ⟨{ r with link }, ?_, ?_, ?_⟩
    · rw [readPieces_of_error hnext hpiece, hnone, Nat.zero_mul, Nat.sub_zero, Nat.sub_zero]
    · rw [hnone, Nat.zero_mul, List.take_zero, List.append_nil]
    · rw [hnone]
      exact hasked
  · have hmin : min size remaining = size := by omega
    rw [hmin] at hnext hchunk hpiece hasked hadvance ⊢
    rw [if_pos (by omega)] at hpiece
    have hstep : Asked r.link
        (r.take partition audience (UInt32.ofNat size) (behind.take size) link).link _ :=
      Served.told hasked _ _ _ _ _
    have hrest : (r.take partition audience (UInt32.ofNat size) (behind.take size)
        link).link.channel.peer.contents.drop (offset + size) = behind.drop size := by
      rw [hstep.contents, ← List.drop_drop, hbehind]
    obtain ⟨after, hread, hsink, hmore⟩ :=
      readPieces_of_lt partition audience (moved.add (UInt32.ofNat size))
        (hstep.attuned hlink rfl) hstep.empty hroom hadvance hsize hrest
        (by rw [List.length_drop]; omega)
    have hdiv : behind.length / size = (behind.length - size) / size + 1 :=
      Nat.div_eq_sub_div hsize_pos (by omega)
    rw [List.length_drop] at hread hsink hmore
    rw [hdiv, Nat.succ_mul]
    refine ⟨after, ?_, ?_, hstep.trans hmore⟩
    · rw [readPieces_of_ok hnext hpiece hroom, hread]
      congr 3 <;> omega
    · rw [hsink]
      simp only [Reading.take, Array.appendList_eq_append, Array.toList_appendList]
      rw [List.append_assoc, ← List.take_add, Nat.add_comm size]
  termination_by remaining
  decreasing_by omega

-- ================================================== opening and closing

/-- What opens a partition, as it is sent. -/
def opening (name : String) : Bytes := PartitionRequest.toBytes { name, size := readAll }

section

variable {σ : Type} [Peer σ] {u : Upload} {link after : Link σ} {cause : Failure} {f : Frame}

theorem start_of_make_error {cause : RequestFailure}
    (h : PartitionRequest.make u.partition readAll = .error cause) :
    start (u, link)
      = .error (.param (.request cause))
          ({ u with phase := .failed (.param (.request cause)) }, link) := by
  unfold start openPartition
  dsimp only
  rw [h]

variable {request : PartitionRequest}

theorem start_of_ok (h : PartitionRequest.make u.partition readAll = .ok request)
    (hexchange : Link.exchange .readFlashStart request.toBytes startPolicy link = .ok f after) :
    start (u, link) = .ok f.reply ({ u with phase := .transferring }, after) := by
  unfold start openPartition
  dsimp only
  rw [h]
  dsimp only
  rw [hexchange]

theorem start_of_error (h : PartitionRequest.make u.partition readAll = .ok request)
    (hexchange : Link.exchange .readFlashStart request.toBytes startPolicy link
      = .error cause after) :
    start (u, link) = .error cause ({ u with phase := .failed cause }, after) := by
  unfold start openPartition
  dsimp only
  rw [h]
  dsimp only
  rw [hexchange]

theorem finish_of_ok (hexchange : Link.exchange .readFlashEnd [] .ack link = .ok f after) :
    finish (u, link) = .ok () ({ u with phase := .done }, after) := by
  unfold finish
  dsimp only
  rw [hexchange]

theorem finish_of_error
    (hexchange : Link.exchange .readFlashEnd [] .ack link = .error cause after) :
    finish (u, link) = .error cause ({ u with phase := .failed cause }, after) := by
  unfold finish
  dsimp only
  rw [hexchange]

end

/-- What a device reads from the request that opens a partition. -/
theorem ofBytes_opening {name : String}
    (hunits : (Utf16.units name.toList).length ≤ PartitionRequest.nameUnits) :
    PartitionRequest.ofBytes (opening name) = .ok { name := nameSeen name, size := readAll } := by
  rw [← List.append_nil (opening name)]
  exact PartitionRequest.ofBytes_toBytes_append (r := ⟨name, readAll⟩) hunits []

theorem length_opening_le (name : String) : (opening name).length ≤ Frame.maxPayload := by
  have : (opening name).length = PartitionRequest.byteSize :=
    PartitionRequest.length_toBytes ⟨name, readAll⟩
  rw [this]
  decide

/-- The device opens the partition, whatever it answers. -/
theorem start_device {link : Link Device} (hlink : Attuned link)
    (hquiet : Link.Quiet link)
    (hspare : link.channel.arrivals.length ≤ startPolicy.attempts - 1) {u : Upload}
    (hname : u.partition.toList ≠ [])
    (hunits : (Utf16.units u.partition.toList).length ≤ PartitionRequest.nameUnits)
    {reply : Reply} (hreply : Reply.ofCode link.channel.peer.startReply.code = reply) :
    ∃ u' after, u'.partition = u.partition
      ∧ start (u, link)
        = (if startPolicy.accepts reply then .ok reply (u', after)
          else .error (.protocol (.unexpectedReply .readFlashStart .ack reply)) (u', after))
      ∧ Served link after [(.readFlashStart, opening u.partition)]
          (link.channel.peer.opened (nameSeen u.partition)) := by
  have hmake : PartitionRequest.make u.partition readAll = .ok ⟨u.partition, readAll⟩ := by
    unfold PartitionRequest.make
    rw [if_neg hname, if_neg (Nat.not_lt.2 hunits)]
  have hrespond := link.channel.peer.respond_readFlashStart (ofBytes_opening hunits)
  have hstalls : (Device.Answer.plain link.channel.peer.startReply).stalls = 0 := rfl
  obtain ⟨f, after, hexchange, hf, -, hserved⟩ :=
    Link.exchange_device (length_opening_le _) hlink hrespond (Nat.zero_le _) hquiet
      (by rw [hstalls, Nat.add_zero]; exact hspare)
  replace hf : f.reply = reply := hf.trans hreply
  by_cases haccept : startPolicy.accepts reply = true
  · rw [Link.judge_of_accepts (by rw [hf]; exact haccept)] at hexchange
    refine ⟨{ u with phase := .transferring }, after, rfl, ?_, hserved⟩
    rw [start_of_ok hmake hexchange, if_pos haccept, hf]
  · rw [Link.judge_of_refused (by rw [hf]; exact Bool.eq_false_iff.2 haccept), hf] at hexchange
    rw [show startPolicy.expected = .ack from rfl] at hexchange
    generalize Failure.protocol (.unexpectedReply .readFlashStart .ack reply) = cause
      at hexchange ⊢
    refine ⟨{ u with phase := .failed cause }, after, rfl, ?_, hserved⟩
    rw [start_of_error hmake hexchange, if_neg haccept]

theorem finish_device {link : Link Device} (hlink : Attuned link)
    (hempty : link.channel.arrivals = []) (u : Upload) :
    ∃ after, finish (u, link) = .ok () ({ u with phase := .done }, after)
      ∧ Served link after [(.readFlashEnd, [])] link.channel.peer.closed := by
  obtain ⟨f, after, hexchange, hf, -, hserved⟩ :=
    Link.exchange_device (Nat.zero_le _) hlink link.channel.peer.respond_readFlashEnd
      (Nat.zero_le _) (.of_empty hempty) (by rw [hempty]; exact Nat.zero_le _)
  have haccept : Policy.ack.accepts f.reply = true := by
    rw [hf]
    show Policy.ack.accepts (Reply.ofCode Reply.ack.code) = true
    decide
  rw [Link.judge_of_accepts haccept] at hexchange
  exact ⟨after, finish_of_ok hexchange, hserved⟩

-- ============================================================ the whole

section

variable {σ : Type} [Peer σ] {partition : String} {size windowSize : UInt32}
  {audience : Audience} {sink : Sink} {link opened : Link σ} {window : Window} {u : Upload}

/-- An upload opens the partition, reads its window and closes; the
first failure ends it. -/
theorem upload_eq :
    FlashLink.upload partition size windowSize audience (sink, link)
      = match WindowSize.check windowSize with
        | .error cause => .error (.param cause) (sink, link)
        | .ok window =>
          match openPartition partition link with
          | .error cause after => .error cause (sink, after)
          | .ok _ opened =>
            match readPieces partition audience .none ⟨opened, .start 0 size window, sink⟩ with
            | .error cause r => .error cause (r.sink, r.link)
            | .ok moved r =>
              match Link.exchange .readFlashEnd [] .ack r.link with
              | .error cause after => .error cause (r.sink, after)
              | .ok _ after => .ok moved (r.sink, after) := by
  unfold FlashLink.upload Window.make start readRange finish ofPartition
  dsimp only
  cases WindowSize.check windowSize with
  | error cause => rfl
  | ok window =>
      dsimp only [Except.map]
      cases openPartition partition link with
      | error cause after => rfl
      | ok reply opened =>
          dsimp only
          cases readPieces partition audience .none ⟨opened, .start 0 size window, sink⟩ with
          | error cause r => rfl
          | ok moved r =>
              dsimp only
              cases Link.exchange .readFlashEnd [] .ack r.link <;> rfl

/-- An upload that was refused the partition. -/
theorem upload_of_start_error (hwindow : Window.make 0 size windowSize = .ok window)
    {cause : Failure} (hstart : start (.ofPartition partition, link) = .error cause (u, opened)) :
    FlashLink.upload partition size windowSize audience (sink, link)
      = .error cause (sink, opened) := by
  unfold FlashLink.upload
  dsimp only
  rw [hwindow]
  dsimp only
  rw [hstart]

/-- An upload that was given it. -/
theorem upload_of_start_ok (hwindow : Window.make 0 size windowSize = .ok window)
    {reply : Reply} (hstart : start (.ofPartition partition, link) = .ok reply (u, opened)) :
    FlashLink.upload partition size windowSize audience (sink, link)
      = match readPieces u.partition audience .none ⟨opened, window, sink⟩ with
        | .error cause r => .error cause (r.sink, r.link)
        | .ok moved r =>
          match finish (u, r.link) with
          | .error cause (_, link) => .error cause (r.sink, link)
          | .ok _ (_, link) => .ok moved (r.sink, link) := by
  unfold FlashLink.upload readRange
  dsimp only
  rw [hwindow]
  dsimp only
  rw [hstart]
  dsimp only
  cases readPieces u.partition audience .none ⟨opened, window, sink⟩ <;> rfl

end

section

variable {name : String} {size windowSize : UInt32} (audience : Audience) {sink : Sink}
  {link opened : Link Device} {window : Window} {u : Upload} {reply : Reply} {D : Bytes}
  {before : List (Command × Bytes)} {d : Device}

/-- An upload that was given the partition, where enough is stored. -/
theorem upload_of_le (hwindow : Window.make 0 size windowSize = .ok window)
    (hat : window.At 0 size.toNat)
    (hstart : start (.ofPartition name, link) = .ok reply (u, opened)) (hu : u.partition = name)
    (hserved : Served link opened before d) (hopened : Attuned opened)
    (hroom : sink.room = none) (hcontents : opened.channel.peer.contents = D)
    (hle : size.toNat ≤ D.length) {requests : List ReadRequest}
    (hrequests : Window.requests window.size.size.toNat 0 size.toNat = requests) :
    ∃ sink' after, upload name size windowSize audience (sink, link)
        = .ok { bytes := size.toNat, chunks := requests.length } (sink', after)
      ∧ sink'.bytes.toList = sink.bytes.toList ++ D.take size.toNat
      ∧ Served link after
          (before ++ requests.map (fun r => (.readFlashMidst, r.toBytes))
            ++ [(.readFlashEnd, [])]) (d.asked requests).closed := by
  obtain ⟨after, hread, hsink, hasked⟩ :=
    readPieces_of_le name audience .none (r := ⟨opened, window, sink⟩) hopened hserved.empty
      hroom hat hcontents hle
  rw [hrequests] at hread hasked
  obtain ⟨last, hfinish, hclosed⟩ := finish_device (hasked.attuned hopened rfl) hasked.empty u
  have hall := (hserved.trans hasked).trans hclosed
  rw [hasked.peer, hserved.peer] at hall
  refine ⟨after.sink, last, ?_, hsink, hall⟩
  rw [upload_of_start_ok hwindow hstart, hu, hread]
  dsimp only
  rw [hfinish]
  simp only [Summary.none, Nat.zero_add]

/-- An upload that was given the partition, where not enough is. -/
theorem upload_of_lt (hwindow : Window.make 0 size windowSize = .ok window)
    (hat : window.At 0 size.toNat)
    (hstart : start (.ofPartition name, link) = .ok reply (u, opened)) (hu : u.partition = name)
    (hserved : Served link opened before d) (hopened : Attuned opened)
    (hroom : sink.room = none) (hcontents : opened.channel.peer.contents = D)
    (hlt : D.length < size.toNat) {W : Nat} (hW : window.size.size.toNat = W) :
    ∃ sink' after, upload name size windowSize audience (sink, link)
        = .error (.protocol (.shortData (min W (size.toNat - D.length / W * W))
            (D.length - D.length / W * W))) (sink', after)
      ∧ sink'.bytes.toList = sink.bytes.toList ++ D.take (D.length / W * W)
      ∧ Served link after
          (before ++ ((Window.requests W 0 size.toNat).take (D.length / W + 1)).map
            fun r => (.readFlashMidst, r.toBytes))
          (d.asked ((Window.requests W 0 size.toNat).take (D.length / W + 1))) := by
  obtain ⟨after, hread, hsink, hasked⟩ :=
    readPieces_of_lt name audience .none (r := ⟨opened, window, sink⟩) hopened hserved.empty
      hroom hat hW hcontents hlt
  have hall := hserved.trans hasked
  rw [hserved.peer] at hall
  refine ⟨after.sink, after.link, ?_, hsink, hall⟩
  rw [upload_of_start_ok hwindow hstart, hu, hread]

end

/-- A window over the start of the address space. -/
theorem make_of_fits (size : UInt32) {windowSize : UInt32} (hpos : 1 ≤ windowSize.toNat)
    (hfits : windowSize.toNat ≤ 65535) :
    ∃ window, Window.make 0 size windowSize = .ok window ∧ window.At 0 size.toNat
      ∧ window.size.size = windowSize := by
  refine ⟨Window.start 0 size ⟨windowSize, hpos, hfits⟩, ?_, ?_, rfl⟩
  · unfold Window.make WindowSize.check
    rw [dif_pos ⟨hpos, hfits⟩]
    rfl
  · refine Window.At.start 0 size _ ?_
    rw [show (0 : UInt32).toNat = 0 from rfl, Nat.zero_add]
    exact Nat.le_of_lt size.toNat_lt

/-- An upload over a link in the mode of the device, with nothing in
the queue and a sink that takes everything: what it answers, what the
sink gains, and what the device is asked, by how much is stored. -/
theorem upload_stored {name : String} (hname : name.toList ≠ [])
    (hunits : (Utf16.units name.toList).length ≤ PartitionRequest.nameUnits)
    (hzero : '\x00' ∉ name.toList) (size windowSize : UInt32) {S W : Nat}
    (hS : size.toNat = S) (hW : windowSize.toNat = W) (hpos : 1 ≤ W) (hfits : W ≤ 65535)
    (audience : Audience) {link : Link Device} (hlink : Attuned link)
    (hempty : link.channel.arrivals = []) {sink : Sink} (hroom : sink.room = none) {D : Bytes}
    (hD : link.channel.peer.stored name = D) {reply : Reply}
    (hreply : Reply.ofCode link.channel.peer.startReply.code = reply) :
    (reply ≠ .ack → reply ≠ .downSizeError →
      ∃ after, upload name size windowSize audience (sink, link)
          = .error (.protocol (.unexpectedReply .readFlashStart .ack reply)) (sink, after)
        ∧ Served link after [(.readFlashStart, opening name)] (link.channel.peer.opened name))
    ∧ (reply = .ack ∨ reply = .downSizeError → S ≤ D.length →
      ∃ sink' after, upload name size windowSize audience (sink, link)
          = .ok { bytes := S, chunks := (S + W - 1) / W } (sink', after)
        ∧ sink'.bytes.toList = sink.bytes.toList ++ D.take S
        ∧ Served link after
            ((.readFlashStart, opening name)
              :: (Window.requests W 0 S).map (fun r => (.readFlashMidst, r.toBytes))
              ++ [(.readFlashEnd, [])])
            ((link.channel.peer.opened name).asked (Window.requests W 0 S)).closed
        ∧ after.channel.peer.readRequests.toList
          = link.channel.peer.readRequests.toList ++ Window.requests W 0 S
        ∧ after.channel.peer.commands.toList
          = link.channel.peer.commands.toList
            ++ (0x10 :: List.replicate ((S + W - 1) / W) 0x11 ++ [0x12]))
    ∧ (reply = .ack ∨ reply = .downSizeError → D.length < S →
      ∃ sink' after, upload name size windowSize audience (sink, link)
          = .error (.protocol (.shortData (min W (S - D.length / W * W))
              (D.length - D.length / W * W))) (sink', after)
        ∧ sink'.bytes.toList = sink.bytes.toList ++ D.take (D.length / W * W)
        ∧ Served link after
            ((.readFlashStart, opening name)
              :: ((Window.requests W 0 S).take (D.length / W + 1)).map
                fun r => (.readFlashMidst, r.toBytes))
            ((link.channel.peer.opened name).asked
              ((Window.requests W 0 S).take (D.length / W + 1)))) := by
  subst hS hW
  obtain ⟨window, hwindow, hat, hsize⟩ := make_of_fits size hpos hfits
  obtain ⟨u, opened, hu, hstart, hserved⟩ :=
    start_device (u := .ofPartition name) hlink (.of_empty hempty)
      (by rw [hempty]; exact Nat.zero_le _) hname hunits hreply
  rw [show (ofPartition name).partition = name from rfl] at hu hserved
  rw [nameSeen_of_not_mem hzero] at hserved
  have hopened : Attuned opened := hserved.attuned hlink rfl
  have hcontents : opened.channel.peer.contents = D := by
    rw [hserved.peer]
    exact hD
  have haccepts : reply = .ack ∨ reply = .downSizeError → startPolicy.accepts reply = true := by
    rintro (rfl | rfl) <;> rfl
  refine ⟨?_, ?_, ?_⟩
  · intro hack hdown
    have hrefused : startPolicy.accepts reply = false := by
      simpa [startPolicy, Policy.accepts, Policy.ack, Policy.expect, Policy.within,
        Policy.tolerating] using ⟨hack, hdown⟩
    rw [hrefused, if_neg Bool.false_ne_true] at hstart
    exact ⟨opened, upload_of_start_error hwindow hstart, hserved⟩
  · intro haccept hle
    rw [if_pos (haccepts haccept)] at hstart
    obtain ⟨sink', after, hupload, hsink, hall⟩ :=
      upload_of_le audience hwindow hat hstart hu hserved hopened hroom hcontents hle
        (by rw [hsize])
    rw [Window.length_requests] at hupload
    refine ⟨sink', after, hupload, hsink, hall, ?_, ?_⟩
    · rw [hall.peer]
      simp [Device.closed, Device.asked, Device.opened]
    · rw [hall.peer]
      simp [Device.closed, Device.asked, Device.opened, Window.length_requests, Command.code]
  · intro haccept hlt
    rw [if_pos (haccepts haccept)] at hstart
    exact upload_of_lt audience hwindow hat hstart hu hserved hopened hroom hcontents hlt
      (by rw [hsize])

/-- A second loader with five bytes in one partition, heard in chunks
of three. -/
def fiveBytes : Link Device :=
  .ofChannel (.connect { Device.fresh .second with
    chunk := 3, chunk_pos := by decide, partitions := [("boot", #[1, 2, 3, 4, 5])] }) .sum

/-- Four of the five bytes come in two pieces; of six, two whole pieces
come and the third one byte short. -/
theorem upload_stored_fiveBytes :
    (∃ sink after, upload "boot" 4 2 .nobody (.unlimited, fiveBytes)
        = .ok { bytes := 4, chunks := 2 } (sink, after)
      ∧ sink.bytes.toList = [1, 2, 3, 4]
      ∧ after.channel.peer.readRequests.toList = [⟨2, 0⟩, ⟨2, 2⟩]
      ∧ after.channel.peer.commands.toList = [0x10, 0x11, 0x11, 0x12])
    ∧ ∃ sink after, upload "boot" 6 2 .nobody (.unlimited, fiveBytes)
        = .error (.protocol (.shortData 2 1)) (sink, after)
      ∧ sink.bytes.toList = [1, 2, 3, 4]
      ∧ after.channel.peer.commands.toList = [0x10, 0x11, 0x11, 0x11] := by
  have hlink : Attuned fiveBytes := ⟨rfl, rfl⟩
  have hroom : Sink.unlimited.room = none := rfl
  have hstored : fiveBytes.channel.peer.stored "boot" = [1, 2, 3, 4, 5] := rfl
  refine ⟨?_, ?_⟩
  · obtain ⟨sink, after, hupload, hsink, -, hrequests, hcommands⟩ :=
      (upload_stored (by decide) (by decide) (by decide) 4 2 rfl rfl (by decide) (by decide)
        .nobody hlink rfl hroom hstored rfl).2.1 (.inl (by decide)) (by decide)
    exact ⟨sink, after, hupload, hsink, hrequests, hcommands⟩
  · obtain ⟨sink, after, hupload, hsink, hserved⟩ :=
      (upload_stored (by decide) (by decide) (by decide) 6 2 rfl rfl (by decide) (by decide)
        .nobody hlink rfl hroom hstored rfl).2.2 (.inl (by decide)) (by decide)
    refine ⟨sink, after, hupload, hsink, ?_⟩
    rw [hserved.peer]
    rfl

end Upload

end FlashLink
