/-
Receiving a frame that arrives in pieces.

The device's bytes are in the queue as chunks, cut anywhere: between
the halves of a pair, one byte at a time, or longer than a read takes
at once. `Queued link wire rest` forgets the cuts: the bytes of `wire`
are next, and behind them stands `rest`. Every layer of the receiver is
then one statement about `wire`:

- a read takes some bytes off its front (`read_queued`);
- `receiveChunk` reads on past a trailing escape, so it takes a piece
  off the front that can be read on its own (`receiveChunk_queued`);
- `collect` has read the message up to such a cut. A paired wire reads
  as nothing only when it is empty, so the length field is satisfied
  with the last byte of the wire and no earlier (`collect_queued`).

The invariant of `collect` is that what was read and what the wire
still reads as make up the message. `receiveFrame_stuffed` draws the
conclusion for any message that announces its own length: one attempt
takes exactly its bytes and ends in the verdict on them. A frame that
`build` made in the receiver's mode is the case in which the verdict is
the frame itself.

`Steady` is the frame condition: an attempt at receiving, whatever it
ends in, writes nothing and leaves the device and the mode alone.
-/
import FlashLink.Link
import FlashLink.Proofs.Frame
import FlashLink.Proofs.Keeps

namespace FlashLink

open Stuffing (delimiter unstuff Paired endsMidEscape)

variable {σ : Type}

namespace Channel

/-- A chunk that was heard is nothing that was sent. -/
theorem sent_traceHeard (channel : Channel σ) (arrivals : List Arrival) (bytes : Bytes) :
    ({ channel with arrivals, traffic := traceHeard channel.traffic bytes } : Channel σ).sent
      = channel.sent := by
  unfold sent traceHeard
  dsimp only
  split
  · rfl
  · simp

/-- Reading leaves the device and what was written alone. -/
theorem steady_read (limit : Nat) (channel : Channel σ) :
    (endState (read limit channel)).connected = channel.connected
      ∧ (endState (read limit channel)).peer = channel.peer
      ∧ (endState (read limit channel)).sent = channel.sent := by
  unfold read
  split
  · split
    · exact ⟨rfl, rfl, rfl⟩
    · exact ⟨rfl, rfl, rfl⟩
    · split
      · exact ⟨rfl, rfl, sent_traceHeard _ _ _⟩
      · exact ⟨rfl, rfl, sent_traceHeard _ _ _⟩
  · exact ⟨rfl, rfl, rfl⟩

/-- A chunk longer than a read takes is read in part, and the rest of
it stays in front. -/
theorem read_of_lt {channel : Channel σ} (hconn : channel.connected = true) {limit : Nat}
    {chunk : Bytes} {rest : List Arrival} (harr : channel.arrivals = .chunk chunk :: rest)
    (h : limit < chunk.length) :
    read limit channel
      = .ok (chunk.take limit)
          { channel with
            arrivals := .chunk (chunk.drop limit) :: rest
            traffic := traceHeard channel.traffic (chunk.take limit) } := by
  unfold read
  rw [if_pos hconn, harr]
  exact if_pos h

/-- Any other chunk is read whole. -/
theorem read_of_le {channel : Channel σ} (hconn : channel.connected = true) {limit : Nat}
    {chunk : Bytes} {rest : List Arrival} (harr : channel.arrivals = .chunk chunk :: rest)
    (h : chunk.length ≤ limit) :
    read limit channel
      = .ok chunk
          { channel with
            arrivals := rest
            traffic := traceHeard channel.traffic chunk } := by
  unfold read
  rw [if_pos hconn, harr]
  exact if_neg (Nat.not_lt.2 h)

end Channel

namespace Link

-- ==================================================== what stays put

/-- What receiving leaves alone. -/
structure Steady (link after : Link σ) : Prop where
  mode : after.mode = link.mode
  audience : after.audience = link.audience
  connected : after.channel.connected = link.channel.connected
  peer : after.channel.peer = link.channel.peer
  sent : after.channel.sent = link.channel.sent

theorem Steady.refl (link : Link σ) : Steady link link := ⟨rfl, rfl, rfl, rfl, rfl⟩

theorem Steady.trans {a b c : Link σ} (h : Steady a b) (h' : Steady b c) : Steady a c :=
  ⟨h'.mode.trans h.mode, h'.audience.trans h.audience, h'.connected.trans h.connected,
    h'.peer.trans h.peer, h'.sent.trans h.sent⟩

theorem steady_read (link : Link σ) : Steady link (endState (read link)) := by
  have h := Channel.steady_read readLimit link.channel
  unfold read
  split
  · rename_i hread
    rw [hread] at h
    exact ⟨rfl, rfl, h.1, h.2.1, h.2.2⟩
  · rename_i hread
    rw [hread] at h
    exact ⟨rfl, rfl, h.1, h.2.1, h.2.2⟩

theorem steady_receiveChunk (empty : String) (link : Link σ) :
    Steady link (endState (receiveChunk empty link)) := by
  induction empty, link using receiveChunk.induct with
  | case1 empty link cause after hread =>
      have hs := steady_read link
      rw [hread] at hs
      rw [receiveChunk, hread]
      exact hs
  | case2 empty link bytes after hread hempty =>
      have hs := steady_read link
      rw [hread] at hs
      rw [receiveChunk, hread]
      simp only [hempty, if_true]
      exact hs
  | case3 empty link bytes after hread hempty hescape more last hmore ih =>
      have hs := steady_read link
      rw [hread] at hs
      rw [hmore] at ih
      rw [receiveChunk, hread]
      simp only [hempty, hescape, hmore, if_true]
      exact hs.trans ih
  | case4 empty link bytes after hread hempty hescape cause last hmore ih =>
      have hs := steady_read link
      rw [hread] at hs
      rw [hmore] at ih
      rw [receiveChunk, hread]
      simp only [hempty, hescape, hmore, if_true]
      exact hs.trans ih
  | case5 empty link bytes after hread hempty hescape =>
      have hs := steady_read link
      rw [hread] at hs
      rw [receiveChunk, hread]
      simp only [hempty, hescape]
      exact hs

/-- An attempt at receiving writes nothing and changes neither the
device nor the mode. -/
theorem steady_collect (raw : Array UInt8) (link : Link σ) :
    Steady link (endState (collect raw link)) := by
  have hone := steady_receiveChunk "Empty response" link
  rw [collect]
  split
  · rename_i hreceive
    rw [show receiveChunk "Empty response" link = _ from hreceive] at hone
    exact hone
  · rename_i wire after hreceive
    rw [show receiveChunk "Empty response" link = _ from hreceive] at hone
    dsimp only
    have hlt : after.channel.weight < link.channel.weight := weight_receiveChunk_lt hreceive
    split
    · exact hone
    · split
      · split
        · split
          · exact hone
          · exact hone
        · exact hone.trans (steady_collect _ after)
      · exact hone.trans (steady_collect _ after)
  termination_by link.channel.weight

theorem steady_receiveFrame (link : Link σ) : Steady link (endState (receiveFrame link)) :=
  steady_collect #[] link

-- ==================================================== what is queued

/-- A connected link on which the bytes of `wire` come next, in chunks
none of which is empty, and `rest` behind them. -/
def Queued (link : Link σ) (wire : Bytes) (rest : List Arrival) : Prop :=
  link.channel.connected = true
    ∧ ∃ chunks : List Bytes, (∀ chunk ∈ chunks, chunk ≠ []) ∧ chunks.flatten = wire
      ∧ link.channel.arrivals = chunks.map .chunk ++ rest

/-- Once all bytes were taken, the queue is what stood behind them. -/
theorem Queued.arrivals {link : Link σ} {rest : List Arrival} (h : Queued link [] rest) :
    link.channel.arrivals = rest := by
  obtain ⟨-, chunks, hchunks, hflat, harr⟩ := h
  match chunks with
  | [] => exact harr
  | chunk :: chunks =>
      exact absurd (List.append_eq_nil_iff.1 hflat).1 (hchunks chunk List.mem_cons_self)

/-- What the channel reads, the link reads. -/
theorem read_of_channel {link : Link σ} {bytes : Bytes} {channel : Channel σ}
    (h : Channel.read readLimit link.channel = .ok bytes channel) :
    ∃ after, read link = .ok bytes after ∧ after.channel = channel := by
  unfold read
  rw [h]
  exact ⟨_, rfl, rfl⟩

/-- A read takes bytes off the front. -/
theorem read_queued {link : Link σ} {wire : Bytes} {rest : List Arrival}
    (h : Queued link wire rest) (hne : wire ≠ []) :
    ∃ piece left after, read link = .ok piece after ∧ piece ≠ [] ∧ wire = piece ++ left
      ∧ Queued after left rest := by
  obtain ⟨hconn, chunks, hchunks, rfl, harr⟩ := h
  match chunks with
  | [] => exact absurd rfl hne
  | chunk :: chunks =>
      have hchunk : chunk ≠ [] := hchunks chunk List.mem_cons_self
      have hrest : ∀ c ∈ chunks, c ≠ [] := fun c hc => hchunks c (List.mem_cons_of_mem _ hc)
      by_cases hlimit : readLimit < chunk.length
      · -- the chunk is longer than a read takes
        obtain ⟨after, hread, hafter⟩ :=
          read_of_channel (Channel.read_of_lt hconn harr hlimit)
        have htake : chunk.take readLimit ≠ [] := by
          intro h
          have := congrArg List.length h
          rw [List.length_take, List.length_nil] at this
          unfold readLimit at this hlimit
          omega
        have hdrop : chunk.drop readLimit ≠ [] := by
          intro h
          have := congrArg List.length h
          rw [List.length_drop, List.length_nil] at this
          omega
        refine ⟨chunk.take readLimit, chunk.drop readLimit ++ chunks.flatten, after, hread,
          htake, ?_, by rw [hafter]; exact hconn, chunk.drop readLimit :: chunks, ?_, rfl,
          by rw [hafter]; rfl⟩
        · rw [← List.append_assoc, List.take_append_drop]
          rfl
        · intro c hc
          rcases List.mem_cons.1 hc with rfl | hc
          · exact hdrop
          · exact hrest c hc
      · obtain ⟨after, hread, hafter⟩ :=
          read_of_channel (Channel.read_of_le hconn harr (Nat.not_lt.1 hlimit))
        exact ⟨chunk, chunks.flatten, after, hread, hchunk, rfl, by rw [hafter]; exact hconn,
          chunks, hrest, rfl, by rw [hafter]; rfl⟩

theorem receiveChunk_of_error {link after : Link σ} {cause : Failure}
    (h : read link = .error cause after) (empty : String) :
    receiveChunk empty link = .error cause after := by
  rw [receiveChunk, h]

/-- A chunk that does not end in an escape is passed on. -/
theorem receiveChunk_of_read {link after : Link σ} {bytes : Bytes}
    (h : read link = .ok bytes after) (hne : bytes ≠ []) (hend : endsMidEscape bytes = false)
    (empty : String) : receiveChunk empty link = .ok bytes after := by
  have hempty : bytes.isEmpty = false := List.isEmpty_eq_false_iff.2 hne
  rw [receiveChunk, h]
  simp only [hempty, hend, Bool.false_eq_true, if_false]

/-- One that does is held until the next came. -/
theorem receiveChunk_of_wait {link after : Link σ} {bytes : Bytes}
    (h : read link = .ok bytes after) (hend : endsMidEscape bytes = true) (empty : String) :
    receiveChunk empty link
      = match receiveChunk "Empty continuation" after with
        | .ok more last => .ok (bytes ++ more) last
        | .error cause last => .error cause last := by
  have hempty : bytes.isEmpty = false := by
    rw [List.isEmpty_eq_false_iff]
    rintro rfl
    cases hend
  rw [receiveChunk, h]
  cases hmore : receiveChunk "Empty continuation" after with
  | ok more last => simp only [hempty, hend, hmore, Bool.false_eq_true, if_true, if_false]
  | error cause last => simp only [hempty, hend, hmore, Bool.false_eq_true, if_true, if_false]

/-- A receiver that waits out a trailing escape takes a piece off the
front that can be read on its own. -/
theorem receiveChunk_queued {wire : Bytes} {rest : List Arrival} (hne : wire ≠ [])
    (hend : endsMidEscape wire = false) (empty : String) {link : Link σ}
    (h : Queued link wire rest) :
    ∃ piece left after, receiveChunk empty link = .ok piece after ∧ piece ≠ []
      ∧ endsMidEscape piece = false ∧ wire = piece ++ left ∧ Queued after left rest := by
  obtain ⟨piece, left, after, hread, hpiece, rfl, hafter⟩ := read_queued h hne
  by_cases hescape : endsMidEscape piece = true
  · -- the cut fell behind an escape, so the wire goes on
    have hleft : left ≠ [] := by
      rintro rfl
      rw [List.append_nil, hescape] at hend
      cases hend
    rw [Stuffing.endsMidEscape_append _ hleft] at hend
    have hlt : left.length < (piece ++ left).length := by
      rw [List.length_append]
      have := List.length_pos_iff.2 hpiece
      omega
    obtain ⟨more, left', last, hmore, hmore_ne, hmore_end, rfl, hlast⟩ :=
      receiveChunk_queued hleft hend "Empty continuation" hafter
    refine ⟨piece ++ more, left', last, ?_, ?_, ?_, (List.append_assoc ..).symm, hlast⟩
    · rw [receiveChunk_of_wait hread hescape, hmore]
    · exact fun h => hpiece (List.append_eq_nil_iff.1 h).1
    · rw [Stuffing.endsMidEscape_append _ hmore_ne]
      exact hmore_end
  · rw [Bool.not_eq_true] at hescape
    exact ⟨piece, left, after, receiveChunk_of_read hread hpiece hescape empty, hpiece, hescape,
      rfl, hafter⟩
  termination_by wire.length

-- ======================================================== one attempt

/-- How an attempt ends that took the bytes of a whole frame. -/
def verdict (parsed : Except FrameFailure Frame) (after : Link σ) :
    EStateM.Result Failure (Link σ) Frame :=
  match parsed with
  | .ok frame => .ok frame after
  | .error cause => .error (.frame cause) after

@[simp] theorem endState_verdict (parsed : Except FrameFailure Frame) (after : Link σ) :
    endState (verdict parsed after) = after := by
  cases parsed <;> rfl

/-- The length field is read off any prefix that holds it. -/
theorem announcedLength_prefix {raw : Array UInt8} {message : Bytes}
    (h : raw.toList <+: message) :
    Frame.announcedLength (raw.extract 0 5).toList
      = if raw.size < 5 then none else Frame.announcedLength message := by
  obtain ⟨more, rfl⟩ := h
  have hfive : (raw.extract 0 5).toList = raw.toList.take 5 := by
    rw [Array.toList_extract, List.extract_eq_take_drop]
    rfl
  rw [hfive]
  split
  · rename_i hlt
    apply Frame.announcedLength_of_lt
    rw [List.length_take, Array.length_toList]
    omega
  · rename_i hge
    have hlen : 5 ≤ (raw.toList.take 5).length := by
      rw [List.length_take, Array.length_toList]
      omega
    have hcut : raw.toList ++ more = raw.toList.take 5 ++ (raw.toList.drop 5 ++ more) := by
      rw [← List.append_assoc, List.take_append_drop]
    rw [hcut, Frame.announcedLength_append hlen]

theorem announcedLength_extract (raw : Array UInt8) :
    Frame.announcedLength (raw.extract 0 5).toList = Frame.announcedLength raw.toList := by
  have hfield := announcedLength_prefix (show raw.toList <+: raw.toList from List.prefix_rfl)
  rw [hfield]
  split
  · rename_i hfive
    exact (Frame.announcedLength_of_lt hfive).symm
  · rfl

theorem collect_of_error {raw : Array UInt8} {link after : Link σ} {cause : Failure}
    (h : receiveChunk "Empty response" link = .error cause after) :
    collect raw link = .error cause after := by
  rw [collect, show receiveOne link = _ from h]

/-- A message whose length field is right is read to its last byte and
no further. The invariant: what was read, and what the rest of the wire
reads as, make up the message. -/
theorem collect_queued {message : Bytes} (hhead : message.head? = some delimiter)
    (hlength : Frame.announcedLength message = some message.length) {wire : Bytes}
    {rest : List Arrival} (hpaired : Paired wire) (hne : wire ≠ []) {raw : Array UInt8}
    (hmessage : raw.toList ++ unstuff wire = message) {link : Link σ}
    (h : Queued link wire rest) :
    ∃ after, collect raw link = verdict (Frame.parse message link.mode) after
      ∧ Queued after [] rest := by
  obtain ⟨piece, left, after, hreceive, hpiece, hend, rfl, hafter⟩ :=
    receiveChunk_queued hne hpaired.endsMidEscape "Empty response" h
  have hmode : after.mode = link.mode := by
    have hs := steady_receiveChunk "Empty response" link
    rw [hreceive] at hs
    exact hs.mode
  obtain ⟨hpiece_paired, hleft_paired⟩ := hpaired.split hend
  have hread := hpiece_paired.unstuff_ne_nil hpiece
  rw [hpiece_paired.unstuff_append, ← List.append_assoc] at hmessage
  -- the bytes held after this piece
  generalize hraw' : raw.appendList (unstuff piece) = raw'
  have hheld : raw'.toList = raw.toList ++ unstuff piece := by
    rw [← hraw', Array.appendList_eq_append, Array.toList_appendList]
  rw [← hheld] at hmessage
  have hsize : raw'.size + (unstuff left).length = message.length := by
    rw [← hmessage, List.length_append]
    rfl
  have hfirst : raw'[0]? = some delimiter := by
    have hne : raw'.toList ≠ [] := by
      rw [hheld]
      exact fun h => hread (List.append_eq_nil_iff.1 h).2
    rw [← hmessage, List.head?_append, List.head?_eq_some_head hne] at hhead
    rw [← Array.getElem?_toList, ← List.head?_eq_getElem?, List.head?_eq_some_head hne]
    exact hhead
  have hann := announcedLength_prefix ⟨unstuff left, hmessage⟩
  have hfive : 5 ≤ message.length := by
    apply Nat.not_lt.1
    intro hlt
    rw [Frame.announcedLength_of_lt hlt] at hlength
    cases hlength
  rw [collect, show receiveOne link = _ from hreceive]
  dsimp only
  rw [hraw', if_neg (fun h => h hfirst), hann]
  by_cases hleft : left = []
  · -- the last byte came with this piece
    subst hleft
    rw [Stuffing.unstuff_nil, List.append_nil] at hmessage
    rw [Stuffing.unstuff_nil, List.length_nil] at hsize
    refine ⟨after, ?_, hafter⟩
    rw [if_neg (by omega), hlength]
    dsimp only
    rw [if_pos (by omega), hmessage, List.take_length, hmode]
    rfl
  · -- bytes of the message are still to come
    have hmore := List.length_pos_iff.2 (hleft_paired.unstuff_ne_nil hleft)
    have hlt : left.length < (piece ++ left).length := by
      rw [List.length_append]
      have := List.length_pos_iff.2 hpiece
      omega
    obtain ⟨last, hcollect, hlast⟩ :=
      collect_queued hhead hlength hleft_paired hleft hmessage hafter
    refine ⟨last, ?_, hlast⟩
    rw [← hmode, ← hcollect]
    split
    · rename_i length hsome
      split at hsome
      · cases hsome
      · rw [hlength] at hsome
        cases hsome
        rw [if_neg (by omega)]
    · rfl
  termination_by wire.length

/-- One attempt takes exactly the bytes of the message that comes next,
and ends in the verdict on it. -/
theorem receiveFrame_stuffed {message : Bytes} (hhead : message.head? = some delimiter)
    (hlength : Frame.announcedLength message = some message.length) {link : Link σ}
    {rest : List Arrival} (h : Queued link (Stuffing.stuff message) rest) :
    ∃ after, receiveFrame link = verdict (Frame.parse message link.mode) after
      ∧ Queued after [] rest ∧ Steady link after := by
  have hne : message ≠ [] := by
    rintro rfl
    cases hhead
  have hmessage : (#[] : Array UInt8).toList ++ unstuff (Stuffing.stuff message) = message := by
    rw [Stuffing.unstuff_stuff]
    rfl
  obtain ⟨after, hreceive, hafter⟩ :=
    collect_queued hhead hlength (Stuffing.paired_stuff message) (Stuffing.stuff_ne_nil hne)
      hmessage h
  have hs := steady_receiveFrame link
  rw [show receiveFrame link = _ from hreceive, endState_verdict] at hs
  exact ⟨after, hreceive, hafter, hs⟩

/-- A frame is such a message. -/
theorem receiveFrame_encode {f : Frame} (hlen : f.payload.length ≤ Frame.maxPayload)
    {link : Link σ} {rest : List Arrival} (h : Queued link f.encode rest) :
    ∃ after, receiveFrame link = verdict (Frame.parse f.toBytes link.mode) after
      ∧ Queued after [] rest ∧ Steady link after :=
  receiveFrame_stuffed f.head?_toBytes (Frame.announcedLength_toBytes hlen) h

/-- However the wire form of a frame is cut into chunks, and whatever
is queued behind it, one attempt at receiving answers the frame and
leaves what was behind it in the queue. -/
theorem receiveFrame_reassembles (kind : UInt8) {payload : Bytes}
    (hlen : payload.length ≤ Frame.maxPayload) (mode : ChecksumMode) :
    ∃ frame, Frame.build kind payload mode = .ok frame
      ∧ frame.kind = kind ∧ frame.payload = payload
      ∧ ∀ (chunks : List Bytes) (rest : List Arrival) (link : Link σ),
          (∀ chunk ∈ chunks, chunk ≠ []) → chunks.flatten = frame.encode →
          link.channel.connected = true → link.mode = mode →
          link.channel.arrivals = chunks.map .chunk ++ rest →
          ∃ after, receiveFrame link = .ok frame after
            ∧ after.channel.arrivals = rest ∧ Steady link after := by
  refine ⟨Frame.sealed kind payload mode, Frame.build_of_le hlen kind mode, rfl, rfl, ?_⟩
  intro chunks rest link hchunks hflat hconn hmode harr
  obtain ⟨after, hreceive, hafter, hs⟩ :=
    receiveFrame_encode (f := Frame.sealed kind payload mode) hlen
      ⟨hconn, chunks, hchunks, hflat, harr⟩
  rw [hmode, Frame.parse_toBytes_sealed hlen] at hreceive
  exact ⟨after, hreceive, hafter.arrivals, hs⟩

/-- A banner whose wire is cut inside a pair and at its checksum, with a
stray chunk and a silence behind it. -/
theorem receiveFrame_reassembles_cut_pair :
    ∃ frame after, Frame.build 0x81 [0x7E, 0x41] .crc = .ok frame
      ∧ receiveFrame
          (ofChannel
            { Channel.connect () with
              arrivals :=
                [.chunk [0x7E, 0x00, 0x81, 0x00, 0x02, 0x7D], .chunk [0x5E, 0x41],
                 .chunk [0x95], .chunk [0x52, 0x7E], .chunk [0x00], .silence] }
            .crc) = .ok frame after
      ∧ after.channel.arrivals = [.chunk [0x00], .silence] := by
  obtain ⟨frame, hbuild, -, -, hreceive⟩ :=
    receiveFrame_reassembles (σ := Unit) 0x81
      (show ([0x7E, 0x41] : Bytes).length ≤ Frame.maxPayload by decide) .crc
  have hwire : frame.encode
      = [0x7E, 0x00, 0x81, 0x00, 0x02, 0x7D, 0x5E, 0x41, 0x95, 0x52, 0x7E] := by
    cases hbuild
    decide +kernel
  obtain ⟨after, hafter, harr, -⟩ :=
    hreceive
      [[0x7E, 0x00, 0x81, 0x00, 0x02, 0x7D], [0x5E, 0x41], [0x95], [0x52, 0x7E]]
      [.chunk [0x00], .silence]
      (ofChannel
        { Channel.connect () with
          arrivals :=
            [.chunk [0x7E, 0x00, 0x81, 0x00, 0x02, 0x7D], .chunk [0x5E, 0x41],
             .chunk [0x95], .chunk [0x52, 0x7E], .chunk [0x00], .silence] }
        .crc)
      (by decide) hwire.symm rfl rfl rfl
  exact ⟨frame, after, hbuild, hafter, harr⟩

end Link

end FlashLink
