/-
Answers that come late, and answers taken for others.

A link is quiet when its queue holds nothing but idle arrivals. From
there an exchange ends in one of three ways, in whatever mode and
whether or not the device is still connected (`exchange_quiet`):

- the channel fails, and nothing is known of the queue;
- it fails otherwise, and the link is quiet again;
- it is answered, the answer is the device's own to this very request,
  and the link is quiet again.

So as long as the channel does not fail no answer is ever taken for
another. Once it failed that is over: with one answer left in the queue
every exchange is given the answer to the one before and leaves its own
(`exchange_stale`). Frames carry no number by which a host could tell.
-/
import FlashLink.Proofs.Device

namespace FlashLink

namespace Device

/-- A request in whatever mode is either not understood, and then
ignored, or answered as it would be in the device's own mode. -/
theorem answer_request_any (d : Device) (command : Command) {payload : Bytes}
    (hlen : payload.length ≤ Frame.maxPayload) (mode : ChecksumMode) {a : Answer} {d' : Device}
    (hrespond : d.respond command payload = (a, d')) :
    answer d (Link.request command payload mode) = ([], d)
      ∨ answer d (Link.request command payload mode)
        = (List.replicate a.stalls [] ++ cut d'.chunk (wireOf a.reply a.payload d.program.mode),
            d') := by
  have hne : Link.request command payload mode ≠ [Stuffing.delimiter] := Frame.encode_ne_probe _
  cases hparse : Frame.parse (Stuffing.unstuff (Link.request command payload mode))
      d.program.mode with
  | error cause =>
      left
      unfold answer
      dsimp only
      rw [if_neg hne, hparse]
  | ok frame =>
      right
      have hframe : frame = Frame.sealed command.code payload d.program.mode := by
        have hread := hparse
        rw [Link.request, Frame.unstuff_encode] at hread
        obtain ⟨rfl, hcheck⟩ := Frame.eq_of_parse_toBytes hlen hread
        rw [Frame.checksum_sealed, Frame.kind_sealed, Frame.payload_sealed] at hcheck
        unfold Frame.sealed
        rw [hcheck]
      subst hframe
      exact answer_of_parse hne hparse hrespond

end Device

namespace Link

variable {command : Command} {payload : Bytes} {policy : Policy} {link : Link Device}

-- ============================================================ quiet links

/-- How an exchange over a quiet link ends when the device would answer
`a` and be `d` afterwards. -/
inductive Quietly (link : Link Device) (a : Device.Answer) (d : Device) :
    EStateM.Result Failure (Link Device) Frame → Prop where
  /-- The channel failed. -/
  | severed (cause : ChannelFailure) (after : Link Device) :
      Quietly link a d (.error (.channel cause) after)
  /-- Something else did. -/
  | refused (cause : Failure) {after : Link Device} (quiet : Quiet after)
      (peer : after.channel.peer = link.channel.peer ∨ after.channel.peer = d) :
      Quietly link a d (.error cause after)
  /-- The device's own answer was received. -/
  | answered {f : Frame} {after : Link Device} (quiet : Quiet after)
      (peer : after.channel.peer = d) (reply : f.reply = Reply.ofCode a.reply.code)
      (payload : f.payload = a.payload) : Quietly link a d (.ok f after)

/-- The chunks of a reply are the bytes of its frame. -/
theorem queued_wire {link : Link Device} (hconn : link.channel.connected = true) (d : Device)
    {reply : Reply} {payload : Bytes} (hfits : payload.length ≤ Frame.maxPayload)
    {mode : ChecksumMode}
    (harr : link.channel.arrivals
      = (Device.cut d.chunk (Device.wireOf reply payload mode)).map Arrival.chunk) :
    Queued link (Frame.sealed reply.code payload mode).encode [] := by
  refine ⟨hconn, Device.cut d.chunk (Device.wireOf reply payload mode),
    Device.ne_nil_of_mem_cut _ _, ?_, by rw [harr, List.append_nil]⟩
  rw [Device.flatten_cut d.chunk_pos, Device.wireOf_of_le hfits]

theorem judge_quiet {a : Device.Answer} {d : Device} {f : Frame} {after : Link Device}
    (hquiet : Quiet after) (hpeer : after.channel.peer = d)
    (hreply : f.reply = Reply.ofCode a.reply.code) (hpayload : f.payload = a.payload) :
    Quietly link a d (judge command policy f after) := by
  cases haccept : policy.accepts f.reply with
  | true =>
      rw [judge_of_accepts haccept]
      exact .answered hquiet hpeer hreply hpayload
  | false =>
      rw [judge_of_refused haccept]
      exact .refused _ hquiet (.inr hpeer)

/-- A reply behind idle arrivals is received, or refused, or not
reached. -/
theorem exchange_behind_idle {a : Device.Answer} {d : Device}
    (hlen : payload.length ≤ Frame.maxPayload) (hconn : link.channel.connected = true)
    (hreply : a.payload.length ≤ Frame.maxPayload) {entries : List Arrival}
    (hidle : ∀ b ∈ entries, b.Idle) {mode : ChecksumMode}
    (harr : (link.wrote (request command payload link.mode)).channel.arrivals
      = entries ++ (Device.cut d.chunk (Device.wireOf a.reply a.payload mode)).map Arrival.chunk)
    (hpeer : (link.wrote (request command payload link.mode)).channel.peer = d) :
    Quietly link a d (exchange command payload policy link) := by
  by_cases hspare : entries.length ≤ policy.attempts - 1
  · obtain ⟨mid, hagain, hmid, hs⟩ := receiveAgain_idle hidle hspare (by exact hconn) harr
    obtain ⟨after, hempty, hs', hframe⟩ :=
      receiveAgain_encode hreply (queued_wire (hs.connected.trans hconn) d hreply hmid)
        (policy.attempts - 1 - entries.length)
    have hafter : after.channel.peer = d := by
      rw [hs'.peer, hs.peer, hpeer]
    rw [exchange_eq hlen hconn]
    unfold receive
    rw [hagain]
    rcases hframe with hframe | ⟨cause, hframe⟩
    · rw [hframe]
      exact judge_quiet (.of_empty hempty) hafter rfl rfl
    · rw [hframe]
      exact .refused _ (.of_empty hempty) (.inr hafter)
  · obtain ⟨cause, after, hexchange, -, -⟩ :=
      exchange_of_idle hlen hconn hidle (Nat.lt_of_not_le hspare) harr
    rw [hexchange]
    exact .severed _ _

/-- An exchange over a quiet link is answered by the device itself, or
fails. -/
theorem exchange_quiet (hquiet : Quiet link) (command : Command) (payload : Bytes)
    (policy : Policy) {a : Device.Answer} {d : Device}
    (hrespond : link.channel.peer.respond command payload = (a, d)) :
    Quietly link a d (exchange command payload policy link) := by
  by_cases hlong : Frame.maxPayload < payload.length
  · rw [exchange_of_long hlong]
    exact .refused _ hquiet (.inl rfl)
  have hlen : payload.length ≤ Frame.maxPayload := Nat.le_of_not_lt hlong
  cases hconn : link.channel.connected with
  | false =>
      rw [exchange_of_disconnected hlen hconn]
      exact .severed _ _
  | true =>
      rcases Device.answer_request_any link.channel.peer command hlen link.mode hrespond
        with hnone | hsome
      · have hsevered : ∃ cause after,
            exchange command payload policy link = .error (.channel cause) after := by
          refine exchange_of_only_idle hlen hconn ?_
          rw [arrivals_wrote, show Peer.answer _ _ = _ from hnone, List.map_nil, List.append_nil]
          exact hquiet
        obtain ⟨cause, after, hexchange⟩ := hsevered
        rw [hexchange]
        exact .severed _ _
      · have harr := arrivals_answered hsome
        have hidle := hquiet.idle_before_answer a.stalls
        by_cases hreply : a.payload.length ≤ Frame.maxPayload
        · refine exchange_behind_idle hlen hconn hreply hidle harr ?_
          rw [peer_wrote, show Peer.answer _ _ = _ from hsome]
        · -- such a reply fits no frame, so nothing comes
          have hwire : Device.wireOf a.reply a.payload link.channel.peer.program.mode = [] := by
            unfold Device.wireOf Frame.build
            rw [if_pos (Nat.lt_of_not_le hreply)]
          rw [hwire, Device.cut_nil, List.map_nil, List.append_nil] at harr
          have hsevered : ∃ cause after,
              exchange command payload policy link = .error (.channel cause) after := by
            refine exchange_of_only_idle hlen hconn ?_
            rw [harr]
            exact hidle
          obtain ⟨cause, after, hexchange⟩ := hsevered
          rw [hexchange]
          exact .severed _ _

-- ============================================================ stale links

/-- Behind one answer an exchange is given that answer, and leaves its
own in its place. -/
theorem exchange_stale (hlen : payload.length ≤ Frame.maxPayload)
    (hmode : link.mode = link.channel.peer.program.mode) {f : Frame}
    (hfits : f.payload.length ≤ Frame.maxPayload)
    (hcheck : f.checksum = link.mode.checksum (Frame.body f.kind f.payload))
    (hqueued : Queued link f.encode []) {a : Device.Answer} {d : Device}
    (hrespond : link.channel.peer.respond command payload = (a, d)) (hstalls : a.stalls = 0)
    (hreply : a.payload.length ≤ Frame.maxPayload) :
    ∃ after, exchange command payload policy link = judge command policy f after
      ∧ Queued after (Frame.sealed a.reply.code a.payload link.mode).encode []
      ∧ after.mode = link.mode ∧ after.channel.peer = d := by
  obtain ⟨hconn, chunks, hchunks, hflat, harr⟩ := hqueued
  have hanswer : Peer.answer link.channel.peer (request command payload link.mode)
      = (Device.cut d.chunk (Device.wireOf a.reply a.payload link.mode), d) := by
    have := Device.answer_request hlen hrespond
    rw [hstalls, ← hmode] at this
    exact this
  have hwrote : (link.wrote (request command payload link.mode)).channel.arrivals
      = [] ++ (chunks.map Arrival.chunk
        ++ (Device.cut d.chunk (Device.wireOf a.reply a.payload link.mode)).map .chunk) := by
    rw [arrivals_wrote, hanswer, harr, List.append_nil]
    rfl
  obtain ⟨after, hexchange, hafter, hs⟩ :=
    exchange_of_frame hlen hconn hfits hcheck hchunks hflat (fun _ h => by cases h)
      (Nat.zero_le _) hwrote
  refine ⟨after, hexchange, queued_wire (hs.connected.trans hconn) d hreply hafter, hs.mode, ?_⟩
  rw [hs.peer, peer_wrote, hanswer]

end Link

end FlashLink
