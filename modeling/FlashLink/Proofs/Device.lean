/-
What a simulated device puts into the queue.

Whatever is written to it, a device answers with so many empty reads
and then with the wire of at most one frame, cut into chunks none of
which is empty (`answer_shape`). Only the start of the second loader is
answered behind empty reads, and only by the first loader. A frame in
the mode of the device's program is answered with what `serve` says of
its kind and payload (`answer_request`); a frame in the other mode is
answered only if both checksums of it agree.

`exchange_device` puts this together with the host's side: with nothing
but idle arrivals in the queue, and attempts to spare for them and for
the empty reads, the reply judged is the device's own answer, and the
queue is empty afterwards.
-/
import FlashLink.Device
import FlashLink.Proofs.Exchange

namespace FlashLink

open Stuffing (delimiter unstuff)

namespace Device

-- ======================================================== cut and whole

theorem flatten_cutOnto {size : Nat} (hpos : 0 < size) (done : Array Bytes) (bytes : Bytes) :
    (cutOnto size done bytes).toList.flatten = done.toList.flatten ++ bytes := by
  induction done, bytes using cutOnto.induct size with
  | case1 done bytes h =>
      have hnil : bytes = [] := by
        simpa [Nat.ne_of_gt hpos] using h
      rw [cutOnto, if_pos h, hnil, List.append_nil]
  | case2 done bytes h ih =>
      rw [cutOnto, if_neg h, ih, Array.toList_push, List.flatten_append,
        List.flatten_singleton, List.append_assoc, List.take_append_drop]

/-- The chunks make up the bytes. -/
theorem flatten_cut {size : Nat} (hpos : 0 < size) (bytes : Bytes) :
    (cut size bytes).flatten = bytes :=
  flatten_cutOnto hpos #[] bytes

theorem ne_nil_of_mem_cutOnto {size : Nat} {done : Array Bytes} {bytes : Bytes}
    (hdone : ∀ chunk ∈ done.toList, chunk ≠ []) :
    ∀ chunk ∈ (cutOnto size done bytes).toList, chunk ≠ [] := by
  induction done, bytes using cutOnto.induct size with
  | case1 done bytes h =>
      rw [cutOnto, if_pos h]
      exact hdone
  | case2 done bytes h ih =>
      rw [cutOnto, if_neg h]
      apply ih
      intro chunk hchunk
      rw [Array.toList_push, List.mem_append, List.mem_singleton] at hchunk
      rcases hchunk with hchunk | rfl
      · exact hdone chunk hchunk
      · simp only [Bool.or_eq_true, List.isEmpty_iff, decide_eq_true_eq, not_or] at h
        intro hnil
        rcases List.take_eq_nil_iff.1 hnil with hsize | hbytes
        · exact h.2 hsize
        · exact h.1 hbytes

/-- No chunk is empty. -/
theorem ne_nil_of_mem_cut (size : Nat) (bytes : Bytes) :
    ∀ chunk ∈ cut size bytes, chunk ≠ [] :=
  ne_nil_of_mem_cutOnto (by simp)

theorem cut_nil (size : Nat) : cut size [] = [] := by
  unfold cut
  rw [cutOnto]
  rfl

/-- Chunks that carry one frame, or none at all. -/
def Whole (chunks : List Bytes) : Prop :=
  chunks = [] ∨ ((∀ chunk ∈ chunks, chunk ≠ [])
    ∧ ∃ f : Frame, f.payload.length ≤ Frame.maxPayload ∧ chunks.flatten = f.encode)

theorem wireOf_of_le {payload : Bytes} (hlen : payload.length ≤ Frame.maxPayload)
    (reply : Reply) (mode : ChecksumMode) :
    wireOf reply payload mode = (Frame.sealed reply.code payload mode).encode := by
  unfold wireOf
  rw [Frame.build_of_le hlen]

theorem whole_cut {size : Nat} (hpos : 0 < size) (reply : Reply) (payload : Bytes)
    (mode : ChecksumMode) : Whole (cut size (wireOf reply payload mode)) := by
  by_cases hlen : payload.length ≤ Frame.maxPayload
  · refine .inr ⟨ne_nil_of_mem_cut _ _, Frame.sealed reply.code payload mode, hlen, ?_⟩
    rw [flatten_cut hpos, wireOf_of_le hlen]
  · left
    unfold wireOf Frame.build
    rw [if_pos (by omega)]
    exact cut_nil size

-- ========================================================== the banner

/-- What a device sends that shows its banner. -/
def greeting (d : Device) : List Bytes :=
  cut d.chunk (wireOf .version (banner d.program) d.program.mode)

/-- The frame of a banner. -/
def bannerFrame (d : Device) : Frame :=
  Frame.sealed Reply.version.code (banner d.program) d.program.mode

theorem length_banner_le (d : Device) : d.bannerFrame.payload.length ≤ Frame.maxPayload := by
  show (banner d.program).length ≤ Frame.maxPayload
  cases d.program <;> decide +kernel

theorem flatten_greeting (d : Device) : d.greeting.flatten = d.bannerFrame.encode := by
  unfold greeting
  rw [flatten_cut d.chunk_pos]
  exact wireOf_of_le d.length_banner_le _ _

theorem ne_nil_of_mem_greeting (d : Device) : ∀ chunk ∈ d.greeting, chunk ≠ [] :=
  ne_nil_of_mem_cut _ _

-- ============================================================= serving

/-- A command found by a code has that code. -/
theorem code_of_ofCode? {code : UInt8} {command : Command}
    (h : Command.ofCode? code = some command) : command.code = code := by
  simpa using List.find?_some h

theorem stalls_startData (d : Device) (payload : Bytes) :
    (d.startData payload).2.stalls = d.stalls := by
  unfold startData
  split
  · split
    · rfl
    · split <;> rfl
  · split <;> rfl

theorem stalls_takePiece (d : Device) (payload : Bytes) :
    (d.takePiece payload).2.stalls = d.stalls := by
  unfold takePiece
  dsimp only
  split
  · rfl
  · split <;> rfl

/-- Starting an image changes no stall, and only the first loader
answers behind them. -/
theorem stalls_exec (d : Device) :
    d.exec.2.stalls = d.stalls
      ∧ (d.exec.1.stalls = 0 ∨ (d.exec.1.stalls = d.stalls ∧ d.program = .first)) := by
  unfold exec
  split
  · exact ⟨by split <;> rfl, .inl rfl⟩
  · rename_i hfirst
    exact ⟨rfl, .inr ⟨rfl, hfirst⟩⟩
  · exact ⟨rfl, .inl rfl⟩

/-- Only the start of the second loader is answered late. -/
theorem stalls_serve (d : Device) (frame : Frame) :
    (d.serve frame).2.stalls = d.stalls
      ∧ ((d.serve frame).1.stalls = 0
        ∨ ((d.serve frame).1.stalls = d.stalls ∧ d.program = .first
          ∧ frame.kind = Command.execData.code)) := by
  unfold serve
  cases hkind : Command.ofCode? frame.kind with
  | none => exact ⟨rfl, .inl rfl⟩
  | some command =>
      cases command with
      | startData => exact ⟨stalls_startData _ _, .inl rfl⟩
      | midstData => exact ⟨stalls_takePiece _ _, .inl rfl⟩
      | execData =>
          obtain ⟨hsnd, hfst⟩ := stalls_exec d
          refine ⟨hsnd, hfst.imp_right fun h => ?_⟩
          exact ⟨h.1, h.2, (code_of_ofCode? hkind).symm⟩
      | readFlashStart =>
          dsimp only
          cases PartitionRequest.ofBytes frame.payload <;> exact ⟨rfl, .inl rfl⟩
      | readFlashMidst =>
          dsimp only
          cases ReadRequest.ofBytes frame.payload <;> exact ⟨rfl, .inl rfl⟩
      | _ => exact ⟨rfl, .inl rfl⟩

-- =========================================================== answering

/-- The answer to a frame that the device can read. -/
theorem answer_of_parse {d : Device} {wire : Bytes} (hne : wire ≠ [delimiter]) {frame : Frame}
    (hparse : Frame.parse (unstuff wire) d.program.mode = .ok frame) {a : Answer} {d' : Device}
    (hserve : { d with commands := d.commands.push frame.kind }.serve frame = (a, d')) :
    answer d wire
      = (List.replicate a.stalls [] ++ cut d'.chunk (wireOf a.reply a.payload d.program.mode),
          d') := by
  unfold answer
  dsimp only
  rw [if_neg hne, hparse]
  dsimp only
  rw [hserve]

/-- The answer to a command that the device can read, and the device
after it. -/
def respond (d : Device) (command : Command) (payload : Bytes) : Answer × Device :=
  { d with commands := d.commands.push command.code }.serve
    (Frame.sealed command.code payload d.program.mode)

/-- A request in the mode of the device's program is served. -/
theorem answer_request {d : Device} {command : Command} {payload : Bytes}
    (hlen : payload.length ≤ Frame.maxPayload) {a : Answer} {d' : Device}
    (hrespond : d.respond command payload = (a, d')) :
    answer d (Link.request command payload d.program.mode)
      = (List.replicate a.stalls [] ++ cut d'.chunk (wireOf a.reply a.payload d.program.mode),
          d') := by
  refine answer_of_parse (Frame.encode_ne_probe _) ?_ hrespond
  rw [Frame.unstuff_encode, Frame.parse_toBytes_sealed hlen]

/-- Whatever is written, the answer is so many empty reads and then at
most one frame; there are empty reads only where the first loader was
told to start the second. -/
theorem answer_shape (d : Device) (wire : Bytes) :
    ∃ stalls chunks, (answer d wire).1 = List.replicate stalls [] ++ chunks
      ∧ Whole chunks ∧ (answer d wire).2.stalls = d.stalls
      ∧ (stalls = 0 ∨ (stalls = d.stalls ∧ d.program = .first
        ∧ ∃ frame, Frame.parse (unstuff wire) d.program.mode = .ok frame
          ∧ frame.kind = Command.execData.code)) := by
  by_cases hprobe : wire = [delimiter]
  · unfold answer
    dsimp only
    rw [if_pos hprobe]
    refine ⟨0, if d.silentProbe then []
      else cut d.chunk (wireOf .version (banner d.program) d.program.mode), rfl, ?_, rfl, .inl rfl⟩
    split
    · exact .inl rfl
    · exact whole_cut d.chunk_pos _ _ _
  · cases hparse : Frame.parse (unstuff wire) d.program.mode with
    | error cause =>
        unfold answer
        dsimp only
        rw [if_neg hprobe, hparse]
        exact ⟨0, [], rfl, .inl rfl, rfl, .inl rfl⟩
    | ok frame =>
        obtain ⟨hsnd, hfst⟩ :=
          stalls_serve { d with commands := d.commands.push frame.kind } frame
        rw [answer_of_parse hprobe hparse rfl]
        refine ⟨_, _, rfl, whole_cut (Device.chunk_pos _) _ _ _, hsnd, hfst.imp_right fun h => ?_⟩
        exact ⟨h.1, h.2.1, frame, rfl, h.2.2⟩

end Device

namespace Link

/-- A banner that comes next is received in the mode of its program. -/
theorem receiveFrame_greeting {σ : Type} {d : Device} {link : Link σ}
    (hconn : link.channel.connected = true) (hmode : link.mode = d.program.mode)
    {rest : List Arrival} (harr : link.channel.arrivals = d.greeting.map .chunk ++ rest) :
    ∃ after, receiveFrame link = .ok d.bannerFrame after
      ∧ after.channel.arrivals = rest ∧ Steady link after := by
  have hcheck : d.bannerFrame.checksum
      = link.mode.checksum (Frame.body d.bannerFrame.kind d.bannerFrame.payload) := by
    rw [hmode]
    rfl
  exact receiveAgain_frame d.length_banner_le hcheck
    ⟨hconn, d.greeting, d.ne_nil_of_mem_greeting, d.flatten_greeting, harr⟩ 0

-- ============================================ an exchange with a device

/-- A connected link in the mode of the program behind it. -/
structure Attuned (link : Link Device) : Prop where
  connected : link.channel.connected = true
  mode : link.mode = link.channel.peer.program.mode

/-- After some requests, sent and answered: the device is `d` and
nothing is left in the queue. -/
structure Served (link after : Link Device) (requests : List (Command × Bytes)) (d : Device) :
    Prop where
  mode : after.mode = link.mode
  connected : after.channel.connected = link.channel.connected
  empty : after.channel.arrivals = []
  peer : after.channel.peer = d
  sent : after.channel.sent
    = link.channel.sent ++ requests.map fun r => request r.1 r.2 link.mode

namespace Served

variable {a b c : Link Device} {d d' : Device} {requests more : List (Command × Bytes)}

theorem refl (h : a.channel.arrivals = []) : Served a a [] a.channel.peer :=
  ⟨rfl, rfl, h, rfl, (List.append_nil _).symm⟩

theorem trans (h : Served a b requests d) (h' : Served b c more d') :
    Served a c (requests ++ more) d' where
  mode := h'.mode.trans h.mode
  connected := h'.connected.trans h.connected
  empty := h'.empty
  peer := h'.peer
  sent := by rw [h'.sent, h.sent, h.mode, List.map_append, List.append_assoc]

theorem attuned (h : Served a b requests d) (ha : Attuned a)
    (hprogram : d.program.mode = a.channel.peer.program.mode) : Attuned b :=
  ⟨h.connected.trans ha.connected, by rw [h.mode, h.peer, hprogram, ha.mode]⟩

end Served

section

variable {command : Command} {payload : Bytes} {policy : Policy} {link : Link Device}
  {a : Device.Answer} {d : Device}

/-- The queue after a request that is answered: empty reads, and then
the reply. -/
theorem arrivals_answered {mode : ChecksumMode}
    (hanswer : Peer.answer link.channel.peer (request command payload link.mode)
      = (List.replicate a.stalls []
          ++ Device.cut d.chunk (Device.wireOf a.reply a.payload mode), d)) :
    (link.wrote (request command payload link.mode)).channel.arrivals
      = (link.channel.arrivals ++ List.replicate a.stalls (.chunk []))
        ++ (Device.cut d.chunk (Device.wireOf a.reply a.payload mode)).map .chunk := by
  rw [arrivals_wrote, hanswer]
  simp

theorem Quiet.idle_before_answer (h : Quiet link) (stalls : Nat) :
    ∀ b ∈ link.channel.arrivals ++ List.replicate stalls (.chunk []), b.Idle := by
  intro b hb
  rcases List.mem_append.1 hb with hb | hb
  · exact h b hb
  · exact Arrival.idle_of_mem_replicate (a := .chunk []) rfl hb

/-- With nothing in the queue but idle arrivals, and attempts to spare
for all that is idle, the reply judged is the device's own answer and
the last thing in the queue. -/
theorem exchange_device (hlen : payload.length ≤ Frame.maxPayload) (hlink : Attuned link)
    (hrespond : link.channel.peer.respond command payload = (a, d))
    (hreply : a.payload.length ≤ Frame.maxPayload) (hquiet : Quiet link)
    (hspare : link.channel.arrivals.length + a.stalls ≤ policy.attempts - 1) :
    ∃ f after, exchange command payload policy link = judge command policy f after
      ∧ f.reply = Reply.ofCode a.reply.code ∧ f.payload = a.payload
      ∧ Served link after [(command, payload)] d := by
  have hanswer : Peer.answer link.channel.peer (request command payload link.mode)
      = (List.replicate a.stalls []
          ++ Device.cut d.chunk (Device.wireOf a.reply a.payload link.mode), d) := by
    rw [hlink.mode]
    exact Device.answer_request hlen hrespond
  have harr := arrivals_answered hanswer
  rw [← List.append_nil ((Device.cut _ _).map Arrival.chunk)] at harr
  obtain ⟨after, hexchange, hafter, hs⟩ :=
    exchange_of_frame (f := Frame.sealed a.reply.code a.payload link.mode) hlen hlink.connected
      hreply rfl (Device.ne_nil_of_mem_cut _ _)
      (by rw [Device.flatten_cut d.chunk_pos, Device.wireOf_of_le hreply])
      (hquiet.idle_before_answer a.stalls)
      (by rw [List.length_append, List.length_replicate]; exact hspare) harr
  refine ⟨_, after, hexchange, rfl, rfl, hs.mode, hs.connected, hafter, ?_, ?_⟩
  · rw [hs.peer, peer_wrote, hanswer]
  · rw [hs.sent, sent_wrote]
    rfl

/-- An answer in time that the policy accepts, over an empty queue. -/
theorem exchange_accepted (hlen : payload.length ≤ Frame.maxPayload) (hlink : Attuned link)
    (hempty : link.channel.arrivals = [])
    (hrespond : link.channel.peer.respond command payload = (a, d))
    (hplain : a.payload = []) (hstalls : a.stalls ≤ policy.attempts - 1)
    (haccept : policy.accepts (Reply.ofCode a.reply.code) = true) :
    ∃ f after, exchange command payload policy link = .ok f after
      ∧ f.reply = Reply.ofCode a.reply.code ∧ Served link after [(command, payload)] d := by
  obtain ⟨f, after, hexchange, hreply, -, hserved⟩ :=
    exchange_device hlen hlink hrespond (by rw [hplain]; exact Nat.zero_le _)
      (.of_empty hempty) (by rw [hempty, List.length_nil, Nat.zero_add]; exact hstalls)
  rw [judge_of_accepts (by rw [hreply]; exact haccept)] at hexchange
  exact ⟨f, after, hexchange, hreply, hserved⟩

/-- One that it does not. -/
theorem exchange_refused (hlen : payload.length ≤ Frame.maxPayload) (hlink : Attuned link)
    (hempty : link.channel.arrivals = [])
    (hrespond : link.channel.peer.respond command payload = (a, d))
    (hplain : a.payload = []) (hstalls : a.stalls ≤ policy.attempts - 1)
    (hrefuse : policy.accepts (Reply.ofCode a.reply.code) = false) :
    ∃ after, exchange command payload policy link
        = .error (.protocol (.unexpectedReply command policy.expected
            (Reply.ofCode a.reply.code))) after
      ∧ Served link after [(command, payload)] d := by
  obtain ⟨f, after, hexchange, hreply, -, hserved⟩ :=
    exchange_device hlen hlink hrespond (by rw [hplain]; exact Nat.zero_le _)
      (.of_empty hempty) (by rw [hempty, List.length_nil, Nat.zero_add]; exact hstalls)
  rw [judge_of_refused (by rw [hreply]; exact hrefuse), hreply] at hexchange
  exact ⟨after, hexchange, hserved⟩

/-- One that comes too late. -/
theorem exchange_late (hlen : payload.length ≤ Frame.maxPayload) (hlink : Attuned link)
    (hempty : link.channel.arrivals = [])
    (hrespond : link.channel.peer.respond command payload = (a, d))
    (hstalls : policy.attempts - 1 < a.stalls) :
    ∃ cause after, exchange command payload policy link = .error (.channel cause) after := by
  have hanswer : Peer.answer link.channel.peer (request command payload link.mode)
      = (List.replicate a.stalls []
          ++ Device.cut d.chunk (Device.wireOf a.reply a.payload link.mode), d) := by
    rw [hlink.mode]
    exact Device.answer_request hlen hrespond
  have harr := arrivals_answered hanswer
  rw [hempty, List.nil_append] at harr
  have hidle : ∀ b ∈ List.replicate a.stalls (Arrival.chunk []), b.Idle :=
    fun b hb => Arrival.idle_of_mem_replicate (a := .chunk []) rfl hb
  obtain ⟨cause, after, hexchange, -, -⟩ :=
    exchange_of_idle hlen hlink.connected hidle (by rw [List.length_replicate]; exact hstalls) harr
  exact ⟨cause, after, hexchange⟩

end

/-- A device that cannot read a request does not answer it. -/
theorem exchange_unread {command : Command} {payload : Bytes} (policy : Policy)
    {link : Link Device} (hlen : payload.length ≤ Frame.maxPayload)
    (hconn : link.channel.connected = true) (hempty : link.channel.arrivals = [])
    (hcheck : link.mode.checksum (Frame.body command.code payload)
      ≠ link.channel.peer.program.mode.checksum (Frame.body command.code payload)) :
    ∃ cause after, exchange command payload policy link = .error (.channel cause) after := by
  have hanswer : Device.answer link.channel.peer (request command payload link.mode)
      = ([], link.channel.peer) := by
    have hne : request command payload link.mode ≠ [delimiter] := Frame.encode_ne_probe _
    cases hparse : Frame.parse (unstuff (request command payload link.mode))
        link.channel.peer.program.mode with
    | error cause =>
        unfold Device.answer
        dsimp only
        rw [if_neg hne, hparse]
    | ok frame =>
        rw [request, Frame.unstuff_encode] at hparse
        obtain ⟨rfl, hagree⟩ := Frame.eq_of_parse_toBytes hlen hparse
        exact absurd hagree hcheck
  apply exchange_of_only_idle hlen hconn
  intro b hb
  have harr : (link.wrote (request command payload link.mode)).channel.arrivals
      = []
        ++ (Device.answer link.channel.peer (request command payload link.mode)).1.map .chunk := by
    rw [arrivals_wrote, hempty]
    rfl
  rw [harr, hanswer] at hb
  cases hb

end Link

end FlashLink
