/-
One request and its reply, whatever stands in the queue.

A write hands the bytes to the device, whose answer joins the queue at
once; `wrote` is the link after it. Receiving then works through the
queue from the front, as `Attempts` has it. So the queue decides an
exchange before the device does: the reply judged is the first that
parses behind as many misfires as the policy has attempts to spare, and
with fewer attempts the exchange fails and leaves what it did not reach
(`exchange_retries`).

A queue without a frame in it holds misfires of one arrival each, the
idle ones: silences and empty chunks. For these the same is said arrival
by arrival (`exchange_of_frame`, `exchange_of_idle`).

Nothing here says that the first frame is the answer to this request;
who may conclude that has to know the queue.
-/
import FlashLink.Proofs.Attempts

namespace FlashLink

open Stuffing (delimiter)

variable {σ : Type}

/-- An arrival that costs an attempt and brings nothing. -/
def Arrival.Idle : Arrival → Prop
  | .silence => True
  | .chunk bytes => bytes = []

theorem Arrival.idle_of_mem_replicate {a b : Arrival} (ha : a.Idle) {n : Nat}
    (hb : b ∈ List.replicate n a) : b.Idle := by
  rw [List.eq_of_mem_replicate hb]
  exact ha

/-- How an attempt fails that finds an idle arrival. -/
def Arrival.complaint : Arrival → ChannelFailure
  | .silence => .timeout Channel.readTimeout
  | .chunk _ => .readFailed "Empty response"

theorem Arrival.Idle.misfire {a : Arrival} (ha : a.Idle) (mode : ChecksumMode) :
    Link.Misfire mode [a] (.channel a.complaint) := by
  cases a with
  | silence => exact .silence
  | chunk bytes =>
      have hbytes : bytes = [] := ha
      rw [hbytes]
      exact .empty

/-- A policy accepts the expected reply and those tolerated in its
place. -/
theorem Policy.accepts_iff {policy : Policy} {reply : Reply} :
    policy.accepts reply = true ↔ reply = policy.expected ∨ reply ∈ policy.tolerated := by
  simp [Policy.accepts]

theorem Policy.accepts_ack {reply : Reply} : Policy.ack.accepts reply = true ↔ reply = .ack := by
  simp [Policy.accepts, Policy.ack, Policy.expect]

namespace Link

/-- Nothing but idle arrivals in the queue. -/
def Quiet (link : Link σ) : Prop := ∀ a ∈ link.channel.arrivals, a.Idle

theorem Quiet.of_empty {link : Link σ} (h : link.channel.arrivals = []) : Quiet link := by
  intro a ha
  rw [h] at ha
  cases ha

theorem Quiet.of_silences {link : Link σ} {n : Nat}
    (h : link.channel.arrivals = List.replicate n .silence) : Quiet link := by
  intro a ha
  rw [h] at ha
  exact Arrival.idle_of_mem_replicate (a := .silence) trivial ha

-- ============================================================= writing

/-- A connected link after a write. -/
def wrote [Peer σ] (bytes : Bytes) (link : Link σ) : Link σ :=
  { link with
    channel :=
      { link.channel with
        arrivals :=
          link.channel.arrivals ++ (Peer.answer link.channel.peer bytes).1.map .chunk
        traffic := link.channel.traffic.push (.sent bytes)
        peer := (Peer.answer link.channel.peer bytes).2 }
    events := link.audience.hear link.events (.ofPacket .tx bytes) }

section

variable [Peer σ] (bytes : Bytes) (link : Link σ)

@[simp] theorem mode_wrote : (link.wrote bytes).mode = link.mode := rfl

@[simp] theorem audience_wrote : (link.wrote bytes).audience = link.audience := rfl

@[simp] theorem connected_wrote :
    (link.wrote bytes).channel.connected = link.channel.connected := rfl

@[simp] theorem arrivals_wrote :
    (link.wrote bytes).channel.arrivals
      = link.channel.arrivals ++ (Peer.answer link.channel.peer bytes).1.map .chunk := rfl

@[simp] theorem peer_wrote :
    (link.wrote bytes).channel.peer = (Peer.answer link.channel.peer bytes).2 := rfl

@[simp] theorem sent_wrote :
    (link.wrote bytes).channel.sent = link.channel.sent ++ [bytes] := by
  simp [wrote, Channel.sent]

variable {link}

theorem write_of_connected (hconn : link.channel.connected = true) :
    write bytes link = .ok () (link.wrote bytes) := by
  unfold write Channel.write
  rw [if_pos hconn]
  rfl

theorem write_of_disconnected (hconn : link.channel.connected = false) :
    write bytes link = .error (.channel .disconnected) link := by
  unfold write Channel.write
  rw [hconn]
  rfl

end

-- ===================================================== idle attempts

/-- Idle arrivals as misfires, each of one arrival. -/
def idleUnits (entries : List Arrival) : List (List Arrival × Failure) :=
  entries.map fun a => ([a], .channel a.complaint)

@[simp] theorem length_idleUnits (entries : List Arrival) :
    (idleUnits entries).length = entries.length := List.length_map _

@[simp] theorem flatMap_idleUnits (entries : List Arrival) :
    (idleUnits entries).flatMap Prod.fst = entries := by
  simp [idleUnits, List.flatMap_map]

theorem misfire_of_mem_idleUnits {entries : List Arrival} (hidle : ∀ a ∈ entries, a.Idle)
    (mode : ChecksumMode) : ∀ u ∈ idleUnits entries, Misfire mode u.1 u.2 := by
  intro u hu
  obtain ⟨a, ha, rfl⟩ := List.mem_map.1 hu
  exact (hidle a ha).misfire mode

/-- Nothing is received where nothing can come, and nothing changes. -/
theorem receiveFrame_nil {link : Link σ}
    (h : link.channel.connected = true → link.channel.arrivals = []) :
    ∃ cause, receiveFrame link = .error (.channel cause) link := by
  cases hconn : link.channel.connected with
  | true =>
      refine ⟨.timeout Channel.readTimeout, receiveFrame_of_read_error ?_⟩
      unfold read Channel.read
      rw [if_pos hconn, h hconn]
  | false =>
      refine ⟨.disconnected, receiveFrame_of_read_error ?_⟩
      unfold read Channel.read
      rw [hconn]
      rfl

/-- No number of attempts receives anything where nothing can come. -/
theorem receiveAgain_nil {link : Link σ}
    (h : link.channel.connected = true → link.channel.arrivals = []) (more : Nat) :
    ∃ cause, receiveAgain more link = .error (.channel cause) link := by
  obtain ⟨cause, hreceive⟩ := receiveFrame_nil h
  induction more with
  | zero => exact ⟨cause, hreceive⟩
  | succ more ih =>
      obtain ⟨cause', hagain⟩ := ih
      exact ⟨cause', (receiveAgain_of_error hreceive rfl more).trans hagain⟩

/-- Attempts are repeated past idle arrivals, one for each. -/
theorem receiveAgain_idle {entries rest : List Arrival} (hidle : ∀ a ∈ entries, a.Idle)
    {more : Nat} (hlen : entries.length ≤ more) {link : Link σ}
    (hconn : link.channel.connected = true)
    (harr : link.channel.arrivals = entries ++ rest) :
    ∃ after, receiveAgain more link = receiveAgain (more - entries.length) after
      ∧ after.channel.arrivals = rest ∧ Steady link after := by
  rw [← flatMap_idleUnits entries] at harr
  rw [← length_idleUnits entries] at hlen ⊢
  exact receiveAgain_misfires hlen hconn (misfire_of_mem_idleUnits hidle _) harr

/-- With more idle arrivals than attempts, receiving fails and leaves
the arrivals it did not reach. -/
theorem receiveAgain_all_idle {entries rest : List Arrival} (hidle : ∀ a ∈ entries, a.Idle)
    {more : Nat} (hlen : more < entries.length) {link : Link σ}
    (hconn : link.channel.connected = true)
    (harr : link.channel.arrivals = entries ++ rest) :
    ∃ cause after, receiveAgain more link = .error (.channel cause) after
      ∧ after.channel.arrivals = entries.drop (more + 1) ++ rest ∧ Steady link after := by
  have hmore : more < (idleUnits entries).length := by rwa [length_idleUnits]
  have hdrop : (idleUnits entries).drop (more + 1) = idleUnits (entries.drop (more + 1)) :=
    List.map_drop.symm
  rw [← flatMap_idleUnits entries] at harr
  obtain ⟨after, hreceive, hafter, hs⟩ :=
    receiveAgain_spent hmore hconn (misfire_of_mem_idleUnits hidle _) harr
  rw [hdrop, flatMap_idleUnits] at hafter
  refine ⟨entries[more].complaint, after, ?_, hafter, hs⟩
  rw [hreceive]
  simp [idleUnits]

/-- The frame that comes next is received if it checks. -/
theorem receiveAgain_frame {f : Frame} (hlen : f.payload.length ≤ Frame.maxPayload)
    {link : Link σ} (hcheck : f.checksum = link.mode.checksum (Frame.body f.kind f.payload))
    {rest : List Arrival} (h : Queued link f.encode rest) (more : Nat) :
    ∃ after, receiveAgain more link = .ok f after
      ∧ after.channel.arrivals = rest ∧ Steady link after := by
  obtain ⟨after, hreceive, hafter, hs⟩ := receiveFrame_encode hlen h
  rw [Frame.parse_toBytes hlen, if_pos hcheck] at hreceive
  exact ⟨after, receiveAgain_of_ok hreceive more, hafter.arrivals, hs⟩

/-- The frame that is alone in the queue is taken whole, whether it is
received or refused. -/
theorem receiveAgain_encode {f : Frame} (hlen : f.payload.length ≤ Frame.maxPayload)
    {link : Link σ} (h : Queued link f.encode []) (more : Nat) :
    ∃ after, after.channel.arrivals = [] ∧ Steady link after
      ∧ (receiveAgain more link = .ok f after
        ∨ ∃ cause, receiveAgain more link = .error cause after) := by
  obtain ⟨after, hreceive, hafter, hs⟩ := receiveFrame_encode hlen h
  have hempty := hafter.arrivals
  cases hparse : Frame.parse f.toBytes link.mode with
  | ok g =>
      obtain ⟨rfl, -⟩ := Frame.eq_of_parse_toBytes hlen hparse
      rw [hparse] at hreceive
      exact ⟨after, hempty, hs, .inl (receiveAgain_of_ok hreceive more)⟩
  | error cause =>
      rw [hparse] at hreceive
      refine ⟨after, hempty, hs, .inr ?_⟩
      cases more with
      | zero => exact ⟨_, hreceive⟩
      | succ more =>
          -- refused, but gone: the attempts that are left find nothing
          obtain ⟨cause', hagain⟩ := receiveAgain_nil (fun _ => hempty) more
          exact ⟨.channel cause', (receiveAgain_of_error hreceive rfl more).trans hagain⟩

/-- No number of attempts receives anything where all is idle. -/
theorem receiveAgain_only_idle {link : Link σ} (hconn : link.channel.connected = true)
    (hidle : ∀ a ∈ link.channel.arrivals, a.Idle) (more : Nat) :
    ∃ cause after, receiveAgain more link = .error (.channel cause) after := by
  have harr : link.channel.arrivals = link.channel.arrivals ++ [] := (List.append_nil _).symm
  by_cases hlen : link.channel.arrivals.length ≤ more
  · obtain ⟨after, hagain, hafter, -⟩ := receiveAgain_idle hidle hlen hconn harr
    obtain ⟨cause, hnil⟩ :=
      receiveAgain_nil (fun _ => hafter) (more - link.channel.arrivals.length)
    exact ⟨cause, after, hagain.trans hnil⟩
  · obtain ⟨cause, after, hagain, -, -⟩ :=
      receiveAgain_all_idle hidle (Nat.lt_of_not_le hlen) hconn harr
    exact ⟨cause, after, hagain⟩

-- ======================================================== an exchange

/-- A reply among those the policy accepts is answered. -/
theorem judge_of_accepts {command : Command} {policy : Policy} {f : Frame}
    (h : policy.accepts f.reply = true) (link : Link σ) :
    judge command policy f link = .ok f link := by
  unfold judge
  rw [if_pos h]
  rfl

/-- Any other is refused. -/
theorem judge_of_refused {command : Command} {policy : Policy} {f : Frame}
    (h : policy.accepts f.reply = false) (link : Link σ) :
    judge command policy f link
      = .error (.protocol (.unexpectedReply command policy.expected f.reply)) link := by
  unfold judge
  rw [if_neg (by rw [h]; exact Bool.false_ne_true)]
  rfl

/-- Judging leaves the link as it is. -/
theorem endState_judge (command : Command) (policy : Policy) (f : Frame) (link : Link σ) :
    endState (judge command policy f link) = link := by
  cases h : policy.accepts f.reply with
  | true => rw [judge_of_accepts h, endState_ok]
  | false => rw [judge_of_refused h, endState_error]

/-- What a command is sent as. -/
def request (command : Command) (payload : Bytes) (mode : ChecksumMode) : Bytes :=
  (Frame.sealed command.code payload mode).encode

section

variable [Peer σ] {command : Command} {payload : Bytes} {policy : Policy} {link : Link σ}

/-- A payload that fits no frame is not sent. -/
theorem exchange_of_long (hlen : Frame.maxPayload < payload.length) :
    exchange command payload policy link
      = .error (.frame (.payloadTooLarge payload.length)) link := by
  unfold exchange
  simp only [bind, EStateM.bind, frame, Frame.ofCommand, Frame.build]
  rw [if_pos hlen]

/-- Nothing is sent to a device that is gone. -/
theorem exchange_of_disconnected (hlen : payload.length ≤ Frame.maxPayload)
    (hconn : link.channel.connected = false) :
    exchange command payload policy link = .error (.channel .disconnected) link := by
  unfold exchange
  simp only [bind, EStateM.bind, frame, Frame.ofCommand, Frame.build_of_le hlen, send,
    write_of_disconnected _ hconn]

/-- An exchange sends once, receives, and judges. -/
theorem exchange_eq (hlen : payload.length ≤ Frame.maxPayload)
    (hconn : link.channel.connected = true) :
    exchange command payload policy link
      = match receive policy.attempts (link.wrote (request command payload link.mode)) with
        | .ok reply after => judge command policy reply after
        | .error cause after => .error cause after := by
  unfold exchange
  simp only [bind, EStateM.bind, frame, Frame.ofCommand, Frame.build_of_le hlen, send]
  rw [show (Frame.sealed command.code payload link.mode).encode
      = request command payload link.mode from rfl, write_of_connected _ hconn]
  dsimp only
  cases receive policy.attempts (link.wrote (request command payload link.mode)) <;> rfl

/-- What it leaves is what receiving leaves. -/
theorem endState_exchange (hlen : payload.length ≤ Frame.maxPayload)
    (hconn : link.channel.connected = true) :
    endState (exchange command payload policy link)
      = endState (receive policy.attempts (link.wrote (request command payload link.mode))) := by
  rw [exchange_eq hlen hconn]
  cases receive policy.attempts (link.wrote (request command payload link.mode)) with
  | ok reply after => exact endState_judge command policy reply after
  | error cause after => rfl

/-- What it answers was received, and the policy accepts it. -/
theorem receive_of_exchange_ok (hlen : payload.length ≤ Frame.maxPayload)
    (hconn : link.channel.connected = true) {f : Frame} {after : Link σ}
    (h : exchange command payload policy link = .ok f after) :
    receive policy.attempts (link.wrote (request command payload link.mode)) = .ok f after
      ∧ policy.accepts f.reply = true := by
  rw [exchange_eq hlen hconn] at h
  split at h
  · rename_i reply last hreceive
    cases haccept : policy.accepts reply.reply with
    | true =>
        rw [judge_of_accepts haccept] at h
        cases h
        exact ⟨hreceive, haccept⟩
    | false =>
        rw [judge_of_refused haccept] at h
        cases h
  · cases h

/-- The reply that is judged is the first frame in the queue behind no
more idle arrivals than there are attempts to spare. -/
theorem exchange_of_frame (hlen : payload.length ≤ Frame.maxPayload)
    (hconn : link.channel.connected = true) {entries rest : List Arrival} {chunks : List Bytes}
    {f : Frame} (hflen : f.payload.length ≤ Frame.maxPayload)
    (hcheck : f.checksum = link.mode.checksum (Frame.body f.kind f.payload))
    (hchunks : ∀ chunk ∈ chunks, chunk ≠ []) (hflat : chunks.flatten = f.encode)
    (hidle : ∀ a ∈ entries, a.Idle) (hspare : entries.length ≤ policy.attempts - 1)
    (harr : (link.wrote (request command payload link.mode)).channel.arrivals
      = entries ++ (chunks.map .chunk ++ rest)) :
    ∃ after, exchange command payload policy link = judge command policy f after
      ∧ after.channel.arrivals = rest
      ∧ Steady (link.wrote (request command payload link.mode)) after := by
  obtain ⟨mid, hidle', hmid, hs⟩ := receiveAgain_idle hidle hspare (by exact hconn) harr
  obtain ⟨after, hframe, hafter, hs'⟩ :=
    receiveAgain_frame hflen (by rw [hs.mode]; exact hcheck)
      ⟨hs.connected.trans hconn, chunks, hchunks, hflat, hmid⟩
      (policy.attempts - 1 - entries.length)
  refine ⟨after, ?_, hafter, hs.trans hs'⟩
  rw [exchange_eq hlen hconn]
  unfold receive
  rw [hidle', hframe]

/-- An exchange with too many idle arrivals in front of it fails and
leaves the rest of the queue, its own answer included. -/
theorem exchange_of_idle (hlen : payload.length ≤ Frame.maxPayload)
    (hconn : link.channel.connected = true) {entries rest : List Arrival}
    (hidle : ∀ a ∈ entries, a.Idle) (hshort : policy.attempts - 1 < entries.length)
    (harr : (link.wrote (request command payload link.mode)).channel.arrivals
      = entries ++ rest) :
    ∃ cause after, exchange command payload policy link = .error (.channel cause) after
      ∧ after.channel.arrivals = entries.drop (policy.attempts - 1 + 1) ++ rest
      ∧ Steady (link.wrote (request command payload link.mode)) after := by
  obtain ⟨cause, after, hreceive, hafter, hs⟩ :=
    receiveAgain_all_idle hidle hshort (by exact hconn) harr
  refine ⟨cause, after, ?_, hafter, hs⟩
  rw [exchange_eq hlen hconn]
  unfold receive
  rw [hreceive]

/-- An exchange that finds nothing but idle arrivals fails. -/
theorem exchange_of_only_idle (hlen : payload.length ≤ Frame.maxPayload)
    (hconn : link.channel.connected = true)
    (hidle : ∀ a ∈ (link.wrote (request command payload link.mode)).channel.arrivals, a.Idle) :
    ∃ cause after, exchange command payload policy link = .error (.channel cause) after := by
  obtain ⟨cause, after, hreceive⟩ :=
    receiveAgain_only_idle (by exact hconn) hidle (policy.attempts - 1)
  refine ⟨cause, after, ?_⟩
  rw [exchange_eq hlen hconn]
  unfold receive
  rw [hreceive]

/-- What comes of an exchange whose queue holds misfires, a message
that parses, and more. With attempts to spare exactly the misfires and
the message are taken, and the reply is judged, whatever it is; with
none exactly as many misfires as there are attempts are, and the last of
them is the answer. Either way the request was written once. -/
theorem exchange_retries (hlen : payload.length ≤ Frame.maxPayload)
    (hconn : link.channel.connected = true) {units : List (List Arrival × Failure)}
    (hunits : ∀ u ∈ units, Misfire link.mode u.1 u.2) {message : Bytes} {f : Frame}
    (hparse : Frame.parse message link.mode = .ok f) {chunks : List Bytes}
    (hchunks : ∀ chunk ∈ chunks, chunk ≠ []) (hflat : chunks.flatten = Stuffing.stuff message)
    {rest : List Arrival}
    (harr : link.channel.arrivals = units.flatMap Prod.fst ++ (chunks.map .chunk ++ rest)) :
    ∃ after, after.channel.sent = link.channel.sent ++ [request command payload link.mode]
      ∧ (units.length < max policy.attempts 1 →
          after.channel.arrivals = rest
            ++ (Peer.answer link.channel.peer (request command payload link.mode)).1.map .chunk
          ∧ exchange command payload policy link
            = if f.reply = policy.expected ∨ f.reply ∈ policy.tolerated then .ok f after
              else .error (.protocol (.unexpectedReply command policy.expected f.reply)) after)
      ∧ (max policy.attempts 1 ≤ units.length →
          after.channel.arrivals = (units.drop (max policy.attempts 1)).flatMap Prod.fst
            ++ (chunks.map .chunk ++ (rest
              ++ (Peer.answer link.channel.peer (request command payload link.mode)).1.map .chunk))
          ∧ ∃ last, units[max policy.attempts 1 - 1]? = some last
            ∧ exchange command payload policy link = .error last.2 after) := by
  have hattempts : max policy.attempts 1 = policy.attempts - 1 + 1 := by omega
  have hwrote : (link.wrote (request command payload link.mode)).channel.arrivals
      = units.flatMap Prod.fst ++ (chunks.map .chunk ++ (rest
        ++ (Peer.answer link.channel.peer (request command payload link.mode)).1.map .chunk)) := by
    rw [arrivals_wrote, harr, List.append_assoc, List.append_assoc]
  rw [exchange_eq hlen hconn, hattempts, Nat.add_sub_cancel]
  unfold receive
  by_cases hspare : units.length ≤ policy.attempts - 1
  · obtain ⟨mid, hagain, hmid, hs⟩ :=
      receiveAgain_misfires hspare (by exact hconn) (by exact hunits) hwrote
    obtain ⟨hhead, hlength⟩ := Frame.announcedLength_of_parse hparse
    obtain ⟨after, hreceive, hafter, hs'⟩ :=
      receiveFrame_stuffed hhead hlength ⟨hs.connected.trans hconn, chunks, hchunks, hflat, hmid⟩
    have hmode : mid.mode = link.mode := hs.mode
    rw [hmode, hparse] at hreceive
    have hsent : after.channel.sent = _ := (hs.trans hs').sent.trans (sent_wrote _ _)
    refine ⟨after, hsent, ?_, ?_⟩
    · intro _
      refine ⟨hafter.arrivals, ?_⟩
      rw [hagain, receiveAgain_of_ok hreceive]
      dsimp only
      by_cases haccept : policy.accepts f.reply = true
      · rw [judge_of_accepts haccept, if_pos (Policy.accepts_iff.1 haccept)]
      · rw [judge_of_refused (Bool.eq_false_iff.2 haccept),
          if_neg (fun h => haccept (Policy.accepts_iff.2 h))]
    · intro hspent
      omega
  · have hspent : policy.attempts - 1 < units.length := Nat.lt_of_not_le hspare
    obtain ⟨after, hreceive, hafter, hs⟩ :=
      receiveAgain_spent hspent (by exact hconn) (by exact hunits) hwrote
    refine ⟨after, hs.sent.trans (sent_wrote _ _), ?_, ?_⟩
    · intro hmore
      omega
    · intro _
      refine ⟨hafter, _, List.getElem?_eq_getElem hspent, ?_⟩
      rw [hreceive]

end

/-- A silence, an empty chunk, an acknowledgement in the other mode in
two chunks, and a stray chunk. -/
def mixedUnits : List (List Arrival × Failure) :=
  [([.silence], .channel (.timeout Channel.readTimeout)),
   ([.chunk []], .channel (.readFailed "Empty response")),
   ([.chunk [0x7E, 0x00, 0x80], .chunk [0x00, 0x00, 0xFF, 0x7F, 0x7E]],
    .frame (.checksumMismatch (ChecksumMode.sum.checksum (Frame.body 0x80 []))
      (ChecksumMode.crc.checksum (Frame.body 0x80 [])))),
   ([.chunk [0x00, 0x7E]], .frame .badDelimiter)]

/-- All of these in front of an acknowledgement, and a byte behind
it. -/
def mixedQueue : Link Unit :=
  .ofChannel
    { Channel.connect () with
      arrivals := mixedUnits.flatMap Prod.fst
        ++ (([[0x7E, 0x00, 0x80, 0x00, 0x00, 0x3B], [0x5A, 0x7E]] : List Bytes).map .chunk
          ++ [.chunk [0x55]]) }
    .crc

theorem misfire_of_mem_mixedUnits : ∀ u ∈ mixedUnits, Misfire .crc u.1 u.2 := by
  have hchunks : ∀ chunk ∈ ([[0x7E, 0x00, 0x80], [0x00, 0x00, 0xFF, 0x7F, 0x7E]] : List Bytes),
      chunk ≠ [] := by decide
  have hflat : [[0x7E, 0x00, 0x80], [0x00, 0x00, 0xFF, 0x7F, 0x7E]].flatten
      = (Frame.sealed 0x80 [] .sum).encode := by decide +kernel
  have hcheck : (Frame.sealed 0x80 [] .sum).checksum
      ≠ ChecksumMode.crc.checksum (Frame.body 0x80 []) := by decide +kernel
  have hdamaged := Misfire.of_checksum (Nat.zero_le _) hcheck hchunks hflat
  simp only [mixedUnits, List.forall_mem_cons]
  exact ⟨.silence, .empty, hdamaged, .stray (by decide) (by decide) (by decide) (by decide),
    fun _ h => absurd h List.not_mem_nil⟩

/-- Five attempts reach the acknowledgement, which a policy takes or
refuses; four end with the stray chunk. -/
theorem exchange_retries_mixedQueue :
    (∃ f after, exchange .connect [] (Policy.ack.within 5) mixedQueue = .ok f after
      ∧ f.reply = .ack ∧ after.channel.arrivals = [.chunk [0x55]])
    ∧ (∃ after, exchange .connect [] ((Policy.expect .version).within 5) mixedQueue
        = .error (.protocol (.unexpectedReply .connect .version .ack)) after)
    ∧ ∃ after, exchange .connect [] (Policy.ack.within 4) mixedQueue
        = .error (.frame .badDelimiter) after
      ∧ after.channel.sent = [request .connect [] .crc]
      ∧ after.channel.arrivals
        = [.chunk [0x7E, 0x00, 0x80, 0x00, 0x00, 0x3B], .chunk [0x5A, 0x7E],
           .chunk [0x55]] := by
  have hparse : Frame.parse (Frame.sealed 0x80 [] .crc).toBytes .crc
      = .ok (Frame.sealed 0x80 [] .crc) := Frame.parse_toBytes_sealed (by decide) _ _
  have hchunks : ∀ chunk ∈ ([[0x7E, 0x00, 0x80, 0x00, 0x00, 0x3B], [0x5A, 0x7E]] : List Bytes),
      chunk ≠ [] := by decide
  have hflat : [[0x7E, 0x00, 0x80, 0x00, 0x00, 0x3B], [0x5A, 0x7E]].flatten
      = Stuffing.stuff (Frame.sealed 0x80 [] .crc).toBytes := by decide +kernel
  refine ⟨?_, ?_, ?_⟩
  · obtain ⟨after, -, hreached, -⟩ :=
      @exchange_retries Unit _ .connect [] (Policy.ack.within 5) mixedQueue (by decide) rfl _
        misfire_of_mem_mixedUnits _ _ hparse _ hchunks hflat _ rfl
    obtain ⟨harr, hrun⟩ := hreached (by decide)
    exact ⟨_, after, hrun, rfl, harr⟩
  · obtain ⟨after, -, hreached, -⟩ :=
      @exchange_retries Unit _ .connect [] ((Policy.expect .version).within 5) mixedQueue
        (by decide) rfl _ misfire_of_mem_mixedUnits _ _ hparse _ hchunks hflat _ rfl
    obtain ⟨-, hrun⟩ := hreached (by decide)
    exact ⟨after, hrun⟩
  · obtain ⟨after, hsent, -, hspent⟩ :=
      @exchange_retries Unit _ .connect [] (Policy.ack.within 4) mixedQueue (by decide) rfl _
        misfire_of_mem_mixedUnits _ _ hparse _ hchunks hflat _ rfl
    obtain ⟨harr, last, hlast, hrun⟩ := hspent (by decide)
    cases hlast
    exact ⟨after, hrun, hsent, harr⟩

-- ============================================================== probing

section

variable [Peer σ] {link : Link σ} (hconn : link.channel.connected = true)
include hconn

/-- The last probe sends a bare delimiter and receives what comes. -/
theorem probeAgain_zero :
    probeAgain 0 link
      = match receiveFrame (link.wrote [delimiter]) with
        | .ok frame after => .ok (Banner.text frame.payload) after
        | .error cause after => .error cause after := by
  unfold probeAgain sendProbe
  simp only [bind, EStateM.bind, write_of_connected _ hconn]
  cases receiveFrame (link.wrote [delimiter]) <;> rfl

/-- Any other is followed by the next if it fails in passing. -/
theorem probeAgain_succ (more : Nat) :
    probeAgain (more + 1) link
      = match receiveFrame (link.wrote [delimiter]) with
        | .ok frame after => .ok (Banner.text frame.payload) after
        | .error cause after =>
          if cause.isRetryable then probeAgain more after else .error cause after := by
  have hsend : sendProbe link = .ok () (link.wrote [delimiter]) := write_of_connected _ hconn
  cases hreceive : receiveFrame (link.wrote [delimiter]) with
  | ok frame after => simp only [probeAgain, hsend, hreceive]
  | error cause after => simp only [probeAgain, hsend, hreceive]

/-- A frame that is received ends the probes. -/
theorem probeAgain_of_ok {f : Frame} {after : Link σ}
    (h : receiveFrame (link.wrote [delimiter]) = .ok f after) (more : Nat) :
    probeAgain more link = .ok (Banner.text f.payload) after := by
  cases more with
  | zero => rw [probeAgain_zero hconn, h]
  | succ more => rw [probeAgain_succ hconn, h]

end

end Link

end FlashLink
