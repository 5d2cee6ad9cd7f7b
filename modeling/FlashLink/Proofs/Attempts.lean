/-
What attempts at receiving cost.

A stretch of the queue that brings no frame costs one attempt: a
silence, an empty chunk, a whole message that does not parse, a chunk
that does not begin with a delimiter. `Misfire` lists them, each with
the failure it ends in. An attempt takes exactly one such stretch
(`receiveFrame_misfire`): none of them reaches into what is queued
behind it, however the two are cut.

So any mix of them is counted off one by one. With attempts to spare
receiving goes on behind the last of them (`receiveAgain_misfires`);
with fewer it fails as the last attempt did, and what was not reached
is still queued (`receiveAgain_spent`).
-/
import FlashLink.Proofs.Receive

namespace FlashLink

open Stuffing (delimiter unstuff endsMidEscape)

variable {σ : Type}

namespace Link

-- =========================================================== one attempt

/-- A stretch of the queue that costs an attempt in some mode, and how
the attempt fails. -/
inductive Misfire (mode : ChecksumMode) : List Arrival → Failure → Prop where
  /-- A read that brings nothing in time. -/
  | silence : Misfire mode [.silence] (.channel (.timeout Channel.readTimeout))
  /-- A read that brings no bytes. -/
  | empty : Misfire mode [.chunk []] (.channel (.readFailed "Empty response"))
  /-- A message as long as it announces, cut anywhere, that does not
  parse. -/
  | damaged {chunks : List Bytes} {message : Bytes} {cause : FrameFailure}
      (hchunks : ∀ chunk ∈ chunks, chunk ≠ []) (hflat : chunks.flatten = Stuffing.stuff message)
      (hhead : message.head? = some delimiter)
      (hlength : Frame.announcedLength message = some message.length)
      (hparse : Frame.parse message mode = .error cause) :
      Misfire mode (chunks.map .chunk) (.frame cause)
  /-- A chunk that one read takes, and that is no beginning of a
  message. -/
  | stray {bytes : Bytes} (hne : bytes ≠ []) (hlimit : bytes.length ≤ readLimit)
      (hhead : (unstuff bytes).head? ≠ some delimiter) (hend : endsMidEscape bytes = false) :
      Misfire mode [.chunk bytes] (.frame .badDelimiter)

/-- A frame whose checksum is not that of its content is such a
message. -/
theorem Misfire.of_checksum {mode : ChecksumMode} {f : Frame}
    (hlen : f.payload.length ≤ Frame.maxPayload)
    (hcheck : f.checksum ≠ mode.checksum (Frame.body f.kind f.payload)) {chunks : List Bytes}
    (hchunks : ∀ chunk ∈ chunks, chunk ≠ []) (hflat : chunks.flatten = f.encode) :
    Misfire mode (chunks.map .chunk)
      (.frame (.checksumMismatch f.checksum
        (mode.checksum (Frame.body f.kind f.payload)))) := by
  apply Misfire.damaged hchunks hflat f.head?_toBytes (Frame.announcedLength_toBytes hlen)
  rw [Frame.parse_toBytes hlen, if_neg hcheck]

/-- A failure that costs an attempt lets another be made. -/
theorem Misfire.isRetryable {mode : ChecksumMode} {entries : List Arrival} {failure : Failure}
    (h : Misfire mode entries failure) : failure.isRetryable = true := by
  cases h with
  | silence => rfl
  | empty => rfl
  | damaged => rfl
  | stray => rfl

/-- A failed first read fails the attempt. -/
theorem receiveFrame_of_read_error {link after : Link σ} {cause : Failure}
    (h : read link = .error cause after) : receiveFrame link = .error cause after :=
  collect_of_error (receiveChunk_of_error h _)

/-- An empty first chunk fails the attempt. -/
theorem receiveFrame_of_read_nil {link after : Link σ} (h : read link = .ok [] after) :
    receiveFrame link = .error (.channel (.readFailed "Empty response")) after := by
  apply collect_of_error
  rw [receiveChunk, h]
  rfl

/-- A first chunk that does not begin with a delimiter fails the
attempt. -/
theorem receiveFrame_of_read_stray {link after : Link σ} {bytes : Bytes}
    (h : read link = .ok bytes after) (hne : bytes ≠ []) (hend : endsMidEscape bytes = false)
    (hhead : (unstuff bytes).head? ≠ some delimiter) :
    receiveFrame link = .error (.frame .badDelimiter) after := by
  have hone : receiveOne link = .ok bytes after := receiveChunk_of_read h hne hend _
  have hfirst : ((#[] : Array UInt8).appendList (unstuff bytes))[0]? = (unstuff bytes).head? := by
    simp [List.head?_eq_getElem?]
  show collect #[] link = _
  rw [collect, hone]
  dsimp only
  rw [hfirst, if_pos hhead]

/-- An attempt takes exactly one misfire. -/
theorem receiveFrame_misfire {link : Link σ} (hconn : link.channel.connected = true)
    {entries : List Arrival} {failure : Failure} (h : Misfire link.mode entries failure)
    {rest : List Arrival} (harr : link.channel.arrivals = entries ++ rest) :
    ∃ after, receiveFrame link = .error failure after
      ∧ after.channel.arrivals = rest ∧ Steady link after := by
  have hs := steady_receiveFrame link
  cases h with
  | silence =>
      have hread : read link = .error (.channel (.timeout Channel.readTimeout))
          { link with channel := { link.channel with arrivals := rest } } := by
        unfold read Channel.read
        rw [if_pos hconn, harr]
        rfl
      rw [receiveFrame_of_read_error hread] at hs ⊢
      exact ⟨_, rfl, rfl, hs⟩
  | empty =>
      obtain ⟨after, hread, hafter⟩ :=
        read_of_channel (Channel.read_of_le hconn harr (Nat.zero_le _))
      rw [receiveFrame_of_read_nil hread] at hs ⊢
      exact ⟨after, rfl, by rw [hafter]; rfl, hs⟩
  | @damaged chunks message cause hchunks hflat hhead hlength hparse =>
      obtain ⟨after, hreceive, hafter, hs⟩ :=
        receiveFrame_stuffed hhead hlength ⟨hconn, chunks, hchunks, hflat, harr⟩
      rw [hparse] at hreceive
      exact ⟨after, hreceive, hafter.arrivals, hs⟩
  | stray hne hlimit hhead hend =>
      obtain ⟨after, hread, hafter⟩ := read_of_channel (Channel.read_of_le hconn harr hlimit)
      rw [receiveFrame_of_read_stray hread hne hend hhead] at hs ⊢
      exact ⟨after, rfl, by rw [hafter]; rfl, hs⟩

-- ==================================================== repeated attempts

/-- An attempt, and further ones after a failure that may pass. -/
theorem receiveAgain_succ (more : Nat) (link : Link σ) :
    receiveAgain (more + 1) link
      = match receiveFrame link with
        | .ok frame after => .ok frame after
        | .error cause after =>
          if cause.isRetryable then receiveAgain more after else .error cause after := rfl

/-- A frame that is received ends the attempts. -/
theorem receiveAgain_of_ok {link after : Link σ} {f : Frame}
    (h : receiveFrame link = .ok f after) (more : Nat) : receiveAgain more link = .ok f after := by
  cases more with
  | zero => exact h
  | succ more => rw [receiveAgain_succ, h]

/-- A failure that may pass is followed by the next attempt. -/
theorem receiveAgain_of_error {link after : Link σ} {cause : Failure}
    (h : receiveFrame link = .error cause after) (hcause : cause.isRetryable = true) (more : Nat) :
    receiveAgain (more + 1) link = receiveAgain more after := by
  rw [receiveAgain_succ, h]
  exact if_pos hcause

theorem steady_receiveAgain (more : Nat) (link : Link σ) :
    Steady link (endState (receiveAgain more link)) := by
  induction more generalizing link with
  | zero => exact steady_receiveFrame link
  | succ more ih =>
      have hs := steady_receiveFrame link
      rw [receiveAgain_succ]
      split
      · rename_i hreceive
        rw [hreceive] at hs
        exact hs
      · rename_i hreceive
        rw [hreceive] at hs
        split
        · exact hs.trans (ih _)
        · exact hs

/-- Attempts are repeated past misfires, one for each. -/
theorem receiveAgain_misfires {units : List (List Arrival × Failure)} {rest : List Arrival}
    {more : Nat} (hspare : units.length ≤ more) {link : Link σ}
    (hconn : link.channel.connected = true) (hunits : ∀ u ∈ units, Misfire link.mode u.1 u.2)
    (harr : link.channel.arrivals = units.flatMap Prod.fst ++ rest) :
    ∃ after, receiveAgain more link = receiveAgain (more - units.length) after
      ∧ after.channel.arrivals = rest ∧ Steady link after := by
  induction units generalizing more link with
  | nil => exact ⟨link, rfl, harr, Steady.refl link⟩
  | cons u units ih =>
      have hfirst := hunits u List.mem_cons_self
      rw [List.flatMap_cons, List.append_assoc] at harr
      obtain ⟨mid, hreceive, hmid, hs⟩ := receiveFrame_misfire hconn hfirst harr
      match more, hspare with
      | more + 1, hspare =>
          obtain ⟨after, hagain, hafter, hs'⟩ :=
            ih (Nat.le_of_succ_le_succ hspare) (hs.connected.trans hconn)
              (by rw [hs.mode]; exact fun v hv => hunits v (List.mem_cons_of_mem _ hv)) hmid
          refine ⟨after, ?_, hafter, hs.trans hs'⟩
          rw [receiveAgain_of_error hreceive hfirst.isRetryable, hagain, List.length_cons,
            Nat.add_sub_add_right]

/-- With no attempt to spare receiving fails as the last attempt did,
and leaves the misfires it did not reach. -/
theorem receiveAgain_spent {units : List (List Arrival × Failure)} {rest : List Arrival}
    {more : Nat} (hspent : more < units.length) {link : Link σ}
    (hconn : link.channel.connected = true) (hunits : ∀ u ∈ units, Misfire link.mode u.1 u.2)
    (harr : link.channel.arrivals = units.flatMap Prod.fst ++ rest) :
    ∃ after, receiveAgain more link = .error units[more].2 after
      ∧ after.channel.arrivals = (units.drop (more + 1)).flatMap Prod.fst ++ rest
      ∧ Steady link after := by
  have hsplit : (units.take more ++ units[more] :: units.drop (more + 1)).flatMap Prod.fst
      = units.flatMap Prod.fst := by
    rw [← List.drop_eq_getElem_cons hspent, List.take_append_drop]
  rw [← hsplit, List.flatMap_append, List.flatMap_cons, List.append_assoc,
    List.append_assoc] at harr
  -- the misfires before it leave one attempt for the last that is reached
  have hlen : (units.take more).length = more := List.length_take_of_le (Nat.le_of_lt hspent)
  obtain ⟨mid, hagain, hmid, hs⟩ :=
    receiveAgain_misfires (Nat.le_of_eq hlen) hconn
      (fun u hu => hunits u (List.mem_of_mem_take hu)) harr
  have hlast : Misfire mid.mode units[more].1 units[more].2 := by
    rw [hs.mode]
    exact hunits _ (List.getElem_mem hspent)
  obtain ⟨after, hreceive, hafter, hs'⟩ :=
    receiveFrame_misfire (hs.connected.trans hconn) hlast hmid
  refine ⟨after, ?_, hafter, hs.trans hs'⟩
  rw [hagain, hlen, Nat.sub_self]
  exact hreceive

end Link

end FlashLink
