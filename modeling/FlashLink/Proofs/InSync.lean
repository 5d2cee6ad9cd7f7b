/-
Between two operations nothing waits in the queue.

A host that gives up on a reply leaves it to be taken for the answer to
its next request. Against a simulated device this cannot happen as long
as the device starts its second loader with fewer empty reads than the
host has attempts for. `InSync` is the invariant: the queue is empty.
It is restored by every exchange and every probe, whatever they end in,
because a write is answered by at most one frame (`answer_shape`) and
an attempt takes a frame whole even if it refuses it. A frame in the
other mode is no exception: it is refused for its checksum after its
last byte was read.

The one late answer is that to the start of the second loader. Two
exchanges start an image. The second has the attempts; the first goes
out under the checksum of the boot ROM, and the first loader cannot
read it (`crc_ne_sum_execData`).
-/
import FlashLink.Proofs.Device
import FlashLink.Proofs.Lasting

namespace FlashLink

open Stuffing (delimiter unstuff)

/-- Nothing waits in the queue, the device is not too late for the
host, and the mode is one of those named. -/
structure InSync (modes : ChecksumMode → Prop) (link : Link Device) : Prop where
  empty : link.channel.arrivals = []
  stalls : link.channel.peer.stalls ≤ 14
  mode : modes link.mode

namespace InSync

variable {modes : ChecksumMode → Prop}

theorem mono {others : ChecksumMode → Prop} (hmodes : ∀ mode, modes mode → others mode)
    {link : Link Device} (h : InSync modes link) : InSync others link :=
  ⟨h.empty, h.stalls, hmodes _ h.mode⟩

-- =========================================================== receiving

/-- At most one frame in the queue is taken whole by any number of
attempts. -/
theorem arrivals_receiveAgain {σ : Type} {link : Link σ} (hconn : link.channel.connected = true)
    {chunks : List Bytes} (hwhole : Device.Whole chunks)
    (harr : link.channel.arrivals = chunks.map .chunk) (more : Nat) :
    (endState (Link.receiveAgain more link)).channel.arrivals = [] := by
  rcases hwhole with rfl | ⟨hchunks, f, hlen, hflat⟩
  · obtain ⟨cause, hagain⟩ := Link.receiveAgain_nil (fun _ => harr) more
    rw [hagain]
    exact harr
  · have hqueued : Link.Queued link f.encode [] :=
      ⟨hconn, chunks, hchunks, hflat, by rw [harr, List.append_nil]⟩
    obtain ⟨after, hempty, -, hagain | ⟨cause, hagain⟩⟩ :=
      Link.receiveAgain_encode hlen hqueued more
    · rw [hagain]
      exact hempty
    · rw [hagain]
      exact hempty

/-- Receiving after a write empties the queue again, if there are
attempts for the empty reads before a late answer. -/
theorem receiveAgain_wrote {link : Link Device} (h : InSync modes link)
    (hconn : link.channel.connected = true) {bytes : Bytes} {more : Nat}
    (hlate : ∀ frame, Frame.parse (unstuff bytes) link.channel.peer.program.mode = .ok frame →
      frame.kind = Command.execData.code → link.channel.peer.program = .first → 14 ≤ more) :
    InSync modes (endState (Link.receiveAgain more (link.wrote bytes))) := by
  obtain ⟨stalls, chunks, hanswer, hwhole, hstalls, hcase⟩ :=
    Device.answer_shape link.channel.peer bytes
  have harr : (link.wrote bytes).channel.arrivals
      = List.replicate stalls (.chunk []) ++ chunks.map .chunk := by
    rw [Link.arrivals_wrote, h.empty]
    show ((Device.answer link.channel.peer bytes).1.map Arrival.chunk) = _
    rw [hanswer, List.map_append, List.map_replicate]
  have hle : stalls ≤ more := by
    rcases hcase with rfl | ⟨rfl, hfirst, frame, hparse, hkind⟩
    · exact Nat.zero_le _
    · exact Nat.le_trans h.stalls (hlate frame hparse hkind hfirst)
  have hroom : (List.replicate stalls (Arrival.chunk [])).length ≤ more := by
    rw [List.length_replicate]
    exact hle
  have hidle : ∀ a ∈ List.replicate stalls (Arrival.chunk []), a.Idle :=
    fun a ha => Arrival.idle_of_mem_replicate (a := .chunk []) rfl ha
  have hconnected : (link.wrote bytes).channel.connected = true := hconn
  obtain ⟨mid, hreceive, hmid, hs⟩ := Link.receiveAgain_idle hidle hroom hconnected harr
  have hlast := Link.steady_receiveAgain more (link.wrote bytes)
  refine ⟨?_, ?_, ?_⟩
  · rw [hreceive]
    exact arrivals_receiveAgain (hs.connected.trans hconn) hwhole hmid _
  · rw [hlast.peer]
    show (Device.answer link.channel.peer bytes).2.stalls ≤ 14
    rw [hstalls]
    exact h.stalls
  · rw [hlast.mode]
    exact h.mode

-- =========================================================== exchanges

/-- The two checksums of the frame that starts an image differ. -/
theorem crc_ne_sum_execData :
    ChecksumMode.crc.checksum (Frame.body Command.execData.code [])
      ≠ Program.first.mode.checksum (Frame.body Command.execData.code []) := by
  have hsum : Program.first.mode.checksum (Frame.body Command.execData.code []) = 0xFFFB := by
    show ~~~ OnesSum.foldCarries (OnesSum.addWords 0 [0x00, 0x04, 0x00, 0x00]) = 0xFFFB
    rw [OnesSum.foldCarries]
    decide
  rw [hsum]
  decide +kernel

/-- An exchange leaves nothing in the queue, if it starts no image or
starts it where the answer can be waited for. -/
theorem exchange {link : Link Device} (h : InSync modes link) {command : Command}
    {payload : Bytes} {policy : Policy}
    (hstart : command = .execData → payload = [] ∧ (link.mode = .crc ∨ 14 < policy.attempts)) :
    InSync modes (endState (Link.exchange command payload policy link)) := by
  by_cases hlen : payload.length ≤ Frame.maxPayload
  · cases hconn : link.channel.connected with
    | false =>
        rw [Link.exchange_of_disconnected hlen hconn]
        exact h
    | true =>
        have hlate : ∀ frame,
            Frame.parse (unstuff (Link.request command payload link.mode))
              link.channel.peer.program.mode = .ok frame →
            frame.kind = Command.execData.code → link.channel.peer.program = .first →
            14 ≤ policy.attempts - 1 := by
          intro frame hparse hkind hfirst
          rw [Link.request, Frame.unstuff_encode] at hparse
          obtain ⟨rfl, hcheck⟩ := Frame.eq_of_parse_toBytes hlen hparse
          have hexec : command = .execData := by
            have := Command.ofCode?_code command
            rw [show command.code = Command.execData.code from hkind,
              Command.ofCode?_code] at this
            cases this
            rfl
          obtain ⟨rfl, hmode | hattempts⟩ := hstart hexec
          · -- the first loader cannot read what the boot ROM is sent
            rw [Frame.checksum_sealed, Frame.kind_sealed, Frame.payload_sealed, hfirst, hexec,
              hmode] at hcheck
            exact absurd hcheck crc_ne_sum_execData
          · omega
        have hreceive := h.receiveAgain_wrote hconn hlate
        rw [Link.exchange_eq hlen hconn]
        unfold Link.receive
        cases hagain : Link.receiveAgain (policy.attempts - 1)
            (link.wrote (Link.request command payload link.mode)) with
        | error cause after =>
            rw [hagain] at hreceive
            exact hreceive
        | ok reply after =>
            rw [hagain] at hreceive
            show InSync modes (endState (Link.judge command policy reply after))
            unfold Link.judge
            split
            · exact hreceive
            · exact hreceive
  · rw [Link.exchange_of_long (Nat.lt_of_not_le hlen)]
    exact h

-- ============================================================== probes

/-- A probe is too short for a frame, so it starts no image. -/
theorem receiveFrame_probe {link : Link Device} (h : InSync modes link)
    (hconn : link.channel.connected = true) :
    InSync modes (endState (Link.receiveFrame (link.wrote [delimiter]))) := by
  show InSync modes (endState (Link.receiveAgain 0 (link.wrote [delimiter])))
  refine h.receiveAgain_wrote hconn fun frame hparse _ _ => ?_
  cases hmode : link.channel.peer.program.mode <;> rw [hmode] at hparse <;> cases hparse

theorem probeAgain (more : Nat) :
    Keeps (InSync modes) (Link.probeAgain (σ := Device) more) := by
  induction more with
  | zero =>
      intro link h
      cases hconn : link.channel.connected with
      | false =>
          show InSync modes (endState ((Link.write [delimiter] >>= _) link))
          simp only [bind, EStateM.bind, Link.write_of_disconnected _ hconn]
          exact h
      | true =>
          have hreceive := h.receiveFrame_probe hconn
          show InSync modes (endState ((Link.write [delimiter] >>= _) link))
          simp only [bind, EStateM.bind, Link.write_of_connected _ hconn]
          split
          · rename_i hrun
            rw [hrun] at hreceive
            exact hreceive
          · rename_i hrun
            rw [hrun] at hreceive
            exact hreceive
  | succ more ih =>
      intro link h
      unfold Link.probeAgain Link.sendProbe
      cases hconn : link.channel.connected with
      | false =>
          rw [Link.write_of_disconnected _ hconn]
          exact h
      | true =>
          have hreceive := h.receiveFrame_probe hconn
          rw [Link.write_of_connected _ hconn]
          dsimp only
          split
          · rename_i hrun
            rw [hrun] at hreceive
            exact hreceive
          · rename_i hrun
            rw [hrun] at hreceive
            split
            · exact ih _ hreceive
            · exact hreceive

/-- So all that transfers and greetings do to the link keeps it in
sync. -/
theorem lasting (modes : ChecksumMode → Prop) : Lasting (InSync modes) where
  exchange _ _ _ hcommand _ h := h.exchange fun he => absurd he hcommand
  probe attempts := probeAgain (attempts - 1)
  events _ _ h := ⟨h.empty, h.stalls, h.mode⟩

end InSync

end FlashLink
