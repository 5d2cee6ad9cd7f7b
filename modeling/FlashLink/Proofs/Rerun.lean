/-
Bring-up after bring-up.

A course outlives its run, and another run may follow on it. A run
begins in the mode of the stage it finds, and every run ends ready or
aborted, which are stages of the loaders (`mode_of_ran`). So a course
speaks to the boot ROM in the boot ROM's mode once: every later run is
in the mode of the loaders from its first frame on, whatever the device
answered before and whatever it answers now.

What a run writes is a front of one transcript, as on a new course, with
the mode of the first half left open (`transcriptFrom`). Over a link
that is connected it gets as far as the connection, which is the first
frame it sends; so the modes can be told apart in every run there is.
-/
import FlashLink.Proofs.BringUp
import FlashLink.Proofs.Lasting

namespace FlashLink

open Link (Wrote request)
open Stuffing (delimiter)

variable {σ : Type} [Peer σ]

namespace Link

-- ==================================================== what stays written

/-- From one link to another nothing was taken back, and nothing was
written unless there is a device. -/
structure Onward (link after : Link σ) : Prop where
  connected : after.channel.connected = link.channel.connected
  sent : link.channel.sent <+: after.channel.sent
  unplugged : link.channel.connected = false → after.channel.sent = link.channel.sent

namespace Onward

variable {a b c : Link σ}

omit [Peer σ] in
theorem refl (link : Link σ) : Onward link link := ⟨rfl, List.prefix_rfl, fun _ => rfl⟩

omit [Peer σ] in
theorem trans (h : Onward a b) (h' : Onward b c) : Onward a c where
  connected := h'.connected.trans h.connected
  sent := h.sent.trans h'.sent
  unplugged hgone := (h'.unplugged (h.connected.trans hgone)).trans (h.unplugged hgone)

omit [Peer σ] in
theorem of_wrote {buffers : List Bytes} (h : Wrote a buffers b)
    (hconn : a.channel.connected = true) : Onward a b where
  connected := h.connected
  sent := h.sent ▸ List.prefix_append ..
  unplugged hgone := by
    rw [hconn] at hgone
    cases hgone

end Onward

theorem exchange_onward (command : Command) (payload : Bytes) (policy : Policy) (link : Link σ) :
    Onward link (endState (exchange command payload policy link)) := by
  by_cases hlen : payload.length ≤ Frame.maxPayload
  · cases hconn : link.channel.connected with
    | false =>
        rw [exchange_of_disconnected hlen hconn]
        exact .refl link
    | true => exact .of_wrote (exchange_wrote hlen policy hconn) hconn
  · rw [exchange_of_long (Nat.lt_of_not_le hlen)]
    exact .refl link

theorem probeAgain_of_disconnected {link : Link σ} (hconn : link.channel.connected = false)
    (more : Nat) : probeAgain more link = .error (.channel .disconnected) link := by
  cases more with
  | zero =>
      unfold probeAgain sendProbe
      exact bind_of_error (write_of_disconnected _ hconn) _
  | succ more =>
      unfold probeAgain sendProbe
      rw [write_of_disconnected _ hconn]

theorem probe_onward (attempts : Nat) (link : Link σ) :
    Onward link (endState (probe attempts link)) := by
  unfold probe
  cases hconn : link.channel.connected with
  | false =>
      rw [probeAgain_of_disconnected hconn]
      exact .refl link
  | true =>
      obtain ⟨n, -, -, hwrote⟩ := probeAgain_wrote hconn (attempts - 1)
      exact .of_wrote hwrote hconn

/-- So it is through every transfer, and through every bring-up. -/
theorem lasting_onward (link : Link σ) : Lasting (Onward link) where
  exchange command payload policy _ _ h := h.trans (exchange_onward command payload policy _)
  probe attempts _ h := h.trans (probe_onward attempts _)
  events _ _ h := ⟨h.connected, h.sent, h.unplugged⟩

end Link

namespace BringUp

open Link (Onward)

variable (audience : Audience) (first second : LoaderImage)

theorem stages_onward (course : Course) (link : Link σ) :
    Onward link (endState (stages audience first second (course, link))).2 :=
  (Link.lasting_onward link).stages
    (fun policy _ h => h.trans (Link.exchange_onward .execData [] policy _))
    (fun _ _ h => ⟨h.connected, h.sent, h.unplugged⟩) audience first second (course, link)
    (.refl link)

-- ========================================================= one more run

/-- What a bring-up writes whose first half is in some mode, with the
first loader probed so often. -/
def transcriptFrom (mode : ChecksumMode) (probes : Nat) : List Bytes :=
  ([delimiter] :: loading mode first)
    ++ (List.replicate probes [delimiter] ++ loading .sum second)

/-- A greeting does not fail. -/
theorem greet_ok (phase : SessionPhase) (probes : Nat) (link : Link σ) :
    ∃ version after, greet audience phase probes link = .ok version after := by
  unfold greet
  split
  · exact ⟨_, _, rfl⟩
  · exact ⟨_, _, rfl⟩

omit [Peer σ] in
theorem endState_onLink {α : Type} (act : LinkM σ α) (course : Course) (link : Link σ) :
    endState (onLink act (course, link)) = (course, endState (act link)) := by
  unfold onLink
  dsimp only
  cases act link <;> rfl

/-- A link at the beginning of a first half. -/
def begun (course : Course) (link : Link σ) : Link σ :=
  { link with
    mode := course.stage.mode
    events := audience.hear link.events (.phaseChanged .waitingForDevice .bootRom) }

/-- The first half greets and goes on, whatever is answered. -/
theorem bootFirst_greets (course : Course) (link : Link σ) :
    ∃ version greeted, greet audience .bootRom romProbes (begun audience course link)
        = .ok version greeted
      ∧ bootFirst audience first (course, link)
        = half audience first .connected .firstLoaded .ack
            (fun _ => do
              enter .firstRunning
              return version) (course, greeted) := by
  obtain ⟨version, greeted, hgreet⟩ := greet_ok audience .bootRom romProbes
    (begun audience course link)
  refine ⟨version, greeted, hgreet, ?_⟩
  rw [bootFirst_eq]
  show (onLink (greet audience .bootRom romProbes) >>= _) (course, begun audience course link) = _
  rw [bind_of_ok (onLink_of_ok hgreet course)]

/-- It probes once and connects, whatever comes of it. -/
theorem bootFirst_connects (course : Course) {link : Link σ}
    (hconn : link.channel.connected = true) :
    link.channel.sent ++ [[delimiter], request .connect [] course.stage.mode]
      <+: (endState (bootFirst audience first (course, link))).2.channel.sent := by
  obtain ⟨version, greeted, hgreet, hboot⟩ := bootFirst_greets audience first course link
  obtain ⟨n, hpos, hle, hfollows⟩ :=
    greet_follows audience .bootRom (Nat.le_refl romProbes) (begun audience course link) hconn
  have hn : n = 1 := Nat.le_antisymm hle hpos
  subst hn
  have hgreeted : Wrote (begun audience course link) [[delimiter]] greeted :=
    hfollows.of_ok hgreet
  have hconnected : Wrote greeted [request .connect [] course.stage.mode]
      (endState (connect greeted)) := by
    unfold connect
    rw [endState_bind_pure, ← show greeted.mode = course.stage.mode from hgreeted.mode]
    exact Link.exchange_wrote (Nat.zero_le _) .ack (hgreeted.connected.trans hconn)
  -- nothing behind the connection takes anything back
  have hbehind : Onward (endState (connect greeted))
      (endState (bootFirst audience first (course, link))).2 := by
    have hlasting := Link.lasting_onward (endState (connect greeted))
    rw [hboot]
    unfold half
    refine Keeps.after (P := fun s : Course × Link σ => Onward (endState (connect greeted)) s.2)
      (Q := (· = (course, greeted))) ?_ ?_ rfl
    · rintro _ rfl
      rw [endState_onLink]
      exact .refl _
    · intro _
      refine (Keeps.enter _).bind fun _ => ?_
      refine (hlasting.load _ _).onLink.bind fun _ => ?_
      refine (Keeps.enter _).bind fun _ => ?_
      refine Keeps.bind (Keeps.onLink fun _ h => h.trans (Link.exchange_onward ..)) fun _ => ?_
      exact (Keeps.enter _).bind fun _ => Keeps.pure _
  have hsent := hbehind.sent
  rw [hconnected.sent, hgreeted.sent, List.append_assoc] at hsent
  exact hsent

/-- Without a device it goes no further. -/
theorem bootFirst_of_disconnected (course : Course) {link : Link σ}
    (hconn : link.channel.connected = false) :
    ∃ after, bootFirst audience first (course, link) = .error (.channel .disconnected) after := by
  obtain ⟨version, greeted, hgreet, hboot⟩ := bootFirst_greets audience first course link
  have hgreeted : Onward (begun audience course link) greeted :=
    ((Link.lasting_onward _).greet audience .bootRom romProbes).of_ok (.refl _) hgreet
  have hexchange :
      Link.exchange .connect [] .ack greeted = .error (.channel .disconnected) greeted :=
    Link.exchange_of_disconnected (Nat.zero_le _) (hgreeted.connected.trans hconn)
  refine ⟨(course, greeted), ?_⟩
  rw [hboot]
  unfold half
  exact bind_of_error (onLink_of_error (bind_of_error hexchange _) course) _

/-- What a run writes, on any course. -/
structure Ran (mode : ChecksumMode) (link : Link σ) (probes : Nat) (buffers : List Bytes)
    (run : EStateM.Result Failure (Course × Link σ) BootReport) : Prop where
  probed : probes = 1 ∨ probes = 2
  front : buffers <+: transcriptFrom first second mode probes
  connected : (endState run).2.channel.connected = link.channel.connected
  sent : (endState run).2.channel.sent = link.channel.sent ++ buffers
  begun : link.channel.connected = true → [[delimiter], request .connect [] mode] <+: buffers
  unplugged : link.channel.connected = false → buffers = []
  whole : ∀ report s, run = .ok report s →
    buffers = transcriptFrom first second mode probes ∧ s.1.stage = .ready

theorem stages_ran (course : Course) (link : Link σ) :
    ∃ probes buffers, Ran first second course.stage.mode link probes buffers
      (stages audience first second (course, link)) := by
  have honward := stages_onward audience first second course link
  cases hconn : link.channel.connected with
  | false =>
      obtain ⟨after, hboot⟩ := bootFirst_of_disconnected audience first course hconn
      refine ⟨1, [], .inl rfl, List.nil_prefix, honward.connected, ?_, ?_, fun _ => rfl, ?_⟩
      · rw [List.append_nil]
        exact honward.unplugged hconn
      · rw [hconn]
        intro h
        cases h
      · intro report s h
        unfold stages at h
        rw [bind_of_error hboot] at h
        cases h
  | true =>
      have hfirst := bootFirst_follows audience course first hconn
      have hconnects := bootFirst_connects audience first course hconn
      have hgone : link.channel.connected = false → ∀ buffers : List Bytes, buffers = [] := by
        rw [hconn]
        intro h
        cases h
      have hconnected := honward.connected
      unfold stages at hconnected ⊢
      cases hboot : bootFirst audience first (course, link) with
      | error cause s =>
          obtain ⟨front, hfront, hmade⟩ := hfirst.of_error hboot
          obtain ⟨-, buffers, hbuffers, hsent⟩ := hmade.of_front hfront
          rw [List.filterMap_append, bytes_moves] at hbuffers
          rw [hboot, endState_error, hsent] at hconnects
          rw [bind_of_error hboot] at hconnected ⊢
          refine ⟨1, buffers, .inl rfl, hbuffers.trans (List.prefix_append ..), hconnected, hsent,
            fun _ => (List.prefix_append_right_inj _).1 hconnects, fun h => hgone h _, ?_⟩
          intro report s h
          cases h
      | ok version s =>
          have hmade := hfirst.of_ok hboot
          have hsent := hmade.wrote.sent
          rw [List.filterMap_append, bytes_moves] at hsent
          obtain ⟨probes, hprobes, hsecond⟩ :=
            bootSecond_follows audience s.1 second (hmade.wrote.connected.trans hconn)
          have hbegun : [[delimiter], request .connect [] course.stage.mode]
              <+: [delimiter] :: loading course.stage.mode first := List.prefix_append ..
          rw [bind_of_ok hboot] at hconnected ⊢
          cases hrun : bootSecond audience second s with
          | error cause t =>
              obtain ⟨front, hfront, hmade'⟩ := hsecond.of_error hrun
              obtain ⟨-, buffers, hbuffers, htsent⟩ := hmade'.of_front hfront
              rw [List.filterMap_append, Move.bytes_writes, bytes_moves] at hbuffers
              rw [bind_of_error hrun] at hconnected ⊢
              refine ⟨probes, ([delimiter] :: loading course.stage.mode first) ++ buffers, hprobes,
                (List.prefix_append_right_inj _).2 hbuffers, hconnected, ?_,
                fun _ => hbegun.trans (List.prefix_append ..), fun h => hgone h _, ?_⟩
              · rw [endState_error, htsent, ← List.append_assoc]
                exact congrArg (· ++ buffers) hsent
              · intro report s h
                cases h
          | ok value t =>
              have hmade' := hsecond.of_ok hrun
              have htsent := hmade'.wrote.sent
              have hreached := hmade'.reached
              rw [List.filterMap_append, Move.bytes_writes, bytes_moves] at htsent
              rw [List.filterMap_append, Move.stages_writes, stages_moves] at hreached
              have hready : t.1.stage = .ready := by
                have hlast := congrArg List.getLast? hreached
                simpa [Course.reached] using hlast
              rw [bind_of_ok hrun] at hconnected ⊢
              refine ⟨probes, transcriptFrom first second course.stage.mode probes, hprobes,
                List.prefix_rfl, hconnected, ?_, fun _ => hbegun.trans (List.prefix_append ..),
                fun h => hgone h _, ?_⟩
              · show t.2.channel.sent = _
                rw [htsent]
                show s.2.channel.sent ++ _ = _
                rw [hsent, List.append_assoc]
                rfl
              · rintro report _ ⟨⟩
                exact ⟨rfl, hready⟩

/-- A run that fails is told of, and writes nothing more. -/
theorem run_ran (course : Course) (link : Link σ) :
    ∃ probes buffers, Ran first second course.stage.mode link probes buffers
      (run audience first second (course, link)) := by
  obtain ⟨probes, buffers, h⟩ := stages_ran audience first second course link
  refine ⟨probes, buffers, ?_⟩
  cases hrun : stages audience first second (course, link) with
  | ok report s =>
      rw [run_of_ok hrun, ← hrun]
      exact h
  | error cause s =>
      rw [run_of_error hrun]
      rw [hrun] at h
      refine ⟨h.probed, h.front, h.connected, h.sent, h.begun, h.unplugged, ?_⟩
      intro report s heq
      cases heq

/-- However a run ends, the stage it leaves is one of the loaders'. -/
theorem mode_run (course : Course) (link : Link σ) :
    (endState (run audience first second (course, link))).1.stage.mode = .sum := by
  obtain ⟨probes, buffers, h⟩ := stages_ran audience first second course link
  cases hrun : stages audience first second (course, link) with
  | ok report s =>
      rw [run_of_ok hrun, endState_ok, (h.whole report s hrun).2]
      rfl
  | error cause s =>
      rw [run_of_error hrun]
      rfl

-- ============================================================ many runs

/-- A course after so many runs, each with its own images and over the
link as it was by then. -/
inductive RanBefore (σ : Type) [Peer σ] : Nat → Course → Prop where
  | new : RanBefore σ 0 .start
  | again {runs : Nat} {course : Course} (h : RanBefore σ runs course) (audience : Audience)
      (first second : LoaderImage) (link : Link σ) :
      RanBefore σ (runs + 1) (endState (run audience first second (course, link))).1

theorem RanBefore.mode {runs : Nat} {course : Course} (h : RanBefore σ runs course) :
    course.stage.mode = if runs = 0 then .crc else .sum := by
  cases h with
  | new => rfl
  | again h audience first second link => exact mode_run audience first second _ link

/-- Run after run on one course, whatever the devices answer: each run
writes a front of the transcript, from a probe and a connection on if
there is a device, and all of it if it succeeds. The first run loads the
boot ROM in its own mode. Every later one, behind a run that was aborted
as behind one that was not, does so in the mode of the loaders. -/
theorem run_again {runs : Nat} {course : Course} (h : RanBefore σ runs course)
    (link : Link σ) :
    ∃ probes buffers, Ran first second (if runs = 0 then .crc else .sum) link probes buffers
      (run audience first second (course, link)) := by
  rw [← h.mode]
  exact run_ran audience first second course link

/-- A device that answers nothing, with a silence and a stray byte in
the queue. -/
def strayByte : Link Unit :=
  .ofChannel { Channel.connect () with arrivals := [.silence, .chunk [0x7E]] } .sum

/-- Where a bring-up of a device that answers nothing leaves course and
link. -/
def abandoned : Course × Link Unit :=
  endState (run .recorder (threeBytes 0x5500) (threeBytes 0x9EFFFE00) (.start, strayByte))

theorem ranBefore_abandoned : RanBefore Unit 1 abandoned.1 :=
  .again .new .recorder (threeBytes 0x5500) (threeBytes 0x9EFFFE00) strayByte

theorem run_again_abandoned :
    RanBefore Unit 1 abandoned.1
      ∧ ∃ probes buffers, Ran (threeBytes 0x5500) (threeBytes 0x9EFFFE00) .sum abandoned.2 probes
        buffers (run .recorder (threeBytes 0x5500) (threeBytes 0x9EFFFE00) abandoned) :=
  ⟨ranBefore_abandoned,
    run_again .recorder (threeBytes 0x5500) (threeBytes 0x9EFFFE00) ranBefore_abandoned abandoned.2⟩

/-- The boot ROM that did not answer is still there, and a second run
does not speak its mode: what it writes is no front of what a new course
writes. -/
theorem run_abandoned_not_crc :
    ¬ ∃ probes buffers,
      buffers <+: transcriptFrom (threeBytes 0x5500) (threeBytes 0x9EFFFE00) .crc probes
        ∧ (endState (run .recorder (threeBytes 0x5500) (threeBytes 0x9EFFFE00)
            abandoned)).2.channel.sent = abandoned.2.channel.sent ++ buffers := by
  rintro ⟨probes, buffers, hfront, hsent⟩
  obtain ⟨_, _, hfirst⟩ := run_ran .recorder (threeBytes 0x5500) (threeBytes 0x9EFFFE00)
    .start strayByte
  obtain ⟨_, written, hran⟩ := run_ran .recorder (threeBytes 0x5500) (threeBytes 0x9EFFFE00)
    abandoned.1 abandoned.2
  have hsame : buffers = written := List.append_cancel_left (hsent.symm.trans hran.sent)
  have hconn : abandoned.2.channel.connected = true := by
    unfold abandoned
    rw [hfirst.connected]
    rfl
  have hbegun := hran.begun hconn
  rw [ranBefore_abandoned.mode, if_neg Nat.one_ne_zero, ← hsame] at hbegun
  -- the connection is told apart by its checksum
  obtain ⟨rest, hrest⟩ := hbegun.trans hfront
  have hconnect : request .connect [] .sum = request .connect [] .crc :=
    (List.cons.inj (List.cons.inj hrest).2).1
  have hframe : Frame.sealed Command.connect.code [] .sum
      = Frame.sealed Command.connect.code [] .crc := Frame.encode_injective hconnect
  have hcheck := congrArg Frame.checksum hframe
  rw [Frame.checksum_sealed, Frame.checksum_sealed] at hcheck
  exact sum_ne_crc_connect hcheck

end BringUp

end FlashLink
