/-
Reading a frame as it comes, and reading it at once.

A receiver takes chunks off the queue, however the bytes of a frame and
whatever stands around them were cut, and unstuffs each chunk on its
own. Here nothing is assumed of the bytes: pairs may stand for nothing,
a chunk may be garbage, and bytes may follow the frame in its last
chunk. What is proved is that the cuts leave no trace in the answer.
With `pieces` the chunks that were read (`Heard`), whatever frame is
received is the one that their bytes, put together first and then
unstuffed and parsed at once, decode to (`Decodes`).

The invariant of `collect` is that what it holds is what the bytes read
so far unstuff to. It is kept because a chunk is only passed on once it
does not end in an escape, and such a cut divides no pair
(`Stuffing.Whole.of_endsMidEscape`).

`Heard` is kept by an attempt on every exit, so it also tells what an
exchange read before it was answered, or gave up.
-/
import FlashLink.Proofs.Exchange

namespace FlashLink

open Stuffing (delimiter unstuff endsMidEscape)

variable {σ : Type}

namespace Channel

/-- The bytes that wait in a queue. -/
def waiting (arrivals : List Arrival) : Bytes :=
  arrivals.flatMap fun
    | .chunk bytes => bytes
    | .silence => []

@[simp] theorem waiting_chunk (bytes : Bytes) (rest : List Arrival) :
    waiting (.chunk bytes :: rest) = bytes ++ waiting rest := rfl

@[simp] theorem waiting_silence (rest : List Arrival) :
    waiting (.silence :: rest) = waiting rest := rfl

/-- What is recorded of a read: its bytes, unless there are none. -/
def recorded (bytes : Bytes) : List Bytes := if bytes.isEmpty then [] else [bytes]

theorem recorded_of_ne {bytes : Bytes} (h : bytes ≠ []) : recorded bytes = [bytes] := by
  unfold recorded
  rw [List.isEmpty_eq_false_iff.2 h]
  rfl

@[simp] theorem flatten_recorded (bytes : Bytes) : (recorded bytes).flatten = bytes := by
  cases bytes with
  | nil => rfl
  | cons b rest => exact List.append_nil _

theorem toList_traceHeard (traffic : Array Traffic) (bytes : Bytes) :
    (traceHeard traffic bytes).toList = traffic.toList ++ (recorded bytes).map .heard := by
  cases bytes with
  | nil => exact (List.append_nil _).symm
  | cons b rest => exact Array.toList_push

/-- What is read is taken off the front of what waits. -/
theorem waiting_of_read_ok {limit : Nat} {channel after : Channel σ} {bytes : Bytes}
    (h : read limit channel = .ok bytes after) :
    after.traffic = traceHeard channel.traffic bytes
      ∧ waiting channel.arrivals = bytes ++ waiting after.arrivals := by
  unfold read at h
  split at h
  · split at h
    · cases h
    · cases h
    · rename_i chunk rest harr
      rw [harr]
      split at h
      · cases h
        refine ⟨rfl, ?_⟩
        rw [waiting_chunk, waiting_chunk, ← List.append_assoc, List.take_append_drop]
      · cases h
        exact ⟨rfl, rfl⟩
  · cases h

/-- A read that fails takes no byte. -/
theorem waiting_of_read_error {limit : Nat} {channel after : Channel σ} {cause : ChannelFailure}
    (h : read limit channel = .error cause after) :
    after.traffic = channel.traffic ∧ waiting channel.arrivals = waiting after.arrivals := by
  unfold read at h
  split at h
  · split at h
    · cases h
      exact ⟨rfl, rfl⟩
    · rename_i rest harr
      cases h
      rw [harr]
      exact ⟨rfl, rfl⟩
    · split at h
      · cases h
      · cases h
  · cases h
    exact ⟨rfl, rfl⟩

end Channel

namespace Link

open Channel (waiting)

-- ======================================================= what was heard

/-- From one link to another some chunks were read, and nothing else
happened on the channel: their bytes are gone from the front of what
was waiting. -/
structure Heard (link : Link σ) (pieces : List Bytes) (after : Link σ) : Prop where
  traffic : after.channel.traffic.toList = link.channel.traffic.toList ++ pieces.map .heard
  waiting : waiting link.channel.arrivals = pieces.flatten ++ waiting after.channel.arrivals

namespace Heard

variable {a b c : Link σ} {pieces more : List Bytes}

theorem trans (h : Heard a pieces b) (h' : Heard b more c) : Heard a (pieces ++ more) c := by
  refine ⟨?_, ?_⟩
  · rw [h'.traffic, h.traffic, List.map_append, List.append_assoc]
  · rw [h.waiting, h'.waiting, List.flatten_append, List.append_assoc]

/-- What was heard is in the record. -/
theorem unique (h : Heard a pieces b) (h' : Heard a more b) : pieces = more := by
  have htraffic := List.append_cancel_left (h.traffic.symm.trans h'.traffic)
  exact (List.map_inj_right fun _ _ => Traffic.heard.inj).1 htraffic

end Heard

/-- A run that does nothing but hear, and what its answer is for the
chunks it heard. -/
def Hears {α : Type} (link : Link σ) (answers : List Bytes → α → Prop)
    (run : EStateM.Result Failure (Link σ) α) : Prop :=
  ∃ pieces, Heard link pieces (endState run)
    ∧ ∀ value after, run = .ok value after → answers pieces value

namespace Hears

variable {α : Type} {link after : Link σ} {pieces : List Bytes}
  {answers : List Bytes → α → Prop}

theorem ok (h : Heard link pieces after) {value : α} (hvalue : answers pieces value) :
    Hears link answers (.ok value after) := by
  refine ⟨pieces, h, ?_⟩
  intro other last heq
  cases heq
  exact hvalue

theorem error (h : Heard link pieces after) (cause : Failure) :
    Hears link answers (.error cause after) := by
  refine ⟨pieces, h, ?_⟩
  intro value last heq
  cases heq

theorem of_ok {run : EStateM.Result Failure (Link σ) α} (h : Hears link answers run) {value : α}
    (hrun : run = .ok value after) : ∃ pieces, Heard link pieces after ∧ answers pieces value := by
  obtain ⟨pieces, hheard, hanswers⟩ := h
  rw [hrun] at hheard
  exact ⟨pieces, hheard, hanswers value after hrun⟩

theorem of_error {run : EStateM.Result Failure (Link σ) α} (h : Hears link answers run)
    {cause : Failure} (hrun : run = .error cause after) : ∃ pieces, Heard link pieces after := by
  obtain ⟨pieces, hheard, -⟩ := h
  rw [hrun] at hheard
  exact ⟨pieces, hheard⟩

theorem mono {others : List Bytes → α → Prop}
    (himp : ∀ pieces value, others pieces value → answers pieces value)
    {run : EStateM.Result Failure (Link σ) α} (h : Hears link others run) :
    Hears link answers run := by
  obtain ⟨pieces, hheard, hothers⟩ := h
  exact ⟨pieces, hheard, fun value last heq => himp _ _ (hothers value last heq)⟩

/-- A run behind others that heard something. -/
theorem behind (h : Heard link pieces after) {run : EStateM.Result Failure (Link σ) α}
    {others : List Bytes → α → Prop} (hrun : Hears after others run)
    (himp : ∀ more value, others more value → answers (pieces ++ more) value) :
    Hears link answers run := by
  obtain ⟨more, hmore, hothers⟩ := hrun
  exact ⟨pieces ++ more, h.trans hmore, fun value last heq => himp _ _ (hothers value last heq)⟩

end Hears

/-- A read hears what it answers. -/
theorem heard_of_read_ok {link after : Link σ} {bytes : Bytes} (h : read link = .ok bytes after) :
    Heard link (Channel.recorded bytes) after := by
  unfold read at h
  split at h
  · rename_i hread
    cases h
    obtain ⟨htraffic, hwaiting⟩ := Channel.waiting_of_read_ok hread
    refine ⟨?_, ?_⟩
    · rw [htraffic, Channel.toList_traceHeard]
    · rw [Channel.flatten_recorded, hwaiting]
  · cases h

/-- One that fails hears nothing. -/
theorem heard_of_read_error {link after : Link σ} {cause : Failure}
    (h : read link = .error cause after) : Heard link [] after := by
  unfold read at h
  split at h
  · cases h
  · rename_i hread
    cases h
    obtain ⟨htraffic, hwaiting⟩ := Channel.waiting_of_read_error hread
    refine ⟨?_, hwaiting⟩
    rw [htraffic]
    exact (List.append_nil _).symm

theorem read_hears (link : Link σ) :
    Hears link (fun pieces bytes => bytes = pieces.flatten) (read link) := by
  cases hread : read link with
  | ok bytes after => exact .ok (heard_of_read_ok hread) (Channel.flatten_recorded bytes).symm
  | error cause after => exact .error (heard_of_read_error hread) cause

/-- A chunk that is passed on is what was heard, and may be unstuffed
whatever follows it. -/
theorem receiveChunk_hears (empty : String) (link : Link σ) :
    Hears link
      (fun pieces bytes => bytes = pieces.flatten ∧ bytes ≠ [] ∧ endsMidEscape bytes = false)
      (receiveChunk empty link) := by
  induction empty, link using receiveChunk.induct with
  | case1 empty link cause after hread =>
      obtain ⟨pieces, hheard⟩ := (read_hears link).of_error hread
      rw [receiveChunk, hread]
      exact .error hheard cause
  | case2 empty link bytes after hread hempty =>
      obtain ⟨pieces, hheard, -⟩ := (read_hears link).of_ok hread
      rw [receiveChunk, hread]
      simp only [hempty, if_true]
      exact .error hheard _
  | case3 empty link bytes after hread hempty hescape more last hmore ih =>
      obtain ⟨pieces, hheard, rfl⟩ := (read_hears link).of_ok hread
      obtain ⟨others, hothers, rfl, hne, hend⟩ := ih.of_ok hmore
      rw [receiveChunk, hread]
      simp only [hempty, hescape, hmore, if_true]
      refine .ok (hheard.trans hothers) ⟨List.flatten_append.symm, ?_, ?_⟩
      · exact fun h => hne (List.append_eq_nil_iff.1 h).2
      · rw [Stuffing.endsMidEscape_append _ hne, hend]
  | case4 empty link bytes after hread hempty hescape cause last hmore ih =>
      obtain ⟨pieces, hheard, -⟩ := (read_hears link).of_ok hread
      obtain ⟨others, hothers⟩ := ih.of_error hmore
      rw [receiveChunk, hread]
      simp only [hempty, hescape, hmore, if_true]
      exact .error (hheard.trans hothers) cause
  | case5 empty link bytes after hread hempty hescape =>
      obtain ⟨pieces, hheard, rfl⟩ := (read_hears link).of_ok hread
      rw [receiveChunk, hread]
      simp only [hempty, hescape]
      refine .ok hheard ⟨rfl, ?_, by simpa using hescape⟩
      intro hnil
      rw [hnil] at hempty
      exact hempty rfl

-- =============================================================== at once

/-- Unstuffed bytes that begin with a frame: they announce a length that
is there, and so many of them parse as the frame. -/
def Decodes (raw : Bytes) (mode : ChecksumMode) (f : Frame) : Prop :=
  ∃ length, Frame.announcedLength raw = some length ∧ length ≤ raw.length
    ∧ Frame.parse (raw.take length) mode = .ok f

theorem Decodes.unique {raw : Bytes} {mode : ChecksumMode} {f g : Frame} (h : Decodes raw mode f)
    (h' : Decodes raw mode g) : f = g := by
  obtain ⟨n, hn, -, hf⟩ := h
  obtain ⟨m, hm, -, hg⟩ := h'
  rw [hn] at hm
  cases hm
  rw [hf] at hg
  exact Except.ok.inj hg

/-- Behind bytes that were read already, a frame that is received is
what those and the bytes heard decode to. -/
theorem collect_hears (raw : Array UInt8) (link : Link σ) :
    Hears link (fun pieces f => Decodes (raw.toList ++ unstuff pieces.flatten) link.mode f)
      (collect raw link) := by
  have hchunk := receiveChunk_hears "Empty response" link
  have hmode := (steady_receiveChunk "Empty response" link).mode
  rw [collect]
  split
  · rename_i cause after hreceive
    obtain ⟨pieces, hheard⟩ := hchunk.of_error hreceive
    exact .error hheard cause
  · rename_i chunk after hreceive
    obtain ⟨pieces, hheard, rfl, -, hend⟩ := hchunk.of_ok hreceive
    rw [show receiveChunk "Empty response" link = _ from hreceive] at hmode
    have hlt : after.channel.weight < link.channel.weight := weight_receiveChunk_lt hreceive
    dsimp only
    generalize hraw' : raw.appendList (unstuff pieces.flatten) = raw'
    have hheld : raw'.toList = raw.toList ++ unstuff pieces.flatten := by
      rw [← hraw', Array.appendList_eq_append, Array.toList_appendList]
    -- the invariant of the loop: a chunk more is held as if read at once
    have hagain : Hears link
        (fun pieces f => Decodes (raw.toList ++ unstuff pieces.flatten) link.mode f)
        (collect raw' after) := by
      refine .behind hheard (collect_hears raw' after) ?_
      intro more f hf
      rw [List.flatten_append, (Stuffing.Whole.of_endsMidEscape hend).unstuff_append,
        ← List.append_assoc, ← hheld]
      rwa [show after.mode = link.mode from hmode] at hf
    split
    · exact .error hheard _
    · split
      · rename_i length hlength
        split
        · rename_i hle
          split
          · rename_i f hparse
            rw [show after.mode = link.mode from hmode, hheld] at hparse
            rw [announcedLength_extract, hheld] at hlength
            refine .ok hheard ⟨length, hlength, ?_, hparse⟩
            rw [← hheld]
            exact hle
          · exact .error hheard _
        · exact hagain
      · exact hagain
  termination_by link.channel.weight

theorem receiveFrame_hears (link : Link σ) :
    Hears link (fun pieces f => Decodes (unstuff pieces.flatten) link.mode f) (receiveFrame link) :=
  collect_hears #[] link

/-- Of all that several attempts heard, the last of them heard the
frame. -/
theorem receiveAgain_hears (more : Nat) (link : Link σ) :
    Hears link
      (fun pieces f => ∃ missed last, pieces = missed ++ last
        ∧ Decodes (unstuff last.flatten) link.mode f)
      (receiveAgain more link) := by
  induction more generalizing link with
  | zero =>
      refine .mono ?_ (receiveFrame_hears link)
      exact fun pieces f hf => ⟨[], pieces, rfl, hf⟩
  | succ more ih =>
      have hfirst := receiveFrame_hears link
      have hmode := (steady_receiveFrame link).mode
      rw [receiveAgain_succ]
      split
      · rename_i f after hreceive
        obtain ⟨pieces, hheard, hf⟩ := hfirst.of_ok hreceive
        exact .ok hheard ⟨[], pieces, rfl, hf⟩
      · rename_i cause after hreceive
        obtain ⟨pieces, hheard⟩ := hfirst.of_error hreceive
        rw [hreceive] at hmode
        split
        · refine .behind hheard (ih after) ?_
          rintro others f ⟨missed, last, rfl, hf⟩
          rw [show after.mode = link.mode from hmode] at hf
          exact ⟨pieces ++ missed, last, (List.append_assoc ..).symm, hf⟩
        · exact .error hheard cause

/-- However its bytes were cut, and whatever they are, the frame that
an attempt receives is read off the bytes it took: put together,
unstuffed, cut to the length they announce and parsed. So its checksum
is that of its content, and the same bytes in other chunks are the same
frame. -/
theorem receiveFrame_decodes {link after : Link σ} {f : Frame}
    (h : receiveFrame link = .ok f after) :
    ∃ pieces length reserved, Heard link pieces after
      ∧ Frame.announcedLength (unstuff pieces.flatten) = some length
      ∧ length ≤ (unstuff pieces.flatten).length
      ∧ Frame.parse ((unstuff pieces.flatten).take length) link.mode = .ok f
      ∧ (unstuff pieces.flatten).take length = Frame.bytesUnder reserved f
      ∧ f.checksum = link.mode.checksum (Frame.bodyUnder reserved f.kind f.payload)
      ∧ ∀ (τ : Type) (other last : Link τ) (g : Frame) (others : List Bytes),
          other.mode = link.mode → receiveFrame other = .ok g last →
          Heard other others last → others.flatten = pieces.flatten → g = f := by
  obtain ⟨pieces, hheard, hdecodes⟩ := (receiveFrame_hears link).of_ok h
  obtain ⟨length, hlength, hle, hparse⟩ := hdecodes
  obtain ⟨reserved, hbytes, -, hcheck⟩ := Frame.eq_of_parse hparse
  refine ⟨pieces, length, reserved, hheard, hlength, hle, hparse, hbytes, hcheck, ?_⟩
  intro τ other last g others hmode hreceive hothers hflat
  obtain ⟨pieces', hheard', hdecodes'⟩ := (receiveFrame_hears other).of_ok hreceive
  rw [hheard'.unique hothers, hflat, hmode] at hdecodes'
  exact hdecodes'.unique ⟨length, hlength, hle, hparse⟩

/-- What an attempt received, and the bytes it left waiting. -/
def received? : EStateM.Result Failure (Link σ) Frame → Option (Frame × Bytes)
  | .ok f after => some (f, waiting after.channel.arrivals)
  | .error _ _ => none

theorem eq_of_received? {run : EStateM.Result Failure (Link σ) Frame} {f : Frame} {left : Bytes}
    (h : received? run = some (f, left)) :
    ∃ after, run = .ok f after ∧ waiting after.channel.arrivals = left := by
  cases run with
  | ok g after =>
      cases h
      exact ⟨after, rfl, rfl⟩
  | error cause after => cases h

/-- A link in sum mode on which some chunks wait. -/
def hearing (chunks : List Bytes) : Link Unit :=
  .ofChannel { Channel.connect () with arrivals := chunks.map .chunk } .sum

/-- An acknowledgement with a pair in it that stands for nothing, cut
inside the pair and behind it, and a stray byte at its end. -/
def garbledAck : List Bytes :=
  [[0x7E, 0x7D], [0x7D, 0x00], [0x80, 0x00, 0x00, 0xFF, 0x7F, 0x7E, 0x55]]

/-- It is received as the same bytes are that come in one chunk, and
the pair and the stray byte are gone. -/
theorem receiveFrame_decodes_garbledAck :
    ∃ f g after last, receiveFrame (hearing garbledAck) = .ok f after
      ∧ receiveFrame (hearing [garbledAck.flatten]) = .ok g last
      ∧ Frame.parse [0x7E, 0x00, 0x80, 0x00, 0x00, 0xFF, 0x7F, 0x7E] .sum = .ok f
      ∧ g = f := by
  have hcut : received? (receiveFrame (hearing garbledAck))
      = some ({ kind := 0x80, payload := [], checksum := 0xFF7F }, []) := by decide +kernel
  have hwhole : received? (receiveFrame (hearing [garbledAck.flatten]))
      = some ({ kind := 0x80, payload := [], checksum := 0xFF7F }, []) := by decide +kernel
  obtain ⟨after, hcut, hafter⟩ := eq_of_received? hcut
  obtain ⟨last, hwhole, hlast⟩ := eq_of_received? hwhole
  obtain ⟨pieces, length, reserved, hheard, hlength, -, hparse, -, -, hsame⟩ :=
    receiveFrame_decodes hcut
  obtain ⟨others, hothers, -⟩ := (receiveFrame_hears _).of_ok hwhole
  -- both attempts took all there was
  have hbytes : pieces.flatten = garbledAck.flatten := by
    have hwaiting := hheard.waiting
    rw [hafter, List.append_nil] at hwaiting
    exact hwaiting.symm
  have hotherBytes : others.flatten = garbledAck.flatten := by
    have hwaiting := hothers.waiting
    rw [hlast, List.append_nil] at hwaiting
    exact hwaiting.symm
  refine ⟨_, _, after, last, hcut, hwhole, ?_, ?_⟩
  · have hmessage : unstuff garbledAck.flatten
        = [0x7E, 0x00, 0x80, 0x00, 0x00, 0xFF, 0x7F, 0x7E, 0x55] := by decide
    rw [hbytes, hmessage] at hparse hlength
    cases hlength
    exact hparse
  · exact hsame Unit (hearing [garbledAck.flatten]) last _ others rfl hwhole hothers
      (hotherBytes.trans hbytes.symm)

end Link

end FlashLink
