/-
The discipline of a block device.

Two things are kept of one partition in two places: whether the device
is open, and the phase of the read underneath. A call that fails changes
the phase alone, so the two can drift apart, but not by more than that:
`Turns` lists what a call can make of them, one constructor for each
way out, and whatever the link does in between, an open device is
transferring or failed and a closed one has not begun, is done or has
failed (`Settled`).

What a call may ask of the device behind the link is known from the
flag before it is made (`Call.requests`): an opening asks only while
the device is closed, reading and closing only while it is open. No
answer can change that, because a request goes out once; what a call
writes is a front of what it has to ask for (`make_follows`).
-/
import FlashLink.Proofs.Dump

namespace FlashLink

open Link (Wrote request)

variable {σ : Type} [Peer σ]

namespace Upload

-- ============================================================== one step

/-- Closing is asked for at most once. -/
theorem finish_follows (u : Upload) (link : Link σ) :
    Follows (fun buffers s => Wrote link buffers s.2)
      [request .readFlashEnd [] link.mode] (finish (u, link)) := by
  have hfollows := Link.exchange_follows .readFlashEnd [] .ack link
  cases hexchange : Link.exchange .readFlashEnd [] .ack link with
  | error cause after =>
      rw [finish_of_error hexchange]
      exact hfollows.of_error hexchange
  | ok f after =>
      rw [finish_of_ok hexchange]
      exact hfollows.of_ok hexchange

theorem start_cases (u : Upload) (link : Link σ) :
    (∃ reply after, start (u, link) = .ok reply ({ u with phase := .transferring }, after))
      ∨ ∃ cause after,
        start (u, link) = .error cause ({ u with phase := .failed cause }, after) := by
  unfold start
  dsimp only
  split
  · exact .inl ⟨_, _, rfl⟩
  · exact .inr ⟨_, _, rfl⟩

theorem finish_cases (u : Upload) (link : Link σ) :
    (∃ after, finish (u, link) = .ok () ({ u with phase := .done }, after))
      ∨ ∃ cause after,
        finish (u, link) = .error cause ({ u with phase := .failed cause }, after) := by
  unfold finish
  dsimp only
  split
  · exact .inl ⟨_, rfl⟩
  · exact .inr ⟨_, _, rfl⟩

end Upload

namespace BlockDevice

-- ============================================================ the calls

/-- A call that is refused or has nothing to do. -/
def Call.Idle (d : BlockDevice) : Call → Prop
  | .start => d.isOpen = true
  | .read first count => d.isOpen = false ∨ ∃ cause, byteRange first count = .error cause
  | .write _ _ => True
  | .finish => d.isOpen = false

/-- What a call has to ask for. -/
def Call.requests (d : BlockDevice) : Call → List (Command × Bytes)
  | .start =>
    if d.isOpen then [] else [(.readFlashStart, Upload.opening d.upload.partition)]
  | .read first count =>
    if d.isOpen then
      match byteRange first count with
      | .error _ => []
      | .ok (offset, length) =>
        (Window.requests d.window.size.toNat offset.toNat length.toNat).map fun r =>
          (.readFlashMidst, r.toBytes)
    else []
  | .write _ _ => []
  | .finish => if d.isOpen then [(.readFlashEnd, [])] else []

/-- A device whose read has come to another phase. -/
def inPhase (d : BlockDevice) (phase : TransferPhase) : BlockDevice :=
  { d with upload := { d.upload with phase } }

/-- What a call that does something makes of a device. -/
inductive Turns (d : BlockDevice) : Call → Except Failure Bytes → BlockDevice → Prop where
  | opened (h : d.isOpen = false) :
      Turns d .start (.ok []) { d.inPhase .transferring with isOpen := true }
  | notOpened (h : d.isOpen = false) (cause : Failure) :
      Turns d .start (.error cause) (d.inPhase (.failed cause))
  | read (h : d.isOpen = true) (first : UInt64) (count : UInt32) (data : Bytes) :
      Turns d (.read first count) (.ok data) d
  | notRead (h : d.isOpen = true) (first : UInt64) (count : UInt32) (cause : Failure) :
      Turns d (.read first count) (.error cause) (d.inPhase (.failed cause))
  | closed (h : d.isOpen = true) :
      Turns d .finish (.ok []) { d.inPhase .done with isOpen := false }
  | notClosed (h : d.isOpen = true) (cause : Failure) :
      Turns d .finish (.error cause) (d.inPhase (.failed cause))

variable {call : Call} {d : BlockDevice}

/-- An idle call leaves everything as it is. -/
theorem make_idle (h : call.Idle d) (link : Link σ) :
    endState (call.make (d, link)) = (d, link) := by
  cases call with
  | start =>
      show endState ((BlockDevice.start >>= fun _ => pure []) (d, link)) = _
      rw [endState_bind_pure, start_of_open h]
      rfl
  | read first count =>
      show endState (readBlocks first count (d, link)) = _
      rcases h with hclosed | ⟨cause, hrange⟩
      · rw [readBlocks_of_closed hclosed]
        rfl
      · cases hopen : d.isOpen with
        | false =>
            rw [readBlocks_of_closed hopen]
            rfl
        | true =>
            rw [readBlocks_of_range_error hopen hrange]
            rfl
  | write first data => rfl
  | finish =>
      show endState ((BlockDevice.finish >>= fun _ => pure []) (d, link)) = _
      rw [endState_bind_pure, finish_of_closed h]
      rfl

/-- Any other ends in one of the ways there are. -/
theorem make_turns (h : ¬ call.Idle d) (link : Link σ) :
    Turns d call (outcome (call.make (d, link))) (endState (call.make (d, link))).1 := by
  cases call with
  | start =>
      have hclosed : d.isOpen = false := Bool.eq_false_iff.2 h
      show Turns d .start (outcome ((BlockDevice.start >>= fun _ => pure []) (d, link)))
        (endState ((BlockDevice.start >>= fun _ => pure []) (d, link))).1
      have hstart : BlockDevice.start (d, link) = _ := start_of_closed hclosed
      rcases Upload.start_cases d.upload link with ⟨reply, after, hrun⟩ | ⟨cause, after, hrun⟩
      · rw [hrun] at hstart
        rw [bind_of_ok hstart]
        exact .opened hclosed
      · rw [hrun] at hstart
        rw [bind_of_error hstart]
        exact .notOpened hclosed cause
  | read first count =>
      obtain ⟨hopen, hrange⟩ := not_or.1 h
      rw [Bool.not_eq_false] at hopen
      show Turns d (.read first count) (outcome (readBlocks first count (d, link)))
        (endState (readBlocks first count (d, link))).1
      cases hbytes : byteRange first count with
      | error cause => exact absurd ⟨cause, hbytes⟩ hrange
      | ok range =>
          rw [readBlocks_of_range hopen hbytes]
          split
          · exact .read hopen first count _
          · exact .notRead hopen first count _
  | write first data => exact absurd trivial h
  | finish =>
      have hopen : d.isOpen = true := Bool.not_eq_false _ ▸ h
      show Turns d .finish (outcome ((BlockDevice.finish >>= fun _ => pure []) (d, link)))
        (endState ((BlockDevice.finish >>= fun _ => pure []) (d, link))).1
      have hfinish : finish (d, link) = _ := finish_of_open hopen
      rcases Upload.finish_cases d.upload link with ⟨after, hrun⟩ | ⟨cause, after, hrun⟩
      · rw [hrun] at hfinish
        rw [bind_of_ok hfinish]
        exact .closed hopen
      · rw [hrun] at hfinish
        rw [bind_of_error hfinish]
        exact .notClosed hopen cause

-- ========================================================= what is written

theorem start_follows (d : BlockDevice) (link : Link σ) :
    Follows (fun buffers s => Wrote link buffers s.2)
      ((Call.requests d .start).map fun r => request r.1 r.2 link.mode)
      (BlockDevice.start (d, link)) := by
  unfold Call.requests
  cases hopen : d.isOpen with
  | true =>
      rw [start_of_open hopen, if_pos rfl]
      exact Wrote.refl link
  | false =>
      have hfollows := Upload.start_follows d.upload link
      rw [start_of_closed hopen, if_neg Bool.false_ne_true]
      cases hrun : Upload.start (d.upload, link) with
      | ok reply s => exact hfollows.of_ok hrun
      | error cause s => exact hfollows.of_error hrun

omit [Peer σ] in
/-- A read of an open device asks for the pieces of one window. -/
theorem Call.requests_read {first : UInt64} {count offset length : UInt32}
    (hopen : d.isOpen = true) (hrange : byteRange first count = .ok (offset, length)) :
    Call.requests d (.read first count)
      = (Window.requests d.window.size.toNat offset.toNat length.toNat).map fun r =>
          (.readFlashMidst, r.toBytes) := by
  simp only [Call.requests, hopen, if_true, hrange]

theorem readBlocks_follows (d : BlockDevice) (first : UInt64) (count : UInt32) (link : Link σ) :
    Follows (fun buffers s => Wrote link buffers s.2)
      ((Call.requests d (.read first count)).map fun r => request r.1 r.2 link.mode)
      (readBlocks first count (d, link)) := by
  cases hopen : d.isOpen with
  | false =>
      rw [readBlocks_of_closed hopen]
      exact .stop (.refl link)
  | true =>
      cases hrange : byteRange first count with
      | error cause =>
          rw [readBlocks_of_range_error hopen hrange]
          exact .stop (.refl link)
      | ok range =>
          obtain ⟨offset, length⟩ := range
          obtain ⟨-, -, hinside⟩ := byteRange_eq hrange
          have hfollows := Upload.readPieces_follows d.upload.partition .nobody .none
            (r := ⟨link, .start offset length d.window, .unlimited⟩)
            (Window.At.start offset length d.window hinside)
          rw [readBlocks_of_range hopen hrange, Call.requests_read hopen hrange, List.map_map]
          cases hrun : Upload.readPieces d.upload.partition .nobody .none
              ⟨link, .start offset length d.window, .unlimited⟩ with
          | ok moved r => exact hfollows.of_ok hrun
          | error cause r => exact hfollows.of_error hrun

theorem finish_follows (d : BlockDevice) (link : Link σ) :
    Follows (fun buffers s => Wrote link buffers s.2)
      ((Call.requests d .finish).map fun r => request r.1 r.2 link.mode)
      (finish (d, link)) := by
  unfold Call.requests
  cases hopen : d.isOpen with
  | false =>
      rw [finish_of_closed hopen, if_neg Bool.false_ne_true]
      exact Wrote.refl link
  | true =>
      have hfollows := Upload.finish_follows d.upload link
      rw [finish_of_open hopen, if_pos rfl]
      cases hrun : Upload.finish (d.upload, link) with
      | ok value s => exact hfollows.of_ok hrun
      | error cause s => exact hfollows.of_error hrun

/-- A call writes what it has to ask for, and a front of it if it fails. -/
theorem make_follows (call : Call) (d : BlockDevice) (link : Link σ) :
    Follows (fun buffers s => Wrote link buffers s.2)
      ((call.requests d).map fun r => request r.1 r.2 link.mode) (call.make (d, link)) := by
  cases call with
  | start => exact (start_follows d link).replace []
  | read first count => exact readBlocks_follows d first count link
  | write first data => exact .stop (.refl link)
  | finish => exact (finish_follows d link).replace []

/-- However it ends. -/
theorem make_wrote (call : Call) (d : BlockDevice) (link : Link σ) :
    ∃ front, front <+: call.requests d
      ∧ Wrote link (front.map fun r => request r.1 r.2 link.mode)
        (endState (call.make (d, link))).2 := by
  have hfollows := make_follows call d link
  cases hrun : call.make (d, link) with
  | ok value s => exact ⟨_, List.prefix_rfl, hfollows.of_ok hrun⟩
  | error cause s =>
      obtain ⟨buffers, hbuffers, hwrote⟩ := hfollows.of_error hrun
      refine ⟨(call.requests d).take buffers.length, List.take_prefix _ _, ?_⟩
      rw [List.map_take, ← List.prefix_iff_eq_take.1 hbuffers]
      exact hwrote

/-- Which command is in order when. -/
inductive Call.Permits (d : BlockDevice) : Call → Command → Prop where
  | start (h : d.isOpen = false) : Permits d .start .readFlashStart
  | read (h : d.isOpen = true) (first : UInt64) (count : UInt32) :
      Permits d (.read first count) .readFlashMidst
  | finish (h : d.isOpen = true) : Permits d .finish .readFlashEnd

theorem permits_of_mem_requests {r : Command × Bytes} (h : r ∈ call.requests d) :
    call.Permits d r.1 := by
  cases call with
  | start =>
      cases hopen : d.isOpen with
      | true => simp [Call.requests, hopen] at h
      | false =>
          simp only [Call.requests, hopen] at h
          rw [List.mem_singleton.1 h]
          exact .start hopen
  | read first count =>
      cases hopen : d.isOpen with
      | false => simp [Call.requests, hopen] at h
      | true =>
          simp only [Call.requests, hopen, if_true] at h
          split at h
          · cases h
          · obtain ⟨piece, -, rfl⟩ := List.mem_map.1 h
            exact .read hopen first count
  | write first data => cases h
  | finish =>
      cases hopen : d.isOpen with
      | false => simp [Call.requests, hopen] at h
      | true =>
          simp only [Call.requests, hopen] at h
          rw [List.mem_singleton.1 h]
          exact .finish hopen

-- ========================================================== the invariant

/-- Flag and phase go together. -/
structure Settled (d : BlockDevice) : Prop where
  opened : d.isOpen = true →
    d.upload.phase = .transferring ∨ ∃ cause, d.upload.phase = .failed cause
  closed : d.isOpen = false →
    d.upload.phase = .start ∨ d.upload.phase = .done ∨ ∃ cause, d.upload.phase = .failed cause

theorem Settled.of_failed {cause : Failure} (h : d.upload.phase = .failed cause) : Settled d :=
  ⟨fun _ => .inr ⟨cause, h⟩, fun _ => .inr (.inr ⟨cause, h⟩)⟩

theorem Turns.settled {answer : Except Failure Bytes} {d' : BlockDevice} (hd : Settled d)
    (h : Turns d call answer d') : Settled d' := by
  cases h with
  | opened h => exact ⟨fun _ => .inl rfl, fun hclosed => absurd hclosed.symm Bool.false_ne_true⟩
  | notOpened h cause => exact .of_failed rfl
  | read h first count data => exact hd
  | notRead h first count cause => exact .of_failed rfl
  | closed h => exact ⟨fun hopen => absurd hopen Bool.false_ne_true, fun _ => .inr (.inl rfl)⟩
  | notClosed h cause => exact .of_failed rfl

theorem Turns.isOpen_of_error {cause : Failure} {d' : BlockDevice}
    (h : Turns d call (.error cause) d') : d'.isOpen = d.isOpen := by
  cases h <;> rfl

/-- Every call keeps flag and phase together. -/
theorem Settled.make (h : Settled d) (call : Call) (link : Link σ) :
    Settled (endState (call.make (d, link))).1 := by
  by_cases hidle : call.Idle d
  · rw [make_idle hidle]
    exact h
  · exact (make_turns hidle link).settled h

/-- A block device in use: a fresh one, one that was called, and one over
whose link something else went on. -/
inductive InUse (name : String) (window : WindowSize) : BlockDevice × Link σ → Prop where
  | fresh (link : Link σ) : InUse name window (.ofPartition name window, link)
  | called {s : BlockDevice × Link σ} (h : InUse name window s) (call : Call) :
      InUse name window (endState (call.make s))
  | meanwhile {d : BlockDevice} {link : Link σ} (h : InUse name window (d, link))
      (other : Link σ) : InUse name window (d, other)

theorem InUse.settled {name : String} {window : WindowSize} {s : BlockDevice × Link σ}
    (h : InUse name window s) : Settled s.1 := by
  induction h with
  | fresh link => exact ⟨fun hopen => absurd hopen Bool.false_ne_true, fun _ => .inl rfl⟩
  | called h call ih => exact ih.make call _
  | meanwhile h other ih => exact ih

/-- After any calls a further one leaves flag and phase together and, if it
fails, the flag alone. Opening is asked for while the device is closed,
anything else while it is open; and a call with nothing to do does
nothing. -/
theorem discipline {name : String} {window : WindowSize} {s : BlockDevice × Link σ}
    (h : InUse name window s) (call : Call) :
    Settled (endState (call.make s)).1
      ∧ (∀ cause, outcome (call.make s) = .error cause →
        (endState (call.make s)).1.isOpen = s.1.isOpen)
      ∧ (∃ buffers, (endState (call.make s)).2.channel.sent = s.2.channel.sent ++ buffers
        ∧ (∀ b ∈ buffers, ∃ f : Frame, f.encode = b)
        ∧ ∀ f : Frame, f.encode ∈ buffers →
          ∃ command, f.kind = command.code ∧ call.Permits s.1 command)
      ∧ (call.Idle s.1 → endState (call.make s) = s) := by
  obtain ⟨d, link⟩ := s
  refine ⟨h.settled.make call link, ?_, ?_, fun hidle => make_idle hidle link⟩
  · intro cause hcause
    by_cases hidle : call.Idle d
    · rw [make_idle hidle]
    · have hturns := make_turns hidle link
      rw [hcause] at hturns
      exact hturns.isOpen_of_error
  · obtain ⟨front, hfront, hwrote⟩ := make_wrote call d link
    refine ⟨_, hwrote.sent, ?_, ?_⟩
    · intro b hb
      obtain ⟨r, -, rfl⟩ := List.mem_map.1 hb
      exact ⟨_, rfl⟩
    · intro f hf
      obtain ⟨r, hr, hsame⟩ := List.mem_map.1 hf
      have hpermitted := permits_of_mem_requests (hfront.subset hr)
      rw [← Frame.encode_injective hsame]
      exact ⟨r.1, rfl, hpermitted⟩

omit [Peer σ] in
/-- A link whose cable was pulled. -/
def unplugged (link : Link σ) : Link σ :=
  { link with channel := { link.channel with connected := false } }

/-- A device that is pulled out while it is open stays open, and its read
has failed. -/
theorem discipline_unplugged :
    ∃ s : BlockDevice × Link Device, InUse "boot" defaultWindow s ∧ s.1.isOpen = true
      ∧ outcome (Call.finish.make s) = .error (.channel .disconnected)
      ∧ (endState (Call.finish.make s)).1.isOpen = true
      ∧ Settled (endState (Call.finish.make s)).1 := by
  have hlink : Link.Attuned (twoBlocks 0) := ⟨rfl, rfl⟩
  have hunits : (Utf16.units "boot".toList).length ≤ PartitionRequest.nameUnits := by decide
  obtain ⟨u, after, -, hrun, -⟩ := Upload.start_device (u := .ofPartition "boot") hlink
    (.of_empty rfl) (Nat.zero_le _) (by decide) hunits rfl
  have hopened : InUse "boot" defaultWindow (⟨u, defaultWindow, true⟩, after) := by
    have hcalled : InUse "boot" defaultWindow (endState (Call.start.make
        (.ofPartition "boot" defaultWindow, twoBlocks 0))) := .called (.fresh (twoBlocks 0)) .start
    change InUse _ _ (endState ((BlockDevice.start >>= fun _ => pure []) _)) at hcalled
    rw [endState_bind_pure, start_of_closed rfl,
      show (BlockDevice.ofPartition "boot" defaultWindow).upload = .ofPartition "boot" from rfl,
      hrun] at hcalled
    exact hcalled
  have huse := hopened.meanwhile (unplugged after)
  have hfailed : outcome (Call.finish.make (⟨u, defaultWindow, true⟩, unplugged after))
      = .error (.channel .disconnected) := by
    have hexchange : Link.exchange .readFlashEnd [] .ack (unplugged after) = _ :=
      Link.exchange_of_disconnected (Nat.zero_le _) rfl
    show outcome ((finish >>= fun _ => pure []) _) = _
    rw [bind_of_error (by rw [finish_of_open rfl, Upload.finish_of_error hexchange])]
    rfl
  obtain ⟨hsettled, hflag, -, -⟩ := discipline huse .finish
  exact ⟨_, huse, rfl, hfailed, hflag _ hfailed, hsettled⟩

end BlockDevice

end FlashLink
