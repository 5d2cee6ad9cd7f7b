/-
Two links through every transfer.

Uploads, downloads, block reads and dumps touch the link in one way
only: they make exchanges, and between exchanges they tell of progress.
So a relation that survives each exchange made over both links, and each
remark to either audience, survives each of them, however many pieces
they move and wherever they stop, and both links give the same answer.
`Parallel` names such a relation; the theorems below carry it through
the layers, one for each step, and the loops are inductions on what is
left to move.

The two links may tell different audiences. A block device tells nobody
of its reads, which is the one place where the audience changes on the
way (`Parallel.unheard`).

Bring-up does two things more: it starts images, and it changes the
mode. Both are left out of `Parallel`, because the start of an image is
the one command that is answered late, and because a relation may hold
in one mode only. What bring-up does between them is covered by it, and
a whole run by the relations that survive these two as well (`Abreast`).
-/
import FlashLink.BringUp
import FlashLink.Proofs.Agrees
import FlashLink.Transfer.Dump

namespace FlashLink

variable {τ σ : Type}

/-- What is told on the way: neither a packet, which the link tells of,
nor the end of an operation that succeeded. -/
def Event.isRemark : Event → Bool
  | packet .. | complete => false
  | _ => true

/-- The same beside states that are related. -/
inductive Beside {ρ : Type} (S : τ → σ → Prop) : ρ × τ → ρ × σ → Prop where
  | mk (same : ρ) {a : τ} {b : σ} (h : S a b) : Beside S (same, a) (same, b)

/-- The same window and the same sink, over links that are related. -/
inductive Upload.Reading.Beside (S : Link τ → Link σ → Prop) : Reading τ → Reading σ → Prop where
  | mk (window : Window) (sink : Sink) {a : Link τ} {b : Link σ} (h : S a b) :
      Beside S ⟨a, window, sink⟩ ⟨b, window, sink⟩

/-- The same window and the same source, over links that are related. -/
inductive Download.Writing.Beside (S : Link τ → Link σ → Prop) : Writing τ → Writing σ → Prop where
  | mk (window : Window) (source : Content) {a : Link τ} {b : Link σ} (h : S a b) :
      Beside S ⟨a, window, source⟩ ⟨b, window, source⟩

/-- The same block device and the same sink, over links that are
related. -/
inductive Dump.Copying.Beside (S : Link τ → Link σ → Prop) : Copying τ → Copying σ → Prop where
  | mk (device : BlockDevice) (sink : Sink) {a : Link τ} {b : Link σ} (h : S a b) :
      Beside S ⟨device, a, sink⟩ ⟨device, b, sink⟩

variable [Peer τ] [Peer σ]

/-- A relation between links that survives every exchange of a transfer
made over both, and every remark. -/
structure Parallel (audience audience' : Audience) (S : Link τ → Link σ → Prop) : Prop where
  exchange : ∀ {a b} command payload policy, command ≠ .execData → S a b →
    Agrees S (Link.exchange command payload policy a) (Link.exchange command payload policy b)
  hear : ∀ {a b} event, Event.isRemark event = true → S a b →
    S { a with events := audience.hear a.events event }
      { b with events := audience'.hear b.events event }

namespace Parallel

variable {audience audience' : Audience} {S : Link τ → Link σ → Prop} {a : Link τ} {b : Link σ}
  (h : Parallel audience audience' S)

include h

/-- Nobody needs no remarks. -/
theorem unheard : Parallel .nobody .nobody S := ⟨h.exchange, fun _ _ hs => hs⟩

theorem tell (event : Event) (hevent : event.isRemark = true) (hs : S a b) :
    Agrees S (Link.tell audience event a) (Link.tell audience' event b) :=
  .ok (h.hear event hevent hs)

theorem tellProgress (phase : SessionPhase) (operation : String) (report : Option Nat)
    (window : Window) (hs : S a b) :
    S (Upload.tellProgress audience phase operation report window a)
      (Upload.tellProgress audience' phase operation report window b) := by
  cases report with
  | none => exact hs
  | some percent => exact h.hear _ rfl hs

-- ============================================================= uploads

theorem openPartition (partition : String) (hs : S a b) :
    Agrees S (Upload.openPartition partition a) (Upload.openPartition partition b) := by
  unfold Upload.openPartition
  split
  · exact .error hs
  · rename_i request hrequest
    rcases (h.exchange .readFlashStart request.toBytes Upload.startPolicy (by decide) hs).exits with
      ⟨f, a', b', hrun, hrun', hs⟩ | ⟨cause, a', b', hrun, hrun', hs⟩
    · rw [hrun, hrun']
      exact .ok hs
    · rw [hrun, hrun']
      exact .error hs

theorem readPiece (chunk offset : UInt32) (hs : S a b) :
    Agrees S (Upload.readPiece chunk offset a) (Upload.readPiece chunk offset b) := by
  refine .bind (h.exchange _ _ _ (by decide) hs) fun frame a b hs => ?_
  split
  · exact .ok hs
  · exact .error hs

theorem readPieces (partition : String) (moved : Summary) (window : Window) (sink : Sink)
    {a : Link τ} {b : Link σ} (hs : S a b) :
    Agrees (Upload.Reading.Beside S) (Upload.readPieces partition audience moved ⟨a, window, sink⟩)
      (Upload.readPieces partition audience' moved ⟨b, window, sink⟩) := by
  rw [Upload.readPieces, Upload.readPieces]
  dsimp only
  split
  · exact .ok (.mk window sink hs)
  · rename_i chunk hnext
    rcases (h.readPiece chunk window.offset hs).exits with
      ⟨data, a', b', hrun, hrun', hs⟩ | ⟨cause, a', b', hrun, hrun', hs⟩
    · rw [hrun, hrun']
      dsimp only
      split
      · exact .error (.mk window _ hs)
      · exact readPieces partition _ _ _ (h.tellProgress _ _ _ _ hs)
    · rw [hrun, hrun']
      exact .error (.mk window sink hs)
  termination_by window.remaining.toNat
  decreasing_by exact Window.remaining_advance_lt ‹_›

theorem uploadStart (u : Upload) (hs : S a b) :
    Agrees (Beside S) (Upload.start (u, a)) (Upload.start (u, b)) := by
  unfold Upload.start
  dsimp only
  rcases (h.openPartition u.partition hs).exits with
    ⟨reply, a', b', hrun, hrun', hs⟩ | ⟨cause, a', b', hrun, hrun', hs⟩
  · rw [hrun, hrun']
    exact .ok (.mk _ hs)
  · rw [hrun, hrun']
    exact .error (.mk _ hs)

theorem readRange (u : Upload) (window : Window) (sink : Sink) (hs : S a b) :
    Agrees (Beside (Upload.Reading.Beside S)) (Upload.readRange audience (u, ⟨a, window, sink⟩))
      (Upload.readRange audience' (u, ⟨b, window, sink⟩)) := by
  unfold Upload.readRange
  dsimp only
  rcases (h.readPieces u.partition .none window sink hs).exits with
    ⟨moved, r, r', hrun, hrun', hr⟩ | ⟨cause, r, r', hrun, hrun', hr⟩
  · rw [hrun, hrun']
    exact .ok (.mk _ hr)
  · rw [hrun, hrun']
    exact .error (.mk _ hr)

theorem uploadFinish (u : Upload) (hs : S a b) :
    Agrees (Beside S) (Upload.finish (u, a)) (Upload.finish (u, b)) := by
  unfold Upload.finish
  dsimp only
  rcases (h.exchange .readFlashEnd [] .ack (by decide) hs).exits with
    ⟨f, a', b', hrun, hrun', hs⟩ | ⟨cause, a', b', hrun, hrun', hs⟩
  · rw [hrun, hrun']
    exact .ok (.mk _ hs)
  · rw [hrun, hrun']
    exact .error (.mk _ hs)

theorem upload (partition : String) (size windowSize : UInt32) (sink : Sink) (hs : S a b) :
    Agrees (Beside S) (FlashLink.upload partition size windowSize audience (sink, a))
      (FlashLink.upload partition size windowSize audience' (sink, b)) := by
  unfold FlashLink.upload
  dsimp only
  split
  · exact .error (.mk sink hs)
  · rename_i window hwindow
    rcases (h.uploadStart (.ofPartition partition) hs).exits with
      ⟨reply, _, _, hstart, hstart', ⟨u, hs⟩⟩ | ⟨cause, _, _, hstart, hstart', ⟨u, hs⟩⟩
    · rw [hstart, hstart']
      dsimp only
      rcases (h.readRange u window sink hs).exits with
        ⟨moved, _, _, hread, hread', ⟨u, ⟨window, sink, hs⟩⟩⟩
          | ⟨cause, _, _, hread, hread', ⟨u, ⟨window, sink, hs⟩⟩⟩
      · rw [hread, hread']
        dsimp only
        rcases (h.uploadFinish u hs).exits with
          ⟨_, _, _, hfinish, hfinish', ⟨u, hs⟩⟩ | ⟨cause, _, _, hfinish, hfinish', ⟨u, hs⟩⟩
        · rw [hfinish, hfinish']
          exact .ok (.mk sink hs)
        · rw [hfinish, hfinish']
          exact .error (.mk sink hs)
      · rw [hread, hread']
        exact .error (.mk sink hs)
    · rw [hstart, hstart']
      exact .error (.mk sink hs)

-- =========================================================== downloads

theorem announce (target : Target) (size : UInt32) (hs : S a b) :
    Agrees S (Download.announce target size a) (Download.announce target size b) := by
  unfold Download.announce
  split
  · exact .error hs
  · rename_i payload hpayload
    rcases (h.exchange .startData payload target.startPolicy (by decide) hs).exits with
      ⟨f, a', b', hrun, hrun', hs⟩ | ⟨cause, a', b', hrun, hrun', hs⟩
    · rw [hrun, hrun']
      exact .ok hs
    · rw [hrun, hrun']
      exact .error hs

theorem writePieces (target : Target) (moved : Summary) (window : Window) (source : Content)
    {a : Link τ} {b : Link σ} (hs : S a b) :
    Agrees (Download.Writing.Beside S)
      (Download.writePieces target audience moved ⟨a, window, source⟩)
      (Download.writePieces target audience' moved ⟨b, window, source⟩) := by
  rw [Download.writePieces, Download.writePieces]
  dsimp only
  split
  · exact .ok (.mk window source hs)
  · split
    · exact .error (.mk window _ hs)
    · rename_i data source hread
      rcases (h.exchange .midstData data .ack (by decide) hs).exits with
        ⟨f, a', b', hrun, hrun', hs⟩ | ⟨cause, a', b', hrun, hrun', hs⟩
      · rw [hrun, hrun']
        exact writePieces target _ _ _ (h.tellProgress _ _ _ _ hs)
      · rw [hrun, hrun']
        exact .error (.mk window source hs)
  termination_by window.remaining.toNat
  decreasing_by exact Window.remaining_advance_lt ‹_›

theorem downloadStart (size : UInt32) (d : Download) (hs : S a b) :
    Agrees (Beside S) (Download.start size (d, a)) (Download.start size (d, b)) := by
  unfold Download.start
  dsimp only
  rcases (h.announce d.target size hs).exits with
    ⟨_, a', b', hrun, hrun', hs⟩ | ⟨cause, a', b', hrun, hrun', hs⟩
  · rw [hrun, hrun']
    exact .ok (.mk _ hs)
  · rw [hrun, hrun']
    exact .error (.mk _ hs)

theorem writeAll (d : Download) (window : Window) (source : Content) (hs : S a b) :
    Agrees (Beside (Download.Writing.Beside S))
      (Download.writeAll audience (d, ⟨a, window, source⟩))
      (Download.writeAll audience' (d, ⟨b, window, source⟩)) := by
  unfold Download.writeAll
  dsimp only
  rcases (h.writePieces d.target .none window source hs).exits with
    ⟨moved, w, w', hrun, hrun', hw⟩ | ⟨cause, w, w', hrun, hrun', hw⟩
  · rw [hrun, hrun']
    exact .ok (.mk _ hw)
  · rw [hrun, hrun']
    exact .error (.mk _ hw)

theorem downloadFinish (d : Download) (hs : S a b) :
    Agrees (Beside S) (Download.finish (d, a)) (Download.finish (d, b)) := by
  unfold Download.finish
  dsimp only
  rcases (h.exchange .endData [] .ack (by decide) hs).exits with
    ⟨f, a', b', hrun, hrun', hs⟩ | ⟨cause, a', b', hrun, hrun', hs⟩
  · rw [hrun, hrun']
    exact .ok (.mk _ hs)
  · rw [hrun, hrun']
    exact .error (.mk _ hs)

theorem downloadRun (target : Target) (window : Window) (source : Content) (hs : S a b) :
    Agrees S (Download.run target window source audience a)
      (Download.run target window source audience' b) := by
  unfold Download.run
  rcases (h.downloadStart window.total (.toTarget target) hs).exits with
    ⟨_, _, _, hstart, hstart', ⟨d, hs⟩⟩ | ⟨cause, _, _, hstart, hstart', ⟨d, hs⟩⟩
  · rw [hstart, hstart']
    dsimp only
    rcases (h.writeAll d window source hs).exits with
      ⟨moved, _, _, hwrite, hwrite', ⟨d, ⟨window, source, hs⟩⟩⟩
        | ⟨cause, _, _, hwrite, hwrite', ⟨d, ⟨window, source, hs⟩⟩⟩
    · rw [hwrite, hwrite']
      dsimp only
      rcases (h.downloadFinish d hs).exits with
        ⟨_, _, _, hfinish, hfinish', ⟨d, hs⟩⟩ | ⟨cause, _, _, hfinish, hfinish', ⟨d, hs⟩⟩
      · rw [hfinish, hfinish']
        exact .ok hs
      · rw [hfinish, hfinish']
        exact .error hs
    · rw [hwrite, hwrite']
      exact .error hs
  · rw [hstart, hstart']
    exact .error hs

theorem download (target : Target) (size windowSize : UInt32) (source : Content) (hs : S a b) :
    Agrees S (FlashLink.download target size windowSize source audience a)
      (FlashLink.download target size windowSize source audience' b) := by
  unfold FlashLink.download
  split
  · exact .error hs
  · exact h.downloadRun target _ source hs

theorem downloadFile (target : Target) (files : Files) (path : String) (windowSize : UInt32)
    (hs : S a b) :
    Agrees S (FlashLink.downloadFile target files path windowSize audience a)
      (FlashLink.downloadFile target files path windowSize audience' b) := by
  unfold FlashLink.downloadFile
  split
  · exact .error hs
  · split
    · exact .error hs
    · exact h.downloadRun target _ _ hs

-- ======================================================== block devices

theorem blockStart (d : BlockDevice) (hs : S a b) :
    Agrees (Beside S) (BlockDevice.start (d, a)) (BlockDevice.start (d, b)) := by
  unfold BlockDevice.start
  dsimp only
  split
  · exact .ok (.mk d hs)
  · rcases (h.uploadStart d.upload hs).exits with
      ⟨_, _, _, hrun, hrun', ⟨u, hs⟩⟩ | ⟨cause, _, _, hrun, hrun', ⟨u, hs⟩⟩
    · rw [hrun, hrun']
      exact .ok (.mk _ hs)
    · rw [hrun, hrun']
      exact .error (.mk _ hs)

theorem readBlocks (first : UInt64) (count : UInt32) (d : BlockDevice) (hs : S a b) :
    Agrees (Beside S) (BlockDevice.readBlocks first count (d, a))
      (BlockDevice.readBlocks first count (d, b)) := by
  unfold BlockDevice.readBlocks
  dsimp only
  split
  · split
    · exact .error (.mk d hs)
    · rename_i offset length hrange
      rcases (h.unheard.readRange d.upload (.start offset length d.window) .unlimited hs).exits with
        ⟨moved, _, _, hrun, hrun', ⟨u, ⟨window, sink, hs⟩⟩⟩
          | ⟨cause, _, _, hrun, hrun', ⟨u, ⟨window, sink, hs⟩⟩⟩
      · rw [hrun, hrun']
        exact .ok (.mk _ hs)
      · rw [hrun, hrun']
        exact .error (.mk _ hs)
  · exact .error (.mk d hs)

theorem blockFinish (d : BlockDevice) (hs : S a b) :
    Agrees (Beside S) (BlockDevice.finish (d, a)) (BlockDevice.finish (d, b)) := by
  unfold BlockDevice.finish
  dsimp only
  split
  · rcases (h.uploadFinish d.upload hs).exits with
      ⟨_, _, _, hrun, hrun', ⟨u, hs⟩⟩ | ⟨cause, _, _, hrun, hrun', ⟨u, hs⟩⟩
    · rw [hrun, hrun']
      exact .ok (.mk _ hs)
    · rw [hrun, hrun']
      exact .error (.mk _ hs)
  · exact .ok (.mk d hs)

-- =============================================================== dumps

theorem copyBatches (first : UInt64) (total done : Nat) (d : BlockDevice) (sink : Sink)
    {a : Link τ} {b : Link σ} (hs : S a b) :
    Agrees (Dump.Copying.Beside S) (Dump.copyBatches audience first total done ⟨d, a, sink⟩)
      (Dump.copyBatches audience' first total done ⟨d, b, sink⟩) := by
  rw [Dump.copyBatches, Dump.copyBatches]
  split
  · exact .ok (.mk d sink hs)
  · dsimp only
    rcases (h.readBlocks (first + UInt64.ofNat done)
        (UInt32.ofNat (min (total - done) Dump.batchBlocks)) d hs).exits with
      ⟨data, _, _, hrun, hrun', ⟨d, hs⟩⟩ | ⟨cause, _, _, hrun, hrun', ⟨d, hs⟩⟩
    · rw [hrun, hrun']
      dsimp only
      split
      · exact .error (.mk d _ hs)
      · exact copyBatches first total _ d _ (h.hear _ rfl hs)
    · rw [hrun, hrun']
      exact .error (.mk d sink hs)
  termination_by total - done
  decreasing_by
    have : 0 < Dump.batchBlocks := by decide
    omega

theorem dump (partition : String) (first : UInt64) (count windowSize : UInt32) (sink : Sink)
    (hs : S a b) :
    Agrees (Beside S) (FlashLink.dump partition first count windowSize audience (sink, a))
      (FlashLink.dump partition first count windowSize audience' (sink, b)) := by
  unfold FlashLink.dump
  dsimp only
  split
  · exact .error (.mk sink hs)
  · rename_i window hwindow
    rcases (h.blockStart (.ofPartition partition window) hs).exits with
      ⟨_, _, _, hstart, hstart', ⟨d, hs⟩⟩ | ⟨cause, _, _, hstart, hstart', ⟨d, hs⟩⟩
    · rw [hstart, hstart']
      dsimp only
      rcases (h.copyBatches first count.toNat 0 d sink hs).exits with
        ⟨_, _, _, hcopy, hcopy', ⟨d, sink, hs⟩⟩ | ⟨cause, _, _, hcopy, hcopy', ⟨d, sink, hs⟩⟩
      · rw [hcopy, hcopy']
        dsimp only
        rcases (h.blockFinish d hs).exits with
          ⟨_, _, _, hfinish, hfinish', ⟨d, hs⟩⟩ | ⟨cause, _, _, hfinish, hfinish', ⟨d, hs⟩⟩
        · rw [hfinish, hfinish']
          exact .ok (.mk sink hs)
        · rw [hfinish, hfinish']
          exact .error (.mk sink hs)
      · rw [hcopy, hcopy']
        exact .error (.mk sink hs)
    · rw [hstart, hstart']
      exact .error (.mk sink hs)

-- ============================================================ bring-up

theorem connect (hs : S a b) : Agrees S (BringUp.connect a) (BringUp.connect b) :=
  .bind (h.exchange _ _ _ (by decide) hs) fun _ _ _ hs => .ok hs

theorem load (image : LoaderImage) (hs : S a b) :
    Agrees S (BringUp.load audience image a) (BringUp.load audience' image b) :=
  .bind (h.download _ _ _ _ hs) fun _ _ _ hs => .ok hs

/-- A greeting that is told of, of a device that is probed. -/
theorem greet (hprobe : ∀ {a b} attempts, S a b →
      Agrees S (Link.probe attempts a) (Link.probe attempts b))
    (phase : SessionPhase) (probes : Nat) (hs : S a b) :
    Agrees S (BringUp.greet audience phase probes a) (BringUp.greet audience' phase probes b) := by
  unfold BringUp.greet
  rcases (hprobe probes hs).exits with
    ⟨version, a', b', hrun, hrun', hs⟩ | ⟨cause, a', b', hrun, hrun', hs⟩
  · rw [hrun, hrun']
    exact .ok (h.hear _ rfl hs)
  · rw [hrun, hrun']
    exact .ok hs

end Parallel

namespace Beside

variable {S : Link τ → Link σ → Prop} {s : Course × Link τ} {t : Course × Link σ}

omit [Peer τ] [Peer σ] in
/-- What two links agree in, two courses over them agree in. -/
theorem onLink {α : Type} {act : LinkM τ α} {act' : LinkM σ α} (hs : Beside S s t)
    (hact : ∀ {a b}, S a b → Agrees S (act a) (act' b)) :
    Agrees (Beside S) (BringUp.onLink act s) (BringUp.onLink act' t) := by
  obtain ⟨course, hs⟩ := hs
  unfold BringUp.onLink
  dsimp only
  rcases (hact hs).exits with
    ⟨value, a', b', hrun, hrun', hs⟩ | ⟨cause, a', b', hrun, hrun', hs⟩
  · rw [hrun, hrun']
    exact .ok (.mk course hs)
  · rw [hrun, hrun']
    exact .error (.mk course hs)

omit [Peer τ] [Peer σ] in
theorem enter (hs : Beside S s t) (stage : Stage) :
    Agrees (Beside S) (BringUp.enter stage s) (BringUp.enter stage t) := by
  obtain ⟨course, hs⟩ := hs
  exact .ok (.mk _ hs)

end Beside

/-- A relation that survives a whole bring-up over both links. -/
structure Abreast (audience audience' : Audience) (S : Link τ → Link σ → Prop) : Prop
    extends Parallel audience audience' S where
  start : ∀ {a b} policy, S a b →
    Agrees S (Link.exchange .execData [] policy a) (Link.exchange .execData [] policy b)
  probe : ∀ {a b} attempts, S a b → Agrees S (Link.probe attempts a) (Link.probe attempts b)
  setMode : ∀ {a b} mode, S a b → S { a with mode } { b with mode }

namespace Abreast

variable {audience audience' : Audience} {S : Link τ → Link σ → Prop} {s : Course × Link τ}
  {t : Course × Link σ} (h : Abreast audience audience' S)

include h

theorem followMode (hs : Beside S s t) :
    Agrees (Beside S) (BringUp.followMode s) (BringUp.followMode t) := by
  obtain ⟨course, hs⟩ := hs
  exact .ok (.mk course (h.setMode _ hs))

theorem bootFirst (first : LoaderImage) (hs : Beside S s t) :
    Agrees (Beside S) (BringUp.bootFirst audience first s)
      (BringUp.bootFirst audience' first t) := by
  unfold BringUp.bootFirst
  refine .bind (h.followMode hs) fun _ s t hs => ?_
  refine .bind (hs.onLink (h.tell _ rfl)) fun _ s t hs => ?_
  refine .bind (hs.onLink (h.greet h.probe _ _)) fun version s t hs => ?_
  refine .bind (hs.onLink h.connect) fun _ s t hs => ?_
  refine .bind (hs.enter _) fun _ s t hs => ?_
  refine .bind (hs.onLink (h.load _)) fun _ s t hs => ?_
  refine .bind (hs.enter _) fun _ s t hs => ?_
  refine .bind (hs.onLink (h.start _)) fun _ s t hs => ?_
  exact .bind (hs.enter _) fun _ s t hs => .ok hs

theorem bootSecond (second : LoaderImage) (hs : Beside S s t) :
    Agrees (Beside S) (BringUp.bootSecond audience second s)
      (BringUp.bootSecond audience' second t) := by
  unfold BringUp.bootSecond
  refine .bind (hs.enter _) fun _ s t hs => ?_
  refine .bind (h.followMode hs) fun _ s t hs => ?_
  refine .bind (hs.onLink (h.tell _ rfl)) fun _ s t hs => ?_
  refine .bind (hs.onLink (h.greet h.probe _ _)) fun version s t hs => ?_
  refine .bind (hs.onLink h.connect) fun _ s t hs => ?_
  refine .bind (hs.enter _) fun _ s t hs => ?_
  refine .bind (hs.onLink (h.load _)) fun _ s t hs => ?_
  refine .bind (hs.enter _) fun _ s t hs => ?_
  refine .bind (hs.onLink (h.start _)) fun answer s t hs => ?_
  refine .bind (hs.enter _) fun _ s t hs => ?_
  refine .bind (hs.enter _) fun _ s t hs => ?_
  exact .bind (hs.onLink (h.tell _ rfl)) fun _ s t hs => .ok hs

theorem stages (first second : LoaderImage) (hs : Beside S s t) :
    Agrees (Beside S) (BringUp.stages audience first second s)
      (BringUp.stages audience' first second t) := by
  unfold BringUp.stages
  refine .bind (h.bootFirst first hs) fun version s t hs => ?_
  exact .bind (h.bootSecond second hs) fun answer s t hs => .ok hs

/-- A run that fails is told of as it is aborted. -/
theorem run (first second : LoaderImage) (hs : Beside S s t) :
    Agrees (Beside S) (BringUp.run audience first second s)
      (BringUp.run audience' first second t) := by
  unfold BringUp.run
  rcases (h.stages first second hs).exits with
    ⟨report, _, _, hrun, hrun', hs⟩ | ⟨cause, _, _, hrun, hrun', ⟨course, hs⟩⟩
  · rw [hrun, hrun']
    exact .ok hs
  · rw [hrun, hrun']
    exact .error (.mk _ (h.hear _ rfl hs))

end Abreast

end FlashLink
