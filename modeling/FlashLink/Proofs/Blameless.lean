/-
Which runs may blame what they were given.

An operation fails for the device, for the host's files, or for an
argument it was given. The link knows nothing of arguments, so no
exchange blames one, and no transfer does once its window was judged
and its request was made. What may be blamed is judged in front of
that: a transfer that blames its arguments has not touched the link
(`upload_param`, `downloadFile_param`), and bring-up, whose images were
judged when they were made, blames none at all (`BringUp.run_blameless`).

An exchange may also blame its payload, if that fits no frame. No
transfer gives it such a one: a window is no larger than a frame, and
every other request has a size of its own.

The one check left for later is that of a range of blocks, which a
block device makes when it is read.
-/
import FlashLink.Proofs.BlockDevice
import FlashLink.Proofs.Transcript
import FlashLink.PartitionTable

namespace FlashLink

variable {ε σ α β : Type}

/-- What holds of a failure and of where it leaves things, if there is
one. -/
def IfFails (P : ε → σ → Prop) : EStateM.Result ε σ α → Prop
  | .ok _ _ => True
  | .error cause after => P cause after

namespace IfFails

variable {P : ε → σ → Prop}

@[simp] theorem ok (value : α) (s : σ) :
    IfFails P (.ok value s : EStateM.Result ε σ α) := trivial

@[simp] theorem error (cause : ε) (s : σ) :
    IfFails P (.error cause s : EStateM.Result ε σ α) ↔ P cause s := Iff.rfl

@[simp] theorem throw (cause : ε) (s : σ) :
    IfFails P ((throw cause : EStateM ε σ α) s) ↔ P cause s := Iff.rfl

theorem of_error {r : EStateM.Result ε σ α} (h : IfFails P r) {cause : ε} {after : σ}
    (hr : r = .error cause after) : P cause after := by
  rw [hr] at h
  exact h

theorem intro {r : EStateM.Result ε σ α}
    (h : ∀ cause after, r = .error cause after → P cause after) : IfFails P r := by
  cases r with
  | ok value after => trivial
  | error cause after => exact h cause after rfl

/-- One action behind another: either may be the one that fails. -/
theorem bind {act : EStateM ε σ α} {next : α → EStateM ε σ β} {s : σ}
    (hact : IfFails P (act s))
    (hnext : ∀ value after, act s = .ok value after → IfFails P (next value after)) :
    IfFails P ((act >>= next) s) := by
  cases hrun : act s with
  | ok value after =>
      rw [bind_of_ok hrun]
      exact hnext value after hrun
  | error cause after =>
      rw [bind_of_error hrun]
      exact hact.of_error hrun

theorem mono {P Q : ε → σ → Prop} (himp : ∀ cause s, P cause s → Q cause s)
    {r : EStateM.Result ε σ α} (h : IfFails P r) : IfFails Q r := by
  cases r with
  | ok value after => trivial
  | error cause after => exact himp cause after h

end IfFails

/-- A failure of the link: of the channel, of a frame or of a reply. -/
def Failure.OfLink : Failure → Prop
  | .channel _ | .frame _ | .protocol _ => True
  | .param _ | .file _ => False

/-- A failure that blames nothing that was given, neither an argument
nor a payload that fits no frame. -/
def Failure.OfRun : Failure → Prop
  | .param _ | .frame (.payloadTooLarge _) => False
  | _ => True

/-- A failure of receiving: of the channel, or of what was read. -/
def Failure.OfReceiving : Failure → Prop
  | .channel _ => True
  | .frame cause => ∀ length, cause ≠ .payloadTooLarge length
  | .protocol _ | .param _ | .file _ => False

theorem Failure.OfReceiving.ofLink {cause : Failure} (h : cause.OfReceiving) : cause.OfLink := by
  cases cause with
  | channel _ | frame _ => trivial
  | protocol _ | param _ | file _ => exact h.elim

theorem Failure.OfReceiving.ofRun {cause : Failure} (h : cause.OfReceiving) : cause.OfRun := by
  cases cause with
  | channel _ => trivial
  | frame cause =>
      cases cause with
      | payloadTooLarge length => exact (h length rfl).elim
      | _ => trivial
  | protocol _ | param _ | file _ => exact h.elim

/-- A run that does not blame what it was given. -/
abbrev Blameless (r : EStateM.Result Failure σ α) : Prop :=
  IfFails (fun cause _ => cause.OfRun) r

/-- It did not, so it did not fail that way. -/
theorem Blameless.elim {r : EStateM.Result Failure σ α} (h : Blameless r) {argument : ParamFailure}
    {after : σ} (hr : r = .error (.param argument) after) {P : Prop} : P :=
  (h.of_error hr : False).elim

-- ============================================================= the link

/-- Bytes that were read are not blamed for being too many for a
frame. -/
theorem Frame.ne_payloadTooLarge_of_parse {raw : Bytes} {mode : ChecksumMode}
    {cause : FrameFailure} (h : parse raw mode = .error cause) (length : Nat) :
    cause ≠ .payloadTooLarge length := by
  rintro rfl
  unfold parse verify at h
  split at h
  · rename_i hverify
    cases h
    split at hverify
    · cases hverify
    · split at hverify
      · split at hverify
        · cases hverify
        · dsimp only at hverify
          split at hverify
          · cases hverify
          · cases hverify
      · cases hverify
  · split at h
    · dsimp only at h
      split at h
      · cases h
      · cases h
    · cases h

namespace Link

theorem read_fails (link : Link σ) : IfFails (fun cause _ => cause.OfReceiving) (read link) := by
  unfold read
  split
  · trivial
  · trivial

theorem receiveChunk_fails (empty : String) (link : Link σ) :
    IfFails (fun cause _ => cause.OfReceiving) (receiveChunk empty link) := by
  rw [receiveChunk]
  split
  · rename_i hread
    exact (read_fails link).of_error hread
  · rename_i bytes after hread
    have hlt := weight_read_lt hread
    split
    · trivial
    · split
      · have hmore := receiveChunk_fails "Empty continuation" after
        split
        · trivial
        · rename_i hrun
          exact hmore.of_error hrun
      · trivial
  termination_by link.channel.weight

theorem collect_fails (raw : Array UInt8) (link : Link σ) :
    IfFails (fun cause _ => cause.OfReceiving) (collect raw link) := by
  rw [collect]
  split
  · rename_i hreceive
    exact (receiveChunk_fails _ link).of_error hreceive
  · rename_i wire after hreceive
    have hlt : after.channel.weight < link.channel.weight := weight_receiveChunk_lt hreceive
    dsimp only
    split
    · intro length hlong
      cases hlong
    · split
      · split
        · split
          · trivial
          · rename_i hparse
            exact Frame.ne_payloadTooLarge_of_parse hparse
        · exact collect_fails _ after
      · exact collect_fails _ after
  termination_by link.channel.weight

theorem receiveAgain_fails (more : Nat) (link : Link σ) :
    IfFails (fun cause _ => cause.OfReceiving) (receiveAgain more link) := by
  induction more generalizing link with
  | zero => exact collect_fails #[] link
  | succ more ih =>
      rw [receiveAgain_succ]
      split
      · trivial
      · rename_i cause after hreceive
        split
        · exact ih after
        · exact (collect_fails #[] link).of_error hreceive

variable [Peer σ] {command : Command} {payload : Bytes}

/-- An exchange that can send its payload fails with the link. -/
theorem exchange_fails (hlen : payload.length ≤ Frame.maxPayload) (policy : Policy)
    (link : Link σ) :
    IfFails (fun cause _ => cause.OfLink ∧ cause.OfRun) (exchange command payload policy link) := by
  cases hconn : link.channel.connected with
  | false =>
      rw [exchange_of_disconnected hlen hconn]
      exact ⟨trivial, trivial⟩
  | true =>
      rw [exchange_eq hlen hconn]
      split
      · unfold judge
        split
        · trivial
        · exact ⟨trivial, trivial⟩
      · rename_i hreceive
        have hcause := (receiveAgain_fails _ _).of_error hreceive
        exact ⟨hcause.ofLink, hcause.ofRun⟩

theorem exchange_blameless (hlen : payload.length ≤ Frame.maxPayload) (policy : Policy)
    (link : Link σ) : Blameless (exchange command payload policy link) :=
  (exchange_fails hlen policy link).mono fun _ _ hcause => hcause.2

end Link

-- ========================================================= known names

namespace PartitionTable

theorem eq_of_lookup {name found : String} (h : lookup name = .ok found) : found = name := by
  unfold lookup at h
  split at h
  · cases h
    rfl
  · cases h

/-- Every name in the table can be asked for. -/
theorem make_of_lookup {name found : String} (h : lookup name = .ok found) (size : UInt32) :
    PartitionRequest.make found size = .ok { name := found, size } := by
  have hnames : ∀ name ∈ names, name.toList ≠ []
      ∧ (Utf16.units name.toList).length ≤ PartitionRequest.nameUnits := by decide
  unfold lookup at h
  split at h
  · rename_i hmem
    cases h
    obtain ⟨hname, hunits⟩ := hnames name hmem
    unfold PartitionRequest.make
    rw [if_neg hname, if_neg (Nat.not_lt.2 hunits)]
  · cases h

end PartitionTable

-- ============================================================= uploads

variable [Peer σ]

namespace Upload

theorem readPiece_blameless (chunk offset : UInt32) (link : Link σ) :
    Blameless (readPiece chunk offset link) := by
  have hlen : (ReadRequest.toBytes { size := chunk, offset }).length ≤ Frame.maxPayload := by
    rw [ReadRequest.length_toBytes]
    decide
  refine (Link.exchange_blameless hlen _ link).bind fun frame after _ => ?_
  split
  · trivial
  · trivial

theorem readPieces_blameless (partition : String) (audience : Audience) (moved : Summary)
    (r : Reading σ) : Blameless (readPieces partition audience moved r) := by
  rw [readPieces]
  split
  · trivial
  · split
    · rename_i hpiece
      exact (readPiece_blameless _ _ _).of_error hpiece
    · split
      · trivial
      · exact readPieces_blameless partition audience _ _
  termination_by r.window.remaining.toNat
  decreasing_by exact Window.remaining_advance_lt ‹_›

theorem finish_blameless (s : Upload × Link σ) : Blameless (finish s) := by
  cases hexchange : Link.exchange .readFlashEnd [] .ack s.2 with
  | ok f after =>
      rw [finish_of_ok hexchange]
      trivial
  | error cause after =>
      rw [finish_of_error hexchange]
      exact (Link.exchange_blameless (Nat.zero_le _) _ s.2).of_error hexchange

variable {name : String} {found : String} (hname : PartitionTable.lookup name = .ok found)

include hname

theorem start_blameless (link : Link σ) : Blameless (start (.ofPartition found, link)) := by
  have hmake := PartitionTable.make_of_lookup hname readAll
  cases hexchange : Link.exchange .readFlashStart (opening found) startPolicy link with
  | ok f after =>
      rw [start_of_ok hmake hexchange]
      trivial
  | error cause after =>
      rw [start_of_error hmake hexchange]
      exact (Link.exchange_blameless (length_opening_le _) _ link).of_error hexchange

/-- An upload of a known partition can blame its window, and does so
before it does anything. -/
theorem upload_param {size windowSize : UInt32} {audience : Audience} {sink : Sink}
    {link : Link σ} {argument : ParamFailure} {after : Sink × Link σ}
    (h : upload found size windowSize audience (sink, link) = .error (.param argument) after) :
    WindowSize.check windowSize = .error argument ∧ after = (sink, link) := by
  cases hcheck : WindowSize.check windowSize with
  | error cause =>
      unfold upload Window.make at h
      rw [hcheck] at h
      cases h
      exact ⟨rfl, rfl⟩
  | ok window =>
      have hwindow : Window.make 0 size windowSize = .ok (.start 0 size window) := by
        unfold Window.make
        rw [hcheck]
        rfl
      cases hstart : start (.ofPartition found, link) with
      | error cause s =>
          rw [upload_of_start_error hwindow hstart] at h
          cases h
          exact (start_blameless hname link).elim hstart
      | ok reply s =>
          rw [upload_of_start_ok hwindow hstart] at h
          split at h
          · rename_i hread
            cases h
            exact (readPieces_blameless _ _ _ _).elim hread
          · split at h
            · rename_i hfinish
              cases h
              exact (finish_blameless _).elim hfinish
            · cases h

end Upload

-- =========================================================== downloads

namespace Download

/-- A target that can be announced is not blamed for it. -/
theorem announce_blameless {target : Target} {size : UInt32} {payload : Bytes}
    (h : target.startPayload size = .ok payload) (link : Link σ) :
    Blameless (announce target size link) := by
  cases hexchange : Link.exchange .startData payload target.startPolicy link with
  | ok f after =>
      rw [announce_of_ok h hexchange]
      trivial
  | error cause after =>
      have hlen := (Target.startPayload_eq h).2
      have hcause := (Link.exchange_blameless hlen _ link).of_error hexchange
      rw [announce_of_error h hexchange]
      unfold refuseSize
      split
      · trivial
      · exact hcause

theorem writePieces_blameless (target : Target) (audience : Audience) (moved : Summary)
    (w : Writing σ) : Blameless (writePieces target audience moved w) := by
  rw [writePieces]
  split
  · trivial
  · rename_i chunk hnext
    split
    · trivial
    · rename_i data source hread
      have hlen : data.length ≤ Frame.maxPayload := by
        rw [Content.length_of_read hread]
        exact (Window.inside_of_some hnext).2
      split
      · rename_i hexchange
        exact (Link.exchange_blameless hlen _ _).of_error hexchange
      · exact writePieces_blameless target audience _ _
  termination_by w.window.remaining.toNat
  decreasing_by exact Window.remaining_advance_lt ‹_›

theorem run_blameless {target : Target} {window : Window} {payload : Bytes}
    (h : target.startPayload window.total = .ok payload) (source : Content) (audience : Audience)
    (link : Link σ) : Blameless (run target window source audience link) := by
  rw [run_eq]
  split
  · rename_i hannounce
    exact (announce_blameless h link).of_error hannounce
  · split
    · rename_i hwrite
      exact (writePieces_blameless _ _ _ _).of_error hwrite
    · split
      · rename_i hend
        exact (Link.exchange_blameless (Nat.zero_le _) _ _).of_error hend
      · trivial

/-- A download of a file to a known partition can blame its window and
its file, and does so before it does anything. -/
theorem downloadFile_param {name found : String} (hname : PartitionTable.lookup name = .ok found)
    {files : Files} {path : String} {windowSize : UInt32} {audience : Audience}
    {link after : Link σ} {argument : ParamFailure}
    (h : downloadFile (.partition found) files path windowSize audience link
      = .error (.param argument) after) : after = link := by
  unfold downloadFile at h
  split at h
  · cases h
    rfl
  · split at h
    · cases h
      rfl
    · rename_i size source himage
      have hpayload : (Target.partition found).startPayload size
          = .ok (PartitionRequest.toBytes { name := found, size }) := by
        show (PartitionRequest.make found size).map _ = _
        rw [PartitionTable.make_of_lookup hname]
        rfl
      exact (run_blameless hpayload _ _ _).elim h

end Download

-- ============================================================ bring-up

namespace BringUp

theorem load_blameless (audience : Audience) (image : LoaderImage) (link : Link σ) :
    Blameless (load audience image link) := by
  unfold load
  refine IfFails.bind ?_ fun _ _ _ => trivial
  rw [Download.download_eq]
  exact Download.run_blameless rfl _ _ _

omit [Peer σ] in
theorem onLink_blameless {act : LinkM σ α} (h : ∀ link, Blameless (act link))
    (s : Course × Link σ) : Blameless (onLink act s) := by
  obtain ⟨course, link⟩ := s
  unfold onLink
  dsimp only
  split
  · trivial
  · rename_i hrun
    exact (h link).of_error hrun

/-- A greeting does not fail. -/
theorem greet_blameless (audience : Audience) (phase : SessionPhase) (probes : Nat)
    (link : Link σ) : Blameless (greet audience phase probes link) := by
  unfold greet
  split <;> trivial

theorem half_blameless (audience : Audience) (image : LoaderImage) (known loaded : Stage)
    (policy : Policy) {last : Frame → BringUpM σ α} (hlast : ∀ f s, Blameless (last f s))
    (s : Course × Link σ) : Blameless (half audience image known loaded policy last s) := by
  unfold half
  refine IfFails.bind ?_ fun _ connected _ => ?_
  · apply onLink_blameless
    intro link
    exact (Link.exchange_blameless (Nat.zero_le _) _ link).bind fun _ _ _ => trivial
  refine IfFails.bind trivial fun _ known _ => ?_
  refine (onLink_blameless (load_blameless audience image) known).bind fun _ loaded _ => ?_
  refine IfFails.bind trivial fun _ loaded _ => ?_
  refine (onLink_blameless (Link.exchange_blameless (Nat.zero_le _) _) loaded).bind
    fun f started _ => ?_
  exact hlast f started

theorem bootFirst_blameless (audience : Audience) (first : LoaderImage) (s : Course × Link σ) :
    Blameless (bootFirst audience first s) := by
  rw [bootFirst_eq]
  refine IfFails.bind trivial fun _ s _ => ?_
  refine IfFails.bind trivial fun _ s _ => ?_
  refine (onLink_blameless (greet_blameless _ _ _) s).bind fun version s _ => ?_
  apply half_blameless
  intro f s
  trivial

theorem bootSecond_blameless (audience : Audience) (second : LoaderImage) (s : Course × Link σ) :
    Blameless (bootSecond audience second s) := by
  rw [bootSecond_eq]
  refine IfFails.bind trivial fun _ s _ => ?_
  refine IfFails.bind trivial fun _ s _ => ?_
  refine IfFails.bind trivial fun _ s _ => ?_
  refine (onLink_blameless (greet_blameless _ _ _) s).bind fun version s _ => ?_
  apply half_blameless
  intro f s
  trivial

/-- Images that were judged are not blamed again. -/
theorem run_blameless (audience : Audience) (first second : LoaderImage) (s : Course × Link σ) :
    Blameless (run audience first second s) := by
  have hstages : Blameless (stages audience first second s) := by
    refine (bootFirst_blameless audience first s).bind fun romVersion s _ => ?_
    exact (bootSecond_blameless audience second s).bind fun _ _ _ => trivial
  unfold run
  split
  · trivial
  · rename_i hrun
    exact hstages.of_error hrun

end BringUp

end FlashLink
