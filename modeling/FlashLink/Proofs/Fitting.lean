/-
What a session writes fits, and so does what it asks for.

A frame carries 65535 bytes at most, whichever way it goes. The host
keeps to that twice. What it sends is no longer, so nothing it does fails
for a payload that fits no frame; and what it asks for is no longer
either, so the reply to each of its requests fits a frame as well. Both
come from the window, whose size was judged when it was made: no piece of
it is empty, and none is larger than a frame.

`Fitting` says of a buffer that a session may write it. What the layers
write was settled before (`Follows`), so all that is left is to look
through their scripts; what they fail with was settled too (`Blameless`).
A device in any state, whatever was done to it before, has a reply to
such a buffer that fits (`Device.says?_fits`), and it answers with the
frame of that reply (`Device.flatten_answer`).
-/
import FlashLink.Proofs.Discipline
import FlashLink.Proofs.Draining
import FlashLink.Proofs.Rerun
import FlashLink.Proofs.Untouched

namespace FlashLink

open Link (Wrote request)
open Stuffing (delimiter unstuff)

variable {ε σ τ α β : Type}

-- ============================================================ the requests

namespace Link

/-- A request that fits a frame; the piece it asks for, if it asks for
one, is not empty and fits a frame as well. -/
structure Fits (command : Command) (payload : Bytes) : Prop where
  length : payload.length ≤ Frame.maxPayload
  piece : command = .readFlashMidst → ∃ r : ReadRequest, payload = r.toBytes
    ∧ 1 ≤ r.size.toNat ∧ r.size.toNat ≤ Frame.maxPayload

theorem Fits.of_ne {command : Command} {payload : Bytes} (hne : command ≠ .readFlashMidst)
    (hlen : payload.length ≤ Frame.maxPayload) : Fits command payload :=
  ⟨hlen, fun h => absurd h hne⟩

theorem Fits.of_piece {r : ReadRequest} (hpos : 1 ≤ r.size.toNat)
    (hle : r.size.toNat ≤ Frame.maxPayload) : Fits .readFlashMidst r.toBytes := by
  refine ⟨?_, fun _ => ⟨r, rfl, hpos, hle⟩⟩
  rw [ReadRequest.length_toBytes]
  decide

/-- A buffer that a session may write: a bare delimiter, or the frame of
a request that fits. -/
inductive Fitting : Bytes → Prop where
  | probe : Fitting [delimiter]
  | request {command : Command} {payload : Bytes} (h : Fits command payload)
      (mode : ChecksumMode) : Fitting (request command payload mode)

end Link

open Link (Fits Fitting)

/-- Behind some buffers only such buffers were written. -/
def Channel.FitSince (channel : Channel σ) (before : List Bytes) : Prop :=
  ∃ buffers, channel.sent = before ++ buffers ∧ ∀ buffer ∈ buffers, Fitting buffer

/-- A run that keeps a property of its state, and does not fail for a
payload that fits no frame. -/
structure Modest (P : σ → Prop) (r : EStateM.Result Failure σ α) : Prop where
  state : P (endState r)
  cause : IfFails (fun cause _ => ∀ length, cause ≠ .frame (.payloadTooLarge length)) r

/-- A failure that blames no payload. -/
theorem Failure.OfRun.ne_payloadTooLarge {cause : Failure} (h : cause.OfRun) (length : Nat) :
    cause ≠ .frame (.payloadTooLarge length) := by
  rintro rfl
  exact h

namespace Modest

variable {P : σ → Prop}

theorem ok {value : α} {s : σ} (h : P s) : Modest P (.ok value s) := ⟨h, trivial⟩

theorem error {cause : Failure} {s : σ}
    (hcause : ∀ length, cause ≠ .frame (.payloadTooLarge length)) (h : P s) :
    Modest P (.error cause s : EStateM.Result Failure σ α) := ⟨h, hcause⟩

theorem param (argument : ParamFailure) {s : σ} (h : P s) :
    Modest P (.error (.param argument) s : EStateM.Result Failure σ α) :=
  ⟨h, fun _ hcause => by cases hcause⟩

theorem of_blameless {r : EStateM.Result Failure σ α} (h : Blameless r) (hstate : P (endState r)) :
    Modest P r :=
  ⟨hstate, h.mono fun _ _ hcause => hcause.ne_payloadTooLarge⟩

theorem exits {r : EStateM.Result Failure σ α} (h : Modest P r) :
    (∃ value after, r = .ok value after ∧ P after)
      ∨ ∃ cause after, r = .error cause after
        ∧ (∀ length, cause ≠ .frame (.payloadTooLarge length)) ∧ P after := by
  cases r with
  | ok value after => exact .inl ⟨value, after, rfl, h.state⟩
  | error cause after => exact .inr ⟨cause, after, rfl, h.cause, h.state⟩

theorem outcome_ne {r : EStateM.Result Failure σ α} (h : Modest P r) (length : Nat) :
    outcome r ≠ .error (.frame (.payloadTooLarge length)) := by
  rcases h.exits with ⟨value, after, rfl, -⟩ | ⟨cause, after, rfl, hcause, -⟩
  · intro hend
    cases hend
  · intro hend
    cases hend
    exact hcause length rfl

theorem bind {act : EStateM Failure σ α} {next : α → EStateM Failure σ β} {s : σ}
    (hact : Modest P (act s))
    (hnext : ∀ value after, act s = .ok value after → P after → Modest P (next value after)) :
    Modest P ((act >>= next) s) := by
  rcases hact.exits with ⟨value, after, hrun, hafter⟩ | ⟨cause, after, hrun, hcause, hafter⟩
  · rw [bind_of_ok hrun]
    exact hnext value after hrun hafter
  · rw [bind_of_error hrun]
    exact .error hcause hafter

end Modest

-- ============================================================= the scripts

section

variable {before buffers : List Bytes}

theorem Channel.FitSince.append {channel after : Channel σ} (h : channel.FitSince before)
    (hsent : after.sent = channel.sent ++ buffers) (hfit : ∀ buffer ∈ buffers, Fitting buffer) :
    after.FitSince before := by
  obtain ⟨earlier, hearlier, hfirst⟩ := h
  refine ⟨earlier ++ buffers, by rw [hsent, hearlier, List.append_assoc], ?_⟩
  intro buffer hbuffer
  rcases List.mem_append.1 hbuffer with hbuffer | hbuffer
  · exact hfirst buffer hbuffer
  · exact hfit buffer hbuffer

/-- A run that follows a script writes what fits if the script does. -/
theorem Follows.fitSince {link : Link σ} {f : τ → Link σ} {r : EStateM.Result ε τ α}
    (h : Follows (fun buffers s => Wrote link buffers (f s)) buffers r)
    (hfit : ∀ buffer ∈ buffers, Fitting buffer) (hlink : link.channel.FitSince before) :
    (f (endState r)).channel.FitSince before := by
  cases r with
  | ok value after => exact hlink.append h.sent hfit
  | error cause after =>
      obtain ⟨front, hfront, hwrote⟩ := h
      exact hlink.append hwrote.sent fun buffer hbuffer => hfit buffer (hfront.subset hbuffer)

end

/-- The one buffer of a script fits. -/
theorem Link.Fits.single {command : Command} {payload : Bytes} (h : Fits command payload)
    (mode : ChecksumMode) : ∀ buffer ∈ [request command payload mode], Fitting buffer := by
  intro buffer hbuffer
  rw [List.mem_singleton.1 hbuffer]
  exact .request h mode

/-- So do all of one whose requests do. -/
theorem Link.Fits.map {requests : List (Command × Bytes)} (h : ∀ r ∈ requests, Fits r.1 r.2)
    (mode : ChecksumMode) :
    ∀ buffer ∈ requests.map (fun r => request r.1 r.2 mode), Fitting buffer := by
  intro buffer hbuffer
  obtain ⟨r, hr, rfl⟩ := List.mem_map.1 hbuffer
  exact .request (h r hr) mode

/-- A window asks for pieces that fit. -/
theorem Upload.fitting_asks (window : WindowSize) (offset remaining : Nat) (mode : ChecksumMode) :
    ∀ buffer ∈ asks mode (Window.requests window.size.toNat offset remaining),
      Fitting buffer := by
  intro buffer hbuffer
  obtain ⟨r, hr, rfl⟩ := List.mem_map.1 hbuffer
  obtain ⟨hpos, hle⟩ := Window.inside_of_mem_requests window.pos window.size.toNat_lt hr
  exact .request (.of_piece hpos (Nat.le_trans hle window.fits)) mode

/-- A download asks for nothing, and sends pieces that fit. -/
theorem Download.fits_of_mem_requests {target : Target} {size : UInt32} {payload : Bytes}
    (h : target.startPayload size = .ok payload) (window : WindowSize) (image : Bytes) :
    ∀ r ∈ requests target size (Window.pieces window.size.toNat image), Fits r.1 r.2 := by
  obtain ⟨hannounce, hlen⟩ := Target.startPayload_eq h
  rw [hannounce] at hlen
  intro r hr
  rcases List.mem_append.1 hr with hr | hr
  · rcases List.mem_cons.1 hr with rfl | hr
    · show Fits .startData _
      exact .of_ne (by decide) hlen
    · obtain ⟨piece, hpiece, rfl⟩ := List.mem_map.1 hr
      show Fits .midstData piece
      exact .of_ne (by decide)
        (Nat.le_trans (Window.length_le_of_mem_pieces hpiece) window.fits)
  · rw [List.mem_singleton.1 hr]
    exact .of_ne (by decide) (Nat.zero_le _)

/-- A bring-up probes, connects, loads and starts. -/
theorem BringUp.fitting_loading (mode : ChecksumMode) (image : LoaderImage) :
    ∀ buffer ∈ loading mode image, Fitting buffer := by
  have hpayload : (Target.memory image.address).startPayload image.size
      = .ok (LoadRequest.toBytes { address := image.address, size := image.size }) := rfl
  have hloads : ∀ r ∈ loads image, Fits r.1 r.2 :=
    Download.fits_of_mem_requests hpayload image.window image.data
  intro buffer hbuffer
  rcases List.mem_append.1 hbuffer with hbuffer | hbuffer
  · rcases List.mem_cons.1 hbuffer with rfl | hbuffer
    · exact .request (.of_ne (by decide) (Nat.zero_le _)) mode
    · exact Fits.map hloads mode buffer hbuffer
  · rw [List.mem_singleton.1 hbuffer]
    exact .request (.of_ne (by decide) (Nat.zero_le _)) mode

theorem BringUp.fitting_transcript (first second : LoaderImage) (probes : Nat) :
    ∀ buffer ∈ transcript first second probes, Fitting buffer := by
  intro buffer hbuffer
  rcases List.mem_append.1 hbuffer with hbuffer | hbuffer
  · rcases List.mem_cons.1 hbuffer with rfl | hbuffer
    · exact .probe
    · exact fitting_loading _ _ buffer hbuffer
  · rcases List.mem_append.1 hbuffer with hbuffer | hbuffer
    · rw [List.eq_of_mem_replicate hbuffer]
      exact .probe
    · exact fitting_loading _ _ buffer hbuffer

-- ============================================================ the transfers

section

variable [Peer σ] {before : List Bytes} {link : Link σ}

theorem Link.exchange_modest {command : Command} {payload : Bytes} (hfits : Fits command payload)
    (policy : Policy) (h : link.channel.FitSince before) :
    Modest (fun link => link.channel.FitSince before) (exchange command payload policy link) :=
  .of_blameless (exchange_blameless hfits.length policy link)
    ((exchange_follows command payload policy link).fitSince (f := id)
      (hfits.single link.mode) h)

/-- The request that opens a partition fits. -/
theorem Upload.fits_opening (name : String) : Fits .readFlashStart (opening name) :=
  .of_ne (by decide) (length_opening_le name)

variable {name found : String} (hname : PartitionTable.lookup name = .ok found)

include hname

theorem Upload.start_modest (h : link.channel.FitSince before) :
    Modest (fun s : Upload × Link σ => s.2.channel.FitSince before)
      (start (.ofPartition found, link)) :=
  .of_blameless (start_blameless hname link)
    ((start_follows (.ofPartition found) link).fitSince (f := Prod.snd)
      ((fits_opening found).single link.mode) h)

omit hname in
theorem Upload.finish_modest (u : Upload) (h : link.channel.FitSince before) :
    Modest (fun s : Upload × Link σ => s.2.channel.FitSince before) (finish (u, link)) := by
  have hfits : Fits .readFlashEnd [] := .of_ne (by decide) (Nat.zero_le _)
  exact .of_blameless (finish_blameless (u, link))
    ((finish_follows u link).fitSince (f := Prod.snd) (hfits.single link.mode) h)

omit hname in
theorem Upload.readPieces_modest (partition : String) (audience : Audience) (moved : Summary)
    {r : Reading σ} {offset remaining : Nat} (hat : r.window.At offset remaining)
    (h : r.link.channel.FitSince before) :
    Modest (fun r : Reading σ => r.link.channel.FitSince before)
      (readPieces partition audience moved r) :=
  .of_blameless (readPieces_blameless partition audience moved r)
    ((readPieces_follows partition audience moved hat).fitSince (f := Reading.link)
      (fitting_asks r.window.size offset remaining r.link.mode) h)

theorem upload_modest (size windowSize : UInt32) (audience : Audience)
    (h : link.channel.FitSince before) :
    Modest (fun s : Sink × Link σ => s.2.channel.FitSince before)
      (upload found size windowSize audience (.unlimited, link)) := by
  cases hcheck : WindowSize.check windowSize with
  | error cause =>
      rw [Upload.upload_eq, hcheck]
      exact .param _ h
  | ok window =>
      have hwindow : Window.make 0 size windowSize = .ok (.start 0 size window) := by
        rw [← WindowSize.size_of_check hcheck, Window.make_size]
      rcases (Upload.start_modest hname h).exits with
        ⟨reply, ⟨u, opened⟩, hstart, hopened⟩ | ⟨cause, ⟨u, opened⟩, hstart, hcause, hopened⟩
      · rw [Upload.upload_of_start_ok hwindow hstart]
        rcases (Upload.readPieces_modest u.partition audience .none
          (r := ⟨opened, .start 0 size window, .unlimited⟩) (Window.At.start_zero size window)
          hopened).exits with ⟨moved, r, hread, hr⟩ | ⟨cause, r, hread, hcause, hr⟩
        · rw [hread]
          dsimp only
          rcases (Upload.finish_modest u hr).exits with
            ⟨_, ⟨u, closed⟩, hfinish, hclosed⟩ | ⟨cause, ⟨u, closed⟩, hfinish, hcause, hclosed⟩
          · rw [hfinish]
            exact .ok hclosed
          · rw [hfinish]
            exact .error hcause hclosed
        · rw [hread]
          exact .error hcause hr
      · rw [Upload.upload_of_start_error hwindow hstart]
        exact .error hcause hopened

theorem downloadFile_modest (files : Files) (path : String) (windowSize : UInt32)
    (audience : Audience) (h : link.channel.FitSince before) :
    Modest (fun link : Link σ => link.channel.FitSince before)
      (downloadFile (.partition found) files path windowSize audience link) := by
  unfold downloadFile
  split
  · exact .param _ h
  · rename_i window hwindow
    split
    · exact .param _ h
    · rename_i size source himage
      have hpayload : (Target.partition found).startPayload size
          = .ok (PartitionRequest.toBytes { name := found, size }) := by
        show (PartitionRequest.make found size).map _ = _
        rw [PartitionTable.make_of_lookup hname]
        rfl
      have hfits := Download.fits_of_mem_requests hpayload window source.toBytes
      exact .of_blameless (Download.run_blameless hpayload source audience link)
        ((Download.run_follows _ window (Files.length_of_image himage) audience link).fitSince
          (f := id) (Fits.map hfits link.mode) h)

end

-- =========================================================== block devices

section

variable [Peer σ] {before : List Bytes}

theorem BlockDevice.readBlocks_modest (d : BlockDevice) (first : UInt64) (count : UInt32)
    {link : Link σ} (h : link.channel.FitSince before) :
    Modest (fun s : BlockDevice × Link σ => s.2.channel.FitSince before)
      (readBlocks first count (d, link)) := by
  cases hopen : d.isOpen with
  | false =>
      rw [readBlocks_of_closed hopen]
      exact .of_blameless trivial h
  | true =>
      cases hrange : byteRange first count with
      | error argument =>
          rw [readBlocks_of_range_error hopen hrange]
          exact .param _ h
      | ok range =>
          obtain ⟨offset, length⟩ := range
          obtain ⟨-, -, hin⟩ := byteRange_eq hrange
          rw [readBlocks_of_range hopen hrange]
          rcases (Upload.readPieces_modest d.upload.partition .nobody .none
            (r := ⟨link, .start offset length d.window, .unlimited⟩)
            (Window.At.start offset length d.window hin) h).exits with
              ⟨moved, r, hread, hr⟩ | ⟨cause, r, hread, hcause, hr⟩
          · rw [hread]
            exact .ok hr
          · rw [hread]
            exact .error hcause hr

theorem BlockDevice.finish_modest (d : BlockDevice) {link : Link σ}
    (h : link.channel.FitSince before) :
    Modest (fun s : BlockDevice × Link σ => s.2.channel.FitSince before) (finish (d, link)) := by
  cases hopen : d.isOpen with
  | false =>
      rw [finish_of_closed hopen]
      exact .ok h
  | true =>
      rw [finish_of_open hopen]
      rcases (Upload.finish_modest d.upload h).exits with
        ⟨_, ⟨u, closed⟩, hfinish, hclosed⟩ | ⟨cause, ⟨u, closed⟩, hfinish, hcause, hclosed⟩
      · rw [hfinish]
        exact .ok hclosed
      · rw [hfinish]
        exact .error hcause hclosed

theorem Dump.copyBatches_modest (audience : Audience) (start : UInt64) (total done : Nat)
    (c : Copying σ) (h : c.link.channel.FitSince before) :
    Modest (fun c : Copying σ => c.link.channel.FitSince before)
      (copyBatches audience start total done c) := by
  rw [copyBatches]
  split
  · exact .ok h
  · dsimp only
    rcases (c.device.readBlocks_modest (start + UInt64.ofNat done)
      (UInt32.ofNat (min (total - done) batchBlocks)) h).exits with
        ⟨data, ⟨device, link⟩, hread, hlink⟩ | ⟨cause, ⟨device, link⟩, hread, hcause, hlink⟩
    · rw [hread]
      dsimp only
      split
      · exact .of_blameless trivial hlink
      · exact copyBatches_modest audience start total _ _ hlink
    · rw [hread]
      exact .error hcause hlink
  termination_by total - done
  decreasing_by
    have : 0 < batchBlocks := by decide
    omega

theorem dump_modest {name found : String} (hname : PartitionTable.lookup name = .ok found)
    (start : UInt64) (count windowSize : UInt32) (audience : Audience) {link : Link σ}
    (h : link.channel.FitSince before) :
    Modest (fun s : Sink × Link σ => s.2.channel.FitSince before)
      (dump found start count windowSize audience (.unlimited, link)) := by
  unfold dump
  dsimp only
  split
  · exact .param _ h
  · rename_i window hwindow
    rw [BlockDevice.start_of_closed rfl,
      show (BlockDevice.ofPartition found window).upload = .ofPartition found from rfl]
    rcases (Upload.start_modest hname h).exits with
      ⟨reply, ⟨u, opened⟩, hstart, hopened⟩ | ⟨cause, ⟨u, opened⟩, hstart, hcause, hopened⟩
    · rw [hstart]
      dsimp only
      rcases (Dump.copyBatches_modest audience start count.toNat 0 ⟨_, opened, .unlimited⟩
        hopened).exits with ⟨_, c, hcopy, hc⟩ | ⟨cause, c, hcopy, hcause, hc⟩
      · rw [hcopy]
        dsimp only
        rcases (c.device.finish_modest hc).exits with
          ⟨_, ⟨d, closed⟩, hfinish, hclosed⟩ | ⟨cause, ⟨d, closed⟩, hfinish, hcause, hclosed⟩
        · rw [hfinish]
          exact .ok hclosed
        · rw [hfinish]
          exact .error hcause hclosed
      · rw [hcopy]
        exact .error hcause hc
    · rw [hstart]
      exact .error hcause hopened

-- =============================================================== bring-up

theorem BringUp.run_modest (audience : Audience) (first second : LoaderImage) {link : Link σ}
    (h : link.channel.FitSince before) :
    Modest (fun s : Course × Link σ => s.2.channel.FitSince before)
      (run audience first second (.start, link)) := by
  refine .of_blameless (run_blameless audience first second (.start, link)) ?_
  have hstages : (endState (stages audience first second (.start, link))).2.channel.FitSince
      before := by
    cases hconn : link.channel.connected with
    | false =>
        have hsame := (stages_onward audience first second .start link).unplugged hconn
        exact h.append (hsame.trans (List.append_nil _).symm) fun _ hnone => by cases hnone
    | true =>
        obtain ⟨probes, -, hpassed, -⟩ := stages_passed audience first second hconn
        obtain ⟨buffers, hbuffers, hsent⟩ := hpassed.written
        exact h.append hsent fun buffer hbuffer =>
          fitting_transcript first second probes buffer (hbuffers.subset hbuffer)
  cases hrun : stages audience first second (.start, link) with
  | ok report s =>
      rw [hrun] at hstages
      rw [run_of_ok hrun]
      exact hstages
  | error cause s =>
      rw [hrun] at hstages
      rw [run_of_error hrun]
      exact hstages

end

-- ============================================================= the session

namespace Session

variable {before : List Bytes} {s : Session σ}

theorem check_modest (checked : Except ParamFailure α) (h : s.channel.FitSince before) :
    Modest (fun s : Session σ => s.channel.FitSince before) (check checked s) := by
  cases checked with
  | ok value => exact .ok h
  | error argument => exact .param _ h

theorem createFile_modest (path : String) (h : s.channel.FitSince before) :
    Modest (fun s : Session σ => s.channel.FitSince before) (createFile path s) := by
  rcases createFile_cases path s with ⟨names, files, -, hmade⟩ | ⟨cause, hrefused⟩
  · rw [hmade]
    exact .ok h
  · rw [hrefused]
    exact .of_blameless trivial h

theorem overLink_modest (mode : ChecksumMode) {act : LinkM σ α}
    (h : Modest (fun link : Link σ => link.channel.FitSince before) (act (s.link mode))) :
    Modest (fun s : Session σ => s.channel.FitSince before) (overLink mode act s) := by
  unfold overLink
  rcases h.exits with ⟨value, link, hrun, hlink⟩ | ⟨cause, link, hrun, hcause, hlink⟩
  · rw [hrun]
    exact .ok hlink
  · rw [hrun]
    exact .error hcause hlink

theorem fillFile_modest (names : List String) {act : EStateM Failure (Sink × Link σ) α}
    (h : Modest (fun s : Sink × Link σ => s.2.channel.FitSince before)
      (act (.unlimited, s.link .sum))) :
    Modest (fun s : Session σ => s.channel.FitSince before) (fillFile names act s) := by
  unfold fillFile
  rcases h.exits with
    ⟨value, ⟨sink, link⟩, hrun, hlink⟩ | ⟨cause, ⟨sink, link⟩, hrun, hcause, hlink⟩
  · rw [hrun]
    exact .ok hlink
  · rw [hrun]
    exact .error hcause hlink

variable [Peer σ]

theorem bringUp_modest (h : s.channel.FitSince before) :
    Modest (fun s : Session σ => s.channel.FitSince before) (bringUp s) := by
  unfold bringUp
  refine Modest.bind (.ok h) fun t s _ h => ?_
  refine (check_modest _ h).bind fun first s _ h => ?_
  refine (check_modest _ h).bind fun second s _ h => ?_
  apply overLink_modest
  have hlink : (s.link .crc).channel.FitSince before := h
  rcases (BringUp.run_modest t.audience first second hlink).exits with
    ⟨report, ⟨course, link⟩, hrun, hlink⟩ | ⟨cause, ⟨course, link⟩, hrun, hcause, hlink⟩
  · rw [hrun]
    exact .ok hlink
  · rw [hrun]
    exact .error hcause hlink

theorem command_modest {c : Command} (hne : c ≠ .readFlashMidst) (h : s.channel.FitSince before) :
    Modest (fun s : Session σ => s.channel.FitSince before) (command c s) := by
  unfold command
  refine Modest.bind (.ok h) fun _ s _ h => ?_
  refine Modest.bind (overLink_modest .sum ?_) fun _ s _ h => .ok h
  exact Link.exchange_modest (.of_ne hne (Nat.zero_le _)) .ack h

omit [Peer σ] in
/-- What receives into a file is modest if it is so over the link. -/
theorem receive_modest {partition path : String}
    {act : String → EStateM Failure (Sink × Link σ) α} (h : s.channel.FitSince before)
    (hact : ∀ found link, PartitionTable.lookup partition = .ok found →
      link.channel.FitSince before →
      Modest (fun s : Sink × Link σ => s.2.channel.FitSince before)
        (act found (.unlimited, link))) :
    Modest (fun s : Session σ => s.channel.FitSince before) ((do
      let found ← check (PartitionTable.lookup partition)
      tell (.phaseChanged .ready .upload)
      let names ← createFile path
      fillFile names (act found)) s) := by
  refine (check_modest _ h).bind fun found s hfound h => ?_
  refine Modest.bind (.ok h) fun _ s _ h => ?_
  refine (createFile_modest path h).bind fun names s _ h => ?_
  exact fillFile_modest names (hact found (s.link .sum) (check_ok hfound).1 h)

theorem writePartition_modest (partition path : String) (h : s.channel.FitSince before) :
    Modest (fun s : Session σ => s.channel.FitSince before) (writePartition partition path s) := by
  unfold writePartition
  refine Modest.bind (.ok h) fun t s _ h => ?_
  refine (check_modest _ h).bind fun found s hfound h => ?_
  refine Modest.bind (.ok h) fun _ s _ h => ?_
  exact overLink_modest .sum
    (downloadFile_modest (check_ok hfound).1 t.files path t.settings.downloadWindow t.audience h)

theorem attempt_modest (operation : Operation) (h : s.channel.FitSince before) :
    Modest (fun s : Session σ => s.channel.FitSince before) (attempt operation s) := by
  cases operation with
  | ready => exact (bringUp_modest h).bind fun _ _ _ h => .ok h
  | reset => exact (command_modest (by decide) h).bind fun _ _ _ h => .ok h
  | shutdown => exact (command_modest (by decide) h).bind fun _ _ _ h => .ok h
  | read partition size path =>
      refine Modest.bind ?_ fun _ _ _ h => .ok h
      unfold readPartition
      refine Modest.bind (.ok h) fun t s _ h => ?_
      exact receive_modest h fun found link hname h =>
        upload_modest hname size t.settings.uploadWindow t.audience h
  | write partition path =>
      exact (writePartition_modest partition path h).bind fun _ _ _ h => .ok h
  | dump partition start count path =>
      refine Modest.bind ?_ fun _ _ _ h => .ok h
      unfold dumpBlocks
      refine Modest.bind (.ok h) fun t s _ h => ?_
      exact receive_modest h fun found link hname h =>
        dump_modest hname start count t.settings.uploadWindow t.audience h

theorem perform_modest (operation : Operation) (h : s.channel.FitSince before) :
    Modest (fun s : Session σ => s.channel.FitSince before) (perform operation s) := by
  unfold perform
  rcases (attempt_modest operation h).exits with
    ⟨value, after, hrun, hafter⟩ | ⟨cause, after, hrun, hcause, hafter⟩
  · rw [hrun]
    exact .ok hafter
  · rw [hrun]
    exact .error hcause hafter

end Session

-- ============================================================= the replies

namespace Device

/-- What a device has to say to a buffer, before it is put in a frame. A
frame it cannot read gets no answer. -/
def says? (d : Device) (wire : Bytes) : Option Answer :=
  if wire = [delimiter] then
    if d.silentProbe then none
    else some { reply := .version, payload := banner d.program, stalls := 0 }
  else
    match Frame.parse (unstuff wire) d.program.mode with
    | .error _ => none
    | .ok frame => some ({ d with commands := d.commands.push frame.kind }.serve frame).1

/-- It is what it answers. -/
theorem answer_eq (d : Device) (wire : Bytes) :
    (answer d wire).1 = match d.says? wire with
      | none => []
      | some a =>
        List.replicate a.stalls []
          ++ cut (answer d wire).2.chunk (wireOf a.reply a.payload d.program.mode) := by
  unfold answer says?
  dsimp only
  by_cases hprobe : wire = [delimiter]
  · rw [if_pos hprobe, if_pos hprobe]
    cases d.silentProbe <;> rfl
  · rw [if_neg hprobe, if_neg hprobe]
    cases Frame.parse (unstuff wire) d.program.mode <;> rfl

/-- What goes out is the frame of what it has to say, if that fits. -/
theorem flatten_answer {d : Device} {wire : Bytes} {a : Answer} (ha : d.says? wire = some a)
    (hlen : a.payload.length ≤ Frame.maxPayload) :
    (answer d wire).1.flatten = (Frame.sealed a.reply.code a.payload d.program.mode).encode := by
  rw [answer_eq, ha]
  dsimp only
  rw [List.flatten_append, List.flatten_replicate_nil, List.nil_append,
    flatten_cut (answer d wire).2.chunk_pos, wireOf_of_le hlen]

/-- Only the reply to a request for a piece carries anything, and no
more than was asked for. -/
theorem length_serve (d : Device) (frame : Frame) :
    (d.serve frame).1.payload.length = 0
      ∨ Command.ofCode? frame.kind = some .readFlashMidst
        ∧ ∃ r, ReadRequest.ofBytes frame.payload = .ok r
          ∧ (d.serve frame).1.payload.length ≤ r.size.toNat := by
  unfold serve
  cases hkind : Command.ofCode? frame.kind with
  | none => exact .inl rfl
  | some command =>
      cases command with
      | readFlashMidst =>
          dsimp only
          cases hr : ReadRequest.ofBytes frame.payload with
          | error cause => exact .inl rfl
          | ok r =>
              refine .inr ⟨rfl, r, rfl, ?_⟩
              show (d.window r).length ≤ r.size.toNat
              rw [window_eq, List.length_take]
              exact Nat.min_le_left ..
      | readFlashStart =>
          dsimp only
          cases PartitionRequest.ofBytes frame.payload <;> exact .inl rfl
      | execData =>
          unfold exec
          cases d.program <;> exact .inl rfl
      | _ => exact .inl rfl

/-- A device has nothing to say to a buffer of a session that would not
fit a frame. -/
theorem says?_fits (d : Device) {buffer : Bytes} (h : Fitting buffer) {a : Answer}
    (ha : d.says? buffer = some a) : a.payload.length ≤ Frame.maxPayload := by
  cases h with
  | probe =>
      unfold says? at ha
      rw [if_pos rfl] at ha
      split at ha
      · cases ha
      · cases ha
        exact d.length_banner_le
  | @request command payload hfits mode =>
      unfold says? at ha
      rw [Link.request, if_neg (Frame.encode_ne_probe _), Frame.unstuff_encode] at ha
      split at ha
      · cases ha
      · rename_i frame hparse
        cases ha
        obtain ⟨rfl, -⟩ := Frame.eq_of_parse_toBytes hfits.length hparse
        rcases length_serve { d with commands := d.commands.push _ }
          (Frame.sealed command.code payload mode) with hnone | ⟨hkind, r, hr, hle⟩
        · exact le_of_eq_of_le hnone (Nat.zero_le _)
        · rw [Frame.kind_sealed, Command.ofCode?_code] at hkind
          cases hkind
          obtain ⟨asked, rfl, -, hmax⟩ := hfits.piece rfl
          rw [Frame.payload_sealed, ReadRequest.ofBytes_toBytes] at hr
          cases hr
          exact Nat.le_trans hle hmax

end Device

/-- Whatever a session is asked to do, with whatever settings and files
and whatever the other end answers: every buffer it writes is a bare
delimiter or a frame whose payload fits, and a piece is asked for only in
a size that fits. What a device in any state has to say to such a buffer
fits a frame, and that frame is its answer; one that has nothing to say
answers nothing. And nothing fails for a payload that does not fit. -/
theorem Session.perform_fits [Peer σ] (operation : Operation) (s : Session σ) :
    (∃ buffers, (endState (perform operation s)).channel.sent = s.channel.sent ++ buffers
      ∧ ∀ buffer ∈ buffers, Fitting buffer
        ∧ ∀ d : Device,
          (∀ a, d.says? buffer = some a →
            ∃ f, Frame.build a.reply.code a.payload d.program.mode = .ok f
              ∧ (d.answer buffer).1.flatten = f.encode)
          ∧ (d.says? buffer = none → (d.answer buffer).1 = []))
      ∧ ∀ length, outcome (perform operation s) ≠ .error (.frame (.payloadTooLarge length)) := by
  have hempty : s.channel.FitSince s.channel.sent :=
    ⟨[], (List.append_nil _).symm, fun _ hnone => by cases hnone⟩
  have hmodest := perform_modest operation hempty
  obtain ⟨buffers, hsent, hfit⟩ := hmodest.state
  refine ⟨⟨buffers, hsent, fun buffer hbuffer => ⟨hfit buffer hbuffer, fun d => ⟨?_, ?_⟩⟩⟩,
    hmodest.outcome_ne⟩
  · intro a ha
    have hlen := d.says?_fits (hfit buffer hbuffer) ha
    exact ⟨_, Frame.build_of_le hlen _ _, Device.flatten_answer ha hlen⟩
  · intro hnone
    rw [Device.answer_eq, hnone]

end FlashLink
