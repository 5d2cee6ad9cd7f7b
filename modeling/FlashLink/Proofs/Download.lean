/-
A download stores what was acknowledged.

The device keeps the pieces of an image under its target, and nothing
else: under an address while the boot ROM or the first loader runs,
under a name once the second loader does. After the announcement there
is nothing under the target (`began`), and each piece that is
acknowledged is appended (`took`). The one piece that the device may
refuse is counted and not kept (`stumbled`). So wherever a download
stops, the device holds the pieces before that point, which are a
prefix of the image.

The invariant stands between two pieces (`Partway`): the device has
taken the first `k`, and nothing is in the queue. One more piece is
taken (`step`) or ends the download (`refused`), and so as many are
taken as stand before the failing one (`run`). Announcement and
completion stand around them (`run_taken`, `run_refused`), and a device
without room refuses the announcement itself (`run_full`).
-/
import FlashLink.Proofs.Pieces
import FlashLink.Proofs.Upload

namespace FlashLink

namespace Records

variable {κ : Type} [DecidableEq κ]

/-- The records with pieces appended to what is kept under a key. -/
def extendAll (records : Records κ) (key : κ) (pieces : List Bytes) : Records κ :=
  pieces.foldl (fun records piece => extend records key piece) records

theorem extendAll_append (records : Records κ) (key : κ) (pieces more : List Bytes) :
    extendAll (extendAll records key pieces) key more = extendAll records key (pieces ++ more) := by
  simp [extendAll]

theorem get?_extendAll_self {records : Records κ} {key : κ} {held : Bytes}
    (h : get? records key = some held) (pieces : List Bytes) :
    get? (extendAll records key pieces) key = some (held ++ pieces.flatten) := by
  induction pieces generalizing records held with
  | nil => simpa [extendAll] using h
  | cons piece pieces ih =>
      have hstep : get? (extend records key piece) key = some (held ++ piece) := by
        rw [get?_extend_self, h, Option.getD_some]
      rw [List.flatten_cons, ← List.append_assoc]
      exact ih hstep

theorem get?_extendAll_of_ne (records : Records κ) {key other : κ} (h : other ≠ key)
    (pieces : List Bytes) : get? (extendAll records key pieces) other = get? records other := by
  induction pieces generalizing records with
  | nil => rfl
  | cons piece pieces ih =>
      apply (ih (extend records key piece)).trans
      exact get?_put_of_ne records h _

end Records

namespace Target

/-- Where the pieces for a target are kept. -/
def destination : Target → Destination
  | memory address => .memory address
  | partition name => .partition name

/-- A target whose images the program of a device keeps: an address
before the second loader runs, and from then on a name that fits its
field and has no zero in it. -/
def Suits (d : Device) : Target → Prop
  | memory _ => d.program ≠ .second
  | partition name =>
    d.program = .second ∧ name.toList ≠ [] ∧ '\x00' ∉ name.toList
      ∧ (Utf16.units name.toList).length ≤ PartitionRequest.nameUnits

/-- Whether the device has room for `size` bytes there. Memory is not
limited. -/
def HasRoom (d : Device) (size : UInt32) : Target → Prop
  | memory _ => True
  | partition _ => ∀ capacity, d.capacity = some capacity → size ≤ capacity

/-- An announcement for a suitable target is made, and fits a frame. -/
theorem startPayload_of_suits {target : Target} {d : Device} (h : target.Suits d)
    (size : UInt32) :
    target.startPayload size = .ok (target.announcement size)
      ∧ (target.announcement size).length ≤ Frame.maxPayload := by
  have hmake : target.startPayload size = .ok (target.announcement size) := by
    cases target with
    | memory address => rfl
    | partition name =>
        obtain ⟨-, hname, -, hunits⟩ := h
        show (PartitionRequest.make name size).map PartitionRequest.toBytes = _
        unfold PartitionRequest.make
        rw [if_neg hname, if_neg (Nat.not_lt.2 hunits)]
        rfl
  exact ⟨hmake, (startPayload_eq hmake).2⟩

end Target

namespace Device

variable (d : Device) (target : Target)

-- ======================================================= what is kept

/-- What a device keeps of an image for a target. -/
def received : Target → Option Bytes
  | .memory address => Records.get? d.loaded address
  | .partition name => Records.get? d.written name

/-- A device after a command that changes nothing but its record. -/
def noted (command : Command) : Device := { d with commands := d.commands.push command.code }

/-- A device after an image was announced. -/
def began : Device :=
  { d with
    commands := d.commands.push Command.startData.code
    loaded := match target with
      | .memory address => Records.clear d.loaded address
      | .partition _ => d.loaded
    written := match target with
      | .memory _ => d.written
      | .partition name => Records.clear d.written name
    pending := some target.destination }

/-- A device after it took some pieces of an image. -/
def took (pieces : List Bytes) : Device :=
  { d with
    commands := d.commands ++ List.replicate pieces.length Command.midstData.code
    piecesSeen := d.piecesSeen + pieces.length
    loaded := match target with
      | .memory address => Records.extendAll d.loaded address pieces
      | .partition _ => d.loaded
    written := match target with
      | .memory _ => d.written
      | .partition name => Records.extendAll d.written name pieces }

/-- A device after it refused a piece. -/
def stumbled : Device :=
  { d with
    commands := d.commands.push Command.midstData.code
    piecesSeen := d.piecesSeen + 1 }

/-- A device after an image was completed. -/
def ended : Device :=
  { d with commands := d.commands.push Command.endData.code, pending := none }

@[simp] theorem took_nil : d.took target [] = d := by
  cases target <;> simp [took, Records.extendAll]

theorem took_append (pieces more : List Bytes) :
    (d.took target pieces).took target more = d.took target (pieces ++ more) := by
  have hcommands (code : UInt8) : d.commands ++ List.replicate pieces.length code
      ++ List.replicate more.length code
        = d.commands ++ List.replicate (pieces ++ more).length code := by
    apply Array.toList_inj.1
    simp [List.replicate_append_replicate]
  cases target <;>
    simp [took, hcommands, Records.extendAll_append, Nat.add_assoc]

theorem received_began : (d.began target).received target = some [] := by
  cases target with
  | memory address => exact Records.get?_clear_self d.loaded address
  | partition name => exact Records.get?_clear_self d.written name

theorem received_took {held : Bytes} (h : d.received target = some held) (pieces : List Bytes) :
    (d.took target pieces).received target = some (held ++ pieces.flatten) := by
  cases target with
  | memory address => exact Records.get?_extendAll_self h pieces
  | partition name => exact Records.get?_extendAll_self h pieces

variable {target} in
/-- An image leaves those for other targets alone. -/
theorem received_began_of_ne {other : Target} (h : other ≠ target) :
    (d.began target).received other = d.received other := by
  cases target with
  | memory address =>
      cases other with
      | memory a => exact Records.get?_put_of_ne d.loaded (fun e => h (congrArg _ e)) []
      | partition n => rfl
  | partition name =>
      cases other with
      | memory a => rfl
      | partition n => exact Records.get?_put_of_ne d.written (fun e => h (congrArg _ e)) []

variable {target} in
theorem received_took_of_ne {other : Target} (h : other ≠ target) (pieces : List Bytes) :
    (d.took target pieces).received other = d.received other := by
  cases target with
  | memory address =>
      cases other with
      | memory a => exact Records.get?_extendAll_of_ne d.loaded (fun e => h (congrArg _ e)) pieces
      | partition n => rfl
  | partition name =>
      cases other with
      | memory a => rfl
      | partition n =>
          exact Records.get?_extendAll_of_ne d.written (fun e => h (congrArg _ e)) pieces

@[simp] theorem received_stumbled : d.stumbled.received target = d.received target := by
  cases target <;> rfl

@[simp] theorem received_ended : d.ended.received target = d.received target := by
  cases target <;> rfl

-- ======================================================== its answers

variable {d target}

/-- An announcement is acknowledged where there is room. -/
theorem respond_startData {size : UInt32} (h : target.Suits d) (hroom : target.HasRoom d size) :
    d.respond .startData (target.announcement size) = (.plain .ack, d.began target) := by
  cases target with
  | memory address =>
      have hprogram : d.program ≠ .second := h
      unfold respond serve startData
      rw [show Command.ofCode? _ = some .startData from rfl]
      simp [Target.announcement, hprogram, began, Target.destination]
  | partition name =>
      obtain ⟨hprogram, -, hzero, hunits⟩ := h
      have hread : PartitionRequest.ofBytes (Target.announcement size (.partition name))
          = .ok ⟨name, size⟩ := PartitionRequest.ofBytes_toBytes (r := ⟨name, size⟩) hunits hzero
      have hfits : d.capacity.any (· < size) = false := by
        cases hcapacity : d.capacity with
        | none => rfl
        | some capacity => simpa using hroom capacity hcapacity
      unfold respond serve startData
      rw [show Command.ofCode? _ = some .startData from rfl]
      simp [hread, hprogram, hfits, began, Target.destination]

/-- Without room it is refused, and nothing is kept. -/
theorem respond_startData_full {name : String} {size capacity : UInt32}
    (h : (Target.partition name).Suits d) (hcapacity : d.capacity = some capacity)
    (hlt : capacity < size) :
    d.respond .startData (Target.announcement size (.partition name))
      = (.plain .downSizeError, d.noted .startData) := by
  obtain ⟨hprogram, -, hzero, hunits⟩ := h
  have hread : PartitionRequest.ofBytes (Target.announcement size (.partition name))
      = .ok ⟨name, size⟩ := PartitionRequest.ofBytes_toBytes (r := ⟨name, size⟩) hunits hzero
  unfold respond serve startData
  rw [show Command.ofCode? _ = some .startData from rfl]
  simp [hread, hprogram, hcapacity, hlt, noted]

/-- A piece that is not the failing one is taken. -/
theorem respond_midstData (hpending : d.pending = some target.destination)
    (hgood : d.failingPiece ≠ some d.piecesSeen) (piece : Bytes) :
    d.respond .midstData piece = (.plain .ack, d.took target [piece]) := by
  unfold respond serve takePiece
  rw [show Command.ofCode? _ = some .midstData from rfl]
  cases target <;>
    simp [hpending, hgood, took, Target.destination, Records.extendAll]

/-- The failing one is not. -/
theorem respond_midstData_failing (hfail : d.failingPiece = some d.piecesSeen) (piece : Bytes) :
    d.respond .midstData piece = (.plain .operationFailed, d.stumbled) := by
  unfold respond serve takePiece
  rw [show Command.ofCode? _ = some .midstData from rfl]
  simp [hfail, stumbled]

theorem respond_endData (d : Device) : d.respond .endData [] = (.plain .ack, d.ended) := rfl

end Device

namespace Download

open Link (Attuned Served)

section

variable {target : Target} {size : UInt32} {link : Link Device} {d : Device}

/-- A suitable target with room is announced. -/
theorem announce_device (hlink : Attuned link) (hempty : link.channel.arrivals = [])
    (hpeer : link.channel.peer = d) (hsuits : target.Suits d) (hroom : target.HasRoom d size) :
    ∃ after, announce target size link = .ok () after
      ∧ Served link after [(.startData, target.announcement size)] (d.began target) := by
  subst hpeer
  obtain ⟨hpayload, hlen⟩ := Target.startPayload_of_suits hsuits size
  have haccept : target.startPolicy.accepts (Reply.ofCode Reply.ack.code) = true := by
    cases target <;> rfl
  obtain ⟨f, after, hexchange, -, hserved⟩ :=
    Link.exchange_accepted hlen hlink hempty (Device.respond_startData hsuits hroom) rfl
      (Nat.zero_le _) haccept
  exact ⟨after, announce_of_ok hpayload hexchange, hserved⟩

/-- A partition without room is told apart from other refusals. -/
theorem announce_full {name : String} {capacity : UInt32} (hlink : Attuned link)
    (hempty : link.channel.arrivals = []) (hpeer : link.channel.peer = d)
    (hsuits : (Target.partition name).Suits d) (hcapacity : d.capacity = some capacity)
    (hlt : capacity < size) :
    ∃ after, announce (.partition name) size link
        = .error (.protocol (.sizeMismatch name size.toNat)) after
      ∧ Served link after [(.startData, Target.announcement size (.partition name))]
          (d.noted .startData) := by
  subst hpeer
  obtain ⟨hpayload, hlen⟩ := Target.startPayload_of_suits hsuits size
  have hrefuse : (Target.partition name).startPolicy.accepts
      (Reply.ofCode Reply.downSizeError.code) = false := rfl
  obtain ⟨after, hexchange, hserved⟩ :=
    Link.exchange_refused hlen hlink hempty
      (Device.respond_startData_full hsuits hcapacity hlt) rfl (Nat.zero_le _) hrefuse
  refine ⟨after, ?_, hserved⟩
  rw [announce_of_error hpayload hexchange]
  rfl

end

-- ============================================================= the loop

section

variable {target : Target} {size k : Nat} {image : Bytes} {first w : Writing Device}

/-- Between two pieces: from `first` on the device has taken `k` of
them, and the others are still to go. -/
structure Partway (target : Target) (size : Nat) (image : Bytes) (first : Writing Device)
    (k : Nat) (w : Writing Device) : Prop where
  served : Served first.link w.link
    (((Window.pieces size image).take k).map fun piece => (.midstData, piece))
    (first.link.channel.peer.took target ((Window.pieces size image).take k))
  left : w.At size image k

namespace Partway

theorem zero (hempty : first.link.channel.arrivals = []) (hleft : first.At size image 0) :
    Partway target size image first 0 first := by
  refine ⟨?_, hleft⟩
  rw [List.take_zero, Device.took_nil]
  exact Served.refl hempty

/-- A piece fits a frame. -/
theorem fits (h : Partway target size image first k w) :
    ((image.drop (k * size)).take size).length ≤ Frame.maxPayload := by
  have hsize := w.window.size.fits
  rw [h.left.size_eq] at hsize
  exact Nat.le_trans (List.length_take_le _ _) hsize

theorem seen (h : Partway target size image first k w)
    (hk : k ≤ (Window.pieces size image).length) :
    w.link.channel.peer.piecesSeen = first.link.channel.peer.piecesSeen + k := by
  rw [h.served.peer]
  show _ + ((Window.pieces size image).take k).length = _
  rw [List.length_take_of_le hk]

section

variable (hlink : Attuned first.link) (audience : Audience) (moved : Summary)
include hlink

/-- The next piece is taken, unless it is the failing one. -/
theorem step (h : Partway target size image first k w)
    (hk : k < (Window.pieces size image).length)
    (hpending : first.link.channel.peer.pending = some target.destination)
    (hgood : first.link.channel.peer.failingPiece
      ≠ some (first.link.channel.peer.piecesSeen + k)) :
    ∃ w', writePieces target audience moved w
        = writePieces target audience
          { bytes := moved.bytes + ((image.drop (k * size)).take size).length
            chunks := moved.chunks + 1 } w'
      ∧ Partway target size image first (k + 1) w' := by
  obtain ⟨chunk, source, hnext, hchunk, hread, hleft⟩ := h.left.next hk
  have hrespond : w.link.channel.peer.respond .midstData ((image.drop (k * size)).take size)
      = (.plain .ack, w.link.channel.peer.took target [(image.drop (k * size)).take size]) := by
    apply Device.respond_midstData
    · rw [h.served.peer]
      exact hpending
    · rw [h.seen (Nat.le_of_lt hk), h.served.peer]
      exact hgood
  have haccept : Policy.ack.accepts (Reply.ofCode Reply.ack.code) = true := rfl
  obtain ⟨f, after, hexchange, -, hserved⟩ :=
    Link.exchange_accepted h.fits (h.served.attuned hlink rfl) h.served.empty hrespond rfl
      (Nat.zero_le _) haccept
  refine ⟨w.next target audience chunk source after, ?_, ?_, hleft target audience after⟩
  · rw [writePieces_of_ok target audience moved hnext hread hexchange, Summary.add, hchunk]
  · rw [h.served.peer, Device.took_append] at hserved
    rw [Window.take_succ_pieces hk, List.map_append]
    exact h.served.trans (hserved.told _ _ _ _ _)

/-- The failing one ends the download. -/
theorem refused (h : Partway target size image first k w)
    (hk : k < (Window.pieces size image).length)
    (hfail : first.link.channel.peer.failingPiece
      = some (first.link.channel.peer.piecesSeen + k)) :
    ∃ w', writePieces target audience moved w
        = .error (.protocol (.unexpectedReply .midstData .ack .operationFailed)) w'
      ∧ Served first.link w'.link
        (((Window.pieces size image).take (k + 1)).map fun piece => (.midstData, piece))
        (first.link.channel.peer.took target ((Window.pieces size image).take k)).stumbled := by
  obtain ⟨chunk, source, hnext, -, hread, -⟩ := h.left.next hk
  have hrespond : w.link.channel.peer.respond .midstData ((image.drop (k * size)).take size)
      = (.plain .operationFailed, w.link.channel.peer.stumbled) := by
    apply Device.respond_midstData_failing
    rw [h.seen (Nat.le_of_lt hk), h.served.peer]
    exact hfail
  have hrefuse : Policy.ack.accepts (Reply.ofCode Reply.operationFailed.code) = false := rfl
  obtain ⟨after, hexchange, hserved⟩ :=
    Link.exchange_refused h.fits (h.served.attuned hlink rfl) h.served.empty hrespond rfl
      (Nat.zero_le _) hrefuse
  refine ⟨{ w with link := after, source }, ?_, ?_⟩
  · rw [writePieces_of_error target audience moved hnext hread hexchange]
    rfl
  · rw [h.served.peer] at hserved
    rw [Window.take_succ_pieces hk, List.map_append]
    exact h.served.trans hserved

/-- As many pieces are taken as stand before the failing one. -/
theorem run (hempty : first.link.channel.arrivals = []) (hleft : first.At size image 0)
    (hpending : first.link.channel.peer.pending = some target.destination)
    (hk : k ≤ (Window.pieces size image).length)
    (hgood : ∀ i < k, first.link.channel.peer.failingPiece
      ≠ some (first.link.channel.peer.piecesSeen + i)) :
    ∃ w, writePieces target audience moved first
        = writePieces target audience
          { bytes := moved.bytes + ((Window.pieces size image).take k).flatten.length
            chunks := moved.chunks + k } w
      ∧ Partway target size image first k w := by
  induction k with
  | zero => exact ⟨first, rfl, .zero hempty hleft⟩
  | succ k ih =>
      obtain ⟨w, hrun, hw⟩ :=
        ih (Nat.le_of_succ_le hk) fun i hi => hgood i (Nat.lt_succ_of_lt hi)
      obtain ⟨w', hstep, hw'⟩ :=
        hw.step hlink audience _ hk hpending (hgood k (Nat.lt_succ_self k))
      refine ⟨w', ?_, hw'⟩
      rw [hrun, hstep, Window.take_succ_pieces hk, List.flatten_append, List.length_append,
        List.flatten_singleton, Nat.add_assoc, Nat.add_assoc]

end

end Partway

end

-- ============================================================ whole runs

section

variable {target : Target} {size : UInt32} {windowSize : WindowSize} {source : Content}
  {link : Link Device} {d : Device} {W : Nat} {image : Bytes}

variable (audience : Audience) (hlink : Attuned link) (hempty : link.channel.arrivals = [])
  (hpeer : link.channel.peer = d) (hsuits : target.Suits d)
include hlink hempty hpeer hsuits

section

variable (hroom : target.HasRoom d size) (hW : windowSize.size.toNat = W)
  (himage : source.toBytes = image) (hsize : image.length = size.toNat)
include hroom hW himage hsize

/-- Where an image was announced, its pieces are to be sent. -/
theorem begin_device :
    ∃ begun, announce target size link = .ok () begun
      ∧ Served link begun [(.startData, target.announcement size)] (d.began target)
      ∧ Attuned begun
      ∧ (Writing.mk begun (.start 0 size windowSize) source).At W image 0 := by
  obtain ⟨begun, hannounce, hserved⟩ := announce_device hlink hempty hpeer hsuits hroom
  have hwindow := Window.At.start_zero size windowSize
  rw [← hsize] at hwindow
  exact ⟨begun, hannounce, hserved, hserved.attuned hlink (by rw [hpeer]; rfl),
    .zero hW hwindow himage⟩

/-- Of a device that refuses no piece, an image is taken whole. -/
theorem run_taken (hgood : ∀ i < (Window.pieces W image).length,
      d.failingPiece ≠ some (d.piecesSeen + i)) :
    ∃ after, run target (.start 0 size windowSize) source audience link
        = .ok { bytes := size.toNat, chunks := (Window.pieces W image).length } after
      ∧ Served link after (requests target size (Window.pieces W image))
          ((d.began target).took target (Window.pieces W image)).ended := by
  obtain ⟨begun, hannounce, hserved, hbegun, hat⟩ :=
    begin_device hlink hempty hpeer hsuits hroom hW himage hsize
  obtain ⟨w, hrun, hw⟩ :=
    Partway.run hbegun audience .none hserved.empty hat (by rw [hserved.peer]; rfl)
      (Nat.le_refl _) (by rw [hserved.peer]; exact hgood)
  rw [List.take_length, Window.flatten_pieces hat.size_pos, hsize,
    writePieces_of_none _ _ _ (hw.left.done (Nat.le_refl _))] at hrun
  have hpieces := hw.served
  rw [List.take_length] at hpieces
  -- the completion is acknowledged whatever was taken
  have haccept : Policy.ack.accepts (Reply.ofCode Reply.ack.code) = true := rfl
  obtain ⟨f, last, hexchange, -, hended⟩ :=
    Link.exchange_accepted (Nat.zero_le _) (hpieces.attuned hbegun rfl) hpieces.empty
      w.link.channel.peer.respond_endData rfl (Nat.zero_le _) haccept
  have hall := (hserved.trans hpieces).trans hended
  rw [hpieces.peer, hserved.peer] at hall
  refine ⟨last, ?_, hall⟩
  have htotal : (Window.start 0 size windowSize).total = size := rfl
  rw [run_eq, htotal, hannounce]
  dsimp only
  rw [hrun]
  dsimp only
  rw [hexchange]
  simp only [Summary.none, Nat.zero_add]

/-- Of one that refuses a piece, the pieces before that one are. -/
theorem run_refused {j : Nat} (hj : j < (Window.pieces W image).length)
    (hfail : d.failingPiece = some (d.piecesSeen + j)) :
    ∃ after, run target (.start 0 size windowSize) source audience link
        = .error (.protocol (.unexpectedReply .midstData .ack .operationFailed)) after
      ∧ Served link after
          ((.startData, target.announcement size)
            :: ((Window.pieces W image).take (j + 1)).map fun piece => (.midstData, piece))
          ((d.began target).took target ((Window.pieces W image).take j)).stumbled := by
  obtain ⟨begun, hannounce, hserved, hbegun, hat⟩ :=
    begin_device hlink hempty hpeer hsuits hroom hW himage hsize
  have hgood : ∀ i < j, d.failingPiece ≠ some (d.piecesSeen + i) := by
    intro i hi
    rw [hfail]
    intro heq
    have := Option.some.inj heq
    omega
  obtain ⟨w, hrun, hw⟩ :=
    Partway.run hbegun audience .none hserved.empty hat (by rw [hserved.peer]; rfl)
      (Nat.le_of_lt hj) (by rw [hserved.peer]; exact hgood)
  obtain ⟨w', hrefused, hlast⟩ :=
    hw.refused hbegun audience
      { bytes := Summary.none.bytes + ((Window.pieces W image).take j).flatten.length
        chunks := Summary.none.chunks + j } hj (by rw [hserved.peer]; exact hfail)
  have hall := hserved.trans hlast
  rw [hserved.peer] at hall
  refine ⟨w'.link, ?_, hall⟩
  have htotal : (Window.start 0 size windowSize).total = size := rfl
  rw [run_eq, htotal, hannounce]
  dsimp only
  rw [hrun, hrefused]

end

/-- A device without room takes nothing. -/
theorem run_full (hroom : ¬ target.HasRoom d size) :
    ∃ after, run target (.start 0 size windowSize) source audience link
        = .error (.protocol (.sizeMismatch target.display size.toNat)) after
      ∧ Served link after [(.startData, target.announcement size)] (d.noted .startData) := by
  cases target with
  | memory address => exact absurd trivial hroom
  | partition name =>
      obtain ⟨capacity, hcapacity, hlt⟩ : ∃ capacity, d.capacity = some capacity
          ∧ capacity < size := by
        simpa [Target.HasRoom, UInt32.not_le] using hroom
      obtain ⟨after, hannounce, hserved⟩ :=
        announce_full hlink hempty hpeer hsuits hcapacity hlt
      refine ⟨after, ?_, hserved⟩
      have htotal : (Window.start 0 size windowSize).total = size := rfl
      rw [run_eq, htotal, hannounce]
      rfl

end

/-- A download to a suitable target, over a link in the mode of the
device with nothing in the queue: what it answers and what the device
then holds, by whether there is room and which piece fails. -/
theorem download_stored {target : Target} (size windowSize : UInt32) {S W : Nat}
    (hS : size.toNat = S) (hW : windowSize.toNat = W) (hpos : 1 ≤ W) (hfits : W ≤ 65535)
    {source : Content} {image : Bytes} (himage : source.toBytes = image)
    (hlen : image.length = S) (audience : Audience) {link : Link Device}
    (hlink : Attuned link) (hempty : link.channel.arrivals = []) {d : Device}
    (hd : link.channel.peer = d) (hsuits : target.Suits d) :
    (¬ target.HasRoom d size →
      ∃ after, download target size windowSize source audience link
          = .error (.protocol (.sizeMismatch target.display S)) after
        ∧ Served link after [(.startData, target.announcement size)] (d.noted .startData)
        ∧ after.channel.peer.written = d.written)
    ∧ (target.HasRoom d size →
      ∀ j < (S + W - 1) / W, d.failingPiece = some (d.piecesSeen + j) →
      ∃ after, download target size windowSize source audience link
          = .error (.protocol (.unexpectedReply .midstData .ack .operationFailed)) after
        ∧ after.channel.peer.received target = some (image.take (j * W))
        ∧ (∀ other ≠ target, after.channel.peer.received other = d.received other)
        ∧ after.channel.peer.commands.toList
          = d.commands.toList ++ (0x01 :: List.replicate (j + 1) 0x02))
    ∧ (target.HasRoom d size →
      (∀ j < (S + W - 1) / W, d.failingPiece ≠ some (d.piecesSeen + j)) →
      ∃ after, download target size windowSize source audience link
          = .ok { bytes := S, chunks := (S + W - 1) / W } after
        ∧ after.channel.peer.received target = some image
        ∧ (∀ other ≠ target, after.channel.peer.received other = d.received other)
        ∧ after.channel.peer.commands.toList
          = d.commands.toList ++ (0x01 :: List.replicate ((S + W - 1) / W) 0x02 ++ [0x03])) := by
  subst hS hW
  obtain ⟨w, rfl⟩ : ∃ w : WindowSize, w.size = windowSize := ⟨⟨windowSize, hpos, hfits⟩, rfl⟩
  have hcount : (Window.pieces w.size.toNat image).length
      = (size.toNat + w.size.toNat - 1) / w.size.toNat := by
    rw [Window.length_pieces, hlen]
  rw [← hcount, download_eq]
  refine ⟨?_, ?_, ?_⟩
  · intro hfull
    obtain ⟨after, hrun, hserved⟩ := run_full audience hlink hempty hd hsuits hfull
    exact ⟨after, hrun, hserved, by rw [hserved.peer]; rfl⟩
  · intro hroom j hj hfail
    obtain ⟨after, hrun, hserved⟩ :=
      run_refused audience hlink hempty hd hsuits hroom rfl himage hlen hj hfail
    refine ⟨after, hrun, ?_, ?_, ?_⟩
    · rw [hserved.peer, Device.received_stumbled,
        Device.received_took _ _ (d.received_began target), List.nil_append,
        Window.flatten_take_pieces hpos]
    · intro other hne
      rw [hserved.peer, Device.received_stumbled, Device.received_took_of_ne _ hne,
        Device.received_began_of_ne _ hne]
    · rw [hserved.peer]
      have hsent : ((Window.pieces w.size.toNat image).take j).length = j :=
        List.length_take_of_le (Nat.le_of_lt hj)
      simp [Device.stumbled, Device.took, Device.began, hsent, Command.code,
        List.replicate_succ', -List.length_take]
  · intro hroom hgood
    obtain ⟨after, hrun, hserved⟩ :=
      run_taken audience hlink hempty hd hsuits hroom rfl himage hlen hgood
    refine ⟨after, hrun, ?_, ?_, ?_⟩
    · rw [hserved.peer, Device.received_ended,
        Device.received_took _ _ (d.received_began target), List.nil_append,
        Window.flatten_pieces hpos]
    · intro other hne
      rw [hserved.peer, Device.received_ended, Device.received_took_of_ne _ hne,
        Device.received_began_of_ne _ hne]
    · rw [hserved.peer]
      simp [Device.ended, Device.took, Device.began, Command.code]

/-- A device of which nothing was asked yet, heard in chunks of four:
its third piece fails, and no partition has room for more than six
bytes. -/
def fourAtATime (program : Program) : Link Device :=
  .ofChannel (.connect { Device.fresh program with
    chunk := 4, chunk_pos := by decide, failingPiece := some 2, capacity := some 6 })
    program.mode

/-- Four bytes go to a partition in two pieces, of six the third piece
fails, and seven have no room; in memory seven have, and of them too
the third piece fails. -/
theorem download_stored_fourAtATime :
    (∃ after, download (.partition "boot") 4 2 (.ofBytes [1, 2, 3, 4]) .nobody
          (fourAtATime .second) = .ok { bytes := 4, chunks := 2 } after
      ∧ after.channel.peer.received (.partition "boot") = some [1, 2, 3, 4]
      ∧ after.channel.peer.commands.toList = [0x01, 0x02, 0x02, 0x03])
    ∧ (∃ after, download (.partition "boot") 6 2 (.ofBytes [1, 2, 3, 4, 5, 6]) .nobody
          (fourAtATime .second)
          = .error (.protocol (.unexpectedReply .midstData .ack .operationFailed)) after
      ∧ after.channel.peer.received (.partition "boot") = some [1, 2, 3, 4]
      ∧ after.channel.peer.commands.toList = [0x01, 0x02, 0x02, 0x02])
    ∧ (∃ after, download (.partition "boot") 7 2 (.ofBytes [1, 2, 3, 4, 5, 6, 7]) .nobody
          (fourAtATime .second) = .error (.protocol (.sizeMismatch "boot" 7)) after
      ∧ after.channel.peer.written = [])
    ∧ (∃ after, download (.memory 0x5500) 7 2 (.ofBytes [1, 2, 3, 4, 5, 6, 7]) .nobody
          (fourAtATime .rom)
          = .error (.protocol (.unexpectedReply .midstData .ack .operationFailed)) after
      ∧ after.channel.peer.received (.memory 0x5500) = some [1, 2, 3, 4]) := by
  have hsecond : Attuned (fourAtATime .second) := ⟨rfl, rfl⟩
  have hrom : Attuned (fourAtATime .rom) := ⟨rfl, rfl⟩
  have hboot : (Target.partition "boot").Suits (fourAtATime .second).channel.peer :=
    ⟨rfl, by decide, by decide, by decide⟩
  have hmemory : (Target.memory 0x5500).Suits (fourAtATime .rom).channel.peer := by
    show Program.rom ≠ .second
    decide
  have hcapacity : (fourAtATime .second).channel.peer.capacity = some 6 := rfl
  refine ⟨?_, ?_, ?_, ?_⟩
  · obtain ⟨after, hrun, hheld, -, hcommands⟩ :=
      (download_stored 4 2 rfl rfl (by decide) (by decide) (Content.toBytes_ofBytes [1, 2, 3, 4])
        rfl .nobody hsecond rfl rfl hboot).2.2
        (by intro capacity h; rw [hcapacity] at h; cases h; decide)
        (by decide)
    exact ⟨after, hrun, hheld, hcommands⟩
  · obtain ⟨after, hrun, hheld, -, hcommands⟩ :=
      (download_stored 6 2 rfl rfl (by decide) (by decide)
        (Content.toBytes_ofBytes [1, 2, 3, 4, 5, 6]) rfl .nobody hsecond rfl rfl hboot).2.1
        (by intro capacity h; rw [hcapacity] at h; cases h; decide) 2 (by decide) rfl
    exact ⟨after, hrun, hheld, hcommands⟩
  · obtain ⟨after, hrun, -, hwritten⟩ :=
      (download_stored 7 2 rfl rfl (by decide) (by decide)
        (Content.toBytes_ofBytes [1, 2, 3, 4, 5, 6, 7]) rfl .nobody hsecond rfl rfl hboot).1
        (fun h => absurd (h 6 hcapacity) (by decide))
    exact ⟨after, hrun, hwritten⟩
  · obtain ⟨after, hrun, hheld, -, -⟩ :=
      (download_stored 7 2 rfl rfl (by decide) (by decide)
        (Content.toBytes_ofBytes [1, 2, 3, 4, 5, 6, 7]) rfl .nobody hrom rfl rfl hmemory).2.1
        trivial 2 (by decide) rfl
    exact ⟨after, hrun, hheld⟩

end Download

end FlashLink
