/-
When a bring-up succeeds.

Host and device change to the other checksum on their own, the host
when it begins the second half of the bring-up, the device when it
starts the first loader. So each half is settled against a device whose
program and mode agree with the host's (`Attuned`): it is greeted
(`greet_device`), acknowledges the connection, takes the image or
refuses one piece of it, and answers the start in time or too late
(`half_ok`, `half_error`). Between any two steps nothing is in the
queue (`Rests`).

The one way to fall out of step is a boot ROM whose answer reads as an
acknowledgement and which yet starts nothing; the host goes on in a
mode that the boot ROM cannot read, and the connection fails
(`bootSecond_unread`).
-/
import FlashLink.Proofs.Download
import FlashLink.Proofs.InSync
import FlashLink.Proofs.Transcript

namespace FlashLink

open Stuffing (delimiter)

namespace Device

-- ===================================================== the device's part

/-- A device after a loader was sent to it. -/
def loadedWith (d : Device) (image : LoaderImage) : Device :=
  { d with
    commands := (((d.commands.push Command.connect.code).push Command.startData.code)
      ++ List.replicate image.pieces.length Command.midstData.code).push Command.endData.code
    piecesSeen := d.piecesSeen + image.pieces.length
    loaded := Records.extendAll (Records.clear d.loaded image.address) image.address image.pieces
    pending := none }

theorem loadedWith_eq (d : Device) (image : LoaderImage) :
    d.loadedWith image
      = (((d.noted .connect).began (.memory image.address)).took (.memory image.address)
          image.pieces).ended := rfl

/-- A device after it started what was loaded. -/
def started (d : Device) (program : Program) : Device := { d.noted .execData with program }

section

variable (d : Device) (image : LoaderImage) (program : Program) (command : Command)

@[simp] theorem program_noted : (d.noted command).program = d.program := rfl

@[simp] theorem program_loadedWith : (d.loadedWith image).program = d.program := rfl

@[simp] theorem failingPiece_loadedWith : (d.loadedWith image).failingPiece = d.failingPiece := rfl

@[simp] theorem piecesSeen_loadedWith :
    (d.loadedWith image).piecesSeen = d.piecesSeen + image.pieces.length := rfl

@[simp] theorem stalls_loadedWith : (d.loadedWith image).stalls = d.stalls := rfl

@[simp] theorem loaderExecReply_loadedWith :
    (d.loadedWith image).loaderExecReply = d.loaderExecReply := rfl

@[simp] theorem silentProbe_loadedWith : (d.loadedWith image).silentProbe = d.silentProbe := rfl

@[simp] theorem program_started : (d.started program).program = program := rfl

@[simp] theorem failingPiece_started : (d.started program).failingPiece = d.failingPiece := rfl

@[simp] theorem piecesSeen_started : (d.started program).piecesSeen = d.piecesSeen := rfl

@[simp] theorem stalls_started : (d.started program).stalls = d.stalls := rfl

@[simp] theorem loaderExecReply_started :
    (d.started program).loaderExecReply = d.loaderExecReply := rfl

@[simp] theorem silentProbe_started : (d.started program).silentProbe = d.silentProbe := rfl

end

variable {d : Device}

theorem respond_connect (d : Device) :
    d.respond .connect [] = (.plain .ack, d.noted .connect) := rfl

/-- The boot ROM starts the first loader if it says so. -/
theorem respond_execData_rom (h : d.program = .rom) :
    d.respond .execData []
      = (.plain d.romExecReply,
          if d.romExecReply = .ack then d.started .first else d.noted .execData) := by
  obtain ⟨⟩ := d
  cases h
  rfl

/-- The first loader starts the second whatever it says. -/
theorem respond_execData_first (h : d.program = .first) :
    d.respond .execData []
      = ({ reply := d.loaderExecReply, payload := [], stalls := d.stalls },
          d.started .second) := by
  obtain ⟨⟩ := d
  cases h
  rfl

@[simp] theorem received_noted (d : Device) (command : Command) (target : Target) :
    (d.noted command).received target = d.received target := by
  cases target <;> rfl

@[simp] theorem received_started (d : Device) (program : Program) (target : Target) :
    (d.started program).received target = d.received target := by
  cases target <;> rfl

theorem received_loadedWith (d : Device) (image : LoaderImage) :
    (d.loadedWith image).received (.memory image.address) = some image.data := by
  rw [loadedWith_eq, received_ended, received_took _ _ (received_began _ _), List.nil_append,
    LoaderImage.pieces, Window.flatten_pieces image.window.pos]

theorem received_loadedWith_of_ne (d : Device) {image : LoaderImage} {other : Target}
    (h : other ≠ .memory image.address) :
    (d.loadedWith image).received other = d.received other := by
  rw [loadedWith_eq, received_ended, received_took_of_ne _ h, received_began_of_ne _ h,
    received_noted]

end Device

namespace Link

-- ============================================================= at rest

/-- The link is as connected and in the mode it was, nothing is in the
queue, and the device is `d`. -/
structure Rests {σ : Type} (link after : Link σ) (d : σ) : Prop where
  mode : after.mode = link.mode
  connected : after.channel.connected = link.channel.connected
  empty : after.channel.arrivals = []
  peer : after.channel.peer = d

theorem Rests.trans {σ : Type} {a b c : Link σ} {d d' : σ} (h : Rests a b d)
    (h' : Rests b c d') : Rests a c d' :=
  ⟨h'.mode.trans h.mode, h'.connected.trans h.connected, h'.empty, h'.peer⟩

namespace Rests

variable {a b : Link Device} {d : Device}

theorem attuned (h : Rests a b d) (ha : Attuned a)
    (hprogram : d.program.mode = a.channel.peer.program.mode) : Attuned b :=
  ⟨h.connected.trans ha.connected, by rw [h.mode, h.peer, hprogram, ha.mode]⟩

theorem of_served {requests : List (Command × Bytes)} (h : Served a b requests d) :
    Rests a b d := ⟨h.mode, h.connected, h.empty, h.peer⟩

theorem events (h : Rests a b d) (events : Array Event) : Rests a { b with events } d :=
  ⟨h.mode, h.connected, h.empty, h.peer⟩

end Rests

-- ============================================================ greetings

theorem arrivals_silent {link : Link Device} (hempty : link.channel.arrivals = [])
    (hsilent : link.channel.peer.silentProbe = true) :
    (link.wrote [delimiter]).channel.arrivals = [] := by
  rw [arrivals_wrote, hempty, List.nil_append]
  show (if link.channel.peer.silentProbe then [] else _).map Arrival.chunk = []
  rw [hsilent]
  rfl

section

variable {link : Link Device} (hconn : link.channel.connected = true)
  (hempty : link.channel.arrivals = [])
include hconn hempty

/-- A probe leaves the device as it is and nothing in the queue, even
if the host cannot read the banner. -/
theorem receiveFrame_rests :
    Rests link (endState (receiveFrame (link.wrote [delimiter]))) link.channel.peer := by
  have hs := steady_receiveFrame (link.wrote [delimiter])
  obtain ⟨chunks, hanswer, hwhole⟩ : ∃ chunks, Device.answer link.channel.peer [delimiter]
      = (chunks, link.channel.peer) ∧ Device.Whole chunks := by
    refine ⟨if link.channel.peer.silentProbe then [] else _, rfl, ?_⟩
    split
    · exact .inl rfl
    · exact Device.whole_cut link.channel.peer.chunk_pos _ _ _
  have harr : (link.wrote [delimiter]).channel.arrivals = chunks.map .chunk := by
    rw [arrivals_wrote, hempty, List.nil_append]
    show (Device.answer link.channel.peer [delimiter]).1.map Arrival.chunk = _
    rw [hanswer]
  refine ⟨hs.mode, hs.connected, ?_, ?_⟩
  · exact InSync.arrivals_receiveAgain (show (link.wrote [delimiter]).channel.connected = true from
      hconn) hwhole harr 0
  · rw [hs.peer]
    show (Device.answer link.channel.peer [delimiter]).2 = _
    rw [hanswer]

theorem probeAgain_rests (more : Nat) :
    Rests link (endState (probeAgain more link)) link.channel.peer := by
  induction more generalizing link with
  | zero =>
      have hrests := receiveFrame_rests hconn hempty
      rw [probeAgain_zero hconn]
      cases hreceive : receiveFrame (link.wrote [delimiter]) with
      | ok frame after =>
          rw [hreceive] at hrests
          exact hrests
      | error cause after =>
          rw [hreceive] at hrests
          exact hrests
  | succ more ih =>
      have hrests := receiveFrame_rests hconn hempty
      rw [probeAgain_succ hconn]
      cases hreceive : receiveFrame (link.wrote [delimiter]) with
      | ok frame after =>
          rw [hreceive] at hrests
          exact hrests
      | error cause after =>
          rw [hreceive] at hrests
          have hagain := ih (hrests.connected.trans hconn) hrests.empty
          rw [hrests.peer] at hagain
          dsimp only
          split
          · exact hrests.trans hagain
          · exact hrests

/-- No number of probes gets a banner out of a device that is silent. -/
theorem probeAgain_silent (hsilent : link.channel.peer.silentProbe = true) (more : Nat) :
    ∃ cause after, probeAgain more link = .error cause after := by
  induction more generalizing link with
  | zero =>
      obtain ⟨cause, hreceive⟩ := receiveFrame_nil fun _ => arrivals_silent hempty hsilent
      rw [probeAgain_zero hconn, hreceive]
      exact ⟨_, _, rfl⟩
  | succ more ih =>
      obtain ⟨cause, hreceive⟩ := receiveFrame_nil fun _ => arrivals_silent hempty hsilent
      obtain ⟨last, after, hagain⟩ :=
        ih (show (link.wrote [delimiter]).channel.connected = true from hconn)
          (arrivals_silent hempty hsilent) hsilent
      rw [probeAgain_succ hconn, hreceive]
      exact ⟨last, after, hagain⟩

/-- The first probe of a device that is not, in its own mode, does. -/
theorem probeAgain_heard (hmode : link.mode = link.channel.peer.program.mode)
    (hsilent : link.channel.peer.silentProbe = false) (more : Nat) :
    ∃ text after, probeAgain more link = .ok text after := by
  have harr : (link.wrote [delimiter]).channel.arrivals
      = link.channel.peer.greeting.map .chunk ++ [] := by
    rw [arrivals_wrote, hempty, List.nil_append, List.append_nil]
    show (if link.channel.peer.silentProbe then [] else _).map Arrival.chunk = _
    rw [hsilent]
    rfl
  obtain ⟨after, hreceive, -, -⟩ :=
    receiveFrame_greeting ((connected_wrote _ _).trans hconn) hmode harr
  exact ⟨_, after, probeAgain_of_ok hconn hreceive more⟩

end

end Link

namespace BringUp

open Link (Attuned Rests)

variable (audience : Audience) {link : Link Device} {d : Device}

-- =============================================================== steps

theorem greet_device (phase : SessionPhase) (probes : Nat) (link : Link Device)
    (hconn : link.channel.connected = true) (hempty : link.channel.arrivals = []) :
    ∃ version after, greet audience phase probes link = .ok version after
      ∧ Rests link after link.channel.peer
      ∧ (link.mode = link.channel.peer.program.mode →
        (version = none ↔ link.channel.peer.silentProbe = true)) := by
  have hrests := Link.probeAgain_rests hconn hempty (probes - 1)
  unfold greet Link.probe
  cases hrun : Link.probeAgain (probes - 1) link with
  | ok text after =>
      rw [hrun] at hrests
      refine ⟨some text, _, rfl, hrests.events _, fun _ => ?_⟩
      constructor
      · intro hnone
        cases hnone
      · intro hsilent
        obtain ⟨cause, last, herror⟩ := Link.probeAgain_silent hconn hempty hsilent (probes - 1)
        rw [herror] at hrun
        cases hrun
  | error cause after =>
      rw [hrun] at hrests
      refine ⟨none, _, rfl, hrests, fun hmode => ⟨fun _ => ?_, fun _ => rfl⟩⟩
      by_contra hheard
      obtain ⟨text, last, hok⟩ := Link.probeAgain_heard hconn hempty hmode
        (Bool.eq_false_iff.2 hheard) (probes - 1)
      rw [hok] at hrun
      cases hrun

theorem onLink_of_ok {σ α : Type} {act : LinkM σ α} {value : α} {link after : Link σ}
    (h : act link = .ok value after) (course : Course) :
    onLink act (course, link) = .ok value (course, after) := by
  unfold onLink
  dsimp only
  rw [h]

theorem enter_bind {σ α : Type} (stage : Stage) (next : Unit → BringUpM σ α)
    (course : Course) (link : Link σ) :
    (enter stage >>= next) (course, link) = next () (course.enter stage, link) := rfl

theorem onLink_of_error {σ α : Type} {act : LinkM σ α} {cause : Failure}
    {link after : Link σ} (h : act link = .error cause after) (course : Course) :
    onLink act (course, link) = .error cause (course, after) := by
  unfold onLink
  dsimp only
  rw [h]

section

variable (hlink : Attuned link) (hempty : link.channel.arrivals = [])
  (hpeer : link.channel.peer = d)
include hlink hempty hpeer

/-- Every program acknowledges a connection. -/
theorem connect_device :
    ∃ after, connect link = .ok () after ∧ Rests link after (d.noted .connect) := by
  subst hpeer
  have haccept : Policy.ack.accepts (Reply.ofCode Reply.ack.code) = true := rfl
  obtain ⟨f, after, hexchange, -, hserved⟩ :=
    Link.exchange_accepted (Nat.zero_le _) hlink hempty (Device.respond_connect _) rfl
      (Nat.zero_le _) haccept
  exact ⟨after, bind_of_ok hexchange _, .of_served hserved⟩

variable (hprogram : d.program ≠ .second) (image : LoaderImage)
include hprogram

theorem load_taken (hgood : ∀ i < image.pieces.length, d.failingPiece ≠ some (d.piecesSeen + i)) :
    ∃ after, load audience image link = .ok () after
      ∧ Rests link after
          ((d.began (.memory image.address)).took (.memory image.address) image.pieces).ended := by
  have hsuits : (Target.memory image.address).Suits d := hprogram
  obtain ⟨after, hrun, hserved⟩ :=
    Download.run_taken audience hlink hempty hpeer hsuits trivial rfl
      (Content.toBytes_ofBytes image.data) image.toNat_size.symm hgood
  rw [← Download.download_eq] at hrun
  exact ⟨after, bind_of_ok hrun _, .of_served hserved⟩

theorem load_refused {j : Nat} (hj : j < image.pieces.length)
    (hfail : d.failingPiece = some (d.piecesSeen + j)) :
    ∃ cause after, load audience image link = .error cause after := by
  have hsuits : (Target.memory image.address).Suits d := hprogram
  obtain ⟨after, hrun, -⟩ :=
    Download.run_refused audience hlink hempty hpeer hsuits trivial rfl
      (Content.toBytes_ofBytes image.data) image.toNat_size.symm hj hfail
  rw [← Download.download_eq] at hrun
  exact ⟨_, after, bind_of_error hrun _⟩

-- ============================================================== a half

variable {image} {α : Type} (known loaded : Stage) {policy : Policy}
  (last : Frame → BringUpM Device α) (course : Course)

/-- A loader of which no piece is refused comes to be started. -/
theorem half_loaded (policy : Policy)
    (hgood : ∀ i < image.pieces.length, d.failingPiece ≠ some (d.piecesSeen + i)) :
    ∃ mid, Rests link mid (d.loadedWith image)
      ∧ half audience image known loaded policy last (course, link)
        = (onLink (Link.exchange .execData [] policy) >>= last)
          ((course.enter known).enter loaded, mid) := by
  obtain ⟨a, hconnect, ha⟩ := connect_device hlink hempty hpeer
  have hattuned : Attuned a := ha.attuned hlink (by rw [hpeer]; rfl)
  obtain ⟨b, hload, hb⟩ := load_taken audience hattuned ha.empty ha.peer hprogram image hgood
  rw [← Device.loadedWith_eq] at hb
  refine ⟨b, ha.trans hb, ?_⟩
  unfold half
  rw [bind_of_ok (onLink_of_ok hconnect course), enter_bind,
    bind_of_ok (onLink_of_ok hload (course.enter known)), enter_bind]

variable {a : Device.Answer} {d' : Device}
  (hrespond : (d.loadedWith image).respond .execData [] = (a, d')) (hplain : a.payload = [])
include hrespond hplain

/-- It is started if the device says so in time. -/
theorem half_ok
    (hgood : ∀ i < image.pieces.length, d.failingPiece ≠ some (d.piecesSeen + i))
    (hstalls : a.stalls ≤ policy.attempts - 1)
    (haccept : policy.accepts (Reply.ofCode a.reply.code) = true) :
    ∃ f after, half audience image known loaded policy last (course, link)
        = last f ((course.enter known).enter loaded, after)
      ∧ f.reply = Reply.ofCode a.reply.code ∧ Rests link after d' := by
  obtain ⟨mid, hmid, hhalf⟩ :=
    half_loaded audience hlink hempty hpeer hprogram known loaded last course policy hgood
  obtain ⟨f, after, hexchange, hreply, hserved⟩ :=
    Link.exchange_accepted (Nat.zero_le _) (hmid.attuned hlink (by rw [hpeer]; rfl)) hmid.empty
      (by rw [hmid.peer]; exact hrespond) hplain hstalls haccept
  refine ⟨f, after, ?_, hreply, hmid.trans (.of_served hserved)⟩
  rw [hhalf, bind_of_ok (onLink_of_ok hexchange _)]

/-- Otherwise the half fails. -/
theorem half_error
    (h : ¬ ((∀ i < image.pieces.length, d.failingPiece ≠ some (d.piecesSeen + i))
      ∧ a.stalls ≤ policy.attempts - 1
      ∧ policy.accepts (Reply.ofCode a.reply.code) = true)) :
    ∃ cause t, half audience image known loaded policy last (course, link) = .error cause t := by
  by_cases hgood : ∀ i < image.pieces.length, d.failingPiece ≠ some (d.piecesSeen + i)
  · obtain ⟨mid, hmid, hhalf⟩ :=
      half_loaded audience hlink hempty hpeer hprogram known loaded last course policy hgood
    have hattuned : Attuned mid := hmid.attuned hlink (by rw [hpeer]; rfl)
    rw [← hmid.peer] at hrespond
    rw [hhalf]
    by_cases hstalls : a.stalls ≤ policy.attempts - 1
    · have hrefuse : policy.accepts (Reply.ofCode a.reply.code) = false :=
        Bool.eq_false_iff.2 fun haccept => h ⟨hgood, hstalls, haccept⟩
      obtain ⟨after, hexchange, -⟩ :=
        Link.exchange_refused (Nat.zero_le _) hattuned hmid.empty hrespond hplain hstalls hrefuse
      exact ⟨_, _, bind_of_error (onLink_of_error hexchange _) _⟩
    · obtain ⟨cause, after, hexchange⟩ :=
        Link.exchange_late (Nat.zero_le _) hattuned hmid.empty hrespond (Nat.lt_of_not_le hstalls)
      exact ⟨_, _, bind_of_error (onLink_of_error hexchange _) _⟩
  · obtain ⟨j, hj, hfail⟩ :
        ∃ j < image.pieces.length, d.failingPiece = some (d.piecesSeen + j) := by
      simpa using hgood
    obtain ⟨mid, hconnect, hmid⟩ := connect_device hlink hempty hpeer
    obtain ⟨cause, after, hload⟩ :=
      load_refused audience (hmid.attuned hlink (by rw [hpeer]; rfl)) hmid.empty hmid.peer hprogram
        image hj hfail
    unfold half
    rw [bind_of_ok (onLink_of_ok hconnect course), enter_bind]
    exact ⟨_, _, bind_of_error (onLink_of_error hload _) _⟩

end

-- =========================================================== both halves

theorem accepts_startPolicy {reply : Reply} :
    startPolicy.accepts reply = true ↔ reply = .ack ∨ reply = .incompatiblePartition := by
  simp [startPolicy, Policy.accepts, Policy.ack, Policy.expect, Policy.within,
    Policy.tolerating]

/-- The two checksums of a connection differ. -/
theorem sum_ne_crc_connect :
    ChecksumMode.sum.checksum (Frame.body Command.connect.code [])
      ≠ Program.rom.mode.checksum (Frame.body Command.connect.code []) := by
  have hsum : ChecksumMode.sum.checksum (Frame.body Command.connect.code []) = 0xFFFF := by
    show ~~~ OnesSum.foldCarries (OnesSum.addWords 0 [0x00, 0x00, 0x00, 0x00]) = 0xFFFF
    rw [OnesSum.foldCarries]
    decide
  rw [hsum]
  decide +kernel

section

variable (hconn : link.channel.connected = true) (hempty : link.channel.arrivals = [])
  (hpeer : link.channel.peer = d)
include hconn hempty hpeer

/-- The boot ROM is greeted in its own mode. -/
theorem bootFirst_greeted (first : LoaderImage) (hprogram : d.program = .rom) :
    ∃ version greeted, Rests { link with mode := .crc } greeted d
      ∧ (version = none ↔ d.silentProbe = true)
      ∧ bootFirst audience first (.start, link)
        = half audience first .connected .firstLoaded .ack
          (fun _ => do
            enter .firstRunning
            return version) (.start, greeted) := by
  subst hpeer
  let heard := audience.hear link.events (.phaseChanged .waitingForDevice .bootRom)
  obtain ⟨version, greeted, hgreet, hrests, hversion⟩ :=
    greet_device audience .bootRom romProbes { link with mode := .crc, events := heard } hconn
      hempty
  refine ⟨version, greeted, ⟨hrests.mode, hrests.connected, hrests.empty, hrests.peer⟩,
    hversion (by rw [hprogram]; rfl), ?_⟩
  exact bind_of_ok (onLink_of_ok hgreet .start) _

/-- Whatever runs then is greeted in the mode of the loaders. -/
theorem bootSecond_greeted (second : LoaderImage) (course : Course) :
    ∃ version greeted, Rests { link with mode := .sum } greeted d
      ∧ (d.program.mode = .sum → (version = none ↔ d.silentProbe = true))
      ∧ bootSecond audience second (course, link)
        = half audience second .loaderConnected .secondLoaded startPolicy
          (fun answer => do
            enter .secondRunning
            enter .ready
            onLink (Link.tell audience (.phaseChanged .loader .ready))
            return (version, answer.reply)) (course.enter .loaderProbing, greeted) := by
  subst hpeer
  let heard := audience.hear link.events (.phaseChanged .bootRom .loader)
  obtain ⟨version, greeted, hgreet, hrests, hversion⟩ :=
    greet_device audience .loader loaderProbes { link with mode := .sum, events := heard } hconn
      hempty
  refine ⟨version, greeted, ⟨hrests.mode, hrests.connected, hrests.empty, hrests.peer⟩,
    fun hsum => hversion hsum.symm, ?_⟩
  exact bind_of_ok (onLink_of_ok hgreet (course.enter .loaderProbing)) _

variable (first second : LoaderImage)

theorem bootFirst_ok (hprogram : d.program = .rom)
    (hgood : ∀ i < first.pieces.length, d.failingPiece ≠ some (d.piecesSeen + i))
    (hreply : Reply.ofCode d.romExecReply.code = .ack) :
    ∃ version course after, bootFirst audience first (.start, link) = .ok version (course, after)
      ∧ (version = none ↔ d.silentProbe = true)
      ∧ Rests { link with mode := .crc } after
        (if d.romExecReply = .ack then (d.loadedWith first).started .first
          else (d.loadedWith first).noted .execData) := by
  obtain ⟨version, greeted, hgreeted, hversion, hboot⟩ :=
    bootFirst_greeted audience hconn hempty hpeer first hprogram
  have hattuned : Attuned greeted :=
    ⟨hgreeted.connected.trans hconn, by rw [hgreeted.mode, hgreeted.peer, hprogram]; rfl⟩
  have hrespond : (d.loadedWith first).respond .execData []
      = (.plain d.romExecReply,
          if d.romExecReply = .ack then (d.loadedWith first).started .first
          else (d.loadedWith first).noted .execData) := Device.respond_execData_rom hprogram
  have haccept := Policy.accepts_ack.2 hreply
  obtain ⟨f, after, hhalf, -, hafter⟩ :=
    half_ok audience hattuned hgreeted.empty hgreeted.peer (by rw [hprogram]; decide) .connected
      .firstLoaded _ .start hrespond rfl hgood (Nat.zero_le _) haccept
  exact ⟨version, _, after, hboot.trans hhalf, hversion, hgreeted.trans hafter⟩

theorem bootFirst_error (hprogram : d.program = .rom)
    (h : ¬ ((∀ i < first.pieces.length, d.failingPiece ≠ some (d.piecesSeen + i))
      ∧ Reply.ofCode d.romExecReply.code = .ack)) :
    ∃ cause t, bootFirst audience first (.start, link) = .error cause t := by
  obtain ⟨version, greeted, hgreeted, hversion, hboot⟩ :=
    bootFirst_greeted audience hconn hempty hpeer first hprogram
  have hattuned : Attuned greeted :=
    ⟨hgreeted.connected.trans hconn, by rw [hgreeted.mode, hgreeted.peer, hprogram]; rfl⟩
  have hrespond : (d.loadedWith first).respond .execData []
      = (.plain d.romExecReply,
          if d.romExecReply = .ack then (d.loadedWith first).started .first
          else (d.loadedWith first).noted .execData) := Device.respond_execData_rom hprogram
  rw [hboot]
  apply half_error audience hattuned hgreeted.empty hgreeted.peer (by rw [hprogram]; decide)
    .connected .firstLoaded _ .start hrespond rfl
  rintro ⟨hgood, -, haccept⟩
  exact h ⟨hgood, Policy.accepts_ack.1 haccept⟩

variable (course : Course)

/-- The second loader runs if the first one takes it, and says in time
that it does. -/
theorem bootSecond_ok (hprogram : d.program = .first)
    (hgood : ∀ i < second.pieces.length, d.failingPiece ≠ some (d.piecesSeen + i))
    (hstalls : d.stalls ≤ 14) {reply : Reply} (hreply : Reply.ofCode d.loaderExecReply.code = reply)
    (haccept : reply = .ack ∨ reply = .incompatiblePartition) :
    ∃ version t, bootSecond audience second (course, link) = .ok (version, reply) t
      ∧ (version = none ↔ d.silentProbe = true)
      ∧ t.2.channel.peer = (d.loadedWith second).started .second := by
  obtain ⟨version, greeted, hgreeted, hversion, hboot⟩ :=
    bootSecond_greeted audience hconn hempty hpeer second course
  have hmode : d.program.mode = .sum := by
    rw [hprogram]
    rfl
  have hattuned : Attuned greeted :=
    ⟨hgreeted.connected.trans hconn, by rw [hgreeted.mode, hgreeted.peer, hmode]⟩
  have hrespond : (d.loadedWith second).respond .execData []
      = ({ reply := d.loaderExecReply, payload := [], stalls := d.stalls },
          (d.loadedWith second).started .second) := Device.respond_execData_first hprogram
  have hspare : d.stalls ≤ startPolicy.attempts - 1 := hstalls
  rw [← hreply] at haccept
  obtain ⟨f, after, hhalf, hanswer, hafter⟩ :=
    half_ok audience hattuned hgreeted.empty hgreeted.peer (by rw [hprogram]; decide)
      .loaderConnected .secondLoaded _ (course.enter .loaderProbing) hrespond rfl hgood hspare
      (accepts_startPolicy.2 haccept)
  have hf : f.reply = reply := hanswer.trans hreply
  rw [hboot, hhalf, hf]
  exact ⟨version, _, rfl, hversion hmode, hafter.peer⟩

theorem bootSecond_error (hprogram : d.program = .first)
    (h : ¬ ((∀ i < second.pieces.length, d.failingPiece ≠ some (d.piecesSeen + i))
      ∧ d.stalls ≤ 14
      ∧ (Reply.ofCode d.loaderExecReply.code = .ack
        ∨ Reply.ofCode d.loaderExecReply.code = .incompatiblePartition))) :
    ∃ cause t, bootSecond audience second (course, link) = .error cause t := by
  obtain ⟨version, greeted, hgreeted, -, hboot⟩ :=
    bootSecond_greeted audience hconn hempty hpeer second course
  have hattuned : Attuned greeted :=
    ⟨hgreeted.connected.trans hconn, by rw [hgreeted.mode, hgreeted.peer, hprogram]; rfl⟩
  have hrespond : (d.loadedWith second).respond .execData []
      = ({ reply := d.loaderExecReply, payload := [], stalls := d.stalls },
          (d.loadedWith second).started .second) := Device.respond_execData_first hprogram
  rw [hboot]
  apply half_error audience hattuned hgreeted.empty hgreeted.peer (by rw [hprogram]; decide)
    .loaderConnected .secondLoaded _ (course.enter .loaderProbing) hrespond rfl
  rintro ⟨hgood, hstalls, haccept⟩
  exact h ⟨hgood, hstalls, accepts_startPolicy.1 haccept⟩

/-- A boot ROM that claims to have started the first loader, and has
not, does not understand the second half. -/
theorem bootSecond_unread (hprogram : d.program = .rom) :
    ∃ cause t, bootSecond audience second (course, link) = .error cause t := by
  obtain ⟨version, greeted, hgreeted, -, hboot⟩ :=
    bootSecond_greeted audience hconn hempty hpeer second course
  have hcheck : greeted.mode.checksum (Frame.body Command.connect.code [])
      ≠ greeted.channel.peer.program.mode.checksum (Frame.body Command.connect.code []) := by
    rw [hgreeted.mode, hgreeted.peer, hprogram]
    exact sum_ne_crc_connect
  obtain ⟨cause, after, hexchange⟩ :=
    Link.exchange_unread .ack (Nat.zero_le _) (hgreeted.connected.trans hconn)
      hgreeted.empty hcheck
  have hconnect : connect greeted = .error (.channel cause) after := bind_of_error hexchange _
  rw [hboot, half]
  exact ⟨_, _, bind_of_error (onLink_of_error hconnect _) _⟩

end

/-- The failing piece is behind the pieces of both loaders if and only
if it is none of the first and none of the second. -/
theorem behind_both (failing : Option Nat) (n m : Nat) :
    (∀ j, failing = some j → n + m ≤ j)
      ↔ (∀ i < n, failing ≠ some (0 + i)) ∧ ∀ i < m, failing ≠ some (0 + n + i) := by
  constructor
  · intro h
    refine ⟨fun i hi hfail => ?_, fun i hi hfail => ?_⟩
    · have := h _ hfail
      omega
    · have := h _ hfail
      omega
  · rintro ⟨hfirst, hsecond⟩ j hfail
    by_contra hlt
    by_cases hj : j < n
    · exact hfirst j hj (by rw [hfail, Nat.zero_add])
    · have hj' : 0 + n + (j - n) = j := by omega
      exact hsecond (j - n) (by omega) (by rw [hj', hfail])

theorem stages_of_ok {σ : Type} [Peer σ] {first second : LoaderImage} {s t u : Course × Link σ}
    {romVersion loaderVersion : Option String} {reply : Reply}
    (hfirst : bootFirst audience first s = .ok romVersion t)
    (hsecond : bootSecond audience second t = .ok (loaderVersion, reply) u) :
    stages audience first second s
      = .ok { romVersion, loaderVersion,
              incompatiblePartition := reply == .incompatiblePartition } u := by
  unfold stages
  rw [bind_of_ok hfirst, bind_of_ok hsecond]
  rfl

/-- What a device has to do for a bring-up to succeed. -/
structure Cooperates (d : Device) (first second : LoaderImage) : Prop where
  romExec : d.romExecReply = .ack
  firstTaken : ∀ i < first.pieces.length, d.failingPiece ≠ some (d.piecesSeen + i)
  secondTaken : ∀ i < second.pieces.length,
    d.failingPiece ≠ some (d.piecesSeen + first.pieces.length + i)
  inTime : d.stalls ≤ 14
  loaderExec : Reply.ofCode d.loaderExecReply.code = .ack
    ∨ Reply.ofCode d.loaderExecReply.code = .incompatiblePartition

section

variable {first second : LoaderImage} (hconn : link.channel.connected = true)
  (hempty : link.channel.arrivals = []) (hpeer : link.channel.peer = d)
  (hprogram : d.program = .rom)
include hconn hempty hpeer hprogram

/-- If it does, the second loader runs, and both loaders are where they
were sent. -/
theorem stages_ok (h : Cooperates d first second) :
    ∃ romVersion loaderVersion t, stages audience first second (.start, link)
        = .ok { romVersion, loaderVersion, incompatiblePartition :=
            Reply.ofCode d.loaderExecReply.code == .incompatiblePartition } t
      ∧ t.2.channel.peer
        = ((((d.loadedWith first).started .first).loadedWith second).started .second)
      ∧ (romVersion = none ↔ d.silentProbe = true)
      ∧ (loaderVersion = none ↔ d.silentProbe = true) := by
  have hrom : Reply.ofCode d.romExecReply.code = .ack := by
    rw [h.romExec]
    rfl
  obtain ⟨romVersion, course, mid, hfirst, hromVersion, hmid⟩ :=
    bootFirst_ok audience hconn hempty hpeer first hprogram h.firstTaken hrom
  rw [if_pos h.romExec] at hmid
  obtain ⟨loaderVersion, t, hsecond, hloaderVersion, ht⟩ :=
    bootSecond_ok audience (hmid.connected.trans hconn) hmid.empty hmid.peer second course
      (Device.program_started _ _) (by simpa using h.secondTaken) (by simpa using h.inTime)
      (by simp) h.loaderExec
  rw [Device.silentProbe_started, Device.silentProbe_loadedWith] at hloaderVersion
  exact ⟨romVersion, loaderVersion, t, stages_of_ok audience hfirst hsecond, ht, hromVersion,
    hloaderVersion⟩

/-- If it does not, some step fails. -/
theorem stages_error (h : ¬ Cooperates d first second) :
    ∃ cause t, stages audience first second (.start, link) = .error cause t := by
  unfold stages
  by_cases hfirst : (∀ i < first.pieces.length, d.failingPiece ≠ some (d.piecesSeen + i))
      ∧ Reply.ofCode d.romExecReply.code = .ack
  · obtain ⟨version, course, mid, hboot, -, hmid⟩ :=
      bootFirst_ok audience hconn hempty hpeer first hprogram hfirst.1 hfirst.2
    rw [bind_of_ok hboot]
    by_cases hack : d.romExecReply = .ack
    · rw [if_pos hack] at hmid
      obtain ⟨cause, t, hsecond⟩ :=
        bootSecond_error audience (hmid.connected.trans hconn) hmid.empty hmid.peer second course
          (Device.program_started _ _) fun ⟨hgood, hstalls, haccept⟩ =>
            h ⟨hack, hfirst.1, by simpa using hgood, by simpa using hstalls, by simpa using haccept⟩
      exact ⟨cause, t, bind_of_error hsecond _⟩
    · -- what is acknowledged is not what was done
      rw [if_neg hack] at hmid
      obtain ⟨cause, t, hsecond⟩ :=
        bootSecond_unread audience (hmid.connected.trans hconn) hmid.empty hmid.peer second course
          (by simpa using hprogram)
      exact ⟨cause, t, bind_of_error hsecond _⟩
  · obtain ⟨cause, t, hboot⟩ :=
      bootFirst_error audience hconn hempty hpeer first hprogram hfirst
    exact ⟨cause, t, bind_of_error hboot _⟩

end

/-- A bring-up of a device in its boot ROM, over a connected link with
nothing in the queue, succeeds if and only if the device starts the
first loader, refuses no piece of either, and starts the second loader
in time with one of the replies that are accepted. What it then holds
are the loaders, and what was reported is what it said. -/
theorem run_ok_iff (first second : LoaderImage) {link : Link Device}
    (hconn : link.channel.connected = true) (hempty : link.channel.arrivals = []) {d : Device}
    (hd : link.channel.peer = d) (hprogram : d.program = .rom) (hseen : d.piecesSeen = 0)
    {n₁ n₂ : Nat} (hn₁ : first.pieces.length = n₁) (hn₂ : second.pieces.length = n₂)
    {reply : Reply} (hreply : Reply.ofCode d.loaderExecReply.code = reply) :
    ((∃ report s, run audience first second (.start, link) = .ok report s)
      ↔ d.romExecReply = .ack
        ∧ (∀ j, d.failingPiece = some j → n₁ + n₂ ≤ j)
        ∧ d.stalls ≤ 14
        ∧ (reply = .ack ∨ reply = .incompatiblePartition))
    ∧ ∀ report course after,
      run audience first second (.start, link) = .ok report (course, after) →
      after.channel.peer.program = .second
        ∧ after.channel.peer.received (.memory second.address) = some second.data
        ∧ (first.address ≠ second.address →
          after.channel.peer.received (.memory first.address) = some first.data)
        ∧ (report.incompatiblePartition = true ↔ reply = .incompatiblePartition)
        ∧ (report.romVersion = none ↔ d.silentProbe = true)
        ∧ (report.loaderVersion = none ↔ d.silentProbe = true) := by
  subst hn₁ hn₂ hreply
  have hcooperates : Cooperates d first second ↔ d.romExecReply = .ack
      ∧ (∀ j, d.failingPiece = some j → first.pieces.length + second.pieces.length ≤ j)
      ∧ d.stalls ≤ 14
      ∧ (Reply.ofCode d.loaderExecReply.code = .ack
        ∨ Reply.ofCode d.loaderExecReply.code = .incompatiblePartition) := by
    have hboth := behind_both d.failingPiece first.pieces.length second.pieces.length
    rw [← hseen] at hboth
    rw [hboth]
    constructor
    · intro h
      exact ⟨h.romExec, ⟨h.firstTaken, h.secondTaken⟩, h.inTime, h.loaderExec⟩
    · rintro ⟨hrom, ⟨hfirst, hsecond⟩, hstalls, hloader⟩
      exact ⟨hrom, hfirst, hsecond, hstalls, hloader⟩
  by_cases h : Cooperates d first second
  · obtain ⟨romVersion, loaderVersion, t, hstages, hpeer, hrom, hloader⟩ :=
      stages_ok audience hconn hempty hd hprogram h
    have hrun := run_of_ok hstages
    refine ⟨⟨fun _ => hcooperates.1 h, fun _ => ⟨_, t, hrun⟩⟩, ?_⟩
    intro report course after hok
    rw [hrun] at hok
    cases hok
    refine ⟨?_, ?_, ?_, ?_, hrom, hloader⟩
    · rw [hpeer]
      rfl
    · rw [hpeer, Device.received_started, Device.received_loadedWith]
    · intro hne
      have hother : Target.memory first.address ≠ .memory second.address :=
        fun heq => hne (Target.memory.inj heq)
      rw [hpeer, Device.received_started, Device.received_loadedWith_of_ne _ hother,
        Device.received_started, Device.received_loadedWith]
    · exact beq_iff_eq
  · obtain ⟨cause, t, hstages⟩ := stages_error audience hconn hempty hd hprogram h
    have hrun := run_of_error hstages
    rw [hrun]
    refine ⟨⟨?_, fun hall => absurd (hcooperates.2 hall) h⟩, ?_⟩
    · rintro ⟨report, s, hok⟩
      cases hok
    · intro report course after hok
      cases hok

/-- A device in its boot ROM, heard in chunks of five, that is late by
so many reads, refuses one piece, and reports another partition
table. -/
def lateDevice (stalls failing : Nat) : Link Device :=
  .ofChannel (.connect { Device.fresh .rom with
    chunk := 5, chunk_pos := by decide, stalls, failingPiece := some failing,
    loaderExecReply := .incompatiblePartition }) .sum

/-- With two pieces for each loader, fourteen empty reads and the fifth
piece are no obstacle; fifteen, or the fourth piece, are. -/
theorem run_ok_iff_lateDevice :
    (∃ report course after, run .nobody (threeBytes 0x5500) (threeBytes 0x9EFFFE00)
          (.start, lateDevice 14 4) = .ok report (course, after)
        ∧ after.channel.peer.received (.memory 0x5500) = some [1, 2, 3]
        ∧ report.incompatiblePartition = true)
      ∧ (¬ ∃ report s, run .nobody (threeBytes 0x5500) (threeBytes 0x9EFFFE00)
          (.start, lateDevice 15 4) = .ok report s)
      ∧ ¬ ∃ report s, run .nobody (threeBytes 0x5500) (threeBytes 0x9EFFFE00)
          (.start, lateDevice 14 3) = .ok report s := by
  have hreply : Reply.ofCode Reply.incompatiblePartition.code = .incompatiblePartition := rfl
  refine ⟨?_, ?_, ?_⟩
  · have h := run_ok_iff .nobody (threeBytes 0x5500) (threeBytes 0x9EFFFE00)
      (show (lateDevice 14 4).channel.connected = true from rfl) rfl rfl rfl rfl rfl rfl hreply
    obtain ⟨report, ⟨course, after⟩, hrun⟩ := h.1.2
      ⟨rfl, fun j hj => by cases hj; decide, by decide, .inr rfl⟩
    obtain ⟨-, -, hfirst, hincompatible, -, -⟩ := h.2 report course after hrun
    exact ⟨report, course, after, hrun, hfirst (by decide), hincompatible.2 rfl⟩
  · rw [(run_ok_iff .nobody (threeBytes 0x5500) (threeBytes 0x9EFFFE00)
      (show (lateDevice 15 4).channel.connected = true from rfl) rfl rfl rfl rfl rfl rfl hreply).1]
    rintro ⟨-, -, hstalls, -⟩
    exact absurd hstalls (by decide)
  · rw [(run_ok_iff .nobody (threeBytes 0x5500) (threeBytes 0x9EFFFE00)
      (show (lateDevice 14 3).channel.connected = true from rfl) rfl rfl rfl rfl rfl rfl hreply).1]
    rintro ⟨-, hfailing, -, -⟩
    exact absurd (hfailing 3 rfl) (by decide)

end BringUp

end FlashLink
