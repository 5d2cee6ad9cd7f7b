/-
A bring-up of a device whose banners are late.

Banners and replies come over one pipe, in the order in which they were
sent. So a banner that arrives when the host no longer waits for it
stands in front of the reply to the connection, which is received at the
first attempt or not at all.

`Tardy` is a device that decides this for each probe: whether it is
answered, and how many of the banners sent so far arrive in time. The
rest comes with the answer to the next frame, in front of it. `unread`
counts what is left when the probes are over, in the queue or on its way
(`greet_tardy`). With nothing left there is no telling the tardy device
from the one behind it, and the half goes as it goes there
(`half_tardy`); with anything left, the banner is taken for the answer
to the connection (`connect_behind`). So a probe may fail as long as its
answer never comes.
-/
import FlashLink.Proofs.Alike
import FlashLink.Proofs.BringUp

namespace FlashLink

open Stuffing (delimiter)

-- ========================================================== the device

/-- What becomes of a probe. -/
structure Delivery where
  /-- The device answers it. -/
  answered : Bool
  /-- As many of the banners sent by then arrive while the host waits, if
  there are so many. -/
  arrived : Nat
  deriving DecidableEq, Repr

/-- A device whose banners may be late. -/
structure Tardy where
  device : Device
  /-- What becomes of the probes to come. -/
  deliveries : List Delivery
  /-- Banners sent that have not arrived. -/
  owed : Nat

namespace Tardy

/-- Banners one behind the other. -/
def banners (d : Device) (n : Nat) : List Bytes := (List.replicate n d.greeting).flatten

/-- A probe is answered as is set down for it, if anything is; what is
owed comes before the answer to a frame. -/
def answer (t : Tardy) (wire : Bytes) : List Bytes × Tardy :=
  if wire = [delimiter] then
    match t.deliveries with
    | [] => ([], t)
    | delivery :: rest =>
      let sent := t.owed + delivery.answered.toNat
      let arrived := min delivery.arrived sent
      (banners t.device arrived, { t with deliveries := rest, owed := sent - arrived })
  else
    let (chunks, device) := t.device.answer wire
    (banners t.device t.owed ++ chunks, { t with device, owed := 0 })

instance : Peer Tardy := ⟨answer⟩

/-- Banners that are left of a greeting: those not received when the
probes set down for it are over. The first banner received ends it. -/
def unread (owed : Nat) : List Delivery → Nat
  | [] => owed
  | delivery :: rest =>
    let sent := owed + delivery.answered.toNat
    if min delivery.arrived sent = 0 then unread sent rest else sent - 1

variable {d : Device} {deliveries : List Delivery} {owed : Nat}

theorem unread_unheard {delivery : Delivery}
    (h : min delivery.arrived (owed + delivery.answered.toNat) = 0) :
    unread owed (delivery :: deliveries)
      = unread (owed + delivery.answered.toNat) deliveries := if_pos h

theorem unread_heard {delivery : Delivery} {n : Nat}
    (h : min delivery.arrived (owed + delivery.answered.toNat) = n + 1) :
    unread owed (delivery :: deliveries) = owed + delivery.answered.toNat - 1 :=
  if_neg (by rw [h]; exact Nat.succ_ne_zero n)

@[simp] theorem banners_zero (d : Device) : banners d 0 = [] := rfl

theorem banners_succ (d : Device) (n : Nat) :
    banners d (n + 1) = d.greeting ++ banners d n := by
  rw [banners, List.replicate_succ, List.flatten_cons, banners]

theorem banners_add (d : Device) (n m : Nat) :
    banners d (n + m) = banners d n ++ banners d m := by
  rw [banners, ← List.replicate_append_replicate, List.flatten_append, banners, banners]

/-- What is owed comes first. -/
theorem answer_frame (t : Tardy) (f : Frame) :
    Peer.answer t f.encode
      = (banners t.device t.owed ++ (t.device.answer f.encode).1,
          { t with device := (t.device.answer f.encode).2, owed := 0 }) := by
  show answer t f.encode = _
  unfold answer
  rw [if_neg (Frame.encode_ne_probe f)]

/-- A device that owes nothing is the device behind it to all that send
it frames. -/
theorem mimics (deliveries : List Delivery) :
    Mimics fun (t : Tardy) (d : Device) => t = ⟨d, deliveries, 0⟩ := by
  rintro _ d rfl f
  rw [answer_frame]
  exact ⟨rfl, rfl⟩

/-- A greeting ended with so many banners left, in the queue or owed. -/
structure Greeted (d : Device) (deliveries : List Delivery) (left : Nat)
    (link after : Link Tardy) : Prop where
  mode : after.mode = link.mode
  connected : after.channel.connected = link.channel.connected
  left : ∃ queued owed, queued + owed = left
    ∧ after.channel.arrivals = (banners d queued).map .chunk
    ∧ after.channel.peer = ⟨d, deliveries, owed⟩

/-- With nothing left there is nothing in the queue and nothing owed. -/
theorem Greeted.rests {link after : Link Tardy} (h : Greeted d deliveries 0 link after) :
    Link.Rests link after ⟨d, deliveries, 0⟩ := by
  obtain ⟨queued, owed, hleft, harr, hpeer⟩ := h.left
  obtain ⟨rfl, rfl⟩ := Nat.add_eq_zero_iff.1 hleft
  exact ⟨h.mode, h.connected, harr, hpeer⟩

end Tardy

namespace Link

open Tardy (banners unread Greeted)

variable {d : Device} {deliveries : List Delivery}

/-- What a probe brings, and what it leaves owed. -/
theorem wrote_probe {delivery : Delivery} {owed sent arrived : Nat} {link : Link Tardy}
    (hempty : link.channel.arrivals = [])
    (hpeer : link.channel.peer = ⟨d, delivery :: deliveries, owed⟩)
    (hsent : owed + delivery.answered.toNat = sent)
    (harrived : min delivery.arrived sent = arrived) :
    (link.wrote [delimiter]).channel.arrivals = (banners d arrived).map .chunk
      ∧ (link.wrote [delimiter]).channel.peer = ⟨d, deliveries, sent - arrived⟩ := by
  subst hsent harrived
  rw [arrivals_wrote, peer_wrote, hempty, hpeer]
  exact ⟨rfl, rfl⟩

/-- A probe that brings nothing leaves all that was sent owed. -/
theorem probe_unheard {delivery : Delivery} {owed sent : Nat} {link : Link Tardy}
    (hempty : link.channel.arrivals = [])
    (hpeer : link.channel.peer = ⟨d, delivery :: deliveries, owed⟩)
    (hsent : owed + delivery.answered.toNat = sent) (harrived : min delivery.arrived sent = 0) :
    (link.wrote [delimiter]).channel.peer = ⟨d, deliveries, sent⟩
      ∧ (link.wrote [delimiter]).channel.arrivals = []
      ∧ ∃ cause, receiveFrame (link.wrote [delimiter])
        = .error (.channel cause) (link.wrote [delimiter]) := by
  obtain ⟨harr, hpeer'⟩ := wrote_probe hempty hpeer hsent harrived
  exact ⟨hpeer', harr, receiveFrame_nil fun _ => harr⟩

/-- A probe that brings a banner ends the greeting. -/
theorem probe_heard {delivery : Delivery} {owed sent n : Nat} {link : Link Tardy}
    (hconn : link.channel.connected = true) (hempty : link.channel.arrivals = [])
    (hmode : link.mode = d.program.mode)
    (hpeer : link.channel.peer = ⟨d, delivery :: deliveries, owed⟩)
    (hsent : owed + delivery.answered.toNat = sent)
    (harrived : min delivery.arrived sent = n + 1) :
    ∃ after, receiveFrame (link.wrote [delimiter]) = .ok d.bannerFrame after
      ∧ Greeted d deliveries (sent - 1) link after := by
  obtain ⟨harr, hpeer'⟩ := wrote_probe hempty hpeer hsent harrived
  rw [Tardy.banners_succ, List.map_append] at harr
  obtain ⟨after, hreceive, hafter, hs⟩ :=
    receiveFrame_greeting ((connected_wrote _ _).trans hconn) hmode harr
  refine ⟨after, hreceive, hs.mode, hs.connected, n, sent - (n + 1), ?_, hafter,
    hs.peer.trans hpeer'⟩
  omega

/-- Probing goes on until a banner is there in time. -/
theorem probeAgain_tardy {more : Nat} (hmore : more < deliveries.length) {owed : Nat}
    {link : Link Tardy} (hconn : link.channel.connected = true)
    (hempty : link.channel.arrivals = []) (hmode : link.mode = d.program.mode)
    (hpeer : link.channel.peer = ⟨d, deliveries, owed⟩) :
    ∃ used < more + 1, Greeted d (deliveries.drop (used + 1))
      (unread owed (deliveries.take (more + 1))) link (endState (probeAgain more link)) := by
  induction deliveries generalizing more owed link with
  | nil => exact absurd hmore (Nat.not_lt_zero more)
  | cons delivery rest ih =>
      rw [List.take_succ_cons]
      cases harrived : min delivery.arrived (owed + delivery.answered.toNat) with
      | succ n =>
          obtain ⟨after, hreceive, hafter⟩ :=
            probe_heard hconn hempty hmode hpeer rfl harrived
          rw [probeAgain_of_ok hconn hreceive, Tardy.unread_heard harrived]
          exact ⟨0, Nat.succ_pos more, hafter⟩
      | zero =>
          obtain ⟨hpeer', harr, cause, hreceive⟩ := probe_unheard hempty hpeer rfl harrived
          rw [Tardy.unread_unheard harrived]
          -- all is owed still, and the host may have given up
          cases more with
          | zero =>
              rw [probeAgain_zero hconn, hreceive]
              exact ⟨0, Nat.one_pos, rfl, rfl, 0, _, Nat.zero_add _, harr, hpeer'⟩
          | succ more =>
              obtain ⟨used, hused, hmode', hconn', hleft⟩ :=
                ih (Nat.lt_of_succ_lt_succ hmore) ((connected_wrote _ _).trans hconn) harr hmode
                  hpeer'
              rw [probeAgain_succ hconn, hreceive]
              exact ⟨used + 1, Nat.succ_lt_succ hused, hmode', hconn', hleft⟩

end Link

namespace BringUp

open Link (Attuned Rests request)
open Tardy (banners unread Greeted)

variable (audience : Audience) {d : Device} {deliveries : List Delivery} {left : Nat}
  {link greeted : Link Tardy}

-- ============================================================ greetings

/-- A greeting ends as its probes do, and never fails. -/
theorem greet_tardy (phase : SessionPhase) {probes : Nat} (hpos : 0 < probes)
    (hprobes : probes ≤ deliveries.length) {owed : Nat} (hconn : link.channel.connected = true)
    (hempty : link.channel.arrivals = []) (hmode : link.mode = d.program.mode)
    (hpeer : link.channel.peer = ⟨d, deliveries, owed⟩) :
    ∃ version after, greet audience phase probes link = .ok version after
      ∧ ∃ used < probes, Greeted d (deliveries.drop (used + 1))
        (unread owed (deliveries.take probes)) link after := by
  obtain ⟨more, rfl⟩ : ∃ more, probes = more + 1 := ⟨probes - 1, by omega⟩
  obtain ⟨used, hused, hgreeted⟩ := Link.probeAgain_tardy hprobes hconn hempty hmode hpeer
  unfold greet Link.probe
  rw [Nat.add_sub_cancel]
  cases hrun : Link.probeAgain more link with
  | ok text after =>
      rw [hrun] at hgreeted
      exact ⟨some text, _, rfl, used, hused, hgreeted.mode, hgreeted.connected, hgreeted.left⟩
  | error cause after =>
      rw [hrun] at hgreeted
      exact ⟨none, after, rfl, used, hused, hgreeted⟩

/-- Anything left is taken for the answer to the connection. -/
theorem connect_behind (h : Greeted d deliveries left link greeted) (hleft : left ≠ 0)
    (hconn : link.channel.connected = true) (hmode : link.mode = d.program.mode) :
    ∃ after, connect greeted
      = .error (.protocol (.unexpectedReply .connect .ack .version)) after := by
  obtain ⟨queued, owed, hsum, hqueued, hpeer⟩ := h.left
  obtain ⟨n, hn⟩ : ∃ n, left = n + 1 := ⟨left - 1, by omega⟩
  rw [hn] at hsum
  -- what is owed arrives behind what is queued, and the answer behind both
  have harr : (greeted.wrote (request .connect [] greeted.mode)).channel.arrivals
      = [] ++ (d.greeting.map .chunk ++ ((banners d n).map .chunk
        ++ (d.answer (request .connect [] greeted.mode)).1.map .chunk)) := by
    rw [Link.arrivals_wrote, hqueued, hpeer, request, Tardy.answer_frame, List.map_append,
      ← List.append_assoc, ← List.map_append, ← Tardy.banners_add, hsum, Tardy.banners_succ,
      List.map_append, List.append_assoc, List.nil_append]
  have hcheck : d.bannerFrame.checksum
      = greeted.mode.checksum (Frame.body d.bannerFrame.kind d.bannerFrame.payload) := by
    rw [h.mode, hmode]
    rfl
  have hrefuse : Policy.ack.accepts d.bannerFrame.reply = false := rfl
  obtain ⟨after, hexchange, -, -⟩ :=
    Link.exchange_of_frame (Nat.zero_le _) (h.connected.trans hconn) d.length_banner_le hcheck
      d.ne_nil_of_mem_greeting d.flatten_greeting (by simp) (Nat.zero_le _) harr
  rw [Link.judge_of_refused hrefuse] at hexchange
  exact ⟨after, bind_of_error hexchange _⟩

-- ============================================================ one half

/-- The link as it is to the device behind. -/
def behind (link : Link Tardy) : Link Device where
  channel :=
    { arrivals := link.channel.arrivals
      traffic := link.channel.traffic
      connected := link.channel.connected
      peer := link.channel.peer.device }
  mode := link.mode
  audience := link.audience
  events := link.events

/-- A tardy device that owes nothing is loaded and started as the
device behind it is. -/
theorem half_tardy {image : LoaderImage} {α : Type} (known loaded : Stage) {policy : Policy}
    (last : Frame → BringUpM Tardy α) (course : Course)
    (hconn : link.channel.connected = true) (hempty : link.channel.arrivals = [])
    (hmode : link.mode = d.program.mode) (hpeer : link.channel.peer = ⟨d, deliveries, 0⟩)
    (hprogram : d.program ≠ .second) {a : Device.Answer} {d' : Device}
    (hrespond : (d.loadedWith image).respond .execData [] = (a, d')) (hplain : a.payload = [])
    (hgood : ∀ i < image.pieces.length, d.failingPiece ≠ some (d.piecesSeen + i))
    (hstalls : a.stalls ≤ policy.attempts - 1)
    (haccept : policy.accepts (Reply.ofCode a.reply.code) = true) :
    ∃ f after, half audience image known loaded policy last (course, link)
        = last f ((course.enter known).enter loaded, after)
      ∧ f.reply = Reply.ofCode a.reply.code ∧ Rests link after ⟨d', deliveries, 0⟩ := by
  have hdevice : (behind link).channel.peer = d := congrArg Tardy.device hpeer
  -- no more probes are sent, so the device behind may stand in
  obtain ⟨f, mid, hhalf, hreply, hmid⟩ :=
    half_ok audience ⟨hconn, by rw [hdevice]; exact hmode⟩ hempty hdevice hprogram known loaded
      pure course hrespond hplain hgood hstalls haccept
  have halike : Link.Alike (fun (t : Tardy) (d : Device) => t = ⟨d, deliveries, 0⟩) link
      (behind link) := ⟨rfl, rfl, rfl, rfl, by rw [hdevice, hpeer]⟩
  have hagrees := half_alike (Tardy.mimics deliveries) audience image known loaded policy
    (.mk course halike)
  rw [hhalf] at hagrees
  obtain ⟨_, hrun, ⟨_, hafter⟩⟩ := hagrees.of_ok
  refine ⟨f, _, ?_, hreply, hafter.mode.trans hmid.mode, hafter.connected.trans hmid.connected,
    hafter.arrivals.trans hmid.empty, hafter.peer.trans (by rw [hmid.peer])⟩
  rw [half_bind, bind_of_ok hrun]

-- =========================================================== both halves

section

variable (hconn : link.channel.connected = true) (hempty : link.channel.arrivals = [])
include hconn hempty

section

variable {rom : Delivery} (hpeer : link.channel.peer = ⟨d, rom :: deliveries, 0⟩)
  (hprogram : d.program = .rom) (first : LoaderImage)
include hpeer hprogram

/-- The boot ROM is probed once. -/
theorem bootFirst_tardy :
    ∃ version greeted,
      Greeted d deliveries (unread 0 [rom]) { link with mode := .crc } greeted
        ∧ bootFirst audience first (.start, link)
          = half audience first .connected .firstLoaded .ack
            (fun _ => do
              enter .firstRunning
              return version) (.start, greeted) := by
  let heard := audience.hear link.events (.phaseChanged .waitingForDevice .bootRom)
  have hlen : romProbes ≤ (rom :: deliveries).length := Nat.le_add_left 1 deliveries.length
  obtain ⟨version, greeted, hgreet, used, hused, hmode, hconnected, hleft⟩ :=
    greet_tardy audience .bootRom Nat.one_pos hlen
      (show ({ link with mode := .crc, events := heard } : Link Tardy).channel.connected = true
        from hconn) hempty (show ChecksumMode.crc = d.program.mode by rw [hprogram]; rfl) hpeer
  obtain rfl : used = 0 := Nat.lt_one_iff.1 hused
  exact ⟨version, greeted, ⟨hmode, hconnected, hleft⟩, bind_of_ok (onLink_of_ok hgreet .start) _⟩

theorem bootFirst_tardy_ok (hread : unread 0 [rom] = 0)
    (hgood : ∀ i < first.pieces.length, d.failingPiece ≠ some (d.piecesSeen + i))
    (hexec : d.romExecReply = .ack) :
    ∃ version course after, bootFirst audience first (.start, link) = .ok version (course, after)
      ∧ Rests { link with mode := .crc } after
        ⟨(d.loadedWith first).started .first, deliveries, 0⟩ := by
  obtain ⟨version, greeted, hgreeted, hboot⟩ :=
    bootFirst_tardy audience hconn hempty hpeer hprogram first
  rw [hread] at hgreeted
  have hrests := hgreeted.rests
  have hexec' : (d.loadedWith first).romExecReply = .ack := hexec
  have hrespond : (d.loadedWith first).respond .execData []
      = (.plain .ack, (d.loadedWith first).started .first) := by
    rw [Device.respond_execData_rom ((Device.program_loadedWith d first).trans hprogram), hexec',
      if_pos rfl]
  have haccept : Policy.ack.accepts (Reply.ofCode Reply.ack.code) = true := rfl
  obtain ⟨f, after, hhalf, -, hafter⟩ :=
    half_tardy audience .connected .firstLoaded _ .start (hrests.connected.trans hconn)
      hrests.empty (by rw [hrests.mode, hprogram]; rfl) hrests.peer (by rw [hprogram]; decide)
      hrespond rfl hgood (Nat.zero_le _) haccept
  exact ⟨version, _, after, hboot.trans hhalf, hrests.trans hafter⟩

theorem bootFirst_tardy_error (hread : unread 0 [rom] ≠ 0) :
    ∃ after, bootFirst audience first (.start, link)
      = .error (.protocol (.unexpectedReply .connect .ack .version)) (.start, after) := by
  obtain ⟨version, greeted, hgreeted, hboot⟩ :=
    bootFirst_tardy audience hconn hempty hpeer hprogram first
  obtain ⟨after, hconnect⟩ :=
    connect_behind hgreeted hread hconn (by rw [hprogram]; rfl)
  refine ⟨after, hboot.trans ?_⟩
  exact bind_of_error (onLink_of_error hconnect _) _

end

section

variable {one two : Delivery} (hpeer : link.channel.peer = ⟨d, [one, two], 0⟩)
  (hprogram : d.program = .first) (second : LoaderImage) (course : Course)
include hpeer hprogram

/-- The first loader is probed again if the first probe brought no
banner. -/
theorem bootSecond_tardy :
    ∃ version rest greeted,
      Greeted d rest (unread 0 [one, two]) { link with mode := .sum } greeted
        ∧ bootSecond audience second (course, link)
          = half audience second .loaderConnected .secondLoaded startPolicy
            (fun answer => do
              enter .secondRunning
              enter .ready
              onLink (Link.tell audience (.phaseChanged .loader .ready))
              return (version, answer.reply)) (course.enter .loaderProbing, greeted) := by
  let heard := audience.hear link.events (.phaseChanged .bootRom .loader)
  have hlen : loaderProbes ≤ [one, two].length := Nat.le_refl 2
  obtain ⟨version, greeted, hgreet, used, -, hmode, hconnected, hleft⟩ :=
    greet_tardy audience .loader Nat.two_pos hlen
      (show ({ link with mode := .sum, events := heard } : Link Tardy).channel.connected = true
        from hconn) hempty (show ChecksumMode.sum = d.program.mode by rw [hprogram]; rfl) hpeer
  exact ⟨version, _, greeted, ⟨hmode, hconnected, hleft⟩,
    bind_of_ok (onLink_of_ok hgreet (course.enter .loaderProbing)) _⟩

theorem bootSecond_tardy_ok (hread : unread 0 [one, two] = 0)
    (hgood : ∀ i < second.pieces.length, d.failingPiece ≠ some (d.piecesSeen + i))
    (hstalls : d.stalls ≤ 14)
    (hexec : Reply.ofCode d.loaderExecReply.code = .ack
      ∨ Reply.ofCode d.loaderExecReply.code = .incompatiblePartition) :
    ∃ value course' after, bootSecond audience second (course, link) = .ok value (course', after)
      ∧ course'.stage = .ready ∧ after.channel.arrivals = []
      ∧ after.channel.peer.device = (d.loadedWith second).started .second := by
  obtain ⟨version, rest, greeted, hgreeted, hboot⟩ :=
    bootSecond_tardy audience hconn hempty hpeer hprogram second course
  rw [hread] at hgreeted
  have hrests := hgreeted.rests
  have hrespond : (d.loadedWith second).respond .execData []
      = ({ reply := d.loaderExecReply, payload := [], stalls := d.stalls },
          (d.loadedWith second).started .second) := Device.respond_execData_first hprogram
  have hspare : d.stalls ≤ startPolicy.attempts - 1 := hstalls
  obtain ⟨f, after, hhalf, -, hafter⟩ :=
    half_tardy audience .loaderConnected .secondLoaded _ (course.enter .loaderProbing)
      (hrests.connected.trans hconn) hrests.empty (by rw [hrests.mode, hprogram]; rfl) hrests.peer
      (by rw [hprogram]; decide) hrespond rfl hgood hspare (accepts_startPolicy.2 hexec)
  exact ⟨_, _, _, hboot.trans hhalf, rfl, hafter.empty, congrArg Tardy.device hafter.peer⟩

theorem bootSecond_tardy_error (hread : unread 0 [one, two] ≠ 0) :
    ∃ after, bootSecond audience second (course, link)
      = .error (.protocol (.unexpectedReply .connect .ack .version))
        (course.enter .loaderProbing, after) := by
  obtain ⟨version, rest, greeted, hgreeted, hboot⟩ :=
    bootSecond_tardy audience hconn hempty hpeer hprogram second course
  obtain ⟨after, hconnect⟩ :=
    connect_behind hgreeted hread hconn (by rw [hprogram]; rfl)
  refine ⟨after, hboot.trans ?_⟩
  exact bind_of_error (onLink_of_error hconnect _) _

end

end

-- =========================================================== a whole run

section

variable {first second : LoaderImage} {rom one two : Delivery}
  (hconn : link.channel.connected = true) (hempty : link.channel.arrivals = [])
  (hpeer : link.channel.peer = ⟨d, [rom, one, two], 0⟩) (hprogram : d.program = .rom)
  (h : Cooperates d first second)
include hconn hempty hpeer hprogram h

/-- With no banner left after either greeting the second loader runs. -/
theorem stages_tardy_ok (hrom : unread 0 [rom] = 0) (hloader : unread 0 [one, two] = 0) :
    ∃ report course after,
      stages audience first second (.start, link) = .ok report (course, after)
        ∧ course.stage = .ready ∧ after.channel.arrivals = []
        ∧ after.channel.peer.device
          = (((d.loadedWith first).started .first).loadedWith second).started .second := by
  obtain ⟨romVersion, course, mid, hfirst, hmid⟩ :=
    bootFirst_tardy_ok audience hconn hempty hpeer hprogram first hrom h.firstTaken h.romExec
  obtain ⟨⟨loaderVersion, reply⟩, course', after, hsecond, hafter⟩ :=
    bootSecond_tardy_ok audience (hmid.connected.trans hconn) hmid.empty hmid.peer rfl second
      course hloader (by simpa using h.secondTaken) (by simpa using h.inTime)
      (by simpa using h.loaderExec)
  exact ⟨_, course', after, stages_of_ok audience hfirst hsecond, hafter⟩

/-- With a banner left the connection behind that greeting fails. -/
theorem stages_tardy_error (hbehind : ¬ (unread 0 [rom] = 0 ∧ unread 0 [one, two] = 0)) :
    ∃ course after, stages audience first second (.start, link)
        = .error (.protocol (.unexpectedReply .connect .ack .version)) (course, after)
      ∧ course.stage = if unread 0 [rom] = 0 then .loaderProbing else .probing := by
  unfold stages
  by_cases hrom : unread 0 [rom] = 0
  · obtain ⟨romVersion, course, mid, hfirst, hmid⟩ :=
      bootFirst_tardy_ok audience hconn hempty hpeer hprogram first hrom h.firstTaken h.romExec
    obtain ⟨after, hsecond⟩ :=
      bootSecond_tardy_error audience (hmid.connected.trans hconn) hmid.empty hmid.peer rfl second
        course fun hloader => hbehind ⟨hrom, hloader⟩
    refine ⟨course.enter .loaderProbing, after, ?_, (if_pos hrom).symm⟩
    rw [bind_of_ok hfirst, bind_of_error hsecond]
  · obtain ⟨after, hfirst⟩ :=
      bootFirst_tardy_error audience hconn hempty hpeer hprogram first hrom
    exact ⟨.start, after, bind_of_error hfirst _, (if_neg hrom).symm⟩

end

/-- A bring-up of a device that cooperates, but whose banners may be
late, over a connected link with nothing in the queue. It succeeds if
and only if no banner is left when the host stops probing, at either
greeting. Then it is ready, nothing is left in the queue, and the device
runs the second loader with both loaders where they were sent. Otherwise
the reply that was judged for an acknowledgement of the connection is a
banner, and the course ends aborted behind that greeting. -/
theorem run_tardy (audience : Audience) {first second : LoaderImage} {link : Link Tardy}
    {d : Device} {rom one two : Delivery} (hconn : link.channel.connected = true)
    (hempty : link.channel.arrivals = [])
    (hpeer : link.channel.peer = ⟨d, [rom, one, two], 0⟩) (hprogram : d.program = .rom)
    (h : Cooperates d first second) :
    ((∃ report s, run audience first second (.start, link) = .ok report s)
      ↔ unread 0 [rom] = 0 ∧ unread 0 [one, two] = 0)
    ∧ (∀ report course after,
      run audience first second (.start, link) = .ok report (course, after) →
      course.stage = .ready ∧ after.channel.arrivals = []
        ∧ after.channel.peer.device
          = (((d.loadedWith first).started .first).loadedWith second).started .second)
    ∧ ∀ cause course after,
      run audience first second (.start, link) = .error cause (course, after) →
      cause = .protocol (.unexpectedReply .connect .ack .version)
        ∧ course.stage = .aborted cause.message
        ∧ course.history.back?
          = some (if unread 0 [rom] = 0 then .loaderProbing else .probing) := by
  by_cases hread : unread 0 [rom] = 0 ∧ unread 0 [one, two] = 0
  · obtain ⟨report, course, after, hstages, hafter⟩ :=
      stages_tardy_ok audience hconn hempty hpeer hprogram h hread.1 hread.2
    have hrun := run_of_ok hstages
    rw [hrun]
    refine ⟨⟨fun _ => hread, fun _ => ⟨report, _, rfl⟩⟩, ?_, ?_⟩
    · rintro _ _ _ ⟨⟩
      exact hafter
    · intro cause course after herror
      cases herror
  · obtain ⟨course, after, hstages, hstage⟩ :=
      stages_tardy_error audience hconn hempty hpeer hprogram h hread
    have hrun := run_of_error hstages
    rw [hrun]
    refine ⟨⟨?_, fun hall => absurd hall hread⟩, ?_, ?_⟩
    · rintro ⟨report, s, hok⟩
      cases hok
    · intro report course after hok
      cases hok
    · rintro _ _ _ ⟨⟩
      refine ⟨rfl, rfl, ?_⟩
      rw [← hstage]
      exact Array.back?_push

theorem cooperates_fresh (first second : LoaderImage) :
    Cooperates (Device.fresh .rom) first second where
  romExec := rfl
  firstTaken _ _ := Option.some_ne_none _ ∘ Eq.symm
  secondTaken _ _ := Option.some_ne_none _ ∘ Eq.symm
  inTime := Nat.zero_le _
  loaderExec := .inl rfl

/-- A tardy device in its boot ROM, and what becomes of its probes. -/
def tardyRom (rom one two : Delivery) : Link Tardy :=
  .ofChannel (.connect ⟨.fresh .rom, [rom, one, two], 0⟩) .crc

/-- A banner in time, or one that is never sent, is no obstacle; one
that is late is, of the boot ROM as of the first loader. -/
theorem run_tardy_tardyRom :
    (∃ report s, run .nobody (threeBytes 0x5500) (threeBytes 0x9EFFFE00)
        (.start, tardyRom ⟨true, 1⟩ ⟨false, 0⟩ ⟨true, 1⟩) = .ok report s)
      ∧ (¬ ∃ report s, run .nobody (threeBytes 0x5500) (threeBytes 0x9EFFFE00)
        (.start, tardyRom ⟨true, 0⟩ ⟨true, 1⟩ ⟨true, 1⟩) = .ok report s)
      ∧ ¬ ∃ report s, run .nobody (threeBytes 0x5500) (threeBytes 0x9EFFFE00)
        (.start, tardyRom ⟨true, 1⟩ ⟨true, 0⟩ ⟨true, 2⟩) = .ok report s := by
  have h := cooperates_fresh (threeBytes 0x5500) (threeBytes 0x9EFFFE00)
  refine ⟨?_, ?_, ?_⟩
  · exact (run_tardy .nobody (rfl : (tardyRom _ _ _).channel.connected = true) rfl rfl rfl h).1.2
      (by decide)
  · rw [(run_tardy .nobody (rfl : (tardyRom _ _ _).channel.connected = true) rfl rfl rfl h).1]
    decide
  · rw [(run_tardy .nobody (rfl : (tardyRom _ _ _).channel.connected = true) rfl rfl rfl h).1]
    decide

/-- A device in its boot ROM that is heard one read too late. -/
def lateRom : Link Device :=
  .ofChannel { Channel.connect (Device.fresh .rom) with arrivals := [.silence] } .crc

/-- Its banner comes when the host has begun to connect, and is judged
in place of the acknowledgement behind it. -/
theorem run_lateRom :
    Cooperates (Device.fresh .rom) (threeBytes 0x5500) (threeBytes 0x9EFFFE00)
      ∧ outcome (run .nobody (threeBytes 0x5500) (threeBytes 0x9EFFFE00) (.start, lateRom))
        = .error (.protocol (.unexpectedReply .connect .ack .version)) :=
  ⟨cooperates_fresh _ _, by decide +kernel⟩

end BringUp

end FlashLink
