/-
The transcript of a bring-up.

Whatever the device answers, a bring-up writes a front of one
transcript and passes a front of one list of stages. Each half of it is
the same: probes, a connection, an image, its start; only the mode, the
image and the stages differ (`moves`). A half that fails has made a
front of its moves (`bootFirst_follows`, `bootSecond_follows`), and a
move is a buffer written or a stage entered, so what was written and
what was passed stop at the same point.

How often the first loader is probed is the one thing that the answers
decide: once or twice, as the first of the two probes was answered or
not. A probe that fails ends nothing.
-/
import FlashLink.BringUp
import FlashLink.Device
import FlashLink.Proofs.Follows

namespace FlashLink

open Link (Wrote request)
open Stuffing (delimiter)

variable {σ : Type} [Peer σ]

namespace LoaderImage

/-- What a loader is sent in. -/
def pieces (image : LoaderImage) : List Bytes :=
  Window.pieces image.window.size.toNat image.data

theorem toNat_size (image : LoaderImage) : image.size.toNat = image.data.length :=
  UInt32.toNat_ofNat_of_lt' image.length_lt

end LoaderImage

-- ======================================================= on the link

namespace BringUp

/-- A greeting probes at least once, and never fails. -/
theorem greet_follows (audience : Audience) (phase : SessionPhase) {probes : Nat}
    (hprobes : 1 ≤ probes) (link : Link σ) (hconn : link.channel.connected = true) :
    ∃ n, 1 ≤ n ∧ n ≤ probes
      ∧ Follows (Wrote link) (List.replicate n [delimiter]) (greet audience phase probes link) := by
  obtain ⟨n, hpos, hle, hwrote⟩ := Link.probeAgain_wrote hconn (probes - 1)
  refine ⟨n, hpos, by omega, ?_⟩
  unfold greet Link.probe
  split
  · rename_i hprobe
    rw [hprobe] at hwrote
    exact hwrote.events _
  · rename_i hprobe
    rw [hprobe] at hwrote
    exact hwrote

theorem connect_follows (link : Link σ) :
    Follows (Wrote link) [request .connect [] link.mode] (connect link) :=
  (Link.exchange_follows .connect [] .ack link).replace ()

/-- The requests of a loader, from its announcement to its completion. -/
def loads (image : LoaderImage) : List (Command × Bytes) :=
  Download.requests (.memory image.address) image.size image.pieces

theorem load_follows (audience : Audience) (image : LoaderImage) (link : Link σ) :
    Follows (Wrote link) ((loads image).map fun r => request r.1 r.2 link.mode)
      (load audience image link) := by
  have hsize : (Content.ofBytes image.data).toBytes.length = image.size.toNat := by
    rw [Content.toBytes_ofBytes, image.toNat_size]
  have hrun := Download.run_follows (.memory image.address) image.window hsize audience link
  rw [← Download.download_eq, Content.toBytes_ofBytes] at hrun
  exact hrun.replace ()

-- ===================================================== on the course

/-- Something that bring-up does: it enters a stage or writes a buffer. -/
inductive Move where
  | enters (stage : Stage)
  | writes (bytes : Bytes)

namespace Move

def stage? : Move → Option Stage
  | enters stage => some stage
  | writes _ => none

def bytes? : Move → Option Bytes
  | enters _ => none
  | writes bytes => some bytes

theorem stages_writes (buffers : List Bytes) : (buffers.map writes).filterMap stage? = [] := by
  simp [List.filterMap_map, Function.comp_def, stage?]

theorem bytes_writes (buffers : List Bytes) :
    (buffers.map writes).filterMap bytes? = buffers := by
  simp [List.filterMap_map, Function.comp_def, bytes?]

theorem stages_enters (stages : List Stage) : (stages.map enters).filterMap stage? = stages := by
  simp [List.filterMap_map, Function.comp_def, stage?]

theorem bytes_enters (stages : List Stage) : (stages.map enters).filterMap bytes? = [] := by
  simp [List.filterMap_map, Function.comp_def, bytes?]

end Move

end BringUp

/-- All stages up to the one reached. -/
def Course.reached (course : Course) : List Stage := course.history.toList ++ [course.stage]

theorem Course.reached_enter (course : Course) (stage : Stage) :
    (course.enter stage).reached = course.reached ++ [stage] := by
  simp [reached, enter]

namespace BringUp

/-- From one point of a bring-up to another some moves were made. -/
structure Made (s : Course × Link σ) (moves : List Move) (after : Course × Link σ) : Prop where
  reached : after.1.reached = s.1.reached ++ moves.filterMap Move.stage?
  wrote : Wrote s.2 (moves.filterMap Move.bytes?) after.2

namespace Made

variable {a b c : Course × Link σ} {moves more : List Move}

omit [Peer σ] in
theorem refl (s : Course × Link σ) : Made s [] s :=
  ⟨(List.append_nil _).symm, Wrote.refl s.2⟩

omit [Peer σ] in
theorem trans (h : Made a moves b) (h' : Made b more c) : Made a (moves ++ more) c := by
  refine ⟨?_, ?_⟩
  · rw [h'.reached, h.reached, List.filterMap_append, List.append_assoc]
  · rw [List.filterMap_append]
    exact h.wrote.trans h'.wrote

omit [Peer σ] in
/-- What is told is no move. -/
theorem of_events {course : Course} {link : Link σ} (events : Array Event)
    (h : Made (course, { link with events }) moves c) : Made (course, link) moves c :=
  ⟨h.reached, h.wrote.mode, h.wrote.connected, h.wrote.sent⟩

omit [Peer σ] in
theorem told {events : Array Event} {course : Course} {link : Link σ}
    (h : Made a moves (course, link)) : Made a moves (course, { link with events }) :=
  ⟨h.reached, h.wrote.events events⟩

omit [Peer σ] in
/-- A front of some moves is a front of their stages and a front of
their buffers. -/
theorem of_front (h : Made a more b) (hfront : more <+: moves) :
    (∃ stages, stages <+: moves.filterMap Move.stage? ∧ b.1.reached = a.1.reached ++ stages)
      ∧ ∃ buffers, buffers <+: moves.filterMap Move.bytes?
        ∧ b.2.channel.sent = a.2.channel.sent ++ buffers :=
  ⟨⟨_, hfront.filterMap Move.stage?, h.reached⟩, ⟨_, hfront.filterMap Move.bytes?, h.wrote.sent⟩⟩

omit [Peer σ] in
theorem bind {α β : Type} {act : BringUpM σ α} {next : α → BringUpM σ β}
    (hact : Follows (Made a) moves (act a))
    (hnext : ∀ value b, Made a moves b → Follows (Made b) more (next value b)) :
    Follows (Made a) (moves ++ more) ((act >>= next) a) :=
  Follows.bind trans hact hnext

end Made

omit [Peer σ] in
/-- What an action writes over the link, it writes on the course. -/
theorem onLink_follows {α : Type} {act : LinkM σ α} (course : Course) {link : Link σ}
    {script : List Bytes} (h : Follows (Wrote link) script (act link)) :
    Follows (Made (course, link)) (script.map .writes) (onLink act (course, link)) := by
  have hmade {buffers : List Bytes} {after : Link σ} (hwrote : Wrote link buffers after) :
      Made (course, link) (buffers.map .writes) (course, after) :=
    ⟨by rw [Move.stages_writes, List.append_nil], by rwa [Move.bytes_writes]⟩
  unfold onLink
  dsimp only
  cases hrun : act link with
  | ok value after => exact hmade (h.of_ok hrun)
  | error cause after =>
      obtain ⟨front, hfront, hafter⟩ := h.of_error hrun
      exact ⟨_, hfront.map Move.writes, hmade hafter⟩

omit [Peer σ] in
theorem enter_follows (stage : Stage) (s : Course × Link σ) :
    Follows (Made s) [.enters stage] (enter stage s) :=
  ⟨Course.reached_enter s.1 stage, Wrote.refl s.2⟩

-- =========================================================== two halves

/-- What half of a bring-up does once it has greeted: it connects,
loads an image and starts it. -/
def moves (mode : ChecksumMode) (image : LoaderImage) (known loaded : Stage)
    (running : List Stage) : List Move :=
  [.writes (request .connect [] mode)] ++ ([.enters known]
    ++ (((loads image).map fun r => request r.1 r.2 mode).map .writes ++ ([.enters loaded]
      ++ ([.writes (request .execData [] mode)] ++ running.map .enters))))

variable (audience : Audience)

/-- Half of a bring-up from its greeting on. -/
def half {α : Type} (image : LoaderImage) (known loaded : Stage) (policy : Policy)
    (last : Frame → BringUpM σ α) : BringUpM σ α := do
  onLink connect
  enter known
  onLink (load audience image)
  enter loaded
  let f ← onLink (Link.exchange .execData [] policy)
  last f

/-- How it ends is up to what is done with the answer to the start. -/
theorem half_bind {α : Type} (image : LoaderImage) (known loaded : Stage) (policy : Policy)
    (last : Frame → BringUpM σ α) :
    half audience image known loaded policy last
      = half audience image known loaded policy pure >>= last := by
  simp only [half, bind_assoc, pure_bind]

theorem bootFirst_eq (first : LoaderImage) :
    bootFirst (σ := σ) audience first = (do
      followMode
      onLink (Link.tell audience (.phaseChanged .waitingForDevice .bootRom))
      let version ← onLink (greet audience .bootRom romProbes)
      half audience first .connected .firstLoaded .ack fun _ => do
        enter .firstRunning
        return version) := rfl

theorem bootSecond_eq (second : LoaderImage) :
    bootSecond (σ := σ) audience second = (do
      enter .loaderProbing
      followMode
      onLink (Link.tell audience (.phaseChanged .bootRom .loader))
      let version ← onLink (greet audience .loader loaderProbes)
      half audience second .loaderConnected .secondLoaded startPolicy fun answer => do
        enter .secondRunning
        enter .ready
        onLink (Link.tell audience (.phaseChanged .loader .ready))
        return (version, answer.reply)) := rfl

theorem half_follows {α : Type} (image : LoaderImage) (known loaded : Stage) (policy : Policy)
    {running : List Stage} {last : Frame → BringUpM σ α}
    (hlast : ∀ f s, Follows (Made s) (running.map .enters) (last f s))
    {mode : ChecksumMode} {s : Course × Link σ} (hmode : s.2.mode = mode) :
    Follows (Made s) (moves mode image known loaded running)
      (half audience image known loaded policy last s) := by
  have hconnect := onLink_follows s.1 (connect_follows s.2)
  rw [hmode] at hconnect
  refine Made.bind hconnect fun _ a ha => ?_
  refine Made.bind (enter_follows known a) fun _ b hb => ?_
  have hb' : b.2.mode = mode := (hb.wrote.mode.trans ha.wrote.mode).trans hmode
  have hload := onLink_follows b.1 (load_follows audience image b.2)
  rw [hb'] at hload
  refine Made.bind hload fun _ c hc => ?_
  refine Made.bind (enter_follows loaded c) fun _ d hd => ?_
  have hd' : d.2.mode = mode := (hd.wrote.mode.trans hc.wrote.mode).trans hb'
  have hstart := onLink_follows d.1 (Link.exchange_follows .execData [] policy d.2)
  rw [hd'] at hstart
  exact Made.bind hstart fun f e _ => hlast f e

variable (course : Course) {link : Link σ}

/-- The first half, in the mode of the stage it begins at. -/
theorem bootFirst_follows (first : LoaderImage) (hconn : link.channel.connected = true) :
    Follows (Made (course, { link with mode := course.stage.mode }))
      ([.writes [delimiter]]
        ++ moves course.stage.mode first .connected .firstLoaded [.firstRunning])
      (bootFirst audience first (course, link)) := by
  let heard := audience.hear link.events (.phaseChanged .waitingForDevice .bootRom)
  obtain ⟨n, hpos, hle, hgreet⟩ := greet_follows audience .bootRom (Nat.le_refl romProbes)
    { link with mode := course.stage.mode, events := heard } hconn
  have hn : n = 1 := Nat.le_antisymm hle hpos
  subst hn
  rw [bootFirst_eq]
  refine Follows.mono (Made.of_events heard) (Follows.after rfl (Follows.after rfl ?_))
  refine Made.bind (onLink_follows _ hgreet) fun version a ha => ?_
  refine half_follows audience first .connected .firstLoaded .ack (fun _ s => ?_) ha.wrote.mode
  exact (enter_follows .firstRunning s).replace version

/-- The second half, always in the mode of the loaders. -/
theorem bootSecond_follows (second : LoaderImage) (hconn : link.channel.connected = true) :
    ∃ n, (n = 1 ∨ n = 2)
      ∧ Follows (Made (course.enter .loaderProbing, { link with mode := .sum }))
        ((List.replicate n [delimiter]).map .writes
          ++ moves .sum second .loaderConnected .secondLoaded [.secondRunning, .ready])
        (bootSecond audience second (course, link)) := by
  let heard := audience.hear link.events (.phaseChanged .bootRom .loader)
  have hprobes : 1 ≤ loaderProbes := by decide
  obtain ⟨n, hpos, hle, hgreet⟩ := greet_follows audience .loader hprobes
    { link with mode := .sum, events := heard } hconn
  have hn : n = 1 ∨ n = 2 := by
    have : n ≤ 2 := hle
    omega
  refine ⟨n, hn, ?_⟩
  rw [bootSecond_eq]
  refine Follows.mono (Made.of_events heard)
    (Follows.after rfl (Follows.after rfl (Follows.after rfl ?_)))
  refine Made.bind (onLink_follows _ hgreet) fun version a ha => ?_
  refine half_follows audience second .loaderConnected .secondLoaded startPolicy
    (fun f s => ?_) ha.wrote.mode
  show Follows (Made s) ([.enters .secondRunning] ++ ([.enters .ready] ++ [])) _
  refine Made.bind (enter_follows .secondRunning s) fun _ b _ => ?_
  refine Made.bind (enter_follows .ready b) fun _ c _ => ?_
  obtain ⟨course, link⟩ := c
  exact (Made.refl (course, link)).told

-- ========================================================= a whole run

/-- What half of a bring-up writes once it has greeted. -/
def loading (mode : ChecksumMode) (image : LoaderImage) : List Bytes :=
  request .connect [] mode :: (loads image).map (fun r => request r.1 r.2 mode)
    ++ [request .execData [] mode]

/-- What a bring-up writes that probes the first loader so often. -/
def transcript (first second : LoaderImage) (probes : Nat) : List Bytes :=
  ([delimiter] :: loading .crc first)
    ++ (List.replicate probes [delimiter] ++ loading .sum second)

theorem bytes_moves (mode : ChecksumMode) (image : LoaderImage) (known loaded : Stage)
    (running : List Stage) :
    (moves mode image known loaded running).filterMap Move.bytes? = loading mode image := by
  simp only [moves, loading, List.filterMap_append, Move.bytes_writes, Move.bytes_enters,
    List.filterMap_cons, Move.bytes?, List.cons_append, List.nil_append]

theorem stages_moves (mode : ChecksumMode) (image : LoaderImage) (known loaded : Stage)
    (running : List Stage) :
    (moves mode image known loaded running).filterMap Move.stage?
      = known :: loaded :: running := by
  simp only [moves, List.filterMap_append, Move.stages_writes, Move.stages_enters,
    List.filterMap_cons, Move.stage?, List.singleton_append, List.nil_append]

/-- Where the stages of a bring-up from the start may have ended, with
the first loader probed so often. -/
structure Passed (first second : LoaderImage) (probes : Nat) (link : Link σ)
    (s : Course × Link σ) : Prop where
  reached : s.1.reached <+: Stage.steps
  written : ∃ buffers, buffers <+: transcript first second probes
    ∧ s.2.channel.sent = link.channel.sent ++ buffers
  mode : s.2.mode = .sum ↔ .loaderProbing ∈ s.1.reached

section

variable {first second : LoaderImage} {probes : Nat} {s : Course × Link σ} {front : List Move}

omit [Peer σ] in
/-- The first half comes to the first four stages at most. -/
theorem Passed.of_first
    (hmade : Made (.start, { link with mode := .crc }) front s)
    (hfront : front <+: [.writes [delimiter]]
      ++ moves .crc first .connected .firstLoaded [.firstRunning]) :
    Passed first second probes link s := by
  obtain ⟨⟨passed, hpassed, hreached⟩, ⟨buffers, hbuffers, hsent⟩⟩ := hmade.of_front hfront
  rw [List.filterMap_append, stages_moves] at hpassed
  rw [List.filterMap_append, bytes_moves] at hbuffers
  have hfour : s.1.reached <+: Stage.steps.take 4 := by
    rw [hreached]
    exact (List.prefix_append_right_inj [Stage.probing]).2 hpassed
  refine ⟨hfour.trans (List.take_prefix 4 Stage.steps),
    ⟨buffers, hbuffers.trans (List.prefix_append _ _), hsent⟩, ?_⟩
  rw [show s.2.mode = .crc from hmade.wrote.mode]
  constructor
  · intro hsum
    cases hsum
  · intro hmem
    exact absurd (hfour.subset hmem) (by decide)

variable {t : Course × Link σ}

omit [Peer σ] in
/-- The second half begins where the first was done. -/
theorem Passed.of_second (hreached : s.1.reached = Stage.steps.take 4)
    (hsent : s.2.channel.sent = link.channel.sent ++ ([delimiter] :: loading .crc first))
    (hmade : Made (s.1.enter .loaderProbing, { s.2 with mode := .sum }) front t)
    (hfront : front <+: (List.replicate probes [delimiter]).map .writes
      ++ moves .sum second .loaderConnected .secondLoaded [.secondRunning, .ready]) :
    Passed first second probes link t := by
  obtain ⟨⟨passed, hpassed, ht⟩, ⟨buffers, hbuffers, htsent⟩⟩ := hmade.of_front hfront
  rw [List.filterMap_append, Move.stages_writes, stages_moves] at hpassed
  rw [List.filterMap_append, Move.bytes_writes, bytes_moves] at hbuffers
  rw [Course.reached_enter, hreached] at ht
  refine ⟨?_, ⟨([delimiter] :: loading .crc first) ++ buffers, ?_, ?_⟩, ?_⟩
  · rw [ht]
    exact (List.prefix_append_right_inj (Stage.steps.take 4 ++ [.loaderProbing])).2 hpassed
  · exact (List.prefix_append_right_inj _).2 hbuffers
  · rw [htsent, ← List.append_assoc, ← hsent]
  · rw [show t.2.mode = .sum from hmade.wrote.mode, ht]
    simp

end

theorem stages_passed (audience : Audience) (first second : LoaderImage) {link : Link σ}
    (hconn : link.channel.connected = true) :
    ∃ probes, (probes = 1 ∨ probes = 2)
      ∧ Passed first second probes link (endState (stages audience first second (.start, link)))
      ∧ ∀ report s, stages audience first second (.start, link) = .ok report s →
        s.1.reached = Stage.steps
          ∧ s.2.channel.sent = link.channel.sent ++ transcript first second probes := by
  have hfirst : Follows (Made (.start, { link with mode := .crc })) _
      (bootFirst audience first (.start, link)) := bootFirst_follows audience .start first hconn
  unfold stages
  cases hboot : bootFirst audience first (.start, link) with
  | error cause s =>
      obtain ⟨front, hfront, hmade⟩ := hfirst.of_error hboot
      rw [bind_of_error hboot]
      refine ⟨1, .inl rfl, .of_first hmade hfront, ?_⟩
      intro report s h
      cases h
  | ok version s =>
      have hmade := hfirst.of_ok hboot
      have hreached := hmade.reached
      have hsent := hmade.wrote.sent
      rw [List.filterMap_append, stages_moves] at hreached
      rw [List.filterMap_append, bytes_moves] at hsent
      obtain ⟨probes, hprobes, hsecond⟩ :=
        bootSecond_follows audience s.1 second (hmade.wrote.connected.trans hconn)
      rw [bind_of_ok hboot]
      refine ⟨probes, hprobes, ?_⟩
      cases hrun : bootSecond audience second s with
      | error cause t =>
          obtain ⟨front, hfront, hmade'⟩ := hsecond.of_error hrun
          rw [bind_of_error hrun]
          refine ⟨.of_second hreached hsent hmade' hfront, ?_⟩
          intro report s h
          cases h
      | ok value t =>
          have hmade' := hsecond.of_ok hrun
          have ht := hmade'.reached
          have htsent := hmade'.wrote.sent
          rw [List.filterMap_append, Move.stages_writes, stages_moves, Course.reached_enter,
            hreached] at ht
          rw [List.filterMap_append, Move.bytes_writes, bytes_moves] at htsent
          rw [bind_of_ok hrun]
          refine ⟨.of_second hreached hsent hmade' List.prefix_rfl, ?_⟩
          rintro report _ ⟨⟩
          refine ⟨ht, ?_⟩
          rw [htsent]
          show s.2.channel.sent ++ _ = _
          rw [hsent, List.append_assoc]
          rfl

theorem run_of_ok {audience : Audience} {first second : LoaderImage} {s t : Course × Link σ}
    {report : BootReport} (h : stages audience first second s = .ok report t) :
    run audience first second s = .ok report t := by
  unfold run
  rw [h]

theorem run_of_error {audience : Audience} {first second : LoaderImage} {s t : Course × Link σ}
    {cause : Failure} (h : stages audience first second s = .error cause t) :
    run audience first second s = .error cause (t.1.abort cause.message,
      { t.2 with events := audience.hear t.2.events (.failed cause.message) }) := by
  unfold run
  rw [h]

/-- A bring-up on a new course over a connected link, whatever is in
the queue and whatever the device answers: what was written is a front
of the transcript, the stages passed are a front of the stages there
are, and the course, the events and the mode tell how it ended. -/
theorem run_transcript (audience : Audience) (first second : LoaderImage) {link : Link σ}
    (hconn : link.channel.connected = true) :
    ∃ probes course after, (probes = 1 ∨ probes = 2)
      ∧ endState (run audience first second (.start, link)) = (course, after)
      ∧ (∃ buffers, buffers <+: transcript first second probes
        ∧ after.channel.sent = link.channel.sent ++ buffers
        ∧ (course.stage = .ready → buffers = transcript first second probes))
      ∧ course.history.toList ++ (if course.stage.isAborted then [] else [course.stage])
          <+: Stage.steps
      ∧ ((∃ report, outcome (run audience first second (.start, link)) = .ok report)
        ↔ course.stage = .ready)
      ∧ (∀ cause, outcome (run audience first second (.start, link)) = .error cause →
        course.stage = .aborted cause.message
          ∧ (audience = .recorder → after.events.back? = some (.failed cause.message)))
      ∧ (after.mode = .sum ↔ .loaderProbing ∈ course.history) := by
  obtain ⟨probes, hprobes, hpassed, hdone⟩ := stages_passed audience first second hconn
  cases hrun : stages audience first second (.start, link) with
  | ok report s =>
      obtain ⟨course, after⟩ := s
      obtain ⟨hreached, hsent⟩ := hdone report _ hrun
      rw [hrun] at hpassed
      have hstage : course.stage = .ready := by
        have hlast := congrArg List.getLast? hreached
        simpa [Course.reached, Stage.steps] using hlast
      rw [run_of_ok hrun]
      refine ⟨probes, course, after, hprobes, rfl,
        ⟨_, List.prefix_rfl, hsent, fun _ => rfl⟩, ?_, ?_, ?_, ?_⟩
      · rw [hstage, ← hreached, Course.reached, hstage]
        exact List.prefix_rfl
      · exact ⟨fun _ => hstage, fun _ => ⟨report, rfl⟩⟩
      · intro cause h
        cases h
      · have hmode : after.mode = .sum ↔ .loaderProbing ∈ course.reached := hpassed.mode
        rw [hmode]
        simp [Course.reached, hstage]
  | error cause s =>
      obtain ⟨course, after⟩ := s
      rw [hrun] at hpassed
      obtain ⟨buffers, hbuffers, hsent⟩ := hpassed.written
      have hhistory : (course.abort cause.message).history.toList = course.reached := by
        simp [Course.abort, Course.enter, Course.reached]
      rw [run_of_error hrun]
      refine ⟨probes, course.abort cause.message, _, hprobes, rfl,
        ⟨buffers, hbuffers, hsent, ?_⟩, ?_, ?_, ?_, ?_⟩
      · intro hready
        cases hready
      · rw [hhistory]
        show course.reached ++ [] <+: Stage.steps
        rw [List.append_nil]
        exact hpassed.reached
      · constructor
        · rintro ⟨report, h⟩
          cases h
        · intro hready
          cases hready
      · rintro _ ⟨⟩
        refine ⟨rfl, ?_⟩
        rintro rfl
        exact Array.back?_push
      · rw [← Array.mem_toList_iff, hhistory]
        exact hpassed.mode

/-- Three bytes in two pieces. -/
def threeBytes (address : UInt32) : LoaderImage :=
  { address, window := ⟨2, by decide, by decide⟩, data := [1, 2, 3], length_lt := by decide }

/-- A device that shows no banner, and whose first loader refuses the
last piece of the second one. -/
def refusedPiece : Link Device :=
  .ofChannel
    (.connect { Device.fresh .rom with silentProbe := true, failingPiece := some 3 }) .sum

/-- The bring-up that ends with this piece. -/
def halfway : EStateM.Result Failure (Course × Link Device) BootReport :=
  run .recorder (threeBytes 0x5500) (threeBytes 0x9EFFFE00) (.start, refusedPiece)

/-- What the piece is answered. -/
def refusal : Failure := .protocol (.unexpectedReply .midstData .ack .operationFailed)

theorem run_transcript_refusedPiece :
    refusedPiece.channel.connected = true
      ∧ ∃ probes course after buffers, (probes = 1 ∨ probes = 2)
        ∧ endState halfway = (course, after)
        ∧ buffers <+: transcript (threeBytes 0x5500) (threeBytes 0x9EFFFE00) probes
        ∧ after.channel.sent = buffers ∧ buffers.length = 13
        ∧ course.history.toList = Stage.steps.take 6
        ∧ course.stage = .aborted refusal.message
        ∧ after.events.back? = some (.failed refusal.message)
        ∧ after.mode = .sum := by
  have hconn : refusedPiece.channel.connected = true := rfl
  obtain ⟨probes, course, after, hprobes, hrun, ⟨buffers, hbuffers, hsent, -⟩, -, -, hfailed,
    hmode⟩ := run_transcript .recorder (threeBytes 0x5500) (threeBytes 0x9EFFFE00) hconn
  have hend : endState halfway = (course, after) := hrun
  have hrefused : outcome halfway = .error refusal := by decide +kernel
  have hpassed : (endState halfway).1.history.toList = Stage.steps.take 6 := by decide +kernel
  have hcount : (endState halfway).2.channel.sent.length = 13 := by decide +kernel
  rw [hend] at hpassed hcount
  obtain ⟨hstage, hlast⟩ := hfailed refusal hrefused
  have hsecond : .loaderProbing ∈ course.history := by
    rw [← Array.mem_toList_iff, hpassed]
    decide
  rw [hsent] at hcount
  exact ⟨hconn, probes, course, after, buffers, hprobes, hend, hbuffers, hsent, hcount, hpassed,
    hstage, hlast rfl, hmode.2 hsecond⟩

end BringUp

end FlashLink
