/-
A session leaves nothing in the queue, run after run.

A host that finds something in the queue takes it for the answer to
its next request. The queue is empty when a session begins, and the
theorem at the end says that it is empty again after every operation,
whichever operations are asked for, with whatever settings and files,
and wherever they fail. So no reply of one operation is the answer to
a later one.

What transfers do to the link was settled once and for all
(`InSync.lasting`). What is left is the start of the two images. The
boot ROM's goes out under the checksum of the boot ROM, because the
course begins there; the loader's has the attempts to wait. From then
on every step of an operation keeps the queue empty, so an operation
does, and a run of operations is an induction on their list.
-/
import FlashLink.Proofs.InSync
import FlashLink.Session

namespace FlashLink

namespace InSync

-- ============================================================= bring-up

/-- The first image is started under the checksum of the boot ROM. -/
theorem bootFirst (audience : Audience) (first : LoaderImage) {s : Course × Link Device}
    (hstage : s.1.stage.mode = .crc) (h : InSync (fun _ => True) s.2) :
    InSync (· = .crc) (endState (BringUp.bootFirst audience first s)).2 := by
  have hkeeps := lasting (· = .crc)
  have hexec : Keeps (InSync (· = .crc)) (Link.exchange .execData [] .ack) :=
    fun _ h => h.exchange fun _ => ⟨rfl, .inl h.mode⟩
  unfold BringUp.bootFirst
  refine Keeps.after (P := fun s : Course × Link Device => InSync (· = .crc) s.2)
    (Q := fun s => s.1.stage.mode = .crc ∧ InSync (fun _ => True) s.2) ?_ ?_ ⟨hstage, h⟩
  · rintro ⟨course, link⟩ ⟨hcrc, hlink⟩
    exact ⟨hlink.empty, hlink.stalls, hcrc⟩
  · intro _
    refine (hkeeps.tell _ _).onLink.bind fun _ => ?_
    refine (hkeeps.greet _ _ _).onLink.bind fun version => ?_
    refine hkeeps.connect.onLink.bind fun _ => ?_
    refine (Keeps.enter _).bind fun _ => ?_
    refine (hkeeps.load _ _).onLink.bind fun _ => ?_
    refine (Keeps.enter _).bind fun _ => ?_
    refine hexec.onLink.bind fun _ => ?_
    exact (Keeps.enter _).bind fun _ => Keeps.pure _

/-- The second image is started with attempts enough for the empty
reads before its answer. -/
theorem bootSecond (audience : Audience) (second : LoaderImage) :
    Keeps (fun s : Course × Link Device => InSync (fun _ => True) s.2)
      (BringUp.bootSecond audience second) := by
  have hkeeps := lasting (fun _ => True)
  have hexec : Keeps (InSync (fun _ => True))
      (Link.exchange .execData [] BringUp.startPolicy) :=
    fun _ h => h.exchange fun _ => ⟨rfl, .inr (by decide)⟩
  have hfollow : Keeps (fun s : Course × Link Device => InSync (fun _ => True) s.2)
      BringUp.followMode := fun _ h => ⟨h.empty, h.stalls, trivial⟩
  refine (Keeps.enter _).bind fun _ => ?_
  refine hfollow.bind fun _ => ?_
  refine (hkeeps.tell _ _).onLink.bind fun _ => ?_
  refine (hkeeps.greet _ _ _).onLink.bind fun version => ?_
  refine hkeeps.connect.onLink.bind fun _ => ?_
  refine (Keeps.enter _).bind fun _ => ?_
  refine (hkeeps.load _ _).onLink.bind fun _ => ?_
  refine (Keeps.enter _).bind fun _ => ?_
  refine hexec.onLink.bind fun answer => ?_
  refine (Keeps.enter _).bind fun _ => ?_
  refine (Keeps.enter _).bind fun _ => ?_
  exact (hkeeps.tell _ _).onLink.bind fun _ => Keeps.pure _

/-- A bring-up from the boot ROM keeps the link in sync, wherever it
is aborted. -/
theorem bringUp (audience : Audience) (first second : LoaderImage) {s : Course × Link Device}
    (hstage : s.1.stage.mode = .crc) (h : InSync (fun _ => True) s.2) :
    InSync (fun _ => True) (endState (BringUp.run audience first second s)).2 := by
  have hstages : InSync (fun _ => True)
      (endState (BringUp.stages audience first second s)).2 := by
    unfold BringUp.stages
    refine Keeps.after (P := fun s : Course × Link Device => InSync (fun _ => True) s.2)
      (Q := fun s => s.1.stage.mode = .crc ∧ InSync (fun _ => True) s.2) ?_ ?_ ⟨hstage, h⟩
    · rintro s ⟨hcrc, hlink⟩
      exact (bootFirst audience first hcrc hlink).mono fun _ _ => trivial
    · intro _
      exact (bootSecond audience second).bind fun _ => Keeps.pure _
  unfold BringUp.run
  split
  · rename_i hrun
    rw [hrun] at hstages
    exact hstages
  · rename_i hrun
    rw [hrun] at hstages
    exact ⟨hstages.empty, hstages.stalls, trivial⟩

end InSync

namespace Session

variable {σ : Type}

/-- Nothing waits for the session, and its device is not too late for
it. -/
def Synced (s : Session Device) : Prop :=
  s.channel.arrivals = [] ∧ s.channel.peer.stalls ≤ 14

namespace Synced

-- ======================================================= single steps

theorem check {α : Type} (checked : Except ParamFailure α) :
    Keeps Synced (Session.check (σ := Device) checked) := by
  intro s h
  cases checked <;> exact h

theorem createFile (path : String) : Keeps Synced (Session.createFile (σ := Device) path) := by
  intro s h
  unfold Session.createFile
  split <;> exact h

theorem tell (event : Event) : Keeps Synced (Session.tell (σ := Device) event) := fun _ h => h

theorem link {s : Session Device} (h : Synced s) (mode : ChecksumMode) :
    InSync (fun _ => True) (s.link mode) := ⟨h.1, h.2, trivial⟩

theorem overLink {α : Type} {act : LinkM Device α} {mode : ChecksumMode}
    (hact : ∀ link : Link Device, InSync (fun _ => True) link →
      InSync (fun _ => True) (endState (act link))) :
    Keeps Synced (Session.overLink mode act) := by
  intro s h
  have hafter := hact _ (h.link mode)
  unfold Session.overLink
  split
  · rename_i hrun
    rw [hrun] at hafter
    exact ⟨hafter.empty, hafter.stalls⟩
  · rename_i hrun
    rw [hrun] at hafter
    exact ⟨hafter.empty, hafter.stalls⟩

theorem fillFile {α : Type} {act : EStateM Failure (Sink × Link Device) α} (names : List String)
    (hact : Keeps (fun s => InSync (fun _ => True) s.2) act) :
    Keeps Synced (Session.fillFile names act) := by
  intro s h
  have hafter := hact (.unlimited, s.link .sum) (h.link .sum)
  unfold Session.fillFile
  split
  · rename_i hrun
    rw [hrun] at hafter
    exact ⟨hafter.empty, hafter.stalls⟩
  · rename_i hrun
    rw [hrun] at hafter
    exact ⟨hafter.empty, hafter.stalls⟩

-- ========================================================== operations

theorem bringUp : Keeps Synced (Session.bringUp (σ := Device)) := by
  refine Keeps.get.bind fun s => ?_
  refine (check _).bind fun first => ?_
  refine (check _).bind fun second => ?_
  refine overLink fun link hlink => ?_
  have hafter := InSync.bringUp s.audience first second (s := (.start, link)) rfl hlink
  cases hrun : BringUp.run s.audience first second (.start, link) with
  | ok report after =>
      rw [hrun] at hafter
      exact hafter
  | error cause after =>
      rw [hrun] at hafter
      exact hafter

/-- Every operation keeps the session in sync. -/
theorem attempt (operation : Operation) :
    Keeps Synced (Session.attempt (σ := Device) operation) := by
  have hkeeps := InSync.lasting (fun _ => True)
  cases operation with
  | ready => exact bringUp.bind fun _ => Keeps.pure _
  | reset =>
      refine Keeps.bind ?_ fun _ => Keeps.pure _
      refine (tell _).bind fun _ => ?_
      exact (overLink (hkeeps.exchange _ _ _ (by decide))).bind fun _ => Keeps.pure _
  | shutdown =>
      refine Keeps.bind ?_ fun _ => Keeps.pure _
      refine (tell _).bind fun _ => ?_
      exact (overLink (hkeeps.exchange _ _ _ (by decide))).bind fun _ => Keeps.pure _
  | read partition size path =>
      refine Keeps.bind ?_ fun _ => Keeps.pure _
      refine Keeps.get.bind fun s => ?_
      refine (check _).bind fun name => ?_
      refine (tell _).bind fun _ => ?_
      refine (createFile _).bind fun names => ?_
      exact fillFile _ (hkeeps.upload _ _ _ _)
  | write partition path =>
      refine Keeps.bind ?_ fun _ => Keeps.pure _
      refine Keeps.get.bind fun s => ?_
      refine (check _).bind fun name => ?_
      refine (tell _).bind fun _ => ?_
      exact overLink (hkeeps.downloadFile _ _ _ _ _)
  | dump partition start count path =>
      refine Keeps.bind ?_ fun _ => Keeps.pure _
      refine Keeps.get.bind fun s => ?_
      refine (check _).bind fun name => ?_
      refine (tell _).bind fun _ => ?_
      refine (createFile _).bind fun names => ?_
      exact fillFile _ (hkeeps.dump _ _ _ _ _)

theorem perform (operation : Operation) :
    Keeps Synced (Session.perform (σ := Device) operation) := by
  intro s h
  unfold Session.perform
  split
  · rename_i outcome after hrun
    have hafter : Synced after := (attempt operation).of_ok h hrun
    exact hafter
  · rename_i cause after hrun
    have hafter : Synced after := (attempt operation).of_error h hrun
    exact hafter

end Synced

-- ================================================================ runs

/-- The sessions after each of some operations, however they ended. -/
def trail [Peer σ] (s : Session σ) : List Operation → List (Session σ)
  | [] => []
  | operation :: rest =>
    endState (perform operation s) :: trail (endState (perform operation s)) rest

theorem synced_of_mem_trail {operations : List Operation} {s t : Session Device}
    (h : Synced s) (ht : t ∈ trail s operations) : Synced t := by
  induction operations generalizing s with
  | nil => cases ht
  | cons operation rest ih =>
      have hnext := Synced.perform operation s h
      rcases List.mem_cons.1 ht with rfl | ht
      · exact hnext
      · exact ih hnext ht

/-- With a device that is not too late for the host, nothing is left in
the queue after any operation of any run. -/
theorem arrivals_of_mem_trail {s : Session Device} (hempty : s.channel.arrivals = [])
    (hstalls : s.channel.peer.stalls ≤ 14) (operations : List Operation) :
    ∀ t ∈ trail s operations, t.channel.arrivals = [] :=
  fun _ ht => (synced_of_mem_trail ⟨hempty, hstalls⟩ ht).1

/-- The latest loader there may be, behind single bytes, with an image
at hand for it and for the loader before it. -/
def latest : Session Device :=
  .begin (.connect
      { Device.fresh .rom with
        stalls := 14
        chunk := 1
        chunk_pos := Nat.one_pos
        partitions := [("boot", #[4, 5, 6])] })
    { firstWindow := 2, secondWindow := 2, uploadWindow := 2 }
    { entries := [(["fdl1.bin"], .file (.ofBytes [1, 2, 3])),
        (["fdl2.bin"], .file (.ofBytes [1, 2, 3]))] }
    .nobody

/-- It is brought up, read and shut down, and every answer is heard to
its last byte. -/
theorem arrivals_of_mem_trail_latest :
    latest.channel.arrivals = [] ∧ latest.channel.peer.stalls ≤ 14
      ∧ (outcome (perform .ready latest)).toOption = some (.booted
          { romVersion := some "SPRD3"
            loaderVersion := some "Spreadtrum Boot Block version 1.1"
            incompatiblePartition := false })
      ∧ (trail latest [.ready, .read "boot" 3 "out", .shutdown]).map
          (fun t => t.channel.heard.length) = [152, 187, 195]
      ∧ ∀ t ∈ trail latest [.ready, .read "boot" 3 "out", .shutdown],
          t.channel.arrivals = [] :=
  ⟨rfl, by decide, by decide +kernel, by decide +kernel, arrivals_of_mem_trail rfl (by decide) _⟩

end Session

end FlashLink
