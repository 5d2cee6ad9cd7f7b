/-
What every exchange keeps, every transfer keeps.

A property of the link that survives each exchange, on every exit, and
does not speak of the events survives every upload, download and dump,
and what bring-up does between its starts and its changes of the mode.
`Lasting` names such a property.

Nothing of this needs an argument of its own: a property of one link is
a relation between a link and itself (`Same`), and how far a relation is
carried was settled layer by layer (`Parallel`).
-/
import FlashLink.Proofs.Parallel

namespace FlashLink

variable {σ : Type} [Peer σ]

/-- A property of the link that survives every exchange of a transfer,
every probe, and every report. -/
structure Lasting (P : Link σ → Prop) : Prop where
  exchange : ∀ command payload policy, command ≠ .execData →
    Keeps P (Link.exchange command payload policy)
  probe : ∀ attempts, Keeps P (Link.probe attempts)
  events : ∀ link events, P link → P { link with events }

-- ================================================== a link and itself

/-- One link, which has a property. -/
def Same (P : Link σ → Prop) (a b : Link σ) : Prop := a = b ∧ P a

section

variable {P : Link σ → Prop} {a b : Link σ}

omit [Peer σ] in
theorem Keeps.agrees {α : Type} {act : LinkM σ α} (h : Keeps P act) (hs : Same P a b) :
    Agrees (Same P) (act a) (act b) := by
  obtain ⟨rfl, ha⟩ := hs
  cases hrun : act a with
  | ok value after => exact .ok ⟨rfl, h.of_ok ha hrun⟩
  | error cause after => exact .error ⟨rfl, h.of_error ha hrun⟩

omit [Peer σ] in
theorem Beside.kept {ρ : Type} {s t : ρ × Link σ} (hs : Beside (Same P) s t) : P s.2 := by
  obtain ⟨same, -, ha⟩ := hs
  exact ha

end

namespace Lasting

variable {P : Link σ → Prop} (h : Lasting P)

include h

theorem parallel (audience : Audience) : Parallel audience audience (Same P) where
  exchange command payload policy hcommand hs :=
    (h.exchange command payload policy hcommand).agrees hs
  hear event _ hs := by
    obtain ⟨rfl, ha⟩ := hs
    exact ⟨rfl, h.events _ _ ha⟩

theorem tell (audience : Audience) (event : Event) : Keeps P (Link.tell audience event) :=
  fun link hlink => h.events link _ hlink

-- =========================================================== transfers

theorem upload (partition : String) (size windowSize : UInt32) (audience : Audience) :
    Keeps (fun s : Sink × Link σ => P s.2)
      (FlashLink.upload partition size windowSize audience) := by
  rintro ⟨sink, link⟩ hs
  exact ((h.parallel audience).upload partition size windowSize sink ⟨rfl, hs⟩).endState.kept

theorem downloadFile (target : Target) (files : Files) (path : String) (windowSize : UInt32)
    (audience : Audience) :
    Keeps P (FlashLink.downloadFile target files path windowSize audience) := fun _ hs =>
  ((h.parallel audience).downloadFile target files path windowSize ⟨rfl, hs⟩).endState.2

theorem dump (partition : String) (start : UInt64) (count windowSize : UInt32)
    (audience : Audience) :
    Keeps (fun s : Sink × Link σ => P s.2)
      (FlashLink.dump partition start count windowSize audience) := by
  rintro ⟨sink, link⟩ hs
  exact ((h.parallel audience).dump partition start count windowSize sink ⟨rfl, hs⟩).endState.kept

-- ============================================================ bring-up

theorem greet (audience : Audience) (phase : SessionPhase) (probes : Nat) :
    Keeps P (BringUp.greet audience phase probes) := fun _ hs =>
  ((h.parallel audience).greet (fun attempts hs => (h.probe attempts).agrees hs) phase probes
    ⟨rfl, hs⟩).endState.2

theorem connect : Keeps P BringUp.connect := fun _ hs =>
  ((h.parallel .nobody).connect ⟨rfl, hs⟩).endState.2

theorem load (audience : Audience) (image : LoaderImage) :
    Keeps P (BringUp.load audience image) := fun _ hs =>
  ((h.parallel audience).load image ⟨rfl, hs⟩).endState.2

/-- With the starts of images and the changes of the mode it survives a
whole bring-up. -/
theorem stages (hstart : ∀ policy, Keeps P (Link.exchange .execData [] policy))
    (hmode : ∀ link mode, P link → P { link with mode }) (audience : Audience)
    (first second : LoaderImage) :
    Keeps (fun s : Course × Link σ => P s.2) (BringUp.stages audience first second) := by
  rintro ⟨course, link⟩ hs
  have habreast : Abreast audience audience (Same P) :=
    { h.parallel audience with
      start := fun policy hs => (hstart policy).agrees hs
      probe := fun attempts hs => (h.probe attempts).agrees hs
      setMode := by
        rintro a b mode ⟨rfl, ha⟩
        exact ⟨rfl, hmode a mode ha⟩ }
  exact (habreast.stages first second (.mk course ⟨rfl, hs⟩)).endState.kept

end Lasting

namespace Keeps

variable {P : Link σ → Prop}

/-- What one read and one frame written keep, every exchange keeps. -/
theorem exchange (hread : Keeps P Link.read)
    (hwrite : ∀ f : Frame, Keeps P (Link.write f.encode)) (command : Command) (payload : Bytes)
    (policy : Policy) : Keeps P (Link.exchange command payload policy) := by
  have hwired : Link.Wired (Same P) :=
    { mode := by
        rintro a b ⟨rfl, -⟩
        rfl
      read := hread.agrees
      write := fun f hs => (hwrite f).agrees hs }
  exact fun _ hs => (hwired.exchange command payload policy ⟨rfl, hs⟩).endState.2

omit [Peer σ] in
/-- What an action keeps of the link, it keeps of the link that a
course goes over. -/
theorem onLink {α : Type} {act : LinkM σ α} (h : Keeps P act) :
    Keeps (fun s : Course × Link σ => P s.2) (BringUp.onLink act) := by
  rintro ⟨course, link⟩ hs
  exact (Beside.onLink (.mk course ⟨rfl, hs⟩) h.agrees).endState.kept

omit [Peer σ] in
theorem enter (stage : Stage) :
    Keeps (fun s : Course × Link σ => P s.2) (BringUp.enter stage) := fun _ hs => hs

end Keeps

end FlashLink
