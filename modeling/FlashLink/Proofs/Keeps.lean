/-
What an action leaves true of its state, however it ends.

An action on a link, a transfer or a session ends with a value or with
a failure, and in a state either way; the next action starts from that
state. An invariant of a session must therefore survive the failing
exits too. `Keeps P act` says that `act` takes states with `P` to
states with `P` on every exit. It passes through sequencing, so what
the steps of an operation keep, the operation keeps.
-/
import FlashLink.Failure

namespace FlashLink

variable {ε σ α β : Type}

/-- The state a run ends in, however it ends. -/
def endState : EStateM.Result ε σ α → σ
  | .ok _ s => s
  | .error _ s => s

/-- What a run answers. -/
def outcome : EStateM.Result ε σ α → Except ε α
  | .ok value _ => .ok value
  | .error cause _ => .error cause

@[simp] theorem endState_ok (value : α) (s : σ) :
    endState (.ok value s : EStateM.Result ε σ α) = s := rfl

@[simp] theorem endState_error (cause : ε) (s : σ) :
    endState (.error cause s : EStateM.Result ε σ α) = s := rfl

@[simp] theorem outcome_ok (value : α) (s : σ) :
    outcome (.ok value s : EStateM.Result ε σ α) = .ok value := rfl

@[simp] theorem outcome_error (cause : ε) (s : σ) :
    outcome (.error cause s : EStateM.Result ε σ α) = .error cause := rfl

/-- After a success the next action starts from where it ended. -/
theorem bind_of_ok {act : EStateM ε σ α} {s after : σ} {value : α}
    (h : act s = .ok value after) (next : α → EStateM ε σ β) :
    (act >>= next) s = next value after := by
  show (match act s with
    | .ok value after => next value after
    | .error cause after => .error cause after) = _
  rw [h]

/-- After a failure there is no next action. -/
theorem bind_of_error {act : EStateM ε σ α} {s after : σ} {cause : ε}
    (h : act s = .error cause after) (next : α → EStateM ε σ β) :
    (act >>= next) s = .error cause after := by
  show (match act s with
    | .ok value after => next value after
    | .error cause after => .error cause after) = _
  rw [h]

/-- A value put in place of another changes no state. -/
theorem endState_bind_pure (act : EStateM ε σ α) (value : β) (s : σ) :
    endState ((act >>= fun _ => Pure.pure value) s) = endState (act s) := by
  show endState (match act s with
    | .ok _ after => .ok value after
    | .error cause after => .error cause after) = _
  cases act s <;> rfl

/-- Whatever the exit, `P` holds of the state after `act` if it held
before. -/
def Keeps (P : σ → Prop) (act : EStateM ε σ α) : Prop :=
  ∀ s, P s → P (endState (act s))

namespace Keeps

variable {P : σ → Prop} {act : EStateM ε σ α}

/-- Read at a value. -/
theorem of_ok (h : Keeps P act) {s after : σ} {value : α} (hs : P s)
    (hact : act s = .ok value after) : P after := by
  have := h s hs
  rwa [hact] at this

/-- Read at a failure. -/
theorem of_error (h : Keeps P act) {s after : σ} {cause : ε} (hs : P s)
    (hact : act s = .error cause after) : P after := by
  have := h s hs
  rwa [hact] at this

theorem pure (value : α) : Keeps P (Pure.pure value : EStateM ε σ α) := fun _ h => h

theorem get : Keeps P (get : EStateM ε σ σ) := fun _ h => h

/-- A first step that brings `P` about, and further steps that keep
it. -/
theorem after {Q : σ → Prop} (hact : ∀ s, Q s → P (endState (act s)))
    {next : α → EStateM ε σ β} (hnext : ∀ value, Keeps P (next value)) {s : σ} (hs : Q s) :
    P (endState ((act >>= next) s)) := by
  have hmid := hact s hs
  show P (endState (match act s with
    | .ok value after => next value after
    | .error cause after => .error cause after))
  split
  · rename_i hrun
    rw [hrun] at hmid
    exact hnext _ _ hmid
  · rename_i hrun
    rw [hrun] at hmid
    exact hmid

theorem bind {next : α → EStateM ε σ β} (hact : Keeps P act)
    (hnext : ∀ value, Keeps P (next value)) : Keeps P (act >>= next) :=
  fun _ hs => after hact hnext hs

end Keeps

end FlashLink
