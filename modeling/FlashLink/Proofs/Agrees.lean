/-
Two runs that go the same way.

`Agrees S` says of two runs that both succeed with one value or both
fail for one cause, and that the states they end in are related. It
passes through sequencing, so a relation between links is carried as far
as its smallest steps carry it.

For the link these are one read and one write: links that are in the
same mode and stay related over both (`Wired`) stay related over every
attempt at receiving and every exchange, and both links give the same
answer. A bare delimiter is no frame, and only probes write one; a
relation need not survive that.
-/
import FlashLink.Link
import FlashLink.Proofs.Keeps

namespace FlashLink

variable {ε σ τ α β : Type}

-- ========================================================== agreement

/-- Two runs that end the same way, in states that are related. -/
inductive Agrees (S : τ → σ → Prop) :
    EStateM.Result ε τ α → EStateM.Result ε σ α → Prop where
  | ok {value : α} {a : τ} {b : σ} (h : S a b) : Agrees S (.ok value a) (.ok value b)
  | error {cause : ε} {a : τ} {b : σ} (h : S a b) : Agrees S (.error cause a) (.error cause b)

namespace Agrees

variable {S : τ → σ → Prop} {r : EStateM.Result ε τ α} {r' : EStateM.Result ε σ α}

theorem of_ok {value : α} {b : σ} (h : Agrees S r (.ok value b)) :
    ∃ a, r = .ok value a ∧ S a b := by
  cases h with
  | ok h => exact ⟨_, rfl, h⟩

/-- Both succeed, or both fail. -/
theorem exits (h : Agrees S r r') :
    (∃ value a b, r = .ok value a ∧ r' = .ok value b ∧ S a b)
      ∨ ∃ cause a b, r = .error cause a ∧ r' = .error cause b ∧ S a b := by
  cases h with
  | ok h => exact .inl ⟨_, _, _, rfl, rfl, h⟩
  | error h => exact .inr ⟨_, _, _, rfl, rfl, h⟩

theorem endState (h : Agrees S r r') : S (FlashLink.endState r) (FlashLink.endState r') := by
  cases h with
  | ok h => exact h
  | error h => exact h

theorem bind {act : EStateM ε τ α} {act' : EStateM ε σ α} {next : α → EStateM ε τ β}
    {next' : α → EStateM ε σ β} {a : τ} {b : σ} (hact : Agrees S (act a) (act' b))
    (hnext : ∀ value a b, S a b → Agrees S (next value a) (next' value b)) :
    Agrees S ((act >>= next) a) ((act' >>= next') b) := by
  rcases hact.exits with ⟨value, a', b', hrun, hrun', hs⟩ | ⟨cause, a', b', hrun, hrun', hs⟩
  · rw [bind_of_ok hrun, bind_of_ok hrun']
    exact hnext value a' b' hs
  · rw [bind_of_error hrun, bind_of_error hrun']
    exact .error hs

end Agrees

namespace Link

/-- A relation between links that survives one read and one frame
written, over both. -/
structure Wired [Peer τ] [Peer σ] (S : Link τ → Link σ → Prop) : Prop where
  mode : ∀ {a b}, S a b → a.mode = b.mode
  read : ∀ {a b}, S a b → Agrees S (Link.read a) (Link.read b)
  write : ∀ {a b} (f : Frame), S a b → Agrees S (Link.write f.encode a) (Link.write f.encode b)

namespace Wired

variable [Peer τ] [Peer σ] {S : Link τ → Link σ → Prop} (h : Wired S)

include h

-- ========================================================== receiving

theorem receiveChunk (empty : String) {a : Link τ} {b : Link σ} (hs : S a b) :
    Agrees S (Link.receiveChunk empty a) (Link.receiveChunk empty b) := by
  rcases (h.read hs).exits with
    ⟨bytes, a', b', hread, hread', hs⟩ | ⟨cause, a', b', hread, hread', hs⟩
  · have hlt : b'.channel.weight < b.channel.weight := weight_read_lt hread'
    rw [Link.receiveChunk, hread, Link.receiveChunk, hread']
    dsimp only
    split
    · exact .error hs
    · split
      · rcases (receiveChunk "Empty continuation" hs).exits with
          ⟨more, a', b', hmore, hmore', hs⟩ | ⟨cause, a', b', hmore, hmore', hs⟩
        · rw [hmore, hmore']
          exact .ok hs
        · rw [hmore, hmore']
          exact .error hs
      · exact .ok hs
  · rw [Link.receiveChunk, hread, Link.receiveChunk, hread']
    exact .error hs
  termination_by b.channel.weight

theorem collect (raw : Array UInt8) {a : Link τ} {b : Link σ} (hs : S a b) :
    Agrees S (Link.collect raw a) (Link.collect raw b) := by
  rcases (h.receiveChunk "Empty response" hs).exits with
    ⟨wire, a', b', hreceive, hreceive', hs⟩ | ⟨cause, a', b', hreceive, hreceive', hs⟩
  · have hlt : b'.channel.weight < b.channel.weight := weight_receiveChunk_lt hreceive'
    rw [Link.collect, show receiveOne a = _ from hreceive, Link.collect,
      show receiveOne b = _ from hreceive']
    dsimp only
    rw [h.mode hs]
    split
    · exact .error hs
    · split
      · split
        · split
          · exact .ok hs
          · exact .error hs
        · exact collect _ hs
      · exact collect _ hs
  · rw [Link.collect, show receiveOne a = _ from hreceive, Link.collect,
      show receiveOne b = _ from hreceive']
    exact .error hs
  termination_by b.channel.weight

theorem receiveAgain (more : Nat) {a : Link τ} {b : Link σ} (hs : S a b) :
    Agrees S (Link.receiveAgain more a) (Link.receiveAgain more b) := by
  induction more generalizing a b with
  | zero => exact h.collect #[] hs
  | succ more ih =>
      have hfirst : Agrees S (receiveFrame a) (receiveFrame b) := h.collect #[] hs
      unfold Link.receiveAgain
      rcases hfirst.exits with
        ⟨f, a', b', hreceive, hreceive', hs⟩ | ⟨cause, a', b', hreceive, hreceive', hs⟩
      · rw [hreceive, hreceive']
        exact .ok hs
      · rw [hreceive, hreceive']
        dsimp only
        split
        · exact ih hs
        · exact .error hs

-- ======================================================== round trips

theorem exchange (command : Command) (payload : Bytes) (policy : Policy) {a : Link τ} {b : Link σ}
    (hs : S a b) :
    Agrees S (Link.exchange command payload policy a) (Link.exchange command payload policy b) := by
  have hframe : Agrees S (frame command payload a) (frame command payload b) := by
    unfold frame
    rw [h.mode hs]
    split
    · exact .ok hs
    · exact .error hs
  unfold Link.exchange
  refine .bind hframe fun request a b hs => ?_
  refine .bind (h.write request hs) fun _ a b hs => ?_
  refine .bind (h.receiveAgain (policy.attempts - 1) hs) fun reply a b hs => ?_
  unfold judge
  split
  · exact .ok hs
  · exact .error hs

/-- A relation that survives a bare delimiter survives probing. -/
theorem probe (hprobe : ∀ {a b}, S a b → Agrees S (sendProbe a) (sendProbe b)) (attempts : Nat)
    {a : Link τ} {b : Link σ} (hs : S a b) :
    Agrees S (Link.probe attempts a) (Link.probe attempts b) := by
  unfold Link.probe
  generalize attempts - 1 = more
  induction more generalizing a b with
  | zero =>
      refine .bind (hprobe hs) fun _ a b hs => ?_
      exact .bind (h.receiveAgain 0 hs) fun f a b hs => .ok hs
  | succ more ih =>
      unfold probeAgain
      rcases (hprobe hs).exits with
        ⟨_, a', b', hsend, hsend', hs⟩ | ⟨cause, a', b', hsend, hsend', hs⟩
      · rw [hsend, hsend']
        dsimp only
        have hfirst : Agrees S (receiveFrame a') (receiveFrame b') := h.receiveAgain 0 hs
        rcases hfirst.exits with
          ⟨f, a', b', hreceive, hreceive', hs⟩ | ⟨cause, a', b', hreceive, hreceive', hs⟩
        · rw [hreceive, hreceive']
          exact .ok hs
        · rw [hreceive, hreceive']
          dsimp only
          split
          · exact ih hs
          · exact .error hs
      · rw [hsend, hsend']
        exact .error hs

end Wired

end Link

end FlashLink
