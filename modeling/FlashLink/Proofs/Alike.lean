/-
Two links on which the same happens.

What an operation does depends on the mode, on what is in the queue and
on what the device answers, and on nothing else. So two links that agree
in these (`Alike`) agree after every operation, and the operation gives
the same answer on both. Who is told of packets does not matter, and
neither does what the device is, as long as the two devices answer every
frame alike (`Mimics`); what they make of a bare delimiter may differ,
because nothing here probes.

Only one read and one write look at a channel. Everything above them
carries the relation along (`Wired`, `Parallel`).
-/
import FlashLink.Proofs.Exchange
import FlashLink.Proofs.Parallel
import FlashLink.Proofs.Transcript

namespace FlashLink

variable {τ σ : Type}

/-- Devices that answer every frame alike, and go on doing so. -/
def Mimics [Peer τ] [Peer σ] (R : τ → σ → Prop) : Prop :=
  ∀ t s, R t s → ∀ f : Frame, (Peer.answer t f.encode).1 = (Peer.answer s f.encode).1
    ∧ R (Peer.answer t f.encode).2 (Peer.answer s f.encode).2

namespace Link

/-- Links that agree in all that an operation depends on. -/
structure Alike (R : τ → σ → Prop) (a : Link τ) (b : Link σ) : Prop where
  mode : a.mode = b.mode
  arrivals : a.channel.arrivals = b.channel.arrivals
  traffic : a.channel.traffic = b.channel.traffic
  connected : a.channel.connected = b.channel.connected
  peer : R a.channel.peer b.channel.peer

variable {R : τ → σ → Prop} {a : Link τ} {b : Link σ}

-- ========================================================== receiving

theorem read_alike (h : Alike R a b) : Agrees (Alike R) (read a) (read b) := by
  unfold read Channel.read
  rw [h.connected, h.arrivals, h.traffic]
  cases b.channel.connected with
  | false => exact .error ⟨h.mode, h.arrivals, h.traffic, h.connected, h.peer⟩
  | true =>
      cases b.channel.arrivals with
      | nil => exact .error ⟨h.mode, h.arrivals, h.traffic, h.connected, h.peer⟩
      | cons arrival rest =>
          cases arrival with
          | silence => exact .error ⟨h.mode, rfl, rfl, rfl, h.peer⟩
          | chunk bytes =>
              by_cases hlimit : readLimit < bytes.length
              · simp only [if_true, if_pos hlimit]
                exact .ok ⟨h.mode, rfl, rfl, rfl, h.peer⟩
              · simp only [if_true, if_neg hlimit]
                exact .ok ⟨h.mode, rfl, rfl, rfl, h.peer⟩

variable [Peer τ] [Peer σ]

theorem wrote_alike (hR : Mimics R) (h : Alike R a b) (f : Frame) :
    Alike R (a.wrote f.encode) (b.wrote f.encode) := by
  obtain ⟨hanswer, hpeer⟩ := hR _ _ h.peer f
  refine ⟨h.mode, ?_, ?_, h.connected, hpeer⟩
  · rw [arrivals_wrote, arrivals_wrote, h.arrivals, hanswer]
  · show a.channel.traffic.push _ = b.channel.traffic.push _
    rw [h.traffic]

theorem wired_alike (hR : Mimics R) : Wired (Alike R) where
  mode h := h.mode
  read h := read_alike h
  write := by
    intro a b f h
    cases hconn : b.channel.connected with
    | false =>
        rw [write_of_disconnected _ hconn, write_of_disconnected _ (h.connected.trans hconn)]
        exact .error h
    | true =>
        rw [write_of_connected _ hconn, write_of_connected _ (h.connected.trans hconn)]
        exact .ok (wrote_alike hR h f)

/-- Links that are alike stay so through every transfer, whoever is told
of it. -/
theorem parallel_alike (hR : Mimics R) (audience audience' : Audience) :
    Parallel audience audience' (Alike R) where
  exchange command payload policy _ h := (wired_alike hR).exchange command payload policy h
  hear _ _ h := ⟨h.mode, h.arrivals, h.traffic, h.connected, h.peer⟩

end Link

-- =========================================================== bring-up

namespace BringUp

open Link (Alike)

/-- Half of a bring-up goes the same way on links that are alike. -/
theorem half_alike [Peer τ] [Peer σ] {R : τ → σ → Prop} (hR : Mimics R) (audience : Audience)
    (image : LoaderImage) (known loaded : Stage) (policy : Policy) {s : Course × Link τ}
    {t : Course × Link σ} (h : Beside (Alike R) s t) :
    Agrees (Beside (Alike R)) (half audience image known loaded policy pure s)
      (half audience image known loaded policy pure t) := by
  have hparallel := Link.parallel_alike hR audience audience
  unfold half
  refine .bind (h.onLink hparallel.connect) fun _ s t h => ?_
  refine .bind (h.enter known) fun _ s t h => ?_
  refine .bind (h.onLink (hparallel.load image)) fun _ s t h => ?_
  refine .bind (h.enter loaded) fun _ s t h => ?_
  exact .bind (h.onLink ((Link.wired_alike hR).exchange _ _ _)) fun f s t h => .ok h

end BringUp

end FlashLink
