/-
What a run writes, of what it had to write.

A request is written once and never again, so what an operation writes
is known before any answer comes: all of a script if the operation
succeeds, and a front of it if it fails. `Follows` says this of a run,
for whatever is recorded along the way; scripts are put one behind the
other as the actions are (`Follows.bind`), because a failure ends both.

Nothing is assumed of the device or of the queue. The script of an
exchange is its one request, and that of a download the announcement,
the pieces and the completion; what is carried through the loop is how
many pieces are gone (`Writing.At`).
-/
import FlashLink.Proofs.Exchange
import FlashLink.Proofs.Keeps
import FlashLink.Proofs.Pieces

namespace FlashLink

open Stuffing (delimiter)

variable {ε σ α β τ : Type}

/-- A run that adds to a record: a whole script, or a front of it if it
fails. -/
def Follows (adds : List τ → σ → Prop) (script : List τ) : EStateM.Result ε σ α → Prop
  | .ok _ after => adds script after
  | .error _ after => ∃ front, front <+: script ∧ adds front after

namespace Follows

variable {adds adds' : List τ → σ → Prop} {script more : List τ}

theorem of_ok {r : EStateM.Result ε σ α} (h : Follows adds script r) {value : α} {after : σ}
    (hr : r = .ok value after) : adds script after := by
  rw [hr] at h
  exact h

theorem of_error {r : EStateM.Result ε σ α} (h : Follows adds script r) {cause : ε} {after : σ}
    (hr : r = .error cause after) : ∃ front, front <+: script ∧ adds front after := by
  rw [hr] at h
  exact h

/-- A run that fails before it adds anything follows any script. -/
theorem stop {cause : ε} {s : σ} (h : adds [] s) :
    Follows adds script (.error cause s : EStateM.Result ε σ α) :=
  ⟨[], List.nil_prefix, h⟩

/-- A failure leaves out whatever would have come behind it. -/
theorem cut {cause : ε} {s : σ} (h : Follows adds script (.error cause s : EStateM.Result ε σ α))
    (more : List τ) : Follows adds (script ++ more) (.error cause s : EStateM.Result ε σ β) := by
  obtain ⟨front, hfront, hs⟩ := h
  exact ⟨front, hfront.trans (List.prefix_append script more), hs⟩

/-- A run behind what was added already. -/
theorem behind {r : EStateM.Result ε σ α} (h : Follows adds' more r)
    (hchain : ∀ {front after}, adds' front after → adds (script ++ front) after) :
    Follows adds (script ++ more) r := by
  cases r with
  | ok value after => exact hchain h
  | error cause after =>
      obtain ⟨front, hfront, hafter⟩ := h
      exact ⟨script ++ front, (List.prefix_append_right_inj script).2 hfront, hchain hafter⟩

theorem mono (himp : ∀ {front after}, adds' front after → adds front after)
    {r : EStateM.Result ε σ α} (h : Follows adds' script r) : Follows adds script r := by
  cases r with
  | ok value after => exact himp h
  | error cause after =>
      obtain ⟨front, hfront, hafter⟩ := h
      exact ⟨front, hfront, himp hafter⟩

/-- A step that adds nothing. -/
theorem after {act : EStateM ε σ α} {next : α → EStateM ε σ β} {s mid : σ} {value : α}
    (hact : act s = .ok value mid) (h : Follows adds script (next value mid)) :
    Follows adds script ((act >>= next) s) := by
  rw [bind_of_ok hact]
  exact h

/-- A value put in place of another adds nothing. -/
theorem replace {act : EStateM ε σ α} {s : σ} (h : Follows adds script (act s)) (value : β) :
    Follows adds script ((act >>= fun _ => Pure.pure value) s) := by
  cases hrun : act s with
  | ok old after =>
      rw [bind_of_ok hrun]
      exact h.of_ok hrun
  | error cause after =>
      rw [bind_of_error hrun]
      exact h.of_error hrun

/-- One action behind another. -/
theorem bind {adds : σ → List τ → σ → Prop}
    (htrans : ∀ {a b c u v}, adds a u b → adds b v c → adds a (u ++ v) c)
    {act : EStateM ε σ α} {next : α → EStateM ε σ β} {s : σ}
    (hact : Follows (adds s) script (act s))
    (hnext : ∀ value after, adds s script after →
      Follows (adds after) more (next value after)) :
    Follows (adds s) (script ++ more) ((act >>= next) s) := by
  cases hrun : act s with
  | ok value after =>
      have hadds := hact.of_ok hrun
      rw [bind_of_ok hrun]
      exact (hnext value after hadds).behind (htrans hadds)
  | error cause after =>
      rw [hrun] at hact
      rw [bind_of_error hrun]
      exact hact.cut more

end Follows

namespace Link

variable [Peer σ]

-- ============================================================ exchanges

/-- From one link to another some buffers were written. -/
structure Wrote (link : Link σ) (buffers : List Bytes) (after : Link σ) : Prop where
  mode : after.mode = link.mode
  connected : after.channel.connected = link.channel.connected
  sent : after.channel.sent = link.channel.sent ++ buffers

namespace Wrote

variable {a b c : Link σ} {buffers more : List Bytes}

omit [Peer σ] in
theorem refl (link : Link σ) : Wrote link [] link := ⟨rfl, rfl, (List.append_nil _).symm⟩

omit [Peer σ] in
theorem trans (h : Wrote a buffers b) (h' : Wrote b more c) : Wrote a (buffers ++ more) c where
  mode := h'.mode.trans h.mode
  connected := h'.connected.trans h.connected
  sent := by rw [h'.sent, h.sent, List.append_assoc]

/-- One buffer was written, and then only received. -/
theorem of_steady {bytes : Bytes} {link after : Link σ} (h : Steady (link.wrote bytes) after) :
    Wrote link [bytes] after :=
  ⟨h.mode, h.connected, by rw [h.sent, sent_wrote]⟩

omit [Peer σ] in
theorem events (h : Wrote a buffers b) (events : Array Event) : Wrote a buffers { b with events } :=
  ⟨h.mode, h.connected, h.sent⟩

omit [Peer σ] in
/-- Telling of progress writes nothing. -/
theorem told (h : Wrote a buffers b) (audience : Audience) (phase : SessionPhase)
    (operation : String) (report : Option Nat) (window : Window) :
    Wrote a buffers (Upload.tellProgress audience phase operation report window b) :=
  ⟨by simpa using h.mode, by simpa using h.connected, by simpa using h.sent⟩

end Wrote

/-- Over a link that is connected an exchange writes its request. -/
theorem exchange_wrote {command : Command} {payload : Bytes}
    (hlen : payload.length ≤ Frame.maxPayload) (policy : Policy) {link : Link σ}
    (hconn : link.channel.connected = true) :
    Wrote link [request command payload link.mode]
      (endState (exchange command payload policy link)) := by
  rw [endState_exchange hlen hconn]
  exact .of_steady (steady_receiveAgain (policy.attempts - 1) _)

/-- An exchange writes its request, at most once. -/
theorem exchange_follows (command : Command) (payload : Bytes) (policy : Policy) (link : Link σ) :
    Follows (Wrote link) [request command payload link.mode]
      (exchange command payload policy link) := by
  by_cases hlen : payload.length ≤ Frame.maxPayload
  · cases hconn : link.channel.connected with
    | false =>
        rw [exchange_of_disconnected hlen hconn]
        exact .stop (.refl link)
    | true =>
        have hwrote : Wrote link _ (endState (exchange command payload policy link)) :=
          exchange_wrote hlen policy hconn
        cases hrun : exchange command payload policy link with
        | ok f after =>
            rw [hrun] at hwrote
            exact hwrote
        | error cause after =>
            rw [hrun] at hwrote
            exact ⟨_, List.prefix_rfl, hwrote⟩
  · rw [exchange_of_long (Nat.lt_of_not_le hlen)]
    exact .stop (.refl link)

/-- Probing writes a bare delimiter for each attempt. -/
theorem probeAgain_wrote {link : Link σ} (hconn : link.channel.connected = true) (more : Nat) :
    ∃ n, 1 ≤ n ∧ n ≤ more + 1
      ∧ Wrote link (List.replicate n [delimiter]) (endState (probeAgain more link)) := by
  have hs := steady_receiveFrame (link.wrote [delimiter])
  induction more generalizing link with
  | zero =>
      refine ⟨1, Nat.le_refl _, Nat.le_refl _, ?_⟩
      rw [probeAgain_zero hconn]
      cases hreceive : receiveFrame (link.wrote [delimiter]) with
      | ok frame after =>
          rw [hreceive] at hs
          exact .of_steady hs
      | error cause after =>
          rw [hreceive] at hs
          exact .of_steady hs
  | succ more ih =>
      rw [probeAgain_succ hconn]
      cases hreceive : receiveFrame (link.wrote [delimiter]) with
      | ok frame after =>
          rw [hreceive] at hs
          exact ⟨1, Nat.le_refl _, by omega, .of_steady hs⟩
      | error cause after =>
          rw [hreceive] at hs
          have hfirst := Wrote.of_steady hs
          dsimp only
          split
          · -- the next attempt begins with a delimiter of its own
            obtain ⟨n, hpos, hle, hrest⟩ :=
              ih (hfirst.connected.trans hconn) (steady_receiveFrame _)
            refine ⟨n + 1, by omega, by omega, ?_⟩
            exact hfirst.trans hrest
          · exact ⟨1, Nat.le_refl _, by omega, hfirst⟩

end Link

namespace Download

open Link (Wrote request)

variable [Peer σ] {target : Target} {link : Link σ}

-- ============================================================ downloads

theorem announce_follows (target : Target) (size : UInt32) (link : Link σ) :
    Follows (Wrote link) [request .startData (target.announcement size) link.mode]
      (announce target size link) := by
  unfold announce
  split
  · exact .stop (.refl link)
  · rename_i payload hpayload
    have hexchange :=
      Link.exchange_follows .startData payload target.startPolicy link
    rw [(Target.startPayload_eq hpayload).1] at hexchange ⊢
    split
    · rename_i hrun
      exact hexchange.of_ok hrun
    · rename_i hrun
      exact hexchange.of_error hrun

/-- The pieces that are left go out one by one. -/
theorem writePieces_follows (target : Target) (audience : Audience) (moved : Summary)
    {size k : Nat} {image : Bytes} {w : Writing σ} (hat : w.At size image k) :
    Follows (fun buffers after => Wrote w.link buffers after.link)
      (((Window.pieces size image).drop k).map fun piece => request .midstData piece w.link.mode)
      (writePieces target audience moved w) := by
  generalize hleft : (Window.pieces size image).length - k = left
  induction left generalizing k w moved with
  | zero =>
      have hdone := Nat.sub_eq_zero_iff_le.1 hleft
      rw [writePieces_of_none target audience moved (hat.done hdone), List.drop_eq_nil_of_le hdone]
      exact Wrote.refl w.link
  | succ left ih =>
      have hk : k < (Window.pieces size image).length := by omega
      obtain ⟨chunk, source, hnext, -, hread, hat'⟩ := hat.next hk
      have hexchange :=
        Link.exchange_follows .midstData ((image.drop (k * size)).take size) .ack w.link
      rw [Window.drop_pieces hk, List.map_cons, ← List.singleton_append]
      cases hrun : Link.exchange .midstData ((image.drop (k * size)).take size) .ack w.link with
      | error cause after =>
          rw [writePieces_of_error target audience moved hnext hread hrun]
          rw [hrun] at hexchange
          exact hexchange.cut (β := Summary) _
      | ok f after =>
          rw [writePieces_of_ok target audience moved hnext hread hrun]
          have hgone : Wrote w.link _ (w.next target audience chunk source after).link :=
            (hexchange.of_ok hrun).told _ _ _ _ _
          have hrest := ih (moved.add chunk) (hat' target audience after) (by omega)
          rw [hgone.mode] at hrest
          exact hrest.behind fun h => hgone.trans h

/-- A download of a source that holds all of its size: what it writes,
and in which order. -/
theorem run_follows (target : Target) {size : UInt32} (windowSize : WindowSize)
    {source : Content} (hsize : source.toBytes.length = size.toNat) (audience : Audience)
    (link : Link σ) :
    Follows (Wrote link)
      ((requests target size (Window.pieces windowSize.size.toNat source.toBytes)).map
        fun r => request r.1 r.2 link.mode)
      (run target (.start 0 size windowSize) source audience link) := by
  have htotal : (Window.start 0 size windowSize).total = size := rfl
  have hannounce := announce_follows target size link
  unfold requests
  rw [run_eq, htotal, List.cons_append, List.map_cons, List.map_append, List.map_map,
    ← List.singleton_append]
  cases hbegin : announce target size link with
  | error cause after =>
      rw [hbegin] at hannounce
      exact hannounce.cut _
  | ok value begun =>
      have hbegun := hannounce.of_ok hbegin
      have hwindow := Window.At.start_zero size windowSize
      rw [← hsize] at hwindow
      have hpieces := writePieces_follows target audience .none
        (Writing.At.zero (w := ⟨begun, .start 0 size windowSize, source⟩) rfl hwindow rfl)
      rw [List.drop_zero, hbegun.mode] at hpieces
      apply Follows.behind _ hbegun.trans
      dsimp only
      cases hwrite : writePieces target audience .none
          ⟨begun, .start 0 size windowSize, source⟩ with
      | error cause w =>
          rw [hwrite] at hpieces
          exact hpieces.cut (β := Summary) _
      | ok moved w =>
          have hw := hpieces.of_ok hwrite
          have hend := Link.exchange_follows .endData [] .ack w.link
          rw [hw.mode, hbegun.mode] at hend
          apply Follows.behind _ hw.trans
          dsimp only
          cases hfinish : Link.exchange .endData [] .ack w.link with
          | error cause after =>
              rw [hfinish] at hend
              exact hend
          | ok f after => exact hend.of_ok hfinish

end Download

end FlashLink
