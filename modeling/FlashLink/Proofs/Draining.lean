/-
Draining a window, and taking anything off it.

`advances` takes pieces of any sizes off a window, in any order, those
included that are longer than what is left. The bytes left go down by
their sum and stop at nothing, and the offset stays as far from where the
transfer began as bytes were transferred (`origin_advances`), so a window
and what was taken off it always agree.

To drain a window is to take its own next piece until there is none.
`taken` lists these pieces with the offsets they begin at, and `drain` is
the same walk (`drain_eq`). They are the pieces that lie ahead of the
window, whether it wraps around the end of the address space or not
(`taken_eq_ahead`), so number, sizes and offsets are known beforehand:
whole pieces, and a last one with the rest (`make_drains`).
-/
import FlashLink.Proofs.Window
import Mathlib.Algebra.Order.Floor.Div

namespace FlashLink.Window

variable {w : Window} {chunk : UInt32}

-- =============================================================== any pieces

/-- The window after pieces of some sizes. -/
def advances (w : Window) (chunks : List UInt32) : Window :=
  chunks.foldl (fun w chunk => (w.advance chunk).2) w

/-- The bytes of some pieces together. -/
def bytesOf (chunks : List UInt32) : Nat := (chunks.map UInt32.toNat).sum

/-- Where on the device the whole transfer began. -/
def origin (w : Window) : UInt32 := w.offset - w.transferred

theorem offset_eq (w : Window) : w.offset = w.origin + w.transferred :=
  (UInt32.sub_add_cancel _ _).symm

theorem origin_start (offset total : UInt32) (size : WindowSize) :
    (start offset total size).origin = offset := by
  unfold origin transferred start
  dsimp only
  rw [UInt32.sub_self, UInt32.sub_zero]

theorem origin_advance (w : Window) (chunk : UInt32) : (w.advance chunk).2.origin = w.origin := by
  unfold origin transferred advance take
  dsimp only
  grind

@[simp] theorem advances_nil (w : Window) : w.advances [] = w := rfl

@[simp] theorem advances_cons (w : Window) (chunk : UInt32) (chunks : List UInt32) :
    w.advances (chunk :: chunks) = (w.advance chunk).2.advances chunks := rfl

theorem advances_append (w : Window) (chunks more : List UInt32) :
    w.advances (chunks ++ more) = (w.advances chunks).advances more :=
  List.foldl_append

theorem bytesOf_append (chunks more : List UInt32) :
    bytesOf (chunks ++ more) = bytesOf chunks + bytesOf more := by
  unfold bytesOf
  rw [List.map_append, List.sum_append]

theorem origin_advances (w : Window) (chunks : List UInt32) :
    (w.advances chunks).origin = w.origin := by
  induction chunks generalizing w with
  | nil => rfl
  | cons chunk chunks ih => rw [advances_cons, ih, origin_advance]

theorem total_advances (w : Window) (chunks : List UInt32) :
    (w.advances chunks).total = w.total := by
  induction chunks generalizing w with
  | nil => rfl
  | cons chunk chunks ih =>
      rw [advances_cons, ih]
      rfl

/-- What is left goes down by all that is taken, and stops at nothing. -/
theorem toNat_remaining_advances (w : Window) (chunks : List UInt32) :
    (w.advances chunks).remaining.toNat = w.remaining.toNat - bytesOf chunks := by
  induction chunks generalizing w with
  | nil => rfl
  | cons chunk chunks ih =>
      rw [advances_cons, ih, toNat_remaining_advance, Nat.sub_sub]
      rfl

-- ================================================================ draining

/-- The pieces that are taken until nothing is left, each with the offset
it begins at. -/
def taken (w : Window) : List ReadRequest :=
  match _h : w.nextChunk? with
  | none => []
  | some chunk => { size := chunk, offset := w.offset } :: (w.advance chunk).2.taken
  termination_by w.remaining.toNat
  decreasing_by exact remaining_advance_lt ‹_›

theorem taken_of_none (h : w.nextChunk? = none) : w.taken = [] := by
  rw [taken]
  split
  · rfl
  · rename_i hsome
    rw [h] at hsome
    cases hsome

theorem taken_of_some (h : w.nextChunk? = some chunk) :
    w.taken = { size := chunk, offset := w.offset } :: (w.advance chunk).2.taken := by
  rw [taken]
  split
  · rename_i hnone
    rw [h] at hnone
    cases hnone
  · rename_i hsome
    rw [h] at hsome
    cases hsome
    rfl

theorem Drain.run_of_none {d : Drain} (h : d.window.nextChunk? = none) : d.run = d := by
  rw [Drain.run]
  split
  · rfl
  · rename_i hsome
    rw [h] at hsome
    cases hsome

theorem Drain.run_of_some {d : Drain} (h : d.window.nextChunk? = some chunk) :
    ∃ reports, d.run = Drain.run ⟨(d.window.advance chunk).2, d.chunks + 1, reports⟩ := by
  rw [Drain.run]
  split
  · rename_i hnone
    rw [h] at hnone
    cases hnone
  · rename_i hsome
    rw [h] at hsome
    cases hsome
    exact ⟨_, rfl⟩

/-- A drain goes on with the pieces that its window has left. -/
theorem Drain.run_eq (d : Drain) :
    d.run.window = d.window.advances (d.window.taken.map ReadRequest.size)
      ∧ d.run.chunks = d.chunks + d.window.taken.length := by
  cases hnext : d.window.nextChunk? with
  | none =>
      rw [Drain.run_of_none hnext, taken_of_none hnext]
      exact ⟨rfl, rfl⟩
  | some chunk =>
      obtain ⟨reports, hrun⟩ := Drain.run_of_some hnext
      obtain ⟨hwindow, hchunks⟩ :=
        Drain.run_eq ⟨(d.window.advance chunk).2, d.chunks + 1, reports⟩
      rw [hrun, hwindow, hchunks, taken_of_some hnext]
      refine ⟨rfl, ?_⟩
      rw [List.length_cons, Nat.add_assoc, Nat.add_comm 1]
  termination_by d.window.remaining.toNat
  decreasing_by exact remaining_advance_lt hnext

/-- To drain a window is to take these pieces. -/
theorem drain_eq (w : Window) :
    w.drain.window = w.advances (w.taken.map ReadRequest.size)
      ∧ w.drain.chunks = w.taken.length := by
  obtain ⟨hwindow, hchunks⟩ := Drain.run_eq { window := w, chunks := 0, reports := #[] }
  refine ⟨hwindow, ?_⟩
  rw [← Nat.zero_add w.taken.length]
  exact hchunks

theorem taken_eq_ahead (w : Window) : w.taken = w.ahead := by
  induction w using taken.induct with
  | case1 w hnone => rw [taken_of_none hnone, ahead_of_isDone (isDone_of_none hnone)]
  | case2 w chunk hnext ih => rw [taken_of_some hnext, ahead_of_some hnext, ih]

/-- Together they are what was left. -/
theorem bytesOf_taken (w : Window) :
    bytesOf (w.taken.map ReadRequest.size) = w.remaining.toNat := by
  induction w using taken.induct with
  | case1 w hnone =>
      have hdone : w.remaining = 0 := eq_of_beq (isDone_of_none hnone)
      rw [taken_of_none hnone, hdone]
      rfl
  | case2 w chunk hnext ih =>
      have hle := UInt32.le_iff_toNat_le.1 (le_remaining_of_some hnext)
      rw [taken_of_some hnext]
      show chunk.toNat + bytesOf ((w.advance chunk).2.taken.map ReadRequest.size) = _
      rw [ih, toNat_remaining_advance]
      omega

-- ============================================================== the pieces

variable {size offset remaining : Nat}

/-- There is an `i`-th piece if something is left behind `i` whole ones. -/
theorem lt_length_requests_iff (hsize : 0 < size) {i : Nat} :
    i < (requests size offset remaining).length ↔ i * size < remaining := by
  rw [length_requests, ← Nat.add_one_le_iff, Nat.le_div_iff_mul_le hsize, Nat.succ_mul]
  omega

/-- Each request is for something, and for no more than a piece. -/
theorem inside_of_mem_requests (hsize : 0 < size) (hfits : size < UInt32.size) {r : ReadRequest}
    (hr : r ∈ requests size offset remaining) : 1 ≤ r.size.toNat ∧ r.size.toNat ≤ size := by
  refine ⟨?_, size_le_of_mem_requests hfits hr⟩
  obtain ⟨i, hi, rfl⟩ := List.getElem_of_mem hr
  have hleft := (lt_length_requests_iff hsize).1 hi
  have hpiece : (requests size offset remaining)[i].size
      = UInt32.ofNat (min size (remaining - i * size)) := by
    simp only [requests, List.getElem_map, List.getElem_range]
  rw [hpiece, toNat_ofNat_of_le (Nat.min_le_left ..) hfits]
  omega

/-- A window from `offset` on whose pieces have at most `size` bytes is
drained of `total` bytes: as many pieces as `total` takes, rounded up, all
of them whole but for the last, each where the one before it ended, and
the window done behind them. -/
structure Drains (w : Window) (offset total size : Nat) : Prop where
  count : w.chunkCount = total ⌈/⌉ size
  length : w.taken.length = w.chunkCount
  chunks : w.drain.chunks = w.chunkCount
  begins : ∀ i (_ : i < w.taken.length), w.taken[i].offset.toNat = (offset + i * size) % 2 ^ 32
  whole : ∀ i (_ : i < w.taken.length), i + 1 < w.taken.length → w.taken[i].size.toNat = size
  bounded : ∀ i (_ : i < w.taken.length),
    1 ≤ w.taken[i].size.toNat ∧ w.taken[i].size.toNat ≤ size
  sum : bytesOf (w.taken.map ReadRequest.size) = total
  done : w.drain.window.remaining = 0 ∧ w.drain.window.nextChunk? = none
  ends : w.drain.window.offset.toNat = (offset + total) % 2 ^ 32

/-- The `i`-th piece, and that something is left for it. -/
theorem getElem_taken (w : Window) {i : Nat} (hi : i < w.taken.length) :
    w.taken[i].size.toNat = min w.size.size.toNat (w.remaining.toNat - i * w.size.size.toNat)
      ∧ w.taken[i].offset.toNat = (w.offset.toNat + i * w.size.size.toNat) % 2 ^ 32
      ∧ i * w.size.size.toNat < w.remaining.toNat := by
  have hleft : i < w.ahead.length := taken_eq_ahead w ▸ hi
  have hpiece : w.taken[i] = w.ahead[i] := List.getElem_of_eq (taken_eq_ahead w) hi
  rw [hpiece]
  unfold ahead at hleft ⊢
  refine ⟨?_, ?_, (lt_length_requests_iff w.size.pos).1 hleft⟩
  · simp only [requests, List.getElem_map, List.getElem_range]
    exact w.toNat_chunk _
  · simp only [requests, List.getElem_map, List.getElem_range]
    exact UInt32.toNat_ofNat'

theorem drains_start (offset total : UInt32) (size : WindowSize) :
    (start offset total size).Drains offset.toNat total.toNat size.size.toNat := by
  -- what the whole window leaves behind
  have hpieces := (start offset total size).bytesOf_taken
  obtain ⟨hdrained, hchunks⟩ := drain_eq (start offset total size)
  have hremaining : (start offset total size).drain.window.remaining.toNat = 0 := by
    rw [hdrained, toNat_remaining_advances, hpieces, Nat.sub_self]
  have hdone : (start offset total size).drain.window.remaining = 0 := UInt32.toNat_inj.1 hremaining
  have hlength : (start offset total size).taken.length = (start offset total size).chunkCount := by
    rw [taken_eq_ahead]
    exact length_requests _ _ _
  refine ⟨(Nat.ceilDiv_eq_add_pred_div ..).symm, hlength, hchunks.trans hlength,
    fun i hi => (getElem_taken _ hi).2.1, ?_, ?_, hpieces, ⟨hdone, ?_⟩, ?_⟩
  · intro i hi hnext
    obtain ⟨hsize, -, -⟩ := getElem_taken _ hi
    obtain ⟨-, -, hrest⟩ := getElem_taken _ hnext
    rw [hsize]
    rw [Nat.add_mul, Nat.one_mul] at hrest
    exact Nat.min_eq_left (by omega)
  · intro i hi
    obtain ⟨hsize, -, hrest⟩ := getElem_taken _ hi
    have hpos := (start offset total size).size.pos
    rw [hsize]
    exact ⟨by omega, Nat.min_le_left ..⟩
  · unfold nextChunk?
    rw [if_pos hdone]
  · have htransferred : (start offset total size).drain.window.transferred.toNat = total.toNat := by
      rw [toNat_transferred, hremaining, hdrained, total_advances]
      rfl
    rw [offset_eq, hdrained, origin_advances, origin_start, ← hdrained, UInt32.toNat_add,
      htransferred]

/-- Every window that is made is drained in whole pieces but for the last.
Whatever is taken off it instead, in pieces of any sizes, was transferred
as far as the total goes, and the rest is left. -/
theorem make_drains (offset total size : UInt32) (hpos : 1 ≤ size.toNat)
    (hfits : size.toNat ≤ 65535) :
    ∃ w, make offset total size = .ok w ∧ w.Drains offset.toNat total.toNat size.toNat
      ∧ ∀ chunks, (w.advances chunks).transferred.toNat = min total.toNat (bytesOf chunks)
        ∧ (w.advances chunks).transferred.toNat ≤ total.toNat
        ∧ (w.advances chunks).remaining.toNat
          = total.toNat - (w.advances chunks).transferred.toNat := by
  refine ⟨start offset total ⟨size, hpos, hfits⟩, make_size offset total ⟨size, hpos, hfits⟩,
    drains_start offset total ⟨size, hpos, hfits⟩, ?_⟩
  intro chunks
  have hrest := toNat_remaining_advances (start offset total ⟨size, hpos, hfits⟩) chunks
  have hmoved := toNat_transferred ((start offset total ⟨size, hpos, hfits⟩).advances chunks)
  rw [total_advances] at hmoved
  replace hrest : _ = total.toNat - bytesOf chunks := hrest
  replace hmoved : _ = total.toNat - _ := hmoved
  omega

/-- A window over the end of the address space, with a short last piece. -/
theorem make_drains_wrapping :
    ∃ w, make 0xFFFFFE00 1000 528 = .ok w ∧ w.Drains 0xFFFFFE00 1000 528
      ∧ w.drain.chunks = 2 ∧ w.drain.window.offset.toNat = 488
      ∧ (w.advances [7, 0, 2000]).transferred.toNat = 1000 := by
  obtain ⟨w, hmade, hdrains, hany⟩ :=
    make_drains 0xFFFFFE00 1000 528 (by decide) (by decide)
  refine ⟨w, hmade, hdrains, ?_, hdrains.ends, (hany [7, 0, 2000]).1⟩
  rw [hdrains.chunks, hdrains.count, Nat.ceilDiv_eq_add_pred_div]
  rfl

end FlashLink.Window
