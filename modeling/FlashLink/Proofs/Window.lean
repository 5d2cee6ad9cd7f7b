/-
Where a window stands, in natural numbers.

Offsets are 32-bit and wrap, and what is left never exceeds the total;
a window that stays within the address space is described by two
natural numbers, the bytes before it and the bytes left (`At`). A step
takes the smaller of what is left and what a request may carry from the
one to the other (`At.next`), so the requests that a window asks for
are known in advance: `requests` lists them by number. One begins where the
one before it ends (`tiles_requests`).

A window may also wrap around the end of the address space. What it has
`ahead` depends on its offset only as far as the field of a request holds
it, which is what an induction along any window needs.
-/
import FlashLink.Request
import FlashLink.Window

namespace FlashLink

/-- Checking a size does not change it. -/
theorem WindowSize.size_of_check {size : UInt32} {window : WindowSize}
    (h : WindowSize.check size = .ok window) : window.size = size := by
  unfold WindowSize.check at h
  split at h
  · cases h
    rfl
  · cases h

namespace Window

/-- The window is at `offset` and has `remaining` bytes left, all of
them in the address space. -/
structure At (w : Window) (offset remaining : Nat) : Prop where
  offset_eq : w.offset = UInt32.ofNat offset
  remaining_eq : w.remaining.toNat = remaining
  inside : offset + remaining ≤ UInt32.size

variable {w : Window} {offset remaining : Nat}

/-- A whole window before its first piece. -/
theorem At.start (offset total : UInt32) (size : WindowSize)
    (h : offset.toNat + total.toNat ≤ UInt32.size) :
    (Window.start offset total size).At offset.toNat total.toNat :=
  ⟨UInt32.ofNat_toNat.symm, rfl, h⟩

/-- A size that was checked makes a window. -/
theorem make_size (offset total : UInt32) (size : WindowSize) :
    make offset total size.size = .ok (start offset total size) := by
  unfold make WindowSize.check
  rw [dif_pos ⟨size.pos, size.fits⟩]
  rfl

/-- Every window that is made is a whole one. -/
theorem eq_start_of_make {offset total size : UInt32} (h : make offset total size = .ok w) :
    ∃ window, w = start offset total window := by
  unfold make at h
  cases hcheck : WindowSize.check size with
  | error cause =>
      rw [hcheck] at h
      cases h
  | ok window =>
      rw [hcheck] at h
      cases h
      exact ⟨window, rfl⟩

/-- A window over the start of the address space stays inside it. -/
theorem At.start_zero (total : UInt32) (size : WindowSize) :
    (Window.start 0 total size).At 0 total.toNat := by
  apply At.start 0 total size
  have := total.toNat_lt
  rw [show (0 : UInt32).toNat = 0 from rfl, Nat.zero_add]
  exact Nat.le_of_lt this

/-- Nothing is asked for once nothing is left. -/
theorem At.done (h : w.At offset 0) : w.nextChunk? = none := by
  unfold nextChunk?
  rw [if_pos (UInt32.toNat_inj.1 h.remaining_eq)]

theorem toNat_ofNat_of_le {n m : Nat} (h : n ≤ m) (hm : m < UInt32.size) :
    (UInt32.ofNat n).toNat = n :=
  UInt32.toNat_ofNat_of_lt' (Nat.lt_of_le_of_lt h hm)

/-- The next piece, while something is left. -/
theorem At.nextChunk? (h : w.At offset remaining) (hpos : 0 < remaining) :
    w.nextChunk? = some (UInt32.ofNat (min w.size.size.toNat remaining)) := by
  have hrem := h.remaining_eq
  unfold Window.nextChunk?
  rw [if_neg (fun hzero => by rw [hzero] at hrem; exact absurd hrem (Nat.ne_of_lt hpos))]
  by_cases hle : w.remaining ≤ w.size.size
  · rw [if_pos hle, Nat.min_eq_right (by rw [← hrem]; exact UInt32.le_iff_toNat_le.1 hle), ← hrem,
      UInt32.ofNat_toNat]
  · have hlt : w.size.size.toNat < w.remaining.toNat :=
      Nat.lt_of_not_le fun hn => hle (UInt32.le_iff_toNat_le.2 hn)
    rw [if_neg hle, Nat.min_eq_left (by omega), UInt32.ofNat_toNat]

/-- The size of a piece fits its field. -/
theorem toNat_chunk (w : Window) (remaining : Nat) :
    (UInt32.ofNat (min w.size.size.toNat remaining)).toNat
      = min w.size.size.toNat remaining :=
  toNat_ofNat_of_le (Nat.min_le_left ..) w.size.size.toNat_lt

section

variable (w : Window) {chunk : UInt32}

@[simp] theorem size_advance : (w.advance chunk).2.size = w.size := rfl

theorem offset_advance (h : chunk ≤ w.remaining) :
    (w.advance chunk).2.offset = w.offset + chunk := by
  show w.offset + (if chunk ≤ w.remaining then chunk else w.remaining) = _
  rw [if_pos h]

theorem remaining_advance (h : chunk ≤ w.remaining) :
    (w.advance chunk).2.remaining = w.remaining - chunk := by
  show w.remaining - (if chunk ≤ w.remaining then chunk else w.remaining) = _
  rw [if_pos h]

end

/-- Bytes are either transferred or left. -/
theorem toNat_transferred (w : Window) :
    w.transferred.toNat = w.total.toNat - w.remaining.toNat :=
  UInt32.toNat_sub_of_le _ _ (UInt32.le_iff_toNat_le.2 w.remaining_le)

/-- A piece of any size takes no more off than is left. -/
theorem toNat_remaining_advance (w : Window) (chunk : UInt32) :
    (w.advance chunk).2.remaining.toNat = w.remaining.toNat - chunk.toNat := by
  show (w.remaining - if chunk ≤ w.remaining then chunk else w.remaining).toNat = _
  split
  · rename_i hle
    exact UInt32.toNat_sub_of_le _ _ hle
  · rename_i hgt
    have hlt : w.remaining.toNat < chunk.toNat :=
      Nat.lt_of_not_le fun hle => hgt (UInt32.le_iff_toNat_le.2 hle)
    rw [UInt32.sub_self, Nat.sub_eq_zero_of_le (Nat.le_of_lt hlt)]
    rfl

/-- A piece goes from what is left to what lies before. -/
theorem At.advance (h : w.At offset remaining) :
    (w.advance (UInt32.ofNat (min w.size.size.toNat remaining))).2.At
      (offset + min w.size.size.toNat remaining) (remaining - min w.size.size.toNat remaining) := by
  have hchunk := w.toNat_chunk remaining
  have hmin := Nat.min_le_right w.size.size.toNat remaining
  generalize hn : min w.size.size.toNat remaining = n at hchunk hmin ⊢
  have hle : UInt32.ofNat n ≤ w.remaining := by
    rw [UInt32.le_iff_toNat_le, hchunk, h.remaining_eq]
    exact hmin
  refine ⟨?_, ?_, ?_⟩
  · rw [w.offset_advance hle, h.offset_eq, UInt32.ofNat_add]
  · rw [w.remaining_advance hle, UInt32.toNat_sub_of_le _ _ hle, hchunk, h.remaining_eq]
  · have hin := h.inside
    omega

-- ========================================================== the requests

/-- What a window asks for: `remaining` bytes from `offset` on, at most
`size` at a time. -/
def requests (size offset remaining : Nat) : List ReadRequest :=
  (List.range ((remaining + size - 1) / size)).map fun i =>
    { size := UInt32.ofNat (min size (remaining - i * size))
      offset := UInt32.ofNat (offset + i * size) }

variable {size : Nat}

theorem requests_zero (hsize : 0 < size) (offset : Nat) : requests size offset 0 = [] := by
  unfold requests
  rw [Nat.zero_add, Nat.div_eq_of_lt (by omega)]
  rfl

/-- One piece more than the rest takes. -/
theorem count_of_pos (hsize : 0 < size) (hpos : 0 < remaining) :
    (remaining + size - 1) / size = (remaining - min size remaining + size - 1) / size + 1 := by
  by_cases hle : remaining ≤ size
  · have hrest : remaining - min size remaining = 0 := by omega
    rw [hrest, Nat.zero_add, Nat.div_eq_of_lt (by omega : size - 1 < size),
      show remaining + size - 1 = (remaining - 1) + size by omega, Nat.add_div_right _ hsize,
      Nat.div_eq_of_lt (by omega)]
  · rw [show remaining + size - 1 = (remaining - min size remaining + size - 1) + size by omega,
      Nat.add_div_right _ hsize]

/-- The first request, and those of the rest. -/
theorem requests_of_pos (hsize : 0 < size) (hpos : 0 < remaining) :
    requests size offset remaining
      = { size := UInt32.ofNat (min size remaining), offset := UInt32.ofNat offset }
        :: requests size (offset + min size remaining) (remaining - min size remaining) := by
  unfold requests
  rw [count_of_pos hsize hpos, List.range_succ_eq_map, List.map_cons, List.map_map]
  refine List.cons_eq_cons.2 ⟨by simp, ?_⟩
  by_cases hle : remaining ≤ size
  · have hrest : remaining - min size remaining = 0 := by omega
    rw [hrest, Nat.zero_add, Nat.div_eq_of_lt (by omega : size - 1 < size)]
    rfl
  · have hmin : min size remaining = size := by omega
    rw [hmin]
    refine List.map_congr_left fun i _ => ?_
    show ReadRequest.mk _ _ = ReadRequest.mk _ _
    rw [Nat.succ_mul, Nat.add_comm (i * size) size, ← Nat.sub_sub, ← Nat.add_assoc]

theorem length_requests (size offset remaining : Nat) :
    (requests size offset remaining).length = (remaining + size - 1) / size := by
  unfold requests
  rw [List.length_map, List.length_range]

/-- A window asks for no more than its size at a time. -/
theorem size_le_of_mem_requests (hfits : size < UInt32.size) {r : ReadRequest}
    (hr : r ∈ requests size offset remaining) : r.size.toNat ≤ size := by
  obtain ⟨i, -, rfl⟩ := List.mem_map.1 hr
  show (UInt32.ofNat (min size (remaining - i * size))).toNat ≤ size
  rw [toNat_ofNat_of_le (Nat.min_le_left ..) hfits]
  exact Nat.min_le_left ..

-- ===================================================== what lies ahead

section

variable {chunk : UInt32}

/-- What a window has yet to ask for. -/
def ahead (w : Window) : List ReadRequest :=
  requests w.size.size.toNat w.offset.toNat w.remaining.toNat

/-- Of an offset only what fits its field is asked for. -/
theorem requests_of_ofNat_eq {size offset offset' : Nat}
    (h : UInt32.ofNat offset = UInt32.ofNat offset') (remaining : Nat) :
    requests size offset remaining = requests size offset' remaining := by
  unfold requests
  simp only [UInt32.ofNat_add, h]

theorem At.ahead {offset remaining : Nat} (h : w.At offset remaining) :
    w.ahead = requests w.size.size.toNat offset remaining := by
  unfold Window.ahead
  rw [h.remaining_eq]
  refine requests_of_ofNat_eq ?_ _
  rw [UInt32.ofNat_toNat, h.offset_eq]

theorem isDone_of_none (h : w.nextChunk? = none) : w.isDone = true := by
  unfold nextChunk? at h
  split at h
  · rename_i hzero
    unfold isDone
    rw [hzero]
    rfl
  · cases h

theorem ahead_of_isDone (h : w.isDone = true) : w.ahead = [] := by
  have hzero : w.remaining = 0 := eq_of_beq h
  unfold ahead
  rw [hzero]
  exact requests_zero w.size.pos _

/-- The next piece is as long as what is left and the size allow. -/
theorem toNat_of_some (h : w.nextChunk? = some chunk) :
    0 < w.remaining.toNat ∧ chunk.toNat = min w.size.size.toNat w.remaining.toNat := by
  unfold nextChunk? at h
  split at h
  · cases h
  · rename_i hne
    refine ⟨Nat.pos_of_ne_zero fun hzero => hne (UInt32.toNat_inj.1 hzero), ?_⟩
    cases h
    split
    · rename_i hle
      exact (Nat.min_eq_right (UInt32.le_iff_toNat_le.1 hle)).symm
    · rename_i hlt
      exact (Nat.min_eq_left (Nat.le_of_not_le fun hle => hlt (UInt32.le_iff_toNat_le.2 hle))).symm

/-- It is not empty and fits a frame. -/
theorem inside_of_some (h : w.nextChunk? = some chunk) :
    1 ≤ chunk.toNat ∧ chunk.toNat ≤ Frame.maxPayload := by
  obtain ⟨hpos, hchunk⟩ := toNat_of_some h
  have hsize := w.size.pos
  have hfits := w.size.fits
  omega

theorem le_remaining_of_some (h : w.nextChunk? = some chunk) : chunk ≤ w.remaining := by
  rw [UInt32.le_iff_toNat_le, (toNat_of_some h).2]
  exact Nat.min_le_right ..

/-- The next piece is asked for, and then the rest. -/
theorem ahead_of_some (h : w.nextChunk? = some chunk) :
    w.ahead = { size := chunk, offset := w.offset } :: (w.advance chunk).2.ahead := by
  obtain ⟨hpos, hchunk⟩ := toNat_of_some h
  have hle := le_remaining_of_some h
  unfold ahead
  rw [requests_of_pos w.size.pos hpos, ← hchunk, UInt32.ofNat_toNat, UInt32.ofNat_toNat,
    size_advance, w.offset_advance hle, w.remaining_advance hle,
    UInt32.toNat_sub_of_le _ _ hle]
  refine List.cons_eq_cons.2 ⟨rfl, requests_of_ofNat_eq ?_ _⟩
  rw [UInt32.ofNat_add, UInt32.ofNat_toNat, UInt32.ofNat_toNat, UInt32.ofNat_toNat]

/-- What a step takes off the rest was transferred. -/
theorem transferred_advance (h : chunk ≤ w.remaining) :
    (w.advance chunk).2.transferred.toNat = w.transferred.toNat + chunk.toNat := by
  have hall := w.remaining_le
  have hchunk := UInt32.le_iff_toNat_le.1 h
  rw [toNat_transferred, toNat_transferred, toNat_remaining_advance,
    show (w.advance chunk).2.total = w.total from rfl]
  omega

end

-- ============================================================ the tiling

/-- Requests that follow one another from one byte of the device to
another, without a gap and without an overlap. -/
def Tiles : Nat → Nat → List ReadRequest → Prop
  | start, stop, [] => start = stop
  | start, stop, r :: rest =>
    r.offset.toNat = start ∧ 0 < r.size.toNat ∧ Tiles (start + r.size.toNat) stop rest

namespace Tiles

variable {start middle stop : Nat} {tiles more front : List ReadRequest}

theorem append (h : Tiles start middle tiles) (h' : Tiles middle stop more) :
    Tiles start stop (tiles ++ more) := by
  induction tiles generalizing start with
  | nil =>
      cases h
      exact h'
  | cons r rest ih =>
      obtain ⟨hoffset, hpos, hrest⟩ := h
      exact ⟨hoffset, hpos, ih hrest⟩

theorem le (h : Tiles start stop tiles) : start ≤ stop := by
  induction tiles generalizing start with
  | nil => exact Nat.le_of_eq h
  | cons r rest ih =>
      obtain ⟨-, -, hrest⟩ := h
      exact Nat.le_trans (Nat.le_add_right ..) (ih hrest)

/-- Each of them lies between the two bytes. -/
theorem inside (h : Tiles start stop tiles) {r : ReadRequest} (hr : r ∈ tiles) :
    start ≤ r.offset.toNat ∧ r.offset.toNat + r.size.toNat ≤ stop := by
  induction tiles generalizing start with
  | nil => cases hr
  | cons first rest ih =>
      obtain ⟨hoffset, -, hrest⟩ := h
      rcases List.mem_cons.1 hr with rfl | hr
      · rw [hoffset]
        exact ⟨Nat.le_refl _, hrest.le⟩
      · have hbehind := ih hrest hr
        omega

/-- None of them is empty. -/
theorem pos (h : Tiles start stop tiles) {r : ReadRequest} (hr : r ∈ tiles) :
    0 < r.size.toNat := by
  induction tiles generalizing start with
  | nil => cases hr
  | cons first rest ih =>
      obtain ⟨-, hpos, hrest⟩ := h
      rcases List.mem_cons.1 hr with rfl | hr
      · exact hpos
      · exact ih hrest hr

/-- Between a byte and itself there is none. -/
theorem eq_nil (h : Tiles start start tiles) : tiles = [] := by
  cases tiles with
  | nil => rfl
  | cons r rest =>
      obtain ⟨-, hpos, hrest⟩ := h
      have := hrest.le
      omega

/-- A front of requests that lie end to end does so too. -/
theorem of_prefix (h : Tiles start stop tiles) (hfront : front <+: tiles) :
    ∃ middle, middle ≤ stop ∧ Tiles start middle front := by
  obtain ⟨rest, rfl⟩ := hfront
  induction front generalizing start with
  | nil => exact ⟨start, h.le, rfl⟩
  | cons r more ih =>
      obtain ⟨hoffset, hpos, hrest⟩ := h
      obtain ⟨middle, hmiddle, hmore⟩ := ih hrest
      exact ⟨middle, hmiddle, hoffset, hpos, hmore⟩

end Tiles

/-- What a window asks for lies end to end. -/
theorem tiles_requests (hsize : 0 < size) (hfits : size < UInt32.size) {offset remaining : Nat}
    (hin : offset + remaining ≤ UInt32.size) :
    Tiles offset (offset + remaining) (requests size offset remaining) := by
  by_cases hzero : remaining = 0
  · subst hzero
    rw [requests_zero hsize]
    exact rfl
  · have hpos : 0 < remaining := Nat.pos_of_ne_zero hzero
    have hoffset : (UInt32.ofNat offset).toNat = offset := UInt32.toNat_ofNat_of_lt' (by omega)
    have hpiece : (UInt32.ofNat (min size remaining)).toNat = min size remaining :=
      toNat_ofNat_of_le (Nat.min_le_left ..) hfits
    have hmin := Nat.min_le_right size remaining
    have hsplit : offset + remaining
        = offset + min size remaining + (remaining - min size remaining) := by
      omega
    have hrest := tiles_requests hsize hfits (hsplit ▸ hin)
    rw [← hsplit] at hrest
    rw [requests_of_pos hsize hpos]
    refine ⟨hoffset, ?_, ?_⟩
    · rw [hpiece]
      omega
    · rw [hpiece]
      exact hrest
  termination_by remaining
  decreasing_by omega

end Window

end FlashLink
