/-
Window accounting: how a transfer is cut into pieces that fit a frame.

A window knows where on the device the next piece begins, how much is
left, and the largest piece one request may carry. `nextChunk?` is the
size of the next piece, `advance` accounts for one that was
transferred. Offsets are 32-bit and wrap; the bytes left never exceed
the total, which the type records, so taking a piece off never borrows.

`advance` also answers the percentage to report: the integer part of
what is done, and only when it differs from the one reported last.

A window size is checked once, when it is made; from then on the type
says that it is positive and fits the length field of a frame.
-/
import FlashLink.Frame

namespace FlashLink

-- ==================================================== the size of a piece

/-- The largest piece of a transfer: at least one byte, at most what a
frame can carry. -/
structure WindowSize where
  size : UInt32
  pos : 0 < size.toNat
  fits : size.toNat ≤ Frame.maxPayload

/-- Checks a window size. -/
def WindowSize.check (size : UInt32) : Except ParamFailure WindowSize :=
  if h : 0 < size.toNat ∧ size.toNat ≤ Frame.maxPayload then .ok ⟨size, h.1, h.2⟩
  else .error (.invalidWindow size.toNat)

-- ========================================================= the window

/-- Where a transfer stands. -/
structure Window where
  /-- Device offset of the next piece. -/
  offset : UInt32
  /-- Bytes still to transfer. -/
  remaining : UInt32
  /-- Largest piece per request. -/
  size : WindowSize
  /-- Bytes of the whole transfer. -/
  total : UInt32
  /-- The percentage reported last. -/
  reported : Nat
  remaining_le : remaining.toNat ≤ total.toNat

namespace Window

/-- The window of `total` bytes from device offset `offset` on. -/
def start (offset total : UInt32) (size : WindowSize) : Window :=
  { offset, remaining := total, size, total, reported := 0, remaining_le := Nat.le_refl _ }

/-- As `start`, with the size still to be checked. -/
def make (offset total size : UInt32) : Except ParamFailure Window :=
  (WindowSize.check size).map (start offset total)

/-- Bytes transferred so far. -/
def transferred (w : Window) : UInt32 := w.total - w.remaining

/-- Whether nothing is left. -/
def isDone (w : Window) : Bool := w.remaining == 0

/-- The integer percentage transferred; all of an empty transfer. -/
def percent (w : Window) : Nat :=
  if w.total = 0 then 100 else w.transferred.toNat * 100 / w.total.toNat

/-- The number of requests the whole transfer takes. -/
def chunkCount (w : Window) : Nat :=
  (w.total.toNat + w.size.size.toNat - 1) / w.size.size.toNat

/-- The size of the next piece, if anything is left. -/
def nextChunk? (w : Window) : Option UInt32 :=
  if w.remaining = 0 then none
  else some (if w.remaining ≤ w.size.size then w.remaining else w.size.size)

/-- What is left after a piece of `chunk` bytes; a piece longer than
the rest takes the rest. -/
def take (w : Window) (chunk : UInt32) : Window :=
  let used := if chunk ≤ w.remaining then chunk else w.remaining
  { w with
    offset := w.offset + used
    remaining := w.remaining - used
    remaining_le := by
      have h : used ≤ w.remaining := by
        show (if chunk ≤ w.remaining then chunk else w.remaining) ≤ w.remaining
        split
        · assumption
        · exact UInt32.le_refl _
      rw [UInt32.toNat_sub_of_le _ _ h]
      have := w.remaining_le
      omega }

/-- Accounts for a piece, and answers the percentage to report. -/
def advance (w : Window) (chunk : UInt32) : Option Nat × Window :=
  let next := w.take chunk
  (if next.percent = w.reported then none else some next.percent,
    { next with reported := next.percent })

/-- What is left after taking the next piece is less than before. -/
theorem remaining_advance_lt {w : Window} {chunk : UInt32} (h : w.nextChunk? = some chunk) :
    (w.advance chunk).2.remaining.toNat < w.remaining.toNat := by
  have hrem : (w.advance chunk).2.remaining
      = w.remaining - (if chunk ≤ w.remaining then chunk else w.remaining) := rfl
  have hpos : 0 < w.remaining.toNat ∧ 0 < chunk.toNat := by
    unfold nextChunk? at h
    split at h
    · cases h
    · rename_i hne
      have hr : 0 < w.remaining.toNat :=
        Nat.pos_of_ne_zero fun e => hne (UInt32.toNat_inj.1 e)
      refine ⟨hr, ?_⟩
      cases h
      split
      · exact hr
      · exact w.size.pos
  rw [hrem]
  split
  · rename_i hle
    rw [UInt32.toNat_sub_of_le _ _ hle]
    omega
  · rw [UInt32.toNat_sub_of_le _ _ (UInt32.le_refl _)]
    omega

-- ============================================================ draining

/-- A window on its way to the end, with the pieces taken and the
percentages reported since. -/
structure Drain where
  window : Window
  chunks : Nat
  reports : Array Nat

/-- Takes piece after piece until nothing is left. -/
def Drain.run (d : Drain) : Drain :=
  match _h : d.window.nextChunk? with
  | none => d
  | some chunk =>
    let step := d.window.advance chunk
    Drain.run
      { window := step.2
        chunks := d.chunks + 1
        reports := match step.1 with
          | some percent => d.reports.push percent
          | none => d.reports }
  termination_by d.window.remaining.toNat
  decreasing_by exact remaining_advance_lt ‹_›

/-- Takes every piece of a window. -/
def drain (w : Window) : Drain := Drain.run { window := w, chunks := 0, reports := #[] }

end Window

end FlashLink
