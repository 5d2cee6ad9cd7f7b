/-
How far a window's offset grows.

A window is made at any offset with any total; nothing compares their sum
with the address space. What is left always shrinks, and the offset moves
as far as bytes were transferred, but it moves around: a transfer that
reaches the end of the address space goes on at its first byte.

So that the offset only grows is a condition on where the transfer ends
(`grows_iff`), and that its requests do is one on where the last of them
begins (`ascends_iff`). A transfer may meet the second without the first:
one that ends exactly with the address space leaves its window at zero,
but asks for nothing there. Transfers that begin at zero meet both.

`Upload.readPieces_ahead` carries this to the wire: what a read asks for is
what lies ahead of its window, whether the window wraps or not.
-/
import FlashLink.Proofs.Draining
import FlashLink.Proofs.Dump

namespace FlashLink.Window

variable {w : Window}

/-- No piece takes a window back. -/
def Grows (w : Window) : Prop :=
  ∀ chunks more, (w.advances chunks).offset ≤ (w.advances (chunks ++ more)).offset

/-- Requests of a transfer from `start` on whose offsets only grow. -/
structure Ascends (start : UInt32) (requests : List ReadRequest) : Prop where
  rising : requests.Pairwise fun r s => r.offset < s.offset
  above : ∀ r ∈ requests, start ≤ r.offset

/-- What is left never grows. -/
theorem remaining_advances_le (w : Window) (chunks : List UInt32) :
    (w.advances chunks).remaining ≤ w.remaining := by
  rw [UInt32.le_iff_toNat_le, toNat_remaining_advances]
  exact Nat.sub_le ..

/-- The offset goes as far as there is something to transfer, around the
end of the address space. -/
theorem toNat_offset_advances (offset total : UInt32) (size : WindowSize) (chunks : List UInt32) :
    ((start offset total size).advances chunks).offset.toNat
      = (offset.toNat + min total.toNat (bytesOf chunks)) % 2 ^ 32 := by
  have hrest := toNat_remaining_advances (start offset total size) chunks
  have hmoved := toNat_transferred ((start offset total size).advances chunks)
  rw [total_advances] at hmoved
  replace hrest : _ = total.toNat - bytesOf chunks := hrest
  replace hmoved : _ = total.toNat - _ := hmoved
  rw [offset_eq, origin_advances, origin_start, UInt32.toNat_add,
    show ((start offset total size).advances chunks).transferred.toNat
      = min total.toNat (bytesOf chunks) by omega]

/-- The offset only grows exactly if the transfer ends before the end of
the address space. -/
theorem grows_iff (offset total : UInt32) (size : WindowSize) :
    (start offset total size).Grows ↔ offset.toNat + total.toNat < 2 ^ 32 := by
  constructor
  · -- all of it at once would take the window back
    intro hgrows
    have hall := UInt32.le_iff_toNat_le.1 (hgrows [] [total])
    have hbytes : bytesOf [total] = total.toNat := Nat.add_zero _
    rw [List.nil_append, toNat_offset_advances, toNat_offset_advances, hbytes, Nat.min_self,
      show bytesOf [] = 0 from rfl, Nat.min_zero, Nat.add_zero] at hall
    have hoffset := offset.toNat_lt
    have htotal := total.toNat_lt
    omega
  · intro hends chunks more
    rw [UInt32.le_iff_toNat_le, toNat_offset_advances, toNat_offset_advances, bytesOf_append]
    omega

/-- The requests of a window only ascend exactly if the last of them begins
inside the address space. -/
theorem ascends_iff (offset total : UInt32) (size : WindowSize) :
    Ascends offset (start offset total size).taken
      ↔ offset.toNat + ((start offset total size).chunkCount - 1) * size.size.toNat < 2 ^ 32 := by
  have hdrains := drains_start offset total size
  have hoffset := offset.toNat_lt
  have htotal := total.toNat_lt
  rw [← hdrains.length]
  generalize hlast : (start offset total size).taken.length - 1 = last
  constructor
  · intro hascends
    by_cases hnone : (start offset total size).taken.length = 0
    · rw [show last = 0 by omega, Nat.zero_mul]
      exact hoffset
    · -- the last request does not begin in front of the first byte
      have hin : last < (start offset total size).taken.length := by omega
      have habove := UInt32.le_iff_toNat_le.1 (hascends.above _ (List.getElem_mem hin))
      have hleft : last * size.size.toNat < total.toNat := (getElem_taken _ hin).2.2
      rw [hdrains.begins last hin] at habove
      omega
  · intro hends
    -- no request is past the last one
    have hbegins : ∀ i (hi : i < (start offset total size).taken.length),
        (start offset total size).taken[i].offset.toNat = offset.toNat + i * size.size.toNat := by
      intro i hi
      have hle : i * size.size.toNat ≤ last * size.size.toNat :=
        Nat.mul_le_mul_right _ (by omega)
      rw [hdrains.begins i hi]
      omega
    refine ⟨List.pairwise_iff_getElem.2 ?_, ?_⟩
    · intro i j hi hj hij
      have hlt := Nat.mul_lt_mul_of_pos_right hij size.pos
      rw [UInt32.lt_iff_toNat_lt, hbegins i hi, hbegins j hj]
      omega
    · intro r hr
      obtain ⟨i, hi, rfl⟩ := List.getElem_of_mem hr
      rw [UInt32.le_iff_toNat_le, hbegins i hi]
      exact Nat.le_add_right ..

/-- Of every window that is made what is left never grows, and its offset
moves around the address space as far as there is something to transfer. It
only grows exactly if the transfer ends in front of the end of the address
space, and what is asked for only ascends exactly if the last piece begins
there; and this is what a read of the window asks for, however it
ends. -/
theorem make_grows_iff (offset total size : UInt32) (hpos : 1 ≤ size.toNat)
    (hfits : size.toNat ≤ 65535) :
    ∃ w, make offset total size = .ok w
      ∧ (∀ chunks more,
          (w.advances (chunks ++ more)).remaining ≤ (w.advances chunks).remaining)
      ∧ (∀ chunks, (w.advances chunks).offset.toNat
          = (offset.toNat + min total.toNat (bytesOf chunks)) % 2 ^ 32)
      ∧ (w.Grows ↔ offset.toNat + total.toNat < 2 ^ 32)
      ∧ (Ascends offset w.taken ↔ offset.toNat + (w.chunkCount - 1) * size.toNat < 2 ^ 32)
      ∧ ∀ (σ : Type) [Peer σ] (u : Upload) (audience : Audience) (link : Link σ) (sink : Sink),
          Follows (fun buffers s => Link.Wrote link buffers s.2.link)
            (Upload.asks link.mode w.taken)
            (Upload.readRange audience (u, { link, window := w, sink })) := by
  refine ⟨start offset total ⟨size, hpos, hfits⟩, make_size offset total ⟨size, hpos, hfits⟩, ?_,
    toNat_offset_advances offset total _, grows_iff offset total _, ascends_iff offset total _, ?_⟩
  · intro chunks more
    rw [advances_append]
    exact remaining_advances_le _ more
  · intro σ _ u audience link sink
    have hasked := Upload.readPieces_ahead u.partition audience .none
      ⟨link, start offset total ⟨size, hpos, hfits⟩, sink⟩
    rw [taken_eq_ahead]
    unfold Upload.readRange
    dsimp only
    split
    · rename_i hread
      exact hasked.of_ok hread
    · rename_i hread
      exact hasked.of_error hread

/-- The last block of the address space: it is asked for where it is, and
behind it the window stands at zero. -/
theorem make_grows_iff_lastBlock :
    ∃ w, make 0xFFFFFE00 512 512 = .ok w ∧ Ascends 0xFFFFFE00 w.taken
      ∧ (w.advances [512]).offset.toNat = 0 ∧ ¬ w.Grows := by
  obtain ⟨w, hmade, -, hoffset, hgrows, hascends, -⟩ :=
    make_grows_iff 0xFFFFFE00 512 512 (by decide) (by decide)
  have hcount : w.chunkCount = 1 := by
    obtain ⟨window, rfl⟩ := eq_start_of_make hmade
    cases hmade
    rfl
  refine ⟨w, hmade, hascends.2 ?_, hoffset [512], fun h => ?_⟩
  · rw [hcount]
    decide
  · exact absurd (hgrows.1 h) (by decide)

/-- One block more, and it is asked for at zero. -/
theorem not_grows_pastEnd :
    ∃ w, make 0xFFFFFE00 1024 512 = .ok w ∧ (w.advances [512]).offset < w.offset
      ∧ w.taken = [{ size := 512, offset := 0xFFFFFE00 }, { size := 512, offset := 0 }]
      ∧ ¬ w.Grows ∧ ¬ Ascends 0xFFFFFE00 w.taken := by
  have hmade := make_size 0xFFFFFE00 1024 ⟨512, by decide, by decide⟩
  refine ⟨_, hmade, by decide, ?_, ?_, ?_⟩
  · rw [taken_eq_ahead]
    decide
  · rw [grows_iff]
    decide
  · rw [ascends_iff]
    decide

end FlashLink.Window
