/-
What the cyclic check leaves behind a message.

A message with its own check behind it leaves nothing in the register,
and bytes that leave nothing are such a message (`checked_crc_iff`). A
receiver passes what stands between two delimiters when it is such a
message (`verify_between`), so it need not take the check off: it is enough
that nothing is left behind the whole of it (`crc16_algebra`).

Since the check is linear, what damage leaves does not depend on the
message it falls on. Bits turned over in a message pass unnoticed exactly
when they leave nothing themselves (`checked_damaged_iff`).
-/
import FlashLink.Proofs.Corruption

namespace FlashLink

open Stuffing (delimiter Delimited)

namespace Frame

-- ========================================================== the residue

/-- What leaves nothing is a message with its own check behind it. -/
theorem checked_crc_iff {middle : Bytes} (hlen : 2 ≤ middle.length) :
    Checked .crc middle ↔ Crc.crc16 0 middle = 0 := by
  constructor
  · exact Checked.residue
  · intro hnothing
    obtain ⟨covered, check, rfl⟩ := Word.exists_append_be16 hlen
    rw [Crc.crc16_append_be16_eq_zero] at hnothing
    exact ⟨covered, by rw [hnothing]; rfl⟩

/-- Laid over a message with its check, damage is noticed unless it leaves
nothing itself. -/
theorem checked_damaged_iff {middle damage : Bytes} (h : Checked .crc middle)
    (hlen : middle.length = damage.length) :
    Checked .crc (List.zipWith (· ^^^ ·) middle damage) ↔ Crc.crc16 0 damage = 0 := by
  have htwo : 2 ≤ (List.zipWith (· ^^^ ·) middle damage).length := by
    obtain ⟨covered, rfl⟩ := h
    rw [List.length_zipWith, ← hlen, Nat.min_self, List.length_append, Word.length_be16]
    omega
  have hleft := Crc.crc16_xor hlen 0 0
  rw [h.residue, UInt16.xor_zero, UInt16.zero_xor] at hleft
  rw [checked_crc_iff htwo, hleft]

-- =========================================================== the verdict

/-- Between delimiters the checksum decides: what passes is a message with
its own behind it. -/
theorem verify_between {middle : Bytes} (hlen : 6 ≤ middle.length) (mode : ChecksumMode) :
    (∃ received, verify (delimiter :: (middle ++ [delimiter])) mode = .ok received)
      ↔ Checked mode middle := by
  constructor
  · rintro ⟨received, hpassed⟩
    obtain ⟨covered, hbytes, -, hown⟩ := eq_of_verify hpassed
    have hmiddle := List.append_cancel_right (List.cons_eq_cons.1 hbytes).2
    exact ⟨covered, by rw [hmiddle, hown]⟩
  · rintro ⟨covered, rfl⟩
    rw [List.length_append, Word.length_be16] at hlen
    refine ⟨mode.checksum covered, ?_⟩
    show verify (framed covered (mode.checksum covered)) mode = _
    rw [verify_framed (by omega), if_pos rfl]

/-- All bytes but the first and the last. -/
theorem extract_between (middle : Bytes) :
    (delimiter :: (middle ++ [delimiter])).extract 1
      ((delimiter :: (middle ++ [delimiter])).length - 1) = middle := by
  simp [List.extract_eq_take_drop]

end Frame

namespace Crc

/-- The check goes on where it left off, it is linear, and a message with its
own check behind it leaves nothing; so what stands between two delimiters
passes when it leaves nothing, and is refused for its checksum otherwise. -/
theorem crc16_algebra :
    (∀ (seed : UInt16) (a b : Bytes), crc16 seed (a ++ b) = crc16 (crc16 seed a) b)
      ∧ (∀ (s t : UInt16) (a b : Bytes), a.length = b.length →
        crc16 (s ^^^ t) (List.zipWith (· ^^^ ·) a b) = crc16 s a ^^^ crc16 t b)
      ∧ (∀ a : Bytes, crc16 0 (a ++ Word.be16 (crc16 0 a)) = 0)
      ∧ ∀ raw : Bytes, Delimited raw → 8 ≤ raw.length →
        ((∃ received, Frame.verify raw .crc = .ok received)
            ↔ crc16 0 (raw.extract 1 (raw.length - 1)) = 0)
          ∧ (crc16 0 (raw.extract 1 (raw.length - 1)) ≠ 0 → Frame.Mismatched raw .crc) := by
  refine ⟨crc16_append, fun s t a b hlen => crc16_xor hlen s t,
    fun a => crc16_append_be16_eq_zero.2 rfl, ?_⟩
  intro raw hdelimited hlen
  obtain ⟨middle, rfl⟩ := hdelimited.exists_between
  have hsix : 6 ≤ middle.length := by
    simp only [List.length_cons, List.length_append, List.length_nil] at hlen
    omega
  have hlong : 2 ≤ middle.length := by omega
  have hresidue := Frame.checked_crc_iff hlong
  rw [Frame.extract_between]
  constructor
  · exact (Frame.verify_between hsix .crc).trans hresidue
  · intro hleft
    exact Frame.mismatched_of_not_checked hsix (mt hresidue.1 hleft)

/-- Nine digits checked in two pieces, two bytes laid over two others, and
three bytes with their check. Behind a wrong length field bytes pass that
leave nothing; with one bit turned over they are refused. -/
theorem crc16_algebra_wrongLength :
    crc16 (crc16 0 [0x31, 0x32, 0x33, 0x34]) [0x35, 0x36, 0x37, 0x38, 0x39] = 0x31C3
      ∧ ([0x41, 0x42] : Bytes).length = ([0x7E, 0x7D] : Bytes).length
      ∧ crc16 0xE2F0 [0x3F, 0x3F] = crc16 0x1D0F [0x41, 0x42] ^^^ crc16 0xFFFF [0x7E, 0x7D]
      ∧ crc16 0 [0x41, 0x42, 0x43, 0x39, 0x94] = 0
      ∧ Delimited [0x7E, 0x00, 0x05, 0x00, 0x09, 0x7A, 0xD9, 0x7E]
      ∧ (∃ received, Frame.verify [0x7E, 0x00, 0x05, 0x00, 0x09, 0x7A, 0xD9, 0x7E] .crc
        = .ok received)
      ∧ Delimited [0x7E, 0x00, 0x05, 0x00, 0x09, 0x7A, 0xD8, 0x7E]
      ∧ Frame.Mismatched [0x7E, 0x00, 0x05, 0x00, 0x09, 0x7A, 0xD8, 0x7E] .crc := by
  obtain ⟨happend, hxor, hresidue, hverify⟩ := crc16_algebra
  have hdigits : crc16 0 [0x31, 0x32, 0x33, 0x34, 0x35, 0x36, 0x37, 0x38, 0x39] = 0x31C3 := by
    decide +kernel
  have hletters : crc16 0 [0x41, 0x42, 0x43] = 0x3994 := by decide +kernel
  have hpasses : Delimited [0x7E, 0x00, 0x05, 0x00, 0x09, 0x7A, 0xD9, 0x7E] :=
    ⟨by decide, rfl, rfl⟩
  have hturned : Delimited [0x7E, 0x00, 0x05, 0x00, 0x09, 0x7A, 0xD8, 0x7E] :=
    ⟨by decide, rfl, rfl⟩
  refine ⟨?_, rfl, ?_, ?_, hpasses, ?_, hturned, ?_⟩
  · rw [← hdigits]
    exact (happend 0 [0x31, 0x32, 0x33, 0x34] [0x35, 0x36, 0x37, 0x38, 0x39]).symm
  · exact hxor 0x1D0F 0xFFFF [0x41, 0x42] [0x7E, 0x7D] rfl
  · have hleft := hresidue [0x41, 0x42, 0x43]
    rw [hletters] at hleft
    exact hleft
  · exact (hverify _ hpasses (by decide)).1.2 (by decide +kernel)
  · exact (hverify _ hturned (by decide)).2 (by decide +kernel)

end Crc

end FlashLink
