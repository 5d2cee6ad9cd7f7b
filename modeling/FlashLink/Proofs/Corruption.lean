/-
What a damaged frame is taken for.

Between the delimiters of a frame stands what its checksum covers and
then the checksum, and bytes in that place are in order when they are
such a message again (`Checked`). One byte exchanged for another never
leaves them in order, wherever it stands (`not_checked_set`): in the
covered part it makes another checksum, in either mode, and in the
checksum it makes that another. The cyclic check does the same for two
neighbours (`not_checked_set_pair`); since it leaves nothing behind a
message and its check, it need not be known on which side of the border
the two stand.

A receiver judges bytes from both ends: what is refused is refused for
its delimiters if one of them is gone, and for its checksum otherwise,
even where the length field is the one that was hit
(`damage_detected`).
-/
import FlashLink.Proofs.Crc
import FlashLink.Proofs.Frame
import FlashLink.Proofs.OnesSum

namespace FlashLink

open Stuffing (delimiter)

-- ======================================================= one byte, two

namespace ChecksumMode

/-- Another byte anywhere makes another checksum. -/
theorem checksum_set_ne (mode : ChecksumMode) {bytes : Bytes} (hlen : bytes.length ≤ 131074)
    {i : Nat} (hi : i < bytes.length) {b : UInt8} (hb : b ≠ bytes[i]) :
    mode.checksum (bytes.set i b) ≠ mode.checksum bytes := by
  have hsplit : bytes = bytes.take i ++ bytes[i] :: bytes.drop (i + 1) := by
    rw [← List.drop_eq_getElem_cons hi, List.take_append_drop]
  have hset : bytes.set i b = bytes.take i ++ b :: bytes.drop (i + 1) :=
    List.set_eq_take_append_cons_drop.trans (if_pos hi)
  have hne : mode.checksum (bytes.take i ++ b :: bytes.drop (i + 1))
      ≠ mode.checksum (bytes.take i ++ bytes[i] :: bytes.drop (i + 1)) := by
    cases mode with
    | crc => exact Crc.crc16_byte_ne _ _ hb
    | sum =>
        apply OnesSum.onesSum_ne _ _ hb
        rw [← hsplit]
        exact hlen
  rwa [← hset, ← hsplit] at hne

end ChecksumMode

namespace Frame

/-- A message with its own checksum behind it. -/
def Checked (mode : ChecksumMode) (middle : Bytes) : Prop :=
  ∃ covered, middle = covered ++ Word.be16 (mode.checksum covered)

/-- The cyclic check leaves nothing behind such a message. -/
theorem Checked.residue {middle : Bytes} (h : Checked .crc middle) : Crc.crc16 0 middle = 0 := by
  obtain ⟨covered, rfl⟩ := h
  exact Crc.crc16_append_be16_eq_zero.2 rfl

/-- One byte exchanged is noticed, in the message or in the checksum. -/
theorem not_checked_set {mode : ChecksumMode} {middle : Bytes} (h : Checked mode middle)
    (hlen : middle.length ≤ 131074) {i : Nat} (hi : i < middle.length) {b : UInt8}
    (hb : b ≠ middle[i]) : ¬ Checked mode (middle.set i b) := by
  obtain ⟨covered, rfl⟩ := h
  rintro ⟨covered', hagain⟩
  have hsame : covered.length = covered'.length := by
    have := congrArg List.length hagain
    simpa using this
  rw [List.length_append, Word.length_be16] at hlen hi
  by_cases hin : i < covered.length
  · rw [List.set_append_left _ _ hin] at hagain
    obtain ⟨rfl, hsum⟩ := List.append_inj hagain (by simpa using hsame)
    rw [List.getElem_append_left hin] at hb
    exact mode.checksum_set_ne (by omega) hin hb (Word.be16_injective hsum).symm
  · rw [List.set_append_right _ _ (by omega)] at hagain
    obtain ⟨rfl, hsum⟩ := List.append_inj hagain hsame
    rw [List.getElem_append_right (by omega)] at hb
    have hfield : i - covered.length < (Word.be16 (mode.checksum covered)).length := by
      rw [Word.length_be16]
      omega
    have hhit := List.getElem_of_eq hsum (i := i - covered.length) (by rwa [List.length_set])
    rw [List.getElem_set_self] at hhit
    exact hb hhit

/-- Of two neighbours either is noticed by the cyclic check, wherever the
message ends. -/
theorem not_checked_set_pair {middle : Bytes} (h : Checked .crc middle) {i : Nat}
    (hi : i + 1 < middle.length) {x y : UInt8} (hxy : x ≠ middle[i] ∨ y ≠ middle[i + 1]) :
    ¬ Checked .crc ((middle.set i x).set (i + 1) y) := by
  intro hagain
  have hsplit : middle = middle.take i ++ middle[i] :: middle[i + 1] :: middle.drop (i + 2) := by
    rw [← List.drop_eq_getElem_cons hi, ← List.drop_eq_getElem_cons (Nat.lt_of_succ_lt hi),
      List.take_append_drop]
  have hfirst : (middle.take i).length = i := by
    rw [List.length_take]
    omega
  have hset : (middle.set i x).set (i + 1) y
      = middle.take i ++ x :: y :: middle.drop (i + 2) := by
    conv => lhs; rw [hsplit]
    rw [List.set_append_right _ _ (by omega), List.set_append_right _ _ (by omega), hfirst,
      Nat.sub_self, Nat.add_sub_cancel_left]
    rfl
  apply Crc.crc16_pair_ne (middle.take i) (middle.drop (i + 2)) hxy
  rw [← hset, ← hsplit, hagain.residue, h.residue]

-- =========================================================== the verdict

/-- Bytes that no receiver takes for a frame, and why not. -/
def Refused (raw : Bytes) (mode : ChecksumMode) (cause : FrameFailure) : Prop :=
  verify raw mode = .error cause ∧ parse raw mode = .error cause

/-- Bytes refused for their checksum, which is told beside the one that
they should have. -/
def Mismatched (raw : Bytes) (mode : ChecksumMode) : Prop :=
  ∃ covered received, raw = framed covered received
    ∧ Refused raw mode (.checksumMismatch received (mode.checksum covered))

theorem refused_of_verify {raw : Bytes} {mode : ChecksumMode} {cause : FrameFailure}
    (h : verify raw mode = .error cause) : Refused raw mode cause := by
  refine ⟨h, ?_⟩
  unfold parse
  rw [h]

/-- A delimiter that is gone is noticed first. -/
theorem refused_of_undelimited {raw : Bytes} (hlen : overhead ≤ raw.length) (mode : ChecksumMode)
    (h : raw.head? ≠ some delimiter ∨ raw.getLast? ≠ some delimiter) :
    Refused raw mode .badDelimiter := by
  apply refused_of_verify
  unfold overhead at hlen
  have hlen3 : (raw.drop (raw.length - 3)).length = 3 := by
    rw [List.length_drop]
    omega
  obtain ⟨hi, lo, last, hback⟩ : ∃ hi lo last, raw.drop (raw.length - 3) = [hi, lo, last] := by
    match raw.drop (raw.length - 3), hlen3 with
    | [hi, lo, last], _ => exact ⟨hi, lo, last, rfl⟩
  have hlast : raw.getLast? = some last := by
    rw [← List.take_append_drop (raw.length - 3) raw, hback, List.getLast?_append]
    rfl
  unfold verify
  rw [if_neg (by unfold overhead; omega), hback]
  dsimp only
  rw [if_pos]
  rcases h with hhead | htail
  · exact .inl hhead
  · rw [hlast] at htail
    exact .inr fun heq => htail (congrArg some heq)

/-- Between delimiters, what is out of order is refused for its
checksum. -/
theorem mismatched_of_not_checked {middle : Bytes} {mode : ChecksumMode}
    (hlen : 6 ≤ middle.length) (h : ¬ Checked mode middle) :
    Mismatched (delimiter :: (middle ++ [delimiter])) mode := by
  have hlong : 2 ≤ middle.length := by omega
  obtain ⟨covered, received, rfl⟩ := Word.exists_append_be16 hlong
  rw [List.length_append, Word.length_be16] at hlen
  have hne : received ≠ mode.checksum covered := by
    rintro rfl
    exact h ⟨covered, rfl⟩
  refine ⟨covered, received, rfl, refused_of_verify ?_⟩
  show verify (framed covered received) mode = _
  rw [verify_framed (by omega), if_neg hne]

-- ============================================================ the damage

/-- What stands between the delimiters of a frame that was built. -/
theorem exists_checked_of_build {kind : UInt8} {payload : Bytes} {mode : ChecksumMode} {f : Frame}
    (h : build kind payload mode = .ok f) :
    ∃ middle, f.toBytes = delimiter :: (middle ++ [delimiter]) ∧ Checked mode middle
      ∧ 6 ≤ middle.length ∧ middle.length ≤ 65541 := by
  unfold build at h
  split at h
  · cases h
  · rename_i hfits
    cases h
    unfold maxPayload at hfits
    refine ⟨body kind payload ++ Word.be16 (mode.checksum (body kind payload)), rfl, ⟨_, rfl⟩,
      ?_, ?_⟩
    · rw [List.length_append, length_body, Word.length_be16]
      omega
    · rw [List.length_append, length_body, Word.length_be16]
      omega

theorem set_inside {middle : Bytes} {j : Nat} (hj : j < middle.length) (b : UInt8) :
    (delimiter :: (middle ++ [delimiter])).set (j + 1) b
      = delimiter :: (middle.set j b ++ [delimiter]) := by
  rw [List.set_cons_succ, List.set_append_left _ _ hj]

theorem getElem_inside {middle : Bytes} {j : Nat} (hj : j < middle.length)
    (h : j + 1 < (delimiter :: (middle ++ [delimiter])).length) :
    (delimiter :: (middle ++ [delimiter]))[j + 1] = middle[j] := by
  rw [List.getElem_cons_succ, List.getElem_append_left hj]

/-- The first byte and the last one must be delimiters. -/
theorem refused_set_border {middle : Bytes} (hlen : 6 ≤ middle.length) (mode : ChecksumMode)
    {i : Nat} (hi : i < (delimiter :: (middle ++ [delimiter])).length)
    (hborder : i = 0 ∨ i = middle.length + 1) {b : UInt8}
    (hb : b ≠ (delimiter :: (middle ++ [delimiter]))[i]) :
    Refused ((delimiter :: (middle ++ [delimiter])).set i b) mode .badDelimiter := by
  apply refused_of_undelimited
  · simp [overhead]
    omega
  · rcases hborder with rfl | rfl
    · left
      intro hhead
      exact hb (Option.some.inj hhead)
    · right
      rw [List.set_cons_succ, List.set_append_right _ _ (Nat.le_refl _), Nat.sub_self]
      intro hlast
      apply hb
      simpa [List.getLast?_cons] using hlast

/-- No frame survives another byte in one of its places, nor under the
cyclic check two bytes between its delimiters of which one is another. -/
theorem damage_detected {kind : UInt8} {payload : Bytes} {mode : ChecksumMode} {f : Frame}
    (hbuild : build kind payload mode = .ok f) :
    (∀ (i : Nat) (hi : i < f.toBytes.length) (b : UInt8), b ≠ f.toBytes[i] →
      (i = 0 ∨ i + 1 = f.toBytes.length → Refused (f.toBytes.set i b) mode .badDelimiter)
      ∧ (0 < i → i + 1 < f.toBytes.length → Mismatched (f.toBytes.set i b) mode))
    ∧ (mode = .crc → ∀ (i : Nat) (hi : i + 2 < f.toBytes.length) (x y : UInt8), 0 < i →
      x ≠ f.toBytes[i] ∨ y ≠ f.toBytes[i + 1] →
      Mismatched ((f.toBytes.set i x).set (i + 1) y) mode) := by
  obtain ⟨middle, hbytes, hchecked, hshort, hlong⟩ := exists_checked_of_build hbuild
  simp only [hbytes]
  have hall : (delimiter :: (middle ++ [delimiter])).length = middle.length + 2 := by simp
  constructor
  · intro i hi b hb
    constructor
    · intro hborder
      apply refused_set_border hshort mode hi _ hb
      rcases hborder with hfirst | hlast
      · exact .inl hfirst
      · right
        omega
    · intro hpos hlast
      obtain ⟨j, rfl⟩ : ∃ j, i = j + 1 := Nat.exists_eq_succ_of_ne_zero (by omega)
      have hj : j < middle.length := by omega
      rw [getElem_inside hj] at hb
      rw [set_inside hj]
      apply mismatched_of_not_checked
      · rwa [List.length_set]
      · exact not_checked_set hchecked (by omega) hj hb
  · rintro rfl i hi x y hpos hxy
    obtain ⟨j, rfl⟩ : ∃ j, i = j + 1 := Nat.exists_eq_succ_of_ne_zero (by omega)
    have hj : j + 1 < middle.length := by omega
    rw [getElem_inside (Nat.lt_of_succ_lt hj), getElem_inside hj] at hxy
    rw [set_inside (Nat.lt_of_succ_lt hj), set_inside (by rwa [List.length_set])]
    apply mismatched_of_not_checked
    · rwa [List.length_set, List.length_set]
    · exact not_checked_set_pair hchecked hj hxy

/-- A frame of each mode: an opening delimiter, a length byte and a reserved
byte are hit, and the last byte of a payload with the first of its check. -/
theorem damage_detected_everywhere :
    ∃ f g, build 0x02 [0x01, 0x02, 0x03] .crc = .ok f ∧ build 0x02 [0x01, 0x02, 0x03] .sum = .ok g
      ∧ Refused (f.toBytes.set 0 0x7D) .crc .badDelimiter
      ∧ Mismatched (f.toBytes.set 4 0x02) .crc
      ∧ Mismatched (g.toBytes.set 1 0xFF) .sum
      ∧ Mismatched ((f.toBytes.set 7 0x00).set 8 0x00) .crc := by
  have hfits : ([0x01, 0x02, 0x03] : Bytes).length ≤ maxPayload := by decide
  have hcrc := build_of_le hfits 0x02 .crc
  have hsum := build_of_le hfits 0x02 .sum
  refine ⟨_, _, hcrc, hsum, ?_, ?_, ?_, ?_⟩
  · exact ((damage_detected hcrc).1 0 (by decide) 0x7D (by decide)).1 (.inl rfl)
  · exact ((damage_detected hcrc).1 4 (by decide) 0x02 (by decide)).2 (by decide) (by decide)
  · exact ((damage_detected hsum).1 1 (by decide) 0xFF (by decide)).2 (by decide) (by decide)
  · exact (damage_detected hcrc).2 rfl 7 (by decide) 0x00 0x00 (by decide) (.inl (by decide))

end Frame

end FlashLink
