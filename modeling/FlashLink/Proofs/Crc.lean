/-
The algebra of the cyclic check.

A step of the division is linear in exclusive or (`shift_xor`), and
because the generator ends in a one it loses nothing: the only register
that a step takes to zero is zero (`eq_zero_of_shift`). So registers
that differ still differ behind any bytes (`crc16_injective`), a check
may be continued where another left off (`crc16_append`), and messages of
one length that are laid over each other have their checks laid over each
other (`crc16_xor`).

Two bytes enter the register together, as the word they make
(`crc16_pair`). Hence two neighbouring bytes are told from any other two
behind everything that follows them (`crc16_pair_ne`), and a message
with its own check behind it leaves nothing in the register, which no
other check does (`crc16_append_be16_eq_zero`).
-/
import FlashLink.Checksum.Crc

namespace FlashLink.Crc

-- ======================================================= a single step

/-- The bit that a step shifts out. -/
def top (r : UInt16) : Bool := r.toBitVec.getLsbD 15

theorem top_xor (r s : UInt16) : top (r ^^^ s) = (top r ^^ top s) := by
  unfold top
  rw [UInt16.toBitVec_xor, BitVec.getLsbD_xor]

theorem and_top (r : UInt16) : r &&& 0x8000 = if top r then 0x8000 else 0 := by
  apply UInt16.toBitVec_inj.1
  have htwo : (0x8000 : UInt16).toBitVec = BitVec.twoPow 16 15 := rfl
  rw [UInt16.toBitVec_and, htwo, BitVec.and_twoPow]
  unfold top
  split <;> rfl

theorem shift_eq (r : UInt16) :
    shift r = (r <<< 1) ^^^ (if top r then generator else 0) := by
  unfold shift
  rw [and_top]
  cases top r <;> simp

/-- A step is linear. -/
theorem shift_xor (r s : UInt16) : shift (r ^^^ s) = shift r ^^^ shift s := by
  have hleft : (r ^^^ s) <<< 1 = (r <<< 1) ^^^ (s <<< 1) := by
    apply UInt16.toBitVec_inj.1
    simp [BitVec.shiftLeft_xor_distrib]
  have hout : (if top (r ^^^ s) then generator else 0)
      = (if top r then generator else 0) ^^^ (if top s then generator else 0) := by
    rw [top_xor]
    cases top r <;> cases top s <;> simp
  rw [shift_eq, shift_eq, shift_eq, hleft, hout]
  ac_rfl

theorem top_eq_false {r : UInt16} : top r = false ↔ r.toNat < 0x8000 := by
  have hr := r.toNat_lt
  have htop : top r = decide (r.toNat / 2 ^ 15 % 2 = 1) := Nat.testBit_eq_decide_div_mod_eq
  rw [htop, decide_eq_false_iff_not]
  omega

theorem toNat_shiftLeft_one (r : UInt16) : (r <<< 1).toNat = 2 * r.toNat % 65536 := by
  rw [UInt16.toNat_shiftLeft, show (1 : UInt16).toNat % 16 = 1 from rfl, Nat.shiftLeft_eq,
    Nat.mul_comm]

/-- A register without a top bit only moves up. -/
theorem toNat_shift {r : UInt16} (h : r.toNat < 0x8000) : (shift r).toNat = 2 * r.toNat := by
  rw [shift_eq, top_eq_false.2 h, if_neg Bool.false_ne_true, UInt16.xor_zero, toNat_shiftLeft_one]
  omega

/-- A step takes nothing but zero to zero: the generator ends in a one. -/
theorem eq_zero_of_shift {r : UInt16} (h : shift r = 0) : r = 0 := by
  cases htop : top r with
  | false =>
      have hlow := top_eq_false.1 htop
      have hzero := toNat_shift hlow
      rw [h, UInt16.toNat_zero] at hzero
      apply UInt16.toNat_inj.1
      rw [UInt16.toNat_zero]
      omega
  | true =>
      rw [shift_eq, htop, if_pos rfl, UInt16.xor_eq_zero_iff] at h
      have hodd := congrArg UInt16.toNat h
      rw [toNat_shiftLeft_one, show generator.toNat = 4129 from rfl] at hodd
      omega

theorem shift_injective {r s : UInt16} (h : shift r = shift s) : r = s := by
  rw [← UInt16.xor_eq_zero_iff]
  apply eq_zero_of_shift
  rw [shift_xor, h, UInt16.xor_self]

-- ============================================================= a byte

theorem shift8_xor (r s : UInt16) : shift8 (r ^^^ s) = shift8 r ^^^ shift8 s := by
  unfold shift8
  simp only [shift_xor]

theorem shift8_injective {r s : UInt16} (h : shift8 r = shift8 s) : r = s := by
  unfold shift8 at h
  iterate 8 replace h := shift_injective h
  exact h

theorem shift8_eq_zero {r : UInt16} : shift8 r = 0 ↔ r = 0 := by
  constructor
  · intro h
    exact shift8_injective (h.trans (show (0 : UInt16) = shift8 0 from rfl))
  · rintro rfl
    rfl

/-- Steps that shift nothing out only double a register. -/
theorem toNat_repeat_shift {n : Nat} {r : UInt16} (h : Nat.repeat (2 * ·) n r.toNat < 65536) :
    (Nat.repeat shift n r).toNat = Nat.repeat (2 * ·) n r.toNat := by
  induction n with
  | zero => rfl
  | succ n ih =>
      replace h : 2 * Nat.repeat (2 * ·) n r.toNat < 65536 := h
      have hbefore := ih (by omega)
      show (shift (Nat.repeat shift n r)).toNat = 2 * Nat.repeat (2 * ·) n r.toNat
      rw [toNat_shift (by omega), hbefore]

/-- A byte at the bottom arrives at the top. -/
theorem shift8_toUInt16 (b : UInt8) : shift8 b.toUInt16 = b.toUInt16 <<< 8 := by
  have hb := b.toNat_lt
  have hdoubled : Nat.repeat (2 * ·) 8 b.toUInt16.toNat = b.toNat * 256 := by
    rw [UInt8.toNat_toUInt16]
    show 2 * (2 * (2 * (2 * (2 * (2 * (2 * (2 * b.toNat))))))) = b.toNat * 256
    omega
  have hsmall : Nat.repeat (2 * ·) 8 b.toUInt16.toNat < 65536 := by
    rw [hdoubled]
    omega
  have hup : (shift8 b.toUInt16).toNat = _ := toNat_repeat_shift hsmall
  apply UInt16.toNat_inj.1
  rw [hup, hdoubled, UInt16.toNat_shiftLeft, show (8 : UInt16).toNat % 16 = 8 from rfl,
    Nat.shiftLeft_eq, UInt8.toNat_toUInt16, Nat.mod_eq_of_lt (by omega)]

/-- The two bytes of a word share no bit. -/
theorem ofBytes16_eq_xor (hi lo : UInt8) :
    Word.ofBytes16 hi lo = (hi.toUInt16 <<< 8) ^^^ lo.toUInt16 := by
  apply UInt16.toBitVec_inj.1
  unfold Word.ofBytes16
  rw [UInt16.toBitVec_or, UInt16.toBitVec_xor]
  apply BitVec.eq_of_getLsbD_eq
  intro i hi
  rw [BitVec.getLsbD_or, BitVec.getLsbD_xor]
  by_cases hlow : i < 8
  · simp [hlow]
  · have hlo : lo.toBitVec.getLsbD i = false := BitVec.getLsbD_of_ge _ _ (Nat.le_of_not_lt hlow)
    simp [hlo]

-- ============================================================ messages

/-- A check goes on where another left off. -/
theorem crc16_append (seed : UInt16) (a b : Bytes) :
    crc16 seed (a ++ b) = crc16 (crc16 seed a) b := List.foldl_append

/-- A byte enters linearly. -/
theorem step_xor (r s : UInt16) (x y : UInt8) :
    step (r ^^^ s) (x ^^^ y) = step r x ^^^ step s y := by
  have htop : (x ^^^ y).toUInt16 <<< 8 = (x.toUInt16 <<< 8) ^^^ (y.toUInt16 <<< 8) := by
    rw [UInt8.toUInt16_xor]
    apply UInt16.toBitVec_inj.1
    simp [BitVec.shiftLeft_xor_distrib]
  have hsides : (r ^^^ s) ^^^ ((x ^^^ y).toUInt16 <<< 8)
      = (r ^^^ (x.toUInt16 <<< 8)) ^^^ (s ^^^ (y.toUInt16 <<< 8)) := by
    rw [htop]
    ac_rfl
  unfold step
  rw [hsides, shift8_xor]

/-- The check is linear in register and message together. -/
theorem crc16_xor {a b : Bytes} (h : a.length = b.length) (s t : UInt16) :
    crc16 (s ^^^ t) (List.zipWith (· ^^^ ·) a b) = crc16 s a ^^^ crc16 t b := by
  induction a generalizing b s t with
  | nil =>
      obtain rfl := List.length_eq_zero_iff.1 h.symm
      rfl
  | cons x a ih =>
      match b, h with
      | y :: b, h =>
          have hrest := ih (Nat.succ.inj h) (step s x) (step t y)
          rw [List.zipWith_cons_cons, crc16_cons, crc16_cons, crc16_cons, step_xor, hrest]

/-- Registers that differ still differ behind the same bytes. -/
theorem crc16_injective {bytes : Bytes} {r s : UInt16} (h : crc16 r bytes = crc16 s bytes) :
    r = s := by
  induction bytes generalizing r s with
  | nil => exact h
  | cons b bytes ih =>
      have hstep : step r b = step s b := ih h
      exact (UInt16.xor_left_inj _).1 (shift8_injective hstep)

/-- Two bytes enter the register as one word. -/
theorem crc16_pair (seed : UInt16) (hi lo : UInt8) :
    crc16 seed [hi, lo] = shift8 (shift8 (seed ^^^ Word.ofBytes16 hi lo)) := by
  show shift8 (shift8 (seed ^^^ (hi.toUInt16 <<< 8)) ^^^ (lo.toUInt16 <<< 8)) = _
  rw [← shift8_toUInt16 lo, ← shift8_xor, ofBytes16_eq_xor, UInt16.xor_assoc]

/-- Of two neighbouring bytes neither can be exchanged, whatever stands
around them. -/
theorem crc16_pair_ne {seed : UInt16} (a b : Bytes) {x y x' y' : UInt8} (h : x' ≠ x ∨ y' ≠ y) :
    crc16 seed (a ++ x' :: y' :: b) ≠ crc16 seed (a ++ x :: y :: b) := by
  intro hsame
  have hsplit : ∀ p q : UInt8, crc16 seed (a ++ p :: q :: b)
      = crc16 (crc16 (crc16 seed a) [p, q]) b := by
    intro p q
    rw [← crc16_append, ← crc16_append]
    rfl
  rw [hsplit, hsplit] at hsame
  have hpair := crc16_injective hsame
  rw [crc16_pair, crc16_pair] at hpair
  have hword := (UInt16.xor_right_inj _).1 (shift8_injective (shift8_injective hpair))
  have hbytes := congrArg Word.be16 hword
  rw [Word.be16_ofBytes16, Word.be16_ofBytes16] at hbytes
  obtain ⟨rfl, hlast⟩ := List.cons_eq_cons.1 hbytes
  obtain ⟨rfl, -⟩ := List.cons_eq_cons.1 hlast
  rcases h with h | h <;> exact h rfl

/-- So neither can a single byte be, the last one included: a byte behind
it makes a pair. -/
theorem crc16_byte_ne {seed : UInt16} (a b : Bytes) {x x' : UInt8} (h : x' ≠ x) :
    crc16 seed (a ++ x' :: b) ≠ crc16 seed (a ++ x :: b) := by
  intro hsame
  obtain ⟨y, rest, hb⟩ : ∃ y rest, b ++ [0] = y :: rest := by
    cases b with
    | nil => exact ⟨0, [], rfl⟩
    | cons y rest => exact ⟨y, rest ++ [0], rfl⟩
  have hbehind := congrArg (fun r => crc16 r [0]) hsame
  simp only [← crc16_append, List.append_assoc, List.cons_append, hb] at hbehind
  exact crc16_pair_ne a rest (.inl h) hbehind

/-- Behind a message, its own check and no other leaves the register
empty. -/
theorem crc16_append_be16_eq_zero {seed : UInt16} {bytes : Bytes} {check : UInt16} :
    crc16 seed (bytes ++ Word.be16 check) = 0 ↔ check = crc16 seed bytes := by
  have hword : crc16 seed (bytes ++ Word.be16 check)
      = shift8 (shift8 (crc16 seed bytes ^^^ check)) := by
    rw [crc16_append]
    show crc16 _ [_, _] = _
    rw [crc16_pair, Word.ofBytes16_be16]
  rw [hword, shift8_eq_zero, shift8_eq_zero, UInt16.xor_eq_zero_iff]
  exact eq_comm

end FlashLink.Crc
