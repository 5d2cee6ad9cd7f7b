/-
Bytes and the fixed-width words the wire carries.

Everything on the wire is a list of bytes. Frames carry big-endian
16-bit words (length, checksum); requests carry 32-bit words in either
byte order. This file is the one place where words are taken apart and
put together again, so that each layout elsewhere names an order and
nothing else.

The small lemmas at the end say that taking apart and putting together
are inverse, byte order by byte order: a byte is a word below 256, and
the shifted bytes of a word do not overlap.
-/

namespace FlashLink

/-- What the wire, a file or a partition holds. -/
abbrev Bytes := List UInt8

namespace Word

-- ================================================== sixteen-bit words

/-- The word with high byte `hi` and low byte `lo`. -/
def ofBytes16 (hi lo : UInt8) : UInt16 :=
  (hi.toUInt16 <<< 8) ||| lo.toUInt16

/-- The two bytes of a word, high byte first. -/
def be16 (w : UInt16) : Bytes :=
  [(w >>> 8).toUInt8, w.toUInt8]

/-- The two bytes of a word, low byte first. -/
def le16 (w : UInt16) : Bytes :=
  [w.toUInt8, (w >>> 8).toUInt8]

-- ================================================= thirty-two-bit words

/-- The word whose bytes are `a b c d`, most significant first. -/
def ofBytes32 (a b c d : UInt8) : UInt32 :=
  (a.toUInt32 <<< 24) ||| (b.toUInt32 <<< 16) ||| (c.toUInt32 <<< 8) ||| d.toUInt32

/-- The four bytes of a word, most significant first. -/
def be32 (w : UInt32) : Bytes :=
  [(w >>> 24).toUInt8, (w >>> 16).toUInt8, (w >>> 8).toUInt8, w.toUInt8]

/-- The four bytes of a word, least significant first. -/
def le32 (w : UInt32) : Bytes :=
  [w.toUInt8, (w >>> 8).toUInt8, (w >>> 16).toUInt8, (w >>> 24).toUInt8]

-- ============================================================= lengths

@[simp] theorem length_be16 (w : UInt16) : (be16 w).length = 2 := rfl
@[simp] theorem length_le16 (w : UInt16) : (le16 w).length = 2 := rfl
@[simp] theorem length_be32 (w : UInt32) : (be32 w).length = 4 := rfl
@[simp] theorem length_le32 (w : UInt32) : (le32 w).length = 4 := rfl

-- =========================================================== inverses

/-- The value of a word put together from two bytes. -/
theorem toNat_ofBytes16 (hi lo : UInt8) :
    (ofBytes16 hi lo).toNat = 256 * hi.toNat + lo.toNat := by
  have hh := hi.toNat_lt
  have hl := lo.toNat_lt
  simp only [ofBytes16, UInt16.toNat_or, UInt16.toNat_shiftLeft, UInt8.toNat_toUInt16]
  have e : (8 : UInt16).toNat % 16 = 8 := rfl
  rw [e, Nat.shiftLeft_eq, Nat.mod_eq_of_lt (by omega), Nat.mul_comm hi.toNat,
    ← Nat.two_pow_add_eq_or_of_lt (i := 8) (by omega)]

/-- A word is put together again from its two bytes. -/
@[simp] theorem ofBytes16_be16 (w : UInt16) :
    ofBytes16 (w >>> 8).toUInt8 w.toUInt8 = w := by
  have hw := w.toNat_lt
  apply UInt16.toNat_inj.1
  rw [toNat_ofBytes16]
  simp only [UInt16.toNat_toUInt8, UInt16.toNat_shiftRight]
  have e : (8 : UInt16).toNat % 16 = 8 := rfl
  rw [e, Nat.shiftRight_eq_div_pow]
  omega

/-- A word is taken apart into the two bytes it was put together
from. -/
@[simp] theorem be16_ofBytes16 (hi lo : UInt8) : be16 (ofBytes16 hi lo) = [hi, lo] := by
  have hh := hi.toNat_lt
  have hl := lo.toNat_lt
  have e : (8 : UInt16).toNat % 16 = 8 := rfl
  have hhi : (ofBytes16 hi lo >>> 8).toUInt8 = hi := by
    apply UInt8.toNat_inj.1
    rw [UInt16.toNat_toUInt8, UInt16.toNat_shiftRight, e, Nat.shiftRight_eq_div_pow,
      toNat_ofBytes16]
    omega
  have hlo : (ofBytes16 hi lo).toUInt8 = lo := by
    apply UInt8.toNat_inj.1
    rw [UInt16.toNat_toUInt8, toNat_ofBytes16]
    omega
  unfold be16
  rw [hhi, hlo]

/-- Two bytes are those of one word. -/
theorem be16_injective {v w : UInt16} (h : be16 v = be16 w) : v = w := by
  unfold be16 at h
  obtain ⟨hhi, hlo⟩ := List.cons_eq_cons.1 h
  rw [← ofBytes16_be16 v, ← ofBytes16_be16 w, hhi, (List.cons_eq_cons.1 hlo).1]

/-- Any two bytes are those of a word. -/
theorem exists_be16 {bytes : Bytes} (h : bytes.length = 2) : ∃ w, bytes = be16 w := by
  match bytes, h with
  | [hi, lo], _ => exact ⟨ofBytes16 hi lo, (be16_ofBytes16 hi lo).symm⟩

/-- Two bytes and more end in a word. -/
theorem exists_append_be16 {bytes : Bytes} (h : 2 ≤ bytes.length) :
    ∃ front w, bytes = front ++ be16 w := by
  obtain ⟨w, hback⟩ : ∃ w, bytes.drop (bytes.length - 2) = be16 w := by
    apply exists_be16
    rw [List.length_drop]
    omega
  refine ⟨bytes.take (bytes.length - 2), w, ?_⟩
  rw [← hback, List.take_append_drop]

/-- The value of a word put together from four bytes. -/
theorem toNat_ofBytes32 (a b c d : UInt8) :
    (ofBytes32 a b c d).toNat
      = 16777216 * a.toNat + 65536 * b.toNat + 256 * c.toNat + d.toNat := by
  have ha := a.toNat_lt
  have hb := b.toNat_lt
  have hc := c.toNat_lt
  have hd := d.toNat_lt
  simp only [ofBytes32, UInt32.toNat_or, UInt32.toNat_shiftLeft, UInt8.toNat_toUInt32]
  have e24 : (24 : UInt32).toNat % 32 = 24 := rfl
  have e16 : (16 : UInt32).toNat % 32 = 16 := rfl
  have e8 : (8 : UInt32).toNat % 32 = 8 := rfl
  rw [e24, e16, e8]
  simp only [Nat.shiftLeft_eq]
  rw [Nat.mod_eq_of_lt (a := a.toNat * 2 ^ 24) (by omega),
    Nat.mod_eq_of_lt (a := b.toNat * 2 ^ 16) (by omega),
    Nat.mod_eq_of_lt (a := c.toNat * 2 ^ 8) (by omega)]
  have h1 : a.toNat * 2 ^ 24 ||| b.toNat * 2 ^ 16
      = 2 ^ 24 * a.toNat + b.toNat * 2 ^ 16 := by
    rw [Nat.mul_comm a.toNat]
    exact (Nat.two_pow_add_eq_or_of_lt (by omega) _).symm
  have h2 : (2 ^ 24 * a.toNat + b.toNat * 2 ^ 16) ||| c.toNat * 2 ^ 8
      = 2 ^ 24 * a.toNat + b.toNat * 2 ^ 16 + c.toNat * 2 ^ 8 := by
    have e : 2 ^ 24 * a.toNat + b.toNat * 2 ^ 16 = 2 ^ 16 * (256 * a.toNat + b.toNat) := by
      omega
    rw [e]
    exact (Nat.two_pow_add_eq_or_of_lt (by omega) _).symm
  have h3 : (2 ^ 24 * a.toNat + b.toNat * 2 ^ 16 + c.toNat * 2 ^ 8) ||| d.toNat
      = 2 ^ 24 * a.toNat + b.toNat * 2 ^ 16 + c.toNat * 2 ^ 8 + d.toNat := by
    have e : 2 ^ 24 * a.toNat + b.toNat * 2 ^ 16 + c.toNat * 2 ^ 8
        = 2 ^ 8 * (65536 * a.toNat + 256 * b.toNat + c.toNat) := by
      omega
    rw [e]
    exact (Nat.two_pow_add_eq_or_of_lt (by omega) _).symm
  rw [h1, h2, h3]
  omega

/-- A word is put together again from its four bytes. -/
@[simp] theorem ofBytes32_be32 (w : UInt32) :
    ofBytes32 (w >>> 24).toUInt8 (w >>> 16).toUInt8 (w >>> 8).toUInt8 w.toUInt8 = w := by
  have hw := w.toNat_lt
  apply UInt32.toNat_inj.1
  rw [toNat_ofBytes32]
  simp only [UInt32.toNat_toUInt8, UInt32.toNat_shiftRight]
  have e24 : (24 : UInt32).toNat % 32 = 24 := rfl
  have e16 : (16 : UInt32).toNat % 32 = 16 := rfl
  have e8 : (8 : UInt32).toNat % 32 = 8 := rfl
  rw [e24, e16, e8]
  simp only [Nat.shiftRight_eq_div_pow]
  omega

end Word

end FlashLink
