/-
The one's-complement checksum in numbers.

The accumulator is a fold over the words of a byte list (`wordsOf`,
`addWords_eq`), which add up to a number (`words`). While that fits the
accumulator nothing is lost on the way (`toNat_accumulate`), and it fits
for up to 131074 bytes, twice what a frame can carry: so many bytes 0xFF
fill the accumulator to the brim. Folding keeps the number modulo 65535 and
tells zero from the other multiples of it (`toNat_foldCarries`), and is
over after two rounds (`foldCarries_rounds`). So the checksum is the
complement of the sum counted from one to 65535 (`toNat_onesSum`), and of
the words only their sum counts, not their order and none that is zero
(`onesSum_complements`).

Where a byte stands decides what it counts: 256 times its value in the
high half of a word, once in the low half (`words_append_cons`). Either
way another byte moves the sum by less than 65535, and the checksum
differs (`onesSum_ne`).
-/
import FlashLink.Checksum.OnesSum
import FlashLink.Proofs.Frame
import Mathlib.Algebra.Ring.Nat

namespace FlashLink.OnesSum

-- ============================================================ the words

/-- The sum of the words of a byte list. -/
def words : Bytes → Nat
  | [] => 0
  | [hi] => 256 * hi.toNat
  | hi :: lo :: rest => 256 * hi.toNat + lo.toNat + words rest

/-- Every word counts at most 65535, and so does half a word. -/
theorem words_le (bytes : Bytes) : words bytes ≤ 65535 * ((bytes.length + 1) / 2) := by
  induction bytes using words.induct with
  | case1 => simp [words]
  | case2 hi =>
      have hhi := hi.toNat_lt
      simp only [words, List.length_cons, List.length_nil]
      omega
  | case3 hi lo rest ih =>
      have hhi := hi.toNat_lt
      have hlo := lo.toNat_lt
      simp only [words, List.length_cons]
      omega

/-- The words of a byte list, a last single byte being the high half of
one. -/
def wordsOf : Bytes → List UInt16
  | [] => []
  | [hi] => [Word.ofBytes16 hi 0]
  | hi :: lo :: rest => Word.ofBytes16 hi lo :: wordsOf rest

/-- What some words add up to. -/
def total (ws : List UInt16) : Nat := (ws.map UInt16.toNat).sum

theorem total_wordsOf (bytes : Bytes) : total (wordsOf bytes) = words bytes := by
  induction bytes using wordsOf.induct with
  | case1 => rfl
  | case2 hi => simp [wordsOf, total, words, Word.toNat_ofBytes16]
  | case3 hi lo rest ih =>
      unfold total at ih ⊢
      simp only [wordsOf, words, List.map_cons, List.sum_cons, ih, Word.toNat_ofBytes16]

/-- An accumulator plus some words. -/
def accumulate (sum : UInt32) (ws : List UInt16) : UInt32 :=
  ws.foldl (fun sum word => sum + word.toUInt32) sum

theorem addWords_eq (sum : UInt32) (bytes : Bytes) :
    addWords sum bytes = accumulate sum (wordsOf bytes) := by
  induction sum, bytes using addWords.induct with
  | case1 sum => rfl
  | case2 sum hi => rfl
  | case3 sum hi lo rest ih => exact ih

/-- The accumulator adds up the words, while they fit. -/
theorem toNat_accumulate {sum : UInt32} {ws : List UInt16}
    (h : sum.toNat + total ws < 2 ^ 32) :
    (accumulate sum ws).toNat = sum.toNat + total ws := by
  induction ws generalizing sum with
  | nil => rfl
  | cons word rest ih =>
      have htotal : total (word :: rest) = word.toNat + total rest := rfl
      rw [htotal] at h ⊢
      have hsum : (sum + word.toUInt32).toNat = sum.toNat + word.toNat := by
        rw [UInt32.toNat_add, UInt16.toNat_toUInt32]
        exact Nat.mod_eq_of_lt (by omega)
      have hrest : (accumulate (sum + word.toUInt32) rest).toNat = _ := ih (by omega)
      show (accumulate (sum + word.toUInt32) rest).toNat = _
      omega

theorem toNat_addWords {bytes : Bytes} (h : words bytes < 2 ^ 32) :
    (addWords 0 bytes).toNat = words bytes := by
  have hzero : (0 : UInt32).toNat = 0 := rfl
  rw [addWords_eq, toNat_accumulate, total_wordsOf, hzero, Nat.zero_add]
  rw [total_wordsOf, hzero, Nat.zero_add]
  exact h

/-- The words of as many bytes as the accumulator has room for. -/
theorem words_lt {bytes : Bytes} (h : bytes.length ≤ 131074) : words bytes < 2 ^ 32 := by
  have hwords := words_le bytes
  omega

-- ========================================================== the carries

/-- Folding leaves the sum, counted from one to 65535; of nothing it
leaves nothing. -/
theorem toNat_foldCarries (sum : UInt32) :
    (foldCarries sum).toNat = if sum.toNat = 0 then 0 else (sum.toNat - 1) % 65535 + 1 := by
  induction sum using foldCarries.induct with
  | case1 sum hlow =>
      rw [foldCarries, if_pos hlow, UInt32.toNat_toUInt16]
      split
      · omega
      · omega
  | case2 sum hcarries ih =>
      rw [foldCarries, if_neg hcarries, ih, toNat_fold]
      have hsum := sum.toNat_lt
      rw [if_neg (by omega), if_neg (by omega)]
      omega

/-- No carry is left after two rounds. -/
theorem foldCarries_rounds (sum : UInt32) :
    ∃ rounds, rounds ≤ 2 ∧ (Nat.repeat fold rounds sum).toNat < 65536
      ∧ foldCarries sum = (Nat.repeat fold rounds sum).toUInt16 := by
  by_cases hnone : sum.toNat < 65536
  · refine ⟨0, by omega, hnone, ?_⟩
    rw [foldCarries, if_pos hnone]
    rfl
  · by_cases hone : (fold sum).toNat < 65536
    · refine ⟨1, by omega, hone, ?_⟩
      rw [foldCarries, if_neg hnone, foldCarries, if_pos hone]
      rfl
    · -- one carry at most is left, and room for it
      have htwo : (fold (fold sum)).toNat < 65536 := by
        have hsum := sum.toNat_lt
        rw [toNat_fold, toNat_fold]
        rw [toNat_fold] at hone
        omega
      refine ⟨2, by omega, htwo, ?_⟩
      rw [foldCarries, if_neg hnone, foldCarries, if_neg hone, foldCarries, if_pos htwo]
      rfl

-- ========================================================== the checksum

/-- The checksum of a byte list whose words fit the accumulator. -/
theorem toNat_onesSum_of_lt {bytes : Bytes} (h : words bytes < 2 ^ 32) :
    (onesSum bytes).toNat
      = if words bytes = 0 then 65535 else 65535 - ((words bytes - 1) % 65535 + 1) := by
  unfold onesSum
  rw [UInt16.toNat_not, toNat_foldCarries, toNat_addWords h]
  split <;> rfl

theorem toNat_onesSum {bytes : Bytes} (h : bytes.length ≤ 131074) :
    (onesSum bytes).toNat
      = if words bytes = 0 then 65535 else 65535 - ((words bytes - 1) % 65535 + 1) :=
  toNat_onesSum_of_lt (words_lt h)

/-- Of the words only their sum counts. -/
theorem onesSum_eq_of_words {a b : Bytes} (h : words a < 2 ^ 32) (hsame : words b = words a) :
    onesSum b = onesSum a := by
  have hb : words b < 2 ^ 32 := hsame ▸ h
  apply UInt16.toNat_inj.1
  rw [toNat_onesSum_of_lt h, toNat_onesSum_of_lt hb, hsame]

theorem words_zeros (n : Nat) : words (List.replicate n 0) = 0 := by
  match n with
  | 0 => rfl
  | 1 => rfl
  | n + 2 =>
      show 256 * (0 : UInt8).toNat + (0 : UInt8).toNat + words (List.replicate n 0) = 0
      rw [words_zeros n]
      rfl

/-- Zeros at the end add nothing, and complete a last single byte to the
word it stood for. -/
theorem words_append_zeros (bytes : Bytes) (n : Nat) :
    words (bytes ++ List.replicate n 0) = words bytes := by
  induction bytes using words.induct with
  | case1 => exact words_zeros n
  | case2 hi =>
      cases n with
      | zero => rfl
      | succ n =>
          show 256 * hi.toNat + (0 : UInt8).toNat + words (List.replicate n 0) = _
          rw [words_zeros n]
          rfl
  | case3 hi lo rest ih =>
      simp only [List.cons_append, words, ih]

theorem words_full (n : Nat) : words (List.replicate (2 * n) 0xFF) = 65535 * n := by
  induction n with
  | zero => rfl
  | succ n ih =>
      show 256 * (0xFF : UInt8).toNat + (0xFF : UInt8).toNat
        + words (List.replicate (2 * n) 0xFF) = _
      rw [ih, show (0xFF : UInt8).toNat = 255 from rfl]
      omega

/-- How the checksum of some bytes comes about, and what it is. -/
structure Complements (bytes : Bytes) : Prop where
  /-- The words are added one after the other. -/
  accumulated : addWords 0 bytes = accumulate 0 (wordsOf bytes)
  /-- There is room for each of them. -/
  fits : ∀ front word rest, wordsOf bytes = front ++ word :: rest →
    (accumulate 0 front).toNat = total front ∧ total front + word.toNat < 2 ^ 32
  /-- A round of carries has room in any accumulator. -/
  folds : ∀ sum, (fold sum).toNat = sum.toNat % 65536 + sum.toNat / 65536
  /-- Two rounds are enough. -/
  ends : ∃ rounds, rounds ≤ 2 ∧ (Nat.repeat fold rounds (addWords 0 bytes)).toNat < 65536
    ∧ foldCarries (addWords 0 bytes) = (Nat.repeat fold rounds (addWords 0 bytes)).toUInt16
  /-- The complement of the sum, in which 65535 counts as nothing and is
  told from it. -/
  value : (onesSum bytes).toNat
    = if total (wordsOf bytes) = 0 then 0xFFFF
      else 0xFFFF - ((total (wordsOf bytes) - 1) % 65535 + 1)
  /-- The order of the words does not count. -/
  reordered : ∀ other, (wordsOf other).Perm (wordsOf bytes) → onesSum other = onesSum bytes
  /-- Nor do zeros behind them. -/
  padded : ∀ n, onesSum (bytes ++ List.replicate n 0) = onesSum bytes

/-- So the checksum comes about for 131074 bytes and fewer, which what it
covers of a frame always is. -/
theorem onesSum_complements :
    (∀ bytes : Bytes, bytes.length ≤ 131074 → Complements bytes)
      ∧ ∀ reserved kind payload, payload.length ≤ Frame.maxPayload →
        (Frame.bodyUnder reserved kind payload).length ≤ 131074 := by
  refine ⟨?_, ?_⟩
  · intro bytes hlen
    have hwords := words_lt hlen
    refine ⟨addWords_eq 0 bytes, ?_, toNat_fold, foldCarries_rounds _, ?_, ?_, ?_⟩
    · intro front word rest hsplit
      have htotal : total (wordsOf bytes) = total front + (word.toNat + total rest) := by
        unfold total
        rw [hsplit, List.map_append, List.sum_append, List.map_cons, List.sum_cons]
      rw [total_wordsOf] at htotal
      have hzero : (0 : UInt32).toNat = 0 := rfl
      have hroom : (0 : UInt32).toNat + total front < 2 ^ 32 := by omega
      refine ⟨?_, by omega⟩
      rw [toNat_accumulate hroom, hzero, Nat.zero_add]
    · rw [total_wordsOf]
      exact toNat_onesSum hlen
    · intro other hperm
      have hsame : words other = words bytes := by
        rw [← total_wordsOf, ← total_wordsOf]
        exact (hperm.map UInt16.toNat).sum_nat
      exact onesSum_eq_of_words hwords hsame
    · intro n
      exact onesSum_eq_of_words hwords (words_append_zeros bytes n)
  · intro reserved kind payload hpayload
    rw [Frame.length_bodyUnder]
    unfold Frame.maxPayload at hpayload
    omega

/-- As many bytes as fit, all of them 0xFF: the accumulator holds the
largest number it can, which is a multiple of 65535 and no zero. -/
theorem onesSum_complements_full :
    (List.replicate 131074 (0xFF : UInt8)).length ≤ 131074
      ∧ Complements (List.replicate 131074 0xFF)
      ∧ total (wordsOf (List.replicate 131074 0xFF)) = 2 ^ 32 - 1
      ∧ (onesSum (List.replicate 131074 0xFF)).toNat = 0 := by
  have hlen : (List.replicate 131074 (0xFF : UInt8)).length ≤ 131074 :=
    Nat.le_of_eq List.length_replicate
  have hfull : total (wordsOf (List.replicate 131074 0xFF)) = 2 ^ 32 - 1 := by
    rw [total_wordsOf]
    exact words_full 65537
  have hcomplements := onesSum_complements.1 _ hlen
  refine ⟨hlen, hcomplements, hfull, ?_⟩
  rw [hcomplements.value, hfull]
  decide

-- ============================================================= one byte

/-- What a byte counts behind so many others. -/
def weight (before : Nat) : Nat := if before % 2 = 0 then 256 else 1

theorem words_append_cons (a b : Bytes) (x : UInt8) :
    words (a ++ x :: b) = words (a ++ 0 :: b) + weight a.length * x.toNat := by
  induction a using words.induct with
  | case1 =>
      cases b with
      | nil => simp [words, weight]
      | cons lo rest =>
          simp [words, weight]
          omega
  | case2 hi =>
      simp [words, weight]
      omega
  | case3 hi lo rest ih =>
      have hweight : weight (hi :: lo :: rest).length = weight rest.length := by
        unfold weight
        rw [show (hi :: lo :: rest).length = rest.length + 2 from rfl, Nat.add_mod_right]
      rw [hweight]
      simp only [List.cons_append, words]
      omega

/-- No byte can be exchanged for another. -/
theorem onesSum_ne (a b : Bytes) {x x' : UInt8} (h : x' ≠ x)
    (hlen : (a ++ x :: b).length ≤ 131074) : onesSum (a ++ x' :: b) ≠ onesSum (a ++ x :: b) := by
  intro hsame
  have hne : x'.toNat ≠ x.toNat := fun heq => h (UInt8.toNat_inj.1 heq)
  have hx := x.toNat_lt
  have hx' := x'.toNat_lt
  have hlen' : (a ++ x' :: b).length ≤ 131074 := by
    simpa using hlen
  have hnat := congrArg UInt16.toNat hsame
  rw [toNat_onesSum hlen, toNat_onesSum hlen', words_append_cons a b x,
    words_append_cons a b x'] at hnat
  unfold weight at hnat
  split at hnat
  · split at hnat <;> split at hnat <;> omega
  · split at hnat <;> split at hnat <;> omega

end FlashLink.OnesSum
