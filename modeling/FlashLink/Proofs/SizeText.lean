/-
Which texts are sizes, and of how many bytes.

A size is written as digits with at most one unit letter behind them. It
denotes what the digits count, place by place, times the unit
(`Denotes`).

The reader goes through a 64-bit word, which can overflow at any digit
and again at the unit. Where it does so the number is too large for any
word, since a digit string is worth no less than any front of it
(`valueFrom?_eq`), and a unit makes it no smaller (`bind_word?_mul`). So
no overflow goes unnoticed and none is noticed too early: the reader
accepts the grammar under one condition on unbounded numbers
(`parse_grammar`).
-/
import FlashLink.SizeText
import Mathlib.Data.List.Basic
import Mathlib.Data.Nat.Digits.Defs

namespace FlashLink.SizeText

-- ========================================================== the grammar

/-- What may stand behind the digits of a size, and how many bytes they
count with it. -/
inductive Suffix : List Char → Nat → Prop where
  | bytes : Suffix [] 1
  | kilo {c : Char} (letter : c = 'k' ∨ c = 'K') : Suffix [c] 1024
  | mega {c : Char} (letter : c = 'm' ∨ c = 'M') : Suffix [c] 1048576

/-- What a digit string counts: its last digit ones, and every other ten
times as much as the one behind it. -/
def number (digits : List Char) : Nat :=
  Nat.ofDigits 10 (digits.reverse.map fun c => c.toNat - '0'.toNat)

/-- A text that is written as a size, and the bytes that it denotes. -/
inductive Denotes (text : String) : Nat → Prop where
  | intro {digits rest : List Char} {unit : Nat} (spelled : text.toList = digits ++ rest)
      (nonempty : digits ≠ []) (ascii : ∀ c ∈ digits, '0' ≤ c ∧ c ≤ '9')
      (suffix : Suffix rest unit) : Denotes text (number digits * unit)

theorem number_cons (c : Char) (digits : List Char) :
    number (c :: digits) = (c.toNat - '0'.toNat) * 10 ^ digits.length + number digits := by
  unfold number
  rw [List.reverse_cons, List.map_append, Nat.ofDigits_append, List.map_singleton,
    Nat.ofDigits_singleton, List.length_map, List.length_reverse, Nat.add_comm, Nat.mul_comm]

theorem Suffix.pos {rest : List Char} {unit : Nat} (h : Suffix rest unit) : 0 < unit := by
  cases h <;> decide

-- ============================================================ splitting

theorem isDigit_iff (c : Char) : c.isDigit = true ↔ '0' ≤ c ∧ c ≤ '9' := by
  unfold Char.isDigit
  rw [Bool.and_eq_true, decide_eq_true_iff, decide_eq_true_iff]
  exact Iff.rfl

/-- A digit is no unit letter. -/
theorem unit?_of_digit {c : Char} (h : '0' ≤ c ∧ c ≤ '9') : unit? c = none := by
  unfold unit?
  split
  · exact absurd h (by decide)
  · exact absurd h (by decide)
  · exact absurd h (by decide)
  · exact absurd h (by decide)
  · rfl

/-- Nothing is lost by splitting, and what is split off is a suffix. -/
theorem split_spelled (cs : List Char) :
    ∃ rest, cs = (split cs).1 ++ rest ∧ Suffix rest (split cs).2 := by
  unfold split
  split
  · rename_i hlast
    exact ⟨[], by rw [List.getLast?_eq_none_iff.1 hlast, List.append_nil], .bytes⟩
  · rename_i last hlast
    split
    · rename_i unit hunit
      refine ⟨[last], (List.dropLast_append_getLast? last hlast).symm, ?_⟩
      unfold unit? at hunit
      split at hunit
      · cases hunit
        exact .kilo (.inl rfl)
      · cases hunit
        exact .kilo (.inr rfl)
      · cases hunit
        exact .mega (.inl rfl)
      · cases hunit
        exact .mega (.inr rfl)
      · cases hunit
    · exact ⟨[], (List.append_nil cs).symm, .bytes⟩

/-- Digits and a suffix are split where they meet. -/
theorem split_append {digits rest : List Char} {unit : Nat}
    (hdigits : ∀ c ∈ digits, '0' ≤ c ∧ c ≤ '9') (h : Suffix rest unit) :
    split (digits ++ rest) = (digits, unit) := by
  unfold split
  cases h with
  | bytes =>
      rw [List.append_nil]
      split
      · rename_i hlast
        rw [List.getLast?_eq_none_iff.1 hlast]
      · rename_i last hlast
        rw [unit?_of_digit (hdigits last (List.mem_of_getLast? hlast))]
  | kilo letter =>
      rw [List.getLast?_concat, List.dropLast_concat]
      rcases letter with rfl | rfl <;> rfl
  | mega letter =>
      rw [List.getLast?_concat, List.dropLast_concat]
      rcases letter with rfl | rfl <;> rfl

-- ============================================================== words

theorem word?_of_lt {n : Nat} (h : n < UInt64.size) : word? n = some (UInt64.ofNat n) := if_pos h

theorem word?_of_le {n : Nat} (h : UInt64.size ≤ n) : word? n = none := if_neg (Nat.not_lt.2 h)

/-- Digits are read as the number that they count, together with what
stands before them, as far as a word holds it. -/
theorem valueFrom?_eq (value : UInt64) (digits : List Char) :
    valueFrom? value digits = word? (value.toNat * 10 ^ digits.length + number digits) := by
  induction digits generalizing value with
  | nil =>
      show some value = word? (value.toNat * 1 + 0)
      rw [Nat.mul_one, Nat.add_zero, word?_of_lt value.toNat_lt, UInt64.ofNat_toNat]
  | cons c digits ih =>
      show (word? (10 * value.toNat + (c.toNat - '0'.toNat))).bind (valueFrom? · digits) = _
      have hplaces : value.toNat * 10 ^ (c :: digits).length + number (c :: digits)
          = (10 * value.toNat + (c.toNat - '0'.toNat)) * 10 ^ digits.length + number digits := by
        rw [number_cons, List.length_cons, Nat.pow_succ]
        ring
      rw [hplaces]
      generalize 10 * value.toNat + (c.toNat - '0'.toNat) = front
      by_cases hfront : front < UInt64.size
      · rw [word?_of_lt hfront, Option.bind_some, ih, UInt64.toNat_ofNat_of_lt' hfront]
      · -- more digits do not make up for the overflow
        have hmore : front ≤ front * 10 ^ digits.length :=
          Nat.le_mul_of_pos_right front (Nat.pow_pos (by decide))
        rw [word?_of_le (Nat.le_of_not_lt hfront), word?_of_le (by omega)]
        rfl

/-- A unit applied to a word overflows where the number does. -/
theorem bind_word?_mul (n : Nat) {unit : Nat} (hunit : 0 < unit) :
    ((word? n).bind fun value => word? (value.toNat * unit)) = word? (n * unit) := by
  by_cases hn : n < UInt64.size
  · rw [word?_of_lt hn, Option.bind_some, UInt64.toNat_ofNat_of_lt' hn]
  · have hmore : n ≤ n * unit := Nat.le_mul_of_pos_right n hunit
    rw [word?_of_le (Nat.le_of_not_lt hn), word?_of_le (by omega)]
    rfl

-- ============================================================ reading

/-- A word is zero, and goes into a field, as the number that it holds. -/
theorem ofNat_eq {n : Nat} (h : n < UInt64.size) :
    (UInt64.ofNat n).toNat = n ∧ (UInt64.ofNat n = 0 ↔ n = 0)
      ∧ (UInt64.ofNat n).toUInt32 = UInt32.ofNat n := by
  have hword := UInt64.toNat_ofNat_of_lt' h
  refine ⟨hword, ?_, ?_⟩
  · rw [← UInt64.toNat_inj, hword]
    exact Iff.rfl
  · apply UInt32.toNat_inj.1
    rw [UInt64.toNat_toUInt32, hword, UInt32.toNat_ofNat']

/-- A text that denotes bytes is judged by their number alone. -/
theorem parse_of_denotes {text : String} {bytes : Nat} (h : Denotes text bytes) :
    parse text = if bytes = 0 ∨ UInt32.size ≤ bytes then .error (.invalidSize text)
      else .ok (UInt32.ofNat bytes) := by
  obtain ⟨hspelled, hne, hdigits, hsuffix⟩ := h
  rename_i digits rest unit
  have hcheck : (digits.isEmpty || !digits.all Char.isDigit) = false := by
    rw [List.isEmpty_eq_false_iff.2 hne, List.all_eq_true.2 fun c hc =>
      (isDigit_iff c).2 (hdigits c hc)]
    rfl
  unfold parse
  rw [hspelled, split_append hdigits hsuffix]
  dsimp only
  rw [hcheck, if_neg Bool.false_ne_true, valueFrom?_eq, show (0 : UInt64).toNat = 0 from rfl,
    Nat.zero_mul, Nat.zero_add, bind_word?_mul _ hsuffix.pos]
  generalize number digits * unit = bytes
  by_cases hword : bytes < UInt64.size
  · obtain ⟨hnat, hzero, hfield⟩ := ofNat_eq hword
    rw [word?_of_lt hword]
    dsimp only
    simp only [hnat, hzero, hfield]
  · have hsizes : UInt32.size ≤ UInt64.size := by decide
    rw [word?_of_le (Nat.le_of_not_lt hword), if_pos (.inr (by omega))]

/-- Only texts in the grammar are read. -/
theorem denotes_of_parse {text : String} {n : UInt32} (h : parse text = .ok n) :
    ∃ bytes, Denotes text bytes := by
  obtain ⟨rest, hspelled, hsuffix⟩ := split_spelled text.toList
  unfold parse at h
  dsimp only at h
  split at h
  · cases h
  · rename_i hcheck
    rw [Bool.or_eq_true, not_or, Bool.not_eq_true, Bool.not_eq_true, Bool.not_eq_false',
      List.isEmpty_eq_false_iff, List.all_eq_true] at hcheck
    exact ⟨_, hspelled, hcheck.1, fun c hc => (isDigit_iff c).1 (hcheck.2 c hc), hsuffix⟩

/-- A text that is not read is blamed for it. -/
theorem parse_cases (text : String) :
    (∃ n, parse text = .ok n) ∨ parse text = .error (.invalidSize text) := by
  unfold parse
  dsimp only
  split
  · exact .inr rfl
  · split
    · exact .inr rfl
    · split
      · exact .inr rfl
      · exact .inl ⟨_, rfl⟩

/-- A text is read as a size if it denotes at least one byte and no more
than a 32-bit field holds, and then as what it denotes. Every other text
is refused by name. -/
theorem parse_grammar (text : String) :
    (∀ n, parse text = .ok n
        ↔ ∃ bytes, Denotes text bytes ∧ 1 ≤ bytes ∧ bytes ≤ 2 ^ 32 - 1 ∧ n.toNat = bytes)
      ∧ (parse text = .error (.invalidSize text)
        ↔ ¬ ∃ bytes, Denotes text bytes ∧ 1 ≤ bytes ∧ bytes ≤ 2 ^ 32 - 1) := by
  have hsize : UInt32.size = 2 ^ 32 := rfl
  have hread {bytes : Nat} (h : Denotes text bytes) (hpos : 1 ≤ bytes)
      (hfits : bytes ≤ 2 ^ 32 - 1) : parse text = .ok (UInt32.ofNat bytes) := by
    rw [parse_of_denotes h, if_neg (by omega)]
  have hspoken {n : UInt32} (h : parse text = .ok n) :
      Denotes text n.toNat ∧ 1 ≤ n.toNat ∧ n.toNat ≤ 2 ^ 32 - 1 := by
    obtain ⟨bytes, hdenotes⟩ := denotes_of_parse h
    rw [parse_of_denotes hdenotes] at h
    split at h
    · cases h
    · rename_i hin
      cases h
      rw [UInt32.toNat_ofNat_of_lt' (by omega)]
      exact ⟨hdenotes, by omega, by omega⟩
  refine ⟨fun n => ⟨fun h => ?_, ?_⟩, ?_, fun h => ?_⟩
  · obtain ⟨hdenotes, hpos, hfits⟩ := hspoken h
    exact ⟨_, hdenotes, hpos, hfits, rfl⟩
  · rintro ⟨bytes, hdenotes, hpos, hfits, rfl⟩
    rw [hread hdenotes hpos hfits, UInt32.ofNat_toNat]
  · rintro hrefused ⟨bytes, hdenotes, hpos, hfits⟩
    rw [hread hdenotes hpos hfits] at hrefused
    cases hrefused
  · rcases parse_cases text with ⟨n, hn⟩ | hrefused
    · exact absurd ⟨_, hspoken hn⟩ h
    · exact hrefused

end FlashLink.SizeText
