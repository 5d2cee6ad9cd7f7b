/-
Byte stuffing: how a delimited message is written so that the delimiter
occurs nowhere inside it.

Between its two ends a message may hold any byte. On the wire 7E inside
it is written 7D 5E and 7D is written 7D 5D; the delimiters at the two
ends pass through as they are. `stuff` writes, `unstuff` reads.

Reading knows nothing of positions and accepts what writing never
makes: 7D before any other byte is dropped together with that byte, and
a 7D that nothing follows is dropped alone. A buffer that ends in 7D
may be cut inside a pair; `endsMidEscape` says so, and a receiver reads
on before it unstuffs.

`unstuff` keeps its answer reversed while it walks; the lemmas after it
give the equations one would expect of the direct recursion, and
everything later cites those.
-/
import FlashLink.Word

namespace FlashLink.Stuffing

/-- Begins and ends every message. -/
def delimiter : UInt8 := 0x7E

/-- Announces a stuffed byte. -/
def escape : UInt8 := 0x7D

/-- Follows the escape in place of a delimiter. -/
def escapedDelimiter : UInt8 := 0x5E

/-- Follows the escape in place of an escape. -/
def escapedEscape : UInt8 := 0x5D

-- ============================================================ writing

/-- A byte at either end of a message: only the escape is written as a
pair there. -/
def stuffEnd (b : UInt8) : Bytes :=
  if b == escape then [escape, escapedEscape] else [b]

/-- A byte strictly inside a message. -/
def stuffInner (b : UInt8) : Bytes :=
  if b == delimiter then [escape, escapedDelimiter] else stuffEnd b

/-- The wire form of a message. -/
def stuff : Bytes → Bytes
  | [] => []
  | [b] => stuffEnd b
  | first :: second :: rest =>
    let tail := second :: rest
    stuffEnd first ++ tail.dropLast.flatMap stuffInner
      ++ stuffEnd (tail.getLast (List.cons_ne_nil second rest))

-- ============================================================ reading

/-- What a pair beginning with the escape stands for. -/
def unescape (b : UInt8) : Option UInt8 :=
  if b == escapedDelimiter then some delimiter
  else if b == escapedEscape then some escape
  else none

/-- `unstuff` with the bytes read so far, newest first. -/
def unstuffOnto (read : Bytes) : Bytes → Bytes
  | [] => read.reverse
  | [b] => if b == escape then read.reverse else (b :: read).reverse
  | b :: c :: rest =>
    if b == escape then
      match unescape c with
      | some plain => unstuffOnto (plain :: read) rest
      | none => unstuffOnto read rest
    else unstuffOnto (b :: read) (c :: rest)

/-- The message of a wire form. -/
def unstuff (wire : Bytes) : Bytes := unstuffOnto [] wire

/-- Whether a buffer ends in a byte that may be the first half of a
pair. -/
def endsMidEscape (wire : Bytes) : Bool := wire.getLast? == some escape

-- =========================================== the equations of reading

theorem unstuffOnto_eq (read wire : Bytes) :
    unstuffOnto read wire = read.reverse ++ unstuff wire := by
  suffices h : ∀ (n : Nat) (wire : Bytes), wire.length ≤ n → ∀ read,
      unstuffOnto read wire = read.reverse ++ unstuffOnto [] wire from
    h wire.length wire (Nat.le_refl _) read
  intro n
  induction n with
  | zero =>
    intro wire hlen read
    have : wire = [] := List.eq_nil_of_length_eq_zero (Nat.le_zero.1 hlen)
    subst this
    simp [unstuffOnto]
  | succ n ih =>
    intro wire hlen read
    match wire, hlen with
    | [], _ => simp [unstuffOnto]
    | [b], _ =>
      simp only [unstuffOnto]
      split <;> simp
    | b :: c :: rest, hlen =>
      simp only [List.length_cons] at hlen
      simp only [unstuffOnto]
      split
      · split
        · rename_i plain _
          rw [ih rest (by omega) (plain :: read), ih rest (by omega) [plain]]
          simp
        · exact ih rest (by omega) read
      · rw [ih (c :: rest) (by simp only [List.length_cons]; omega) (b :: read),
          ih (c :: rest) (by simp only [List.length_cons]; omega) [b]]
        simp

@[simp] theorem unstuff_nil : unstuff [] = [] := rfl

/-- A byte other than the escape stands for itself. -/
theorem unstuff_cons_of_ne {b : UInt8} (h : b ≠ escape) (wire : Bytes) :
    unstuff (b :: wire) = b :: unstuff wire := by
  match wire with
  | [] => simp [unstuff, unstuffOnto, h]
  | c :: rest =>
    have : unstuff (b :: c :: rest) = unstuffOnto [b] (c :: rest) := by
      simp [unstuff, unstuffOnto, h]
    rw [this, unstuffOnto_eq]
    rfl

/-- An escape that nothing follows is dropped. -/
@[simp] theorem unstuff_escape : unstuff [escape] = [] := rfl

/-- An escape and the byte after it are read as a pair, and dropped if
they are none. -/
theorem unstuff_escape_cons (c : UInt8) (rest : Bytes) :
    unstuff (escape :: c :: rest) = (unescape c).toList ++ unstuff rest := by
  have : unstuff (escape :: c :: rest)
      = match unescape c with
        | some plain => unstuffOnto [plain] rest
        | none => unstuffOnto [] rest := rfl
  rw [this]
  split
  · rename_i plain h
    rw [unstuffOnto_eq, h]
    rfl
  · rename_i h
    rw [h]
    rfl

end FlashLink.Stuffing
