/-
The laws of stuffing a receiver relies on.

Reading a wire piece by piece gives what reading it whole gives, as
long as no cut falls between an escape and the byte after it. A wire is
`Paired` when every escape in it begins a pair that stands for a byte;
what `stuff` writes is such a wire (`paired_stuff`). A paired wire may
be cut wherever the first piece does not end in an escape: both pieces
are paired again (`Paired.split`), their messages stand one after the
other (`Paired.unstuff_append`), and no piece but the empty one reads
as nothing (`Paired.unstuff_ne_nil`). So a receiver that waits out a
trailing escape loses no byte and never takes a message for complete
before its last byte came.

That two sides of a cut are read each on its own does not take a paired
wire, only one that is `Whole`: whatever its pairs stand for, the last of
them is complete. A wire that does not end in an escape is
(`Whole.of_endsMidEscape`), so a receiver that waits out a trailing escape
reads garbage, too, as it would have read it at once. It may wait in vain:
of escapes in a row every second one ends a pair, and behind an even
number of them a cut does no harm (`unstuff_composes`).

`unstuff_stuff` is the round trip: writing, then reading, gives back
every message, whatever stands at its ends.

Between two delimiters (`Delimited`) writing is onto as well. The wire of
such a message can be told by its look (`Stuffed`): there is no delimiter
inside, and behind every escape stands the second byte of a pair, which
is the same as being paired (`Followed.paired`). Whatever looks like that
is what is written of the message read from it (`stuff_bijective`).
-/
import FlashLink.Stuffing

namespace FlashLink.Stuffing

-- ======================================================= whole wires

/-- A wire that ends behind a pair or behind a byte outside of pairs,
whether the pairs stand for bytes or not. -/
inductive Whole : Bytes → Prop where
  | nil : Whole []
  | plain {b : UInt8} {wire : Bytes} (hb : b ≠ escape) (hw : Whole wire) : Whole (b :: wire)
  | pair (c : UInt8) {wire : Bytes} (hw : Whole wire) : Whole (escape :: c :: wire)

/-- What follows a whole wire is read on its own. -/
theorem Whole.unstuff_append {a : Bytes} (ha : Whole a) (b : Bytes) :
    unstuff (a ++ b) = unstuff a ++ unstuff b := by
  induction ha with
  | nil => rfl
  | plain hne _ ih =>
      rw [List.cons_append, unstuff_cons_of_ne hne, unstuff_cons_of_ne hne, ih]
      rfl
  | pair c _ ih =>
      rw [List.cons_append, List.cons_append, unstuff_escape_cons, unstuff_escape_cons, ih,
        List.append_assoc]

-- ====================================================== paired wires

/-- A wire in which every escape begins a pair that stands for a
byte. -/
inductive Paired : Bytes → Prop where
  | nil : Paired []
  | plain {b : UInt8} {wire : Bytes} (hb : b ≠ escape) (hw : Paired wire) : Paired (b :: wire)
  | pair {c p : UInt8} {wire : Bytes} (hc : unescape c = some p) (hw : Paired wire) :
      Paired (escape :: c :: wire)

theorem Paired.whole {wire : Bytes} (h : Paired wire) : Whole wire := by
  induction h with
  | nil => exact .nil
  | plain hne _ ih => exact .plain hne ih
  | pair _ _ ih => exact .pair _ ih

/-- The second byte of a pair is never an escape. -/
theorem ne_escape_of_unescape {c p : UInt8} (h : unescape c = some p) : c ≠ escape := by
  rintro rfl
  cases h

theorem Paired.append {a b : Bytes} (ha : Paired a) (hb : Paired b) : Paired (a ++ b) := by
  induction ha with
  | nil => exact hb
  | plain hne _ ih => exact .plain hne ih
  | pair hc _ ih => exact .pair hc ih

/-- What follows a paired wire is read on its own. -/
theorem Paired.unstuff_append {a : Bytes} (ha : Paired a) (b : Bytes) :
    unstuff (a ++ b) = unstuff a ++ unstuff b :=
  ha.whole.unstuff_append b

/-- Some byte of a paired wire is read, unless it is empty. -/
theorem Paired.unstuff_ne_nil {wire : Bytes} (h : Paired wire) (hne : wire ≠ []) :
    unstuff wire ≠ [] := by
  cases h with
  | nil => exact absurd rfl hne
  | plain hb _ =>
      rw [unstuff_cons_of_ne hb]
      exact List.cons_ne_nil _ _
  | pair hc _ =>
      rw [unstuff_escape_cons, hc]
      exact List.cons_ne_nil _ _

-- ============================================================= cutting

/-- A piece behind another decides how the two end, unless it is
empty. -/
theorem endsMidEscape_append (a : Bytes) {b : Bytes} (hb : b ≠ []) :
    endsMidEscape (a ++ b) = endsMidEscape b := by
  unfold endsMidEscape
  rw [List.getLast?_append, List.getLast?_eq_some_getLast hb]
  rfl

theorem endsMidEscape_cons {b : UInt8} (hb : b ≠ escape) (wire : Bytes) :
    endsMidEscape (b :: wire) = endsMidEscape wire := by
  match wire with
  | [] =>
      unfold endsMidEscape
      simpa using hb
  | c :: rest => exact endsMidEscape_append [b] (List.cons_ne_nil c rest)

theorem Paired.endsMidEscape {wire : Bytes} (h : Paired wire) : endsMidEscape wire = false := by
  induction h with
  | nil => rfl
  | plain hb _ ih => rw [endsMidEscape_cons hb, ih]
  | pair hc _ ih =>
      rw [← List.singleton_append,
        endsMidEscape_append _ (List.cons_ne_nil _ _),
        endsMidEscape_cons (ne_escape_of_unescape hc), ih]

/-- A paired wire cut anywhere but inside a pair is two paired
wires. -/
theorem Paired.split {a b : Bytes} (h : Paired (a ++ b))
    (ha : Stuffing.endsMidEscape a = false) : Paired a ∧ Paired b := by
  generalize hw : a ++ b = wire at h
  induction h generalizing a with
  | nil =>
      obtain ⟨rfl, rfl⟩ := List.append_eq_nil_iff.1 hw
      exact ⟨.nil, .nil⟩
  | @plain x tail hx htail ih =>
      match a with
      | [] =>
          subst hw
          exact ⟨.nil, .plain hx htail⟩
      | y :: a' =>
          obtain ⟨rfl, hw'⟩ := List.cons_eq_cons.1 hw
          rw [endsMidEscape_cons hx] at ha
          obtain ⟨h1, h2⟩ := ih ha hw'
          exact ⟨.plain hx h1, h2⟩
  | @pair c p tail hc htail ih =>
      match a with
      | [] =>
          subst hw
          exact ⟨.nil, .pair hc htail⟩
      | [y] =>
          -- the cut inside the pair, which `ha` rules out
          obtain ⟨rfl, -⟩ := List.cons_eq_cons.1 hw
          cases ha
      | y :: z :: a' =>
          obtain ⟨rfl, hw'⟩ := List.cons_eq_cons.1 hw
          obtain ⟨rfl, hw''⟩ := List.cons_eq_cons.1 hw'
          have ha' : Stuffing.endsMidEscape a' = false := by
            rw [← List.singleton_append, endsMidEscape_append _ (List.cons_ne_nil _ _),
              endsMidEscape_cons (ne_escape_of_unescape hc)] at ha
            exact ha
          obtain ⟨h1, h2⟩ := ih ha' hw''
          exact ⟨.pair hc h1, h2⟩

-- ============================================================ any wire

/-- A wire that does not end in an escape is whole. The other way around
this fails: the last byte may be the second one of a pair. -/
theorem Whole.of_endsMidEscape {wire : Bytes} (h : endsMidEscape wire = false) : Whole wire := by
  match wire with
  | [] => exact .nil
  | [x] =>
      refine .plain ?_ .nil
      rintro rfl
      cases h
  | x :: y :: rest =>
      by_cases hx : x = escape
      · -- a pair, well formed or not: the rest begins behind it
        subst hx
        have hrest : endsMidEscape rest = false := by
          by_cases hnil : rest = []
          · rw [hnil]
            rfl
          · exact (endsMidEscape_append [escape, y] hnil).symm.trans h
        exact .pair y (of_endsMidEscape hrest)
      · rw [endsMidEscape_cons hx] at h
        exact .plain hx (of_endsMidEscape h)

/-- Chunks that are whole are read one by one. -/
theorem unstuff_flatten {chunks : List Bytes} (h : ∀ chunk ∈ chunks, Whole chunk) :
    unstuff chunks.flatten = chunks.flatMap unstuff := by
  induction chunks with
  | nil => rfl
  | cons chunk rest ih =>
      have hrest := ih fun c hc => h c (List.mem_cons_of_mem _ hc)
      rw [List.flatten_cons, List.flatMap_cons, (h chunk List.mem_cons_self).unstuff_append, hrest]

/-- Escapes in a row make pairs of two. -/
theorem whole_replicate (n : Nat) : Whole (List.replicate (2 * n) escape) := by
  induction n with
  | zero => exact .nil
  | succ n ih => exact .pair escape ih

/-- Such pairs stand for nothing. -/
theorem unstuff_replicate (n : Nat) : unstuff (List.replicate (2 * n) escape) = [] := by
  induction n with
  | zero => rfl
  | succ n ih =>
      rw [show List.replicate (2 * (n + 1)) escape
          = escape :: escape :: List.replicate (2 * n) escape from rfl, unstuff_escape_cons, ih]
      rfl

/-- A wire that does not end in an escape is read apart from whatever
follows it, and so are chunks of which none does. A wire that does end in
escapes is read apart from everything that may follow it if their number
is even, and only then. -/
theorem unstuff_composes :
    (∀ a b, endsMidEscape a = false → unstuff (a ++ b) = unstuff a ++ unstuff b)
      ∧ (∀ chunks : List Bytes, (∀ chunk ∈ chunks, chunk.getLast? ≠ some escape) →
          chunks.flatMap unstuff = unstuff chunks.flatten)
      ∧ ∀ (front : Bytes) (k : Nat), front.getLast? ≠ some escape →
          ((∀ b, unstuff (front ++ List.replicate k escape ++ b)
              = unstuff (front ++ List.replicate k escape) ++ unstuff b)
            ↔ k % 2 = 0) := by
  have hends : ∀ {wire : Bytes}, wire.getLast? ≠ some escape → Whole wire := by
    intro wire h
    apply Whole.of_endsMidEscape
    unfold endsMidEscape
    simpa using h
  refine ⟨fun a b h => (Whole.of_endsMidEscape h).unstuff_append b, ?_, ?_⟩
  · intro chunks h
    exact (unstuff_flatten fun chunk hchunk => hends (h chunk hchunk)).symm
  · intro front k hfront
    have hwhole := hends hfront
    constructor
    · -- behind an odd number the last escape takes the next byte for its own
      intro hall
      rcases Nat.mod_two_eq_zero_or_one k with heven | hodd
      · exact heven
      · obtain ⟨n, rfl⟩ : ∃ n, k = 2 * n + 1 := ⟨k / 2, by omega⟩
        have hnext := hall [escapedDelimiter]
        rw [List.append_assoc, hwhole.unstuff_append, hwhole.unstuff_append, List.append_assoc,
          List.replicate_succ', List.append_assoc, (whole_replicate n).unstuff_append,
          (whole_replicate n).unstuff_append, unstuff_replicate] at hnext
        have hbytes := List.append_cancel_left hnext
        cases hbytes
    · intro heven b
      obtain ⟨n, rfl⟩ : ∃ n, k = 2 * n := ⟨k / 2, by omega⟩
      rw [List.append_assoc, hwhole.unstuff_append, hwhole.unstuff_append,
        (whole_replicate n).unstuff_append, List.append_assoc]

/-- A pair that stands for nothing in front of the cut, and the escapes of
a dropped pair behind it: there the cut does no harm either, one byte
earlier it does. -/
theorem unstuff_composes_droppedPair :
    endsMidEscape [0x41, 0x7D, 0x99] = false
      ∧ unstuff ([0x41, 0x7D, 0x99] ++ [0x5E]) = [0x41] ++ [0x5E]
      ∧ [[0x7E, 0x7D, 0x5E], [0x7D, 0x00], [0x41]].flatMap unstuff = [0x7E, 0x7E, 0x41]
      ∧ unstuff ([0x41] ++ [0x7D, 0x7D] ++ [0x5E]) = [0x41] ++ [0x5E]
      ∧ ¬ ∀ b, unstuff ([0x41] ++ [0x7D] ++ b) = unstuff ([0x41] ++ [0x7D]) ++ unstuff b := by
  obtain ⟨hcut, hchunks, hescapes⟩ := unstuff_composes
  refine ⟨rfl, hcut _ _ rfl, ?_, (hescapes [0x41] 2 (by decide)).2 rfl [0x5E], ?_⟩
  · rw [hchunks [[0x7E, 0x7D, 0x5E], [0x7D, 0x00], [0x41]] (by decide)]
    rfl
  · intro hall
    have heven := (hescapes [0x41] 1 (by decide)).1 hall
    cases heven

-- ======================================================= what is written

theorem paired_stuffEnd (b : UInt8) : Paired (stuffEnd b) := by
  unfold stuffEnd
  split
  · exact .pair rfl .nil
  · rename_i hb
    exact .plain (by simpa using hb) .nil

theorem paired_stuffInner (b : UInt8) : Paired (stuffInner b) := by
  unfold stuffInner
  split
  · exact .pair rfl .nil
  · exact paired_stuffEnd b

theorem unstuff_stuffEnd (b : UInt8) : unstuff (stuffEnd b) = [b] := by
  unfold stuffEnd
  split
  · rename_i hb
    rw [beq_iff_eq.1 hb]
    rfl
  · rename_i hb
    rw [unstuff_cons_of_ne (by simpa using hb)]
    rfl

theorem unstuff_stuffInner (b : UInt8) : unstuff (stuffInner b) = [b] := by
  unfold stuffInner
  split
  · rename_i hb
    rw [beq_iff_eq.1 hb]
    rfl
  · exact unstuff_stuffEnd b

theorem paired_flatMap_stuffInner (bytes : Bytes) : Paired (bytes.flatMap stuffInner) := by
  induction bytes with
  | nil => exact .nil
  | cons b bytes ih =>
      rw [List.flatMap_cons]
      exact (paired_stuffInner b).append ih

theorem unstuff_flatMap_stuffInner (bytes : Bytes) :
    unstuff (bytes.flatMap stuffInner) = bytes := by
  induction bytes with
  | nil => rfl
  | cons b bytes ih =>
      rw [List.flatMap_cons, (paired_stuffInner b).unstuff_append, unstuff_stuffInner, ih]
      rfl

/-- Every escape that `stuff` writes begins a pair. -/
theorem paired_stuff (bytes : Bytes) : Paired (stuff bytes) := by
  match bytes with
  | [] => exact .nil
  | [b] => exact paired_stuffEnd b
  | first :: second :: rest =>
      exact ((paired_stuffEnd first).append (paired_flatMap_stuffInner _)).append
        (paired_stuffEnd _)

/-- Writing, then reading, gives a message back. -/
@[simp] theorem unstuff_stuff (bytes : Bytes) : unstuff (stuff bytes) = bytes := by
  match bytes with
  | [] => rfl
  | [b] => exact unstuff_stuffEnd b
  | first :: second :: rest =>
      have hinner := paired_flatMap_stuffInner (second :: rest).dropLast
      show unstuff (stuffEnd first ++ (second :: rest).dropLast.flatMap stuffInner
        ++ stuffEnd ((second :: rest).getLast (List.cons_ne_nil second rest))) = _
      rw [((paired_stuffEnd first).append hinner).unstuff_append,
        (paired_stuffEnd first).unstuff_append, unstuff_stuffEnd, unstuff_flatMap_stuffInner,
        unstuff_stuffEnd, List.append_assoc, List.dropLast_concat_getLast]
      rfl

/-- A message is not empty on the wire. -/
theorem stuff_ne_nil {bytes : Bytes} (h : bytes ≠ []) : stuff bytes ≠ [] := by
  intro hs
  have := unstuff_stuff bytes
  rw [hs] at this
  exact h this.symm

-- ==================================================== between delimiters

/-- A message between two delimiters. -/
structure Delimited (bytes : Bytes) : Prop where
  long : 2 ≤ bytes.length
  first : bytes.head? = some delimiter
  last : bytes.getLast? = some delimiter

/-- Behind every escape of a wire is the second byte of a pair. -/
def Followed (wire : Bytes) : Prop :=
  ∀ i (_ : i < wire.length), wire[i] = escape →
    wire[i + 1]? = some escapedEscape ∨ wire[i + 1]? = some escapedDelimiter

/-- What the wire of such a message looks like: no delimiter is strictly
inside, and no escape stands alone. -/
structure Stuffed (wire : Bytes) : Prop where
  delimited : Delimited wire
  inside : ∀ i (_ : i < wire.length), 0 < i → i + 1 < wire.length → wire[i] ≠ delimiter
  followed : Followed wire

instance (wire : Bytes) : Decidable (Followed wire) :=
  inferInstanceAs (Decidable (∀ i (_ : i < wire.length), _))

instance (wire : Bytes) : Decidable (Stuffed wire) :=
  decidable_of_iff
    ((2 ≤ wire.length ∧ wire.head? = some delimiter ∧ wire.getLast? = some delimiter)
      ∧ (∀ i (_ : i < wire.length), 0 < i → i + 1 < wire.length → wire[i] ≠ delimiter)
      ∧ Followed wire)
    ⟨fun h => ⟨⟨h.1.1, h.1.2.1, h.1.2.2⟩, h.2.1, h.2.2⟩,
      fun h => ⟨⟨h.delimited.long, h.delimited.first, h.delimited.last⟩, h.inside, h.followed⟩⟩

variable {inner wire : Bytes}

theorem delimited_between (inner : Bytes) : Delimited (delimiter :: (inner ++ [delimiter])) where
  long := by simp
  first := rfl
  last := by rw [← List.cons_append, List.getLast?_append]; rfl

/-- A message is what stands between its delimiters. -/
theorem Delimited.exists_between {bytes : Bytes} (h : Delimited bytes) :
    ∃ inner, bytes = delimiter :: (inner ++ [delimiter]) := by
  obtain ⟨hlong, hfirst, hlast⟩ := h
  match bytes, hlong with
  | first :: second :: rest, _ =>
      cases hfirst
      have hne : second :: rest ≠ [] := List.cons_ne_nil _ _
      rw [List.getLast?_cons_cons, List.getLast?_eq_some_getLast hne] at hlast
      refine ⟨(second :: rest).dropLast, ?_⟩
      rw [← Option.some.inj hlast, List.dropLast_concat_getLast hne]

/-- Delimiters are written as they are. -/
theorem stuff_between (inner : Bytes) :
    stuff (delimiter :: (inner ++ [delimiter]))
      = delimiter :: (inner.flatMap stuffInner ++ [delimiter]) := by
  obtain ⟨second, rest, htail⟩ : ∃ second rest, inner ++ [delimiter] = second :: rest :=
    List.exists_cons_of_ne_nil (by simp)
  have hwhole : stuff (delimiter :: (inner ++ [delimiter]))
      = stuffEnd delimiter ++ (inner ++ [delimiter]).dropLast.flatMap stuffInner
        ++ stuffEnd ((inner ++ [delimiter]).getLast (by simp)) := by
    simp only [htail]
    rfl
  rw [hwhole, List.dropLast_concat, List.getLast_concat]
  rfl

/-- Delimiters are read as they are. -/
theorem Paired.unstuff_between (h : Paired wire) :
    unstuff (delimiter :: (wire ++ [delimiter])) = delimiter :: (unstuff wire ++ [delimiter]) := by
  rw [unstuff_cons_of_ne (by decide), h.unstuff_append]
  rfl

theorem delimiter_not_mem_stuffInner (b : UInt8) : delimiter ∉ stuffInner b := by
  unfold stuffInner stuffEnd
  split
  · decide
  · rename_i hb
    split
    · decide
    · intro hmem
      exact hb (beq_iff_eq.2 (List.mem_singleton.1 hmem).symm)

theorem delimiter_not_mem_flatMap_stuffInner (bytes : Bytes) :
    delimiter ∉ bytes.flatMap stuffInner := by
  rw [List.mem_flatMap]
  rintro ⟨b, -, hb⟩
  exact delimiter_not_mem_stuffInner b hb

/-- A pair is what is written for the byte it stands for. -/
theorem stuffInner_of_unescape {c p : UInt8} (h : unescape c = some p) :
    stuffInner p = [escape, c] := by
  unfold unescape at h
  split at h
  · rename_i hc
    cases h
    rw [beq_iff_eq.1 hc]
    rfl
  · split at h
    · rename_i hc
      cases h
      rw [beq_iff_eq.1 hc]
      rfl
    · cases h

/-- A byte that is neither delimiter nor escape is written as it is. -/
theorem stuffInner_of_ne {b : UInt8} (hd : b ≠ delimiter) (he : b ≠ escape) :
    stuffInner b = [b] := by
  unfold stuffInner stuffEnd
  rw [if_neg (by simpa using hd), if_neg (by simpa using he)]

/-- A paired wire without a delimiter is what is written of the message
that is read from it. -/
theorem Paired.flatMap_stuffInner_unstuff (h : Paired wire) (hd : delimiter ∉ wire) :
    (unstuff wire).flatMap stuffInner = wire := by
  induction h with
  | nil => rfl
  | @plain b rest hb _ ih =>
      rw [List.mem_cons, not_or] at hd
      rw [unstuff_cons_of_ne hb, List.flatMap_cons, stuffInner_of_ne (Ne.symm hd.1) hb, ih hd.2]
      rfl
  | @pair c p rest hc _ ih =>
      rw [List.mem_cons, List.mem_cons, not_or, not_or] at hd
      rw [unstuff_escape_cons, hc, Option.toList_some, List.singleton_append, List.flatMap_cons,
        stuffInner_of_unescape hc, ih hd.2.2]
      rfl

-- =========================================================== by its look

/-- The second bytes of pairs. -/
theorem unescape_eq_some_iff {c : UInt8} :
    (∃ p, unescape c = some p) ↔ c = escapedEscape ∨ c = escapedDelimiter := by
  constructor
  · rintro ⟨p, h⟩
    unfold unescape at h
    split at h
    · rename_i hc
      exact .inr (beq_iff_eq.1 hc)
    · split at h
      · rename_i hc
        exact .inl (beq_iff_eq.1 hc)
      · cases h
  · rintro (rfl | rfl)
    · exact ⟨escape, rfl⟩
    · exact ⟨delimiter, rfl⟩

theorem Paired.followed (h : Paired wire) : Followed wire := by
  induction h with
  | nil =>
      intro i hi
      cases hi
  | @plain b rest hb _ ih =>
      intro i hi hescape
      cases i with
      | zero => exact absurd hescape hb
      | succ i => exact ih i (Nat.lt_of_succ_lt_succ hi) hescape
  | @pair c p rest hc _ ih =>
      intro i hi hescape
      match i with
      | 0 =>
          rcases unescape_eq_some_iff.1 ⟨p, hc⟩ with rfl | rfl
          · exact .inl rfl
          · exact .inr rfl
      | 1 => exact absurd hescape (ne_escape_of_unescape hc)
      | i + 2 => exact ih i (Nat.lt_of_succ_lt_succ (Nat.lt_of_succ_lt_succ hi)) hescape

/-- Looking at the neighbours tells whether a wire is paired. -/
theorem Followed.paired {wire : Bytes} (h : Followed wire) : Paired wire := by
  match wire with
  | [] => exact .nil
  | b :: rest =>
      by_cases hb : b = escape
      · subst hb
        have hsecond : rest[0]? = some escapedEscape ∨ rest[0]? = some escapedDelimiter :=
          h 0 (Nat.zero_lt_succ _) rfl
        match rest with
        | [] => rcases hsecond with hnone | hnone <;> cases hnone
        | c :: more =>
            obtain ⟨p, hc⟩ : ∃ p, unescape c = some p := by
              apply unescape_eq_some_iff.2
              rcases hsecond with hc | hc
              · exact .inl (Option.some.inj hc)
              · exact .inr (Option.some.inj hc)
            refine .pair hc (Followed.paired ?_)
            intro i hi hescape
            exact h (i + 2) (Nat.succ_lt_succ (Nat.succ_lt_succ hi)) hescape
      · refine .plain hb (Followed.paired ?_)
        intro i hi hescape
        exact h (i + 1) (Nat.succ_lt_succ hi) hescape

/-- A delimiter ends no pair, so what is in front of one is paired on its
own. -/
theorem Paired.of_append_delimiter (h : Paired (wire ++ [delimiter])) : Paired wire := by
  refine (h.split ?_).1
  cases hends : Stuffing.endsMidEscape wire with
  | false => rfl
  | true =>
      obtain ⟨front, rfl⟩ := List.getLast?_eq_some_iff.1 (beq_iff_eq.1 hends)
      have hnext := h.followed front.length (by simp) (by simp)
      simp at hnext
      rcases hnext with hnext | hnext <;> cases hnext

/-- What looks like the wire of a message in delimiters is a paired wire
without a delimiter, between two. -/
theorem stuffed_iff_between :
    Stuffed wire
      ↔ ∃ inner, wire = delimiter :: (inner ++ [delimiter]) ∧ Paired inner ∧ delimiter ∉ inner := by
  constructor
  · rintro ⟨hdelimited, hinside, hfollowed⟩
    obtain ⟨inner, rfl⟩ := hdelimited.exists_between
    refine ⟨inner, rfl, ?_, ?_⟩
    · cases hfollowed.paired with
      | plain _ h => exact h.of_append_delimiter
    · intro hmem
      obtain ⟨i, hi, hdelimiter⟩ := List.mem_iff_getElem.1 hmem
      have hall : (delimiter :: (inner ++ [delimiter])).length = inner.length + 2 := by simp
      apply hinside (i + 1) (by omega) (Nat.zero_lt_succ i) (by omega)
      rw [List.getElem_cons_succ, List.getElem_append_left hi, hdelimiter]
  · rintro ⟨inner, rfl, hpaired, hmem⟩
    refine ⟨delimited_between inner, ?_, ?_⟩
    · intro i hi hpos hlast hdelimiter
      obtain ⟨j, rfl⟩ : ∃ j, i = j + 1 := Nat.exists_eq_succ_of_ne_zero (Nat.ne_of_gt hpos)
      have hall : (delimiter :: (inner ++ [delimiter])).length = inner.length + 2 := by simp
      have hj : j < inner.length := by omega
      rw [List.getElem_cons_succ, List.getElem_append_left hj] at hdelimiter
      exact hmem (hdelimiter ▸ List.getElem_mem hj)
    · have hdelimiter : Paired [delimiter] := .plain (by decide) .nil
      exact (Paired.plain (by decide) (hpaired.append hdelimiter)).followed

/-- Every message is read back from its wire. Of the messages between
delimiters the wires are those that look like it, and writing gives each
of these back from what is read of it. -/
theorem stuff_bijective :
    (∀ bytes, unstuff (stuff bytes) = bytes)
      ∧ (∀ wire, (∃ bytes, Delimited bytes ∧ stuff bytes = wire) ↔ Stuffed wire)
      ∧ ∀ wire, Stuffed wire → Delimited (unstuff wire) ∧ stuff (unstuff wire) = wire := by
  -- what is read from such a wire, and written again
  have hback : ∀ wire, Stuffed wire → Delimited (unstuff wire) ∧ stuff (unstuff wire) = wire := by
    intro wire h
    obtain ⟨inner, rfl, hpaired, hmem⟩ := stuffed_iff_between.1 h
    rw [hpaired.unstuff_between]
    refine ⟨delimited_between _, ?_⟩
    rw [stuff_between, hpaired.flatMap_stuffInner_unstuff hmem]
  refine ⟨unstuff_stuff, ?_, hback⟩
  intro wire
  constructor
  · rintro ⟨bytes, hdelimited, rfl⟩
    obtain ⟨inner, rfl⟩ := hdelimited.exists_between
    rw [stuff_between]
    exact stuffed_iff_between.2 ⟨_, rfl, paired_flatMap_stuffInner inner,
      delimiter_not_mem_flatMap_stuffInner inner⟩
  · intro h
    obtain ⟨hdelimited, hwritten⟩ := hback wire h
    exact ⟨unstuff wire, hdelimited, hwritten⟩

/-- Escapes next to both delimiters. -/
theorem stuff_bijective_escapedEnds :
    Stuffed [0x7E, 0x7D, 0x5E, 0x5D, 0x7D, 0x5D, 0x7E]
      ∧ unstuff [0x7E, 0x7D, 0x5E, 0x5D, 0x7D, 0x5D, 0x7E] = [0x7E, 0x7E, 0x5D, 0x7D, 0x7E]
      ∧ Delimited [0x7E, 0x7E, 0x5D, 0x7D, 0x7E]
      ∧ stuff [0x7E, 0x7E, 0x5D, 0x7D, 0x7E] = [0x7E, 0x7D, 0x5E, 0x5D, 0x7D, 0x5D, 0x7E] := by
  have hlook : Stuffed [0x7E, 0x7D, 0x5E, 0x5D, 0x7D, 0x5D, 0x7E] := by decide
  exact ⟨hlook, rfl, stuff_bijective.2.2 _ hlook⟩

end FlashLink.Stuffing
