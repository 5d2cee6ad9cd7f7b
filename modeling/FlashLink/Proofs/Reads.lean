/-
How often an attempt at receiving reads.

Nothing counts the reads of an attempt. It goes on for as long as a frame
is not there, and each read that brings anything brings a byte; so what
bounds it is how many bytes may pass before a frame is there, or cannot
come to be. Bytes that are unfinished (`Frame.Unfinished`) are fewer than
the longest frame has, and a byte takes at most two on the wire.

Two things escape this account, and both are told by the chunks that were
read. A pair that stands for nothing is dropped: two bytes that bring no
frame nearer (`Stuffing.dropped`). And the length field is not looked at
as long as chunks end in an escape, so of these any number may follow one
another (`lingering`). `allowance` adds the two to the longest wire.

The invariant of `collect` is that what was read so far is paid for by
what it holds and by what was dropped: `width` of the bytes held, plus two
for each pair dropped. It is kept because a chunk that is passed on is
whole, so no byte of it is lost in another way (`Whole.length_le`). The
chunks of the last round, whatever it ends in, are paid for by `lingering`.

That the two are needed is shown by chunks without end: those that read as
nothing (`collect_silent`) and those that end in an escape
(`receiveChunk_lingers`) are all taken, however many there are.
-/
import FlashLink.Proofs.Decoding
import Mathlib.Algebra.Ring.Nat

namespace FlashLink

variable {σ : Type}

-- =========================================================== the prices

namespace Stuffing

/-- How many bytes a message takes inside a frame on the wire. -/
def width (bytes : Bytes) : Nat := (bytes.flatMap stuffInner).length

/-- How many pairs of a wire stand for nothing. -/
def dropped : Bytes → Nat
  | b :: c :: rest =>
    if b == escape then
      match unescape c with
      | some _ => dropped rest
      | none => dropped rest + 1
    else dropped (c :: rest)
  | _ => 0

@[simp] theorem width_append (a b : Bytes) : width (a ++ b) = width a + width b := by
  unfold width
  rw [List.flatMap_append, List.length_append]

theorem width_cons (b : UInt8) (bytes : Bytes) :
    width (b :: bytes) = (stuffInner b).length + width bytes := by
  unfold width
  rw [List.flatMap_cons, List.length_append]

/-- A byte is written as itself or as a pair. -/
theorem length_stuffInner (b : UInt8) :
    1 ≤ (stuffInner b).length ∧ (stuffInner b).length ≤ 2 := by
  unfold stuffInner stuffEnd
  split
  · decide
  · split
    · decide
    · exact ⟨Nat.le_refl 1, Nat.le_succ 1⟩

theorem width_le (bytes : Bytes) : width bytes ≤ 2 * bytes.length := by
  induction bytes with
  | nil => exact Nat.le_refl 0
  | cons b bytes ih =>
      have hbyte := (length_stuffInner b).2
      rw [width_cons, List.length_cons]
      omega

theorem dropped_cons_of_ne {b : UInt8} (hb : b ≠ escape) (wire : Bytes) :
    dropped (b :: wire) = dropped wire := by
  match wire with
  | [] => rfl
  | c :: rest =>
      rw [dropped]
      exact if_neg (by simpa using hb)

theorem dropped_of_unescape {c p : UInt8} (h : unescape c = some p) (rest : Bytes) :
    dropped (escape :: c :: rest) = dropped rest := by
  rw [dropped, h]
  rfl

theorem dropped_of_unescape_none {c : UInt8} (h : unescape c = none) (rest : Bytes) :
    dropped (escape :: c :: rest) = dropped rest + 1 := by
  rw [dropped, h]
  rfl

/-- What follows a whole wire is priced on its own. -/
theorem Whole.dropped_append {a : Bytes} (ha : Whole a) (b : Bytes) :
    dropped (a ++ b) = dropped a + dropped b := by
  induction ha with
  | nil => exact (Nat.zero_add _).symm
  | plain hne _ ih =>
      rw [List.cons_append, dropped_cons_of_ne hne, dropped_cons_of_ne hne, ih]
  | pair c _ ih =>
      rw [List.cons_append, List.cons_append]
      cases hc : unescape c with
      | some p => rw [dropped_of_unescape hc, dropped_of_unescape hc, ih]
      | none =>
          rw [dropped_of_unescape_none hc, dropped_of_unescape_none hc, ih]
          omega

/-- The bytes of a whole wire are accounted for by what is read of it and
by the pairs that are dropped. -/
theorem Whole.length_le {wire : Bytes} (h : Whole wire) :
    wire.length ≤ width (unstuff wire) + 2 * dropped wire := by
  induction h with
  | nil => exact Nat.le_refl 0
  | @plain b rest hne _ ih =>
      have hbyte := (length_stuffInner b).1
      rw [unstuff_cons_of_ne hne, width_cons, dropped_cons_of_ne hne, List.length_cons]
      omega
  | @pair c rest _ ih =>
      rw [unstuff_escape_cons, width_append, List.length_cons, List.length_cons]
      cases hc : unescape c with
      | some p =>
          have hpair : width [p] = 2 := by
            rw [width_cons, stuffInner_of_unescape hc]
            rfl
          rw [dropped_of_unescape hc, Option.toList_some, hpair]
          omega
      | none =>
          rw [dropped_of_unescape_none hc]
          omega

end Stuffing

open Stuffing (delimiter escape unstuff endsMidEscape width dropped Whole)

namespace Frame

/-- No frame takes more bytes on the wire: a payload, the reserved byte,
kind, length and checksum as pairs, and two delimiters. -/
def longestWire : Nat := 2 * (maxPayload + 6) + 2

/-- So no frame that is written does. -/
theorem length_encode_le {f : Frame} (hlen : f.payload.length ≤ maxPayload) :
    f.encode.length ≤ longestWire := by
  have hinner := Stuffing.width_le (body f.kind f.payload ++ Word.be16 f.checksum)
  have hwire : f.encode.length = width (body f.kind f.payload ++ Word.be16 f.checksum) + 2 := by
    unfold encode toBytes
    rw [Stuffing.stuff_between, List.length_cons, List.length_append]
    rfl
  rw [List.length_append, length_body, Word.length_be16] at hinner
  unfold longestWire
  omega

/-- Bytes that a frame is not to be read from yet. -/
def Unfinished (raw : Bytes) : Prop :=
  ∀ length, announcedLength raw = some length → raw.length < length

/-- A length field takes five bytes to come. -/
theorem Unfinished.of_lt {raw : Bytes} (h : raw.length < 5) : Unfinished raw := by
  intro length hlength
  rw [announcedLength_of_lt h] at hlength
  cases hlength

/-- Unfinished bytes take two less than the longest frame. A length field that
announces the longest payload holds no byte that is written as a pair. -/
theorem Unfinished.width_le {raw : Bytes} (h : Unfinished raw) : width raw + 2 ≤ longestWire := by
  have hwidth := Stuffing.width_le raw
  unfold longestWire maxPayload
  match raw with
  | first :: reserved :: kind :: hi :: lo :: rest =>
      have hlt : rest.length + 5 < (Word.ofBytes16 hi lo).toNat + overhead := h _ rfl
      have hword := (Word.ofBytes16 hi lo).toNat_lt
      unfold overhead at hlt
      by_cases hfull : Word.ofBytes16 hi lo = 0xFFFF
      · have hfield : [hi, lo] = [0xFF, 0xFF] := by
          rw [← Word.be16_ofBytes16, hfull]
          rfl
        cases hfield
        have hfront := Stuffing.width_le [first, reserved, kind]
        have hrest := Stuffing.width_le rest
        rw [hfull] at hlt
        rw [show first :: reserved :: kind :: 0xFF :: 0xFF :: rest
            = [first, reserved, kind] ++ ([0xFF, 0xFF] ++ rest) from rfl,
          Stuffing.width_append, Stuffing.width_append, show width [0xFF, 0xFF] = 2 from rfl]
        rw [show ([first, reserved, kind] : Bytes).length = 3 from rfl] at hfront
        rw [show (0xFFFF : UInt16).toNat = 65535 from rfl] at hlt
        omega
      · have hless : (Word.ofBytes16 hi lo).toNat ≠ 65535 := fun heq =>
          hfull (UInt16.toNat_inj.1 heq)
        simp only [List.length_cons] at hwidth
        omega
  | [] | [_] | [_, _] | [_, _, _] | [_, _, _, _] =>
      simp only [List.length_cons, List.length_nil] at hwidth
      omega

end Frame

namespace Link

/-- How many chunks end in an escape directly behind another that does. -/
def lingering : List Bytes → Nat
  | a :: b :: rest => (if endsMidEscape a && endsMidEscape b then 1 else 0) + lingering (b :: rest)
  | _ => 0

theorem lingering_append_le (a b : List Bytes) :
    lingering a + lingering b ≤ lingering (a ++ b) := by
  induction a using lingering.induct with
  | case1 first second rest ih =>
      rw [List.cons_append, List.cons_append, lingering, lingering]
      rw [List.cons_append] at ih
      omega
  | case2 a hshort =>
      match a with
      | [] => exact Nat.le_of_eq (Nat.zero_add _)
      | [chunk] =>
          have hone : lingering [chunk] = 0 := rfl
          match b with
          | [] => exact Nat.le_refl 0
          | next :: rest =>
              rw [List.singleton_append, lingering]
              omega
      | first :: second :: rest => exact absurd rfl (hshort first second rest)

/-- Where all do, only the first is not counted. -/
theorem length_le_lingering {waits : List Bytes} (h : ∀ wait ∈ waits, endsMidEscape wait = true) :
    waits.length ≤ lingering waits + 1 := by
  induction waits using lingering.induct with
  | case1 first second rest ih =>
      have hrest := ih fun wait hwait => h wait (List.mem_cons_of_mem _ hwait)
      have hfirst := h first List.mem_cons_self
      have hsecond := h second (List.mem_cons_of_mem _ List.mem_cons_self)
      rw [lingering, hfirst, hsecond]
      rw [List.length_cons]
      simp only [Bool.and_self, if_true]
      omega
  | case2 waits hshort =>
      match waits with
      | [] => exact Nat.zero_le _
      | [wait] => exact Nat.le_refl 1
      | first :: second :: rest => exact absurd rfl (hshort first second rest)

/-- How often an attempt may read that reads these chunks. -/
def allowance (pieces : List Bytes) : Nat :=
  Frame.longestWire + 2 * dropped pieces.flatten + lingering pieces

-- ============================================================ the count

/-- A link after some reads. -/
def readTimes : Nat → Link σ → Link σ
  | 0, link => link
  | n + 1, link => readTimes n (endState (read link))

/-- From one link to another there were `n` reads, of which those that
brought anything brought the pieces. -/
structure Reads (link : Link σ) (n : Nat) (pieces : List Bytes) (after : Link σ) : Prop where
  times : after = readTimes n link
  heard : Heard link pieces after
  full : ∀ piece ∈ pieces, piece ≠ []
  /-- No more entries of the queue were taken than there were reads. -/
  entries : link.channel.arrivals.length ≤ after.channel.arrivals.length + n

theorem readTimes_add (n m : Nat) (link : Link σ) :
    readTimes (n + m) link = readTimes m (readTimes n link) := by
  induction n generalizing link with
  | zero => rw [Nat.zero_add, readTimes]
  | succ n ih =>
      rw [show n + 1 + m = n + m + 1 by omega, readTimes, readTimes, ih]

namespace Reads

variable {a b c : Link σ} {n m : Nat} {pieces more : List Bytes}

theorem trans (h : Reads a n pieces b) (h' : Reads b m more c) :
    Reads a (n + m) (pieces ++ more) c where
  times := by rw [readTimes_add, ← h.times, h'.times]
  heard := h.heard.trans h'.heard
  full := by
    intro piece hpiece
    rcases List.mem_append.1 hpiece with hpiece | hpiece
    · exact h.full piece hpiece
    · exact h'.full piece hpiece
  entries := by
    have := h.entries
    have := h'.entries
    omega

/-- There are at least as many bytes as chunks. -/
theorem length_le (h : Reads a n pieces b) : pieces.length ≤ pieces.flatten.length := by
  have hfull := h.full
  clear h
  induction pieces with
  | nil => exact Nat.le_refl 0
  | cons piece pieces ih =>
      have hpiece := List.length_pos_iff.2 (hfull piece List.mem_cons_self)
      have hrest := ih fun other hother => hfull other (List.mem_cons_of_mem _ hother)
      rw [List.flatten_cons, List.length_append, List.length_cons]
      omega

end Reads

/-- A read takes at most the front of the queue. -/
theorem entries_read (link : Link σ) :
    link.channel.arrivals.length ≤ (endState (read link)).channel.arrivals.length + 1 := by
  have hchannel : link.channel.arrivals.length
      ≤ (endState (Channel.read readLimit link.channel)).arrivals.length + 1 := by
    unfold Channel.read
    split
    · split
      · rename_i harr
        rw [harr]
        exact Nat.zero_le _
      · rename_i harr
        rw [harr]
        exact Nat.le_refl _
      · rename_i harr
        rw [harr]
        split
        · exact Nat.le_succ _
        · exact Nat.le_refl _
    · exact Nat.le_succ _
  unfold read
  split
  · rename_i hread
    rwa [hread] at hchannel
  · rename_i hread
    rwa [hread] at hchannel

theorem reads_of_read_ok {link after : Link σ} {bytes : Bytes} (h : read link = .ok bytes after) :
    Reads link 1 (Channel.recorded bytes) after where
  times := by
    rw [readTimes, readTimes, h]
    rfl
  heard := heard_of_read_ok h
  full := by
    intro piece hpiece
    by_cases hbytes : bytes = []
    · rw [hbytes] at hpiece
      cases hpiece
    · rw [Channel.recorded_of_ne hbytes] at hpiece
      rw [List.mem_singleton.1 hpiece]
      exact hbytes
  entries := by
    have hentries := entries_read link
    rwa [h] at hentries

theorem reads_of_read_error {link after : Link σ} {cause : Failure}
    (h : read link = .error cause after) : Reads link 1 [] after where
  times := by
    rw [readTimes, readTimes, h]
    rfl
  heard := heard_of_read_error h
  full := fun _ h => absurd h List.not_mem_nil
  entries := by
    have hentries := entries_read link
    rwa [h] at hentries

-- =========================================================== one chunk

/-- A receiver reads once for each chunk that ends in an escape, and once
more. -/
theorem receiveChunk_reads (empty : String) (link : Link σ) :
    ∃ waits last, Reads link (waits.length + 1) (waits ++ last) (endState (receiveChunk empty link))
      ∧ (∀ wait ∈ waits, endsMidEscape wait = true)
      ∧ ∀ bytes after, receiveChunk empty link = .ok bytes after → last ≠ [] := by
  have hnone : ∀ wait ∈ ([] : List Bytes), endsMidEscape wait = true :=
    fun _ h => absurd h List.not_mem_nil
  cases hread : read link with
  | error cause after =>
      rw [receiveChunk_of_error hread]
      exact ⟨[], [], reads_of_read_error hread, hnone, fun _ _ h => by cases h⟩
  | ok bytes after =>
      have hreads := reads_of_read_ok hread
      by_cases hbytes : bytes = []
      · subst hbytes
        rw [receiveChunk, hread]
        exact ⟨[], [], hreads, hnone, fun _ _ h => by cases h⟩
      · rw [Channel.recorded_of_ne hbytes] at hreads
        cases hend : endsMidEscape bytes with
        | false =>
            rw [receiveChunk_of_read hread hbytes hend]
            exact ⟨[], [bytes], hreads, hnone, fun _ _ _ => List.cons_ne_nil _ _⟩
        | true =>
            have hlt : after.channel.weight < link.channel.weight := weight_read_lt hread
            obtain ⟨waits, last, hmore, hwaits, hlast⟩ :=
              receiveChunk_reads "Empty continuation" after
            rw [receiveChunk_of_wait hread hend]
            refine ⟨bytes :: waits, last, ?_, ?_, ?_⟩
            · have hall := hreads.trans hmore
              rw [show 1 + (waits.length + 1) = (bytes :: waits).length + 1 by
                rw [List.length_cons]; omega] at hall
              cases hrest : receiveChunk "Empty continuation" after with
              | ok rest final =>
                  rw [hrest] at hall
                  exact hall
              | error cause final =>
                  rw [hrest] at hall
                  exact hall
            · intro wait hwait
              rcases List.mem_cons.1 hwait with rfl | hwait
              · exact hend
              · exact hwaits wait hwait
            · intro all final hok
              cases hrest : receiveChunk "Empty continuation" after with
              | ok rest final' => exact hlast rest final' hrest
              | error cause final' =>
                  rw [hrest] at hok
                  cases hok
  termination_by link.channel.weight

-- ========================================================= one attempt

section

variable {raw : Array UInt8} {chunk : Bytes} {link after : Link σ}
  (h : receiveChunk "Empty response" link = .ok chunk after)
include h

/-- While the bytes held are the beginning of a frame, an attempt goes
on. -/
theorem collect_of_unfinished
    (hhead : (raw.appendList (unstuff chunk))[0]? = some delimiter)
    (hraw : Frame.Unfinished (raw.appendList (unstuff chunk)).toList) :
    collect raw link = collect (raw.appendList (unstuff chunk)) after := by
  rw [collect, show receiveOne link = _ from h]
  dsimp only
  rw [if_neg (fun hne => hne hhead), announcedLength_extract]
  split
  · rename_i length hlength
    exact if_neg (Nat.not_le.2 (hraw length hlength))
  · rfl

/-- Otherwise it ends there. -/
theorem endState_collect_of_finished
    (hstop : (raw.appendList (unstuff chunk))[0]? = some delimiter →
      ¬ Frame.Unfinished (raw.appendList (unstuff chunk)).toList) :
    endState (collect raw link) = after := by
  rw [collect, show receiveOne link = _ from h]
  dsimp only
  split
  · rfl
  · rename_i hhead
    rw [Classical.not_not] at hhead
    rw [announcedLength_extract]
    split
    · rename_i length hlength
      split
      · split
        · rfl
        · rfl
      · rename_i hshort
        refine absurd ?_ (hstop hhead)
        intro announced hannounced
        rw [hlength] at hannounced
        cases hannounced
        exact Nat.not_le.1 hshort
    · rename_i hnone
      refine absurd ?_ (hstop hhead)
      intro announced hannounced
      rw [hnone] at hannounced
      cases hannounced

end

/-- What an attempt reads behind bytes that are unfinished is paid for by
what these leave of the longest frame, by the pairs that are dropped and by
the chunks that linger. -/
theorem collect_reads {raw : Array UInt8} (hraw : Frame.Unfinished raw.toList) (link : Link σ) :
    ∃ n pieces, Reads link n pieces (endState (collect raw link))
      ∧ n + width raw.toList ≤ allowance pieces := by
  obtain ⟨waits, last, hreads, hwaits, hlast⟩ := receiveChunk_reads "Empty response" link
  -- the chunks of this round, if it is the last one
  have hstop : waits.length + 1 + width raw.toList ≤ allowance (waits ++ last) := by
    have hheld := hraw.width_le
    have hlingering := length_le_lingering hwaits
    have hall := lingering_append_le waits last
    unfold allowance
    omega
  cases hreceive : receiveChunk "Empty response" link with
  | error cause after =>
      rw [hreceive] at hreads
      rw [collect_of_error hreceive]
      exact ⟨_, _, hreads, hstop⟩
  | ok chunk after =>
      rw [hreceive] at hreads
      by_cases hgoes : (raw.appendList (unstuff chunk))[0]? = some delimiter
          ∧ Frame.Unfinished (raw.appendList (unstuff chunk)).toList
      · -- its bytes are held now, or were dropped
        have hlt : after.channel.weight < link.channel.weight := weight_receiveChunk_lt hreceive
        obtain ⟨n, more, hmore, hle⟩ := collect_reads hgoes.2 after
        obtain ⟨pieces, hheard, hchunk, -, hend⟩ := (receiveChunk_hears _ link).of_ok hreceive
        rw [hheard.unique hreads.heard] at hchunk
        rw [collect_of_unfinished hreceive hgoes.1 hgoes.2]
        refine ⟨_, _, hreads.trans hmore, ?_⟩
        have hwhole := Whole.of_endsMidEscape hend
        have hbytes := hwhole.length_le
        have hdropped := hwhole.dropped_append more.flatten
        have hlingering := lingering_append_le (waits ++ last) more
        have hchunks := hreads.length_le
        have hcount := List.length_pos_iff.2 (hlast chunk after hreceive)
        rw [Array.appendList_eq_append, Array.toList_appendList, Stuffing.width_append] at hle
        rw [hchunk] at hle hbytes hdropped
        rw [List.length_append] at hchunks
        unfold allowance at hle ⊢
        rw [List.flatten_append, hdropped]
        omega
      · rw [endState_collect_of_finished hreceive fun hhead hraw => hgoes ⟨hhead, hraw⟩]
        exact ⟨_, _, hreads, hstop⟩
  termination_by link.channel.weight

theorem receiveFrame_reads (link : Link σ) :
    ∃ n pieces, Reads link n pieces (endState (receiveFrame link)) ∧ n ≤ allowance pieces := by
  have hnothing : Frame.Unfinished (#[] : Array UInt8).toList := .of_lt (Nat.zero_lt_succ 4)
  exact collect_reads hnothing link

-- ====================================================== many attempts

/-- From one link to another there were at most so many attempts, and no
more reads than all of them together are allowed. -/
def Within (link : Link σ) (attempts : Nat) (after : Link σ) : Prop :=
  ∃ (n : Nat) (tries : List (List Bytes)), tries.length ≤ attempts
    ∧ Reads link n tries.flatten after ∧ n ≤ (tries.map allowance).sum

namespace Within

variable {a b c : Link σ} {n m : Nat}

theorem of_reads {pieces : List Bytes} (h : Reads a n pieces b) (hle : n ≤ allowance pieces) :
    Within a 1 b := by
  refine ⟨n, [pieces], Nat.le_refl 1, ?_, ?_⟩
  · rwa [List.flatten_singleton]
  · rwa [List.map_singleton, List.sum_singleton]

theorem mono (h : Within a n b) (hle : n ≤ m) : Within a m b := by
  obtain ⟨count, tries, hlen, hreads, hcount⟩ := h
  exact ⟨count, tries, Nat.le_trans hlen hle, hreads, hcount⟩

theorem trans (h : Within a n b) (h' : Within b m c) : Within a (n + m) c := by
  obtain ⟨count, tries, hlen, hreads, hcount⟩ := h
  obtain ⟨count', tries', hlen', hreads', hcount'⟩ := h'
  refine ⟨count + count', tries ++ tries', ?_, ?_, ?_⟩
  · rw [List.length_append]
    exact Nat.add_le_add hlen hlen'
  · rw [List.flatten_append]
    exact hreads.trans hreads'
  · rw [List.map_append, List.sum_append]
    exact Nat.add_le_add hcount hcount'

end Within

theorem receiveFrame_within (link : Link σ) : Within link 1 (endState (receiveFrame link)) := by
  obtain ⟨n, pieces, hreads, hle⟩ := receiveFrame_reads link
  exact .of_reads hreads hle

theorem receiveAgain_within (more : Nat) (link : Link σ) :
    Within link (more + 1) (endState (receiveAgain more link)) := by
  induction more generalizing link with
  | zero => exact receiveFrame_within link
  | succ more ih =>
      have hone := receiveFrame_within link
      rw [receiveAgain_succ]
      cases hreceive : receiveFrame link with
      | ok f after =>
          rw [hreceive] at hone
          exact hone.mono (Nat.le_add_left 1 _)
      | error cause after =>
          rw [hreceive] at hone
          dsimp only
          split
          · exact (hone.trans (ih after)).mono (by omega)
          · exact hone.mono (Nat.le_add_left 1 _)

theorem receive_within (attempts : Nat) (link : Link σ) :
    Within link (max 1 attempts) (endState (receive attempts link)) :=
  (receiveAgain_within (attempts - 1) link).mono (by omega)

/-- An exchange fails before it reads, or reads behind its one write. -/
theorem exchange_within [Peer σ] (command : Command) (payload : Bytes) (policy : Policy)
    (link : Link σ) :
    endState (exchange command payload policy link) = link
      ∨ Within (link.wrote (request command payload link.mode)) (max 1 policy.attempts)
          (endState (exchange command payload policy link)) := by
  by_cases hlen : payload.length ≤ Frame.maxPayload
  · cases hconn : link.channel.connected with
    | false =>
        rw [exchange_of_disconnected hlen hconn]
        exact .inl rfl
    | true =>
        rw [endState_exchange hlen hconn]
        exact .inr (receive_within policy.attempts _)
  · rw [exchange_of_long (Nat.lt_of_not_le hlen)]
    exact .inl rfl

/-- An attempt at receiving reads no more often than the longest frame has
bytes on the wire, not counting two reads for each pair that stands for
nothing and one for each chunk that ends in an escape behind another. An
exchange that comes to read does so within as many attempts as its policy
has, at least one. -/
theorem reads_bounded [Peer σ] (link : Link σ) :
    (∃ n pieces, Reads link n pieces (endState (receiveFrame link)) ∧ n ≤ allowance pieces)
      ∧ (∀ command payload policy,
          endState (exchange command payload policy link) = link
            ∨ Within (link.wrote (request command payload link.mode)) (max 1 policy.attempts)
                (endState (exchange command payload policy link)))
      ∧ Frame.longestWire = 131084
      ∧ ∀ f : Frame, f.payload.length ≤ Frame.maxPayload → f.encode.length ≤ Frame.longestWire :=
  ⟨receiveFrame_reads link,
    fun command payload policy => exchange_within command payload policy link,
    rfl, fun _ hlen => Frame.length_encode_le hlen⟩

/-- Two chunks of two escapes each: two pairs that stand for nothing, and
one chunk that lingers. -/
theorem reads_bounded_escapes :
    (∃ n, Reads (hearing [[0x7E], [0x7D, 0x7D], [0x7D, 0x7D]]) n
        [[0x7E], [0x7D, 0x7D], [0x7D, 0x7D]]
        (endState (receiveFrame (hearing [[0x7E], [0x7D, 0x7D], [0x7D, 0x7D]])))
      ∧ n ≤ 131084 + 2 * 2 + 1)
      ∧ (Frame.sealed 0x80 [0x7E] .crc).encode.length ≤ 131084 := by
  obtain ⟨⟨n, pieces, hreads, hle⟩, -, hlongest, hwire⟩ :=
    reads_bounded (hearing [[0x7E], [0x7D, 0x7D], [0x7D, 0x7D]])
  have htraffic : (endState
      (receiveFrame (hearing [[0x7E], [0x7D, 0x7D], [0x7D, 0x7D]]))).channel.traffic.toList
      = [[0x7E], [0x7D, 0x7D], [0x7D, 0x7D]].map .heard := by decide +kernel
  have hpieces : pieces = [[0x7E], [0x7D, 0x7D], [0x7D, 0x7D]] := by
    have hheard := hreads.heard.traffic
    rw [htraffic] at hheard
    exact (List.map_inj_right fun _ _ => Traffic.heard.inj).1 hheard.symm
  subst hpieces
  refine ⟨⟨n, hreads, ?_⟩, ?_⟩
  · have hallowance : allowance [[0x7E], [0x7D, 0x7D], [0x7D, 0x7D]]
        = Frame.longestWire + 2 * 2 + 1 := rfl
    rwa [hallowance, hlongest] at hle
  · rw [← hlongest]
    exact hwire _ (by decide)

-- ======================================================= without a bound

/-- A connected link on which some chunks wait, each of which a read takes
whole. -/
structure Coming (link : Link σ) (chunks : List Bytes) : Prop where
  connected : link.channel.connected = true
  arrivals : link.channel.arrivals = chunks.map .chunk
  short : ∀ chunk ∈ chunks, chunk.length ≤ readLimit

theorem Coming.read {link : Link σ} {chunk : Bytes} {chunks : List Bytes}
    (h : Coming link (chunk :: chunks)) :
    ∃ after, Link.read link = .ok chunk after ∧ Coming after chunks := by
  obtain ⟨after, hread, hafter⟩ := read_of_channel
    (Channel.read_of_le h.connected h.arrivals (h.short chunk List.mem_cons_self))
  refine ⟨after, hread, ?_, ?_, fun other hother => h.short other (List.mem_cons_of_mem _ hother)⟩
  · rw [hafter]
    exact h.connected
  · rw [hafter]

/-- Nothing comes where all was taken. -/
theorem Coming.receiveChunk_nil {link : Link σ} (h : Coming link []) (empty : String) :
    receiveChunk empty link = .error (.channel (.timeout Channel.readTimeout)) link := by
  apply receiveChunk_of_error
  unfold Link.read Channel.read
  rw [if_pos h.connected, show link.channel.arrivals = [] from h.arrivals]

/-- Chunks that end in an escape are taken one after the other, and
nothing is passed on. -/
theorem receiveChunk_lingers {chunks : List Bytes}
    (hends : ∀ chunk ∈ chunks, endsMidEscape chunk = true) (empty : String) {link : Link σ}
    (h : Coming link chunks) :
    ∃ cause after, receiveChunk empty link = .error cause after ∧ after.channel.arrivals = [] := by
  induction chunks generalizing empty link with
  | nil => exact ⟨_, link, h.receiveChunk_nil empty, h.arrivals⟩
  | cons chunk chunks ih =>
      obtain ⟨after, hread, hafter⟩ := h.read
      obtain ⟨cause, last, hmore, hlast⟩ :=
        ih (fun other hother => hends other (List.mem_cons_of_mem _ hother))
          "Empty continuation" hafter
      rw [receiveChunk_of_wait hread (hends chunk List.mem_cons_self), hmore]
      exact ⟨cause, last, rfl, hlast⟩

/-- Behind the beginning of a frame, chunks that read as nothing are taken
one after the other, and what is held stays as it is. -/
theorem collect_silent {raw : Array UInt8} (hhead : raw[0]? = some delimiter)
    (hraw : Frame.Unfinished raw.toList) {chunks : List Bytes}
    (hsilent : ∀ chunk ∈ chunks, chunk ≠ [] ∧ endsMidEscape chunk = false ∧ unstuff chunk = [])
    {link : Link σ} (h : Coming link chunks) :
    ∃ cause after, collect raw link = .error cause after ∧ after.channel.arrivals = [] := by
  induction chunks generalizing link with
  | nil => exact ⟨_, link, collect_of_error (h.receiveChunk_nil _), h.arrivals⟩
  | cons chunk chunks ih =>
      obtain ⟨hne, hend, hnothing⟩ := hsilent chunk List.mem_cons_self
      obtain ⟨after, hread, hafter⟩ := h.read
      have hsame : raw.appendList (unstuff chunk) = raw := by
        rw [hnothing]
        rfl
      rw [collect_of_unfinished (receiveChunk_of_read hread hne hend _) (by rwa [hsame])
        (by rwa [hsame]), hsame]
      exact ih (fun other hother => hsilent other (List.mem_cons_of_mem _ hother)) hafter

/-- So a delimiter and any number of such chunks are all taken by one
attempt. -/
theorem receiveFrame_drains {chunks : List Bytes}
    (hchunks : (∀ chunk ∈ chunks, endsMidEscape chunk = true)
      ∨ ∀ chunk ∈ chunks, chunk ≠ [] ∧ endsMidEscape chunk = false ∧ unstuff chunk = [])
    {link : Link σ} (h : Coming link ([delimiter] :: chunks)) :
    (endState (receiveFrame link)).channel.arrivals = [] := by
  obtain ⟨after, hread, hafter⟩ := h.read
  have hbegun : Frame.Unfinished (#[delimiter] : Array UInt8).toList := .of_lt (by decide)
  have hfirst : collect #[] link = collect #[delimiter] after :=
    collect_of_unfinished (receiveChunk_of_read hread (List.cons_ne_nil _ _) rfl _) rfl hbegun
  obtain ⟨cause, last, hlast, harr⟩ : ∃ cause last,
      collect #[delimiter] after = .error cause last ∧ last.channel.arrivals = [] := by
    rcases hchunks with hends | hsilent
    · obtain ⟨cause, last, hchunk, harr⟩ := receiveChunk_lingers hends "Empty response" hafter
      exact ⟨cause, last, collect_of_error hchunk, harr⟩
    · exact collect_silent rfl hbegun hsilent hafter
  rw [show receiveFrame link = _ from hfirst, hlast]
  exact harr

/-- A link on which a delimiter waits and, behind it, a chunk so many
times. -/
def flooded (chunk : Bytes) (n : Nat) : Link Unit :=
  .ofChannel
    { Channel.connect () with
      arrivals := ([delimiter] :: List.replicate n chunk).map .chunk }
    .crc

theorem flooded_drained {chunk : Bytes} (hshort : chunk.length ≤ readLimit)
    (hchunk : endsMidEscape chunk = true
      ∨ chunk ≠ [] ∧ endsMidEscape chunk = false ∧ unstuff chunk = []) (n : Nat) :
    (endState (receiveFrame (flooded chunk n))).channel.arrivals = [] := by
  have hcoming : Coming (flooded chunk n) ([delimiter] :: List.replicate n chunk) := by
    refine ⟨rfl, rfl, ?_⟩
    intro piece hpiece
    rcases List.mem_cons.1 hpiece with rfl | hpiece
    · decide
    · rwa [List.eq_of_mem_replicate hpiece]
  apply receiveFrame_drains ?_ hcoming
  rcases hchunk with hend | hsilent
  · exact .inl fun piece hpiece => by rwa [List.eq_of_mem_replicate hpiece]
  · exact .inr fun piece hpiece => by rwa [List.eq_of_mem_replicate hpiece]

/-- The longest frame alone is no bound: pairs that stand for nothing, and
pairs cut in the middle, are read one after the other until there are no
more. -/
theorem reads_past_longestWire :
    ¬ (flooded [0x7D, 0x00] 131084).channel.arrivals.length
        ≤ (endState (receiveFrame (flooded [0x7D, 0x00] 131084))).channel.arrivals.length + 131084
      ∧ ¬ (flooded [0x5E, 0x7D] 131084).channel.arrivals.length
        ≤ (endState (receiveFrame (flooded [0x5E, 0x7D] 131084))).channel.arrivals.length
          + 131084 := by
  have hlength : ∀ chunk, (flooded chunk 131084).channel.arrivals.length = 131085 := by
    intro chunk
    show ((([delimiter] :: List.replicate 131084 chunk) : List Bytes).map Arrival.chunk).length = _
    rw [List.length_map, List.length_cons, List.length_replicate]
  constructor
  · rw [flooded_drained (by decide) (.inr (by decide)), hlength, List.length_nil]
    omega
  · rw [flooded_drained (by decide) (.inl rfl), hlength, List.length_nil]
    omega

end Link

end FlashLink
