/-
What a receiver makes of the bytes of a frame.

A frame laid out with a payload that fits announces exactly its own
length (`announcedLength_toBytes`), so a receiver that follows the
length field stops at its last byte. Delimiters and length of such
bytes are always in order; what is left to judge is the checksum, and
`parse_toBytes` says that it alone decides: the frame is read back when
its checksum is that of its content in the receiver's mode, and refused
with both checksums when it is not. A frame of the other mode is the
case that matters: it has the right shape and is refused whole. On the
wire nothing changes: a frame that was built comes back from it, and no
two frames look alike there (`parse_unstuff_encode`).

The other way round, whatever is read as a frame is laid out so
(`eq_of_parse`); only the reserved byte, which a host writes as zero and
ignores, may be another. The format (`LaidOut`) is therefore what the
reader accepts, no more and no less, and bytes are in it in one way only
(`parse_laidOut`).

`Frame.sealed` is the frame that `build` makes of a payload that fits.
-/
import FlashLink.Frame
import FlashLink.Proofs.Stuffing

namespace FlashLink

open Stuffing (delimiter)

namespace Frame

-- ============================================================= sealing

/-- A kind and a payload under the checksum of a mode. -/
def sealed (kind : UInt8) (payload : Bytes) (mode : ChecksumMode) : Frame :=
  { kind, payload, checksum := mode.checksum (body kind payload) }

@[simp] theorem kind_sealed (kind : UInt8) (payload : Bytes) (mode : ChecksumMode) :
    (sealed kind payload mode).kind = kind := rfl

@[simp] theorem payload_sealed (kind : UInt8) (payload : Bytes) (mode : ChecksumMode) :
    (sealed kind payload mode).payload = payload := rfl

@[simp] theorem checksum_sealed (kind : UInt8) (payload : Bytes) (mode : ChecksumMode) :
    (sealed kind payload mode).checksum = mode.checksum (body kind payload) := rfl

/-- A payload that fits is sealed. -/
theorem build_of_le {payload : Bytes} (hlen : payload.length ≤ maxPayload) (kind : UInt8)
    (mode : ChecksumMode) : build kind payload mode = .ok (sealed kind payload mode) := by
  unfold build
  rw [if_neg (by omega)]
  rfl

-- ========================================================== the layout

@[simp] theorem length_body (kind : UInt8) (payload : Bytes) :
    (body kind payload).length = payload.length + 4 := by
  simp only [body, List.length_cons, List.length_append, Word.length_be16]
  omega

@[simp] theorem length_toBytes (f : Frame) : f.toBytes.length = f.payload.length + overhead := by
  simp [toBytes, overhead]

@[simp] theorem head?_toBytes (f : Frame) : f.toBytes.head? = some delimiter := rfl

/-- The length field of a payload that fits holds its length. -/
theorem toNat_length_field {payload : Bytes} (hlen : payload.length ≤ maxPayload) :
    (UInt16.ofNat payload.length).toNat = payload.length := by
  have hsize : maxPayload < UInt16.size := by decide
  exact UInt16.toNat_ofNat_of_lt' (by omega)

/-- The first bytes of a frame announce the length of the whole. -/
theorem announcedLength_toBytes {f : Frame} (hlen : f.payload.length ≤ maxPayload) :
    announcedLength f.toBytes = some f.toBytes.length := by
  rw [length_toBytes]
  show some ((Word.ofBytes16 _ _).toNat + overhead) = _
  rw [Word.ofBytes16_be16, toNat_length_field hlen]

/-- Once a prefix announces a length, more bytes do not change it. -/
theorem announcedLength_append {raw : Bytes} (h : 5 ≤ raw.length) (more : Bytes) :
    announcedLength (raw ++ more) = announcedLength raw := by
  match raw, h with
  | _ :: _ :: _ :: _ :: _ :: _, _ => rfl

theorem announcedLength_of_lt {raw : Bytes} (h : raw.length < 5) : announcedLength raw = none := by
  match raw, h with
  | [], _ | [_], _ | [_, _], _ | [_, _, _], _ | [_, _, _, _], _ => rfl
  | _ :: _ :: _ :: _ :: _ :: _, h =>
      simp only [List.length_cons] at h
      omega

-- =========================================================== the verdict

/-- What a checksum covers and some checksum, between two delimiters. -/
def framed (covered : Bytes) (checksum : UInt16) : Bytes :=
  delimiter :: (covered ++ Word.be16 checksum ++ [delimiter])

@[simp] theorem length_framed (covered : Bytes) (checksum : UInt16) :
    (framed covered checksum).length = covered.length + 4 := by
  simp [framed]

/-- Between two delimiters only the checksum is left to judge. -/
theorem verify_framed {covered : Bytes} (hlen : 4 ≤ covered.length) (received : UInt16)
    (mode : ChecksumMode) :
    verify (framed covered received) mode
      = if received = mode.checksum covered then .ok received
        else .error (.checksumMismatch received (mode.checksum covered)) := by
  have hsplit : framed covered received
      = (delimiter :: covered) ++ (Word.be16 received ++ [delimiter]) := by
    simp [framed]
  have hback : (framed covered received).drop ((framed covered received).length - 3)
      = [(received >>> 8).toUInt8, received.toUInt8, delimiter] := by
    rw [length_framed, show covered.length + 4 - 3 = (delimiter :: covered).length from rfl, hsplit,
      List.drop_left]
    rfl
  have hcovered : ((framed covered received).drop 1).take ((framed covered received).length - 4)
      = covered := by
    rw [length_framed, Nat.add_sub_cancel, hsplit]
    exact List.take_left
  unfold verify
  rw [if_neg (by rw [length_framed]; unfold overhead; omega), hback]
  dsimp only
  rw [if_neg (by simp [framed]), hcovered, Word.ofBytes16_be16]
  by_cases h : received = mode.checksum covered
  · rw [if_pos h, if_neg (fun hne => hne h)]
  · rw [if_neg h, if_pos h]

/-- What the checksum of a message covers that has some reserved
byte. -/
def bodyUnder (reserved kind : UInt8) (payload : Bytes) : Bytes :=
  reserved :: kind :: (Word.be16 (UInt16.ofNat payload.length) ++ payload)

/-- The unstuffed bytes of a frame under some reserved byte. The host
writes them under zero. -/
def bytesUnder (reserved : UInt8) (f : Frame) : Bytes :=
  delimiter :: (bodyUnder reserved f.kind f.payload ++ Word.be16 f.checksum ++ [delimiter])

@[simp] theorem length_bodyUnder (reserved kind : UInt8) (payload : Bytes) :
    (bodyUnder reserved kind payload).length = payload.length + 4 := by
  simp only [bodyUnder, List.length_cons, List.length_append, Word.length_be16]
  omega

@[simp] theorem length_bytesUnder (reserved : UInt8) (f : Frame) :
    (bytesUnder reserved f).length = f.payload.length + overhead := by
  simp [bytesUnder, overhead]

/-- Bytes of a frame whose payload fits are read as that frame, or refused
for its checksum, whatever the reserved byte. -/
theorem parse_bytesUnder {f : Frame} (hlen : f.payload.length ≤ maxPayload) (reserved : UInt8)
    (mode : ChecksumMode) :
    parse (bytesUnder reserved f) mode
      = if f.checksum = mode.checksum (bodyUnder reserved f.kind f.payload) then .ok f
        else .error (.checksumMismatch f.checksum
          (mode.checksum (bodyUnder reserved f.kind f.payload))) := by
  have hverify : verify (bytesUnder reserved f) mode = _ :=
    verify_framed (by simp) f.checksum mode
  unfold parse
  rw [hverify]
  split
  · rename_i h
    split at h
    · cases h
    · rename_i hne
      cases h
      rw [if_neg hne]
  · rename_i h
    split at h
    · rename_i heq
      cases h
      rw [if_pos heq]
      have hactual : (bytesUnder reserved f).length - overhead = f.payload.length := by
        rw [length_bytesUnder]
        omega
      show (if (Word.ofBytes16 _ _).toNat ≠ (bytesUnder reserved f).length - overhead
        then _ else _) = _
      rw [Word.ofBytes16_be16, toNat_length_field hlen, hactual, if_neg (fun h => h rfl)]
      show Except.ok (Frame.mk f.kind
        ((f.payload ++ Word.be16 f.checksum ++ [delimiter]).take f.payload.length)
        f.checksum) = _
      rw [List.append_assoc, List.take_left]
    · cases h

/-- So it is with the bytes that the host writes. -/
theorem parse_toBytes {f : Frame} (hlen : f.payload.length ≤ maxPayload) (mode : ChecksumMode) :
    parse f.toBytes mode
      = if f.checksum = mode.checksum (body f.kind f.payload) then .ok f
        else .error (.checksumMismatch f.checksum (mode.checksum (body f.kind f.payload))) :=
  parse_bytesUnder hlen 0 mode

/-- A sealed frame is read back in its own mode. -/
theorem parse_toBytes_sealed {payload : Bytes} (hlen : payload.length ≤ maxPayload)
    (kind : UInt8) (mode : ChecksumMode) :
    parse (sealed kind payload mode).toBytes mode = .ok (sealed kind payload mode) := by
  rw [parse_toBytes hlen]
  exact if_pos rfl

/-- Whatever a receiver reads from the bytes of a frame is that
frame. -/
theorem eq_of_parse_toBytes {f g : Frame} (hlen : f.payload.length ≤ maxPayload)
    {mode : ChecksumMode} (h : parse f.toBytes mode = .ok g) :
    g = f ∧ f.checksum = mode.checksum (body f.kind f.payload) := by
  rw [parse_toBytes hlen] at h
  split at h
  · rename_i heq
    cases h
    exact ⟨rfl, heq⟩
  · cases h

-- ===================================================== what is accepted

/-- Bytes whose delimiters and checksum are in order, taken apart. -/
theorem eq_of_verify {raw : Bytes} {mode : ChecksumMode} {checksum : UInt16}
    (h : verify raw mode = .ok checksum) :
    ∃ covered, raw = delimiter :: (covered ++ Word.be16 checksum ++ [delimiter])
      ∧ 4 ≤ covered.length ∧ checksum = mode.checksum covered := by
  unfold verify at h
  split at h
  · cases h
  · rename_i hlen
    split at h
    · rename_i hi lo last hdrop
      split at h
      · cases h
      · rename_i hdelimited
        rw [not_or, Classical.not_not, Classical.not_not] at hdelimited
        obtain ⟨hhead, rfl⟩ := hdelimited
        dsimp only at h
        split at h
        · cases h
        · rename_i hcheck
          rw [Classical.not_not] at hcheck
          have hreceived : Word.ofBytes16 hi lo = checksum := Except.ok.inj h
          obtain ⟨tail, rfl⟩ : ∃ tail, raw = delimiter :: tail := by
            cases raw with
            | nil => cases hhead
            | cons b tail =>
                cases hhead
                exact ⟨tail, rfl⟩
          unfold overhead at hlen
          simp only [List.length_cons] at hlen hdrop hcheck
          have hback : tail.drop (tail.length - 3) = [hi, lo, delimiter] := by
            rw [← hdrop, show tail.length + 1 - 3 = tail.length - 3 + 1 by omega,
              List.drop_succ_cons]
          refine ⟨tail.take (tail.length - 3), ?_, ?_, ?_⟩
          · rw [← hreceived, Word.be16_ofBytes16, List.append_assoc, List.cons_append,
              List.cons_append, List.nil_append, ← hback, List.take_append_drop]
          · rw [List.length_take]
            omega
          · rw [← hreceived, hcheck]
            rfl
    · cases h

/-- Whatever is read as a frame is the frame laid out, under some
reserved byte, and its checksum is that of its content. -/
theorem eq_of_parse {raw : Bytes} {mode : ChecksumMode} {f : Frame} (h : parse raw mode = .ok f) :
    ∃ reserved, raw = bytesUnder reserved f ∧ f.payload.length ≤ maxPayload
      ∧ f.checksum = mode.checksum (bodyUnder reserved f.kind f.payload) := by
  unfold parse at h
  cases hverify : verify raw mode with
  | error cause =>
      rw [hverify] at h
      cases h
  | ok checksum =>
      rw [hverify] at h
      obtain ⟨covered, rfl, hlen, hcheck⟩ := eq_of_verify hverify
      match covered, hlen with
      | reserved :: kind :: hi :: lo :: payload, _ =>
          have hactual : (delimiter :: ((reserved :: kind :: hi :: lo :: payload)
              ++ Word.be16 checksum ++ [delimiter])).length - overhead = payload.length := by
            simp [overhead]
          dsimp only [List.cons_append] at h hactual
          rw [hactual] at h
          split at h
          · cases h
          · rename_i hdeclared
            rw [Classical.not_not] at hdeclared
            rw [List.append_assoc, List.take_left] at h
            cases h
            have hfield : UInt16.ofNat payload.length = Word.ofBytes16 hi lo := by
              rw [← hdeclared, UInt16.ofNat_toNat]
            have hbody : bodyUnder reserved kind payload
                = reserved :: kind :: hi :: lo :: payload := by
              unfold bodyUnder
              rw [hfield, Word.be16_ofBytes16]
              rfl
            refine ⟨reserved, ?_, ?_, ?_⟩
            · unfold bytesUnder
              rw [hbody]
            · show payload.length ≤ maxPayload
              rw [← hdeclared]
              exact Nat.le_of_lt_succ (Word.ofBytes16 hi lo).toNat_lt
            · rw [hbody]
              exact hcheck

/-- So it begins with the delimiter and announces its own length. -/
theorem announcedLength_of_parse {raw : Bytes} {mode : ChecksumMode} {f : Frame}
    (h : parse raw mode = .ok f) :
    raw.head? = some delimiter ∧ announcedLength raw = some raw.length := by
  obtain ⟨reserved, rfl, hlen, -⟩ := eq_of_parse h
  refine ⟨rfl, ?_⟩
  rw [length_bytesUnder]
  show some ((Word.ofBytes16 _ _).toNat + overhead) = _
  rw [Word.ofBytes16_be16, toNat_length_field hlen]

-- =========================================================== the format

/-- Bytes in the format of a frame: a payload that fits, under some kind and
some reserved byte, checksummed in a mode, between delimiters. -/
structure LaidOut (mode : ChecksumMode) (reserved kind : UInt8) (payload raw : Bytes) : Prop where
  fits : payload.length ≤ maxPayload
  bytes : raw = framed (bodyUnder reserved kind payload)
    (mode.checksum (bodyUnder reserved kind payload))

section

variable {mode : ChecksumMode} {reserved kind : UInt8} {payload raw : Bytes}

theorem LaidOut.parse_eq (h : LaidOut mode reserved kind payload raw) :
    parse raw mode
      = .ok ⟨kind, payload, mode.checksum (bodyUnder reserved kind payload)⟩ := by
  obtain ⟨hfits, rfl⟩ := h
  have hread := parse_bytesUnder
    (f := ⟨kind, payload, mode.checksum (bodyUnder reserved kind payload)⟩) hfits reserved mode
  rw [if_pos rfl] at hread
  exact hread

/-- Bytes are in the format in one way: kind and payload are those that are
read, and the reserved byte has its place. -/
theorem LaidOut.unique (h : LaidOut mode reserved kind payload raw) {reserved' kind' : UInt8}
    {payload' : Bytes} (h' : LaidOut mode reserved' kind' payload' raw) :
    reserved' = reserved ∧ kind' = kind ∧ payload' = payload := by
  have hread := h'.parse_eq
  rw [h.parse_eq] at hread
  have hframe := Except.ok.inj hread
  have hplace : some reserved' = some reserved := by
    rw [← show raw[1]? = some reserved' from h'.bytes ▸ rfl,
      ← show raw[1]? = some reserved from h.bytes ▸ rfl]
  exact ⟨Option.some.inj hplace, (congrArg Frame.kind hframe).symm,
    (congrArg Frame.payload hframe).symm⟩

theorem exists_laidOut_of_parse {f : Frame} (h : parse raw mode = .ok f) :
    ∃ reserved, LaidOut mode reserved f.kind f.payload raw
      ∧ f.checksum = mode.checksum (bodyUnder reserved f.kind f.payload) := by
  obtain ⟨reserved, hbytes, hfits, hsum⟩ := eq_of_parse h
  refine ⟨reserved, ⟨hfits, ?_⟩, hsum⟩
  rw [hbytes, ← hsum]
  rfl

end

/-- The host writes what it read only if the reserved byte was zero. -/
theorem toBytes_eq_bytesUnder_iff {f : Frame} {reserved : UInt8} :
    f.toBytes = bytesUnder reserved f ↔ reserved = 0 := by
  constructor
  · intro h
    have hplace : some (0 : UInt8) = some reserved := congrArg (fun raw => raw[1]?) h
    exact (Option.some.inj hplace).symm
  · rintro rfl
    rfl

/-- Reading accepts the bytes in the format of a frame and no others: they
are so in one way, and what is read is the kind, the payload and the
checksum laid out in them. The frame is written back as these bytes exactly
if the reserved byte was zero, and is then the one built of its kind and
its payload. -/
theorem parse_laidOut (raw : Bytes) (mode : ChecksumMode) :
    (∀ f, parse raw mode = .ok f ↔ ∃ reserved kind payload,
        LaidOut mode reserved kind payload raw
          ∧ f = ⟨kind, payload, mode.checksum (bodyUnder reserved kind payload)⟩)
      ∧ ∀ reserved kind payload, LaidOut mode reserved kind payload raw →
        (∀ reserved' kind' payload', LaidOut mode reserved' kind' payload' raw →
            reserved' = reserved ∧ kind' = kind ∧ payload' = payload)
          ∧ ∀ f, parse raw mode = .ok f →
            (f.toBytes = raw ↔ reserved = 0)
              ∧ (reserved = 0 → build kind payload mode = .ok f) := by
  constructor
  · intro f
    constructor
    · intro h
      obtain ⟨reserved, hlaid, hsum⟩ := exists_laidOut_of_parse h
      refine ⟨reserved, f.kind, f.payload, hlaid, ?_⟩
      rw [← hsum]
    · rintro ⟨reserved, kind, payload, hlaid, rfl⟩
      exact hlaid.parse_eq
  · intro reserved kind payload hlaid
    refine ⟨fun _ _ _ hlaid' => hlaid.unique hlaid', ?_⟩
    intro f hread
    rw [hlaid.parse_eq] at hread
    obtain rfl := (Except.ok.inj hread).symm
    constructor
    · rw [hlaid.bytes]
      exact toBytes_eq_bytesUnder_iff
    · rintro rfl
      exact build_of_le hlaid.fits kind mode

/-- An acknowledgement, and one under another reserved byte, which is read
as well but is not written so. -/
theorem parse_laidOut_ack :
    (∃ f, parse [0x7E, 0x00, 0x80, 0x00, 0x00, 0xFF, 0x7F, 0x7E] .sum = .ok f
        ∧ f.toBytes = [0x7E, 0x00, 0x80, 0x00, 0x00, 0xFF, 0x7F, 0x7E]
        ∧ build 0x80 [] .sum = .ok f)
      ∧ ∃ f, parse [0x7E, 0x05, 0x80, 0x00, 0x00, 0xFA, 0x7F, 0x7E] .sum = .ok f
        ∧ f.toBytes ≠ [0x7E, 0x05, 0x80, 0x00, 0x00, 0xFA, 0x7F, 0x7E] := by
  have hzero : LaidOut .sum 0x00 0x80 [] [0x7E, 0x00, 0x80, 0x00, 0x00, 0xFF, 0x7F, 0x7E] :=
    ⟨by decide, by decide +kernel⟩
  have hfive : LaidOut .sum 0x05 0x80 [] [0x7E, 0x05, 0x80, 0x00, 0x00, 0xFA, 0x7F, 0x7E] :=
    ⟨by decide, by decide +kernel⟩
  constructor
  · obtain ⟨hbytes, hbuilt⟩ := ((parse_laidOut _ _).2 _ _ _ hzero).2 _ hzero.parse_eq
    exact ⟨_, hzero.parse_eq, hbytes.2 rfl, hbuilt rfl⟩
  · obtain ⟨hbytes, -⟩ := ((parse_laidOut _ _).2 _ _ _ hfive).2 _ hfive.parse_eq
    exact ⟨_, hfive.parse_eq, fun hsame => absurd (hbytes.1 hsame) (by decide)⟩

-- ============================================================ the wire

@[simp] theorem unstuff_encode (f : Frame) : Stuffing.unstuff f.encode = f.toBytes :=
  Stuffing.unstuff_stuff _

/-- Frames with the same bytes are the same: the length of the whole tells
where the payload ends. -/
theorem toBytes_injective {f g : Frame} (h : f.toBytes = g.toBytes) : f = g := by
  have hlen : f.payload.length = g.payload.length := by
    have := congrArg List.length h
    simpa using this
  obtain ⟨-, hrest⟩ := List.cons_eq_cons.1 h
  obtain ⟨hbody, hsum⟩ := List.append_inj (List.append_cancel_right hrest) (by simp [hlen])
  obtain ⟨-, hbody⟩ := List.cons_eq_cons.1 hbody
  obtain ⟨hkind, hbody⟩ := List.cons_eq_cons.1 hbody
  obtain ⟨-, hpayload⟩ := List.append_inj hbody rfl
  have hchecksum := Word.be16_injective hsum
  cases f
  cases g
  dsimp only at hkind hpayload hchecksum
  rw [hkind, hpayload, hchecksum]

/-- So they are the same if they are the same on the wire. -/
theorem encode_injective {f g : Frame} (h : f.encode = g.encode) : f = g := by
  apply toBytes_injective
  rw [← unstuff_encode f, ← unstuff_encode g, h]

/-- Every payload that fits is built into a frame, which is read back from
its wire and from no other frame's; a longer one is refused. -/
theorem parse_unstuff_encode (kind : UInt8) (payload : Bytes) (mode : ChecksumMode) :
    (payload.length ≤ 65535 →
      ∃ f, build kind payload mode = .ok f
        ∧ f.kind = kind ∧ f.payload = payload ∧ f.checksum = mode.checksum (body kind payload)
        ∧ Stuffing.unstuff f.encode = f.toBytes
        ∧ parse (Stuffing.unstuff f.encode) mode = .ok f
        ∧ ∀ g : Frame, g.kind ≠ kind ∨ g.payload ≠ payload → g.encode ≠ f.encode)
    ∧ (65535 < payload.length →
      build kind payload mode = .error (.payloadTooLarge payload.length)) := by
  constructor
  · intro hlen
    refine ⟨sealed kind payload mode, build_of_le hlen kind mode, rfl, rfl, rfl,
      unstuff_encode _, ?_, ?_⟩
    · rw [unstuff_encode]
      exact parse_toBytes_sealed hlen kind mode
    · intro g hother hsame
      have hg := encode_injective hsame
      subst hg
      rcases hother with hkind | hpayload
      · exact hkind rfl
      · exact hpayload rfl
  · intro hlong
    unfold build
    exact if_pos hlong

/-- A frame all of whose content has to be stuffed, and the shortest
payload that is too long. -/
theorem parse_unstuff_encode_stuffed :
    (∃ f, build 0x7E [0x7D, 0x7E] .crc = .ok f
      ∧ f.encode = [0x7E, 0x00, 0x7D, 0x5E, 0x00, 0x02, 0x7D, 0x5D, 0x7D, 0x5E, 0x5D, 0x12, 0x7E]
      ∧ parse (Stuffing.unstuff f.encode) .crc = .ok f
      ∧ (sealed 0x7D [0x7D, 0x7E] .crc).encode ≠ f.encode)
    ∧ build 0x7E (List.replicate 65536 0) .sum = .error (.payloadTooLarge 65536) := by
  constructor
  · obtain ⟨f, hbuild, -, -, -, -, hparse, hother⟩ :=
      (parse_unstuff_encode 0x7E [0x7D, 0x7E] .crc).1 (by decide)
    refine ⟨f, hbuild, ?_, hparse, hother _ (.inl (by decide))⟩
    rw [build_of_le (by decide)] at hbuild
    rw [← Except.ok.inj hbuild]
    decide +kernel
  · have hlong : (List.replicate 65536 (0 : UInt8)).length = 65536 := List.length_replicate
    have hrefused := (parse_unstuff_encode 0x7E (List.replicate 65536 0) .sum).2
      (by rw [hlong]; decide)
    rwa [hlong] at hrefused

/-- No frame is mistaken for a probe. -/
theorem encode_ne_probe (f : Frame) : f.encode ≠ [delimiter] := by
  intro h
  have hlen := congrArg (fun wire => (Stuffing.unstuff wire).length) h
  simp only [unstuff_encode, length_toBytes, overhead] at hlen
  cases hlen

end Frame

end FlashLink
