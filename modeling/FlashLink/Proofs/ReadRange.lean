/-
What reading a range leaves behind, whichever way it ends.

A piece goes to the sink, and the window moves past it, only once its
reply was accepted and is as long as was asked for. `Delivery` is such a
piece: the request, the chunks read behind it, and the bytes it brought.
`Gained` says that some deliveries are all that lies between two
readings, so that sink and window agree by construction, and `Fetches`
how the loop ends: with the window done, or with one request more that
brought no piece.

Nothing is assumed of the channel or the device, and the window may wrap
around the end of the address space.

The ranges of a block device went through a check on block numbers. What
is asked for there lies end to end inside the blocks, and those inside
the address space (`readBlocks_inside`). The check refuses what ends behind
the device. It also refuses all of the device at once and nothing at its
end, because it counts their bytes in words that do not hold as many as the
device has (`readBlocks_refused_iff`).
-/
import FlashLink.Proofs.Discipline
import FlashLink.Proofs.StopAndWait

namespace FlashLink

open Link (Spoke request)
open Stuffing (unstuff)

namespace Link.Spoke

variable {σ : Type} {link after : Link σ} {rounds : List Round}

/-- What rounds write. -/
theorem sent (h : Spoke link rounds after) :
    after.channel.sent
      = link.channel.sent ++ rounds.map fun r => request r.command r.payload link.mode := by
  unfold Channel.sent
  rw [h.traffic, List.filterMap_append]
  congr 1
  clear h
  induction rounds with
  | nil => rfl
  | cons r rest ih =>
      rw [List.flatMap_cons, List.filterMap_append, ih]
      simp [Round.traffic, List.filterMap_map]

end Link.Spoke

variable {σ : Type}

namespace Upload

-- ============================================================ one piece

/-- A piece that came: its request, the chunks read behind that, and the
bytes. -/
structure Delivery where
  request : ReadRequest
  heard : List Bytes
  data : Bytes

namespace Delivery

/-- The round it takes on a channel. -/
def round (d : Delivery) : Round := ⟨.readFlashMidst, d.request.toBytes, d.heard⟩

/-- The last chunks that were read are a reply with its bytes, and these
are as many as were asked for. -/
def Accepted (mode : ChecksumMode) (d : Delivery) : Prop :=
  d.data.length = d.request.size.toNat
    ∧ ∃ missed last f, d.heard = missed ++ last ∧ Link.Decodes (unstuff last.flatten) mode f
      ∧ f.reply = .readFlashData ∧ f.payload = d.data

end Delivery

/-- What some deliveries bring. -/
def brought (pieces : List Delivery) : Bytes := pieces.flatMap Delivery.data

variable [Peer σ] {link after : Link σ}

/-- How a piece that is asked for does not come: there is no reply that
is accepted, or it is longer or shorter than that. -/
inductive Refuses (asked : ReadRequest) (link : Link σ) : Failure → Link σ → Prop where
  | exchange {cause : Failure} {after : Link σ}
      (h : Link.exchange .readFlashMidst asked.toBytes piecePolicy link = .error cause after) :
      Refuses asked link cause after
  | length {f : Frame} {after : Link σ}
      (h : Link.exchange .readFlashMidst asked.toBytes piecePolicy link = .ok f after)
      (hlen : f.payload.length ≠ asked.size.toNat) :
      Refuses asked link (.protocol (.shortData asked.size.toNat f.payload.length)) after

theorem refuses_of_error {asked : ReadRequest} {cause : Failure}
    (h : readPiece asked.size asked.offset link = .error cause after) :
    Refuses asked link cause after := by
  cases hexchange : Link.exchange .readFlashMidst
      (ReadRequest.toBytes { size := asked.size, offset := asked.offset }) piecePolicy link with
  | error reason last =>
      rw [readPiece_of_error hexchange] at h
      cases h
      exact .exchange hexchange
  | ok f last =>
      rw [readPiece_of_ok hexchange] at h
      split at h
      · cases h
      · rename_i hlen
        cases h
        exact .length hexchange hlen

/-- A piece that is asked for is one round, and a delivery if it comes. -/
theorem readPiece_spoke (asked : ReadRequest) (hconn : link.channel.connected = true) :
    ∃ heard, Spoke link [⟨.readFlashMidst, asked.toBytes, heard⟩]
        (endState (readPiece asked.size asked.offset link))
      ∧ ∀ data after, readPiece asked.size asked.offset link = .ok data after →
        Delivery.Accepted link.mode ⟨asked, heard, data⟩ := by
  have hlen : asked.toBytes.length ≤ Frame.maxPayload := by
    rw [asked.length_toBytes]
    decide
  obtain ⟨heard, hspoke, hok⟩ :
      ∃ heard, Spoke link [⟨.readFlashMidst, asked.toBytes, heard⟩] _ ∧ _ :=
    Link.exchange_spoke hlen piecePolicy hconn
  refine ⟨heard, ?_⟩
  cases hexchange : Link.exchange .readFlashMidst
      (ReadRequest.toBytes { size := asked.size, offset := asked.offset }) piecePolicy link with
  | error cause last =>
      rw [hexchange] at hspoke
      rw [readPiece_of_error hexchange]
      refine ⟨hspoke, ?_⟩
      intro data after h
      cases h
  | ok f last =>
      rw [hexchange] at hspoke
      obtain ⟨haccept, missed, chunks, hheard, hdecodes⟩ := hok f last hexchange
      have hreply : f.reply = .readFlashData :=
        (Policy.accepts_iff.1 haccept).resolve_right List.not_mem_nil
      rw [readPiece_of_ok hexchange]
      split
      · rename_i hlen
        refine ⟨hspoke, ?_⟩
        intro data after h
        cases h
        exact ⟨hlen, missed, chunks, f, hheard, hdecodes, hreply, rfl⟩
      · refine ⟨hspoke, ?_⟩
        intro data after h
        cases h

-- ============================================================= the loop

/-- Between two readings some pieces came, and nothing else reached the
sink or moved the window. -/
structure Gained (r : Reading σ) (pieces : List Delivery) (last : Reading σ) : Prop where
  accepted : ∀ d ∈ pieces, d.Accepted r.link.mode
  ahead : r.window.ahead = pieces.map Delivery.request ++ last.window.ahead
  sink : last.sink.bytes.toList = r.sink.bytes.toList ++ brought pieces
  room : last.sink.room = r.sink.room
  transferred :
    last.window.transferred.toNat = r.window.transferred.toNat + (brought pieces).length
  offset : last.window.offset = r.window.offset + UInt32.ofNat (brought pieces).length

namespace Gained

variable {a b c : Reading σ} {pieces more : List Delivery}

omit [Peer σ] in
/-- Nothing came. -/
theorem refl (r : Reading σ) (link : Link σ) : Gained r [] { r with link } where
  accepted := fun _ hd => absurd hd List.not_mem_nil
  ahead := rfl
  sink := (List.append_nil _).symm
  room := rfl
  transferred := rfl
  offset := (UInt32.add_zero _).symm

omit [Peer σ] in
theorem trans (h : Gained a pieces b) (hmode : b.link.mode = a.link.mode)
    (h' : Gained b more c) : Gained a (pieces ++ more) c where
  accepted := by
    intro d hd
    rcases List.mem_append.1 hd with hd | hd
    · exact h.accepted d hd
    · rw [← hmode]
      exact h'.accepted d hd
  ahead := by rw [h.ahead, h'.ahead, List.map_append, List.append_assoc]
  sink := by
    unfold brought
    rw [h'.sink, h.sink, List.flatMap_append, List.append_assoc]
    rfl
  room := h'.room.trans h.room
  transferred := by
    unfold brought
    rw [h'.transferred, h.transferred, List.flatMap_append, List.length_append, ← Nat.add_assoc]
    rfl
  offset := by
    unfold brought
    rw [h'.offset, h.offset, List.flatMap_append, List.length_append, UInt32.ofNat_add,
      ← UInt32.add_assoc]
    rfl

omit [Peer σ] in
/-- One piece came. -/
theorem take {r : Reading σ} {chunk : UInt32} (hnext : r.window.nextChunk? = some chunk)
    {heard : List Bytes} {data : Bytes}
    (haccepted : Delivery.Accepted r.link.mode ⟨⟨chunk, r.window.offset⟩, heard, data⟩)
    (partition : String) (audience : Audience) (link : Link σ) :
    Gained r [⟨⟨chunk, r.window.offset⟩, heard, data⟩]
      (r.take partition audience chunk data link) where
  accepted := by
    intro d hd
    rw [List.mem_singleton.1 hd]
    exact haccepted
  ahead := Window.ahead_of_some hnext
  sink := by
    show (r.sink.bytes.appendList data).toList = _
    rw [Array.appendList_eq_append, Array.toList_appendList]
    simp [brought]
  room := rfl
  transferred := by
    have hlen : data.length = chunk.toNat := haccepted.1
    show (r.window.advance chunk).2.transferred.toNat = _
    rw [Window.transferred_advance (Window.le_remaining_of_some hnext), ← hlen]
    simp [brought]
  offset := by
    have hlen : data.length = chunk.toNat := haccepted.1
    show (r.window.advance chunk).2.offset = _
    rw [r.window.offset_advance (Window.le_remaining_of_some hnext)]
    simp [brought, hlen]

end Gained

/-- How the loop ends. -/
inductive Fetches (r : Reading σ) (moved : Summary) :
    EStateM.Result Failure (Reading σ) Summary → Prop where
  /-- The window is done. -/
  | done {pieces : List Delivery} {last : Reading σ} (hgained : Gained r pieces last)
      (hdone : last.window.isDone = true)
      (hspoke : Spoke r.link (pieces.map Delivery.round) last.link) :
      Fetches r moved
        (.ok ⟨moved.bytes + (brought pieces).length, moved.chunks + pieces.length⟩ last)
  /-- The piece asked for last did not come. -/
  | refused {pieces : List Delivery} {last : Reading σ} {asked : ReadRequest}
      {rest : List ReadRequest} {heard : List Bytes} {before : Link σ} {cause : Failure}
      (hgained : Gained r pieces last) (hahead : last.window.ahead = asked :: rest)
      (hbefore : Spoke r.link (pieces.map Delivery.round) before)
      (hrefused : Refuses asked before cause last.link)
      (hspoke : Spoke r.link
        (pieces.map Delivery.round ++ [⟨.readFlashMidst, asked.toBytes, heard⟩]) last.link) :
      Fetches r moved (.error cause last)
  /-- The device is gone, and a piece would have to be asked for. -/
  | unplugged (hconn : r.link.channel.connected = false) :
      Fetches r moved (.error (.channel .disconnected) r)

/-- A piece in front of the rest. -/
theorem Fetches.behind {r next : Reading σ} {moved : Summary} {chunk : UInt32} {piece : Delivery}
    (hgained : Gained r [piece] next) (hlen : piece.data.length = chunk.toNat)
    (hspoke : Spoke r.link [piece.round] next.link) (hconn : r.link.channel.connected = true)
    {run : EStateM.Result Failure (Reading σ) Summary}
    (h : Fetches next (moved.add chunk) run) : Fetches r moved run := by
  cases h with
  | @done pieces last hrest hdone hmore =>
      have hbytes : (moved.add chunk).bytes + (brought pieces).length
          = moved.bytes + (brought (piece :: pieces)).length := by
        unfold brought
        rw [List.flatMap_cons, List.length_append, hlen, ← Nat.add_assoc]
        rfl
      have hchunks : (moved.add chunk).chunks + pieces.length
          = moved.chunks + (piece :: pieces).length := by
        rw [List.length_cons, Nat.add_comm pieces.length, ← Nat.add_assoc]
        rfl
      rw [hbytes, hchunks]
      exact .done (hgained.trans hspoke.mode hrest) hdone (hspoke.trans hmore)
  | refused hrest hahead hbefore hrefused hmore =>
      exact .refused (hgained.trans hspoke.mode hrest) hahead (hspoke.trans hbefore) hrefused
        (hspoke.trans hmore)
  | unplugged hgone =>
      -- a piece came, so the device is there
      rw [hspoke.connected, hconn] at hgone
      cases hgone

/-- Reading a window, from wherever it stands. -/
theorem readPieces_fetches (partition : String) (audience : Audience) (moved : Summary)
    {r : Reading σ} (hroom : r.sink.room = none) :
    Fetches r moved (readPieces partition audience moved r) := by
  cases hnext : r.window.nextChunk? with
  | none =>
      rw [readPieces_of_none hnext]
      exact .done (.refl r r.link) (Window.isDone_of_none hnext) (.refl r.link)
  | some chunk =>
      cases hconn : r.link.channel.connected with
      | false =>
          have hexchange : Link.exchange .readFlashMidst
              (ReadRequest.toBytes { size := chunk, offset := r.window.offset }) piecePolicy r.link
                = .error (.channel .disconnected) r.link :=
            Link.exchange_of_disconnected (by rw [ReadRequest.length_toBytes]; decide) hconn
          rw [readPieces_of_error hnext (readPiece_of_error hexchange)]
          exact .unplugged hconn
      | true =>
          obtain ⟨heard, hspoke, haccepted⟩ :=
            readPiece_spoke { size := chunk, offset := r.window.offset } hconn
          cases hpiece : readPiece chunk r.window.offset r.link with
          | error cause link =>
              rw [hpiece] at hspoke
              rw [readPieces_of_error hnext hpiece]
              exact .refused (.refl r link) (Window.ahead_of_some hnext) (.refl r.link)
                (refuses_of_error hpiece) hspoke
          | ok data link =>
              rw [hpiece] at hspoke
              have hdelivered := haccepted data link hpiece
              have htold : Spoke r.link _ (r.take partition audience chunk data link).link :=
                hspoke.told _ _ _ _ _
              rw [readPieces_of_ok hnext hpiece hroom]
              exact .behind (.take hnext hdelivered partition audience link) hdelivered.1 htold
                hconn (readPieces_fetches partition audience (moved.add chunk) hroom)
  termination_by r.window.remaining.toNat
  decreasing_by exact Window.remaining_advance_lt hnext

omit [Peer σ] in
/-- Deliveries ask as their rounds do. -/
theorem asks_map_request (mode : ChecksumMode) (pieces : List Delivery) :
    asks mode (pieces.map Delivery.request)
      = (pieces.map Delivery.round).map fun r => request r.command r.payload mode := by
  unfold asks
  rw [List.map_map, List.map_map]
  rfl

/-- However a range ends, over any window and any device: what the sink
gained is what the pieces brought that were accepted, and the window
moved past as much. One request was written for each of them, as the
window had them ahead; a range that fails wrote one more, which brought
no piece, unless the device is gone and nothing was written. One that
does not fail has nothing ahead, and counts what it brought. -/
theorem readRange_agrees (audience : Audience) (u : Upload) (link : Link σ) (window : Window)
    (held : Array UInt8) :
    ∃ pieces : List Delivery, ∃ last : Reading σ,
      (endState (readRange audience (u, ⟨link, window, ⟨held, none⟩⟩))).2 = last
        ∧ Gained ⟨link, window, ⟨held, none⟩⟩ pieces last
        ∧ (∀ moved s, readRange audience (u, ⟨link, window, ⟨held, none⟩⟩) = .ok moved s →
            last.window.isDone = true ∧ window.ahead = pieces.map Delivery.request
              ∧ moved = ⟨(brought pieces).length, pieces.length⟩
              ∧ Spoke link (pieces.map Delivery.round) last.link
              ∧ last.link.channel.sent
                = link.channel.sent ++ asks link.mode (pieces.map Delivery.request))
        ∧ ∀ cause s, readRange audience (u, ⟨link, window, ⟨held, none⟩⟩) = .error cause s →
            (link.channel.connected = false ∧ cause = .channel .disconnected ∧ pieces = []
              ∧ last.link = link)
            ∨ ∃ asked rest heard before, last.window.ahead = asked :: rest
              ∧ Spoke link (pieces.map Delivery.round) before
              ∧ Refuses asked before cause last.link
              ∧ Spoke link (pieces.map Delivery.round
                  ++ [⟨.readFlashMidst, asked.toBytes, heard⟩]) last.link
              ∧ last.link.channel.sent
                = link.channel.sent ++ asks link.mode (pieces.map Delivery.request ++ [asked]) := by
  have hfetches := readPieces_fetches u.partition audience .none
    (r := ⟨link, window, ⟨held, none⟩⟩) rfl
  unfold readRange
  dsimp only
  cases hrun : readPieces u.partition audience .none ⟨link, window, ⟨held, none⟩⟩ with
  | ok moved last =>
      rw [hrun] at hfetches
      cases hfetches with
      | @done pieces last hgained hdone hspoke =>
          refine ⟨pieces, last, rfl, hgained, ?_, ?_⟩
          · intro moved s h
            cases h
            refine ⟨hdone, ?_, ?_, hspoke, ?_⟩
            · have hahead : window.ahead = _ := hgained.ahead
              rw [hahead, Window.ahead_of_isDone hdone, List.append_nil]
            · simp only [Summary.none, Nat.zero_add]
            · rw [hspoke.sent, asks_map_request]
          · intro cause s h
            cases h
  | error cause last =>
      rw [hrun] at hfetches
      cases hfetches with
      | @refused pieces last asked rest heard before cause hgained hahead hbefore hrefused hspoke =>
          refine ⟨pieces, last, rfl, hgained, ?_, ?_⟩
          · intro moved s h
            cases h
          · intro cause s h
            cases h
            refine .inr ⟨asked, rest, heard, before, hahead, hbefore, hrefused, hspoke, ?_⟩
            rw [hspoke.sent, asks_append, asks_map_request, List.map_append]
            rfl
      | unplugged hconn =>
          refine ⟨[], _, rfl, .refl _ link, ?_, ?_⟩
          · intro moved s h
            cases h
          · intro cause s h
            cases h
            exact .inl ⟨hconn, rfl, rfl, rfl⟩

end Upload

-- ========================================================= whole blocks

namespace BlockDevice

open Link (Wrote)
open Window (Tiles)

variable [Peer σ] {link : Link σ}

/-- What a run asks for that reads blocks: pieces of at most a window,
end to end from the first byte of the first block up to `stop`, which is
the end of the last block if the blocks come and no further otherwise. -/
structure AsksInside (d : BlockDevice) (first : UInt64) (count : UInt32) (link : Link σ)
    (run : EStateM.Result Failure (BlockDevice × Link σ) Bytes) (asked : List ReadRequest)
    (stop : Nat) : Prop where
  wrote : Wrote link (Upload.asks link.mode asked) (endState run).2
  tiles : Tiles (first.toNat * blockSize) stop asked
  inside : stop ≤ (first.toNat + count.toNat) * blockSize
  fits : (first.toNat + count.toNat) * blockSize ≤ UInt32.size
  pieces : ∀ r ∈ asked, 1 ≤ r.size.toNat ∧ r.size.toNat ≤ d.window.size.toNat
    ∧ r.offset.toNat + r.size.toNat ≤ UInt32.size
  whole : ∀ data s, run = .ok data s → data.length = count.toNat * blockSize
    ∧ stop = (first.toNat + count.toNat) * blockSize

/-- Reading blocks is refused before anything is written, or it asks for
nothing but these blocks. -/
theorem readBlocks_inside {d : BlockDevice} (hopen : d.isOpen = true) (first : UInt64)
    (count : UInt32) (link : Link σ) :
    readBlocks first count (d, link)
        = .error (.param (.blockRange first.toNat count.toNat)) (d, link)
      ∨ ∃ asked stop,
        AsksInside d first count link (readBlocks first count (d, link)) asked stop := by
  cases hrange : byteRange first count with
  | error argument =>
      left
      rw [readBlocks_of_range_error hopen hrange, eq_blockRange_of_error hrange]
  | ok range =>
      right
      obtain ⟨offset, length⟩ := range
      obtain ⟨hoffset, hlength, hin⟩ := byteRange_eq hrange
      have hsize : d.window.size.toNat < UInt32.size :=
        Nat.lt_of_le_of_lt d.window.fits (by decide)
      have htiles := Window.tiles_requests d.window.pos hsize hin
      have hfollows := readBlocks_follows d first count link
      rw [Call.requests_read hopen hrange, List.map_map] at hfollows
      rw [hoffset, hlength, ← Nat.add_mul] at hin
      rw [hoffset, hlength, ← Nat.add_mul] at htiles
      rw [hoffset, hlength] at hfollows
      -- whatever is asked for in front of the end is of this kind
      have hpieces : ∀ {asked stop}, asked <+: Window.requests d.window.size.toNat
            (first.toNat * blockSize) (count.toNat * blockSize) →
          Tiles (first.toNat * blockSize) stop asked →
          stop ≤ (first.toNat + count.toNat) * blockSize →
          ∀ r ∈ asked, 1 ≤ r.size.toNat ∧ r.size.toNat ≤ d.window.size.toNat
            ∧ r.offset.toNat + r.size.toNat ≤ UInt32.size := by
        intro asked stop hfront hasked hstop r hr
        exact ⟨hasked.pos hr, Window.size_le_of_mem_requests hsize (hfront.subset hr),
          Nat.le_trans (hasked.inside hr).2 (Nat.le_trans hstop hin)⟩
      cases hrun : readBlocks first count (d, link) with
      | ok data s =>
          obtain ⟨-, -, hdata, -⟩ := readBlocks_ok hopen hrun
          refine ⟨_, _, hfollows.of_ok hrun, htiles, Nat.le_refl _, hin,
            hpieces List.prefix_rfl htiles (Nat.le_refl _), ?_⟩
          intro data s h
          cases h
          exact ⟨hdata, rfl⟩
      | error cause s =>
          obtain ⟨buffers, hbuffers, hwrote⟩ := hfollows.of_error hrun
          rw [List.prefix_iff_eq_take.1 hbuffers, ← List.map_take] at hwrote
          have hfront := List.take_prefix buffers.length (Window.requests d.window.size.toNat
            (first.toNat * blockSize) (count.toNat * blockSize))
          obtain ⟨stop, hstop, hasked⟩ := htiles.of_prefix hfront
          refine ⟨_, stop, hwrote, hasked, hstop, hin, hpieces hfront hasked hstop, ?_⟩
          intro data s h
          cases h

/-- An open device that never answers. -/
def mute : BlockDevice × Link Unit :=
  (⟨.ofPartition "boot", defaultWindow, true⟩, .ofChannel (.connect ()) .sum)

/-- The last block of all ends where the address space does, and is
asked for. -/
theorem readBlocks_inside_mute :
    mute.1.isOpen = true ∧ (8388607 + 1) * blockSize = UInt32.size
      ∧ ∃ asked stop,
        AsksInside mute.1 8388607 1 mute.2 (readBlocks 8388607 1 mute) asked stop := by
  have hrange : byteRange 8388607 1 = .ok (0xFFFFFE00, 512) := rfl
  refine ⟨rfl, rfl, (readBlocks_inside (d := mute.1) rfl 8388607 1 mute.2).resolve_left ?_⟩
  intro hrefused
  obtain ⟨hblamed, -⟩ := readBlocks_param rfl hrefused
  rw [hrange] at hblamed
  cases hblamed

-- ====================================================== what is refused

/-- Whether a call is refused for the range of its blocks. -/
def Refused (run : EStateM.Result Failure (BlockDevice × Link σ) Bytes) : Prop :=
  ∃ first count s, run = .error (.param (.blockRange first count)) s

/-- An open device refuses the ranges that end behind it, the empty range at
its end and the range of all its blocks, and no others. It names the range
that it refuses, and that is all it does. -/
theorem readBlocks_refused_iff {d : BlockDevice} (hopen : d.isOpen = true) (first : UInt64)
    (count : UInt32) (link : Link σ) :
    (Refused (readBlocks first count (d, link))
        ↔ blockCount < first.toNat + count.toNat
          ∨ (first.toNat = blockCount ∧ count.toNat = 0)
          ∨ (first.toNat = 0 ∧ count.toNat = blockCount))
      ∧ (Refused (readBlocks first count (d, link)) →
        readBlocks first count (d, link)
          = .error (.param (.blockRange first.toNat count.toNat)) (d, link)) := by
  -- a call is refused when its range is
  have hrefused : Refused (readBlocks first count (d, link))
      ↔ ∃ argument, byteRange first count = .error argument := by
    constructor
    · rintro ⟨start, blocks, s, h⟩
      exact ⟨_, (readBlocks_param hopen h).1⟩
    · rintro ⟨argument, h⟩
      rw [readBlocks_of_range_error hopen h, eq_blockRange_of_error h]
      exact ⟨_, _, _, rfl⟩
  refine ⟨hrefused.trans byteRange_error_iff, ?_⟩
  intro h
  obtain ⟨argument, hrange⟩ := hrefused.1 h
  rw [readBlocks_of_range_error hopen hrange, eq_blockRange_of_error hrange]

/-- The last block is read, with the empty range in front of it; the next one
is refused. -/
theorem readBlocks_refused_iff_mute :
    mute.1.isOpen = true
      ∧ ¬ Refused (readBlocks 8388607 1 mute) ∧ ¬ Refused (readBlocks 8388607 0 mute)
      ∧ readBlocks 8388608 1 mute = .error (.param (.blockRange 8388608 1)) mute := by
  have hlast := (readBlocks_refused_iff (d := mute.1) rfl 8388607 1 mute.2).1
  have hempty := (readBlocks_refused_iff (d := mute.1) rfl 8388607 0 mute.2).1
  obtain ⟨hnext, hnamed⟩ := readBlocks_refused_iff (d := mute.1) rfl 8388608 1 mute.2
  refine ⟨rfl, mt hlast.1 (by decide), mt hempty.1 (by decide), hnamed (hnext.2 (by decide))⟩

/-- Not only ranges outside the device are refused: all its blocks at once
are, and so is no block at its end. -/
theorem readBlocks_refuses_inside :
    mute.1.isOpen = true
      ∧ (0 : UInt64).toNat + (8388608 : UInt32).toNat ≤ blockCount
      ∧ readBlocks 0 8388608 mute = .error (.param (.blockRange 0 8388608)) mute
      ∧ (8388608 : UInt64).toNat + (0 : UInt32).toNat ≤ blockCount
      ∧ readBlocks 8388608 0 mute = .error (.param (.blockRange 8388608 0)) mute := by
  have hwhole : byteRange 0 8388608 = .error (.blockRange 0 8388608) := rfl
  have hend : byteRange 8388608 0 = .error (.blockRange 8388608 0) := rfl
  exact ⟨rfl, by decide, readBlocks_of_range_error (d := mute.1) rfl hwhole, by decide,
    readBlocks_of_range_error (d := mute.1) rfl hend⟩

end BlockDevice

end FlashLink
