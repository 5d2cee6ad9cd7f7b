/-
The pieces of an image, and the loop that sends them.

A window of some size cuts an image into pieces: all of that size but
the last, which may be shorter. The pieces are known before the first
is sent (`pieces`), and so is what any number of them makes up:
the first `j` are the first `j * size` bytes (`flatten_take_pieces`).

The loop is described over any device and any source. Somewhere in a
transfer (`Writing.Over`) the next piece is the one that goes out, if
the source holds it, and its exchange alone decides what follows
(`writePieces_of_ok`, `writePieces_of_error`); if it does not the loop
ends there (`writePieces_of_end`). A source may be longer than the
window or end inside it: `filledPieces` are those that go out. Part way
through an image (`Writing.At`) is the case in which source and window
end together. What a whole run does is an induction along the pieces,
where something is known of the device and where nothing is.
-/
import FlashLink.Proofs.Request
import FlashLink.Proofs.Window
import FlashLink.Transfer.Download

namespace FlashLink

-- ============================================================ the pieces

namespace Window

/-- Bytes in pieces of `size`, the last one possibly shorter. -/
def pieces (size : Nat) (bytes : Bytes) : List Bytes :=
  (List.range ((bytes.length + size - 1) / size)).map fun i => (bytes.drop (i * size)).take size

variable {size : Nat}

theorem length_pieces (size : Nat) (bytes : Bytes) :
    (pieces size bytes).length = (bytes.length + size - 1) / size := by
  simp [pieces]

theorem pieces_nil (hsize : 0 < size) : pieces size [] = [] := by
  apply List.eq_nil_of_length_eq_zero
  rw [length_pieces, List.length_nil, Nat.zero_add]
  exact Nat.div_eq_of_lt (by omega)

theorem length_le_of_mem_pieces {bytes piece : Bytes} (h : piece ∈ pieces size bytes) :
    piece.length ≤ size := by
  obtain ⟨i, -, rfl⟩ := List.mem_map.1 h
  rw [List.length_take]
  exact Nat.min_le_left ..

/-- The first piece, and those of the rest. -/
theorem pieces_of_ne_nil (hsize : 0 < size) {bytes : Bytes} (h : bytes ≠ []) :
    pieces size bytes = bytes.take size :: pieces size (bytes.drop size) := by
  have hpos : 0 < bytes.length := List.length_pos_iff.2 h
  have hrest : bytes.length - min size bytes.length = (bytes.drop size).length := by
    rw [List.length_drop]
    omega
  unfold pieces
  rw [count_of_pos hsize hpos, hrest, List.range_succ_eq_map, List.map_cons, List.map_map]
  simp only [Nat.zero_mul, List.drop_zero]
  congr 1
  apply List.map_congr_left
  intro i _
  simp only [Function.comp_apply, Nat.succ_eq_add_one, List.drop_drop]
  rw [Nat.add_mul, Nat.one_mul, Nat.add_comm]

/-- The first pieces make up the front of the bytes. -/
theorem flatten_take_pieces (hsize : 0 < size) (bytes : Bytes) (j : Nat) :
    ((pieces size bytes).take j).flatten = bytes.take (j * size) := by
  induction j generalizing bytes with
  | zero => simp
  | succ j ih =>
      by_cases h : bytes = []
      · subst h
        simp [pieces_nil hsize]
      · rw [pieces_of_ne_nil hsize h, List.take_succ_cons, List.flatten_cons, ih, ← List.take_add]
        congr 1
        rw [Nat.add_mul, Nat.one_mul, Nat.add_comm]

/-- All of them make up the bytes. -/
theorem flatten_pieces (hsize : 0 < size) (bytes : Bytes) :
    (pieces size bytes).flatten = bytes := by
  have hcover : bytes.length ≤ (pieces size bytes).length * size := by
    rw [length_pieces]
    have hdiv := Nat.div_add_mod (bytes.length + size - 1) size
    have hmod := Nat.mod_lt (bytes.length + size - 1) hsize
    rw [Nat.mul_comm] at hdiv
    omega
  have h := flatten_take_pieces hsize bytes (pieces size bytes).length
  rwa [List.take_length, List.take_of_length_le hcover] at h

/-- There is another piece while bytes are left. -/
theorem lt_length_pieces (hsize : 0 < size) (bytes : Bytes) (k : Nat) :
    k < (pieces size bytes).length ↔ k * size < bytes.length := by
  rw [length_pieces, Nat.lt_iff_add_one_le, Nat.le_div_iff_mul_le hsize, Nat.add_mul,
    Nat.one_mul]
  omega

/-- The pieces up to one of them, and it. -/
theorem take_succ_pieces {bytes : Bytes} {k : Nat} (h : k < (pieces size bytes).length) :
    (pieces size bytes).take (k + 1)
      = (pieces size bytes).take k ++ [(bytes.drop (k * size)).take size] := by
  rw [List.take_add_one, List.getElem?_eq_getElem h]
  simp [pieces]

/-- One of the pieces, and those behind it. -/
theorem drop_pieces {bytes : Bytes} {k : Nat} (h : k < (pieces size bytes).length) :
    (pieces size bytes).drop k
      = (bytes.drop (k * size)).take size :: (pieces size bytes).drop (k + 1) := by
  rw [List.drop_eq_getElem_cons h]
  simp [pieces]

/-- The pieces of the first `left` bytes that a source has whole: all of
them if it holds so many bytes, and else those that end inside it. -/
def filledPieces (size left : Nat) (bytes : Bytes) : List Bytes :=
  if left ≤ bytes.length then pieces size (bytes.take left)
  else (pieces size bytes).take (bytes.length / size)

end Window

-- ============================================================ the source

namespace Content

variable {c : Content} {count : Nat}

theorem length_toBytes (c : Content) : c.toBytes.length = c.size := by
  simp [toBytes, size]

@[simp] theorem toBytes_ofBytes (bytes : Bytes) : (ofBytes bytes).toBytes = bytes := by
  simp [toBytes, ofBytes]

/-- Bytes that are there are taken off the front. -/
theorem read_of_le (h : count ≤ c.size) :
    ∃ rest, read count c = .ok (c.toBytes.take count) rest
      ∧ rest.toBytes = c.toBytes.drop count := by
  have hwanted : count - (c.bytes.take count).length = count - c.bytes.length := by
    rw [List.length_take]
    omega
  have hzeros : count - c.bytes.length ≤ c.zeros := by
    unfold size at h
    omega
  refine ⟨{ bytes := c.bytes.drop count, zeros := c.zeros - (count - c.bytes.length) }, ?_, ?_⟩
  · unfold read toBytes
    simp only [hwanted]
    rw [if_pos hzeros, List.take_append, List.take_replicate, Nat.min_eq_left hzeros]
  · unfold toBytes
    rw [List.drop_append, List.drop_replicate]

/-- Bytes that are not all there are not read. -/
theorem read_of_lt (h : c.size < count) : read count c = .error .unexpectedEnd empty := by
  have hwanted : ¬ count - (c.bytes.take count).length ≤ c.zeros := by
    unfold size at h
    rw [List.length_take]
    omega
  unfold read
  exact if_neg hwanted

/-- So what was read is as much as was wanted. -/
theorem length_of_read {data : Bytes} {rest : Content} (h : read count c = .ok data rest) :
    data.length = count := by
  rcases Nat.lt_or_ge c.size count with hlt | hle
  · rw [read_of_lt hlt] at h
    cases h
  · obtain ⟨_, hread, -⟩ := read_of_le hle
    rw [hread] at h
    cases h
    rw [List.length_take, length_toBytes]
    exact Nat.min_eq_left hle

end Content

/-- An image has the size it is announced with. -/
theorem Files.length_of_image {files : Files} {path : String} {size : UInt32} {source : Content}
    (h : files.image path = .ok (size, source)) : source.toBytes.length = size.toNat := by
  unfold image at h
  split at h
  · cases h
  · split at h
    · rename_i hlt
      cases h
      rw [Content.length_toBytes]
      exact (UInt32.toNat_ofNat_of_lt' hlt).symm
    · cases h

-- ========================================================== the requests

/-- What announces `size` bytes for a target, as it is sent. -/
def Target.announcement (size : UInt32) : Target → Bytes
  | memory address => LoadRequest.toBytes { address, size }
  | partition name => PartitionRequest.toBytes { name, size }

/-- An announcement that is made is that one, and it fits a frame. -/
theorem Target.startPayload_eq {target : Target} {size : UInt32} {payload : Bytes}
    (h : target.startPayload size = .ok payload) :
    payload = target.announcement size ∧ payload.length ≤ Frame.maxPayload := by
  cases target with
  | memory address =>
      cases h
      have hfits : LoadRequest.byteSize ≤ Frame.maxPayload := by decide
      exact ⟨rfl, le_of_eq_of_le (LoadRequest.length_toBytes _) hfits⟩
  | partition name =>
      have hmap : (PartitionRequest.make name size).map PartitionRequest.toBytes
          = .ok payload := h
      cases hmake : PartitionRequest.make name size with
      | error cause =>
          rw [hmake] at hmap
          cases hmap
      | ok r =>
          obtain ⟨rfl, -, -⟩ := PartitionRequest.eq_of_make hmake
          rw [hmake] at hmap
          cases hmap
          have hfits : PartitionRequest.byteSize ≤ Frame.maxPayload := by decide
          exact ⟨rfl, le_of_eq_of_le (PartitionRequest.length_toBytes _) hfits⟩

namespace Download

/-- The requests of a whole image. -/
def requests (target : Target) (size : UInt32) (pieces : List Bytes) : List (Command × Bytes) :=
  (.startData, target.announcement size) :: pieces.map (fun piece => (.midstData, piece))
    ++ [(.endData, [])]

-- ============================================================== the loop

variable {σ : Type} [Peer σ] (target : Target) (audience : Audience) (moved : Summary)

/-- What is written over after one more piece was acknowledged. -/
def Writing.next (w : Writing σ) (target : Target) (audience : Audience) (chunk : UInt32)
    (source : Content) (link : Link σ) : Writing σ :=
  { link := Upload.tellProgress audience .download target.display (w.window.advance chunk).1
      (w.window.advance chunk).2 link
    window := (w.window.advance chunk).2
    source }

theorem writePieces_of_none {w : Writing σ} (h : w.window.nextChunk? = none) :
    writePieces target audience moved w = .ok moved w := by
  rw [writePieces]
  split
  · rfl
  · rename_i hsome
    rw [h] at hsome
    cases hsome

theorem writePieces_of_ok {w : Writing σ} {chunk : UInt32} (h : w.window.nextChunk? = some chunk)
    {data : Bytes} {source : Content} (hread : Content.read chunk.toNat w.source = .ok data source)
    {f : Frame} {link : Link σ}
    (hexchange : Link.exchange .midstData data .ack w.link = .ok f link) :
    writePieces target audience moved w
      = writePieces target audience (moved.add chunk)
          (w.next target audience chunk source link) := by
  rw [writePieces]
  split
  · rename_i hnone
    rw [h] at hnone
    cases hnone
  · rename_i chunk' hsome
    rw [h] at hsome
    cases hsome
    rw [hread]
    dsimp only
    rw [hexchange]
    rfl

/-- The first piece that is not acknowledged is the last. -/
theorem writePieces_of_error {w : Writing σ} {chunk : UInt32}
    (h : w.window.nextChunk? = some chunk) {data : Bytes} {source : Content}
    (hread : Content.read chunk.toNat w.source = .ok data source) {cause : Failure} {link : Link σ}
    (hexchange : Link.exchange .midstData data .ack w.link = .error cause link) :
    writePieces target audience moved w = .error cause { w with link, source } := by
  rw [writePieces]
  split
  · rename_i hnone
    rw [h] at hnone
    cases hnone
  · rename_i chunk' hsome
    rw [h] at hsome
    cases hsome
    rw [hread]
    dsimp only
    rw [hexchange]

/-- Somewhere in a transfer: the window has `left` bytes left, and the
source holds `bytes`, be they as many or not. -/
structure Writing.Over (size left : Nat) (bytes : Bytes) (w : Writing σ) : Prop where
  size_eq : w.window.size.size.toNat = size
  window : ∃ offset, w.window.At offset left
  source : w.source.toBytes = bytes

namespace Writing.Over

variable {w : Writing σ} {size left : Nat} {bytes : Bytes}

omit [Peer σ] in
theorem size_pos (h : w.Over size left bytes) : 0 < size := by
  rw [← h.size_eq]
  exact w.window.size.pos

omit [Peer σ] in
theorem done (h : w.Over size 0 bytes) : w.window.nextChunk? = none := by
  obtain ⟨offset, hat⟩ := h.window
  exact hat.done

omit [Peer σ] in
/-- The next piece goes from what is left to what is gone, if the
source holds it. -/
theorem next (h : w.Over size left bytes) (hleft : 0 < left) :
    ∃ chunk, w.window.nextChunk? = some chunk ∧ chunk.toNat = min size left
      ∧ (min size left ≤ bytes.length → ∃ source,
          Content.read chunk.toNat w.source = .ok (bytes.take (min size left)) source
          ∧ ∀ target audience link, (w.next target audience chunk source link).Over size
              (left - min size left) (bytes.drop (min size left)))
      ∧ (bytes.length < min size left →
          Content.read chunk.toNat w.source = .error .unexpectedEnd .empty) := by
  obtain ⟨offset, hat⟩ := h.window
  have hnext := hat.nextChunk? hleft
  have hchunk := w.window.toNat_chunk left
  have hadvance := hat.advance
  have hlength : w.source.size = bytes.length := by
    rw [← Content.length_toBytes, h.source]
  rw [h.size_eq] at hnext hchunk hadvance
  refine ⟨_, hnext, hchunk, ?_, ?_⟩
  · intro hle
    rw [← hlength] at hle
    obtain ⟨source, hread, hrest⟩ := Content.read_of_le hle
    rw [h.source] at hread hrest
    rw [hchunk]
    refine ⟨source, hread, ?_⟩
    intro target audience link
    exact ⟨h.size_eq, ⟨_, hadvance⟩, hrest⟩
  · intro hlt
    rw [← hlength] at hlt
    rw [hchunk]
    exact Content.read_of_lt hlt

end Writing.Over

/-- Part way through an image: `k` of its pieces are gone, the source
holds the others, and the window is where they begin. -/
structure Writing.At (size : Nat) (image : Bytes) (k : Nat) (w : Writing σ) : Prop where
  size_eq : w.window.size.size.toNat = size
  window : ∃ offset, w.window.At offset (image.length - k * size)
  source : w.source.toBytes = image.drop (k * size)

namespace Writing.At

variable {w : Writing σ} {size k : Nat} {image : Bytes}

omit [Peer σ] in
theorem isOver (h : w.At size image k) :
    w.Over size (image.length - k * size) (image.drop (k * size)) :=
  ⟨h.size_eq, h.window, h.source⟩

omit [Peer σ] in
theorem size_pos (h : w.At size image k) : 0 < size := h.isOver.size_pos

omit [Peer σ] in
/-- Nothing is gone yet. -/
theorem zero {offset : Nat} (hsize : w.window.size.size.toNat = size)
    (hwindow : w.window.At offset image.length) (hsource : w.source.toBytes = image) :
    w.At size image 0 := by
  refine ⟨hsize, ⟨offset, ?_⟩, ?_⟩
  · rwa [Nat.zero_mul, Nat.sub_zero]
  · rwa [Nat.zero_mul, List.drop_zero]

omit [Peer σ] in
/-- Nothing is left. -/
theorem done (h : w.At size image k) (hk : (Window.pieces size image).length ≤ k) :
    w.window.nextChunk? = none := by
  have hover : ¬ k * size < image.length := by
    intro hlt
    exact Nat.not_lt.2 hk ((Window.lt_length_pieces h.size_pos image k).2 hlt)
  have hlast := h.isOver
  rw [Nat.sub_eq_zero_of_le (Nat.not_lt.1 hover)] at hlast
  exact hlast.done

omit [Peer σ] in
/-- The next piece is read whole, and goes from what is left to what is
gone. -/
theorem next (h : w.At size image k) (hk : k < (Window.pieces size image).length) :
    ∃ chunk source, w.window.nextChunk? = some chunk
      ∧ chunk.toNat = ((image.drop (k * size)).take size).length
      ∧ Content.read chunk.toNat w.source = .ok ((image.drop (k * size)).take size) source
      ∧ ∀ target audience link,
        (w.next target audience chunk source link).At size image (k + 1) := by
  have hleft : k * size < image.length := (Window.lt_length_pieces h.size_pos image k).1 hk
  have hbehind : (image.drop (k * size)).length = image.length - k * size := List.length_drop
  obtain ⟨chunk, hnext, hchunk, hread, -⟩ := h.isOver.next (Nat.sub_pos_of_lt hleft)
  obtain ⟨source, hread, hrest⟩ := hread (by rw [hbehind]; exact Nat.min_le_right _ _)
  have hfront : (image.drop (k * size)).take (min size (image.length - k * size))
      = (image.drop (k * size)).take size := by
    rw [← hbehind, ← List.take_eq_take_min]
  rw [hfront] at hread
  refine ⟨chunk, source, hnext, ?_, hread, ?_⟩
  · rw [hchunk, List.length_take, hbehind]
  intro target audience link
  obtain ⟨hsize, ⟨offset, hwindow⟩, hsource⟩ := hrest target audience link
  refine ⟨hsize, ⟨offset, ?_⟩, ?_⟩
  · have hgone : image.length - k * size - min size (image.length - k * size)
        = image.length - (k + 1) * size := by
      rw [Nat.add_mul, Nat.one_mul]
      omega
    rwa [hgone] at hwindow
  · rw [hsource, List.drop_drop, Nat.add_mul, Nat.one_mul]
    rcases Nat.le_total size (image.length - k * size) with hle | hle
    · rw [Nat.min_eq_left hle]
    · -- the last piece: either way nothing stays behind
      rw [Nat.min_eq_right hle, List.drop_eq_nil_of_le (by omega),
        List.drop_eq_nil_of_le (by omega)]

end Writing.At

-- ============================================================= the whole

section

variable {target audience} {window : Window} {source : Content} {size : UInt32} {link : Link σ}

/-- A download announces, sends the pieces and completes; the first
failure ends it. -/
theorem run_eq :
    run target window source audience link
      = match announce target window.total link with
        | .error cause after => .error cause after
        | .ok _ begun =>
          match writePieces target audience .none { link := begun, window, source } with
          | .error cause w => .error cause w.link
          | .ok moved w =>
            match Link.exchange .endData [] .ack w.link with
            | .error cause after => .error cause after
            | .ok _ after => .ok moved after := by
  unfold run start writeAll finish toTarget
  dsimp only
  cases announce target window.total link with
  | error cause after => rfl
  | ok value begun =>
      dsimp only
      cases writePieces target audience .none { link := begun, window, source } with
      | error cause w => rfl
      | ok moved w =>
          dsimp only
          cases Link.exchange .endData [] .ack w.link <;> rfl

/-- A download whose window was checked is its run. -/
theorem download_eq (windowSize : WindowSize) :
    download target size windowSize.size source audience link
      = run target (.start 0 size windowSize) source audience link := by
  unfold download
  rw [Window.make_size]

theorem announce_of_ok {payload : Bytes} (h : target.startPayload size = .ok payload) {f : Frame}
    {after : Link σ}
    (hexchange : Link.exchange .startData payload target.startPolicy link = .ok f after) :
    announce target size link = .ok () after := by
  unfold announce
  rw [h]
  dsimp only
  rw [hexchange]

theorem announce_of_error {payload : Bytes} (h : target.startPayload size = .ok payload)
    {cause : Failure} {after : Link σ}
    (hexchange : Link.exchange .startData payload target.startPolicy link = .error cause after) :
    announce target size link = .error (refuseSize target size cause) after := by
  unfold announce
  rw [h]
  dsimp only
  rw [hexchange]

end

end Download

end FlashLink
