/-
A dump copies the blocks it was asked for.

Over a device that stores them all, every batch is a range of blocks
inside the address space, is read whole, and is closed up behind the
batch before it: what the sink gains is what is stored in the blocks, in
order, and what the device is asked is one window for each batch, end to
end (`copyBatches_device`). Windows begin anew with every batch, so no
request reaches over the end of one (`Batches`).

The file such a dump was received into holds exactly these blocks.
Making a file changes no directory, so the path leads to it afterwards
as it did before (`walk_store`), and what was stored is read back.
-/
import FlashLink.Proofs.Untouched

namespace FlashLink

namespace Files

-- ============================================================= the files

variable {fs : Files} {names : List String} {content : Content}

theorem stored_self (fs : Files) (names : List String) (content : Content) :
    Files.entry? (fs.store names content) names = some (.file content) := by
  unfold entry? store
  simp

theorem stored_of_ne {other : List String} (h : other ≠ names) :
    Files.entry? (fs.store names content) other = fs.entry? other := by
  unfold entry? store
  dsimp only
  rw [List.find?_cons_of_neg (by simpa using Ne.symm h), List.find?_filter]
  congr 2
  funext entry
  by_cases hentry : entry.1 = other
  · simp [hentry, h]
  · simp [hentry]

/-- What is stored last under some names is all that stays. -/
theorem store_store (fs : Files) (names : List String) (old content : Content) :
    (fs.store names old).store names content = fs.store names content := by
  unfold store
  simp

/-- Other entries are found as before. -/
theorem lookUp_store {here : List String} {name : String} (h : here ++ [name] ≠ names) :
    (fs.store names content).lookUp here name = fs.lookUp here name := by
  unfold lookUp
  rw [stored_of_ne h]

theorem found_of_lookUp {here : List String} {name : String} {entry : Entry}
    (h : fs.lookUp here name = .ok entry) : fs.entry? (here ++ [name]) = some entry := by
  unfold lookUp at h
  split at h
  · cases h
  · split at h
    · rename_i found hfound
      cases h
      exact hfound
    · cases h

/-- A file that takes no directory's place leaves every way as it was. -/
theorem walk_store (h : fs.entry? names ≠ some .directory) {slash : Bool} {path here : List String}
    {place : Place} (hwalk : fs.walk slash here path = .ok place) :
    (fs.store names content).walk slash here path = .ok place := by
  induction path generalizing here with
  | nil => exact hwalk
  | cons name rest ih =>
      unfold walk at hwalk ⊢
      by_cases hdot : name = "."
      · rw [if_pos hdot] at hwalk ⊢
        exact ih hwalk
      rw [if_neg hdot] at hwalk ⊢
      by_cases hdots : name = ".."
      · rw [if_pos hdots] at hwalk ⊢
        exact ih hwalk
      rw [if_neg hdots] at hwalk ⊢
      by_cases hlast : rest = []
      · rw [if_pos hlast] at hwalk ⊢
        exact hwalk
      rw [if_neg hlast] at hwalk ⊢
      -- on the way there are directories, and the file is none
      cases hlook : fs.lookUp here name with
      | error cause =>
          rw [hlook] at hwalk
          cases hwalk
      | ok entry =>
          rw [hlook] at hwalk
          cases entry with
          | file content => cases hwalk
          | directory =>
              have hne : here ++ [name] ≠ names := by
                rintro rfl
                exact h (found_of_lookUp hlook)
              rw [lookUp_store hne, hlook]
              exact ih hwalk

theorem resolve_store (h : fs.entry? names ≠ some .directory) {path : String} {place : Place}
    (hresolve : fs.resolve path = .ok place) :
    (fs.store names content).resolve path = .ok place := by
  unfold resolve at hresolve ⊢
  by_cases hnul : '\x00' ∈ path.toList
  · rw [if_pos hnul] at hresolve
    cases hresolve
  rw [if_neg hnul] at hresolve ⊢
  by_cases hlong : pathLimit ≤ path.utf8ByteSize
  · rw [if_pos hlong] at hresolve
    cases hresolve
  rw [if_neg hlong] at hresolve ⊢
  by_cases hempty : path = ""
  · rw [if_pos hempty] at hresolve
    cases hresolve
  rw [if_neg hempty] at hresolve ⊢
  exact walk_store h hresolve

/-- A file is made under a name that a path ends in, in no directory's
place. -/
theorem eq_of_create {path : String} {made : Files} (h : fs.create path = .ok (names, made)) :
    ∃ here name, fs.resolve path = .ok (.inside here name false) ∧ names = here ++ [name]
      ∧ ¬ nameLimit < name.utf8ByteSize ∧ fs.entry? names ≠ some .directory
      ∧ made = fs.store names .empty := by
  unfold create at h
  split at h
  · cases h
  · cases h
  · rename_i here name slash hresolve
    cases slash with
    | true => cases h
    | false =>
        dsimp only at h
        rw [if_neg Bool.false_ne_true] at h
        have hlook : (fs.lookUp here name = .error .notFound
            ∨ ∃ content, fs.lookUp here name = .ok (.file content))
            ∧ here ++ [name] = names ∧ fs.store (here ++ [name]) .empty = made := by
          split at h
          · cases h
          · rename_i content hfile
            cases h
            exact ⟨.inr ⟨content, hfile⟩, rfl, rfl⟩
          · rename_i hnone
            cases h
            exact ⟨.inl hnone, rfl, rfl⟩
          · cases h
        obtain ⟨hfound, rfl, rfl⟩ := hlook
        have hshort : ¬ nameLimit < name.utf8ByteSize := by
          intro hlong
          unfold lookUp at hfound
          rw [if_pos hlong] at hfound
          rcases hfound with hnone | ⟨content, hfile⟩
          · cases hnone
          · cases hfile
        refine ⟨here, name, hresolve, rfl, hshort, ?_, rfl⟩
        intro hdirectory
        unfold lookUp at hfound
        rw [if_neg hshort, hdirectory] at hfound
        rcases hfound with hnone | ⟨content, hfile⟩
        · cases hnone
        · cases hfile

/-- What is stored in a file that was made is read from it. -/
theorem read_of_create {path : String} {made : Files} (h : fs.create path = .ok (names, made))
    (content : Content) : (made.store names content).read path = .ok content := by
  obtain ⟨here, name, hresolve, rfl, hshort, hplace, rfl⟩ := eq_of_create h
  have hlook : (fs.store (here ++ [name]) content).lookUp here name = .ok (.file content) := by
    unfold lookUp
    rw [if_neg hshort, stored_self]
  rw [store_store]
  unfold read
  rw [resolve_store hplace hresolve]
  dsimp only
  rw [hlook]
  rfl

end Files

open Link (Attuned Served Asked)

/-- No name in the table ends before its end. -/
theorem PartitionTable.nul_not_mem : ∀ name ∈ names, '\x00' ∉ name.toList := by
  decide

-- =========================================================== the batches

namespace BlockDevice

/-- A short range of blocks inside the device is read as it is stored. -/
theorem readBlocks_device {d : BlockDevice} {link : Link Device} (hopen : d.isOpen = true)
    (hlink : Attuned link) (hempty : link.channel.arrivals = []) {first : UInt64} {count : UInt32}
    (hpos : 0 < count.toNat) (hcount : count.toNat < blockCount)
    (hin : first.toNat + count.toNat ≤ blockCount) {D : Bytes}
    (hcontents : link.channel.peer.contents = D)
    (hstored : (first.toNat + count.toNat) * blockSize ≤ D.length) :
    ∃ after, readBlocks first count (d, link)
        = .ok ((D.drop (first.toNat * blockSize)).take (count.toNat * blockSize)) (d, after)
      ∧ Asked link after (Window.requests d.window.size.toNat (first.toNat * blockSize)
          (count.toNat * blockSize)) := by
  cases hrange : byteRange first count with
  | error argument =>
      obtain ⟨hpast, -⟩ := byteRange_error hpos hcount hrange
      omega
  | ok range =>
      obtain ⟨offset, length⟩ := range
      obtain ⟨hoffset, hlength, hinside⟩ := byteRange_eq hrange
      have hle : length.toNat ≤ (D.drop offset.toNat).length := by
        rw [List.length_drop, hoffset, hlength]
        rw [Nat.add_mul] at hstored
        omega
      obtain ⟨after, hread, hgained, hasked⟩ :=
        Upload.readPieces_of_le d.upload.partition .nobody .none
          (r := ⟨link, .start offset length d.window, .unlimited⟩) hlink hempty rfl
          (Window.At.start offset length d.window hinside) (by rw [hcontents]) hle
      replace hgained : after.sink.bytes.toList = (D.drop offset.toNat).take length.toNat := hgained
      rw [hoffset, hlength] at hgained
      rw [readBlocks_of_range hopen hrange, hread]
      refine ⟨after.link, ?_, ?_⟩
      · rw [← hgained]
      · rw [← hoffset, ← hlength]
        exact hasked

end BlockDevice

namespace Dump

open BlockDevice (blockSize blockCount)

/-- Requests for `left` blocks from `first` on: end to end, and none over
the end of a batch. -/
structure Batches (first left : Nat) (requests : List ReadRequest) : Prop where
  tiles : Window.Tiles (first * blockSize) ((first + left) * blockSize) requests
  within : ∀ r ∈ requests, ∃ i, (first + i * batchBlocks) * blockSize ≤ r.offset.toNat
    ∧ r.offset.toNat + r.size.toNat ≤ (first + (i + 1) * batchBlocks) * blockSize

namespace Batches

variable {first left : Nat} {requests more : List ReadRequest}

theorem nil (first : Nat) : Batches first 0 [] where
  tiles := rfl
  within _ hr := by cases hr

/-- What one batch asks for, which may be the last. -/
theorem single {size count : Nat} (hsize : 0 < size) (hfits : size < UInt32.size)
    (hin : first + count ≤ blockCount) (hcount : count ≤ batchBlocks) :
    Batches first count (Window.requests size (first * blockSize) (count * blockSize)) := by
  have hspace : first * blockSize + count * blockSize ≤ UInt32.size := by
    rw [← Nat.add_mul]
    exact Nat.mul_le_mul_right blockSize hin
  have htiles := Window.tiles_requests hsize hfits hspace
  rw [← Nat.add_mul] at htiles
  refine ⟨htiles, fun r hr => ⟨0, ?_⟩⟩
  obtain ⟨hfrom, hto⟩ := htiles.inside hr
  have hbatch : (first + count) * blockSize ≤ (first + batchBlocks) * blockSize :=
    Nat.mul_le_mul_right blockSize (Nat.add_le_add_left hcount first)
  rw [Nat.zero_mul, Nat.add_zero, Nat.zero_add, Nat.one_mul]
  exact ⟨hfrom, Nat.le_trans hto hbatch⟩

/-- A batch in front of the others: a whole one, or there are none. -/
theorem append {n : Nat} (h : Batches first n requests) (hn : n = batchBlocks ∨ left = 0)
    (h' : Batches (first + n) left more) : Batches first (n + left) (requests ++ more) := by
  have htiles := h.tiles.append h'.tiles
  rw [Nat.add_assoc] at htiles
  refine ⟨htiles, fun r hr => ?_⟩
  rcases List.mem_append.1 hr with hr | hr
  · exact h.within r hr
  · rcases hn with rfl | rfl
    · obtain ⟨i, hfrom, hto⟩ := h'.within r hr
      have hnext : ∀ n, first + (n + 1) * batchBlocks = first + batchBlocks + n * batchBlocks := by
        intro n
        rw [Nat.succ_mul, Nat.add_comm (n * batchBlocks), Nat.add_assoc]
      refine ⟨i + 1, ?_, ?_⟩
      · rwa [hnext]
      · rwa [hnext]
    · rw [h'.tiles.eq_nil] at hr
      cases hr

end Batches

/-- The next batch is copied as it is stored. -/
theorem copyBatches_step (audience : Audience) {start : UInt64} {total done : Nat}
    {c : Copying Device} (hopen : c.device.isOpen = true) (hroom : c.sink.room = none)
    (hlink : Attuned c.link) (hempty : c.link.channel.arrivals = []) (hlt : done < total)
    (hin : start.toNat + total ≤ blockCount) {D : Bytes}
    (hcontents : c.link.channel.peer.contents = D)
    (hstored : (start.toNat + total) * blockSize ≤ D.length) {n : Nat}
    (hn : min (total - done) batchBlocks = n) :
    ∃ next, copyBatches audience start total done c
        = copyBatches audience start total (done + n) next
      ∧ next.device = c.device ∧ next.sink.room = none
      ∧ next.sink.bytes.toList = c.sink.bytes.toList
        ++ (D.drop ((start.toNat + done) * blockSize)).take (n * blockSize)
      ∧ Asked c.link next.link (Window.requests c.device.window.size.toNat
          ((start.toNat + done) * blockSize) (n * blockSize)) := by
  have hbatch : batchBlocks < blockCount ∧ 0 < batchBlocks ∧ blockCount < UInt32.size := by decide
  have hfirst : (start + UInt64.ofNat done).toNat = start.toNat + done :=
    toNat_add_ofNat (.inr (by omega))
  have hcount : (UInt32.ofNat n).toNat = n := UInt32.toNat_ofNat_of_lt' (by omega)
  have hend : (start.toNat + done + n) * blockSize ≤ (start.toNat + total) * blockSize :=
    Nat.mul_le_mul_right blockSize (by omega)
  obtain ⟨after, hread, hasked⟩ := BlockDevice.readBlocks_device hopen hlink hempty
    (by rw [hcount]; omega) (by rw [hcount]; omega) (by rw [hfirst, hcount]; omega) hcontents
    (by rw [hfirst, hcount]; exact Nat.le_trans hend hstored)
  rw [hfirst, hcount] at hread hasked
  generalize hdata : (D.drop ((start.toNat + done) * blockSize)).take (n * blockSize) = data
    at hread ⊢
  refine ⟨⟨c.device, tellBatch audience c.device.upload.partition (done + n) total after,
    { c.sink with bytes := c.sink.bytes.appendList data }⟩, ?_, rfl, hroom, ?_, ?_⟩
  · rw [copyBatches, if_neg (Nat.not_le.2 hlt), hn]
    dsimp only
    rw [hread]
    dsimp only
    rw [Sink.write_of_room hroom]
  · simp
  · exact ⟨hasked.mode, hasked.connected, hasked.empty, hasked.peer, hasked.sent⟩

/-- What is stored in the blocks is copied, batch behind batch. -/
theorem copyBatches_device (audience : Audience) (start : UInt64) (total done : Nat)
    {c : Copying Device} (hopen : c.device.isOpen = true) (hroom : c.sink.room = none)
    (hlink : Attuned c.link) (hempty : c.link.channel.arrivals = [])
    (hin : start.toNat + total ≤ blockCount) {D : Bytes}
    (hcontents : c.link.channel.peer.contents = D)
    (hstored : (start.toNat + total) * blockSize ≤ D.length) :
    ∃ requests last, copyBatches audience start total done c = .ok () last
      ∧ last.device = c.device
      ∧ last.sink.bytes.toList = c.sink.bytes.toList
        ++ (D.drop ((start.toNat + done) * blockSize)).take ((total - done) * blockSize)
      ∧ Asked c.link last.link requests
      ∧ Batches (start.toNat + done) (total - done) requests := by
  by_cases hdone : total ≤ done
  · have hnone : total - done = 0 := Nat.sub_eq_zero_of_le hdone
    refine ⟨[], c, ?_, rfl, ?_, .refl hempty, ?_⟩
    · rw [copyBatches, if_pos hdone]
    · rw [hnone, Nat.zero_mul, List.take_zero, List.append_nil]
    · rw [hnone]
      exact .nil _
  · have hpos : 0 < batchBlocks := by decide
    have hsmall : batchBlocks < blockCount := by decide
    have hfits : c.device.window.size.toNat < UInt32.size := c.device.window.size.toNat_lt
    generalize hn : min (total - done) batchBlocks = n
    have hsome : 0 < n ∧ n ≤ total - done ∧ n ≤ batchBlocks := by omega
    obtain ⟨next, hstep, hdevice, hfree, hgained, hasked⟩ :=
      copyBatches_step audience hopen hroom hlink hempty (Nat.lt_of_not_le hdone) hin hcontents
        hstored hn
    obtain ⟨more, last, hrun, hsame, hrest, hmore, hbatches⟩ :=
      copyBatches_device audience start total (done + n) (hdevice ▸ hopen) hfree
        (hasked.attuned hlink rfl) hasked.empty hin (hasked.contents.trans hcontents) hstored
    have hsingle : Batches (start.toNat + done) n _ :=
      .single c.device.window.pos hfits (by omega) hsome.2.2
    refine ⟨_, last, ?_, hsame.trans hdevice, ?_, hasked.trans hmore, ?_⟩
    · rw [hstep, hrun]
    · have hbehind : (start.toNat + (done + n)) * blockSize
          = (start.toNat + done) * blockSize + n * blockSize := by
        rw [← Nat.add_mul, Nat.add_assoc]
      have hall : n * blockSize + (total - (done + n)) * blockSize
          = (total - done) * blockSize := by
        rw [← Nat.add_mul]
        congr 1
        omega
      rw [hrest, hgained, List.append_assoc, hbehind, ← List.drop_drop, ← List.take_add, hall]
    · rw [← Nat.add_assoc] at hbatches
      have hboth := hsingle.append (by omega) hbatches
      rwa [show n + (total - (done + n)) = total - done by omega] at hboth
  termination_by total - done
  decreasing_by omega

/-- A dump is an opening, the batches, and a closing. -/
theorem dump_of_ok {σ : Type} [Peer σ] {name : String} {start : UInt64} {count windowSize : UInt32}
    {audience : Audience} {sink : Sink} {link opened last : Link σ} {window : WindowSize}
    {reply : Reply} {u u' : Upload} {c : Copying σ}
    (hcheck : WindowSize.check windowSize = .ok window)
    (hstart : Upload.start (.ofPartition name, link) = .ok reply (u, opened))
    (hcopy : copyBatches audience start count.toNat 0 ⟨⟨u, window, true⟩, opened, sink⟩ = .ok () c)
    (hdevice : c.device = ⟨u, window, true⟩)
    (hfinish : Upload.finish (u, c.link) = .ok () (u', last)) :
    dump name start count windowSize audience (sink, link)
      = .ok (count.toNat * blockSize) (c.sink, last) := by
  unfold dump
  dsimp only
  rw [hcheck]
  dsimp only
  rw [BlockDevice.start_of_closed rfl,
    show (BlockDevice.ofPartition name window).upload = .ofPartition name from rfl, hstart]
  dsimp only
  rw [show BlockDevice.mk u (BlockDevice.ofPartition name window).window true
    = BlockDevice.mk u window true from rfl, hcopy]
  dsimp only
  rw [hdevice, BlockDevice.finish_of_open rfl, hfinish]

/-- A device opens what it has under a name in the table, even if it
finds all of it too large. -/
theorem start_stored {name : String} (hname : name ∈ PartitionTable.names) {link : Link Device}
    (hlink : Attuned link) (hempty : link.channel.arrivals = [])
    (hreply : link.channel.peer.startReply = .ack
      ∨ link.channel.peer.startReply = .downSizeError) :
    ∃ reply u opened, Upload.start (.ofPartition name, link) = .ok reply (u, opened)
      ∧ Served link opened [(.readFlashStart, Upload.opening name)]
        (link.channel.peer.opened name) := by
  obtain ⟨-, hsome, hunits⟩ := PartitionRequest.eq_of_make
    (PartitionTable.make_of_lookup (if_pos hname) Upload.readAll)
  obtain ⟨u, opened, -, hstart, hserved⟩ := Upload.start_device (u := .ofPartition name) hlink
    (.of_empty hempty) (by rw [hempty]; exact Nat.zero_le _) hsome hunits rfl
  rw [show (Upload.ofPartition name).partition = name from rfl,
    Upload.nameSeen_of_not_mem (PartitionTable.nul_not_mem name hname)] at hserved
  have haccept : Upload.startPolicy.accepts (Reply.ofCode link.channel.peer.startReply.code)
      = true := by
    rcases hreply with h | h
    · rw [h]
      decide
    · rw [h]
      decide
  rw [if_pos haccept] at hstart
  exact ⟨_, u, opened, hstart, hserved⟩

/-- A dump of blocks that are all stored. -/
theorem dump_stored {name : String} (hname : name ∈ PartitionTable.names) {windowSize : UInt32}
    (hpos : 1 ≤ windowSize.toNat) (hfits : windowSize.toNat ≤ 65535) (audience : Audience)
    {link : Link Device} (hlink : Attuned link) (hempty : link.channel.arrivals = [])
    (hreply : link.channel.peer.startReply = .ack ∨ link.channel.peer.startReply = .downSizeError)
    {start : UInt64} {count : UInt32} (hin : start.toNat + count.toNat ≤ blockCount) {D : Bytes}
    (hD : link.channel.peer.stored name = D)
    (hstored : (start.toNat + count.toNat) * blockSize ≤ D.length) :
    ∃ requests sink after, dump name start count windowSize audience (.unlimited, link)
        = .ok (count.toNat * blockSize) (sink, after)
      ∧ sink.bytes.toList
        = (D.drop (start.toNat * blockSize)).take (count.toNat * blockSize)
      ∧ after.channel.peer = ((link.channel.peer.opened name).asked requests).closed
      ∧ Batches start.toNat count.toNat requests := by
  have hcheck : WindowSize.check windowSize = .ok ⟨windowSize, hpos, hfits⟩ :=
    dif_pos ⟨hpos, hfits⟩
  obtain ⟨reply, u, opened, hstart, hserved⟩ := start_stored hname hlink hempty hreply
  have hopened : Attuned opened := hserved.attuned hlink rfl
  have hcontents : opened.channel.peer.contents = D := by
    rw [hserved.peer]
    exact hD
  obtain ⟨requests, c, hcopy, hdevice, hgained, hasked, hbatches⟩ :=
    copyBatches_device audience start count.toNat 0
      (c := ⟨⟨u, ⟨windowSize, hpos, hfits⟩, true⟩, opened, .unlimited⟩) rfl rfl hopened
      hserved.empty hin hcontents hstored
  rw [Nat.add_zero, Nat.sub_zero] at hgained hbatches
  obtain ⟨last, hfinish, hclosed⟩ :=
    Upload.finish_device (hasked.attuned hopened rfl) hasked.empty u
  refine ⟨requests, c.sink, last, ?_, hgained, ?_, hbatches⟩
  · exact dump_of_ok hcheck hstart hcopy hdevice hfinish
  · rw [hclosed.peer, hasked.peer, hserved.peer]

end Dump

namespace Session

-- ============================================================ the session

/-- A dump of blocks that are all stored answers how many bytes they
have, leaves exactly these bytes in its file, and asks for them in order
between one opening and one closing. -/
theorem perform_dump_copies {s : Session Device} (hprogram : s.channel.peer.program = .second)
    (hconn : s.channel.connected = true) (hempty : s.channel.arrivals = [])
    (hreply : s.channel.peer.startReply = .ack ∨ s.channel.peer.startReply = .downSizeError)
    {partition : String} (hname : partition ∈ PartitionTable.names) {D : Bytes}
    (hD : s.channel.peer.stored partition = D) {path : String} {names : List String}
    {files : Files} (hpath : s.files.create path = .ok (names, files))
    (hpos : 1 ≤ s.settings.uploadWindow.toNat) (hfits : s.settings.uploadWindow.toNat ≤ 65535)
    {start : UInt64} {count : UInt32} (hin : start.toNat + count.toNat ≤ 8388608)
    (hstored : 512 * (start.toNat + count.toNat) ≤ D.length) :
    ∃ after requests, perform (.dump partition start count path) s
        = .ok (.dumped (512 * count.toNat)) after
      ∧ after.files.read path
        = .ok (.ofBytes ((D.drop (512 * start.toNat)).take (512 * count.toNat)))
      ∧ after.channel.peer.commands.toList = s.channel.peer.commands.toList
        ++ (0x10 :: List.replicate requests.length 0x11 ++ [0x12])
      ∧ after.channel.peer.readRequests.toList = s.channel.peer.readRequests.toList ++ requests
      ∧ Dump.Batches start.toNat count.toNat requests := by
  rw [Nat.mul_comm] at hstored
  have hlink : Attuned ((s.heard (.phaseChanged .ready .upload)).link .sum) := by
    refine ⟨hconn, ?_⟩
    show ChecksumMode.sum = s.channel.peer.program.mode
    rw [hprogram]
    rfl
  obtain ⟨requests, sink, link, hdump, hgained, hpeer, hbatches⟩ :=
    Dump.dump_stored hname hpos hfits s.audience hlink hempty hreply hin hD hstored
  have hreceived : dumpBlocks partition start count path s = _ :=
    (receive_eq (if_pos hname) hpath _).trans (fillFile_of_ok hdump)
  have hattempt : attempt (.dump partition start count path) s = _ := bind_of_ok hreceived _
  have hlength : count.toNat * BlockDevice.blockSize = 512 * count.toNat := Nat.mul_comm ..
  have hoffset : start.toNat * BlockDevice.blockSize = 512 * start.toNat := Nat.mul_comm ..
  rw [hlength] at hattempt hgained
  rw [hoffset] at hgained
  unfold perform
  rw [hattempt]
  refine ⟨_, requests, rfl, ?_, ?_, ?_, hbatches⟩
  · rw [← hgained]
    exact Files.read_of_create hpath _
  · show link.channel.peer.commands.toList = _
    rw [hpeer]
    simp [Device.closed, Device.asked, Device.opened, Command.code, Session.link, Session.heard]
  · show link.channel.peer.readRequests.toList = _
    rw [hpeer]
    simp [Device.closed, Device.asked, Device.opened, Session.link, Session.heard]

/-- A block of zeros, and one block of ones more than a batch has. -/
def aboveBatch : Bytes := List.replicate 512 0 ++ List.replicate (512 * 2049) 1

/-- These blocks on a device that finds a request for all of them too
large, and a file of three bytes to receive into. -/
def twoBatches : Session Device :=
  { occupied 0x3000 with
    channel := .connect { Device.fresh .second with
      startReply := .downSizeError
      chunk := 1
      chunk_pos := Nat.one_pos
      partitions := [("boot", aboveBatch.toArray)] } }

/-- The ones are copied in two batches, and the window does not divide
the first of them. -/
theorem perform_dump_copies_twoBatches :
    ∃ after requests, perform (.dump "boot" 1 2049 "out") twoBatches
        = .ok (.dumped (512 * 2049)) after
      ∧ after.files.read "out" = .ok (.ofBytes (List.replicate (512 * 2049) 1))
      ∧ after.channel.peer.commands.toList
        = 0x10 :: List.replicate requests.length 0x11 ++ [0x12]
      ∧ after.channel.peer.readRequests.toList = requests
      ∧ Dump.Batches 1 2049 requests := by
  have hD : twoBatches.channel.peer.stored "boot" = aboveBatch := rfl
  have hzeros : (List.replicate 512 (0 : UInt8)).length = 512 := List.length_replicate
  have hones : (List.replicate (512 * 2049) (1 : UInt8)).length = 512 * 2049 :=
    List.length_replicate
  have hin : (1 : UInt64).toNat + (2049 : UInt32).toNat ≤ 8388608 := by decide
  have hwanted : (aboveBatch.drop 512).take (512 * 2049) = List.replicate (512 * 2049) 1 := by
    rw [aboveBatch, List.drop_left' hzeros]
    exact List.take_of_length_le (Nat.le_of_eq hones)
  obtain ⟨after, requests, hperform, hread, hcommands, hrequests, hbatches⟩ :=
    perform_dump_copies (s := twoBatches) rfl rfl rfl (.inr rfl) (by decide) hD
      (create_occupied 0x3000) (by decide) (by decide) hin
      (by rw [aboveBatch, List.length_append, hzeros, hones]; decide)
  refine ⟨after, requests, hperform, ?_, hcommands, hrequests, hbatches⟩
  rw [← hwanted]
  exact hread

end Session

end FlashLink
