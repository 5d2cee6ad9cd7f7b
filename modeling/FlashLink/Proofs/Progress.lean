/-
What is told of the progress of a transfer.

A window answers a percentage only when it differs from the one before.
The bytes transferred never go back, so neither does their share of the
total, and what is answered climbs: from nothing, by steps that are
never empty, to the share that is reached (`climbs_reports`). It ends at
100 when nothing is left and not sooner.

Between two numbers there is room for only so many others, which is why
a transfer of any size tells of its progress at most a hundred times.
The loops of an upload and of a download tell of their progress at these
points and at no others (`readPieces_progress`, `writePieces_progress`);
the exchanges around and between them tell of packets alone.
-/
import FlashLink.Proofs.Draining
import FlashLink.Proofs.Lasting
import FlashLink.Proofs.Pieces
import FlashLink.Proofs.Upload

namespace FlashLink

-- ============================================================== climbing

/-- Numbers that climb from one to another: each is above the one before
it, and the last is where the climb ends. -/
def Climbs : Nat → Nat → List Nat → Prop
  | low, high, [] => low = high
  | low, high, n :: rest => low < n ∧ Climbs n high rest

namespace Climbs

variable {low high : Nat} {ns : List Nat}

theorem length_le (h : Climbs low high ns) : low + ns.length ≤ high := by
  induction ns generalizing low with
  | nil => exact Nat.le_of_eq h
  | cons n rest ih =>
      obtain ⟨hlow, hrest⟩ := h
      have := ih hrest
      rw [List.length_cons]
      omega

/-- Each of them is between the two ends. -/
theorem inside (h : Climbs low high ns) {n : Nat} (hn : n ∈ ns) : low < n ∧ n ≤ high := by
  induction ns generalizing low with
  | nil => cases hn
  | cons first rest ih =>
      obtain ⟨hlow, hrest⟩ := h
      rcases List.mem_cons.1 hn with rfl | hn
      · exact ⟨hlow, Nat.le_trans (Nat.le_add_right ..) hrest.length_le⟩
      · obtain ⟨hfirst, hhigh⟩ := ih hrest hn
        exact ⟨Nat.lt_trans hlow hfirst, hhigh⟩

theorem rising (h : Climbs low high ns) : ns.Pairwise (· < ·) := by
  induction ns generalizing low with
  | nil => exact .nil
  | cons n rest ih =>
      obtain ⟨-, hrest⟩ := h
      exact .cons (fun m hm => (hrest.inside hm).1) (ih hrest)

theorem getLast? (h : Climbs low high ns) : ns.getLast?.getD low = high := by
  induction ns generalizing low with
  | nil => exact h
  | cons n rest ih =>
      obtain ⟨-, hrest⟩ := h
      rw [List.getLast?_cons]
      exact ih hrest

/-- A climb of more than nothing has numbers in it. -/
theorem ne_nil (h : Climbs low high ns) (hlt : low < high) : ns ≠ [] := by
  rintro rfl
  exact Nat.ne_of_lt hlt h

end Climbs

namespace Window

variable {w : Window} {chunk : UInt32} {chunks : List UInt32}

-- ============================================================= the share

/-- The whole percents that `current` is of `total`. -/
def share (total current : Nat) : Nat := current * 100 / total

theorem percent_eq (htotal : 0 < w.total.toNat) :
    w.percent = share w.total.toNat w.transferred.toNat := by
  unfold percent share
  rw [if_neg fun hzero => by rw [hzero] at htotal; exact absurd htotal (by decide)]

theorem share_mono (total : Nat) {a b : Nat} (h : a ≤ b) : share total a ≤ share total b :=
  Nat.div_le_div_right (Nat.mul_le_mul_right 100 h)

/-- Only the whole is all of a hundred percents. -/
theorem share_eq_hundred_iff {total current : Nat} (htotal : 0 < total) (hle : current ≤ total) :
    share total current = 100 ↔ current = total := by
  unfold share
  rw [Nat.div_eq_iff htotal]
  omega

theorem transferred_le (w : Window) : w.transferred.toNat ≤ w.total.toNat := by
  rw [toNat_transferred]
  exact Nat.sub_le ..

/-- Bytes that were transferred stay transferred. -/
theorem transferred_le_advance (w : Window) (chunk : UInt32) :
    w.transferred.toNat ≤ (w.advance chunk).2.transferred.toNat := by
  rw [toNat_transferred, toNat_transferred, toNat_remaining_advance]
  exact Nat.sub_le_sub_left (Nat.sub_le ..) _

theorem percent_le_advance (w : Window) (chunk : UInt32) :
    w.percent ≤ (w.advance chunk).2.percent := by
  by_cases htotal : 0 < w.total.toNat
  · rw [percent_eq htotal, percent_eq (w := (w.advance chunk).2) htotal]
    exact share_mono _ (w.transferred_le_advance chunk)
  · have hzero : w.total = 0 := UInt32.toNat_inj.1 (Nat.eq_zero_of_not_pos htotal)
    have hall : ∀ w : Window, w.total = 0 → w.percent = 100 := fun w h => if_pos h
    rw [hall w hzero, hall (w.advance chunk).2 hzero]

theorem percent_le_hundred (htotal : 0 < w.total.toNat) : w.percent ≤ 100 := by
  rw [percent_eq htotal, ← (share_eq_hundred_iff htotal (Nat.le_refl _)).2 rfl]
  exact share_mono _ w.transferred_le

theorem percent_eq_hundred_iff (htotal : 0 < w.total.toNat) :
    w.percent = 100 ↔ w.isDone = true := by
  rw [percent_eq htotal, share_eq_hundred_iff htotal w.transferred_le]
  have hle := w.remaining_le
  have hdone : w.isDone = true ↔ w.remaining.toNat = 0 := by
    unfold isDone
    rw [beq_iff_eq, ← UInt32.toNat_inj]
    rfl
  rw [hdone, toNat_transferred]
  omega

-- =========================================================== the reports

/-- The percentages a window answers to pieces of some sizes. -/
def reports (w : Window) : List UInt32 → List Nat
  | [] => []
  | chunk :: chunks => (w.advance chunk).1.toList ++ (w.advance chunk).2.reports chunks

/-- The bytes transferred whenever it answers one. -/
def marks (w : Window) : List UInt32 → List Nat
  | [] => []
  | chunk :: chunks =>
    ((w.advance chunk).1.toList.map fun _ => (w.advance chunk).2.transferred.toNat)
      ++ (w.advance chunk).2.marks chunks

/-- The percentage that was reported last is that of now. -/
def CaughtUp (w : Window) : Prop := w.reported = w.percent

theorem caughtUp_start (offset : UInt32) {total : UInt32} (htotal : 0 < total.toNat)
    (size : WindowSize) : (start offset total size).CaughtUp := by
  have hnone : (start offset total size).transferred = 0 := UInt32.sub_self total
  show 0 = (start offset total size).percent
  rw [percent_eq (w := start offset total size) htotal, hnone]
  exact (Nat.zero_div _).symm

/-- However the percentage compares, the window remembers it. -/
theorem caughtUp_advance (w : Window) (chunk : UInt32) : (w.advance chunk).2.CaughtUp := rfl

theorem caughtUp_advances (h : w.CaughtUp) (chunks : List UInt32) :
    (w.advances chunks).CaughtUp := by
  induction chunks generalizing w with
  | nil => exact h
  | cons chunk chunks ih => exact ih (w.caughtUp_advance chunk)

/-- What is answered to one piece. -/
theorem advance_cases (h : w.CaughtUp) (chunk : UInt32) :
    ((w.advance chunk).1 = none ∧ (w.advance chunk).2.percent = w.percent)
      ∨ ((w.advance chunk).1 = some (w.advance chunk).2.percent
        ∧ w.percent < (w.advance chunk).2.percent) := by
  have hanswer : (w.advance chunk).1
      = if (w.advance chunk).2.percent = w.reported then none
        else some (w.advance chunk).2.percent := rfl
  rw [hanswer, show w.reported = w.percent from h]
  split
  · rename_i hsame
    exact .inl ⟨rfl, hsame⟩
  · rename_i hother
    exact .inr ⟨rfl, Nat.lt_of_le_of_ne (w.percent_le_advance chunk) (Ne.symm hother)⟩

/-- A hundred percents are answered to the piece that leaves nothing. -/
theorem advance_eq_hundred_iff (h : w.CaughtUp) (htotal : 0 < w.total.toNat) (chunk : UInt32) :
    (w.advance chunk).1 = some 100
      ↔ w.isDone = false ∧ (w.advance chunk).2.isDone = true := by
  have hnow := percent_eq_hundred_iff htotal
  have hnext : (w.advance chunk).2.percent = 100 ↔ (w.advance chunk).2.isDone = true :=
    percent_eq_hundred_iff htotal
  rw [← Bool.not_eq_true, ← hnow, ← hnext]
  rcases advance_cases h chunk with ⟨hnone, hsame⟩ | ⟨hsome, hlt⟩
  · rw [hnone, hsame]
    refine ⟨fun hanswer => absurd hanswer.symm (Option.some_ne_none 100), ?_⟩
    rintro ⟨hbefore, hafter⟩
    exact absurd hafter hbefore
  · rw [hsome, Option.some.injEq]
    refine ⟨fun hall => ⟨?_, hall⟩, fun hboth => hboth.2⟩
    rw [hall] at hlt
    exact Nat.ne_of_lt hlt

/-- Any pieces take the reports up to the percentage they reach. -/
theorem climbs_reports (h : w.CaughtUp) (chunks : List UInt32) :
    Climbs w.percent (w.advances chunks).percent (w.reports chunks) := by
  induction chunks generalizing w with
  | nil => exact rfl
  | cons chunk chunks ih =>
      have hrest := ih (w.caughtUp_advance chunk)
      rw [advances_cons, reports]
      rcases advance_cases h chunk with ⟨hnone, hsame⟩ | ⟨hsome, hlt⟩
      · rw [hnone, ← hsame]
        exact hrest
      · rw [hsome]
        exact ⟨hlt, hrest⟩

/-- What is reported is the share of the bytes transferred by then. -/
theorem reports_eq_map_marks (h : w.CaughtUp) (htotal : 0 < w.total.toNat)
    (chunks : List UInt32) : w.reports chunks = (w.marks chunks).map (share w.total.toNat) := by
  induction chunks generalizing w with
  | nil => rfl
  | cons chunk chunks ih =>
      rw [reports, marks, List.map_append, ih (w.caughtUp_advance chunk) htotal]
      congr 1
      rcases advance_cases h chunk with ⟨hnone, -⟩ | ⟨hsome, -⟩
      · rw [hnone]
        rfl
      · rw [hsome, percent_eq (w := (w.advance chunk).2) htotal]
        rfl

theorem le_total_of_mem_marks {mark : Nat} (h : mark ∈ w.marks chunks) :
    mark ≤ w.total.toNat := by
  induction chunks generalizing w with
  | nil => cases h
  | cons chunk chunks ih =>
      rw [marks] at h
      rcases List.mem_append.1 h with h | h
      · obtain ⟨_, -, rfl⟩ := List.mem_map.1 h
        exact transferred_le (w.advance chunk).2
      · exact ih (w := (w.advance chunk).2) h

/-- The pieces of a whole window take the reports all the way. -/
theorem climbs_taken (offset : UInt32) {total : UInt32} (htotal : 0 < total.toNat)
    (size : WindowSize) :
    Climbs 0 100 ((start offset total size).reports
      ((start offset total size).taken.map ReadRequest.size)) := by
  have hcaught := caughtUp_start offset htotal size
  have hclimbs := climbs_reports hcaught ((start offset total size).taken.map ReadRequest.size)
  have hdone : ((start offset total size).advances
      ((start offset total size).taken.map ReadRequest.size)).percent = 100 := by
    rw [← (drain_eq _).1]
    refine (percent_eq_hundred_iff ?_).2 (isDone_of_none (drains_start offset total size).done.2)
    rw [(drain_eq _).1, total_advances]
    exact htotal
  rwa [hdone, ← show 0 = (start offset total size).percent from hcaught] at hclimbs

-- ============================================================ a whole run

/-- Points at which a transfer of `total` bytes tells of its progress: a
hundred at most, each of them further on than the one before in bytes
and in percents, and the last one the end. -/
structure Rises (total : Nat) (marks : List Nat) : Prop where
  count : marks.length ≤ 100
  bytes : marks.Pairwise (· < ·)
  percents : (marks.map (share total)).Pairwise (· < ·)
  last : marks.getLast? = some total

/-- A climb to a hundred percents of the total is one to the total. -/
theorem Rises.of_climbs {total : Nat} {marks : List Nat} (htotal : 0 < total)
    (hle : ∀ mark ∈ marks, mark ≤ total) (h : Climbs 0 100 (marks.map (share total))) :
    Rises total marks := by
  have hcount := h.length_le
  rw [List.length_map, Nat.zero_add] at hcount
  refine ⟨hcount, ?_, h.rising, ?_⟩
  · refine (List.pairwise_map.1 h.rising).imp fun hlt => ?_
    exact Nat.lt_of_not_le fun hge => Nat.not_lt.2 (share_mono total hge) hlt
  · have hne : marks ≠ [] := fun hnil => h.ne_nil (by decide) (by rw [hnil]; rfl)
    have hlast := h.getLast?
    rw [List.getLast?_map, List.getLast?_eq_some_getLast hne] at hlast
    rw [List.getLast?_eq_some_getLast hne,
      (share_eq_hundred_iff htotal (hle _ (List.getLast_mem hne))).1 hlast]

/-- The points at which a window is reported while it is drained. -/
def milestones (w : Window) : List Nat := w.marks (w.taken.map ReadRequest.size)

theorem milestones_of_none (h : w.nextChunk? = none) : w.milestones = [] := by
  unfold milestones
  rw [taken_of_none h]
  rfl

theorem milestones_of_some (h : w.nextChunk? = some chunk) :
    w.milestones
      = ((w.advance chunk).1.toList.map fun _ => (w.advance chunk).2.transferred.toNat)
        ++ (w.advance chunk).2.milestones := by
  unfold milestones
  rw [taken_of_some h]
  rfl

theorem milestones_start (offset : UInt32) {total : UInt32} (htotal : 0 < total.toNat)
    (size : WindowSize) : Rises total.toNat (start offset total size).milestones := by
  have hclimbs := climbs_taken offset htotal size
  rw [reports_eq_map_marks (caughtUp_start offset htotal size) htotal] at hclimbs
  exact .of_climbs htotal (fun mark hmark => le_total_of_mem_marks hmark) hclimbs

end Window

-- ================================================================ telling

namespace Event

/-- Whether an event tells of progress. -/
def isProgress : Event → Bool
  | progress .. => true
  | _ => false

end Event

namespace Link

variable {σ : Type}

/-- What was told of progress over a link. -/
def progress (link : Link σ) : List Event := link.events.toList.filter Event.isProgress

/-- Packets are no progress, whoever hears of them. -/
theorem progress_hear_packet (audience : Audience) (direction : Direction) (bytes : Bytes)
    (events : Array Event) :
    (audience.hear events (.ofPacket direction bytes)).toList.filter Event.isProgress
      = events.toList.filter Event.isProgress := by
  cases audience with
  | nobody => rfl
  | recorder =>
      show (events.push _).toList.filter _ = _
      rw [Array.toList_push, List.filter_append]
      exact List.append_nil _

theorem progress_read (told : List Event) :
    Keeps (fun link : Link σ => link.progress = told) read := by
  intro link htold
  unfold read
  split
  · show (if _ then _ else _ : Array Event).toList.filter Event.isProgress = told
    split
    · exact htold
    · rw [progress_hear_packet]
      exact htold
  · exact htold

theorem progress_write [Peer σ] (told : List Event) (bytes : Bytes) :
    Keeps (fun link : Link σ => link.progress = told) (write bytes) := by
  intro link htold
  unfold write
  split
  · show (link.audience.hear link.events (.ofPacket .tx bytes)).toList.filter _ = told
    rw [progress_hear_packet]
    exact htold
  · exact htold

/-- Nothing is told of progress where nobody is told anything. -/
theorem progress_parallel [Peer σ] (told : List Event) :
    Parallel .nobody .nobody (Same fun link : Link σ => link.progress = told) where
  exchange command payload policy _ hs :=
    (Keeps.exchange (progress_read told) (fun f => progress_write told f.encode)
      command payload policy).agrees hs
  hear _ _ hs := hs

end Link

section

variable {σ : Type} {link : Link σ}

/-- The report of a piece is told once, or not at all. -/
theorem progress_tellProgress (phase : SessionPhase) (operation : String) (report : Option Nat)
    (window : Window) (link : Link σ) :
    (Upload.tellProgress .recorder phase operation report window link).progress
      = link.progress ++ (report.toList.map fun _ => window.transferred.toNat).map
          fun mark => .progress phase operation mark window.total.toNat := by
  cases report with
  | none => exact (List.append_nil _).symm
  | some percent =>
      show (link.events.push _).toList.filter _ = _
      rw [Array.toList_push, List.filter_append]
      rfl

variable [Peer σ]

-- ============================================================== the loops

theorem readPieces_progress {partition : String} {moved moved' : Summary}
    {r r' : Upload.Reading σ}
    (h : Upload.readPieces partition .recorder moved r = .ok moved' r') :
    r'.link.progress = r.link.progress ++ r.window.milestones.map
      fun mark => .progress .upload partition mark r.window.total.toNat := by
  rw [Upload.readPieces] at h
  split at h
  · rename_i hnone
    cases h
    rw [Window.milestones_of_none hnone]
    exact (List.append_nil _).symm
  · rename_i chunk hsome
    split at h
    · cases h
    · rename_i data link hpiece
      split at h
      · cases h
      · have hlink := ((Link.progress_parallel r.link.progress).readPiece chunk r.window.offset
          ⟨rfl, rfl⟩).endState.2
        rw [hpiece] at hlink
        rw [readPieces_progress h, progress_tellProgress, show link.progress = _ from hlink,
          Window.milestones_of_some hsome, List.map_append, List.append_assoc]
        rfl
  termination_by r.window.remaining.toNat
  decreasing_by exact Window.remaining_advance_lt ‹_›

theorem writePieces_progress {target : Target} {moved moved' : Summary}
    {w w' : Download.Writing σ}
    (h : Download.writePieces target .recorder moved w = .ok moved' w') :
    w'.link.progress = w.link.progress ++ w.window.milestones.map
      fun mark => .progress .download target.display mark w.window.total.toNat := by
  rw [Download.writePieces] at h
  split at h
  · rename_i hnone
    cases h
    rw [Window.milestones_of_none hnone]
    exact (List.append_nil _).symm
  · rename_i chunk hsome
    split at h
    · cases h
    · rename_i data source hread
      split at h
      · cases h
      · rename_i f link hexchange
        have hlink := ((Link.progress_parallel w.link.progress).exchange .midstData data .ack
          (by decide) ⟨rfl, rfl⟩).endState.2
        rw [hexchange] at hlink
        rw [writePieces_progress h, progress_tellProgress, show link.progress = _ from hlink,
          Window.milestones_of_some hsome, List.map_append, List.append_assoc]
        rfl
  termination_by w.window.remaining.toNat
  decreasing_by exact Window.remaining_advance_lt ‹_›

-- =========================================================== the transfers

/-- An upload tells of its progress while it reads. -/
theorem upload_progress {partition : String} {size windowSize : UInt32} {sink : Sink}
    {moved : Summary} {s : Sink × Link σ}
    (h : upload partition size windowSize .recorder (sink, link) = .ok moved s) :
    ∃ window, s.2.progress = link.progress ++ (Window.start 0 size window).milestones.map
      fun mark => .progress .upload partition mark size.toNat := by
  rw [Upload.upload_eq] at h
  split at h
  · cases h
  · rename_i window hwindow
    split at h
    · cases h
    · rename_i reply opened hopen
      have hopened := ((Link.progress_parallel link.progress).openPartition partition
        ⟨rfl, rfl⟩).endState.2
      rw [hopen] at hopened
      split at h
      · cases h
      · rename_i _ r hread
        split at h
        · cases h
        · rename_i _ after hclose
          have hclosed := ((Link.progress_parallel r.link.progress).exchange .readFlashEnd [] .ack
            (by decide) ⟨rfl, rfl⟩).endState.2
          rw [hclose] at hclosed
          cases h
          refine ⟨window, ?_⟩
          rw [show after.progress = _ from hclosed, readPieces_progress hread,
            show opened.progress = _ from hopened]
          rfl

/-- A download tells of its progress while it writes. -/
theorem run_progress {target : Target} {window : Window} {source : Content} {moved : Summary}
    {after : Link σ} (h : Download.run target window source .recorder link = .ok moved after) :
    after.progress = link.progress ++ window.milestones.map
      fun mark => .progress .download target.display mark window.total.toNat := by
  rw [Download.run_eq] at h
  split at h
  · cases h
  · rename_i begun hannounce
    have hbegun := ((Link.progress_parallel link.progress).announce target window.total
      ⟨rfl, rfl⟩).endState.2
    rw [hannounce] at hbegun
    split at h
    · cases h
    · rename_i _ w hwrite
      split at h
      · cases h
      · rename_i _ ended hend
        have hended := ((Link.progress_parallel w.link.progress).exchange .endData [] .ack
          (by decide) ⟨rfl, rfl⟩).endState.2
        rw [hend] at hended
        cases h
        rw [show after.progress = _ from hended, writePieces_progress hwrite,
          show begun.progress = _ from hbegun]

theorem download_progress {target : Target} {size windowSize : UInt32} {source : Content}
    {moved : Summary} {after : Link σ}
    (h : download target size windowSize source .recorder link = .ok moved after) :
    ∃ window, after.progress = link.progress ++ (Window.start 0 size window).milestones.map
      fun mark => .progress .download target.display mark size.toNat := by
  cases hcheck : WindowSize.check windowSize with
  | error cause =>
      unfold download Window.make at h
      rw [hcheck] at h
      cases h
  | ok window =>
      rw [← WindowSize.size_of_check hcheck, Download.download_eq] at h
      exact ⟨window, run_progress h⟩

theorem downloadFile_progress {target : Target} {files : Files} {path : String}
    {size windowSize : UInt32} {source : Content} (himage : files.image path = .ok (size, source))
    {moved : Summary} {after : Link σ}
    (h : downloadFile target files path windowSize .recorder link = .ok moved after) :
    ∃ window, after.progress = link.progress ++ (Window.start 0 size window).milestones.map
      fun mark => .progress .download target.display mark size.toNat := by
  unfold downloadFile at h
  split at h
  · cases h
  · rename_i window hwindow
    rw [himage] at h
    exact ⟨window, run_progress h⟩

/-- What a window of more than nothing reports, whatever is taken off
it: percentages that rise from 1 at least to 100 at most, the last of
them the share transferred by now, and 100 with the piece that leaves
nothing. So a transfer that succeeds tells of its progress at points
that rise to its end. -/
theorem progress_rises {total : UInt32} (htotal : 0 < total.toNat) :
    (∀ offset size w, Window.make offset total size = .ok w → ∀ chunks,
      (w.reports chunks).Pairwise (· < ·)
      ∧ (∀ percent ∈ w.reports chunks, 1 ≤ percent ∧ percent ≤ 100)
      ∧ (w.reports chunks).getLast?.getD 0
        = 100 * (w.advances chunks).transferred.toNat / total.toNat
      ∧ ∀ chunk, ((w.advances chunks).advance chunk).1 = some 100
        ↔ (w.advances chunks).isDone = false
          ∧ ((w.advances chunks).advance chunk).2.isDone = true)
    ∧ (∀ partition windowSize sink (link : Link σ) moved s,
      upload partition total windowSize .recorder (sink, link) = .ok moved s →
      ∃ marks, Window.Rises total.toNat marks
        ∧ s.2.progress = link.progress ++ marks.map
          fun mark => .progress .upload partition mark total.toNat)
    ∧ (∀ target windowSize source (link : Link σ) moved after,
      download target total windowSize source .recorder link = .ok moved after →
      ∃ marks, Window.Rises total.toNat marks
        ∧ after.progress = link.progress ++ marks.map
          fun mark => .progress .download target.display mark total.toNat)
    ∧ ∀ target files path source windowSize (link : Link σ) moved after,
      files.image path = .ok (total, source) →
      downloadFile target files path windowSize .recorder link = .ok moved after →
      ∃ marks, Window.Rises total.toNat marks
        ∧ after.progress = link.progress ++ marks.map
          fun mark => .progress .download target.display mark total.toNat := by
  refine ⟨?_, ?_, ?_, ?_⟩
  · intro offset size w hmake chunks
    obtain ⟨window, rfl⟩ := Window.eq_start_of_make hmake
    have hcaught := Window.caughtUp_start offset htotal window
    have hreached := Window.caughtUp_advances hcaught chunks
    have hleft : 0 < ((Window.start offset total window).advances chunks).total.toNat := by
      rw [Window.total_advances]
      exact htotal
    have hclimbs := Window.climbs_reports hcaught chunks
    rw [← show 0 = (Window.start offset total window).percent from hcaught] at hclimbs
    refine ⟨hclimbs.rising, ?_, ?_, Window.advance_eq_hundred_iff hreached hleft⟩
    · intro percent hpercent
      obtain ⟨hpos, hle⟩ := hclimbs.inside hpercent
      exact ⟨hpos, Nat.le_trans hle (Window.percent_le_hundred hleft)⟩
    · rw [hclimbs.getLast?, Window.percent_eq hleft, Window.total_advances, Window.share,
        Nat.mul_comm]
      rfl
  · intro partition windowSize sink link moved s hupload
    obtain ⟨window, hprogress⟩ := upload_progress hupload
    exact ⟨_, Window.milestones_start 0 htotal window, hprogress⟩
  · intro target windowSize source link moved after hdownload
    obtain ⟨window, hprogress⟩ := download_progress hdownload
    exact ⟨_, Window.milestones_start 0 htotal window, hprogress⟩
  · intro target files path source windowSize link moved after himage hdownload
    obtain ⟨window, hprogress⟩ := downloadFile_progress himage hdownload
    exact ⟨_, Window.milestones_start 0 htotal window, hprogress⟩

end

/-- Five bytes that are read two at a time: two, four and five of them. -/
theorem progress_rises_fiveBytes :
    ∃ marks, Window.Rises 5 marks ∧ ∃ s,
      upload "boot" 5 2 .recorder (.unlimited, Upload.fiveBytes)
          = .ok { bytes := 5, chunks := 3 } s
        ∧ s.2.progress = marks.map fun mark => .progress .upload "boot" mark 5 := by
  obtain ⟨window, hwindow, hat, hsize⟩ :=
    Upload.make_of_fits 5 (show 1 ≤ (2 : UInt32).toNat by decide) (by decide)
  have hlink : Link.Attuned Upload.fiveBytes := ⟨rfl, rfl⟩
  have hroom : Sink.unlimited.room = none := rfl
  obtain ⟨u, opened, hu, hstart, hserved⟩ :=
    Upload.start_device (u := .ofPartition "boot") hlink (.of_empty rfl) (Nat.zero_le _)
      (by decide) (by decide) rfl
  rw [if_pos (by decide)] at hstart
  obtain ⟨sink, after, hupload, -, -⟩ :=
    Upload.upload_of_le .recorder hwindow hat hstart hu hserved (hserved.attuned hlink rfl) hroom
      (D := [1, 2, 3, 4, 5]) (by rw [hserved.peer]; rfl) (by decide) rfl
  rw [hsize] at hupload
  obtain ⟨marks, hrises, hprogress⟩ :=
    (progress_rises (by decide)).2.1 "boot" 2 .unlimited Upload.fiveBytes _ _ hupload
  exact ⟨marks, hrises, _, hupload, hprogress⟩

end FlashLink
