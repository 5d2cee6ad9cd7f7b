/-
What an operation has done when it blames an argument.

Nothing, with two exceptions. The operations that receive into a file
make the file before they look at the window, so a window that fits no
frame costs whatever was in the file; and a dump looks at its range of
blocks only with the partition open, so a range that ends behind the
device has been asked for up to there, and is in the file. These are all
the ways an argument is blamed (`Blamed`), so with window and range in
order (`InOrder`) nothing is done before an argument is blamed.

Arguments are blamed in two places: by a check of the session itself,
which leaves it as it is, and by what goes over the link, which
`upload_param`, `downloadFile_param`, `run_blameless` and `dump_param`
settled.
-/
import FlashLink.Proofs.Dump
import FlashLink.Session

namespace FlashLink

open Link (request)

variable {σ : Type}

/-- The file an operation receives into. -/
def Operation.output? : Operation → Option String
  | read _ _ path => some path
  | dump _ _ _ path => some path
  | _ => none

namespace Session

-- ======================================================== where it fails

section

variable {α : Type} {P : Failure → Session σ → Prop} {s : Session σ}

theorem check_ok {checked : Except ParamFailure α} {value : α} {after : Session σ}
    (h : check checked s = .ok value after) : checked = .ok value ∧ s = after := by
  cases checked with
  | ok given =>
      cases h
      exact ⟨rfl, rfl⟩
  | error argument => cases h

theorem overLink_ifFails {mode : ChecksumMode} {act : LinkM σ α}
    (h : IfFails (fun cause link => P cause (s.resume link)) (act (s.link mode))) :
    IfFails P (overLink mode act s) := by
  unfold overLink
  split
  · trivial
  · rename_i hrun
    exact h.of_error hrun

theorem fillFile_ifFails {names : List String} {act : EStateM Failure (Sink × Link σ) α}
    (h : IfFails (fun cause after => P cause
        { s.resume after.2 with files := s.files.store names (.ofBytes after.1.bytes.toList) })
      (act (.unlimited, s.link .sum))) :
    IfFails P (fillFile names act s) := by
  unfold fillFile
  split
  · trivial
  · rename_i hrun
    exact h.of_error hrun

theorem fillFile_of_error {names : List String} {act : EStateM Failure (Sink × Link σ) α}
    {cause : Failure} {sink : Sink} {link : Link σ}
    (h : act (.unlimited, s.link .sum) = .error cause (sink, link)) :
    fillFile names act s = .error cause
      { s.resume link with files := s.files.store names (.ofBytes sink.bytes.toList) } := by
  unfold fillFile
  rw [h]

theorem fillFile_of_ok {names : List String} {act : EStateM Failure (Sink × Link σ) α}
    {value : α} {sink : Sink} {link : Link σ}
    (h : act (.unlimited, s.link .sum) = .ok value (sink, link)) :
    fillFile names act s = .ok value
      { s.resume link with files := s.files.store names (.ofBytes sink.bytes.toList) } := by
  unfold fillFile
  rw [h]

/-- A file is made and nothing else, or its path is refused. -/
theorem createFile_cases (path : String) (s : Session σ) :
    (∃ names files, s.files.create path = .ok (names, files)
        ∧ createFile path s = .ok names { s with files })
      ∨ ∃ cause, createFile path s = .error (.file cause) s := by
  unfold createFile
  cases s.files.create path with
  | ok made => exact .inl ⟨made.1, made.2, rfl, rfl⟩
  | error cause => exact .inr ⟨cause, rfl⟩

end

-- ==================================================== what it has done

/-- A file was made under a path, and holds some bytes. -/
def Filled (path : String) (bytes : Bytes) (before after : Files) : Prop :=
  ∃ names files, before.create path = .ok (names, files)
    ∧ after = files.store names (.ofBytes bytes)

/-- How an operation leaves the session when it blames an argument. -/
inductive Blamed (s : Session σ) (operation : Operation) (argument : ParamFailure)
    (after : Session σ) : Prop where
  /-- Nothing was sent or received, and the files are as they were. -/
  | untouched (channel : after.channel = s.channel) (files : after.files = s.files)
  /-- Nothing was sent or received, but the file to receive into was
  made for a window that cannot be used. -/
  | window {path : String} (output : operation.output? = some path)
    (blamed : WindowSize.check s.settings.uploadWindow = .error argument)
    (channel : after.channel = s.channel) (files : Filled path [] s.files after.files)
  /-- The partition was opened, and the blocks in front of the end of
  the device were asked for and copied. -/
  | range {partition path : String} {start : UInt64} {count : UInt32} {bytes : Bytes}
    (operation_eq : operation = .dump partition start count path)
    (blamed : Dump.PastEnd start.toNat count.toNat argument)
    (sent : after.channel.sent = s.channel.sent
      ++ request .readFlashStart (Upload.opening partition) .sum
      :: Upload.asks .sum (Dump.requests s.settings.uploadWindow.toNat start.toNat
        (Dump.inside start.toNat)))
    (copied : bytes.length
      = Dump.inside start.toNat * Dump.batchBlocks * BlockDevice.blockSize)
    (files : Filled path bytes s.files after.files)

/-- What is looked at too late is in order: the window, if something is
received into a file, and the range, if blocks are copied. -/
structure InOrder (s : Session σ) (operation : Operation) : Prop where
  window : ∀ path, operation.output? = some path →
    ∃ window, WindowSize.check s.settings.uploadWindow = .ok window
  range : ∀ partition start count path, operation = .dump partition start count path →
    start.toNat + count.toNat ≤ BlockDevice.blockCount

namespace Blamed

variable {s after : Session σ} {operation : Operation} {argument : ParamFailure}

/-- The event that ends an operation touches nothing. -/
theorem heard (h : Blamed s operation argument after) (event : Event) :
    Blamed s operation argument (after.heard event) := by
  cases h with
  | untouched channel files => exact .untouched channel files
  | window output blamed channel files => exact .window output blamed channel files
  | range operation_eq blamed sent copied files =>
      exact .range operation_eq blamed sent copied files

/-- If what is looked at too late is in order, nothing was done. -/
theorem eq_of_inOrder (h : Blamed s operation argument after) (horder : InOrder s operation) :
    after.channel = s.channel ∧ after.files = s.files := by
  cases h with
  | untouched channel files => exact ⟨channel, files⟩
  | window output blamed channel files =>
      obtain ⟨window, hwindow⟩ := horder.window _ output
      rw [hwindow] at blamed
      cases blamed
  | range operation_eq blamed sent copied files =>
      exact absurd blamed.past (Nat.not_lt.2 (horder.range _ _ _ _ operation_eq))

end Blamed

variable [Peer σ] (s : Session σ)

/-- A run that ends as `Blamed` says of an operation if it blames an
argument. -/
abbrev Excused {α : Type} (operation : Operation) (r : EStateM.Result Failure (Session σ) α) :
    Prop :=
  IfFails (fun cause after => ∀ argument, cause = .param argument →
    Blamed s operation argument after) r

variable {s}

omit [Peer σ] in
/-- A check leaves the session alone. -/
theorem check_excused {α : Type} {operation : Operation} (checked : Except ParamFailure α) :
    Excused s operation (check checked s) := by
  cases checked with
  | ok value => trivial
  | error cause =>
      intro argument _
      exact .untouched rfl rfl

theorem bringUp_excused : Excused s .ready (bringUp s) := by
  unfold bringUp
  refine IfFails.bind trivial fun _ _ hget => ?_
  cases hget
  refine (check_excused _).bind fun first _ hfirst => ?_
  obtain ⟨-, rfl⟩ := check_ok hfirst
  refine (check_excused _).bind fun second _ hsecond => ?_
  obtain ⟨-, rfl⟩ := check_ok hsecond
  apply overLink_ifFails
  split
  · trivial
  · rename_i hrun
    rintro argument rfl
    exact (BringUp.run_blameless s.audience first second (.start, s.link .crc)).elim hrun

theorem command_excused {operation : Operation} (c : Command) :
    Excused s operation (command c s) := by
  unfold command
  refine IfFails.bind trivial fun _ t htell => ?_
  refine IfFails.bind (overLink_ifFails ?_) fun _ _ _ => trivial
  apply IfFails.intro
  rintro cause link hrun argument rfl
  exact (Link.exchange_blameless (Nat.zero_le _) .ack (t.link .sum)).elim hrun

theorem writePartition_excused (partition path : String) :
    Excused s (.write partition path) (writePartition partition path s) := by
  unfold writePartition
  refine IfFails.bind trivial fun _ _ hget => ?_
  cases hget
  refine (check_excused _).bind fun found _ hfound => ?_
  obtain ⟨hname, rfl⟩ := check_ok hfound
  refine IfFails.bind trivial fun _ _ htell => ?_
  cases htell
  apply overLink_ifFails
  apply IfFails.intro
  rintro cause link hrun argument rfl
  rw [Download.downloadFile_param hname hrun]
  exact .untouched rfl rfl

omit [Peer σ] in
/-- What receives into a file answers for what it does once the file is
made. -/
theorem receive_excused {α : Type} {operation : Operation} {partition path : String}
    {act : String → EStateM Failure (Sink × Link σ) α}
    (h : ∀ found names files argument sink link, PartitionTable.lookup partition = .ok found →
      s.files.create path = .ok (names, files) →
      act found (.unlimited, (s.heard (.phaseChanged .ready .upload)).link .sum)
        = .error (.param argument) (sink, link) →
      Blamed s operation argument
        { s.resume link with files := files.store names (.ofBytes sink.bytes.toList) }) :
    Excused s operation ((do
      let found ← check (PartitionTable.lookup partition)
      tell (.phaseChanged .ready .upload)
      let names ← createFile path
      fillFile names (act found)) s) := by
  refine (check_excused _).bind fun found _ hfound => ?_
  obtain ⟨hname, rfl⟩ := check_ok hfound
  refine IfFails.bind trivial fun _ _ htell => ?_
  cases htell
  obtain ⟨names, files, hcreate, hmade⟩ | ⟨cause, hrefused⟩ :=
    createFile_cases path (s.heard (.phaseChanged .ready .upload))
  · rw [bind_of_ok hmade]
    apply fillFile_ifFails
    apply IfFails.intro
    rintro cause ⟨sink, link⟩ hrun argument rfl
    exact h found names files argument sink link hname hcreate hrun
  · rw [bind_of_error hrefused]
    simp

theorem readPartition_excused (partition : String) (size : UInt32) (path : String) :
    Excused s (.read partition size path) (readPartition partition size path s) := by
  unfold readPartition
  refine IfFails.bind trivial fun _ _ hget => ?_
  cases hget
  apply receive_excused
  intro found names files argument sink link hname hcreate hrun
  obtain ⟨hwindow, hlast⟩ := Upload.upload_param hname hrun
  cases hlast
  exact .window rfl hwindow rfl ⟨names, files, hcreate, rfl⟩

theorem dumpBlocks_excused (partition : String) (start : UInt64) (count : UInt32)
    (path : String) :
    Excused s (.dump partition start count path) (dumpBlocks partition start count path s) := by
  unfold dumpBlocks
  refine IfFails.bind trivial fun _ _ hget => ?_
  cases hget
  apply receive_excused
  intro found names files argument sink link hname hcreate hrun
  obtain ⟨hwindow, rfl, rfl⟩ | ⟨hend, hwrote, hcopied⟩ := dump_param hname hrun
  · exact .window rfl hwindow rfl ⟨names, files, hcreate, rfl⟩
  · rw [PartitionTable.eq_of_lookup hname] at hwrote
    exact .range rfl hend hwrote.sent hcopied ⟨names, files, hcreate, rfl⟩

theorem attempt_excused (operation : Operation) :
    Excused s operation (attempt operation s) := by
  cases operation with
  | ready => exact bringUp_excused.bind fun _ _ _ => trivial
  | reset => exact (command_excused _).bind fun _ _ _ => trivial
  | shutdown => exact (command_excused _).bind fun _ _ _ => trivial
  | read partition size path =>
      exact (readPartition_excused partition size path).bind fun _ _ _ => trivial
  | write partition path => exact (writePartition_excused partition path).bind fun _ _ _ => trivial
  | dump partition start count path =>
      exact (dumpBlocks_excused partition start count path).bind fun _ _ _ => trivial

/-- Every operation that blames an argument leaves the session as
`Blamed` says: as it was, but for two kinds of argument that are looked
at too late. If those are in order, so is the rest, whatever is blamed. -/
theorem perform_param {after : Session σ} {operation : Operation} {argument : ParamFailure}
    (h : perform operation s = .error (.param argument) after) :
    Blamed s operation argument after
      ∧ (InOrder s operation → after.channel = s.channel ∧ after.files = s.files) := by
  have hattempt := attempt_excused (s := s) operation
  unfold perform at h
  split at h
  · cases h
  · rename_i cause t hrun
    cases h
    have hblamed : Blamed s operation argument t := hattempt.of_error hrun argument rfl
    have hafter := hblamed.heard (.failed (Failure.param argument).message)
    exact ⟨hafter, hafter.eq_of_inOrder⟩

-- ================================================= looked at too late

omit [Peer σ] in
/-- Receiving begins once the file is made. -/
theorem receive_eq {α : Type} {partition path found : String} {names : List String}
    {files : Files} (hname : PartitionTable.lookup partition = .ok found)
    (hcreate : s.files.create path = .ok (names, files))
    (act : String → EStateM Failure (Sink × Link σ) α) :
    (do
      let found ← check (PartitionTable.lookup partition)
      tell (.phaseChanged .ready .upload)
      let names ← createFile path
      fillFile names (act found)) s
      = fillFile names (act found) { s.heard (.phaseChanged .ready .upload) with files } := by
  have hcheck : check (PartitionTable.lookup partition) s = .ok found s := by
    rw [hname]
    rfl
  have htell : tell (.phaseChanged .ready .upload) s
      = .ok () (s.heard (.phaseChanged .ready .upload)) := rfl
  have hmade : createFile path (s.heard (.phaseChanged .ready .upload))
      = .ok names { s.heard (.phaseChanged .ready .upload) with files } := by
    unfold createFile
    rw [show (s.heard (.phaseChanged .ready .upload)).files.create path = _ from hcreate]
  rw [bind_of_ok hcheck, bind_of_ok htell, bind_of_ok hmade]

omit [Peer σ] in
/-- What goes wrong with the file made leaves it made. -/
theorem receive_of_error {α : Type} {partition path found : String} {names : List String}
    {files : Files} {act : String → EStateM Failure (Sink × Link σ) α} {cause : Failure}
    {sink : Sink} {link : Link σ} (hname : PartitionTable.lookup partition = .ok found)
    (hcreate : s.files.create path = .ok (names, files))
    (hrun : act found (.unlimited, (s.heard (.phaseChanged .ready .upload)).link .sum)
      = .error cause (sink, link)) :
    (do
      let found ← check (PartitionTable.lookup partition)
      tell (.phaseChanged .ready .upload)
      let names ← createFile path
      fillFile names (act found)) s
      = .error cause
        { s.resume link with files := files.store names (.ofBytes sink.bytes.toList) } := by
  rw [receive_eq hname hcreate]
  exact fillFile_of_error hrun

/-- A partition is not read with a window that cannot be used, but the
file is made. -/
theorem perform_read_of_window_error {partition path : String} {size : UInt32} {found : String}
    {names : List String} {files : Files} {argument : ParamFailure}
    (hname : PartitionTable.lookup partition = .ok found)
    (hcreate : s.files.create path = .ok (names, files))
    (hwindow : WindowSize.check s.settings.uploadWindow = .error argument) :
    ∃ after, perform (.read partition size path) s = .error (.param argument) after
      ∧ after.channel = s.channel ∧ after.files = files.store names (.ofBytes []) := by
  have hrun : upload found size s.settings.uploadWindow s.audience
      (.unlimited, (s.heard (.phaseChanged .ready .upload)).link .sum)
      = .error (.param argument)
        (.unlimited, (s.heard (.phaseChanged .ready .upload)).link .sum) := by
    unfold upload Window.make
    rw [hwindow]
    rfl
  have hread : readPartition partition size path s = _ := receive_of_error hname hcreate hrun
  have hattempt : attempt (.read partition size path) s = _ := bind_of_error hread _
  unfold perform
  rw [hattempt]
  exact ⟨_, rfl, rfl, rfl⟩

/-- Blocks behind the device are not read, but the partition is opened
and the file made. -/
theorem perform_dump_of_range_error {partition path : String} {start : UInt64} {count : UInt32}
    {found : String} {names : List String} {files : Files} {argument : ParamFailure}
    {window : WindowSize} {reply : Reply} {u : Upload} {opened : Link σ}
    (hname : PartitionTable.lookup partition = .ok found)
    (hcreate : s.files.create path = .ok (names, files))
    (hwindow : WindowSize.check s.settings.uploadWindow = .ok window)
    (hstart : Upload.start (.ofPartition found,
        (s.heard (.phaseChanged .ready .upload)).link .sum) = .ok reply (u, opened))
    (hcount : 0 < count.toNat)
    (hrange : BlockDevice.byteRange start (UInt32.ofNat (min count.toNat Dump.batchBlocks))
      = .error argument) :
    ∃ after, perform (.dump partition start count path) s = .error (.param argument) after
      ∧ after.channel = opened.channel ∧ after.files = files.store names (.ofBytes []) := by
  have hrun : dump found start count s.settings.uploadWindow s.audience
      (.unlimited, (s.heard (.phaseChanged .ready .upload)).link .sum)
      = .error (.param argument) (.unlimited, opened) :=
    dump_of_range_error hwindow hstart hcount hrange
  have hdump : dumpBlocks partition start count path s = _ :=
    receive_of_error hname hcreate hrun
  have hattempt : attempt (.dump partition start count path) s = _ := bind_of_error hdump _
  unfold perform
  rw [hattempt]
  exact ⟨_, rfl, rfl, rfl⟩

/-- Three bytes in the file that is to be received into, and three on
the device. -/
def occupied (uploadWindow : UInt32) : Session Device :=
  .begin (.connect { Device.fresh .second with partitions := [("boot", #[4, 5, 6])] })
    { uploadWindow } { entries := [(["out"], .file (.ofBytes [1, 2, 3]))] } .nobody

theorem create_occupied (uploadWindow : UInt32) :
    (occupied uploadWindow).files.create "out"
      = .ok (["out"], (occupied uploadWindow).files.store ["out"] .empty) := rfl

/-- The block behind the last one there can be. -/
theorem perform_dump_occupied :
    ∃ after, perform (.dump "boot" 8388608 1 "out") (occupied 0x3000)
        = .error (.param (.blockRange 8388608 1)) after
      ∧ after.channel.sent = [request .readFlashStart (Upload.opening "boot") .sum]
      ∧ after.files.entry? ["out"] = some (.file .empty) := by
  have hname : PartitionTable.lookup "boot" = .ok "boot" := by decide
  have hlink : Link.Attuned
      (((occupied 0x3000).heard (.phaseChanged .ready .upload)).link .sum) := ⟨rfl, rfl⟩
  have hrange : BlockDevice.byteRange 8388608
      (UInt32.ofNat (min (1 : UInt32).toNat Dump.batchBlocks))
      = .error (.blockRange 8388608 1) := by rfl
  obtain ⟨u, opened, -, hstart, hserved⟩ := Upload.start_device hlink (.of_empty rfl) (by decide)
    (u := .ofPartition "boot") (by decide) (by decide) rfl
  rw [if_pos (by decide)] at hstart
  obtain ⟨after, hperform, hchannel, hfiles⟩ := perform_dump_of_range_error hname
    (create_occupied 0x3000) (by rfl) hstart (by decide) hrange
  refine ⟨after, hperform, ?_, ?_⟩
  · rw [hchannel, hserved.sent]
    rfl
  · rw [hfiles]
    rfl

/-- A block that is not there leaves its traces; a partition that is not
there leaves none. -/
theorem perform_param_occupied :
    (∃ after, perform (.dump "boot" 8388608 1 "out") (occupied 0x3000)
        = .error (.param (.blockRange 8388608 1)) after
      ∧ Blamed (occupied 0x3000) (.dump "boot" 8388608 1 "out") (.blockRange 8388608 1) after)
    ∧ ∃ after, perform (.read "nosuch" 512 "out") (occupied 0x3000)
        = .error (.param (.unknownPartition "nosuch")) after
      ∧ after.channel = (occupied 0x3000).channel ∧ after.files = (occupied 0x3000).files := by
  constructor
  · obtain ⟨after, hperform, -, -⟩ := perform_dump_occupied
    exact ⟨after, hperform, (perform_param hperform).1⟩
  · have horder : InOrder (occupied 0x3000) (.read "nosuch" 512 "out") := by
      refine ⟨fun _ _ => ⟨⟨0x3000, by decide, by decide⟩, rfl⟩, ?_⟩
      rintro _ _ _ _ ⟨⟩
    have hperform : perform (.read "nosuch" 512 "out") (occupied 0x3000)
        = .error (.param (.unknownPartition "nosuch")) _ := rfl
    exact ⟨_, hperform, (perform_param hperform).2 horder⟩

/-- Both kinds of argument are looked at too late: the device is asked
to open a partition for a block behind its end, and three bytes that
were in a file are lost for a window that fits no frame. -/
theorem perform_blames_late :
    ((occupied 0x3000).channel.sent = []
      ∧ (occupied 0x3000).files.entry? ["out"] = some (.file (.ofBytes [1, 2, 3]))
      ∧ ∃ after, perform (.dump "boot" 8388608 1 "out") (occupied 0x3000)
          = .error (.param (.blockRange 8388608 1)) after
        ∧ after.channel.sent = [request .readFlashStart (Upload.opening "boot") .sum]
        ∧ after.files.entry? ["out"] = some (.file .empty))
    ∧ (occupied 0).files.entry? ["out"] = some (.file (.ofBytes [1, 2, 3]))
      ∧ ∃ after, perform (.read "boot" 512 "out") (occupied 0)
          = .error (.param (.invalidWindow 0)) after
        ∧ after.files.entry? ["out"] = some (.file .empty) := by
  refine ⟨⟨rfl, rfl, perform_dump_occupied⟩, rfl, ?_⟩
  have hname : PartitionTable.lookup "boot" = .ok "boot" := by decide
  have hwindow : WindowSize.check (occupied 0).settings.uploadWindow
      = .error (.invalidWindow 0) := by rfl
  obtain ⟨after, hperform, -, hfiles⟩ :=
    perform_read_of_window_error hname (create_occupied 0) hwindow
  refine ⟨after, hperform, ?_⟩
  rw [hfiles]
  rfl

end Session

end FlashLink
