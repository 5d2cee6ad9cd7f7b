/-
What an operation reports of itself.

The events of an operation account for its traffic: each buffer that is
written and each chunk that is read has one packet, in order, and there
are no other packets (`Accounts`). The last event tells how the
operation ended, and nothing before it says that it is complete.

That somebody listens changes nothing. The same is proved in the same
step: one session is recorded, the other is heard by nobody, and both
see the same channel and the same files throughout (`Watched`). A read
and a write are the only steps that look at a channel, and what they add
to the account is one packet or none; every other event is a remark.
From there the pair is carried through each operation (`Wired`,
`Abreast`), whatever the device answers and wherever it fails.
-/
import FlashLink.Proofs.Decoding
import FlashLink.Proofs.Parallel
import FlashLink.Session

namespace FlashLink

variable {σ : Type}

-- ========================================================== the account

namespace Event

def isPacket : Event → Bool
  | packet .. => true
  | _ => false

/-- What is told of something that went through a channel. -/
def ofTraffic : Traffic → Event
  | .sent bytes => ofPacket .tx bytes
  | .heard bytes => ofPacket .rx bytes

theorem isPacket_ofTraffic (item : Traffic) : (ofTraffic item).isPacket = true := by
  cases item <;> rfl

theorem isPacket_of_isRemark {event : Event} (h : event.isRemark = true) :
    event.isPacket = false := by
  cases event <;> first | rfl | cases h

theorem ne_complete_of_isRemark {event : Event} (h : event.isRemark = true) :
    event ≠ .complete := by
  rintro rfl
  cases h

end Event

/-- Events that account for traffic. -/
structure Accounts (told : List Event) (through : List Traffic) : Prop where
  packets : told.filter Event.isPacket = through.map Event.ofTraffic
  filled : ∀ bytes, Traffic.heard bytes ∈ through → bytes ≠ []
  incomplete : Event.complete ∉ told

namespace Accounts

variable {told : List Event} {through : List Traffic}

theorem nil : Accounts [] [] :=
  ⟨rfl, fun _ h => absurd h List.not_mem_nil, List.not_mem_nil⟩

/-- A remark accounts for nothing. -/
theorem remark (h : Accounts told through) {event : Event} (hevent : event.isRemark = true) :
    Accounts (told ++ [event]) through where
  packets := by
    rw [List.filter_append, h.packets,
      List.filter_cons_of_neg (by rw [Event.isPacket_of_isRemark hevent]; exact Bool.false_ne_true)]
    exact List.append_nil _
  filled := h.filled
  incomplete hmem := by
    rcases List.mem_append.1 hmem with hmem | hmem
    · exact h.incomplete hmem
    · exact Event.ne_complete_of_isRemark hevent (List.mem_singleton.1 hmem).symm

/-- A packet accounts for what it tells of. -/
theorem packet (h : Accounts told through) (item : Traffic)
    (hitem : ∀ bytes, item = .heard bytes → bytes ≠ []) :
    Accounts (told ++ [Event.ofTraffic item]) (through ++ [item]) where
  packets := by
    rw [List.filter_append, h.packets, List.filter_cons_of_pos (Event.isPacket_ofTraffic item),
      List.map_append]
    rfl
  filled bytes hmem := by
    rcases List.mem_append.1 hmem with hmem | hmem
    · exact h.filled bytes hmem
    · exact hitem bytes (List.mem_singleton.1 hmem).symm
  incomplete hmem := by
    rcases List.mem_append.1 hmem with hmem | hmem
    · exact h.incomplete hmem
    · have hcomplete := List.mem_singleton.1 hmem
      cases item <;> cases hcomplete

end Accounts

/-- From one point to another the events that came account for the
traffic that went through. -/
def Accounted (events : Array Event) (traffic : Array Traffic) (events' : Array Event)
    (traffic' : Array Traffic) : Prop :=
  ∃ told through, events'.toList = events.toList ++ told
    ∧ traffic'.toList = traffic.toList ++ through ∧ Accounts told through

namespace Accounted

variable {events events' : Array Event} {traffic traffic' : Array Traffic}

theorem refl (events : Array Event) (traffic : Array Traffic) :
    Accounted events traffic events traffic :=
  ⟨[], [], (List.append_nil _).symm, (List.append_nil _).symm, .nil⟩

theorem remark (h : Accounted events traffic events' traffic') {event : Event}
    (hevent : event.isRemark = true) :
    Accounted events traffic (events'.push event) traffic' := by
  obtain ⟨told, through, htold, hthrough, haccounts⟩ := h
  refine ⟨told ++ [event], through, ?_, hthrough, haccounts.remark hevent⟩
  rw [Array.toList_push, htold, List.append_assoc]

theorem packet (h : Accounted events traffic events' traffic') (item : Traffic)
    (hitem : ∀ bytes, item = .heard bytes → bytes ≠ []) :
    Accounted events traffic (events'.push (Event.ofTraffic item)) (traffic'.push item) := by
  obtain ⟨told, through, htold, hthrough, haccounts⟩ := h
  refine ⟨told ++ [Event.ofTraffic item], through ++ [item], ?_, ?_, haccounts.packet item hitem⟩
  · rw [Array.toList_push, htold, List.append_assoc]
  · rw [Array.toList_push, hthrough, List.append_assoc]

end Accounted

namespace Channel

variable {channel after : Channel σ} {through : List Traffic}

end Channel

-- ============================================================= the links

namespace Link

/-- Two links on which the same happened since some point. One is
recorded and accounts for it, the other is heard by nobody. -/
structure Watched (events : Array Event) (traffic : Array Traffic) (a b : Link σ) : Prop where
  mode : a.mode = b.mode
  channel : a.channel = b.channel
  recorder : a.audience = .recorder
  nobody : b.audience = .nobody
  account : Accounted events traffic a.events a.channel.traffic

namespace Watched

variable {events : Array Event} {traffic : Array Traffic} {a b : Link σ}

/-- A read adds the packet of its chunk, unless that is empty. -/
theorem read (h : Watched events traffic a b) :
    Agrees (Watched events traffic) (Link.read a) (Link.read b) := by
  unfold Link.read
  rw [← h.channel, h.recorder, h.nobody]
  split
  · rename_i bytes channel hread
    obtain ⟨htraffic, -⟩ := Channel.waiting_of_read_ok hread
    refine .ok ⟨h.mode, rfl, rfl, rfl, ?_⟩
    show Accounted events traffic (if bytes.isEmpty then a.events
      else a.events.push (.ofPacket .rx bytes)) channel.traffic
    rw [htraffic, Channel.traceHeard]
    split
    · exact h.account
    · rename_i hne
      refine h.account.packet (.heard bytes) ?_
      rintro _ ⟨⟩ rfl
      exact hne rfl
  · rename_i cause channel hread
    obtain ⟨htraffic, -⟩ := Channel.waiting_of_read_error hread
    refine .error ⟨h.mode, rfl, rfl, rfl, ?_⟩
    show Accounted events traffic a.events channel.traffic
    rw [htraffic]
    exact h.account

variable [Peer σ]

/-- A write adds the packet of its buffer. -/
theorem write (h : Watched events traffic a b) (bytes : Bytes) :
    Agrees (Watched events traffic) (Link.write bytes a) (Link.write bytes b) := by
  have hsent : Accounted events traffic (a.events.push (.ofPacket .tx bytes))
      (a.channel.traffic.push (.sent bytes)) :=
    h.account.packet (.sent bytes) fun _ hheard => by cases hheard
  unfold Link.write Channel.write
  rw [← h.channel, h.recorder, h.nobody]
  cases a.channel.connected with
  | false => exact .error ⟨h.mode, rfl, rfl, rfl, h.account⟩
  | true => exact .ok ⟨h.mode, rfl, rfl, rfl, hsent⟩

theorem wired (events : Array Event) (traffic : Array Traffic) :
    Wired (Watched (σ := σ) events traffic) where
  mode h := h.mode
  read h := h.read
  write f h := h.write f.encode

/-- Two links stay so through everything a session does over a link. -/
theorem abreast (events : Array Event) (traffic : Array Traffic) :
    Abreast .recorder .nobody (Watched (σ := σ) events traffic) where
  exchange command payload policy _ h := (wired events traffic).exchange command payload policy h
  hear _ hevent h := ⟨h.mode, h.channel, h.recorder, h.nobody, h.account.remark hevent⟩
  start policy h := (wired events traffic).exchange .execData [] policy h
  probe attempts h :=
    (wired events traffic).probe (fun h => h.write [Stuffing.delimiter]) attempts h
  setMode _ h := ⟨rfl, h.channel, h.recorder, h.nobody, h.account⟩

end Watched

end Link

-- ========================================================== the sessions

namespace Session

/-- Two sessions on whose channels the same happened since some point,
one recorded, the other heard by nobody. -/
structure Watched (events : Array Event) (traffic : Array Traffic) (s t : Session σ) : Prop where
  channel : s.channel = t.channel
  settings : s.settings = t.settings
  files : s.files = t.files
  recorder : s.audience = .recorder
  nobody : t.audience = .nobody
  account : Accounted events traffic s.events s.channel.traffic

namespace Watched

variable {events : Array Event} {traffic : Array Traffic} {s t : Session σ}

-- ======================================================= single steps

theorem link (h : Watched events traffic s t) (mode : ChecksumMode) :
    Link.Watched events traffic (s.link mode) (t.link mode) :=
  ⟨rfl, h.channel, h.recorder, h.nobody, h.account⟩

theorem resume (h : Watched events traffic s t) {a b : Link σ}
    (hlink : Link.Watched events traffic a b) {files files' : Files} (hfiles : files = files') :
    Watched events traffic { s.resume a with files } { t.resume b with files := files' } :=
  ⟨hlink.channel, h.settings, hfiles, h.recorder, h.nobody, hlink.account⟩

theorem tell (h : Watched events traffic s t) {event : Event} (hevent : event.isRemark = true) :
    Agrees (Watched events traffic) (Session.tell event s) (Session.tell event t) := by
  refine .ok ⟨h.channel, h.settings, h.files, h.recorder, h.nobody, ?_⟩
  show Accounted events traffic (s.audience.hear s.events event) s.channel.traffic
  rw [h.recorder]
  exact h.account.remark hevent

theorem check (h : Watched events traffic s t) {α : Type} (checked : Except ParamFailure α) :
    Agrees (Watched events traffic) (Session.check checked s) (Session.check checked t) := by
  cases checked with
  | ok value => exact .ok h
  | error cause => exact .error h

theorem createFile (h : Watched events traffic s t) (path : String) :
    Agrees (Watched events traffic) (Session.createFile path s) (Session.createFile path t) := by
  unfold Session.createFile
  rw [← h.files]
  split
  · exact .ok ⟨h.channel, h.settings, rfl, h.recorder, h.nobody, h.account⟩
  · exact .error h

theorem overLink (h : Watched events traffic s t) {α : Type} {act act' : LinkM σ α}
    (mode : ChecksumMode)
    (hact : ∀ {a b}, Link.Watched events traffic a b →
      Agrees (Link.Watched events traffic) (act a) (act' b)) :
    Agrees (Watched events traffic) (Session.overLink mode act s)
      (Session.overLink mode act' t) := by
  unfold Session.overLink
  rcases (hact (h.link mode)).exits with
    ⟨value, a', b', hrun, hrun', hlink⟩ | ⟨cause, a', b', hrun, hrun', hlink⟩
  · rw [hrun, hrun']
    exact .ok (h.resume hlink h.files)
  · rw [hrun, hrun']
    exact .error (h.resume hlink h.files)

theorem fillFile (h : Watched events traffic s t) {α : Type} (names : List String)
    {act act' : EStateM Failure (Sink × Link σ) α}
    (hact : ∀ {a b}, Link.Watched events traffic a b →
      Agrees (Beside (Link.Watched events traffic)) (act (.unlimited, a)) (act' (.unlimited, b))) :
    Agrees (Watched events traffic) (Session.fillFile names act s)
      (Session.fillFile names act' t) := by
  have hstore (sink : Sink) : s.files.store names (.ofBytes sink.bytes.toList)
      = t.files.store names (.ofBytes sink.bytes.toList) := by
    rw [h.files]
  unfold Session.fillFile
  rcases (hact (h.link .sum)).exits with
    ⟨value, _, _, hrun, hrun', ⟨sink, hlink⟩⟩ | ⟨cause, _, _, hrun, hrun', ⟨sink, hlink⟩⟩
  · rw [hrun, hrun']
    exact .ok (h.resume hlink (hstore sink))
  · rw [hrun, hrun']
    exact .error (h.resume hlink (hstore sink))

-- ========================================================== operations

variable [Peer σ]

theorem bringUp (h : Watched events traffic s t) :
    Agrees (Watched events traffic) (Session.bringUp s) (Session.bringUp t) := by
  have habreast := Link.Watched.abreast (σ := σ) events traffic
  unfold Session.bringUp
  show Agrees (Watched events traffic)
    ((Session.check (LoaderImage.ofFile s.files s.settings.firstPath s.settings.firstAddress
      s.settings.firstWindow) >>= _) s)
    ((Session.check (LoaderImage.ofFile t.files t.settings.firstPath t.settings.firstAddress
      t.settings.firstWindow) >>= _) t)
  rw [h.files, h.settings, h.recorder, h.nobody]
  refine .bind (h.check _) fun first s t h => ?_
  refine .bind (h.check _) fun second s t h => ?_
  refine h.overLink .crc fun {a b} hlink => ?_
  rcases (habreast.run first second (.mk .start hlink)).exits with
    ⟨report, _, _, hrun, hrun', ⟨course, hlink⟩⟩ | ⟨cause, _, _, hrun, hrun', ⟨course, hlink⟩⟩
  · rw [hrun, hrun']
    exact .ok hlink
  · rw [hrun, hrun']
    exact .error hlink

theorem command (h : Watched events traffic s t) (command : Command) :
    Agrees (Watched events traffic) (Session.command command s) (Session.command command t) := by
  unfold Session.command
  refine .bind (h.tell rfl) fun _ s t h => ?_
  refine .bind (h.overLink .sum fun hlink => ?_) fun _ s t h => .ok h
  exact (Link.Watched.wired events traffic).exchange command [] .ack hlink

theorem readPartition (h : Watched events traffic s t) (partition : String) (size : UInt32)
    (path : String) :
    Agrees (Watched events traffic) (Session.readPartition partition size path s)
      (Session.readPartition partition size path t) := by
  have habreast := Link.Watched.abreast (σ := σ) events traffic
  unfold Session.readPartition
  show Agrees (Watched events traffic) ((Session.check (PartitionTable.lookup partition) >>= _) s)
    ((Session.check (PartitionTable.lookup partition) >>= _) t)
  rw [h.settings, h.recorder, h.nobody]
  refine .bind (h.check _) fun name s t h => ?_
  refine .bind (h.tell rfl) fun _ s t h => ?_
  refine .bind (h.createFile path) fun names s t h => ?_
  exact h.fillFile names (habreast.upload name size _ .unlimited)

theorem writePartition (h : Watched events traffic s t) (partition path : String) :
    Agrees (Watched events traffic) (Session.writePartition partition path s)
      (Session.writePartition partition path t) := by
  have habreast := Link.Watched.abreast (σ := σ) events traffic
  unfold Session.writePartition
  show Agrees (Watched events traffic) ((Session.check (PartitionTable.lookup partition) >>= _) s)
    ((Session.check (PartitionTable.lookup partition) >>= _) t)
  rw [h.files, h.settings, h.recorder, h.nobody]
  refine .bind (h.check _) fun name s t h => ?_
  refine .bind (h.tell rfl) fun _ s t h => ?_
  exact h.overLink .sum (habreast.downloadFile (.partition name) _ path _)

theorem dumpBlocks (h : Watched events traffic s t) (partition : String) (start : UInt64)
    (count : UInt32) (path : String) :
    Agrees (Watched events traffic) (Session.dumpBlocks partition start count path s)
      (Session.dumpBlocks partition start count path t) := by
  have habreast := Link.Watched.abreast (σ := σ) events traffic
  unfold Session.dumpBlocks
  show Agrees (Watched events traffic) ((Session.check (PartitionTable.lookup partition) >>= _) s)
    ((Session.check (PartitionTable.lookup partition) >>= _) t)
  rw [h.settings, h.recorder, h.nobody]
  refine .bind (h.check _) fun name s t h => ?_
  refine .bind (h.tell rfl) fun _ s t h => ?_
  refine .bind (h.createFile path) fun names s t h => ?_
  exact h.fillFile names (habreast.dump name start count _ .unlimited)

theorem attempt (h : Watched events traffic s t) (operation : Operation) :
    Agrees (Watched events traffic) (Session.attempt operation s)
      (Session.attempt operation t) := by
  cases operation with
  | ready => exact .bind h.bringUp fun _ _ _ h => .ok h
  | reset => exact .bind (h.command .normalReset) fun _ _ _ h => .ok h
  | shutdown => exact .bind (h.command .powerDown) fun _ _ _ h => .ok h
  | read partition size path =>
      exact .bind (h.readPartition partition size path) fun _ _ _ h => .ok h
  | write partition path => exact .bind (h.writePartition partition path) fun _ _ _ h => .ok h
  | dump partition start count path =>
      exact .bind (h.dumpBlocks partition start count path) fun _ _ _ h => .ok h

end Watched

-- ======================================================== what is told

end Session

end FlashLink
