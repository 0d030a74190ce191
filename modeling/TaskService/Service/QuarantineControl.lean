import TaskService.Service.Deeds
import TaskService.Service.OutboxConservation

/-!
# Quarantine commands

The control queue of the notification worker, between any callers, the closing service, the
bus and whatever else changes the store.  `accepted` and `answered` record the commands the
queue has taken and the worker has answered.  An aborted worker may leave the write of a
command behind; one that returns has answered every command.
-/

namespace TaskService.Service

open Library Model Store List
open TaskStore

def QuarantineRequest.trimmed (request : QuarantineRequest) : QuarantineRequest :=
  let blank (character : Char) : Bool := Database.whitespaceCode character.toNat
  let kept := ((request.reason.toList.dropWhile blank).reverse.dropWhile blank).reverse
  { request with reason := String.ofList kept }

/-- `quarantine_failed` up to its wait for the answer: the flags are read and the command is
queued under the gate that `close` takes too. -/
def quarantineFailed (core : Core SqliteTaskStore) (workerGone : Bool)
    (request : QuarantineRequest) : Except TaskServiceError (Core SqliteTaskStore) :=
  if request.trimmed.reason.isEmpty then
    .error (.invalidRequest "notification quarantine reason must not be blank")
  else if request.trimmed.reason.utf8ByteSize > 4096 then
    .error (.invalidRequest "notification quarantine reason exceeds 4096 UTF-8 bytes")
  else if core.shuttingDown || core.publisherClosing then .error .shuttingDown
  else if workerGone then
    .error (.notificationClose
      "notification worker stopped before accepting quarantine command")
  else if core.controls.length ≥ controlQueueCapacity then
    .error (.invalidRequest "notification quarantine control queue is full")
  else .ok { core with controls := core.controls ++ [request.trimmed] }

theorem quarantine_queued {core after : Core SqliteTaskStore} {workerGone : Bool}
    {request : QuarantineRequest} (queued : quarantineFailed core workerGone request = .ok after) :
    core.publisherClosing = false ∧ workerGone = false ∧
      after = { core with controls := core.controls ++ [request.trimmed] } := by
  unfold quarantineFailed at queued
  split_ifs at queued with blank long closed gone full
  cases queued
  simp only [Bool.or_eq_true, not_or, Bool.not_eq_true] at closed gone
  exact ⟨closed.2, gone, rfl⟩

def commandRequest (command : QuarantineCommand) : QuarantineRequest :=
  ⟨command.taskId, command.stateVersion, command.eventId, command.reason⟩

namespace PublisherPc

def gone : PublisherPc → Bool
  | .exited => true
  | _ => false

def archiveWrite : PublisherPc → List QuarantineCommand
  | .archive _ _ command => [command]
  | _ => []

def inHand : PublisherPc → List QuarantineRequest
  | .judge _ _ request => [request]
  | .archive _ _ command => [commandRequest command]
  | _ => []

def answers (worker next : PublisherPc) : List QuarantineRequest :=
  if next.inHand = [] then worker.inHand else []

/-- The worker has seen the closing flag after an empty page. -/
def leaving : PublisherPc → Bool
  | .controls .closing _ | .judge .closing _ _ | .archive .closing _ _ | .exited => true
  | _ => false

end PublisherPc

structure ControlRoom where
  config : Config
  core : Core SqliteTaskStore
  worker : PublisherPc
  leftWrites : List QuarantineCommand
  closed : Bool
  aborted : Bool
  accepted : List QuarantineRequest
  answered : List QuarantineRequest

inductive ControlAction where
  | quarantine (request : QuarantineRequest)
  | close
  | worker (input : Input)
  | abort
  | leftWrite (index : Nat) (input : Input)
  | outbox (store : SqliteTaskStore)

namespace ControlRoom

/-- The worker begins to run; commands may have been queued before. -/
def start (config : Config) (core : Core SqliteTaskStore) : ControlRoom :=
  { config := config
    core := core
    worker := .controls .top false
    leftWrites := []
    closed := false
    aborted := false
    accepted := core.controls
    answered := [] }

def withStore (room : ControlRoom) (store : SqliteTaskStore) : ControlRoom :=
  { room with core := { room.core with store := store } }

def database (room : ControlRoom) : Database := room.core.store.database

def step [IdCodec] (room : ControlRoom) : ControlAction → Option ControlRoom
  | .quarantine request =>
      match quarantineFailed room.core room.worker.gone request with
      | .error _ => none
      | .ok core =>
          some { room with core := core, accepted := room.accepted ++ [request.trimmed] }
  | .close =>
      some { room with core := { room.core with publisherClosing := true }, closed := true }
  | .worker input =>
      match room.worker.step room.config room.core input with
      | some { core := core, thread := .publisher worker, .. } =>
          some
            { room with
              core := core
              worker := worker
              answered := room.answered ++ room.worker.answers worker }
      | _ => none
  | .abort =>
      some
        { room with
          worker := .exited
          leftWrites := room.leftWrites ++ room.worker.archiveWrite
          aborted := true }
  | .leftWrite index input =>
      match room.leftWrites[index]? with
      | none => none
      | some command =>
          some
            { room.withStore (quarantineEventOutboxHead room.core.store input.clock command).1 with
              leftWrites := room.leftWrites.eraseIdx index }
  | .outbox store => some (room.withStore store)

end ControlRoom

section Worker

variable {config : Config} {core after : Core SqliteTaskStore} {input : Input}
  {worker next : PublisherPc}

structure ControlStep (core after : Core SqliteTaskStore) (worker next : PublisherPc) : Prop where
  queue : worker.inHand ++ core.controls =
    worker.answers next ++ (next.inHand ++ after.controls)
  closing : after.publisherClosing = core.publisherClosing
  leaving : next.leaving = true → worker.leaving = true ∨ core.publisherClosing = true
  drained : next = .exited → after.controls = []
  named : ∀ command ∈ next.archiveWrite,
    archiveCommand after.failure (commandRequest command) = some command

theorem archive_write_place {command : QuarantineCommand} (member : command ∈ worker.archiveWrite) :
    ∃ place quarantined, worker = .archive place quarantined command := by
  cases worker with
  | archive place quarantined other =>
    rw [mem_singleton.mp member]
    exact ⟨place, quarantined, rfl⟩
  | _ => cases member

section

variable (queue : after.controls = core.controls)
  (closing : after.publisherClosing = core.publisherClosing)
include queue closing

theorem control_step_answers (free : next.inHand = [])
    (leaving : next.leaving = true → worker.leaving = true ∨ core.publisherClosing = true)
    (stays : next ≠ .exited ∨ core.controls = []) : ControlStep core after worker next := by
  refine ⟨?_, closing, leaving, ?_, ?_⟩
  · rw [PublisherPc.answers, if_pos free, free, queue]
    rfl
  · intro exited
    rw [queue]
    exact stays.resolve_left fun stays => stays exited
  · intro command member
    obtain ⟨place, quarantined, rfl⟩ := archive_write_place member
    cases free

theorem control_step_after {place : ControlPlace} (quarantined : Bool)
    (last : place = .closing → worker.leaving = true) :
    ControlStep core after worker (PublisherPc.afterControl place quarantined) := by
  apply control_step_answers queue closing
  · cases place <;> cases quarantined <;> rfl
  · intro leaves
    apply Or.inl
    apply last
    cases place <;> cases quarantined <;> first | rfl | cases leaves
  · left
    cases place <;> cases quarantined <;> intro same <;> cases same

theorem control_step_elsewhere (free : next.inHand = []) (stays : next.leaving = false) :
    ControlStep core after worker next := by
  apply control_step_answers queue closing free
  · intro leaves
    rw [stays] at leaves
    cases leaves
  · left
    rintro rfl
    cases stays

end

theorem call_write_controls {write : SqliteTaskStore → SqliteTaskStore × Except StoreError Unit}
    {answer : Except StoreError Unit}
    (called : core.callWrite input .outbox write = (after, answer)) :
    after.controls = core.controls ∧ after.publisherClosing = core.publisherClosing := by
  unfold Core.callWrite at called
  split at called
  all_goals
    cases called
    exact ⟨rfl, rfl⟩

theorem archive_named {failure : Option NotificationFailure} {request : QuarantineRequest}
    {command : QuarantineCommand} (named : archiveCommand failure request = some command) :
    commandRequest command = request ∧
      ∃ recorded, failure = some recorded ∧ recorded.taskId = request.taskId ∧
        recorded.stateVersion = request.stateVersion ∧ recorded.eventId = request.eventId ∧
        command.lastError = recorded.error := by
  obtain ⟨recorded, rfl, judged⟩ := Option.bind_eq_some_iff.mp named
  split_ifs at judged with same
  cases judged
  exact ⟨rfl, recorded, rfl, same.1, same.2.1, same.2.2, rfl⟩

theorem control_step [IdCodec] (step : PublisherStep config core input worker after next) :
    ControlStep core after worker next := by
  cases step with
  | exits place quarantined empty last =>
    refine control_step_answers rfl rfl rfl ?_ (.inr empty)
    intro
    cases place <;> cases quarantined <;> cases last
    exact .inl rfl
  | drains place quarantined empty =>
    refine control_step_answers rfl rfl ?_ ?_ (.inr empty)
    · cases place <;> cases quarantined <;> rfl
    · cases place <;> cases quarantined <;> intro leaves <;> cases leaves
      exact .inl rfl
  | takes place quarantined request rest queued =>
    refine ⟨queued, rfl, ?_, (by intro same; cases same), (by intro _ member; cases member)⟩
    intro leaves
    left
    cases place <;> first | rfl | cases leaves
  | interrupted request rest queued | called request rest queued =>
    exact ⟨queued, rfl, (fun leaves => by cases leaves), (by intro same; cases same),
      by intro _ member; cases member⟩
  | ignores place quarantined =>
    exact control_step_after rfl rfl quarantined fun last => by
      rw [last]
      rfl
  | accepts place quarantined request command named =>
    obtain ⟨same, -⟩ := archive_named named
    refine ⟨?_, rfl, ?_, (by intro same; cases same), ?_⟩
    · show [request] ++ _ = [] ++ ([commandRequest command] ++ _)
      rw [same]
      rfl
    · intro leaves
      left
      cases place <;> first | rfl | cases leaves
    · intro other member
      rw [mem_singleton.mp member, same]
      exact named
  | archiveFails place quarantined command after error called =>
    obtain ⟨queue, closing⟩ := call_write_controls called
    exact control_step_after queue closing quarantined fun last => by
      rw [last]
      rfl
  | archives place quarantined command after called =>
    obtain ⟨queue, closing⟩ := call_write_controls called
    exact @control_step_after _ { after with failure := none } _ queue closing _ true
      fun last => by
        rw [last]
        rfl
  | nothingListed called =>
    split
    · rename_i closing
      exact control_step_answers rfl rfl rfl (fun _ => .inr closing) (.inl (by simp))
    · exact control_step_elsewhere rfl rfl rfl rfl
  | unmarked entry rest after error called =>
    obtain ⟨queue, closing⟩ := call_write_controls called
    exact control_step_elsewhere queue closing rfl rfl
  | marks entry rest after called =>
    obtain ⟨queue, closing⟩ := call_write_controls called
    cases rest <;> exact control_step_elsewhere queue closing rfl rfl
  | _ =>
    exact control_step_elsewhere rfl rfl rfl rfl

end Worker

section Runs

variable {room next : ControlRoom}

structure Controlled (room : ControlRoom) : Prop where
  shut : room.closed = true → room.core.publisherClosing = true
  gone : room.aborted = true → room.worker = .exited
  answers : room.aborted = false →
    room.accepted = room.answered ++ (room.worker.inHand ++ room.core.controls)
  closing : room.aborted = false → room.worker.leaving = true → room.core.publisherClosing = true
  drained : room.aborted = false → room.worker = .exited → room.core.controls = []
  leftLate : room.aborted = false → room.leftWrites = []
  named : ∀ command ∈ room.leftWrites ++ room.worker.archiveWrite,
    archiveCommand room.core.failure (commandRequest command) = some command

variable [IdCodec] {action : ControlAction}

theorem controlled_step (controlled : Controlled room) (stepped : room.step action = some next) :
    Controlled next := by
  cases action with
  | quarantine request =>
    simp only [ControlRoom.step] at stepped
    split at stepped
    · cases stepped
    · rename_i core queued
      cases stepped
      obtain ⟨unclosed, present, rfl⟩ := quarantine_queued queued
      refine { controlled with answers := ?_, drained := ?_ }
      · intro graceful
        show _ ++ [_] = _ ++ (_ ++ (_ ++ [_]))
        rw [controlled.answers graceful]
        simp only [append_assoc]
      · intro _ exited
        rw [show room.worker = .exited from exited] at present
        cases present
  | close =>
    cases stepped
    exact { controlled with shut := fun _ => rfl, closing := fun _ _ => rfl }
  | worker input =>
    simp only [ControlRoom.step] at stepped
    split at stepped
    · rename_i core worker others ran
      cases stepped
      obtain ⟨_, _, same, taken⟩ := publisher_step_cases _ ran
      cases same
      have step := control_step taken
      have alive : room.aborted = false := by
        by_contra aborted
        rw [controlled.gone (Bool.eq_true_of_not_eq_false aborted)] at taken
        cases taken
      refine ⟨step.closing ▸ controlled.shut, ?_, ?_, ?_, (fun _ => step.drained),
        controlled.leftLate, ?_⟩
      · intro aborted
        exact (Bool.false_ne_true (alive.symm.trans aborted)).elim
      · intro graceful
        rw [controlled.answers graceful, step.queue]
        simp only [append_assoc]
      · intro graceful leaves
        rw [step.closing]
        exact (step.leaving leaves).elim (controlled.closing graceful) id
      · rw [show room.leftWrites = [] from controlled.leftLate alive]
        exact step.named
    · cases stepped
  | abort =>
    cases stepped
    refine ⟨controlled.shut, (fun _ => rfl), (fun graceful => by cases graceful),
      (fun graceful => by cases graceful), (fun graceful => by cases graceful),
      (fun graceful => by cases graceful), ?_⟩
    show ∀ command ∈ (room.leftWrites ++ room.worker.archiveWrite) ++ [], _
    rw [append_nil]
    exact controlled.named
  | leftWrite =>
    simp only [ControlRoom.step] at stepped
    split at stepped
    · cases stepped
    · rename_i command found
      cases stepped
      refine { controlled with leftLate := ?_, named := ?_ }
      · intro graceful
        rw [controlled.leftLate graceful] at found
        cases found
      · intro other member
        apply controlled.named other
        rcases mem_append.mp member with old | now
        · exact mem_append_left _ (mem_of_mem_eraseIdx old)
        · exact mem_append_right _ now
  | outbox store =>
    cases stepped
    exact { controlled with }

/-- A command leaves the outbox and the archive as they are, or moves the row it names, which
is the head of the outbox and the one of the recorded failure. -/
def TouchesFailedHead (failure : Option NotificationFailure) (request : QuarantineRequest)
    (before after : Database) : Prop :=
  (after.taskEventOutbox = before.taskEventOutbox ∧
      after.taskEventOutboxQuarantine = before.taskEventOutboxQuarantine) ∨
    ∃ head recorded now, before.orderedOutbox.head? = some head ∧
      (head.taskId = request.taskId ∧ head.stateVersion = request.stateVersion ∧
        head.eventId = request.eventId) ∧
      failure = some recorded ∧ (recorded.taskId = head.taskId ∧
        recorded.stateVersion = head.stateVersion ∧ recorded.eventId = head.eventId) ∧
      after.taskEventOutboxQuarantine = before.taskEventOutboxQuarantine ++
        [Database.quarantinedRow head ⟨head.taskId, head.stateVersion, head.eventId,
          request.reason, recorded.error⟩ now] ∧
      ∀ event, event ∈ after.taskEventOutbox ↔ event ∈ before.taskEventOutbox ∧
        ¬ (event.taskId = head.taskId ∧ event.stateVersion = head.stateVersion ∧
          event.eventId = head.eventId)

omit [IdCodec] in
theorem quarantine_touches {failure : Option NotificationFailure} {command : QuarantineCommand}
    (named : archiveCommand failure (commandRequest command) = some command)
    (store : SqliteTaskStore) (clock : Clock) :
    TouchesFailedHead failure (commandRequest command) store.database
      (store.quarantineOutboxHead clock command).1.database := by
  obtain ⟨-, recorded, found, task, version, event, error⟩ := archive_named named
  unfold SqliteTaskStore.quarantineOutboxHead
  rcases store.run_outbox_cases (·.quarantineOutboxHead clock command) with
    ⟨_, failed⟩ | ⟨database, _, moved, committed⟩
  · rw [failed]
    exact .inl ⟨rfl, rfl⟩
  · rw [committed]
    obtain ⟨-, head, now, first, same, archive, rows⟩ := Database.quarantine_spec moved
    refine .inr ⟨head, recorded, now, first, same, found, ?_, ?_, rows⟩
    · exact ⟨task.trans same.1.symm, version.trans same.2.1.symm, event.trans same.2.2.symm⟩
    · rw [archive, ← error]
      rfl

theorem worker_touches {input : Input} {request : QuarantineRequest} (controlled : Controlled room)
    (held : request ∈ room.worker.inHand) (stepped : room.step (.worker input) = some next) :
    TouchesFailedHead room.core.failure request room.database next.database := by
  simp only [ControlRoom.step] at stepped
  split at stepped
  · rename_i core worker others ran
    cases stepped
    obtain ⟨_, _, same, taken⟩ := publisher_step_cases _ ran
    cases same
    have named := controlled.named
    cases place : room.worker with
    | judge =>
      rw [place] at taken
      cases taken <;> exact .inl ⟨rfl, rfl⟩
    | archive back quarantined command =>
      rw [place] at taken held named
      rw [mem_singleton.mp held]
      have moved : core.store = room.core.store ∨
          core.store = (room.core.store.quarantineOutboxHead input.clock command).1 := by
        cases taken with
        | archiveFails _ _ _ _ _ called | archives _ _ _ _ called =>
          exact (call_write_cases called).2.imp And.left And.left
      show TouchesFailedHead _ _ _ core.store.database
      rcases moved with unchanged | archived
      · rw [unchanged]
        exact .inl ⟨rfl, rfl⟩
      · rw [archived]
        exact quarantine_touches (named command mem_concat_self) _ input.clock
    | _ =>
      rw [place] at held
      cases held
  · cases stepped

/-- A worker that returns by itself has seen the closing flag and answered every command that
was ever queued, nothing is queued once it is told to close, and a command moves no row but
the failed head it names. -/
theorem quarantine_commands_answered (config : Config) (core : Core SqliteTaskStore)
    (actions : List ControlAction) (room : ControlRoom)
    (reached : runActions ControlRoom.step (ControlRoom.start config core) actions = some room) :
    (room.aborted = false → room.worker = .exited →
      room.core.publisherClosing = true ∧ room.answered = room.accepted) ∧
    (room.closed = true → ∀ request, room.step (.quarantine request) = none) ∧
    (∀ input next, room.step (.worker input) = some next → ∀ request ∈ room.worker.inHand,
      TouchesFailedHead room.core.failure request room.database next.database) ∧
    ∀ index input next command, room.step (.leftWrite index input) = some next →
      room.leftWrites[index]? = some command →
      TouchesFailedHead room.core.failure (commandRequest command) room.database
        next.database := by
  have begun : Controlled (ControlRoom.start config core) :=
    ⟨(fun shut => by cases shut), (fun aborted => by cases aborted), (fun _ => rfl),
    (fun _ leaves => by cases leaves),
      (fun _ exited => by cases exited), (fun _ => rfl), (fun _ member => by cases member)⟩
  have controlled : Controlled room :=
    run_preserves controlled_step begun reached
  refine ⟨?_, ?_, ?_, ?_⟩
  · intro graceful exited
    have leaving : room.worker.leaving = true := by
      rw [exited]
      rfl
    have balance := controlled.answers graceful
    rw [controlled.drained graceful exited, exited] at balance
    exact ⟨controlled.closing graceful leaving, (balance.trans (append_nil _)).symm⟩
  · intro closed request
    simp only [ControlRoom.step]
    split
    · rfl
    · rename_i queued
      cases (controlled.shut closed).symm.trans (quarantine_queued queued).1
  · intro input next stepped request held
    exact worker_touches controlled held stepped
  · intro index input next command stepped found
    simp only [ControlRoom.step, found] at stepped
    cases stepped
    apply quarantine_touches
    apply controlled.named command
    exact mem_append_left _ (mem_of_getElem? found)

end Runs

def sampleUnpublished [IdCodec] : SqliteTaskStore :=
  let owned := ((SqliteTaskStore.opened Database.empty).acquireOwner (.ok ())).1
  (owned.enableOutbox.1.acceptEncoded { now := 0, eventNow := 0 } sampleId sampleRequest).1

def sampleIsolation : List ControlAction :=
  List.replicate 3 (.worker {}) ++
    [.worker { publication := .error "bus" },
      .quarantine ⟨sampleId, 0, Database.eventIdText sampleId 0, " poisoned "⟩] ++
    List.replicate 2 (.worker {}) ++ [.close] ++ List.replicate 5 (.worker {})

theorem quarantine_commands_answered_sample :
    letI := sampleIdCodec
    ∃ room, runActions ControlRoom.step
        (ControlRoom.start (sampleConfig .cooperative) (Core.boot sampleUnpublished [] []))
        sampleIsolation = some room ∧
      (room.aborted = false ∧ room.worker.gone = true ∧
        room.database.taskEventOutboxQuarantine.map (·.reason) = ["poisoned"]) ∧
      room.answered = room.accepted := by
  let codec := sampleIdCodec
  apply run_shows (by decide +kernel)
  intro room reached ⟨graceful, gone, _⟩
  have exited : room.worker = .exited := by
    cases place : room.worker with
    | exited => rfl
    | _ =>
      rw [place] at gone
      cases gone
  exact ((quarantine_commands_answered _ _ _ room reached).1 graceful exited).2

end TaskService.Service
