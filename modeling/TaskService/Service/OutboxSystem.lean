import TaskService.Service.System
import TaskService.Store.OutboxQueue

/-!
# Notification delivery as one system

The store, the notification worker and the bus.  Lifecycle operations come with
arbitrary commands, as any caller of the store could issue them.  The bus may accept
an event at any time after the worker has handed it over, also when the worker was
told of a failure or is gone; it acknowledges only what it has accepted.  A restart
takes the store of the same process and the writes already handed to it, a crash
leaves only the database file.
-/

namespace TaskService.Service

open Library Model Store

structure OutboxSystem where
  config : Config
  core : Core SqliteTaskStore
  worker : PublisherPc
  detached : List DetachedWrite
  wire : List EventOutboxEntry
  accepted : List EventOutboxEntry

inductive OutboxAction where
  | accept (input : Input) (id : TaskId) (request : StoredTaskRequest)
  | start (input : Input) (command : StartCommand)
  | transition (input : Input) (command : TransitionCommand)
  | progress (input : Input) (command : ProgressCommand)
  | prune (input : Input) (cutoff maxRows : Nat)
  | acquireOwner (lock : Except StoreError Unit)
  | enableOutbox
  | releaseOwner (epoch : Nat) (unlock : Except StoreError Unit)
  | serve
  | quarantine (request : QuarantineRequest)
  | close
  | worker (input : Input)
  | abort (input : Input) (issued : Bool)
  | detached (index : Nat) (input : Input)
  | busAccept (entry : EventOutboxEntry)
  | restart (config : Config)
  | crash (config : Config)

/-- A call that fails operationally leaves the store as it was. -/
def orFailure {α : Type} (failure : Option String) (store : SqliteTaskStore)
    (result : SqliteTaskStore × Except StoreError α) :
    SqliteTaskStore × Except StoreError Unit :=
  match failure with
  | some message => (store, .error (.failure message))
  | none => (result.1, result.2.map fun _ => ())

def OutboxAction.acceptedIds : OutboxAction → List TaskId
  | .accept _ id _ => [id]
  | _ => []

def OutboxAction.lifecycleCall [IdCodec] (store : SqliteTaskStore) :
    OutboxAction → Option (SqliteTaskStore × Except StoreError Unit)
  | .accept input id request =>
      some (orFailure input.storeFailure store (store.acceptEncoded input.clock id request))
  | .start input command =>
      some (orFailure input.storeFailure store (store.startEncoded input.clock command))
  | .transition input command =>
      some (orFailure input.storeFailure store (store.transitionEncoded input.clock command))
  | .progress input command =>
      some (orFailure input.storeFailure store (store.updateProgress command))
  | .prune input cutoff maxRows =>
      some (orFailure input.storeFailure store (store.pruneTerminalBefore cutoff maxRows))
  | _ => none

namespace OutboxSystem

def boot (config : Config) (database : Database) (knownIds : List TaskId) : OutboxSystem :=
  { config := config
    core := Core.boot (SqliteTaskStore.opened database) knownIds []
    worker := .idle
    detached := []
    wire := []
    accepted := [] }

def database (system : OutboxSystem) : Database :=
  system.core.store.database

def withStore (system : OutboxSystem) (store : SqliteTaskStore) : OutboxSystem :=
  { system with core := { system.core with store := store } }

/-- The event that the worker hands to the bus as it comes to this point. -/
def handed : PublisherPc → List EventOutboxEntry
  | .publish entry _ => [entry]
  | _ => []

/-- The bus confirms only what it has accepted. -/
def confirms (accepted : List EventOutboxEntry) (input : Input) : PublisherPc → Bool
  | .publish entry _ =>
      match input.publication with
      | .ok () => accepted.contains entry
      | .error _ => true
  | _ => true

variable [IdCodec]

def stepWorker (system : OutboxSystem) (input : Input) : Option OutboxSystem :=
  if confirms system.accepted input system.worker then
    match system.worker.step system.config system.core input with
    | some { core := core, thread := .publisher worker, .. } =>
        some
          { system with
            core := core
            worker := worker
            wire := handed worker ++ system.wire }
    | _ => none
  else none

def stepDetached (system : OutboxSystem) (index : Nat) (input : Input) : Option OutboxSystem :=
  match system.detached[index]? with
  | none => none
  | some write =>
      some
        { system.withStore (write.run system.core.store input) with
          detached := system.detached.eraseIdx index }

def stepAbort (system : OutboxSystem) (input : Input) (issued : Bool) : Option OutboxSystem :=
  if issued then
    match (Thread.publisher system.worker).issuedWrite input with
    | none => none
    | some write => some { system with worker := .exited, detached := system.detached ++ [write] }
  else some { system with worker := .exited }

def step (system : OutboxSystem) (action : OutboxAction) : Option OutboxSystem :=
  match action.lifecycleCall system.core.store with
  | some (store, _) =>
      some
        { system with
          core :=
            { system.core with
              store := store
              knownIds := action.acceptedIds ++ system.core.knownIds } }
  | none =>
      match action with
      | .acquireOwner lock => some (system.withStore (system.core.store.acquireOwner lock).1)
      | .enableOutbox => some (system.withStore system.core.store.enableOutbox.1)
      | .releaseOwner epoch unlock =>
          some (system.withStore (system.core.store.releaseOwner epoch unlock).1)
      | .serve => some { system with core := { system.core with ready := true } }
      | .quarantine request =>
          if system.core.controls.length ≥ controlQueueCapacity then none
          else
            some
              { system with
                core := { system.core with controls := system.core.controls ++ [request] } }
      | .close => some { system with core := { system.core with publisherClosing := true } }
      | .worker input => system.stepWorker input
      | .abort input issued => system.stepAbort input issued
      | .detached index input => system.stepDetached index input
      | .busAccept entry =>
          if entry ∈ system.wire then some { system with accepted := entry :: system.accepted }
          else none
      | .restart config =>
          some
            { system with
              config := config
              core := Core.boot system.core.store system.core.knownIds []
              worker := .idle }
      | .crash config =>
          some
            { system with
              config := config
              core := Core.boot (SqliteTaskStore.opened system.database) system.core.knownIds []
              worker := .idle
              detached := [] }
      | .accept .. | .start .. | .transition .. | .progress .. | .prune .. => none

end OutboxSystem

/-- Identifiers given to `accept_encoded` are not reused. -/
def FreshAccepts (system : OutboxSystem) (action : OutboxAction) : Prop :=
  ∀ id ∈ action.acceptedIds, id ∉ system.core.knownIds

instance (system : OutboxSystem) (action : OutboxAction) : Decidable (FreshAccepts system action) :=
  inferInstanceAs (Decidable (∀ id ∈ action.acceptedIds, _))

section Samples

def sampleNotifier : OutboxSystem :=
  OutboxSystem.boot { sampleConfig .cooperative with publisherConfigured := true } Database.empty []

def sampleOwned : List OutboxAction :=
  [.acquireOwner (.ok ()), .enableOutbox, .serve]

def sampleAccept : OutboxAction :=
  .accept {} sampleId sampleRequest

def sampleFirstStart : OutboxAction :=
  .start {} { id := sampleId, expectedStateVersion := 0, startedAtMs := 0 }

def sampleEvent (version : Nat) (state : TaskState) : EventOutboxEntry :=
  { taskId := sampleId
    stateVersion := version
    eventId := Database.eventIdText sampleId version
    event :=
      { schemaVersion := 1
        taskId := sampleId
        stateVersion := version
        state := state
        correlationKey := none } }

def workerSteps (count : Nat) : List OutboxAction :=
  List.replicate count (.worker {})

/-- The worker reads a page and publishes its first event, which the bus accepts and the
worker acknowledges. -/
def samplePublication : List OutboxAction :=
  workerSteps 4 ++ [.busAccept (sampleEvent 0 .queued)] ++ workerSteps 2

end Samples

end TaskService.Service
