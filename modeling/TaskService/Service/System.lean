import TaskService.Library.ThreadPool
import TaskService.Service.ClientCalls
import TaskService.Service.Publisher
import TaskService.Service.RunOne
import TaskService.Service.Scheduler
import TaskService.Service.Shutdown
import TaskService.Store.MemoryTaskStore

/-!
# The service as one system

A system state is the shared core and the pool of threads of the service that
currently owns the store.  Positions 0 to 3 of the pool are the scheduler, the
shutdown supervisor, the notification worker and the thread that recovers the
store.  A restart, which also stands for a crash, keeps the store and the
writes already handed to it, and replaces everything else.
-/

namespace TaskService.Service

open Library Model Store
open TaskStore

inductive ClientCall where
  | submit (encoded : Except String StoredTaskRequest)
  | cancel (id : TaskId)
  | resume (id : TaskId) (expectedStateVersion : Nat)

def ClientCall.thread : ClientCall → Thread
  | .submit encoded => .submit { encoded := encoded, pc := .admission }
  | .cancel id => .cancel { id := id, pc := .admission }
  | .resume id expectedStateVersion =>
      .resume { id := id, expectedStateVersion := expectedStateVersion, pc := .admission }

inductive Action where
  | thread (index : Nat) (input : Input)
  | call (call : ClientCall)
  | drop (index : Nat) (input : Input) (issued : Bool)
  | requestShutdown
  | dropHandles
  | retryRelease
  | quarantine (request : QuarantineRequest)
  | progress (command : ProgressCommand)
  | prune (cutoff maxRows : Nat)
  | restart (config : Config)

structure System (σ : Type) where
  config : Config
  core : Core σ
  threads : List Thread

def bootThreads : List Thread :=
  [.scheduler .idle, .supervisor .waitRequest, .publisher .idle, .starter (.list none)]

/-- A service that starts on a store.  `knownIds` are the identifiers given to
the store's tasks so far. -/
def System.boot {σ : Type} (config : Config) (store : σ) (knownIds : List TaskId) : System σ :=
  { config := config, core := Core.boot store knownIds [], threads := bootThreads }

variable {σ : Type}

/-- The core once a future is dropped at the await point it stands at. -/
def Thread.dropped (core : Core σ) : Thread → Option (Core σ)
  | .submit call =>
      match call.pc with
      | .admission => some core
      | .generate _ | .accept _ _ => some core.leaveAdmission
      | .checkFault | .checkShutdown | .returned _ => none
  | .cancel call =>
      match call.pc with
      | .admission | .waitHook _ _ => some core
      | .load | .cancelBeforeStart _ | .requestCancel _ => some core.leaveAdmission
      | .checkFault | .checkShutdown | .checkOwner | .signal _ | .joinHook _ | .spawnHook _ _
      | .dropAdmission _ _ | .returned _ => none
  | .resume call =>
      match call.pc with
      | .admission => some core
      | .load | .requeue _ => some core.leaveAdmission
      | .checkFault | .checkShutdown | .checkOwner | .returned _ => none
  | .publisher .idle | .publisher .exited => none
  | .publisher _ =>
      if core.publisherAborted then some { core with publisherExited := true } else none
  | .run _ | .hook _ | .scheduler _ | .supervisor _ | .starter _ | .detached _ | .finished => none

def Thread.remains : Thread → Thread
  | .publisher _ => .publisher .exited
  | _ => .finished

/-- The store write a thread stands at, which goes on when it was issued before
the future was dropped. -/
def Thread.issuedWrite (input : Input) : Thread → Option DetachedWrite
  | .submit { encoded := _, pc := .accept id stored } => some (.accept id stored)
  | .cancel { id, pc := .cancelBeforeStart summary } =>
      some (.transition summary (CancelCall.beforeStartCommand id summary input.now))
  | .cancel { id, pc := .requestCancel summary } =>
      some (.transition summary (CancelCall.requestCommand id summary))
  | .resume { id, expectedStateVersion, pc := .requeue summary } =>
      some
        (.transition summary
          (ResumeCall.requeueCommand
            { id := id, expectedStateVersion := expectedStateVersion, pc := .requeue summary }
            summary))
  | .publisher (.archive _ _ command) => some (.quarantine command)
  | .publisher (.acknowledge entry _) => some (.markPublished entry.taskId entry.stateVersion)
  | _ => none

def DetachedWrite.kind : DetachedWrite → WriteKind
  | .accept _ _ => .accept
  | .transition _ _ => .transition
  | .markPublished _ _ | .quarantine _ => .outbox

variable [TaskStore σ]

def Thread.isDetached : Thread → Bool
  | .detached _ => true
  | _ => false

def DetachedWrite.run (store : σ) (input : Input) : DetachedWrite → σ
  | .accept id request => (acceptEncoded store input.clock id request).1
  | .transition _ command => (transitionEncoded store input.clock command).1
  | .markPublished id version => (markEventPublished store id version).1
  | .quarantine command => (quarantineEventOutboxHead store input.clock command).1

def Thread.step (config : Config) (core : Core σ) (input : Input) : Thread → Option (Step σ)
  | .submit call => call.step core input
  | .cancel call => call.step config core input
  | .resume call => call.step core input
  | .run task => task.step config core input
  | .hook task => task.step config core input
  | .scheduler pc => pc.step config core input
  | .supervisor pc => pc.step config core input
  | .publisher pc => pc.step config core input
  | .starter pc => pc.step core input
  | .detached write =>
      some { core := { core with store := write.run core.store input }, thread := .finished }
  | .finished => none

namespace System

def stepThread (system : System σ) (index : Nat) (input : Input) : Option (System σ) :=
  match system.threads[index]? with
  | none => none
  | some thread =>
      match thread.step system.config system.core input with
      | none => none
      | some result =>
          some
            { system with
              core := result.core
              threads := advance system.threads index result.thread result.spawned }

def dropThread (system : System σ) (index : Nat) (input : Input) (issued : Bool) :
    Option (System σ) :=
  match system.threads[index]? with
  | none => none
  | some thread =>
      match thread.dropped system.core with
      | none => none
      | some core =>
          if issued then
            match thread.issuedWrite input with
            | none => none
            | some write =>
                some
                  { system with
                    core := core.record (.issued write.kind)
                    threads := advance system.threads index thread.remains [.detached write] }
          else
            some
              { system with
                core := core
                threads := advance system.threads index thread.remains [] }

def withCore (system : System σ) (core : Core σ) : System σ :=
  { system with core := core }

abbrev restarted (system : System σ) (config : Config) : System σ where
  config := config
  core := Core.boot system.core.store system.core.knownIds (.restarted :: system.core.trace)
  threads := bootThreads ++ system.threads.filter Thread.isDetached

def step (system : System σ) : Action → Option (System σ)
  | .thread index input => system.stepThread index input
  | .call call =>
      if system.core.ready then some { system with threads := system.threads ++ [call.thread] }
      else none
  | .drop index input issued => system.dropThread index input issued
  | .requestShutdown => some (system.withCore { system.core with shuttingDown := true })
  | .dropHandles =>
      some (system.withCore { system.core with publicGone := true, shuttingDown := true })
  | .retryRelease => some (system.withCore { system.core with retryRequested := true })
  | .quarantine request =>
      if system.core.shuttingDown || system.core.publisherClosing ||
          decide (system.core.controls.length ≥ controlQueueCapacity) then
        none
      else
        some (system.withCore
          { system.core with controls := system.core.controls ++ [request] })
  | .progress command =>
      some (system.withCore
        { system.core with store := (updateProgress system.core.store command).1 })
  | .prune cutoff maxRows =>
      some (system.withCore
        { system.core with
          store := (pruneTerminalBefore system.core.store cutoff maxRows).1 })
  | .restart config =>
      some (system.restarted config)

end System

section Samples

/-- A registry that takes every kind, with one cancellation mode. -/
def sampleHandlers (mode : CancellationMode) : Handlers :=
  { registration := fun _ =>
      some
        { descriptor :=
            { payloadTypeId := "text", acceptedSchemaVersions := [1], cancellationMode := mode }
          inputType := "String"
          externalCancellationHook := decide (mode = .externalHook)
          hookMatchesMode := rfl }
    codec := fun _ => some fun _ => .decoded "String" }

def sampleConfig (mode : CancellationMode) : Config :=
  { handlers := sampleHandlers mode
    maxRunningTasks := 2
    scanPageSize := 8
    maxResourceBypasses := 4
    maxAttempts := 3
    retryPolicy :=
      { initialDelay := nanosPerMilli
        maxDelay := nanosPerMilli
        positive := by decide
        ordered := Nat.le_refl _
        bounded := by decide }
    publisherConfigured := false }

abbrev sampleSystem (mode : CancellationMode) : System MemoryTaskStore :=
  System.boot (sampleConfig mode) (MemoryTaskStore.withLimits 4 1024 4) []

def sampleRequest : StoredTaskRequest :=
  { kindId := "report"
    category := none
    payload := { typeId := "text", schemaVersion := 1, codecId := "utf8", bytes := [] }
    metadata := { json := "null" }
    resourceLimit :=
      { cpuSlots := 1
        gpuCount := 0
        memoryBytes := none
        diskBytes := none
        gpuLabels := []
        custom := [] }
    correlationKey := none
    idempotencyKey := none }

def sampleId : TaskId := { value := 7 }

def threadSteps (indices : List Nat) : List Action :=
  indices.map fun index => .thread index {}

/-- Recovery of an empty store, a submission, its start, and the attempt up to
its active handler. -/
def sampleStart : List Action :=
  threadSteps [3, 3, 3] ++ [.call (.submit (.ok sampleRequest))] ++ threadSteps [4, 4, 4] ++
    [.thread 4 { generated := .ok sampleId }] ++ threadSteps [4] ++
    threadSteps (List.replicate 15 0) ++ threadSteps [5, 5, 5]

end Samples

end TaskService.Service
