import TaskService.Service.Core

/-!
# The notification worker

The worker drains its control queue, reads one page of the outbox and publishes
the page entry by entry; it goes to the next entry only after the bus has
accepted the current one and its row has been deleted.  A failed entry ends the
page.  A quarantine command archives the outbox head only when it names the
failure the worker has recorded.
-/

namespace TaskService.Service

open Library Model Store

variable {σ : Type}

def controlQueueCapacity : Nat := 16
def outboxPageSize : Nat := 128

def NotificationFailure.names (failure : NotificationFailure) (entry : EventOutboxEntry) : Bool :=
  decide (failure.taskId = entry.taskId) && decide (failure.stateVersion = entry.stateVersion) &&
    decide (failure.eventId = entry.eventId)

def failureOf (entry : EventOutboxEntry) (error : String) : NotificationFailure :=
  { taskId := entry.taskId
    stateVersion := entry.stateVersion
    eventId := entry.eventId
    error := error }

def clearFailureIfHeadChanged (failure : Option NotificationFailure) (entry : EventOutboxEntry) :
    Option NotificationFailure :=
  failure.filter fun current => current.names entry

def clearFailureFor (failure : Option NotificationFailure) (entry : EventOutboxEntry) :
    Option NotificationFailure :=
  failure.filter fun current => !current.names entry

def archiveCommand (failure : Option NotificationFailure) (request : QuarantineRequest) :
    Option QuarantineCommand :=
  failure.bind fun current =>
    if current.taskId = request.taskId ∧ current.stateVersion = request.stateVersion ∧
        current.eventId = request.eventId then
      some
        { taskId := request.taskId
          stateVersion := request.stateVersion
          eventId := request.eventId
          reason := request.reason
          lastError := current.error }
    else none

namespace PublisherPc

def drained (place : ControlPlace) (quarantined : Bool) : PublisherPc :=
  match place with
  | .top => .list
  | .closing => if quarantined then .controls .top false else .exited
  | .entry entry rest => if quarantined then .controls .top false else .publish entry rest
  | .failed => if quarantined then .controls .top false else .backoff
  | .waiting => .controls .top false
  | .backoff => if quarantined then .controls .top false else .backoff

def afterControl (place : ControlPlace) (quarantined : Bool) : PublisherPc :=
  match place with
  | .waiting | .backoff => drained place quarantined
  | .top | .closing | .entry _ _ | .failed => .controls place quarantined

def nextEntry : List EventOutboxEntry → PublisherPc
  | [] => .controls .top false
  | entry :: rest => .controls (.entry entry rest) false

def turnTo (failure : Option NotificationFailure) : List EventOutboxEntry →
    Option NotificationFailure
  | [] => failure
  | entry :: _ => clearFailureIfHeadChanged failure entry

def takeOne (core : Core σ) (place : ControlPlace) : Option (Step σ) :=
  match core.controls with
  | [] => none
  | request :: rest =>
      some
        { core := { core with controls := rest }
          thread := .publisher (.judge place false request) }

variable [TaskStore σ]

def listing (core : Core σ) (input : Input) : Step σ :=
  match core.callRead input fun store => TaskStore.listEventOutbox store outboxPageSize with
  | .error _ => { core := core, thread := .publisher .backoff }
  | .ok [] =>
      { core := core
        thread :=
          .publisher (if core.publisherClosing then .controls .closing false else .waiting) }
  | .ok (entry :: rest) =>
      { core := { core with failure := clearFailureIfHeadChanged core.failure entry }
        thread := .publisher (.controls (.entry entry rest) false) }

def failing (core : Core σ) (entry : EventOutboxEntry) (error : String) : Step σ :=
  { core := { core with failure := some (failureOf entry error) }
    thread := .publisher (.controls .failed false) }

def acknowledging (core : Core σ) (input : Input) (entry : EventOutboxEntry)
    (rest : List EventOutboxEntry) : Step σ :=
  match
    core.callWrite input .outbox fun store =>
      TaskStore.markEventPublished store entry.taskId entry.stateVersion with
  | (core, .error error) => failing core entry error.text
  | (core, .ok ()) =>
      { core := { core with failure := turnTo (clearFailureFor core.failure entry) rest }
        thread := .publisher (nextEntry rest) }

def archiving (core : Core σ) (input : Input) (place : ControlPlace) (quarantined : Bool)
    (command : QuarantineCommand) : Step σ :=
  match
    core.callWrite input .outbox fun store =>
      TaskStore.quarantineEventOutboxHead store input.clock command with
  | (core, .error _) => { core := core, thread := .publisher (afterControl place quarantined) }
  | (core, .ok ()) =>
      { core := { core with failure := none }, thread := .publisher (afterControl place true) }

def step (config : Config) (core : Core σ) (input : Input) (pc : PublisherPc) :
    Option (Step σ) :=
  let at_ (core : Core σ) (pc : PublisherPc) : Option (Step σ) :=
    some { core := core, thread := .publisher pc }
  match pc with
  | .idle =>
      if core.ready && config.publisherConfigured then at_ core (.controls .top false) else none
  | .controls place quarantined =>
      match core.controls with
      | [] =>
          match drained place quarantined with
          | .exited => at_ { core with publisherExited := true } .exited
          | next => at_ core next
      | request :: rest => at_ { core with controls := rest } (.judge place quarantined request)
  | .judge place quarantined request =>
      match archiveCommand core.failure request with
      | none => at_ core (afterControl place quarantined)
      | some command => at_ core (.archive place quarantined command)
  | .archive place quarantined command =>
      some (archiving core input place quarantined command)
  | .list => some (listing core input)
  | .waiting => if input.interrupted then takeOne core .waiting else at_ core (.controls .top false)
  | .publish entry rest =>
      match input.publication with
      | .error error => some (failing core entry error)
      | .ok () => at_ core (.acknowledge entry rest)
  | .acknowledge entry rest => some (acknowledging core input entry rest)
  | .backoff => if input.interrupted then takeOne core .backoff else at_ core (.controls .top false)
  | .exited => none

end PublisherPc

end TaskService.Service
