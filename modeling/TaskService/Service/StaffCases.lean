import TaskService.Service.System

/-!
# Steps of the supervisor and the notification worker

Every step of the two threads that accompany the scheduler, by the counter it starts from.
The supervisor moves on when the condition it waits for holds; the worker turns to its
control queue before each entry of its page and whenever it waits.
-/

namespace TaskService.Service

open Library Model Store
open TaskStore PublisherPc

variable {σ : Type}

inductive SupervisorStep (config : Config) (core : Core σ) (input : Input) :
    SupervisorPc → Core σ → SupervisorPc → Prop
  | asked (ready : core.ready = true) (shutting : core.shuttingDown = true) :
      SupervisorStep config core input .waitRequest core .lockAdmission
  | locks (readers : core.admissionReaders = 0) (writer : core.admissionWriter = false) :
      SupervisorStep config core input .lockAdmission { core with admissionWriter := true }
        .unlockAdmission
  | unlocks :
      SupervisorStep config core input .unlockAdmission { core with admissionWriter := false }
        .waitScheduler
  | schedulerGone (stopped : core.schedulerStopped = true) :
      SupervisorStep config core input .waitScheduler core .waitActive
  | landed (idle : core.inFlight = 0) :
      SupervisorStep config core input .waitActive core .closePublisher
  | closes (configured : config.publisherConfigured = true) :
      SupervisorStep config core input .closePublisher { core with publisherClosing := true }
        .joinPublisher
  | unpublished (unconfigured : config.publisherConfigured = false) :
      SupervisorStep config core input .closePublisher core .release
  | joins (exited : core.publisherExited = true) :
      SupervisorStep config core input .joinPublisher core .release
  | aborts :
      SupervisorStep config core input .joinPublisher { core with publisherAborted := true }
        .awaitAbort
  | aborted (exited : core.publisherExited = true) :
      SupervisorStep config core input .awaitAbort core .release
  | releases :
      SupervisorStep config core input .release
        ({ core with ownerReleased := true }.record .releaseIssued) .stopped
  | panics :
      SupervisorStep config core input .release (core.record .releaseIssued) .stopped
  | releaseFails :
      SupervisorStep config core input .release
        ({ core with retryRequested := false }.record .releaseIssued) .waitRetry
  | abandoned (gone : core.publicGone = true) :
      SupervisorStep config core input .waitRetry (core.record .releaseIssued) .stopped
  | retries (present : core.publicGone = false) (requested : core.retryRequested = true) :
      SupervisorStep config core input .waitRetry core .release

variable {config : Config} {core : Core σ} {input : Input} {result : Step σ}

theorem supervisor_step_cases (pc : SupervisorPc)
    (stepped : pc.step config core input = some result) :
    ∃ after next, result = ⟨after, .supervisor next, []⟩ ∧
      SupervisorStep config core input pc after next := by
  cases pc with
  | waitRequest =>
    simp only [SupervisorPc.step] at stepped
    split at stepped
    · rename_i both
      cases stepped
      obtain ⟨ready, shutting⟩ := Bool.and_eq_true_iff.mp both
      exact ⟨_, _, rfl, .asked ready shutting⟩
    · cases stepped
  | lockAdmission =>
    simp only [SupervisorPc.step] at stepped
    split at stepped
    · rename_i free
      cases stepped
      exact ⟨_, _, rfl, .locks free.1 free.2⟩
    · cases stepped
  | unlockAdmission =>
    cases stepped
    exact ⟨_, _, rfl, .unlocks⟩
  | waitScheduler =>
    simp only [SupervisorPc.step] at stepped
    split at stepped
    · rename_i stopped
      cases stepped
      exact ⟨_, _, rfl, .schedulerGone stopped⟩
    · cases stepped
  | waitActive =>
    simp only [SupervisorPc.step] at stepped
    split at stepped
    · rename_i idle
      cases stepped
      exact ⟨_, _, rfl, .landed idle⟩
    · cases stepped
  | closePublisher =>
    simp only [SupervisorPc.step] at stepped
    split at stepped
    · rename_i configured
      cases stepped
      exact ⟨_, _, rfl, .closes configured⟩
    · rename_i unconfigured
      cases stepped
      exact ⟨_, _, rfl, .unpublished (Bool.eq_false_iff.mpr unconfigured)⟩
  | joinPublisher =>
    simp only [SupervisorPc.step] at stepped
    split at stepped
    · rename_i exited
      cases stepped
      exact ⟨_, _, rfl, .joins exited⟩
    · split at stepped
      · cases stepped
        exact ⟨_, _, rfl, .aborts⟩
      · cases stepped
  | awaitAbort =>
    simp only [SupervisorPc.step] at stepped
    split at stepped
    · rename_i exited
      cases stepped
      exact ⟨_, _, rfl, .aborted exited⟩
    · cases stepped
  | release =>
    simp only [SupervisorPc.step] at stepped
    split at stepped
    · cases stepped
      exact ⟨_, _, rfl, .releases⟩
    · split at stepped
      · cases stepped
        exact ⟨_, _, rfl, .panics⟩
      · cases stepped
        exact ⟨_, _, rfl, .releaseFails⟩
  | waitRetry =>
    simp only [SupervisorPc.step] at stepped
    split at stepped
    · rename_i gone
      cases stepped
      exact ⟨_, _, rfl, .abandoned gone⟩
    · rename_i present
      split at stepped
      · rename_i requested
        cases stepped
        exact ⟨_, _, rfl, .retries (Bool.eq_false_iff.mpr present) requested⟩
      · cases stepped
  | stopped => cases stepped

variable [TaskStore σ] (config core input)

inductive PublisherStep : PublisherPc → Core σ → PublisherPc → Prop
  | opens (ready : core.ready = true) (configured : config.publisherConfigured = true) :
      PublisherStep .idle core (.controls .top false)
  | exits (place : ControlPlace) (quarantined : Bool) (empty : core.controls = [])
      (last : drained place quarantined = .exited) :
      PublisherStep (.controls place quarantined) { core with publisherExited := true } .exited
  | drains (place : ControlPlace) (quarantined : Bool) (empty : core.controls = []) :
      PublisherStep (.controls place quarantined) core (drained place quarantined)
  | takes (place : ControlPlace) (quarantined : Bool) (request : QuarantineRequest)
      (rest : List QuarantineRequest) (queued : core.controls = request :: rest) :
      PublisherStep (.controls place quarantined)
        { core with controls := rest } (.judge place quarantined request)
  | ignores (place : ControlPlace) (quarantined : Bool) (request : QuarantineRequest)
      (stale : archiveCommand core.failure request = none) :
      PublisherStep (.judge place quarantined request) core
        (afterControl place quarantined)
  | accepts (place : ControlPlace) (quarantined : Bool) (request : QuarantineRequest)
      (command : QuarantineCommand) (named : archiveCommand core.failure request = some command) :
      PublisherStep (.judge place quarantined request) core (.archive place quarantined command)
  | archiveFails (place : ControlPlace) (quarantined : Bool) (command : QuarantineCommand)
      (after : Core σ) (error : StoreError) (called : (core.callWrite input .outbox fun store =>
        quarantineEventOutboxHead store input.clock command) = (after, .error error)) :
      PublisherStep (.archive place quarantined command) after
        (afterControl place quarantined)
  | archives (place : ControlPlace) (quarantined : Bool) (command : QuarantineCommand)
      (after : Core σ) (called : (core.callWrite input .outbox fun store =>
        quarantineEventOutboxHead store input.clock command) = (after, .ok ())) :
      PublisherStep (.archive place quarantined command)
        { after with failure := none } (afterControl place true)
  | unlisted (error : StoreError) (called : (core.callRead input fun store =>
        listEventOutbox store outboxPageSize) = .error error) :
      PublisherStep .list core .backoff
  | nothingListed
      (called : (core.callRead input fun store =>
        listEventOutbox store outboxPageSize) = .ok []) :
      PublisherStep .list core
        (if core.publisherClosing then .controls .closing false else .waiting)
  | lists (entry : EventOutboxEntry) (rest : List EventOutboxEntry)
      (called : (core.callRead input fun store =>
        listEventOutbox store outboxPageSize) = .ok (entry :: rest)) :
      PublisherStep .list
        { core with failure := clearFailureIfHeadChanged core.failure entry }
        (.controls (.entry entry rest) false)
  | interrupted (request : QuarantineRequest) (rest : List QuarantineRequest)
      (queued : core.controls = request :: rest) :
      PublisherStep .waiting { core with controls := rest } (.judge .waiting false request)
  | wakes : PublisherStep .waiting core (.controls .top false)
  | refused (entry : EventOutboxEntry) (rest : List EventOutboxEntry) (error : String) :
      PublisherStep (.publish entry rest)
        { core with failure := some (failureOf entry error) } (.controls .failed false)
  | publishes (entry : EventOutboxEntry) (rest : List EventOutboxEntry)
      (confirmed : input.publication = .ok ()) :
      PublisherStep (.publish entry rest) core (.acknowledge entry rest)
  | unmarked (entry : EventOutboxEntry) (rest : List EventOutboxEntry) (after : Core σ)
      (error : StoreError) (called : (core.callWrite input .outbox fun store =>
        markEventPublished store entry.taskId entry.stateVersion) =
          (after, .error error)) :
      PublisherStep (.acknowledge entry rest)
        { after with failure := some (failureOf entry error.text) } (.controls .failed false)
  | marks (entry : EventOutboxEntry) (rest : List EventOutboxEntry) (after : Core σ)
      (called : (core.callWrite input .outbox fun store =>
        markEventPublished store entry.taskId entry.stateVersion) = (after, .ok ())) :
      PublisherStep (.acknowledge entry rest)
        { after with
          failure := turnTo (clearFailureFor after.failure entry) rest }
        (nextEntry rest)
  | called (request : QuarantineRequest) (rest : List QuarantineRequest)
      (queued : core.controls = request :: rest) :
      PublisherStep .backoff { core with controls := rest } (.judge .backoff false request)
  | resumes : PublisherStep .backoff core (.controls .top false)

variable {config core input}

theorem publisher_step_cases (pc : PublisherPc)
    (stepped : pc.step config core input = some result) :
    ∃ after next, result = ⟨after, .publisher next, []⟩ ∧
      PublisherStep config core input pc after next := by
  cases pc with
  | idle =>
    simp only [step] at stepped
    split at stepped
    · rename_i both
      cases stepped
      obtain ⟨ready, configured⟩ := Bool.and_eq_true_iff.mp both
      exact ⟨_, _, rfl, .opens ready configured⟩
    · cases stepped
  | controls place quarantined =>
    simp only [step] at stepped
    split at stepped
    · rename_i empty
      split at stepped
      · rename_i last
        cases stepped
        exact ⟨_, _, rfl, .exits place quarantined empty last⟩
      · cases stepped
        exact ⟨_, _, rfl, .drains place quarantined empty⟩
    · rename_i request rest queued
      cases stepped
      exact ⟨_, _, rfl, .takes place quarantined request rest queued⟩
  | judge place quarantined request =>
    simp only [step] at stepped
    split at stepped
    · rename_i stale
      cases stepped
      exact ⟨_, _, rfl, .ignores place quarantined request stale⟩
    · rename_i command named
      cases stepped
      exact ⟨_, _, rfl, .accepts place quarantined request command named⟩
  | archive place quarantined command =>
    cases stepped
    unfold archiving
    split
    · rename_i after error called
      exact ⟨_, _, rfl, .archiveFails place quarantined command after error called⟩
    · rename_i after called
      exact ⟨_, _, rfl, .archives place quarantined command after called⟩
  | list =>
    cases stepped
    unfold listing
    split
    · rename_i error called
      exact ⟨_, _, rfl, .unlisted error called⟩
    · rename_i called
      exact ⟨_, _, rfl, .nothingListed called⟩
    · rename_i entry rest called
      exact ⟨_, _, rfl, .lists entry rest called⟩
  | waiting =>
    simp only [step] at stepped
    split at stepped
    · unfold takeOne at stepped
      split at stepped
      · cases stepped
      · rename_i request rest queued
        cases stepped
        exact ⟨_, _, rfl, .interrupted request rest queued⟩
    · cases stepped
      exact ⟨_, _, rfl, .wakes⟩
  | publish entry rest =>
    simp only [step] at stepped
    split at stepped
    · cases stepped
      exact ⟨_, _, rfl, .refused entry rest _⟩
    · rename_i confirmed
      cases stepped
      exact ⟨_, _, rfl, .publishes entry rest confirmed⟩
  | acknowledge entry rest =>
    cases stepped
    unfold acknowledging
    split
    · rename_i after error called
      exact ⟨_, _, rfl, .unmarked entry rest after error called⟩
    · rename_i after called
      exact ⟨_, _, rfl, .marks entry rest after called⟩
  | backoff =>
    simp only [step] at stepped
    split at stepped
    · unfold takeOne at stepped
      split at stepped
      · cases stepped
      · rename_i request rest queued
        cases stepped
        exact ⟨_, _, rfl, .called request rest queued⟩
    · cases stepped
      exact ⟨_, _, rfl, .resumes⟩
  | exited => cases stepped

end TaskService.Service
