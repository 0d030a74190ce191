import TaskService.Service.ClientCalls
import TaskService.Service.RunOne

/-!
# The ways through one step

One case for each way through a step of a client call, of `run_one` with its `finish`, and of a
flight, with the answer of the store or the state of the core that leads there.  The
descriptions of these steps in later modules go through the cases.
-/

namespace TaskService.Service

open Library Model Store CancelCall

variable {σ : Type} [TaskStore σ]

section Submit

variable (core : Core σ) (input : Input) (encoded : Except String StoredTaskRequest)

/-- A step of `submit`: the core it leaves and the counter it reaches. -/
inductive SubmitStep : SubmitPc → Core σ → SubmitPc → Prop
  | enters (free : core.admissionWriter = false) :
      SubmitStep .admission core.enterAdmission .checkFault
  | faulted (message : String) (latched : core.fault = some message) :
      SubmitStep .checkFault core.leaveAdmission (.returned (.error (.storeUnavailable message)))
  | unfaulted (quiet : core.fault = none) : SubmitStep .checkFault core .checkShutdown
  | closing (shutting : core.shuttingDown = true) :
      SubmitStep .checkShutdown core.leaveAdmission (.returned (.error .shuttingDown))
  | untyped (message : String) (unmade : encoded = .error message) :
      SubmitStep .checkShutdown core.leaveAdmission (.returned (.error (.typedRequest message)))
  | accepting (stored : StoredTaskRequest) (running : core.shuttingDown = false)
      (made : encoded = .ok stored) : SubmitStep .checkShutdown core (.generate stored)
  | ungenerated (stored : StoredTaskRequest) (message : String)
      (failed : input.generated = .error message) :
      SubmitStep (.generate stored) core.leaveAdmission (.returned (.error (.idGeneration message)))
  | generates (stored : StoredTaskRequest) (id : TaskId) (fresh : input.generated = .ok id) :
      SubmitStep (.generate stored) { core with knownIds := id :: core.knownIds }
        (.accept id stored)
  | accepts (id : TaskId) (stored : StoredTaskRequest) (outcome : AcceptOutcome) (after : Core σ)
      (called : core.callAccept input id stored = (after, .ok outcome)) :
      SubmitStep (.accept id stored) after.leaveAdmission (.returned (.ok outcome.summary))
  | rejects (id : TaskId) (stored : StoredTaskRequest) (error : StoreError) (after : Core σ)
      (called : core.callAccept input id stored = (after, .error error)) :
      SubmitStep (.accept id stored) (SubmitCall.rejection after error).1.leaveAdmission
        (.returned (.error (SubmitCall.rejection after error).2))

variable {core input} {result : Step σ}

theorem submit_step_cases (call : SubmitCall) (stepped : call.step core input = some result) :
    ∃ after next, result = { core := after, thread := .submit { call with pc := next } } ∧
      SubmitStep core input call.encoded call.pc after next := by
  obtain ⟨encoded, pc⟩ := call
  cases pc with
  | admission =>
    simp only [SubmitCall.step] at stepped
    split at stepped
    · cases stepped
    · rename_i free
      cases stepped
      exact ⟨_, _, rfl, .enters (by simpa using free)⟩
  | checkFault =>
    simp only [SubmitCall.step] at stepped
    split at stepped
    · rename_i message latched
      cases stepped
      exact ⟨_, _, rfl, .faulted message latched⟩
    · rename_i quiet
      cases stepped
      exact ⟨_, _, rfl, .unfaulted quiet⟩
  | checkShutdown =>
    simp only [SubmitCall.step] at stepped
    split at stepped
    · rename_i shutting
      cases stepped
      exact ⟨_, _, rfl, .closing shutting⟩
    · rename_i running
      split at stepped
      · rename_i message
        cases stepped
        exact ⟨_, _, rfl, .untyped message rfl⟩
      · rename_i stored
        cases stepped
        exact ⟨_, _, rfl, .accepting stored (by simpa using running) rfl⟩
  | generate stored =>
    simp only [SubmitCall.step] at stepped
    split at stepped
    · rename_i message failed
      cases stepped
      exact ⟨_, _, rfl, .ungenerated stored message failed⟩
    · rename_i id fresh
      cases stepped
      exact ⟨_, _, rfl, .generates stored id fresh⟩
  | accept id stored =>
    simp only [SubmitCall.step] at stepped
    split at stepped
    · rename_i after outcome called
      cases stepped
      exact ⟨_, _, rfl, .accepts id stored outcome after called⟩
    · rename_i after error called
      cases stepped
      exact ⟨_, _, rfl, .rejects id stored error after called⟩
  | returned answer => cases stepped

end Submit

section Resume

variable (core : Core σ) (input : Input) (id : TaskId) (version : Nat)

/-- A step of `resume_blocked`; the call leaves with an answer wherever a check fails. -/
inductive ResumeStep : ResumePc → Core σ → ResumePc → Prop
  | enters (free : core.admissionWriter = false) :
      ResumeStep .admission core.enterAdmission .checkFault
  | faulted (message : String) (latched : core.fault = some message) :
      ResumeStep .checkFault core.leaveAdmission (.returned (.error (.storeUnavailable message)))
  | unfaulted (quiet : core.fault = none) : ResumeStep .checkFault core .checkShutdown
  | closing (shutting : core.shuttingDown = true) :
      ResumeStep .checkShutdown core.leaveAdmission (.returned (.error .shuttingDown))
  | accepting (running : core.shuttingDown = false) : ResumeStep .checkShutdown core .checkOwner
  | released (gone : core.ownerReleased = true) :
      ResumeStep .checkOwner core.leaveAdmission (.returned (.error .shuttingDown))
  | owning (kept : core.ownerReleased = false) : ResumeStep .checkOwner core .load
  | unread (error : StoreError) (called : core.callGet input id = .error error) :
      ResumeStep .load (core.storeResult error).leaveAdmission (.returned (.error (.store error)))
  | unfit (error : TaskServiceError) :
      ResumeStep .load core.leaveAdmission (.returned (.error error))
  | blocked (task : StoredTask) (called : core.callGet input id = .ok (some task))
      (expected : task.summary.stateVersion = version)
      (waiting : task.summary.state.kind = .blocked)
      (unrequested : task.summary.cancelRequested = false) :
      ResumeStep .load core (.requeue task.summary)
  | failed (summary : TaskSummary) (error : StoreError) (after : Core σ)
      (called : core.callTransition input
        (ResumeCall.requeueCommand ⟨id, version, .requeue summary⟩ summary) =
          (after, .error error)) :
      ResumeStep (.requeue summary) (after.storeResult error).leaveAdmission
        (.returned (.error (.store error)))
  | resumes (summary resumed : TaskSummary) (after : Core σ) (called : core.callTransition input
        (ResumeCall.requeueCommand ⟨id, version, .requeue summary⟩ summary) =
          (after, .ok resumed)) :
      ResumeStep (.requeue summary) after.leaveAdmission (.returned (.ok resumed))

variable {core input} {result : Step σ}

theorem resume_step_cases (call : ResumeCall) (stepped : call.step core input = some result) :
    ∃ after next, result = { core := after, thread := .resume { call with pc := next } } ∧
      ResumeStep core input call.id call.expectedStateVersion call.pc after next := by
  obtain ⟨id, version, pc⟩ := call
  cases pc with
  | admission =>
    simp only [ResumeCall.step] at stepped
    split at stepped
    · cases stepped
    · rename_i free
      cases stepped
      exact ⟨_, _, rfl, .enters (by simpa using free)⟩
  | checkFault =>
    simp only [ResumeCall.step] at stepped
    split at stepped
    · rename_i message latched
      cases stepped
      exact ⟨_, _, rfl, .faulted message latched⟩
    · rename_i quiet
      cases stepped
      exact ⟨_, _, rfl, .unfaulted quiet⟩
  | checkShutdown =>
    simp only [ResumeCall.step] at stepped
    split at stepped
    · rename_i shutting
      cases stepped
      exact ⟨_, _, rfl, .closing shutting⟩
    · rename_i running
      cases stepped
      exact ⟨_, _, rfl, .accepting (by simpa using running)⟩
  | checkOwner =>
    simp only [ResumeCall.step] at stepped
    split at stepped
    · rename_i gone
      cases stepped
      exact ⟨_, _, rfl, .released gone⟩
    · rename_i kept
      cases stepped
      exact ⟨_, _, rfl, .owning (by simpa using kept)⟩
  | load =>
    simp only [ResumeCall.step] at stepped
    split at stepped
    · rename_i error called
      cases stepped
      exact ⟨_, _, rfl, .unread error called⟩
    · cases stepped
      exact ⟨_, _, rfl, .unfit _⟩
    · rename_i task called
      cases stepped
      unfold ResumeCall.dispatch
      split_ifs with changed other requested
      · exact ⟨_, _, rfl, .unfit _⟩
      · exact ⟨_, _, rfl, .unfit _⟩
      · exact ⟨_, _, rfl, .unfit _⟩
      · exact ⟨_, _, rfl, .blocked task called (not_not.mp changed) (not_not.mp other)
          (by simpa using requested)⟩
  | requeue summary =>
    simp only [ResumeCall.step] at stepped
    split at stepped
    · rename_i after error called
      cases stepped
      exact ⟨_, _, rfl, .failed summary error after called⟩
    · rename_i after resumed called
      cases stepped
      exact ⟨_, _, rfl, .resumes summary resumed after called⟩
  | returned answer => cases stepped

end Resume

section Cancel

variable (config : Config) (core : Core σ) (input : Input) (id : TaskId)

/-- A step of `cancel`, by the counter it starts from. -/
inductive CancelStep : CancelPc → Step σ → Prop
  | enters (free : core.admissionWriter = false) :
      CancelStep .admission ⟨core.enterAdmission, .cancel ⟨id, .checkFault⟩, []⟩
  | faulted (message : String) (latched : core.fault = some message) :
      CancelStep .checkFault
        (finish core ⟨id, .checkFault⟩ (.error (.storeUnavailable message)))
  | unfaulted (quiet : core.fault = none) :
      CancelStep .checkFault ⟨core, .cancel ⟨id, .checkShutdown⟩, []⟩
  | closing (shutting : core.shuttingDown = true) :
      CancelStep .checkShutdown (finish core ⟨id, .checkShutdown⟩ (.error .shuttingDown))
  | accepting (running : core.shuttingDown = false) :
      CancelStep .checkShutdown ⟨core, .cancel ⟨id, .checkOwner⟩, []⟩
  | released (gone : core.ownerReleased = true) :
      CancelStep .checkOwner (finish core ⟨id, .checkOwner⟩ (.error .shuttingDown))
  | owning (kept : core.ownerReleased = false) :
      CancelStep .checkOwner ⟨core, .cancel ⟨id, .load⟩, []⟩
  | unread (error : StoreError) (called : core.callGet input id = .error error) :
      CancelStep .load
        (finish (core.storeResult error) ⟨id, .load⟩ (.error (.store error)))
  | missing (called : core.callGet input id = .ok none) :
      CancelStep .load (finish core ⟨id, .load⟩ (.error (.store .notFound)))
  | waiting (task : StoredTask) (called : core.callGet input id = .ok (some task))
      (unstarted : task.summary.state = .queued ∨ ∃ reason, task.summary.state = .blocked reason) :
      CancelStep .load ⟨core, .cancel ⟨id, .cancelBeforeStart task.summary⟩, []⟩
  | settled (task : StoredTask) (called : core.callGet input id = .ok (some task))
      (terminal : task.summary.state.isTerminal = true) :
      CancelStep .load (finish core ⟨id, .load⟩ (.ok .alreadyTerminal))
  | unknown (task : StoredTask) (called : core.callGet input id = .ok (some task))
      (running : task.summary.state = .running)
      (absent : config.handlers.descriptor task.summary.kindId = none) :
      CancelStep .load (finish core ⟨id, .load⟩ (.error .cancellationUnsupported))
  | unsupported (task : StoredTask) (called : core.callGet input id = .ok (some task))
      (running : task.summary.state = .running) :
      CancelStep .load (finish core ⟨id, .load⟩ (.ok .cancellationUnsupported))
  | hooked (task : StoredTask) (descriptor : TaskHandlerDescriptor)
      (called : core.callGet input id = .ok (some task)) (running : task.summary.state = .running)
      (found : config.handlers.descriptor task.summary.kindId = some descriptor)
      (mode : descriptor.cancellationMode = .externalHook) :
      CancelStep .load ⟨core, .cancel ⟨id, .joinHook task.summary⟩, []⟩
  | requested (task : StoredTask) (called : core.callGet input id = .ok (some task))
      (running : task.summary.state = .running) (asked : task.summary.cancelRequested = true) :
      CancelStep .load (finish core ⟨id, .load⟩ (.ok .cancellationRequested))
  | requests (task : StoredTask) (descriptor : TaskHandlerDescriptor)
      (called : core.callGet input id = .ok (some task)) (running : task.summary.state = .running)
      (found : config.handlers.descriptor task.summary.kindId = some descriptor)
      (mode : descriptor.cancellationMode = .cooperative)
      (unasked : task.summary.cancelRequested = false) :
      CancelStep .load ⟨core, .cancel ⟨id, .requestCancel task.summary⟩, []⟩
  | notCancelled {summary : TaskSummary} {error : StoreError} {after : Core σ}
      (called : core.callTransition input (beforeStartCommand id summary input.now) =
        (after, .error error)) :
      CancelStep (.cancelBeforeStart summary)
        (finish (after.storeResult error)
          ⟨id, .cancelBeforeStart summary⟩ (.error (.store error)))
  | cancelled {summary written : TaskSummary} {after : Core σ}
      (called : core.callTransition input (beforeStartCommand id summary input.now) =
        (after, .ok written)) :
      CancelStep (.cancelBeforeStart summary)
        (finish after ⟨id, .cancelBeforeStart summary⟩ (.ok .cancelledBeforeStart))
  | notRequested {summary : TaskSummary} {error : StoreError} {after : Core σ}
      (called : core.callTransition input (requestCommand id summary) =
        (after, .error error)) :
      CancelStep (.requestCancel summary)
        (finish (after.storeResult error) ⟨id, .requestCancel summary⟩
          (.error (.store error)))
  | persisted {summary written : TaskSummary} {after : Core σ}
      (called : core.callTransition input (requestCommand id summary) =
        (after, .ok written)) :
      CancelStep (.requestCancel summary) ⟨after, .cancel ⟨id, .signal summary.attempt⟩, []⟩
  | signals (attempt flag : Nat)
      (registered : core.cancellations.lookup (id, attempt) = some flag) :
      CancelStep (.signal attempt)
        (finish (core.setFlag flag) ⟨id, .signal attempt⟩ (.ok .cancellationRequested))
  | unregistered (attempt : Nat) (absent : core.cancellations.lookup (id, attempt) = none) :
      CancelStep (.signal attempt)
        (finish core ⟨id, .signal attempt⟩ (.ok .cancellationRequested))
  | joins (summary : TaskSummary) (flight : Nat)
      (found : core.externalCancellations.lookup (id, summary.attempt) = some (.inFlight flight)) :
      CancelStep (.joinHook summary) ⟨core, .cancel ⟨id, .dropAdmission summary.attempt flight⟩, []⟩
  | succeeded (summary : TaskSummary)
      (found : core.externalCancellations.lookup (id, summary.attempt) = some .succeeded) :
      CancelStep (.joinHook summary)
        (finish core ⟨id, .joinHook summary⟩ (.ok .cancellationRequested))
  | opens (summary : TaskSummary)
      (absent : core.externalCancellations.lookup (id, summary.attempt) = none) :
      CancelStep (.joinHook summary)
        { core :=
            { core with
              flights := core.flights ++ [{ owner := (id, summary.attempt), result := none }]
              externalCancellations :=
                core.externalCancellations.insert (id, summary.attempt)
                  (.inFlight core.flights.length) }
          thread := .cancel ⟨id, .spawnHook summary core.flights.length⟩ }
  | spawns (summary : TaskSummary) (flight : Nat) :
      CancelStep (.spawnHook summary flight)
        { core := { core with inFlight := core.inFlight + 1 }
          thread := .cancel ⟨id, .dropAdmission summary.attempt flight⟩
          spawned :=
            [.hook
              { id := id
                attempt := summary.attempt
                kindId := summary.kindId
                flight := flight
                pc := .load }] }
  | leaves (attempt flight : Nat) :
      CancelStep (.dropAdmission attempt flight)
        ⟨core.leaveAdmission, .cancel ⟨id, .waitHook attempt flight⟩, []⟩
  | landed (attempt flight : Nat) (answer : ExternalCancelResult)
      (arrived : core.flights[flight]?.bind Flight.result = some answer) :
      CancelStep (.waitHook attempt flight)
        (returnWith core ⟨id, .waitHook attempt flight⟩
          (flightOutcome id attempt answer))

variable {config core input} {result : Step σ}

theorem cancel_dispatch_cases {id : TaskId} {task : StoredTask}
    (called : core.callGet input id = .ok (some task)) :
    CancelStep config core input id .load
      (dispatch config.handlers core { id := id, pc := .load } task.summary) := by
  unfold dispatch
  split
  · rename_i queued
    exact .waiting task called (.inl queued)
  · rename_i reason blocked
    exact .waiting task called (.inr ⟨reason, blocked⟩)
  · rename_i running
    unfold dispatchRunning
    split
    · rename_i absent
      exact .unknown task called running absent
    · rename_i descriptor found
      split
      · exact .unsupported task called running
      · rename_i mode
        exact .hooked task descriptor called running found mode
      · rename_i mode
        split
        · rename_i asked
          exact .requested task called running asked
        · rename_i unasked
          exact .requests task descriptor called running found mode (by simpa using unasked)
  all_goals
    rename_i state
    exact .settled task called (by rw [state]; rfl)

theorem cancel_step_cases (call : CancelCall)
    (stepped : call.step config core input = some result) :
    CancelStep config core input call.id call.pc result := by
  obtain ⟨id, pc⟩ := call
  cases pc with
  | admission =>
    simp only [step] at stepped
    split at stepped
    · cases stepped
    · rename_i free
      cases stepped
      exact .enters (by simpa using free)
  | checkFault =>
    simp only [step] at stepped
    split at stepped
    · rename_i message latched
      cases stepped
      exact .faulted message latched
    · rename_i quiet
      cases stepped
      exact .unfaulted quiet
  | checkShutdown =>
    simp only [step] at stepped
    split at stepped
    · rename_i shutting
      cases stepped
      exact .closing shutting
    · rename_i running
      cases stepped
      exact .accepting (by simpa using running)
  | checkOwner =>
    simp only [step] at stepped
    split at stepped
    · rename_i gone
      cases stepped
      exact .released gone
    · rename_i kept
      cases stepped
      exact .owning (by simpa using kept)
  | load =>
    simp only [step] at stepped
    split at stepped
    · rename_i error called
      cases stepped
      exact .unread error called
    · rename_i called
      cases stepped
      exact .missing called
    · rename_i task called
      cases stepped
      exact cancel_dispatch_cases called
  | cancelBeforeStart summary =>
    simp only [step] at stepped
    split at stepped
    · rename_i after error called
      cases stepped
      exact .notCancelled called
    · rename_i after written called
      cases stepped
      exact .cancelled called
  | requestCancel summary =>
    simp only [step] at stepped
    split at stepped
    · rename_i after error called
      cases stepped
      exact .notRequested called
    · rename_i after written called
      cases stepped
      exact .persisted called
  | signal attempt =>
    simp only [step] at stepped
    split at stepped
    · rename_i flag registered
      cases stepped
      exact .signals attempt flag registered
    · rename_i absent
      cases stepped
      exact .unregistered attempt absent
  | joinHook summary =>
    simp only [step, join] at stepped
    split at stepped
    · rename_i flight found
      cases stepped
      exact .joins summary flight found
    · rename_i found
      cases stepped
      exact .succeeded summary found
    · rename_i absent
      cases stepped
      exact .opens summary absent
  | spawnHook summary flight =>
    cases stepped
    exact .spawns summary flight
  | dropAdmission attempt flight =>
    cases stepped
    exact .leaves attempt flight
  | waitHook attempt flight =>
    simp only [step] at stepped
    split at stepped
    · rename_i answer arrived
      cases stepped
      exact .landed attempt flight answer arrived
    · cases stepped
  | returned answer => cases stepped

end Cancel

section Run

variable (config : Config) (core : Core σ) (input : Input) (started : TaskSummary)

/-- A step of an attempt, by the counter it starts from. -/
inductive RunStep : RunPc → Step σ → Prop
  | unread (error : StoreError) (called : core.callGet input started.id = .error error) :
      RunStep .load ⟨core.latchFault error.text, .run ⟨started, .exit none⟩, []⟩
  | vanished (called : core.callGet input started.id = .ok none) :
      RunStep .load ⟨core, .run ⟨started, .exit none⟩, []⟩
  | superseded (stored : StoredTask) (called : core.callGet input started.id = .ok (some stored))
      (stopped : stored.summary.state ≠ .running) :
      RunStep .load ⟨core, .run ⟨started, .exit none⟩, []⟩
  | prepared (stored : StoredTask) (called : core.callGet input started.id = .ok (some stored)) :
      RunStep .load ⟨core, .run ⟨started, .register⟩, []⟩
  | rejected (stored : StoredTask) (error : HandlerDispatchError)
      (called : core.callGet input started.id = .ok (some stored))
      (verdict : config.handlers.prepare started.kindId stored.request.payload = .rejected error) :
      RunStep .load
        ⟨core, .run ⟨started, .finishRead (RunTask.preparationFailure error)⟩, []⟩
  | panicked (stored : StoredTask) (called : core.callGet input started.id = .ok (some stored))
      (verdict : config.handlers.prepare started.kindId stored.request.payload = .panicked) :
      RunStep .load
        { core :=
            core.latchFault
              ("task execution supervisor panicked for " ++ started.id.toPaddedDecimal)
          thread := .run ⟨started, .exit none⟩ }
  | registers :
      RunStep .register
        { core :=
            { core with
              flags := core.flags ++ [false]
              cancellations :=
                core.cancellations.insert (started.id, started.attempt) core.flags.length }
          thread := .run ⟨started, .recheck core.flags.length⟩ }
  | unchecked (flag : Nat) (error : StoreError)
      (called : core.callGet input started.id = .error error) :
      RunStep (.recheck flag) ⟨core.latchFault error.text, .run ⟨started, .exit none⟩, []⟩
  | requested (flag : Nat) (latest : Option StoredTask)
      (called : core.callGet input started.id = .ok latest)
      (asked : (latest.any fun stored => stored.summary.cancelRequested) = true) :
      RunStep (.recheck flag) ⟨core, .run ⟨started, .setFlag flag⟩, []⟩
  | unrequested (flag : Nat) (latest : Option StoredTask)
      (called : core.callGet input started.id = .ok latest)
      (unasked : (latest.any fun stored => stored.summary.cancelRequested) = false) :
      RunStep (.recheck flag) ⟨core, .run ⟨started, .running flag⟩, []⟩
  | sets (flag : Nat) :
      RunStep (.setFlag flag) ⟨core.setFlag flag, .run ⟨started, .running flag⟩, []⟩
  | completes (flag : Nat) :
      RunStep (.running flag)
        { core := core
          thread :=
            .run ⟨started, .unregister (RunTask.completionOf input.execution)⟩ }
  | unregisters (completion : Completion) :
      RunStep (.unregister completion)
        { core :=
            { core with cancellations := core.cancellations.erase (started.id, started.attempt) }
          thread := .run ⟨started, .finishRead completion⟩ }
  | unfinished (completion : Completion) (error : StoreError)
      (called : core.callGet input started.id = .error error) :
      RunStep (.finishRead completion)
        ⟨core.latchFault error.text, .run ⟨started, .exit (some completion)⟩, []⟩
  | disappeared (completion : Completion) (called : core.callGet input started.id = .ok none) :
      RunStep (.finishRead completion)
        ⟨core.latchFault "task disappeared while finalizing",
          .run ⟨started, .exit (some completion)⟩, []⟩
  | ended (completion : Completion) (latest : StoredTask)
      (called : core.callGet input started.id = .ok (some latest))
      (terminal : latest.summary.state.isTerminal = true) :
      RunStep (.finishRead completion) ⟨core, .run ⟨started, .clearEntry completion⟩, []⟩
  | reads (completion : Completion) (latest : StoredTask)
      (called : core.callGet input started.id = .ok (some latest))
      (live : latest.summary.state.isTerminal = false) :
      RunStep (.finishRead completion)
        ⟨core, .run ⟨started, .finishWrite completion latest.summary⟩, []⟩
  | wrote {completion : Completion} {latest written : TaskSummary} {after : Core σ}
      (called : core.callTransition input
        (RunTask.finishCommand config started latest completion input.now input.later) =
          (after, .ok written)) :
      RunStep (.finishWrite completion latest) ⟨after, .run ⟨started, .clearEntry completion⟩, []⟩
  | lost {completion : Completion} {latest : TaskSummary} {after : Core σ}
      (called : core.callTransition input
        (RunTask.finishCommand config started latest completion input.now input.later) =
          (after, .error .conflict)) :
      RunStep (.finishWrite completion latest)
        ⟨after, .run ⟨started, .checkCompeting completion latest.stateVersion⟩, []⟩
  | unwritten {completion : Completion} {latest : TaskSummary} {error : StoreError} {after : Core σ}
      (called : core.callTransition input
        (RunTask.finishCommand config started latest completion input.now input.later) =
          (after, .error error))
      (other : error ≠ .conflict) :
      RunStep (.finishWrite completion latest)
        ⟨after.latchFault error.text, .run ⟨started, .exit (some completion)⟩, []⟩
  | clears (completion : Completion) :
      RunStep (.clearEntry completion)
        { core :=
            { core with
              externalCancellations :=
                core.externalCancellations.erase (started.id, started.attempt) }
          thread := .run ⟨started, .exit (some completion)⟩ }
  | contests (completion : Completion) (version : Nat) :
      RunStep (.checkCompeting completion version)
        { core := core.checkCompetingTransition input started.id version
          thread := .run ⟨started, .exit (some completion)⟩ }
  | exits (finished : Option Completion) :
      RunStep (.exit finished)
        ⟨{ core with inFlight := core.inFlight - 1 }, .run ⟨started, .done finished⟩, []⟩

variable {config core input} {result : Step σ}

theorem run_step_cases (task : RunTask) (stepped : task.step config core input = some result) :
    RunStep config core input task.started task.pc result := by
  obtain ⟨started, pc⟩ := task
  cases pc with
  | load =>
    simp only [RunTask.step] at stepped
    split at stepped
    · rename_i error called
      cases stepped
      exact .unread error called
    · rename_i called
      cases stepped
      exact .vanished called
    · rename_i stored called
      cases stepped
      unfold RunTask.prepare
      split
      · rename_i stopped
        exact .superseded stored called stopped
      · split
        · exact .prepared stored called
        · rename_i error verdict
          exact .rejected stored error called verdict
        · rename_i verdict
          exact .panicked stored called verdict
  | register =>
    cases stepped
    exact .registers
  | recheck flag =>
    simp only [RunTask.step] at stepped
    split at stepped
    · rename_i error called
      cases stepped
      exact .unchecked flag error called
    · rename_i latest called
      split at stepped
      · rename_i asked
        cases stepped
        exact .requested flag latest called asked
      · rename_i unasked
        cases stepped
        exact .unrequested flag latest called (by simpa using unasked)
  | setFlag flag =>
    cases stepped
    exact .sets flag
  | running flag =>
    cases stepped
    exact .completes flag
  | unregister completion =>
    cases stepped
    exact .unregisters completion
  | finishRead completion =>
    simp only [RunTask.step] at stepped
    split at stepped
    · rename_i error called
      cases stepped
      exact .unfinished completion error called
    · rename_i latest called
      cases stepped
      cases latest with
      | none => exact .disappeared completion called
      | some latest =>
        simp only [RunTask.afterFinishRead]
        split
        · rename_i terminal
          exact .ended completion latest called terminal
        · rename_i live
          exact .reads completion latest called (by simpa using live)
  | finishWrite =>
    simp only [RunTask.step] at stepped
    split at stepped
    · rename_i after written called
      cases stepped
      exact .wrote called
    · rename_i after error called
      split at stepped
      · rename_i conflict
        subst conflict
        cases stepped
        exact .lost called
      · rename_i other
        cases stepped
        exact .unwritten called other
  | clearEntry completion =>
    cases stepped
    exact .clears completion
  | checkCompeting completion version =>
    cases stepped
    exact .contests completion version
  | exit finished =>
    cases stepped
    exact .exits finished
  | done finished => cases stepped

end Run

section Hook

variable (config : Config) (core : Core σ) (input : Input) (id : TaskId) (attempt : Nat)
  (kindId : String) (flight : Nat)

/-- A step of a flight, by the counter it starts from.  Its reads and writes are given as
the two functions that the flight makes them with. -/
inductive HookStep : HookPc → Step σ → Prop
  | loads :
      HookStep .load
        (HookTask.reading core input ⟨id, attempt, kindId, flight, .load⟩
          "task disappeared during external cancellation" fun summary =>
          if !summary.cancelRequested || summary.cancelError.isSome then .persist summary
          else .invoke)
  | persists (summary : TaskSummary) :
      HookStep (.persist summary)
        (HookTask.writing core input ⟨id, attempt, kindId, flight, .persist summary⟩
          (HookTask.annotateCommand ⟨id, attempt, kindId, flight, .persist summary⟩ summary none)
          .invoke .load)
  | unavailable (absent : ∀ registration, config.handlers.registration kindId = some registration →
      registration.externalCancellationHook = false) :
      HookStep .invoke
        { core := core
          thread :=
            .hook ⟨id, attempt, kindId, flight,
              .conclude (.serviceFailed "external cancellation hook is unavailable")⟩ }
  | interrupted (message : String) (failed : input.hook = .error message) :
      HookStep .invoke ⟨core, .hook ⟨id, attempt, kindId, flight, .failLoad message⟩, []⟩
  | invokes : HookStep .invoke ⟨core, .hook ⟨id, attempt, kindId, flight, .awaitHook⟩, []⟩
  | returns (returned : input.hook = .ok ()) :
      HookStep .awaitHook ⟨core, .hook ⟨id, attempt, kindId, flight, .reload⟩, []⟩
  | fails (message : String) (failed : input.hook = .error message) :
      HookStep .awaitHook ⟨core, .hook ⟨id, attempt, kindId, flight, .failLoad message⟩, []⟩
  | reloads :
      HookStep .reload
        (HookTask.reading core input ⟨id, attempt, kindId, flight, .reload⟩
          "task disappeared after external cancellation" fun summary =>
          if summary.cancelError.isNone then .conclude .success else .clearError summary)
  | clears (summary : TaskSummary) :
      HookStep (.clearError summary)
        (HookTask.writing core input ⟨id, attempt, kindId, flight, .clearError summary⟩
          (HookTask.annotateCommand ⟨id, attempt, kindId, flight, .clearError summary⟩ summary none)
          (.conclude .success) .reload)
  | failureLoads (message : String) :
      HookStep (.failLoad message)
        (HookTask.reading core input ⟨id, attempt, kindId, flight, .failLoad message⟩
          "task disappeared while recording cancellation failure" (.failRecord message))
  | failureRecords (message : String) (summary : TaskSummary) :
      HookStep (.failRecord message summary)
        (HookTask.writing core input ⟨id, attempt, kindId, flight, .failRecord message summary⟩
          (HookTask.annotateCommand ⟨id, attempt, kindId, flight, .failRecord message summary⟩
            summary (some message))
          (.conclude (.hookFailed message)) (.failLoad message))
  | concludes (answer : ExternalCancelResult) :
      HookStep (.conclude answer)
        { core :=
            { core with
              externalCancellations :=
                match answer with
                | .success => core.externalCancellations.insert (id, attempt) .succeeded
                | _ => core.externalCancellations.erase (id, attempt) }
          thread := .hook ⟨id, attempt, kindId, flight, .publish answer⟩ }
  | publishes (answer : ExternalCancelResult) (latched : Core σ) (latches : latched =
        match answer with
        | .serviceFailed message => core.latchFault message
        | _ => core) :
      HookStep (.publish answer)
        { core :=
            { latched with
              flights :=
                latched.flights.modify flight fun cell => { cell with result := some answer } }
          thread := .hook ⟨id, attempt, kindId, flight, .exit⟩ }
  | exits :
      HookStep .exit
        ⟨{ core with inFlight := core.inFlight - 1 },
          .hook ⟨id, attempt, kindId, flight, .done⟩, []⟩

variable {config core input} {result : Step σ}

theorem hook_step_cases (task : HookTask) (stepped : task.step config core input = some result) :
    HookStep config core input task.id task.attempt task.kindId task.flight task.pc result := by
  obtain ⟨id, attempt, kindId, flight, pc⟩ := task
  cases pc with
  | load =>
    cases stepped
    exact .loads
  | persist summary =>
    cases stepped
    exact .persists summary
  | invoke =>
    simp only [HookTask.step] at stepped
    split at stepped
    · rename_i absent
      cases stepped
      refine .unavailable ?_
      intro registration found
      cases absent.symm.trans found
    · rename_i registration found
      split at stepped
      · split at stepped
        · split at stepped
          · cases stepped
          · rename_i message failed
            cases stepped
            exact .interrupted message failed
        · cases stepped
          exact .invokes
      · rename_i bare
        cases stepped
        refine .unavailable ?_
        intro other same
        cases found.symm.trans same
        simpa using bare
  | awaitHook =>
    simp only [HookTask.step] at stepped
    split at stepped
    · rename_i returned
      cases stepped
      exact .returns returned
    · rename_i message failed
      cases stepped
      exact .fails message failed
  | reload =>
    cases stepped
    exact .reloads
  | clearError summary =>
    cases stepped
    exact .clears summary
  | failLoad message =>
    cases stepped
    exact .failureLoads message
  | failRecord message summary =>
    cases stepped
    exact .failureRecords message summary
  | conclude answer =>
    cases stepped
    exact .concludes answer
  | publish answer =>
    cases stepped
    exact .publishes answer _ rfl
  | exit =>
    cases stepped
    exact .exits
  | done => cases stepped

end Hook

end TaskService.Service
