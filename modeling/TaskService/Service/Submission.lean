import TaskService.Service.StepCases
import TaskService.Service.System
import TaskService.Service.TaskRequest
import TaskService.Store.ErrorAnswers

/-!
# Submissions and the fault latch

A submission touches the shared state at its acceptance only.  An answer of the store that
`submission_store_result` does not know as a rejection stops the service, so the question is
which requests reach the store and are then refused for another reason.
-/

namespace TaskService.Service

open Library Model Store
open TaskStore

def submitCall {α : Type} [MetadataWire] [HasModelId α] (registry : ValueBytesCodecRegistry α)
    (request : TaskRequest α) : SubmitCall :=
  { encoded := (request.encode registry).mapError TaskRequestEncodeError.text, pc := .admission }

section Calls

variable {σ : Type}

theorem store_result_fault {core : Core σ} (quiet : core.fault = none) (error : StoreError) :
    (core.storeResult error).fault = none ↔ error = .conflict ∨ error = .notFound := by
  unfold Core.storeResult
  split
  · rename_i lost
    simp [quiet, lost]
  · rename_i other
    simp [Core.latchFault, quiet, other]

theorem rejection_fault {core : Core σ} (quiet : core.fault = none) (error : StoreError) :
    (SubmitCall.rejection core error).1.fault = none ↔ declines error = true := by
  cases error <;> simp [SubmitCall.rejection, declines, quiet, store_result_fault quiet]

theorem rejection_latches {core : Core σ} (quiet : core.fault = none) {error : StoreError}
    (harmful : declines error = false) :
    (SubmitCall.rejection core error).1.fault = some error.text := by
  cases error with
  | capacityExceeded | unfinishedRecordLimitExceeded | idempotencyConflict | duplicateTask
  | conflict | notFound => cases harmful
  | _ => simp [SubmitCall.rejection, Core.storeResult, Core.latchFault, quiet]

variable [TaskStore σ]

def submitStep (call : SubmitCall) (moment : Core σ × Input) : Option SubmitCall :=
  match call.step moment.1 moment.2 with
  | none => none
  | some result =>
      match result.thread with
      | .submit next => some next
      | _ => none

def SubmitPc.carried : SubmitPc → Option StoredTaskRequest
  | .generate stored | .accept _ stored => some stored
  | .admission | .checkFault | .checkShutdown | .returned _ => none

structure SubmitCall.Keeps (encoded : Except String StoredTaskRequest) (call : SubmitCall) :
    Prop where
  same : call.encoded = encoded
  carried : ∀ stored, call.pc.carried = some stored → encoded = .ok stored

variable {encoded : Except String StoredTaskRequest} {call : SubmitCall} {core : Core σ}
  {input : Input} {result : Step σ}

variable {pc : SubmitPc}

section

variable (keeps : call.Keeps encoded)
include keeps

omit [TaskStore σ] in
theorem SubmitCall.Keeps.moved
    (carried : ∀ stored, pc.carried = some stored → encoded = .ok stored) :
    SubmitCall.Keeps encoded { call with pc := pc } :=
  ⟨keeps.same, carried⟩

omit [TaskStore σ] in
theorem SubmitCall.Keeps.bare (bare : pc.carried = none) :
    SubmitCall.Keeps encoded { call with pc := pc } := by
  apply keeps.moved
  intro stored carries
  rw [bare] at carries
  cases carries

theorem submit_step_keeps (stepped : call.step core input = some result) :
    ∃ next : SubmitCall, result.thread = .submit next ∧ next.Keeps encoded := by
  obtain ⟨made, pc⟩ := call
  obtain ⟨after, next, rfl, step⟩ := submit_step_cases _ stepped
  cases step with
  | accepting stored running same =>
    refine ⟨_, rfl, keeps.moved ?_⟩
    rintro other ⟨⟩
    exact keeps.same.symm.trans same
  | generates stored id fresh =>
    refine ⟨_, rfl, keeps.moved ?_⟩
    rintro other ⟨⟩
    exact keeps.carried stored rfl
  | _ => exact ⟨_, rfl, keeps.bare rfl⟩

theorem submit_run_keeps {moments : List (Core σ × Input)} {final : SubmitCall}
    (reached : runActions submitStep call moments = some final) : final.Keeps encoded := by
  refine run_preserves ?_ keeps reached
  intro call moment next keeps stepped
  unfold submitStep at stepped
  split at stepped
  · cases stepped
  · rename_i result made
    obtain ⟨other, form, kept⟩ := submit_step_keeps keeps made
    rw [form] at stepped
    cases stepped
    exact kept

end

theorem submit_elsewhere_fault (elsewhere : ∀ id stored, call.pc ≠ .accept id stored)
    (stepped : call.step core input = some result) : result.core.fault = core.fault := by
  obtain ⟨encoded, pc⟩ := call
  obtain ⟨after, next, rfl, step⟩ := submit_step_cases _ stepped
  cases step with
  | accepts id stored | rejects id stored => exact (elsewhere id stored rfl).elim
  | _ => rfl

theorem submit_accepting (operational : input.storeFailure = none) {id : TaskId}
    {stored : StoredTaskRequest} (at_ : call.pc = .accept id stored)
    (stepped : call.step core input = some result) :
    ∃ answer, result.thread = .submit { call with pc := .returned answer } ∧
      match (acceptEncoded core.store input.clock id stored).2 with
      | .ok _ => result.core.fault = core.fault
      | .error error => result.core.fault =
          (SubmitCall.rejection (core.callAccept input id stored).1 error).1.fault := by
  have called : core.callAccept input id stored = ((core.callAccept input id stored).1,
      (acceptEncoded core.store input.clock id stored).2) := by
    simp only [Core.callAccept, Core.callWrite, operational]
  have kept : (core.callAccept input id stored).1.fault = core.fault := by
    simp only [Core.callAccept, Core.callWrite, operational]
    rfl
  simp only [SubmitCall.step, at_] at stepped
  rw [called] at stepped
  cases answered : (acceptEncoded core.store input.clock id stored).2 with
  | ok outcome =>
    rw [answered] at stepped
    cases stepped
    exact ⟨_, rfl, kept⟩
  | error error =>
    rw [answered] at stepped
    cases stepped
    exact ⟨_, rfl, rfl⟩

theorem refused_acceptance_latches {system : System σ} {index : Nat} {id : TaskId}
    {stored : StoredTaskRequest} {error : StoreError}
    (lookup : system.threads[index]? = some (.submit call)) (at_ : call.pc = .accept id stored)
    (operational : input.storeFailure = none) (quiet : system.core.fault = none)
    (answered : (acceptEncoded system.core.store input.clock id stored).2 =
      .error error) (harmful : declines error = false) :
    ∃ next, system.step (.thread index input) = some next ∧
      next.core.fault = some error.text := by
  have called : system.core.callAccept input id stored =
      ((system.core.callAccept input id stored).1, .error error) := by
    simp only [Core.callAccept, Core.callWrite, operational, answered]
  have kept : (system.core.callAccept input id stored).1.fault = none := by
    simp only [Core.callAccept, Core.callWrite, operational]
    exact quiet
  simp only [System.step, System.stepThread, lookup, Thread.step, SubmitCall.step, at_]
  rw [called]
  exact ⟨_, rfl, rejection_latches kept harmful⟩

theorem submit_step_fault (quiet : core.fault = none) (operational : input.storeFailure = none)
    (stepped : call.step core input = some result) :
    result.core.fault = none ↔ ∀ id stored, call.pc = .accept id stored →
      ∀ error, (acceptEncoded core.store input.clock id stored).2 = .error error →
        declines error = true := by
  by_cases accepting : ∃ id stored, call.pc = .accept id stored
  · obtain ⟨id, stored, at_⟩ := accepting
    have kept : (core.callAccept input id stored).1.fault = none := by
      simp only [Core.callAccept, Core.callWrite, operational]
      exact quiet
    obtain ⟨_, _, fault⟩ := submit_accepting operational at_ stepped
    cases answered : (acceptEncoded core.store input.clock id stored).2 with
    | ok outcome =>
      rw [answered] at fault
      simp [fault, quiet, at_, answered]
    | error error =>
      rw [answered] at fault
      rw [fault, rejection_fault kept, at_]
      simp [answered]
  · have elsewhere : ∀ id stored, call.pc ≠ .accept id stored :=
      fun id stored at_ => accepting ⟨id, stored, at_⟩
    rw [submit_elsewhere_fault elsewhere stepped]
    simp [quiet, elsewhere]

end Calls

variable {clock : Clock} {id : TaskId} {request : StoredTaskRequest} {α : Type}

theorem memory_accept_declines_iff {store : MemoryTaskStore} (named : request.kindId ≠ "") :
    (∀ error, (store.acceptEncoded clock id request).2 = .error error → declines error = true) ↔
      request.payload.codecId ≠ "" := by
  constructor
  · intro harmless unnamed
    have refused : (store.acceptEncoded clock id request).2 =
        .error (.invalidRequest "task kind and payload codec must not be empty") := by
      simp [MemoryTaskStore.acceptEncoded, MemoryTaskStore.acceptEncodedBy, unnamed]
    cases harmless _ refused
  · intro codec error failed
    rcases store.accept_error failed with declined | ⟨unnamed, _⟩
    · exact declined
    · exact absurd unnamed (not_or.mpr ⟨named, codec⟩)

theorem sqlite_accept_declines_iff [IdCodec] [RequestWire] {store : SqliteTaskStore}
    (sound : store.database.Sound) (owned : store.lockHeld = true) :
    (∀ error, (store.acceptEncodedOn clock id request).2 = .error error → declines error = true) ↔
      store.database.Storable clock id request store.outboxEnabled := by
  rw [← Database.accept_declines_iff sound]
  simp only [FailsOnly, SqliteTaskStore.acceptEncodedOn, SqliteTaskStore.run_write_error_iff owned]

theorem submit_run_encodes {σ : Type} [TaskStore σ] [MetadataWire] [HasModelId α]
    {registry : ValueBytesCodecRegistry α} {request : TaskRequest α}
    {moments : List (Core σ × Input)} {call : SubmitCall} {stored : StoredTaskRequest}
    (reached : runActions submitStep (submitCall registry request) moments = some call)
    (at_ : call.pc = .accept id stored) : request.Encodes stored := by
  have made := (submit_run_keeps ⟨rfl, fun _ carries => by cases carries⟩ reached).carried stored
    (by rw [at_]; rfl)
  exact TaskRequest.encode_encodes ((map_error_eq_ok _ _ _).mp made)

/-- Wherever a call of `submit` has got to and whatever the service did in the meantime: in a
service without a fault its next step latches none exactly when the call does not stand at
its acceptance, or the payload codec has a name (in memory), or the request can be written
and read back and the times and the first event of the task can be stored (in the database).
The acceptance ends the call. -/
theorem submission_latches_nothing_iff {α : Type} [MetadataWire] [HasModelId α]
    (registry : ValueBytesCodecRegistry α) (request : TaskRequest α) :
    (∀ (moments : List (Core MemoryTaskStore × Input)) (call : SubmitCall),
      runActions submitStep (submitCall registry request) moments = some call →
      ∀ (core : Core MemoryTaskStore) (input : Input) (next : Step MemoryTaskStore),
        core.fault = none → input.storeFailure = none → call.step core input = some next →
        (next.core.fault = none ↔ ∀ id stored, call.pc = .accept id stored →
          request.payload.codecId ≠ "") ∧
        ∀ id stored, call.pc = .accept id stored →
          ∃ answer, next.thread = .submit { call with pc := .returned answer }) ∧
    (∀ [IdCodec] [RequestWire] (moments : List (Core WiredSqliteTaskStore × Input))
        (call : SubmitCall),
      runActions submitStep (submitCall registry request) moments = some call →
      ∀ (core : Core WiredSqliteTaskStore) (input : Input) (next : Step WiredSqliteTaskStore),
        core.store.database.Sound → core.store.lockHeld = true →
        core.fault = none → input.storeFailure = none → call.step core input = some next →
        (next.core.fault = none ↔ ∀ id stored, call.pc = .accept id stored →
          core.store.database.Storable input.clock id stored core.store.outboxEnabled) ∧
        ∀ id stored, call.pc = .accept id stored →
          ∃ answer, next.thread = .submit { call with pc := .returned answer }) := by
  constructor
  · intro moments call reached core input next quiet operational stepped
    constructor
    · rw [submit_step_fault quiet operational stepped]
      refine forall₃_congr fun id stored at_ => ?_
      have encodes := submit_run_encodes reached at_
      rw [← encodes.codecId]
      exact memory_accept_declines_iff (not_blank_ne_empty encodes.kind)
    · intro id stored at_
      obtain ⟨answer, form, _⟩ := submit_accepting operational at_ stepped
      exact ⟨answer, form⟩
  · intro codec wire moments call reached core input next valid owned quiet operational stepped
    constructor
    · rw [submit_step_fault quiet operational stepped]
      exact forall₃_congr fun id stored at_ => sqlite_accept_declines_iff valid owned
    · intro id stored at_
      obtain ⟨answer, form, _⟩ := submit_accepting operational at_ stepped
      exact ⟨answer, form⟩

section Samples

@[reducible]
def sampleWire : MetadataWire :=
  { len := fun _ => 0, toJsonVecWithLimits := fun _ _ => .ok [] }

@[reducible]
def sampleModel : HasModelId String :=
  { modelId := "text" }

def sampleRegistry : ValueBytesCodecRegistry String :=
  { get := fun _ => some (.codec fun _ => .ok []) }

def keyedRequest (key : Option String) : TaskRequest String :=
  { kindId := "report"
    category := none
    payload := { schemaVersion := 1, codecId := "utf8", data := "" }
    metadata := { json := "null" }
    resourceLimit := sampleRequest.resourceLimit
    correlationKey := key
    idempotencyKey := none }

def keyedStored (key : Option String) : StoredTaskRequest :=
  { sampleRequest with correlationKey := key }

theorem keyed_request_encodes (key : Option String) :
    @TaskRequest.encode _ sampleWire sampleModel (keyedRequest key) sampleRegistry =
      .ok (keyedStored key) := by
  have named : Database.isBlank "report" = false := by decide
  have limits : validateLimits sampleRequest.resourceLimit = .ok () := by decide
  simp only [TaskRequest.encode, bind_eq_ok, require_eq_ok, map_error_eq_ok]
  exact ⟨(), named, (), limits, (), Nat.zero_le _, [], rfl, _, rfl, (), Nat.zero_le _, rfl⟩

/-- A key with which not even the first event of a task fits. -/
def longKey : String := repeated 131072 'a'

/-- Recovery of an empty store and one submission, up to its acceptance. -/
def submission (encoded : Except String StoredTaskRequest) : List Action :=
  threadSteps [3, 3, 3] ++ [.call (.submit encoded)] ++ threadSteps [4, 4, 4] ++
    [.thread 4 { generated := .ok sampleId }]

theorem submission_reaches (encoded : StoredTaskRequest) :
    letI := sampleIdCodec
    ∃ before : System SqliteTaskStore,
      runActions System.step (System.boot (sampleConfig .cooperative) publishingStore [])
          (submission (.ok encoded)) = some before ∧
        before.threads[4]? =
          some (.submit { encoded := .ok encoded, pc := .accept sampleId encoded }) ∧
        before.core.store = publishingStore ∧ before.core.fault = none :=
  ⟨_, rfl, rfl, rfl, rfl⟩

theorem long_key_too_large :
    letI := sampleIdCodec
    (publishingStore.acceptEncoded zeroClock sampleId (keyedStored (some longKey))).2 =
      .error eventTooLarge := by
  let codec := sampleIdCodec
  have letter : String.utf8Len (jsonEscape 'a') = 1 := by decide
  have large : Database.maxEventSnapshotBytes <
      eventSize sampleId 0 .queued (some longKey) := by
    rw [event_size_eq]
    simp only [longKey, jsonOption, json_repeated_size, letter]
    have limit : Database.maxEventSnapshotBytes = 131072 := rfl
    omega
  refine (SqliteTaskStore.run_write_error_iff rfl _).mpr ?_
  exact (Database.accept_error_iff failure_ne_too_large rfl).mpr
    ⟨rfl, rfl, by decide, rfl, large, rfl⟩

/-- A submission whose event does not fit stops a service that nothing else is wrong with. -/
theorem submission_stops_service :
    letI := sampleIdCodec
    ∃ final : System SqliteTaskStore,
      runActions System.step (System.boot (sampleConfig .cooperative) publishingStore [])
          (submission (@submitCall _ sampleWire sampleModel sampleRegistry
            (keyedRequest (some longKey))).encoded ++ threadSteps [4]) = some final ∧
        final.core.fault = some "invalid task data: task event snapshot exceeds 128 KiB" := by
  let codec := sampleIdCodec
  have encoded : (@submitCall _ sampleWire sampleModel sampleRegistry
      (keyedRequest (some longKey))).encoded = .ok (keyedStored (some longKey)) := by
    simp only [submitCall, keyed_request_encodes]
    rfl
  obtain ⟨before, reached, lookup, store, quiet⟩ := submission_reaches (keyedStored (some longKey))
  obtain ⟨final, stepped, fault⟩ := @refused_acceptance_latches _ _ _ {} before 4 sampleId _ _
    lookup rfl rfl quiet (by rw [store]; exact long_key_too_large) rfl
  rw [encoded]
  exact ⟨final, run_snoc_eq_some.mpr ⟨before, reached, stepped⟩, fault⟩

def sampleMoments {σ : Type} (store : σ) : List (Core σ × Input) :=
  [(Core.boot store [] [], {}), (Core.boot store [] [], {}), (Core.boot store [] [], {}),
    (Core.boot store [] [], { generated := .ok sampleId })]

theorem submission_latches_nothing_sample :
    ∃ (call : SubmitCall) (next : Step MemoryTaskStore),
      runActions submitStep
          (@submitCall _ sampleWire sampleModel sampleRegistry (keyedRequest none))
          (sampleMoments (MemoryTaskStore.withLimits 4 1024 4)) = some call ∧
        call.step (Core.boot (MemoryTaskStore.withLimits 4 1024 4) [] []) {} = some next ∧
        call.pc = .accept sampleId (keyedStored none) ∧ next.core.fault = none := by
  have made : @submitCall _ sampleWire sampleModel sampleRegistry (keyedRequest none) =
      { encoded := .ok (keyedStored none), pc := .admission } := by
    simp only [submitCall, keyed_request_encodes]
    rfl
  have reached : runActions submitStep
      (@submitCall _ sampleWire sampleModel sampleRegistry (keyedRequest none))
      (sampleMoments (MemoryTaskStore.withLimits 4 1024 4)) =
        some { encoded := .ok (keyedStored none), pc := .accept sampleId (keyedStored none) } := by
    rw [made]
    rfl
  have codec : (keyedRequest none).payload.codecId ≠ "" := by decide
  refine ⟨_, _, reached, rfl, rfl, ?_⟩
  exact ((@submission_latches_nothing_iff _ sampleWire sampleModel sampleRegistry
    (keyedRequest none)).1 _ _ reached (Core.boot (MemoryTaskStore.withLimits 4 1024 4) [] []) {} _
      rfl rfl rfl).1.mpr fun _ _ _ => codec

end Samples

end TaskService.Service
