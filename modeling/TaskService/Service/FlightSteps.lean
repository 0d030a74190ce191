import TaskService.Service.Books
import TaskService.Service.Flights

/-!
# Open flights

A flight is open from the moment its caller enters it until its operation settles
the entry.  A flight that has seen its attempt running is engaged: it calls the
hook, and it may report success.  One step passes an open flight on, opens one,
settles an entry or publishes a result.
-/

namespace TaskService.Service

open Library Model Store List
open Step (threads)

variable {σ : Type}

section Tokens

def HookPc.unsettled : HookPc → Bool
  | .publish _ | .exit | .done => false
  | _ => true

def HookPc.unpublished : HookPc → Bool
  | .exit | .done => false
  | _ => true

/-- Counters of a flight that has seen its attempt running and may report success. -/
def HookPc.engaged : HookPc → Bool
  | .persist _ | .invoke | .awaitHook | .reload | .clearError _ | .failLoad _ | .failRecord _ _
  | .conclude .success => true
  | _ => false

def Thread.unpublished : Thread → List Nat
  | .cancel { id := _, pc := .spawnHook _ flight } => [flight]
  | .hook task => if task.pc.unpublished then [task.flight] else []
  | _ => []

def Thread.carries : Thread → List (Nat × (TaskId × Nat))
  | .cancel { id, pc := .spawnHook summary flight } => [(flight, (id, summary.attempt))]
  | .hook task => if task.pc.unsettled then [(task.flight, (task.id, task.attempt))] else []
  | _ => []

def Thread.engaged : Thread → List (TaskId × Nat)
  | .hook task => if task.pc.engaged then [(task.id, task.attempt)] else []
  | _ => []

def Thread.announces : Thread → List (TaskId × Nat)
  | .hook { id, attempt, kindId := _, flight := _, pc := .publish .success } => [(id, attempt)]
  | _ => []

def Thread.settles : Thread → List (TaskId × Nat)
  | .hook { id, attempt, kindId := _, flight := _, pc := .conclude _ } => [(id, attempt)]
  | .run { started, pc := .clearEntry _ } => [(started.id, started.attempt)]
  | _ => []

structure Thread.Aloof (thread : Thread) : Prop where
  unpublished : thread.unpublished = []
  carries : thread.carries = []
  engaged : thread.engaged = []
  announces : thread.announces = []

variable {thread : Thread} {pc : HookPc} {key : TaskId × Nat}

theorem bystander_aloof (bystander : thread.bystander = true) :
    thread.Aloof := by
  cases thread with
  | cancel call | hook task => cases bystander
  | _ => exact ⟨rfl, rfl, rfl, rfl⟩

theorem unpublished_of_unsettled (unsettled : pc.unsettled = true) :
    pc.unpublished = true := by
  cases pc <;> first | rfl | cases unsettled

theorem unsettled_of_engaged (engaged : pc.engaged = true) :
    pc.unsettled = true := by
  cases pc <;> first | rfl | cases engaged

theorem carries_of_engaged (engaged : key ∈ thread.engaged) :
    ∃ task, thread = .hook task ∧ key = (task.id, task.attempt) ∧
      (task.flight, key) ∈ thread.carries := by
  cases thread with
  | hook task =>
    simp only [Thread.engaged] at engaged
    split at engaged
    · rename_i under
      refine ⟨task, rfl, mem_singleton.mp engaged, ?_⟩
      simpa [Thread.carries, unsettled_of_engaged under] using engaged
    · cases engaged
  | _ => cases engaged

theorem unpublished_of_carries {flight : Nat} (carried : (flight, key) ∈ thread.carries) :
    flight ∈ thread.unpublished := by
  unfold Thread.carries at carried
  split at carried
  · cases mem_singleton.mp carried
    exact mem_singleton_self _
  · split at carried
    · rename_i unsettled
      cases mem_singleton.mp carried
      simp [Thread.unpublished, unpublished_of_unsettled unsettled]
    · cases carried
  · cases carried

end Tokens

variable [TaskStore σ]

structure FlightStep (core : Core σ) (thread : Thread) (result : Step σ) : Prop where
  unpublished : (result.threads.flatMap Thread.unpublished).Sublist thread.unpublished ∨
    (result.threads.flatMap Thread.unpublished = [core.flights.length] ∧
      ∃ owner, result.core.flights = core.flights ++ [{ owner := owner, result := none }])
  kept : ∀ token ∈ thread.carries,
    token ∈ result.threads.flatMap Thread.carries ∨ token.2 ∈ thread.settles
  carries : ∀ token ∈ result.threads.flatMap Thread.carries, token ∈ thread.carries ∨
    result.core.externalCancellations.lookup token.2 = some (.inFlight token.1)
  engaged : (result.threads.flatMap Thread.engaged).Sublist thread.engaged ∨
    ∃ task, thread = .hook task ∧ task.pc = .load ∧
      RunningAt (core.recordOf task.id) task.attempt ∧
      result.threads.flatMap Thread.engaged = [(task.id, task.attempt)]
  entries : ∀ key,
    result.core.externalCancellations.lookup key = core.externalCancellations.lookup key ∨
      key ∈ thread.settles ∨
      (core.externalCancellations.lookup key = none ∧
        ∃ flight, result.core.externalCancellations.lookup key = some (.inFlight flight) ∧
          (flight, key) ∈ result.threads.flatMap Thread.carries)
  settled : ∀ key ∈ thread.settles, ∀ flight,
    result.core.externalCancellations.lookup key ≠ some (.inFlight flight)
  closes : thread.settles ≠ [] → result.threads.flatMap Thread.carries = []
  reports : ∀ task, thread = .hook task → task.pc = .conclude .success →
    result.threads.flatMap Thread.engaged = [] ∧
      result.core.externalCancellations.lookup (task.id, task.attempt) = some .succeeded
  announces : ∀ key ∈ result.threads.flatMap Thread.announces,
    ∃ task, thread = .hook task ∧ task.pc = .conclude .success ∧ key = (task.id, task.attempt)
  flights : ∀ (flight : Nat) (cell : Flight), core.flights[flight]? = some cell →
    result.core.flights[flight]? = some cell ∨
      ∃ task answer, thread = .hook task ∧ task.pc = .publish answer ∧ task.flight = flight ∧
        result.threads.flatMap Thread.unpublished = []

section Threads

variable {config : Config} {core : Core σ} {input : Input} {thread : Thread} {result : Step σ}

omit [TaskStore σ] in
theorem aloof_tokens (aloof : ∀ next ∈ result.threads, next.Aloof) :
    result.threads.flatMap Thread.unpublished = [] ∧ result.threads.flatMap Thread.carries = [] ∧
      result.threads.flatMap Thread.engaged = [] ∧
      result.threads.flatMap Thread.announces = [] :=
  ⟨flatMap_eq_nil_iff.mpr fun next among => (aloof next among).unpublished,
    flatMap_eq_nil_iff.mpr fun next among => (aloof next among).carries,
    flatMap_eq_nil_iff.mpr fun next among => (aloof next among).engaged,
    flatMap_eq_nil_iff.mpr fun next among => (aloof next among).announces⟩

theorem flight_step_aloof
    (entries : result.core.externalCancellations = core.externalCancellations)
    (flights : result.core.flights = core.flights) (carries : thread.carries = [])
    (settles : thread.settles = []) (aloof : ∀ next ∈ result.threads, next.Aloof) :
    FlightStep core thread result := by
  obtain ⟨noUnpublished, noCarries, noEngaged, noAnnounces⟩ := aloof_tokens aloof
  refine ⟨.inl ?_, ?_, ?_, .inl ?_, ?_, ?_, fun _ => noCarries, ?_, ?_, ?_⟩
  · rw [noUnpublished]
    exact nil_sublist _
  · rw [carries]
    exact forall_mem_nil _
  · rw [noCarries]
    exact forall_mem_nil _
  · rw [noEngaged]
    exact nil_sublist _
  · intro key
    rw [entries]
    exact .inl rfl
  · rw [settles]
    exact forall_mem_nil _
  · rintro task rfl concluding
    obtain ⟨id, attempt, kindId, flight, pc⟩ := task
    cases concluding
    cases settles
  · rw [noAnnounces]
    exact forall_mem_nil _
  · intro flight cell found
    rw [flights]
    exact .inl found

variable {after : Core σ} {call : CancelCall} {id : TaskId} {summary : TaskSummary}
  {task : HookTask}

theorem cancel_idle_flight {next : CancelCall} (same : core.SameCells after)
    (carries : (Thread.cancel call).carries = []) (aloof : (Thread.cancel next).Aloof) :
    FlightStep core (.cancel call) ⟨after, .cancel next, []⟩ := by
  apply flight_step_aloof same.entries same.flights carries rfl
  intro other member
  rw [mem_singleton.mp member]
  exact aloof

theorem cancel_returns_flight (answer : Except TaskServiceError CancelOutcome)
    (same : core.SameCells after) (carries : (Thread.cancel call).carries = []) :
    FlightStep core (.cancel call) (CancelCall.finish after call answer) := by
  unfold CancelCall.finish CancelCall.returnWith
  cases answer with
  | error error =>
    exact cancel_idle_flight (same.trans after.same_cells_leave) carries ⟨rfl, rfl, rfl, rfl⟩
  | ok outcome =>
    exact cancel_idle_flight (same.trans (Core.same_cells_of_eq rfl rfl rfl rfl rfl)) carries
      ⟨rfl, rfl, rfl, rfl⟩

theorem cancel_opens_flight
    (absent : core.externalCancellations.lookup (id, summary.attempt) = none) :
    FlightStep core (.cancel { id := id, pc := .joinHook summary })
      { core :=
          { core with
            flights := core.flights ++ [{ owner := (id, summary.attempt), result := none }]
            externalCancellations :=
              core.externalCancellations.insert (id, summary.attempt)
                (.inFlight core.flights.length) }
        thread := .cancel { id := id, pc := .spawnHook summary core.flights.length } } := by
  refine ⟨.inr ⟨rfl, _, rfl⟩, (forall_mem_nil _), ?_, .inl (nil_sublist _), ?_, (forall_mem_nil _),
    fun settles => (settles rfl).elim, (fun _ same => by cases same),
    (forall_mem_nil _), ?_⟩
  · intro token member
    obtain rfl : token = (core.flights.length, (id, summary.attempt)) := by
      simpa [threads, Thread.carries] using member
    right
    rw [Table.lookup_insert_eq, if_pos rfl]
  · intro key
    simp only [Table.lookup_insert_eq]
    split
    · rename_i same
      subst same
      right
      right
      exact ⟨absent, _, rfl, by simp [threads, Thread.carries]⟩
    · exact .inl rfl
  · intro flight cell found
    left
    rw [← found]
    exact List.getElem?_append_left (List.getElem?_eq_some_iff.mp found).1

theorem cancel_spawns_flight {flight : Nat} {kindId : String} (same : core.SameCells after) :
    FlightStep core (.cancel { id := id, pc := .spawnHook summary flight })
      { core := after
        thread := .cancel { id := id, pc := .dropAdmission summary.attempt flight }
        spawned := [.hook ⟨id, summary.attempt, kindId, flight, .load⟩] } := by
  refine ⟨.inl (List.Sublist.refl _), fun token member => .inl member,
    fun token member => .inl member, .inl (nil_sublist _), ?_,
    (forall_mem_nil _), fun settles => (settles rfl).elim,
    (fun _ same => by cases same), (forall_mem_nil _), ?_⟩
  · intro key
    rw [same.entries]
    exact .inl rfl
  · intro other cell found
    rw [same.flights]
    exact .inl found

theorem cancel_flight_step (call : CancelCall)
    (stepped : call.step config core input = some result) :
    FlightStep core (.cancel call) result := by
  obtain ⟨id, pc⟩ := call
  cases cancel_step_cases _ stepped with
  | enters =>
    exact cancel_idle_flight (Core.same_cells_of_eq rfl rfl rfl rfl rfl) rfl ⟨rfl, rfl, rfl, rfl⟩
  | unfaulted | accepting | owning | waiting | hooked | requests | joins =>
    exact cancel_idle_flight core.same_cells_refl rfl ⟨rfl, rfl, rfl, rfl⟩
  | unread => exact cancel_returns_flight _ (core.same_cells_store_result _) rfl
  | @notCancelled summary error after called | @notRequested summary error after called =>
    exact cancel_returns_flight _
      ((call_write_cells called).trans (after.same_cells_store_result _)) rfl
  | cancelled called =>
    exact cancel_returns_flight _ (call_write_cells called) rfl
  | persisted called =>
    exact cancel_idle_flight (call_write_cells called) rfl ⟨rfl, rfl, rfl, rfl⟩
  | signals attempt flag =>
    apply @flight_step_aloof σ _ core (.cancel { id := id, pc := .signal attempt }) _ rfl rfl rfl
      rfl
    intro other member
    rw [mem_singleton.mp member]
    exact ⟨rfl, rfl, rfl, rfl⟩
  | opens summary absent => exact cancel_opens_flight absent
  | spawns => exact cancel_spawns_flight (Core.same_cells_of_eq rfl rfl rfl rfl rfl)
  | leaves => exact cancel_idle_flight core.same_cells_leave rfl ⟨rfl, rfl, rfl, rfl⟩
  | landed attempt flight answer =>
    unfold CancelCall.returnWith
    cases CancelCall.flightOutcome id attempt answer with
    | error error => exact cancel_idle_flight core.same_cells_refl rfl ⟨rfl, rfl, rfl, rfl⟩
    | ok outcome =>
      exact cancel_idle_flight (Core.same_cells_of_eq rfl rfl rfl rfl rfl) rfl ⟨rfl, rfl, rfl, rfl⟩
  | _ =>
    exact cancel_returns_flight _ core.same_cells_refl rfl

theorem hook_passes_flight {task : HookTask} {after : Core σ} {pc : HookPc}
    (same : core.SameCells after) (unsettled : task.pc.unsettled = true)
    (open_ : pc.unsettled = true) (deciding : ∀ answer, task.pc ≠ .conclude answer)
    (engages : pc.engaged = true → task.pc.engaged = true ∨
      (task.pc = .load ∧ RunningAt (core.recordOf task.id) task.attempt)) :
    FlightStep core (.hook task) ⟨after, .hook { task with pc := pc }, []⟩ := by
  have carried : Thread.carries (.hook { task with pc := pc }) = Thread.carries (.hook task) := by
    simp [Thread.carries, unsettled, open_]
  have flying : Thread.unpublished (.hook { task with pc := pc }) =
      Thread.unpublished (.hook task) := by
    simp [Thread.unpublished, unpublished_of_unsettled unsettled, unpublished_of_unsettled open_]
  have idle : (Thread.hook task).settles = [] := by
    obtain ⟨id, attempt, kindId, flight, counter⟩ := task
    cases counter with
    | conclude answer => exact (deciding answer rfl).elim
    | _ => rfl
  have silent : Thread.announces (.hook { task with pc := pc }) = [] := by
    cases pc with
    | publish answer => cases open_
    | _ => rfl
  refine ⟨.inl ?_, ?_, ?_, ?_, ?_, ?_, fun settles => (settles idle).elim, ?_, ?_, ?_⟩
  · simp [threads, flying]
  · intro token member
    left
    simpa [threads, carried] using member
  · intro token member
    left
    simpa [threads, carried] using member
  · by_cases engaged : pc.engaged = true
    · rcases engages engaged with before | ⟨loading, running⟩
      · left
        simp [threads, Thread.engaged, engaged, before]
      · right
        exact ⟨task, rfl, loading, running, by simp [threads, Thread.engaged, engaged]⟩
    · left
      simp [threads, Thread.engaged, engaged]
  · intro key
    rw [same.entries]
    exact .inl rfl
  · rw [idle]
    exact forall_mem_nil _
  · intro other equal concluding
    cases equal
    exact (deciding _ concluding).elim
  · intro key member
    simp [threads, silent] at member
  · intro flight cell found
    rw [same.flights]
    exact .inl found

theorem hook_reading_flight (disappeared : String) (running : TaskSummary → HookPc)
    (unsettled : task.pc.unsettled = true) (deciding : ∀ answer, task.pc ≠ .conclude answer)
    (open_ : ∀ summary, (running summary).unsettled = true)
    (engages : task.pc = .load ∨ task.pc.engaged = true) :
    FlightStep core (.hook task) (task.reading core input disappeared running) := by
  have concludes : ∀ answer, answer ≠ .success →
      FlightStep core (.hook task)
        ⟨core, .hook { task with pc := .conclude answer }, []⟩ := by
    intro answer failed
    refine hook_passes_flight core.same_cells_refl unsettled rfl deciding ?_
    intro engaged
    cases answer with
    | success => exact (failed rfl).elim
    | _ => cases engaged
  unfold HookTask.reading
  simp only
  split
  · exact concludes _ (by simp)
  · exact concludes _ (by simp)
  · rename_i stored called
    split
    · rename_i still
      refine hook_passes_flight core.same_cells_refl unsettled (open_ _) deciding ?_
      intro _
      rcases engages with loading | engaged
      · right
        obtain ⟨counted, state⟩ := (still_running_iff task stored.summary).mp still
        exact ⟨loading, stored, call_get_record called, state, counted⟩
      · exact .inl engaged
    · exact concludes _ (by simp)

theorem hook_writing_flight (command : TransitionCommand) (written again : HookPc)
    (engaged : task.pc.engaged = true) (deciding : ∀ answer, task.pc ≠ .conclude answer)
    (writtenOpen : written.unsettled = true) (againOpen : again.unsettled = true) :
    FlightStep core (.hook task) (task.writing core input command written again) := by
  unfold HookTask.writing
  split
  · rename_i after answer called
    exact hook_passes_flight (call_write_cells called) (unsettled_of_engaged engaged) writtenOpen
      deciding (fun _ => .inl engaged)
  · rename_i after error called
    split
    · exact hook_passes_flight (call_write_cells called) (unsettled_of_engaged engaged) againOpen
        deciding (fun _ => .inl engaged)
    · exact hook_passes_flight (call_write_cells called) (unsettled_of_engaged engaged) rfl
        deciding (fun _ => .inl engaged)

theorem hook_concludes_flight {task : HookTask} {answer : ExternalCancelResult}
    {entries : Table (TaskId × Nat) ExternalCancelEntry} (concluding : task.pc = .conclude answer)
    (others : ∀ key, key ≠ (task.id, task.attempt) →
      entries.lookup key = core.externalCancellations.lookup key)
    (settled : ∀ flight, entries.lookup (task.id, task.attempt) ≠ some (.inFlight flight))
    (success : answer = .success → entries.lookup (task.id, task.attempt) = some .succeeded) :
    FlightStep core (.hook task)
      ⟨{ core with externalCancellations := entries },
        .hook { task with pc := .publish answer }, []⟩ := by
  have settles : (Thread.hook task).settles = [(task.id, task.attempt)] := by
    obtain ⟨id, attempt, kindId, flight, pc⟩ := task
    cases concluding
    rfl
  refine ⟨.inl ?_, ?_, ?_, .inl ?_, ?_, ?_, fun _ => rfl, ?_, ?_,
    fun _ _ found => .inl found⟩
  · simp [threads, Thread.unpublished, HookPc.unpublished, concluding]
  · intro token member
    right
    obtain rfl : token = (task.flight, (task.id, task.attempt)) := by
      simpa [Thread.carries, HookPc.unsettled, concluding] using member
    rw [settles]
    exact mem_singleton_self _
  · intro token member
    simp [threads, Thread.carries, HookPc.unsettled] at member
  · simp [threads, Thread.engaged, HookPc.engaged]
  · intro key
    by_cases own : key = (task.id, task.attempt)
    · right
      left
      rw [settles, own]
      exact mem_singleton_self _
    · exact .inl (others key own)
  · intro key member
    rw [settles] at member
    obtain rfl := mem_singleton.mp member
    exact settled
  · intro other same reporting
    cases same
    rw [concluding] at reporting
    cases reporting
    exact ⟨rfl, success rfl⟩
  · intro key member
    cases answer with
    | success =>
      refine ⟨task, rfl, concluding, ?_⟩
      simpa [threads, Thread.announces] using member
    | alreadyTerminal | hookFailed | serviceFailed =>
      simp [threads, Thread.announces] at member

theorem hook_publishes_flight {task : HookTask} {answer : ExternalCancelResult} {latched : Core σ}
    (publishing : task.pc = .publish answer) (same : core.SameCells latched) :
    FlightStep core (.hook task)
      { core :=
          { latched with
            flights :=
              latched.flights.modify task.flight fun cell => { cell with result := some answer } }
        thread := .hook { task with pc := .exit } } := by
  have idle : (Thread.hook task).settles = [] := by
    obtain ⟨id, attempt, kindId, flight, pc⟩ := task
    cases publishing
    rfl
  refine ⟨.inl (nil_sublist _), ?_, (forall_mem_nil _),
    .inl (nil_sublist _), ?_, ?_, fun _ => rfl, ?_, (forall_mem_nil _), ?_⟩
  · intro token member
    simp [Thread.carries, HookPc.unsettled, publishing] at member
  · intro key
    rw [same.entries]
    exact .inl rfl
  · rw [idle]
    exact forall_mem_nil _
  · intro other equal concluding
    cases equal
    rw [publishing] at concluding
    cases concluding
  · intro flight cell found
    by_cases own : task.flight = flight
    · exact .inr ⟨task, answer, rfl, publishing, own, rfl⟩
    · left
      simp only [same.flights, List.getElem?_modify, if_neg own, found]
      rfl

theorem hook_exits_flight {task : HookTask} {after : Core σ} (leaving : task.pc = .exit)
    (same : core.SameCells after) :
    FlightStep core (.hook task) ⟨after, .hook { task with pc := .done }, []⟩ := by
  obtain ⟨id, attempt, kindId, flight, pc⟩ := task
  cases leaving
  apply flight_step_aloof same.entries same.flights rfl rfl
  intro other member
  rw [mem_singleton.mp member]
  exact ⟨rfl, rfl, rfl, rfl⟩

theorem hook_flight_step (task : HookTask) (stepped : task.step config core input = some result) :
    FlightStep core (.hook task) result := by
  obtain ⟨id, attempt, kindId, flight, pc⟩ := task
  cases hook_step_cases _ stepped with
  | loads =>
    refine hook_reading_flight _ _ rfl (fun _ same => by cases same) ?_ (.inl rfl)
    intro summary
    split <;> rfl
  | reloads =>
    refine hook_reading_flight _ _ rfl (fun _ same => by cases same) ?_ (.inr rfl)
    intro summary
    split <;> rfl
  | failureLoads message =>
    exact hook_reading_flight _ _ rfl (fun _ same => by cases same) (fun _ => rfl) (.inr rfl)
  | persists | clears | failureRecords =>
    exact hook_writing_flight _ _ _ rfl (fun _ same => by cases same) rfl rfl
  | unavailable | interrupted | invokes | returns | fails =>
    exact @hook_passes_flight σ _ core ⟨id, attempt, kindId, flight, _⟩ _ _ core.same_cells_refl
      rfl rfl (fun _ same => by cases same) (fun _ => .inl rfl)
  | concludes answer =>
    apply @hook_concludes_flight σ _ core ⟨id, attempt, kindId, flight, .conclude answer⟩ _ _ rfl
    · intro key other
      cases answer with
      | success => simp only [Table.lookup_insert_eq, if_neg other]
      | alreadyTerminal | hookFailed | serviceFailed =>
        simp only [Table.lookup_erase_eq, if_neg other]
    · intro landed entered
      cases answer <;> simp at entered
    · rintro rfl
      simp
  | publishes answer latched latches =>
    refine @hook_publishes_flight σ _ core ⟨id, attempt, kindId, flight, .publish answer⟩ _ _
      rfl ?_
    subst latches
    cases answer with
    | serviceFailed message => exact core.same_cells_latch message
    | _ => exact core.same_cells_refl
  | exits =>
    exact @hook_exits_flight σ _ core ⟨id, attempt, kindId, flight, .exit⟩ _ rfl
      (Core.same_cells_of_eq rfl rfl rfl rfl rfl)

theorem run_passes_flight {task : RunTask} {after : Core σ} {pc : RunPc}
    (entries : after.externalCancellations = core.externalCancellations)
    (flights : after.flights = core.flights) (settles : (Thread.run task).settles = []) :
    FlightStep core (.run task) ⟨after, .run { task with pc := pc }, []⟩ := by
  apply flight_step_aloof entries flights rfl settles
  intro other member
  rw [mem_singleton.mp member]
  exact bystander_aloof rfl

theorem run_clears_flight {started : TaskSummary} {completion : Completion} {pc : RunPc} :
    FlightStep core (.run { started := started, pc := .clearEntry completion })
      { core :=
          { core with
            externalCancellations :=
              core.externalCancellations.erase (started.id, started.attempt) }
        thread := .run { started := started, pc := pc } } := by
  refine ⟨.inl (nil_sublist _), (forall_mem_nil _),
    (forall_mem_nil _), .inl (nil_sublist _), ?_, ?_, fun _ => rfl,
    (fun _ same => by cases same), (forall_mem_nil _),
    fun _ _ found => .inl found⟩
  · intro key
    by_cases own : key = (started.id, started.attempt)
    · right
      left
      rw [own]
      exact mem_singleton_self _
    · left
      simp only [Table.lookup_erase_eq, if_neg own]
  · intro key member flight entered
    obtain rfl := mem_singleton.mp member
    simp at entered

theorem run_flight_step (task : RunTask) (stepped : task.step config core input = some result) :
    FlightStep core (.run task) result := by
  obtain ⟨started, pc⟩ := task
  cases run_step_cases _ stepped with
  | clears completion => exact run_clears_flight
  | wrote called | lost called | unwritten called =>
    exact @run_passes_flight σ _ core ⟨started, _⟩ _ _ (call_write_cells called).entries
      (call_write_cells called).flights rfl
  | contests completion version =>
    have same := core.same_cells_competing input started.id version
    exact @run_passes_flight σ _ core ⟨started, _⟩ _ _ same.entries same.flights rfl
  | _ => exact @run_passes_flight σ _ core ⟨started, _⟩ _ _ rfl rfl rfl

theorem thread_flight_step (stepped : thread.step config core input = some result) :
    FlightStep core thread result := by
  cases thread with
  | cancel call => exact cancel_flight_step call stepped
  | hook task => exact hook_flight_step task stepped
  | run task => exact run_flight_step task stepped
  | _ =>
    obtain ⟨same, plain⟩ := same_cells_step rfl (fun _ other => by cases other) stepped
    apply flight_step_aloof same.entries same.flights rfl rfl
    exact fun next among =>
      bystander_aloof (plain_bystander (all_eq_true.mp plain next among))

theorem drop_flight_step (left : Dropped core thread input result) :
    FlightStep core thread result := by
  have same := drop_same_cells left
  have droppable : thread.carries = [] ∧ thread.settles = [] := by
    obtain ⟨after, dropped⟩ := left.dropped
    cases thread with
    | cancel call =>
      obtain ⟨id, pc⟩ := call
      cases pc <;> first | exact ⟨rfl, rfl⟩ | cases dropped
    | hook task | run task => cases dropped
    | _ => exact ⟨rfl, rfl⟩
  apply flight_step_aloof same.entries same.flights droppable.1 droppable.2
  exact fun next among => bystander_aloof (all_eq_true.mp (drop_bystanders left) next among)

end Threads

end TaskService.Service
