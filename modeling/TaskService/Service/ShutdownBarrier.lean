import TaskService.Service.ThreadConduct

/-!
# The shutdown barrier

The supervisor passes its waits in order.  Behind each of them one kind of
writer is gone for good: admitted client calls behind the admission lock, the
scheduler behind its stop flag, attempts and flights behind the in-flight
counter, and the notification worker behind its exit.
-/

namespace TaskService.Service

open Library Model Store List

def SupervisorPc.rank : SupervisorPc → Nat
  | .waitRequest => 0
  | .lockAdmission => 1
  | .unlockAdmission => 2
  | .waitScheduler => 3
  | .waitActive => 4
  | .closePublisher => 5
  | .joinPublisher => 6
  | .awaitAbort => 7
  | .release => 8
  | .waitRetry => 9
  | .stopped => 10

def Released (trace : List Event) : Prop :=
  ∃ later earlier, trace = later ++ .releaseIssued :: earlier ∧ Event.restarted ∉ later

def QuietAfterRelease (trace : List Event) : Prop :=
  ∀ later earlier, trace = later ++ .releaseIssued :: earlier → Event.restarted ∉ later →
    ∀ kind, Event.issued kind ∉ later

theorem released_cons {event : Event} {trace : List Event} (released : Released (event :: trace)) :
    event = .releaseIssued ∨ (event ≠ .restarted ∧ Released trace) := by
  obtain ⟨later, earlier, split, current⟩ := released
  cases later with
  | nil =>
    left
    exact (List.cons.inj split).1
  | cons head later =>
    obtain ⟨rfl, rest⟩ := List.cons.inj split
    right
    refine ⟨?_, later, earlier, rest, ?_⟩
    · rintro rfl
      exact current mem_cons_self
    · exact fun member => current (mem_cons_of_mem _ member)

theorem quiet_cons {event : Event} {trace : List Event} (quiet : QuietAfterRelease trace)
    (silent : ∀ kind, event = .issued kind → ¬ Released trace) :
    QuietAfterRelease (event :: trace) := by
  intro later earlier split current kind member
  cases later with
  | nil => cases member
  | cons head later =>
    obtain ⟨rfl, rest⟩ := List.cons.inj split
    have currentRest : Event.restarted ∉ later :=
      fun inside => current (mem_cons_of_mem _ inside)
    rcases mem_cons.mp member with same | inside
    · exact silent kind same.symm ⟨later, earlier, rest, currentRest⟩
    · exact quiet later earlier rest currentRest kind inside

variable {σ : Type}

structure Passed (rank : Nat) (system : System σ) : Prop where
  requested : 1 ≤ rank → system.core.ready = true ∧ system.core.shuttingDown = true
  fenced : 2 ≤ rank → ∀ thread ∈ system.threads, thread.admitted = false
  drained : 4 ≤ rank → ∀ pc, Thread.scheduler pc ∈ system.threads → pc = .stopped
  landed : 5 ≤ rank → ∀ thread ∈ system.threads, thread.flights = 0
  closed : 8 ≤ rank → ∀ pc, Thread.publisher pc ∈ system.threads →
    pc = .exited ∨ (pc = .idle ∧ system.config.publisherConfigured = false)

structure Barrier (system : System σ) : Prop where
  staff : Staff system
  readers : system.core.admissionReaders = (system.threads.map Thread.guards).sum
  inFlight : system.core.inFlight = (system.threads.map Thread.flights).sum
  stopped : system.core.schedulerStopped = true →
    ∀ pc, Thread.scheduler pc ∈ system.threads → pc = .stopped
  exited : system.core.publisherExited = true →
    ∀ pc, Thread.publisher pc ∈ system.threads → pc = .exited
  unconfigured : system.config.publisherConfigured = false →
    ∀ pc, Thread.publisher pc ∈ system.threads → pc = .idle
  passed : ∀ pc, Thread.supervisor pc ∈ system.threads → Passed pc.rank system
  released : Released system.core.trace →
    ∃ pc, Thread.supervisor pc ∈ system.threads ∧ 8 ≤ pc.rank
  quiet : QuietAfterRelease system.core.trace

theorem guards_of_admitted {thread : Thread} (admitted : thread.admitted = true) :
    thread.guards = 1 := by
  unfold Thread.admitted at admitted
  split at admitted
  · rename_i call
    obtain ⟨encoded, pc⟩ := call
    cases pc <;> first | rfl | cases admitted
  · rename_i call
    obtain ⟨id, pc⟩ := call
    cases pc <;> first | rfl | cases admitted
  · rename_i call
    obtain ⟨id, version, pc⟩ := call
    cases pc <;> first | rfl | cases admitted
  · cases admitted

theorem flights_cases (thread : Thread) : thread.flights = 0 ∨ thread.flights = 1 := by
  unfold Thread.flights
  split <;> first | exact .inl rfl | exact .inr rfl

theorem writes_cases {thread : Thread} {kind : WriteKind} (writes : thread.writes = some kind) :
    thread.admitted = true ∨ thread.flights = 1 ∨
      (∃ pc, thread = .scheduler pc ∧ pc ≠ .stopped) ∨
      (∃ pc, thread = .publisher pc ∧ pc ≠ .exited ∧ pc ≠ .idle) ∨
      ∃ pc, thread = .starter pc := by
  unfold Thread.writes at writes
  split at writes
  · exact .inl rfl
  · exact .inl rfl
  · exact .inl rfl
  · exact .inl rfl
  · exact .inr (.inl rfl)
  · exact .inr (.inl rfl)
  · exact .inr (.inl rfl)
  · exact .inr (.inl rfl)
  · exact .inr (.inr (.inl ⟨_, rfl, fun same => by cases same⟩))
  · exact .inr (.inr (.inl ⟨_, rfl, fun same => by cases same⟩))
  · refine .inr (.inr (.inr (.inl ⟨_, rfl, ?_, ?_⟩))) <;> simp
  · refine .inr (.inr (.inr (.inl ⟨_, rfl, ?_, ?_⟩))) <;> simp
  · exact .inr (.inr (.inr (.inr ⟨_, rfl⟩)))
  · cases writes

theorem no_writer_after_release {system : System σ} (barrier : Barrier system) {thread : Thread}
    {kind : WriteKind} (member : thread ∈ system.threads) (writes : thread.writes = some kind) :
    ¬ Released system.core.trace := by
  intro released
  obtain ⟨pc, supervising, far⟩ := barrier.released released
  have passed := barrier.passed pc supervising
  rcases writes_cases writes with
    admitted | flying | ⟨scheduler, rfl, live⟩ | ⟨worker, rfl, live, busy⟩ | ⟨starter, rfl⟩
  · rw [passed.fenced (by omega) thread member] at admitted
    cases admitted
  · rw [passed.landed (by omega) thread member] at flying
    cases flying
  · exact live (passed.drained (by omega) scheduler member)
  · rcases passed.closed (by omega) worker member with gone | ⟨idle, -⟩
    · exact live gone
    · exact busy idle
  · exact barrier.staff.recovered (passed.requested (by omega)).1 starter member

/-- A thread that is at its end, or a worker that is not configured, never moves. -/
structure Mobile (config : Config) (thread : Thread) : Prop where
  scheduler : thread ≠ .scheduler .stopped
  publisher : thread ≠ .publisher .exited
  worker : config.publisherConfigured = false → thread ≠ .publisher .idle

theorem step_mobile [TaskStore σ] {config : Config} {core : Core σ} {input : Input}
    {thread : Thread} {result : Step σ} (stepped : thread.step config core input = some result) :
    Mobile config thread := by
  refine ⟨?_, ?_, ?_⟩
  · rintro rfl
    cases stepped
  · rintro rfl
    cases stepped
  · rintro unconfigured rfl
    simp [Thread.step, PublisherPc.step, unconfigured] at stepped

theorem dropped_mobile (config : Config) {core after : Core σ} {thread : Thread}
    (dropped : thread.dropped core = some after) : Mobile config thread := by
  refine ⟨?_, ?_, fun _ => ?_⟩
  all_goals
    rintro rfl
    cases dropped

section Moved

variable {system : System σ} {index : Nat} {thread : Thread} {result : Step σ}

theorem passed_moved {rank : Nat} (passed : Passed rank system)
    (lookup : system.threads[index]? = some thread) (conduct : Conduct system.core thread result)
    (mobile : Mobile system.config thread) : Passed rank (system.moved index result) := by
  have member := mem_of_getElem? lookup
  refine ⟨?_, ?_, ?_, ?_, ?_⟩
  · intro far
    obtain ⟨ready, shutting⟩ := passed.requested far
    refine ⟨?_, conduct.shutting shutting⟩
    rcases conduct.ready with same | ⟨_, opened, _⟩
    · exact same.trans ready
    · exact opened
  · intro far other present
    rcases mem_advance_or_mem present with new | old
    · by_contra admitted
      rcases conduct.admitted other new (by simpa using admitted) with before | open_
      · rw [passed.fenced far thread member] at before
        cases before
      · rw [(passed.requested (by omega)).2] at open_
        cases open_
    · exact passed.fenced far other old
  · intro far pc present
    rcases mem_advance_or_mem present with new | old
    · obtain ⟨before, rfl⟩ := scheduler_source conduct new
      rw [passed.drained far before member] at mobile
      exact (mobile.scheduler rfl).elim
    · exact passed.drained far pc old
  · intro far other present
    rcases mem_advance_or_mem present with new | old
    · rcases flights_cases other with grounded | flying
      · exact grounded
      · rcases conduct.live other new flying with before | admitted | ⟨scan, running, rfl⟩
        · rw [passed.landed far thread member] at before
          cases before
        · rw [passed.fenced (by omega) thread member] at admitted
          cases admitted
        · cases passed.drained (by omega) _ member
    · exact passed.landed far other old
  · intro far pc present
    rcases mem_advance_or_mem present with new | old
    · obtain ⟨before, rfl⟩ := publisher_source conduct new
      rcases passed.closed far before member with gone | ⟨idle, unconfigured⟩
      · rw [gone] at mobile
        exact (mobile.publisher rfl).elim
      · rw [idle] at mobile
        exact (mobile.worker unconfigured rfl).elim
    · exact passed.closed far pc old

/-- What a step of the supervisor owes: that it has passed what its new counter
stands for, and that a released supervisor stays so. -/
def Advances (system : System σ) (index : Nat) (thread : Thread) (result : Step σ) : Prop :=
  ∀ before, thread = .supervisor before →
    ∃ after, result.thread = .supervisor after ∧ result.spawned = [] ∧
      (Passed before.rank (system.moved index result) →
        Passed after.rank (system.moved index result)) ∧
      (8 ≤ before.rank → 8 ≤ after.rank)

theorem emission_released (emission : Emission system.core thread result)
    (released : Released result.core.trace) :
    Released system.core.trace ∨ ∃ pc, thread = .supervisor pc ∧ 8 ≤ pc.rank := by
  have skip : ∀ {event : Event} {trace : List Event}, event ≠ .releaseIssued →
      Released (event :: trace) → Released trace := by
    intro event trace other both
    rcases released_cons both with same | ⟨-, before⟩
    · exact (other same).elim
    · exact before
  cases emission with
  | silent trace =>
    rw [trace] at released
    exact .inl released
  | issued kind writes trace | returned call outcome place trace =>
    rw [trace] at released
    exact .inl (skip (by simp) released)
  | started scan summary running place trace | cancelled call summary place at_ trace =>
    rw [trace] at released
    exact .inl (skip (by simp) (skip (by simp) released))
  | released pc place releasing trace =>
    right
    refine ⟨pc, place, ?_⟩
    rcases releasing with rfl | rfl <;> decide

theorem emission_quiet (emission : Emission system.core thread result)
    (quiet : QuietAfterRelease system.core.trace)
    (silenced : ∀ kind, thread.writes = some kind → ¬ Released system.core.trace) :
    QuietAfterRelease result.core.trace := by
  cases emission with
  | silent trace =>
    rw [trace]
    exact quiet
  | issued kind writes trace =>
    rw [trace]
    exact quiet_cons quiet fun _ _ => silenced kind writes
  | started scan summary running place trace =>
    have writes : thread.writes = some .start := by rw [place]; rfl
    rw [trace]
    apply quiet_cons
    · exact quiet_cons quiet fun _ _ => silenced .start writes
    · intro kind same
      cases same
  | cancelled call summary place at_ trace =>
    have writes : thread.writes = some .transition := by
      obtain ⟨id, pc⟩ := call
      cases at_
      rw [place]
      rfl
    rw [trace]
    apply quiet_cons
    · exact quiet_cons quiet fun _ _ => silenced .transition writes
    · intro kind same
      cases same
  | returned call outcome place trace | released pc place releasing trace =>
    rw [trace]
    apply quiet_cons quiet
    intro kind same
    cases same

section

variable (barrier : Barrier system) (lookup : system.threads[index]? = some thread)
  (conduct : Conduct system.core thread result) (mobile : Mobile system.config thread)
include barrier lookup conduct mobile

theorem stopped_moved (stopped : result.core.schedulerStopped = true) (pc : SchedulerPc)
    (present : Thread.scheduler pc ∈ (system.moved index result).threads) : pc = .stopped := by
  have member := mem_of_getElem? lookup
  rcases conduct.stopped stopped with before | last
  · rcases mem_advance_or_mem present with new | old
    · obtain ⟨earlier, rfl⟩ := scheduler_source conduct new
      rw [barrier.stopped before earlier member] at mobile
      exact (mobile.scheduler rfl).elim
    · exact barrier.stopped before pc old
  · obtain ⟨position, found⟩ := mem_iff_getElem?.mp present
    have lastAt : (system.moved index result).threads[index]? = some (.scheduler .stopped) := by
      rw [← last]
      exact advance_self lookup
    have same := (staff_moved barrier.staff lookup conduct).alone found lastAt
      (mem_singleton_self Role.scheduler) (mem_singleton_self Role.scheduler)
    rw [same, lastAt] at found
    cases found
    rfl

theorem exited_moved (exited : result.core.publisherExited = true) (pc : PublisherPc)
    (present : Thread.publisher pc ∈ (system.moved index result).threads) : pc = .exited := by
  have member := mem_of_getElem? lookup
  rcases conduct.exited exited with before | last
  · rcases mem_advance_or_mem present with new | old
    · obtain ⟨earlier, rfl⟩ := publisher_source conduct new
      rw [barrier.exited before earlier member] at mobile
      exact (mobile.publisher rfl).elim
    · exact barrier.exited before pc old
  · obtain ⟨position, found⟩ := mem_iff_getElem?.mp present
    have lastAt : (system.moved index result).threads[index]? = some (.publisher .exited) := by
      rw [← last]
      exact advance_self lookup
    have same := (staff_moved barrier.staff lookup conduct).alone found lastAt
      (mem_singleton_self Role.publisher) (mem_singleton_self Role.publisher)
    rw [same, lastAt] at found
    cases found
    rfl

theorem barrier_moved (advances : Advances system index thread result) :
    Barrier (system.moved index result) := by
  have member := mem_of_getElem? lookup
  have self : result.thread ∈ (system.moved index result).threads :=
    mem_of_getElem? (advance_self lookup)
  refine ⟨staff_moved barrier.staff lookup conduct, ?_, ?_,
    stopped_moved barrier lookup conduct mobile, exited_moved barrier lookup conduct mobile, ?_, ?_,
    ?_, ?_⟩
  · have total := sum_advance Thread.guards result.thread result.spawned lookup
    have held := weight_le_sum Thread.guards lookup
    rw [← barrier.readers] at held
    have step := conduct.guards held
    have before := barrier.readers
    change result.core.admissionReaders = (List.map _ (advance _ _ _ _)).sum
    change _ = _ + (List.map _ (result.thread :: result.spawned)).sum at step
    omega
  · have total := sum_advance Thread.flights result.thread result.spawned lookup
    have held := weight_le_sum Thread.flights lookup
    rw [← barrier.inFlight] at held
    have step := conduct.flights held
    have before := barrier.inFlight
    change result.core.inFlight = (List.map _ (advance _ _ _ _)).sum
    change _ = _ + (List.map _ (result.thread :: result.spawned)).sum at step
    omega
  · intro unconfigured pc present
    rcases mem_advance_or_mem present with new | old
    · obtain ⟨earlier, rfl⟩ := publisher_source conduct new
      rw [barrier.unconfigured unconfigured earlier member] at mobile
      exact (mobile.worker unconfigured rfl).elim
    · exact barrier.unconfigured unconfigured pc old
  · intro pc present
    rcases mem_advance_or_mem present with new | old
    · obtain ⟨before, rfl⟩ := supervisor_source conduct new
      obtain ⟨after, next, alone, raises, -⟩ := advances before rfl
      rw [alone, next, mem_singleton] at new
      cases new
      exact raises (passed_moved (barrier.passed before member) lookup conduct mobile)
    · exact passed_moved (barrier.passed pc old) lookup conduct mobile
  · intro released
    rcases emission_released conduct.emission released with earlier | ⟨pc, place, far⟩
    · obtain ⟨pc, supervising, far⟩ := barrier.released earlier
      obtain ⟨position, found⟩ := mem_iff_getElem?.mp supervising
      by_cases same : position = index
      · rw [same, lookup] at found
        obtain ⟨after, next, -, -, further⟩ := advances pc (Option.some.inj found)
        exact ⟨after, next ▸ self, further far⟩
      · exact ⟨pc, mem_of_getElem? (advance_other same found), far⟩
    · obtain ⟨after, next, -, -, further⟩ := advances pc place
      exact ⟨after, next ▸ self, further far⟩
  · exact emission_quiet conduct.emission barrier.quiet
      fun _ writes => no_writer_after_release barrier member writes

end

theorem unadmitted_of_no_readers (barrier : Barrier system)
    (free : system.core.admissionReaders = 0) {other : Thread} (member : other ∈ system.threads) :
    other.admitted = false := by
  by_contra admitted
  have one := guards_of_admitted (by simpa using admitted)
  obtain ⟨position, found⟩ := mem_iff_getElem?.mp member
  have bound := weight_le_sum Thread.guards found
  rw [← barrier.readers, free, one] at bound
  omega

theorem grounded_of_no_flights (barrier : Barrier system) (idle : system.core.inFlight = 0)
    {other : Thread} (member : other ∈ system.threads) : other.flights = 0 := by
  obtain ⟨position, found⟩ := mem_iff_getElem?.mp member
  have bound := weight_le_sum Thread.flights found
  rw [← barrier.inFlight, idle] at bound
  omega

theorem Passed.raise {low high : Nat} {final : System σ} (passed : Passed low final)
    (requested : (high < 1 ∨ 1 ≤ low) ∨
      (final.core.ready = true ∧ final.core.shuttingDown = true))
    (fenced : (high < 2 ∨ 2 ≤ low) ∨ ∀ thread ∈ final.threads, thread.admitted = false)
    (drained : (high < 4 ∨ 4 ≤ low) ∨
      ∀ pc, Thread.scheduler pc ∈ final.threads → pc = .stopped)
    (landed : (high < 5 ∨ 5 ≤ low) ∨ ∀ thread ∈ final.threads, thread.flights = 0)
    (closed : (high < 8 ∨ 8 ≤ low) ∨ ∀ pc, Thread.publisher pc ∈ final.threads →
      pc = .exited ∨ (pc = .idle ∧ final.config.publisherConfigured = false)) :
    Passed high final := by
  have settle : ∀ {bound : Nat} {goal : Prop}, ((high < bound ∨ bound ≤ low) ∨ goal) →
      (bound ≤ low → goal) → bound ≤ high → goal := by
    intro bound goal given old far
    rcases given with (short | reached) | new
    · omega
    · exact old reached
    · exact new
  exact ⟨settle requested passed.requested, settle fenced passed.fenced,
    settle drained passed.drained, settle landed passed.landed, settle closed passed.closed⟩

theorem others_after_supervisor {after : SupervisorPc} {core : Core σ} {other : Thread}
    (member : other ∈
      (system.moved index ⟨core, .supervisor after, []⟩).threads) :
    other = .supervisor after ∨ other ∈ system.threads := by
  rcases mem_advance_or_mem member with new | old
  · exact .inl (mem_singleton.mp new)
  · exact .inr old

theorem advances_to {before after : SupervisorPc} {core : Core σ}
    (raises : Passed before.rank (system.moved index ⟨core, .supervisor after, []⟩) →
      Passed after.rank (system.moved index ⟨core, .supervisor after, []⟩))
    (further : 8 ≤ before.rank → 8 ≤ after.rank) :
    Advances system index (.supervisor before) ⟨core, .supervisor after, []⟩ := by
  intro same equal
  cases equal
  exact ⟨after, rfl, rfl, raises, further⟩

theorem advances_released {before : SupervisorPc} {core : Core σ} (drained : 5 ≤ before.rank)
    (gone : ∀ pc, Thread.publisher pc ∈ system.threads →
      pc = .exited ∨ (pc = .idle ∧ system.config.publisherConfigured = false)) :
    Advances system index (.supervisor before) ⟨core, .supervisor .release, []⟩ := by
  refine advances_to ?_ (fun _ => by decide)
  intro passed
  refine passed.raise (.inl (.inr (by omega))) (.inl (.inr (by omega)))
    (.inl (.inr (by omega))) (.inl (.inr drained)) (.inr ?_)
  intro pc present
  rcases others_after_supervisor present with same | old
  · cases same
  · exact gone pc old

theorem supervisor_advances {input : Input} {before : SupervisorPc} (barrier : Barrier system)
    (stepped : before.step system.config system.core input = some result) :
    Advances system index (.supervisor before) result := by
  obtain ⟨after, next, rfl, step⟩ := supervisor_step_cases before stepped
  cases step with
  | asked ready shutting =>
    refine advances_to ?_ (by decide)
    intro passed
    exact passed.raise (.inr ⟨ready, shutting⟩) (.inl (by decide)) (.inl (by decide))
      (.inl (by decide)) (.inl (by decide))
  | locks readers writer =>
    refine advances_to ?_ (by decide)
    intro passed
    refine passed.raise (.inl (by decide)) (.inr ?_) (.inl (by decide))
      (.inl (by decide)) (.inl (by decide))
    intro other present
    rcases others_after_supervisor present with rfl | old
    · rfl
    · exact unadmitted_of_no_readers barrier readers old
  | schedulerGone stopped =>
    refine advances_to ?_ (by decide)
    intro passed
    refine passed.raise (.inl (by decide)) (.inl (by decide)) (.inr ?_)
      (.inl (by decide)) (.inl (by decide))
    intro pc present
    rcases others_after_supervisor present with same | old
    · cases same
    · exact barrier.stopped stopped pc old
  | landed idle =>
    refine advances_to ?_ (by decide)
    intro passed
    refine passed.raise (.inl (by decide)) (.inl (by decide)) (.inl (by decide))
      (.inr ?_) (.inl (by decide))
    intro other present
    rcases others_after_supervisor present with rfl | old
    · rfl
    · exact grounded_of_no_flights barrier idle old
  | unpublished unconfigured =>
    exact advances_released (by decide) fun pc old =>
      .inr ⟨barrier.unconfigured unconfigured pc old, unconfigured⟩
  | joins exited | aborted exited =>
    exact advances_released (by decide) fun pc old => .inl (barrier.exited exited pc old)
  | _ =>
    exact advances_to (fun passed => passed.raise (.inl (by decide)) (.inl (by decide))
      (.inl (by decide)) (.inl (by decide)) (.inl (by decide))) (by decide)

end Moved

section Run

theorem barrier_call (barrier : Barrier system) (call : ClientCall)
    (ready : system.core.ready = true) :
    Barrier { system with threads := system.threads ++ [call.thread] } := by
  have plain : call.thread.roles = [] ∧ call.thread.guards = 0 ∧ call.thread.flights = 0 ∧
      call.thread.admitted = false := by
    cases call <;> exact ⟨rfl, rfl, rfl, rfl⟩
  obtain ⟨roles, guards, flights, unadmitted⟩ := plain
  have old : ∀ thread, thread.roles ≠ [] → thread ∈ system.threads ++ [call.thread] →
      thread ∈ system.threads := by
    intro thread plays member
    rcases mem_append.mp member with inside | new
    · exact inside
    · rw [mem_singleton.mp new] at plays
      exact (plays roles).elim
  refine ⟨staff_call barrier.staff call ready, ?_, ?_, ?_, ?_, ?_, ?_, ?_, barrier.quiet⟩
  · simpa [guards] using barrier.readers
  · simpa [flights] using barrier.inFlight
  · exact fun stopped pc member => barrier.stopped stopped pc
      (old _ (by simp [Thread.roles]) member)
  · exact fun exited pc member => barrier.exited exited pc (old _ (by simp [Thread.roles]) member)
  · exact fun off pc member => barrier.unconfigured off pc (old _ (by simp [Thread.roles]) member)
  · intro pc member
    have passed := barrier.passed pc (old _ (by simp [Thread.roles]) member)
    refine ⟨passed.requested, ?_, ?_, ?_, ?_⟩
    · intro far thread inside
      rcases mem_append.mp inside with before | new
      · exact passed.fenced far thread before
      · rw [mem_singleton.mp new]
        exact unadmitted
    · exact fun far other inside => passed.drained far other (old _ (by simp [Thread.roles]) inside)
    · intro far thread inside
      rcases mem_append.mp inside with before | new
      · exact passed.landed far thread before
      · rw [mem_singleton.mp new]
        exact flights
    · exact fun far other inside => passed.closed far other (old _ (by simp [Thread.roles]) inside)
  · intro released
    obtain ⟨pc, supervising, far⟩ := barrier.released released
    exact ⟨pc, mem_append_left _ supervising, far⟩

variable [TaskStore σ] {system next : System σ}

omit [TaskStore σ] in
theorem barrier_fresh (staff : Staff next) {rest : List Thread}
    (threads : next.threads = bootThreads ++ rest)
    (detached : ∀ thread ∈ rest, ∃ write, thread = .detached write)
    (readers : next.core.admissionReaders = 0) (inFlight : next.core.inFlight = 0)
    (stopped : next.core.schedulerStopped = false)
    (exited : next.core.publisherExited = false) (unreleased : ¬ Released next.core.trace)
    (quiet : QuietAfterRelease next.core.trace) : Barrier next := by
  have noGuards : (rest.map Thread.guards).sum = 0 ∧ (rest.map Thread.flights).sum = 0 := by
    refine ⟨sum_eq_zero ?_, sum_eq_zero ?_⟩
    all_goals
      intro weight member
      obtain ⟨thread, inside, rfl⟩ := mem_map.mp member
      obtain ⟨write, rfl⟩ := detached thread inside
      rfl
  have kinds : ∀ thread ∈ next.threads,
      thread ∈ bootThreads ∨ ∃ write, thread = .detached write := by
    intro thread member
    rw [threads] at member
    exact (mem_append.mp member).imp id (detached thread)
  refine ⟨staff, ?_, ?_, ?_, ?_, ?_, ?_, fun released => (unreleased released).elim, quiet⟩
  · rw [readers, threads, map_append, sum_append, noGuards.1]
    rfl
  · rw [inFlight, threads, map_append, sum_append, noGuards.2]
    rfl
  · intro on
    rw [stopped] at on
    cases on
  · intro on
    rw [exited] at on
    cases on
  · intro _ pc member
    rcases kinds _ member with booted | ⟨write, same⟩
    · simpa [bootThreads] using booted
    · cases same
  · intro pc member
    rcases kinds _ member with booted | ⟨write, same⟩
    · obtain rfl : pc = .waitRequest := by simpa [bootThreads] using booted
      have low : SupervisorPc.waitRequest.rank = 0 := rfl
      exact ⟨fun far => by omega, fun far => by omega, fun far => by omega, fun far => by omega,
        fun far => by omega⟩
    · cases same

omit [TaskStore σ] in
theorem barrier_boot {config : Config} {store : σ} {knownIds : List TaskId} :
    Barrier (System.boot config store knownIds) := by
  apply barrier_fresh (staff_boot) (append_nil _).symm
    (forall_mem_nil _) rfl rfl rfl rfl
  · rintro ⟨later, earlier, split, -⟩
    exact cons_ne_nil _ _ (append_eq_nil_iff.mp split.symm).2
  · intro later earlier split
    exact (cons_ne_nil _ _ (append_eq_nil_iff.mp split.symm).2).elim

omit [TaskStore σ] in
theorem barrier_restart (barrier : Barrier system) (config : Config) :
    Barrier (system.restarted config) := by
  apply barrier_fresh (staff_restart system _ rfl rfl) rfl (fun _ member => detached_of_kept member)
    rfl rfl rfl rfl
  · intro released
    rcases released_cons released with same | ⟨current, -⟩
    · cases same
    · exact current rfl
  · apply quiet_cons barrier.quiet
    intro kind same
    cases same

omit [TaskStore σ] in
theorem barrier_core (barrier : Barrier system) {core : Core σ} (framed : system.core.Framed core)
    (readers : core.admissionReaders = system.core.admissionReaders)
    (trace : core.trace = system.core.trace) : Barrier (system.withCore core) := by
  refine ⟨staff_core barrier.staff framed.ready, readers.trans barrier.readers,
    framed.inFlight.trans barrier.inFlight, ?_, ?_, barrier.unconfigured, ?_, ?_, ?_⟩
  · exact fun stopped => barrier.stopped (framed.stopped.symm.trans stopped)
  · exact fun exited => barrier.exited (framed.exited.symm.trans exited)
  · intro pc member
    have passed := barrier.passed pc member
    refine ⟨?_, passed.fenced, passed.drained, passed.landed, passed.closed⟩
    intro far
    obtain ⟨ready, shutting⟩ := passed.requested far
    exact ⟨framed.ready.trans ready, framed.shutting shutting⟩
  · intro released
    change Released core.trace at released
    rw [trace] at released
    exact barrier.released released
  · change QuietAfterRelease core.trace
    rw [trace]
    exact barrier.quiet

theorem barrier_step {action : Action} (barrier : Barrier system)
    (taken : system.step action = some next) : Barrier next := by
  cases step_move taken with
  | stepped lookup stepped =>
    apply barrier_moved barrier lookup (thread_conduct stepped) (step_mobile stepped)
    intro before same
    subst same
    exact supervisor_advances barrier stepped before rfl
  | dropped lookup left =>
    obtain ⟨after, dropped⟩ := left.dropped
    apply barrier_moved barrier lookup (drop_conduct left) (dropped_mobile system.config dropped)
    rintro before rfl
    cases dropped
  | call call ready => exact barrier_call barrier call ready
  | flags keeps =>
    exact barrier_core barrier ⟨rfl, rfl, keeps, rfl, rfl⟩ rfl rfl
  | progress | prune =>
    exact barrier_core barrier ⟨rfl, rfl, id, rfl, rfl⟩ rfl rfl
  | restart config => exact barrier_restart barrier config

/-- After the supervisor has issued the release of the store's ownership, the
service issues no lifecycle write and no outbox write. -/
theorem shutdown_barrier (config : Config) (store : σ) (knownIds : List TaskId)
    (actions : List Action) (final : System σ)
    (reached : runActions System.step (System.boot config store knownIds) actions = some final)
    (later earlier : List Event) (split : final.core.trace = later ++ .releaseIssued :: earlier)
    (current : Event.restarted ∉ later) (kind : WriteKind) : Event.issued kind ∉ later := by
  have barrier : Barrier final :=
    run_preserves barrier_step barrier_boot reached
  exact barrier.quiet later earlier split current kind

/-- What a service that has issued the release still holds: nothing that could use the store. -/
structure Quiescent (system : System σ) : Prop where
  refusing : system.core.ready = true ∧ system.core.shuttingDown = true
  unadmitted : ∀ thread ∈ system.threads, thread.admitted = false
  scheduler : ∀ pc, Thread.scheduler pc ∈ system.threads → pc = .stopped
  attempts : ∀ task, Thread.run task ∈ system.threads → ∃ result, task.pc = .done result
  hooks : ∀ hook, Thread.hook hook ∈ system.threads → hook.pc = .done
  inFlight : system.core.inFlight = 0
  publisher : ∀ pc, Thread.publisher pc ∈ system.threads →
    pc = .exited ∨ (pc = .idle ∧ system.config.publisherConfigured = false)

/-- The ownership of the store is released, and its release retried, only when every attempt
and every cancellation hook of this lifetime has ended and no call, scheduler or publisher is
left that could begin another. -/
theorem released_quiescent (config : Config) (store : σ) (knownIds : List TaskId)
    (actions : List Action) (final : System σ)
    (reached : runActions System.step (System.boot config store knownIds) actions = some final)
    (released : Released final.core.trace) : Quiescent final := by
  have barrier : Barrier final :=
    run_preserves barrier_step barrier_boot reached
  obtain ⟨pc, supervising, far⟩ := barrier.released released
  have passed := barrier.passed pc supervising
  have landed := passed.landed (by omega)
  refine ⟨passed.requested (by omega), passed.fenced (by omega), passed.drained (by omega),
    ?_, ?_, ?_, passed.closed far⟩
  · intro task member
    have grounded := landed _ member
    obtain ⟨started, pc⟩ := task
    cases pc <;> first | exact ⟨_, rfl⟩ | cases grounded
  · intro hook member
    have grounded := landed _ member
    obtain ⟨id, attempt, kindId, flight, pc⟩ := hook
    cases pc <;> first | rfl | cases grounded
  · rw [barrier.inFlight]
    refine sum_eq_zero fun weight member => ?_
    obtain ⟨thread, inside, rfl⟩ := mem_map.mp member
    exact landed thread inside

end Run

/-- A service shut down while its handler runs; the first release fails and is
retried, and a late cancellation is turned away. -/
def sampleShutdown : List Action :=
  sampleStart ++
    [.requestShutdown,
      .thread 5 { execution := .returned (.ok (.succeeded { summary := [] })) }] ++
    threadSteps [5, 5, 5, 5, 5] ++ threadSteps (List.replicate 7 0) ++
    threadSteps (List.replicate 6 1) ++
    [.thread 1 { release := .error "busy" }, .retryRelease] ++ threadSteps [1, 1] ++
    [.call (.cancel sampleId)] ++ threadSteps [6, 6, 6]

theorem shutdown_barrier_sample :
    ∃ final : System MemoryTaskStore,
      runActions System.step (sampleSystem .cooperative) sampleShutdown = some final ∧
        final.core.trace =
          [.releaseIssued] ++ .releaseIssued ::
            [.issued .transition, .started sampleId 1, .issued .start, .issued .accept] ∧
        ∀ kind, Event.issued kind ∉ [Event.releaseIssued] :=
  run_shows (by decide) fun final reached split kind =>
    shutdown_barrier _ _ _ sampleShutdown final reached _ _ split (by decide) kind

theorem released_quiescent_sample :
    ∃ final : System MemoryTaskStore,
      runActions System.step (sampleSystem .cooperative) sampleShutdown = some final ∧
        final.core.trace.head? = some .releaseIssued ∧ Quiescent final :=
  run_shows (by decide) fun final reached last =>
    have ⟨earlier, split⟩ := head?_eq_some_iff.mp last
    released_quiescent _ _ _ sampleShutdown final reached ⟨[], earlier, split, not_mem_nil⟩

end TaskService.Service
