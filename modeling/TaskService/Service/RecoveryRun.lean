import TaskService.Service.Deeds
import TaskService.Store.Pages
import TaskService.Store.StoreAgreement

/-!
# Recovery as a whole

The recovery of a service without other writers: its pages are cut from a listing that its own
writes change, but they never move a record, so every running record is met once and rewritten
once.
-/

namespace TaskService.Service

open Library Model Store List
open TaskStore LawfulStore PagedStore
open TaskCursor (ofSummary)
open MemoryTaskStore (queryMatches)

/-- Stores whose history pages are cut from their records, and whose transitions rewrite one
record only unless they end a task. -/
class HistoryStore (σ : Type) [TaskStore σ] [LawfulStore σ] [PagedStore σ] where
  summaries : σ → List TaskSummary
  scans : ∀ store : σ, Valid store →
    Scans (getEncodedTask store) (summaries store)
  distinct : ∀ store : σ, Valid store →
    ((summaries store).map TaskCursor.ofSummary).Nodup
  history_page : ∀ (store : σ) (query : TaskQuery) (page : TaskPage),
    Valid store → Paged store →
    listEncoded store query = .ok page → ∃ size, query.checkedPageSize = .ok size ∧
      page = pageFrom (historySelection (summaries store) query) size
  rewritten : ∀ (store : σ) (clock : Clock) (command : TransitionCommand) (summary : TaskSummary),
    command.state.isTerminal = false →
    (transitionEncoded store clock command).2 = .ok summary →
    Rewritten (getEncodedTask store)
      (getEncodedTask (transitionEncoded store clock command).1) command.id
      (transitionedTask command) summary

instance : HistoryStore MemoryTaskStore where
  summaries := MemoryTaskStore.summaries
  scans _ valid := MemoryTaskStore.scans_summaries valid
  distinct _ valid := MemoryTaskStore.positions_distinct valid
  history_page store query page valid _ listed := by
    have selects := MemoryTaskStore.list_encoded_selects valid query
    rw [show store.listEncoded query = .ok page from listed] at selects
    cases sized : query.checkedPageSize with
    | error error =>
      rw [sized] at selects
      cases selects
    | ok size =>
      rw [sized] at selects
      exact ⟨size, rfl, Except.ok.inj selects⟩
  rewritten store _ command _ live done := by
    apply MemoryTaskStore.transition_result ?_ done
    intro _ _ _ terminal
    rw [live] at terminal
    cases terminal

instance [IdCodec] : HistoryStore SqliteTaskStore where
  summaries store := store.database.summaries
  scans store _ := store.database.scans_summaries
  distinct store _ := store.database.positions_distinct
  history_page _ _ _ _ paged listed := Database.list_encoded_selects paged listed
  rewritten _ _ _ _ _ done := SqliteTaskStore.transition_result done

def recoveredTask (task : StoredTask) : StoredTask :=
  if task.summary.state = .running then
    transitionedTask (StarterPc.recoveryCommand task.summary) task
  else task

theorem recovered_not_running (task : StoredTask) :
    (recoveredTask task).summary.state ≠ .running := by
  unfold recoveredTask
  split
  · show (if task.summary.cancelRequested then _ else _) ≠ TaskState.running
    split <;> exact fun same => by cases same
  · assumption

namespace StarterPc

def queue : StarterPc → List TaskSummary
  | .recover rest _ => rest
  | .requeue summary rest _ => summary :: rest
  | .list _ | .ready | .failed => []

/-- A place that a later page will reach. -/
def Beyond (place : TaskCursor) : StarterPc → Prop
  | .list after => ∀ cursor ∈ after, cursor < place
  | .recover _ next | .requeue _ _ next => ∃ cursor ∈ next, cursor < place
  | .ready | .failed => False

/-- Bound on the steps that are left, for records at the given places. -/
def rank (places : List TaskCursor) : StarterPc → Nat
  | .list after => pages after
  | .recover rest next => 2 * rest.length + 1 + next.elim 0 fun cursor => pages (some cursor)
  | .requeue _ rest next => 2 * rest.length + 2 + next.elim 0 fun cursor => pages (some cursor)
  | .ready | .failed => 0
where
  pages (after : Option TaskCursor) : Nat :=
    4 * (behind id after places).length + 2

end StarterPc

variable {σ : Type} [TaskStore σ]

/-- One step of a recovery that nobody disturbs.  It is over when it is ready or has failed. -/
def recoverStep (state : Core σ × StarterPc) (input : Input) : Option (Core σ × StarterPc) :=
  match StarterPc.step state.1 input state.2 with
  | some ⟨core, .starter pc, _⟩ => some (core, pc)
  | _ => none

variable [LawfulStore σ] [PagedStore σ] [HistoryStore σ]

/-- Where an undisturbed recovery of the records `before` stands: a record is as it was or
recovered, and a running one that is as it was is still to come. -/
structure Recovering (before : Records) (state : Core σ × StarterPc) : Prop where
  valid : Valid state.1.store
  paged : Paged state.1.store
  records : ∀ id, state.1.recordOf id = (before id).map recoveredTask ∨
    state.1.recordOf id = before id ∧
      ∀ task, before id = some task → task.summary.state = .running →
        task.summary ∈ state.2.queue ∨ state.2.Beyond (TaskCursor.ofSummary task.summary)
  current : ∀ summary ∈ state.2.queue, state.1.Shows summary
  distinct : (state.2.queue.map TaskSummary.id).Nodup
  chosen : ∀ summary rest next, state.2 = .requeue summary rest next → summary.state = .running

variable {before : Records} {core : Core σ} {places : List TaskCursor}
  {after next : Option TaskCursor} {page : TaskPage} {rest : List TaskSummary}

open StarterPc HistoryStore

theorem unfinished_cut (valid : Valid core.store) (paged : Paged core.store)
    (listed : listEncoded core.store (unfinishedQuery after) = .ok page) :
    Cut ofSummary 128 ((summaries core.store).filter
      (queryMatches (unfinishedQuery none))) after page.records page.next := by
  obtain ⟨size, sized, cut⟩ := history_page core.store _ page valid paged listed
  cases sized
  rw [historySelection, show unfinishedQuery after = { unfinishedQuery none with after := after }
    from rfl, MemoryTaskStore.query_matches_after] at cut
  exact page_from_cut _ _ after _ cut

theorem unfinished_distinct (valid : Valid core.store) :
    (((summaries core.store).filter (queryMatches (unfinishedQuery none))).map
      ofSummary).Nodup :=
  (filter_sublist.map _).nodup (HistoryStore.distinct core.store valid)

theorem unfinished_shown (valid : Valid core.store) {summary : TaskSummary}
    (member : summary ∈ (summaries core.store).filter
      (queryMatches (unfinishedQuery none))) : core.Shows summary :=
  (scans core.store valid summary).mp (mem_filter.mp member).1

theorem Recovering.listing (recovering : Recovering before (core, .list after))
    (listed : listEncoded core.store (unfinishedQuery after) = .ok page) :
    Recovering before (core, .recover page.records page.next) := by
  have cut := unfinished_cut recovering.valid recovering.paged listed
  have shown : ∀ summary ∈ page.records, core.Shows summary :=
    fun _ member => unfinished_shown recovering.valid (cut.mem member).1
  refine ⟨recovering.valid, recovering.paged, ?_, shown, ?_, (fun _ _ _ same => by cases same)⟩
  · intro id
    rcases recovering.records id with done | ⟨same, ahead⟩
    · exact .inl done
    · refine .inr ⟨same, ?_⟩
      intro task held running
      have present : core.recordOf id = some task := same.trans held
      have own : task.summary.id = id :=
        get_id core.store id task recovering.valid present
      have later := (ahead task held running).resolve_left (fun inside => by cases inside)
      have listedHere : task.summary ∈ (summaries core.store).filter
          (queryMatches (unfinishedQuery none)) := by
        refine mem_filter.mpr ⟨(scans core.store recovering.valid _).mpr ⟨task, ?_, rfl⟩, ?_⟩
        · rw [own]
          exact present
        · simp [queryMatches, unfinishedQuery, running, TaskState.kind]
      rcases cut.covers (by decide) listedHere later with ⟨other, inside, place⟩ | beyond
      · left
        obtain ⟨stored, found, rfl⟩ := shown other inside
        rw [show stored.summary.id = id from (congrArg TaskCursor.id place).trans own] at found
        cases found.symm.trans present
        exact inside
      · exact .inr beyond
  · apply pairwise_map.mpr
    apply (cut.increasing (unfinished_distinct recovering.valid)).imp_of_mem
    intro left right inLeft inRight less same
    obtain ⟨one, foundOne, rfl⟩ := shown left inLeft
    obtain ⟨two, foundTwo, rfl⟩ := shown right inRight
    rw [same] at foundOne
    cases foundOne.symm.trans foundTwo
    exact lt_irrefl _ less

theorem Recovering.listing_rank (recovering : Recovering before (core, .list after))
    (known : ∀ id task, before id = some task → ofSummary task.summary ∈ places)
    (once : places.Nodup) (listed : listEncoded core.store (unfinishedQuery after) = .ok page) :
    rank places (.recover page.records page.next) < rank places (.list after) := by
  have cut := unfinished_cut recovering.valid recovering.paged listed
  have distinct := @unfinished_distinct σ _ _ _ _ core recovering.valid
  have uses := cut.uses once distinct (by
    intro summary member
    obtain ⟨task, present, rfl⟩ := unfinished_shown recovering.valid member
    rcases recovering.records task.summary.id with done | ⟨same, -⟩
    · obtain ⟨old, held, rfl⟩ := Option.map_eq_some_iff.mp (done.symm.trans present)
      unfold recoveredTask
      split <;> exact known _ old held
    · exact known _ task (same.symm.trans present))
  cases continued : page.next with
  | none =>
    rw [continued, Option.elim_none] at uses
    simp only [rank, rank.pages, Option.elim_none]
    omega
  | some cursor =>
    rw [continued] at cut uses
    obtain ⟨-, ⟨last, ending, -⟩, -⟩ := cut.cursor distinct
    have filled := length_pos_of_mem ending
    simp only [Option.elim_some] at uses
    simp only [rank, rank.pages, Option.elim_some]
    omega

omit [HistoryStore σ] in
theorem Recovering.record (recovering : Recovering before (core, .recover rest next)) :
    Recovering before (core, nextRecord rest next) := by
  obtain ⟨valid, paged, records, current, distinct, -⟩ := recovering
  cases rest with
  | nil =>
    have later : ∀ place, (∃ cursor ∈ next, cursor < place) →
      (nextRecord [] next).Beyond place := by
      rintro place ⟨cursor, rfl, less⟩ other same
      cases same
      exact less
    have empty : (nextRecord [] next).queue = [] := by cases next <;> rfl
    refine ⟨valid, paged, ?_, ?_, ?_, ?_⟩
    · exact fun id => (records id).imp_right fun ⟨same, ahead⟩ => ⟨same, fun task held running =>
        .inr (later _ ((ahead task held running).resolve_left fun inside => by cases inside))⟩
    · show ∀ summary ∈ (nextRecord [] next).queue, _
      simp [empty]
    · show ((nextRecord [] next).queue.map TaskSummary.id).Nodup
      simp [empty]
    · cases next <;> exact fun _ _ _ same => by cases same
  | cons summary rest =>
    rw [show nextRecord (summary :: rest) next = if summary.state = .running then
      .requeue summary rest next else .recover rest next from rfl]
    split
    · rename_i running
      refine ⟨valid, paged, records, current, distinct, ?_⟩
      intro other _ _ same
      cases same
      exact running
    · rename_i idle
      refine ⟨valid, paged, ?_, fun other member => current other (mem_cons_of_mem _ member),
        (nodup_cons.mp distinct).2, (fun _ _ _ same => by cases same)⟩
      intro id
      refine (records id).imp_right fun ⟨same, ahead⟩ => ⟨same, fun task held running => ?_⟩
      refine (ahead task held running).imp_left fun member => ?_
      rcases mem_cons.mp member with rfl | later
      · exact (idle running).elim
      · exact later

theorem Recovering.requeue {summary written : TaskSummary} {input : Input} {changed : Core σ}
    (recovering : Recovering before (core, .requeue summary rest next))
    (called : core.callTransition input (recoveryCommand summary) = (changed, .ok written)) :
    Recovering before (changed, .recover rest next) := by
  have running := recovering.chosen summary rest next rfl
  obtain ⟨stored, present, own⟩ := recovering.current summary mem_cons_self
  obtain ⟨fresh, distinct⟩ := nodup_cons.mp recovering.distinct
  obtain ⟨-, ⟨-, message, -, failed⟩ | ⟨store, -, answered⟩⟩ := call_write_cases called
  · cases failed
  have live : (recoveryCommand summary).state.isTerminal = false := by
    unfold recoveryCommand
    split <;> rfl
  obtain ⟨task, found, -, rewritten⟩ :=
    rewritten core.store input.clock _ written live answered.symm
  cases found.symm.trans present
  rw [← store] at rewritten
  have others : ∀ id, id ≠ summary.id → changed.recordOf id = core.recordOf id :=
    fun id different => (rewritten id).trans (if_neg different)
  refine ⟨?_, ?_, ?_, ?_, distinct, (fun _ _ _ same => by cases same)⟩
  · show Valid changed.store
    rw [store]
    exact transition_valid _ _ _ recovering.valid
  · show Paged changed.store
    rw [store]
    exact call_paged _ (.transition input.clock _) recovering.paged
  · intro id
    by_cases same : id = summary.id
    · subst same
      left
      rcases recovering.records summary.id with done | ⟨kept, -⟩
      · -- A recovered record is not running.
        obtain ⟨old, -, rfl⟩ := Option.map_eq_some_iff.mp (done.symm.trans present)
        rw [← own] at running
        exact (recovered_not_running old running).elim
      · rw [← show core.recordOf summary.id = before summary.id from kept, present,
          Option.map_some, recoveredTask, if_pos (own ▸ running), own]
        exact (rewritten summary.id).trans (if_pos rfl)
    · show changed.recordOf id = _ ∨ changed.recordOf id = _ ∧ _
      rw [others id same]
      refine (recovering.records id).imp_right fun ⟨kept, ahead⟩ => ⟨kept, ?_⟩
      intro task held busy
      refine (ahead task held busy).imp_left fun member => ?_
      rcases mem_cons.mp member with rfl | later
      · have named := get_id core.store id task recovering.valid (kept.trans held)
        exact (same named.symm).elim
      · exact later
  · intro other member
    obtain ⟨found, shown, same⟩ := recovering.current other (mem_cons_of_mem _ member)
    refine ⟨found, (others other.id ?_).trans shown, same⟩
    rintro equal
    exact fresh (equal ▸ mem_map_of_mem member)

theorem recover_step {state after : Core σ × StarterPc} {input : Input}
    (known : ∀ id task, before id = some task → ofSummary task.summary ∈ places)
    (once : places.Nodup) (recovering : Recovering before state)
    (taken : recoverStep state input = some after) :
    (after.2 = .failed ∨ Recovering before after) ∧ rank places after.2 < rank places state.2 := by
  obtain ⟨core, pc⟩ := state
  cases pc with
  | list cursor =>
    cases read : core.callRead input fun store =>
        listEncoded store (unfinishedQuery cursor) with
    | error error =>
      simp only [recoverStep, StarterPc.step, read, Option.some.injEq] at taken
      subst taken
      exact ⟨.inl rfl, Nat.succ_pos _⟩
    | ok page =>
      simp only [recoverStep, StarterPc.step, read, Option.some.injEq] at taken
      subst taken
      have listed : listEncoded core.store (unfinishedQuery cursor) = .ok page := by
        unfold Core.callRead at read
        split at read
        · cases read
        · exact read
      exact ⟨.inr (recovering.listing listed), recovering.listing_rank known once listed⟩
  | recover rest next =>
    cases taken
    refine ⟨.inr recovering.record, ?_⟩
    cases rest with
    | nil =>
      cases next with
      | none => exact Nat.one_pos
      | some cursor =>
        simp only [nextRecord, rank, length_nil, Option.elim_some]
        omega
    | cons =>
      simp only [nextRecord]
      split <;> simp only [rank, length_cons] <;> omega
  | requeue summary rest next =>
    cases called : core.callTransition input (recoveryCommand summary) with
    | mk changed answer =>
      cases answer with
      | error error =>
        simp only [recoverStep, StarterPc.step, called, Option.some.injEq] at taken
        subst taken
        refine ⟨.inl rfl, ?_⟩
        simp only [rank]
        omega
      | ok written =>
        simp only [recoverStep, StarterPc.step, called, Option.some.injEq] at taken
        subst taken
        refine ⟨.inr (recovering.requeue called), ?_⟩
        simp only [rank]
        omega
  | ready | failed => cases taken

theorem recover_run {state final : Core σ × StarterPc} {inputs : List Input}
    (known : ∀ id task, before id = some task → ofSummary task.summary ∈ places)
    (once : places.Nodup) (recovering : state.2 = .failed ∨ Recovering before state)
    (reached : runActions recoverStep state inputs = some final) :
    (final.2 = .failed ∨ Recovering before final) ∧
      inputs.length + rank places final.2 ≤ rank places state.2 := by
  induction inputs generalizing state with
  | nil =>
    cases reached
    exact ⟨recovering, (Nat.zero_add _).le⟩
  | cons input rest ih =>
    obtain ⟨next, taken, remaining⟩ := run_cons_eq_some.mp reached
    rcases recovering with failed | going
    · obtain ⟨core, pc⟩ := state
      cases failed
      cases taken
    · obtain ⟨goes, less⟩ := recover_step known once going taken
      obtain ⟨ends, bound⟩ := ih goes remaining
      refine ⟨ends, ?_⟩
      rw [length_cons]
      omega

/-- Running records are queued again, or blocked where a cancellation was pending; all others
are as they were. -/
structure RecoveredAll (before after : Records) : Prop where
  none_running : ∀ id task, after id = some task → task.summary.state ≠ .running
  requeued : ∀ id task, before id = some task → task.summary.state = .running →
    task.summary.cancelRequested = false → ∃ later, after id = some later ∧
      later.summary.state = .queued ∧ later.summary.retryNotBeforeMs = none ∧
      later.summary.attempt = task.summary.attempt ∧
      later.summary.stateVersion = task.summary.stateVersion + 1
  blocked : ∀ id task, before id = some task → task.summary.state = .running →
    task.summary.cancelRequested = true → ∃ later reason, after id = some later ∧
      later.summary.state = .blocked reason ∧ later.summary.cancelRequested = true ∧
      later.summary.attempt = task.summary.attempt ∧
      later.summary.stateVersion = task.summary.stateVersion + 1
  others : ∀ id, (∀ task, before id = some task → task.summary.state ≠ .running) →
    after id = before id

theorem recovered_all {after : Records}
    (recovered : ∀ id, after id = (before id).map recoveredTask) : RecoveredAll before after where
  none_running id task found := by
    obtain ⟨old, -, rfl⟩ := Option.map_eq_some_iff.mp ((recovered id).symm.trans found)
    exact recovered_not_running old
  requeued id task held running quiet := by
    refine ⟨_, (recovered id).trans (congrArg _ held), ?_⟩
    rw [recoveredTask, if_pos running]
    exact ⟨if_neg (ne_true_of_eq_false quiet), rfl, rfl, rfl⟩
  blocked id task held running pending := by
    refine ⟨_, "service stopped while cancellation was pending",
      (recovered id).trans (congrArg _ held), ?_⟩
    rw [recoveredTask, if_pos running]
    exact ⟨if_pos pending, pending, rfl, rfl⟩
  others id idle := by
    rw [recovered]
    cases held : before id with
    | none => rfl
    | some task => exact congrArg some (if_neg (idle task held))

/-- An undisturbed recovery ends, stops only when it is ready or has failed, and leaves the
records recovered when it is ready. -/
structure Recovers (core : Core σ) : Prop where
  ends : ∃ bound, ∀ inputs final,
    runActions recoverStep (core, .list none) inputs = some final → inputs.length ≤ bound
  stops : ∀ inputs final input, runActions recoverStep (core, .list none) inputs = some final →
    recoverStep final input = none → final.2 = .ready ∨ final.2 = .failed
  exact : ∀ inputs final, runActions recoverStep (core, .list none) inputs = some final →
    final.2 = .ready → RecoveredAll core.recordOf final.1.recordOf

theorem recovers (valid : Valid core.store) (paged : Paged core.store) : Recovers core := by
  have start : Recovering core.recordOf (core, .list none) :=
    ⟨valid, paged, (fun _ => .inr ⟨rfl, fun _ _ _ => .inr fun _ absent => by cases absent⟩),
      (fun _ absent => by cases absent), nodup_nil, (fun _ _ _ same => by cases same)⟩
  have known : ∀ id task, core.recordOf id = some task →
      ofSummary task.summary ∈ (summaries core.store).map ofSummary := by
    intro id task present
    have own := get_id core.store id task valid present
    exact mem_map_of_mem ((scans core.store valid _).mpr ⟨task, own ▸ present, rfl⟩)
  have run := fun inputs final => @recover_run σ _ _ _ _ _ _ _ final inputs known
    (HistoryStore.distinct core.store valid) (.inr start)
  refine ⟨⟨_, fun inputs final reached => Nat.le_of_add_right_le (run inputs final reached).2⟩,
    ?_, ?_⟩
  · intro inputs final input _ stuck
    cases place : final.2 with
    | ready => exact .inl rfl
    | failed => exact .inr rfl
    | list after =>
      cases read : final.1.callRead input fun store =>
        listEncoded store (unfinishedQuery after) <;>
      simp [recoverStep, StarterPc.step, place, read] at stuck
    | recover rest next => simp [recoverStep, StarterPc.step, place] at stuck
    | requeue summary rest next =>
      rcases called : final.1.callTransition input (recoveryCommand summary) with
        ⟨changed, _ | _⟩ <;>
      simp [recoverStep, StarterPc.step, place, called] at stuck
  · intro inputs final reached ready
    apply recovered_all
    intro id
    rcases (run inputs final reached).1 with failed | ended
    · cases ready.symm.trans failed
    · rcases ended.records id with done | ⟨same, ahead⟩
      · exact done
      · have idle : ∀ task, core.recordOf id = some task → task.summary.state ≠ .running := by
          intro task held running
          rcases ahead task held running with inside | beyond
          · rw [ready] at inside
            cases inside
          · rw [ready] at beyond
            exact beyond
        rw [same]
        cases held : core.recordOf id with
        | none => rfl
        | some task => exact (congrArg some (if_neg (idle task held))).symm

/-- Recovery is complete and exact on every content of either store. -/
theorem recovery_complete [IdCodec] :
    (∀ core : Core MemoryTaskStore, core.store.Valid → Recovers core) ∧
      ∀ core : Core SqliteTaskStore, core.store.database.Sound → core.store.database.RowsAgree →
        Recovers core :=
  ⟨fun _ valid => recovers valid trivial, fun _ sound agree => recovers sound agree⟩

def sampleInterrupted : MemoryTaskStore :=
  (StoreCall.run (MemoryTaskStore.samplePaged [1, 2]) (sampleStarting 1 0)).1

theorem recovery_complete_sample :
    ∃ final, runActions recoverStep (Core.boot sampleInterrupted [] [], .list none)
        (List.replicate 5 {}) = some final ∧ final.2 = .ready ∧
      ∃ later, final.1.recordOf { value := 1 } = some later ∧ later.summary.state = .queued ∧
        later.summary.retryNotBeforeMs = none ∧ later.summary.attempt = 1 ∧
        later.summary.stateVersion = 2 := by
  have valid : sampleInterrupted.Valid :=
    @call_valid MemoryTaskStore _ _ _ (MemoryTaskStore.sample_paged_valid _) _
  have recovers := (@recovery_complete sampleIdCodec).1 (Core.boot sampleInterrupted [] []) valid
  obtain ⟨later, found, queued, silent, attempt, version⟩ :=
    (recovers.exact (List.replicate 5 {}) _ rfl rfl).requeued { value := 1 } _ rfl rfl rfl
  exact ⟨_, rfl, rfl, later, found, queued, silent, attempt, version⟩

end TaskService.Service
