import TaskService.Library.Keyset
import TaskService.Store.ColumnAgreement
import TaskService.Store.RecordLaws

/-!
# Pages of records

A page of the scheduler's index scan holds the first queued records that are due, in
acceptance order after the cursor.  What is due and after the cursor is therefore on
the page, or lies behind the cursor the page continues at.

A history page is picked with a bounded heap: of the keys it is offered the heap keeps the
smallest, one more than fit on the page.  Sorted and cut, they are the page that sorting all
matching records would give, so following the continuations traverses the records in order.
-/

namespace TaskService.Store

open Library Model List
open MemoryTaskStore (readyAt pageOf)

/-- The summaries of all retained records, each once. -/
def Scans (records : Records) (summaries : List TaskSummary) : Prop :=
  ∀ summary, summary ∈ summaries ↔
    ∃ task, records summary.id = some task ∧ task.summary = summary

def ReadyPage (records : Records) (after : Option TaskCursor) (limit now : Nat)
    (page : TaskPage) : Prop :=
  ∃ summaries, Scans records summaries ∧
    page = pageFrom (readySelection summaries after now) limit

/-- Stores whose ready pages are cut from their records.  The order of a page may rest on
more than the validity of the store. -/
class PagedStore (σ : Type) [TaskStore σ] [LawfulStore σ] where
  Paged : σ → Prop
  call_paged : ∀ (store : σ) (call : StoreCall), Paged store → Paged (call.run store).1
  mark_paged : ∀ (store : σ) (id : TaskId) (version : Nat), Paged store →
    Paged (TaskStore.markEventPublished store id version).1
  quarantine_paged : ∀ (store : σ) (clock : Clock) (command : QuarantineCommand), Paged store →
    Paged (TaskStore.quarantineEventOutboxHead store clock command).1
  ready_due : ∀ (store : σ) (after : Option TaskCursor) (limit now : Nat) (page : TaskPage),
    LawfulStore.Valid store → TaskStore.listReadyQueued store after limit now = .ok page →
    ∀ summary ∈ page.records, MemoryTaskStore.readyAt now summary = true
  ready_page : ∀ (store : σ) (after : Option TaskCursor) (limit now : Nat) (page : TaskPage),
    LawfulStore.Valid store → Paged store →
    TaskStore.listReadyQueued store after limit now = .ok page →
    ReadyPage (TaskStore.getEncodedTask store) after limit now page

theorem ready_deadline {now : Nat} {summary : TaskSummary}
    (ready : readyAt now summary = true) {deadline : Nat}
    (until_ : summary.retryNotBeforeMs = some deadline) : deadline ≤ now := by
  unfold readyAt at ready
  rw [until_] at ready
  exact of_decide_eq_true (Bool.and_eq_true_iff.mp ready).2

section Order

instance : LinearOrder TaskCursor where
  le left right := left.le right = true
  lt left right := left.lt right = true
  le_refl cursor := (TaskCursor.le_iff cursor cursor).mpr (.inr ⟨rfl, UInt64.le_refl _⟩)
  le_trans _ _ _ := @IsTrans.trans TaskCursor (fun left right => left.le right = true) _ _ _ _
  le_antisymm _ _ := @Std.Antisymm.antisymm TaskCursor
    (fun left right => left.le right = true) _ _ _
  le_total := @Std.Total.total TaskCursor (fun left right => left.le right = true) _
  lt_iff_le_not_ge left right := by
    rw [TaskCursor.le_iff, TaskCursor.le_iff, TaskCursor.lt_iff, UInt64.le_iff_toNat_le,
      UInt64.le_iff_toNat_le, UInt64.lt_iff_toNat_lt]
    omega
  toDecidableLE _ _ := inferInstanceAs (Decidable (_ = true))
  toDecidableLT _ _ := inferInstanceAs (Decidable (_ = true))
  toDecidableEq := inferInstance

theorem selection_behind (keep : TaskSummary → Bool) (summaries : List TaskSummary)
    (after : Option TaskCursor) :
    inHistoryOrder (summaries.filter fun summary =>
      keep summary && afterPosition after summary) =
      behind TaskCursor.ofSummary after (summaries.filter keep) := by
  unfold inHistoryOrder behind
  rw [filter_filter]
  congr 2
  funext summary
  cases after with
  | none => simp [afterPosition]
  | some cursor =>
    rw [Bool.and_comm]
    exact congrArg (· && keep summary) Bool.decide_eq_true.symm

theorem page_from_cut (keep : TaskSummary → Bool) (summaries : List TaskSummary)
    (after : Option TaskCursor) (limit : Nat) {page : TaskPage}
    (cut : page = pageFrom (inHistoryOrder (summaries.filter fun summary =>
      keep summary && afterPosition after summary)) limit) :
    Cut TaskCursor.ofSummary limit (summaries.filter keep) after page.records page.next := by
  rw [selection_behind] at cut
  subst cut
  refine ⟨rfl, ?_⟩
  simp only [pageFrom, pageOf, decide_eq_true_eq, gt_iff_lt]

end Order

section Pages

variable {records : Records} {after : Option TaskCursor} {limit now : Nat} {page : TaskPage}

theorem ReadyPage.shows (listed : ReadyPage records after limit now page) {summary : TaskSummary}
    (member : summary ∈ page.records) :
    ∃ task, records summary.id = some task ∧ task.summary = summary := by
  obtain ⟨summaries, scans, rfl⟩ := listed
  have sorted := (mem_insertionSort _).mp (mem_of_mem_take member)
  exact (scans summary).mp (mem_filter.mp sorted).1

theorem ReadyPage.complete (listed : ReadyPage records after limit now page)
    (positive : 0 < limit) {task : StoredTask} (present : records task.summary.id = some task)
    (ready : readyAt now task.summary = true) (behind : afterPosition after task.summary = true) :
    task.summary ∈ page.records ∨
      ∃ cursor, page.next = some cursor ∧
        cursor.lt (TaskCursor.ofSummary task.summary) = true := by
  obtain ⟨summaries, scans, cut⟩ := listed
  have scanned : task.summary ∈ summaries := (scans _).mpr ⟨task, present, rfl⟩
  have later : ∀ cursor ∈ after, cursor < TaskCursor.ofSummary task.summary := by
    rintro cursor rfl
    exact behind
  rcases (page_from_cut _ _ _ _ cut).covers positive
      (mem_filter.mpr ⟨scanned, ready⟩) later with ⟨other, shown, same⟩ | beyond
  · -- Two records at one position are one record.
    left
    obtain ⟨found, held, rfl⟩ := ReadyPage.shows ⟨summaries, scans, cut⟩ shown
    rw [show found.summary.id = task.summary.id from congrArg TaskCursor.id same] at held
    cases held.symm.trans present
    exact shown
  · exact .inr beyond

end Pages

section Stores

variable {after : Option TaskCursor} {limit now : Nat} {page : TaskPage}

abbrev MemoryTaskStore.summaries (store : MemoryTaskStore) : List TaskSummary :=
  store.state.encodedTasks.values.map StoredTask.summary

theorem MemoryTaskStore.scans_summaries {store : MemoryTaskStore} (valid : store.Valid) :
    Scans store.getEncodedTask store.summaries := by
  intro summary
  constructor
  · exact scanned_summary valid
  · rintro ⟨task, found, rfl⟩
    exact mem_map_of_mem ((Table.mem_values_iff _ _).mpr ⟨_, found⟩)

theorem MemoryTaskStore.ready_page_spec (store : MemoryTaskStore) (valid : store.Valid)
    (listed : store.listReadyQueued after limit now = .ok page) :
    ReadyPage store.getEncodedTask after limit now page := by
  refine ⟨store.summaries, scans_summaries valid, ?_⟩
  unfold MemoryTaskStore.listReadyQueued at listed
  split_ifs at listed
  cases listed
  rfl

instance : PagedStore MemoryTaskStore where
  Paged _ := True
  call_paged _ _ _ := trivial
  mark_paged _ _ _ _ := trivial
  quarantine_paged _ _ _ _ := trivial
  ready_due store after limit now page valid listed := by
    obtain ⟨summaries, -, rfl⟩ := store.ready_page_spec valid listed
    intro summary member
    have sorted := (mem_insertionSort _).mp (mem_of_mem_take member)
    exact (Bool.and_eq_true_iff.mp (mem_filter.mp sorted).2).1
  ready_page store after limit now page valid _ listed := store.ready_page_spec valid listed

theorem Database.scans_summaries (database : Database) :
    Scans database.getEncodedTask database.summaries := by
  intro summary
  constructor
  · intro member
    obtain ⟨entry, row, rfl⟩ := mem_map.mp member
    refine ⟨entry.2.storedTask entry.1, ?_, rfl⟩
    exact get_encoded_task_eq_some.mpr ⟨entry.2, (mem_task_rows _ entry).mp row, rfl⟩
  · rintro ⟨task, found, shown⟩
    obtain ⟨row, held, rfl⟩ := get_encoded_task_eq_some.mp found
    rw [← shown]
    exact mem_map.mpr ⟨(summary.id, row), (mem_task_rows _ _).mpr held, rfl⟩

theorem Database.positions_distinct (database : Database) :
    (database.summaries.map TaskCursor.ofSummary).Nodup := by
  apply List.Nodup.of_map TaskCursor.id
  have ids : (database.summaries.map TaskCursor.ofSummary).map TaskCursor.id =
      database.taskRows.map Prod.fst := by
    simp only [Database.summaries, map_map]
    rfl
  rw [ids]
  exact database.task_rows_distinct

theorem Database.ready_due_spec {database : Database} (sound : database.Sound)
    (listed : database.listReadyQueued after limit now = .ok page) :
    ∀ summary ∈ page.records, readyAt now summary = true := by
  intro summary member
  simp only [listReadyQueued, bind_eq_ok] at listed
  obtain ⟨_, _, _, _, _, _, result⟩ := listed
  cases result
  have fetched : ∀ entry ∈ (database.taskRows.filter fun entry =>
      readyRow now entry.2 && afterCursor after entry).insertionSort
        fun left right => positionLe left right = true,
      entry ∈ database.taskRows ∧ readyRow now entry.2 = true := by
    intro entry sorted
    have kept := mem_filter.mp ((mem_insertionSort _).mp sorted)
    exact ⟨kept.1, (Bool.and_eq_true_iff.mp kept.2).1⟩
  obtain ⟨entry, row, rfl, -⟩ :=
    decode_page_sound (fun entry sorted => (fetched entry sorted).1) member
  have retained := sound.rows _ _ ((mem_task_rows _ entry).mp (fetched entry row).1)
  have ready := (fetched entry row).2
  unfold readyRow at ready
  rw [retained.kind, retained.retry] at ready
  simp only [TaskState.kind_queued_iff] at ready
  exact ready

instance [IdCodec] : PagedStore SqliteTaskStore where
  Paged store := store.database.RowsAgree
  call_paged _ call paged := call_rows_agree paged (.lifecycle call)
  mark_paged _ id version paged := call_rows_agree paged (.markPublished id version)
  quarantine_paged _ clock command paged := call_rows_agree paged (.quarantine clock command)
  ready_due _ _ _ _ _ valid listed := Database.ready_due_spec valid listed
  ready_page store _ _ _ _ _ paged listed :=
    ⟨store.database.summaries, store.database.scans_summaries,
      Database.list_ready_selects paged listed⟩

end Stores

open TaskCursor (ofSummary)

section Heap

variable {limit : Nat} {key : TaskCursor} {kept seen : List TaskCursor}

/-- The smallest keys of those seen, as many as there are up to the limit. -/
def Smallest (limit : Nat) (kept seen : List TaskCursor) : Prop :=
  ∃ rest, (kept ++ rest).Perm seen ∧ (∀ low ∈ kept, ∀ high ∈ rest, low ≤ high) ∧
    kept.length ≤ limit ∧ (rest = [] ∨ kept.length = limit)

theorem Smallest.sorted (smallest : Smallest limit kept seen) :
    (seen.insertionSort (· ≤ ·)).take limit = kept.insertionSort (· ≤ ·) := by
  obtain ⟨rest, perm, below, bound, full⟩ := smallest
  have split : seen.insertionSort (· ≤ ·) =
      kept.insertionSort (· ≤ ·) ++ rest.insertionSort (· ≤ ·) := by
    apply List.Perm.eq_of_pairwise' (pairwise_insertionSort _ _)
    · refine pairwise_append.mpr ⟨pairwise_insertionSort _ _, pairwise_insertionSort _ _, ?_⟩
      intro low inside high outside
      exact below low ((mem_insertionSort _).mp inside) high ((mem_insertionSort _).mp outside)
    · refine (perm_insertionSort _ _).trans (perm.symm.trans ?_)
      exact ((perm_insertionSort _ _).append (perm_insertionSort _ _)).symm
  rw [split]
  rcases full with rfl | exact
  · rw [insertionSort_nil, append_nil]
    exact take_of_length_le ((length_insertionSort _ _).trans_le bound)
  · exact take_left' ((length_insertionSort _ _).trans exact)

theorem largest_candidate_spec (positive : 0 < kept.length) :
    ∃ largest, MemoryTaskStore.largestCandidate kept = some largest ∧ largest ∈ kept ∧
      ∀ key ∈ kept, key ≤ largest := by
  induction kept with
  | nil => cases positive
  | cons first rest ih =>
    cases rest with
    | nil => exact ⟨first, rfl, mem_cons_self, by simp⟩
    | cons =>
      obtain ⟨other, found, inside, above⟩ := ih (Nat.succ_pos _)
      unfold MemoryTaskStore.largestCandidate
      rw [found]
      by_cases less : other < first
      · refine ⟨first, if_pos less, mem_cons_self, fun key member => ?_⟩
        rcases mem_cons.mp member with rfl | later
        · exact le_refl _
        · exact (above key later).trans less.le
      · refine ⟨other, if_neg less, mem_cons_of_mem _ inside, fun key member => ?_⟩
        rcases mem_cons.mp member with rfl | later
        · exact not_lt.mp less
        · exact above key later

theorem Smallest.offer (positive : 0 < limit) (smallest : Smallest limit kept seen) :
    Smallest limit (MemoryTaskStore.offerCandidate limit kept key) (seen ++ [key]) := by
  obtain ⟨rest, perm, below, bound, full⟩ := smallest
  unfold MemoryTaskStore.offerCandidate
  split
  · rename_i room
    obtain rfl : rest = [] := full.resolve_right room.ne
    refine ⟨[], ?_, (fun _ _ _ member => by cases member), room, .inl rfl⟩
    rw [append_nil] at perm ⊢
    exact (perm_append_singleton key kept).symm.trans (perm.append_right [key])
  · rename_i filled
    have exact : kept.length = limit := le_antisymm bound (not_lt.mp filled)
    obtain ⟨largest, found, inside, above⟩ := largest_candidate_spec (positive.trans_eq exact.symm)
    have erased := perm_cons_erase inside
    rw [found]
    dsimp only
    by_cases less : key < largest
    · rw [if_pos (show key.lt largest = true from less)]
      refine ⟨largest :: rest, ?_, ?_, ?_, .inr ?_⟩
      · refine List.Perm.trans ?_ (perm.append_right [key])
        refine List.Perm.trans ?_ (perm_append_singleton key _).symm
        exact List.Perm.cons key (perm_middle.trans (erased.append_right rest).symm)
      · intro low lower high higher
        have belowLargest : low ≤ largest := by
          rcases mem_cons.mp lower with rfl | old
          · exact less.le
          · exact above low (mem_of_mem_erase old)
        rcases mem_cons.mp higher with rfl | old
        · exact belowLargest
        · exact belowLargest.trans (below largest inside high old)
      all_goals
        have length := erased.length_eq
        simp only [length_cons] at length ⊢
        omega
    · rw [if_neg (show ¬ key.lt largest = true from less)]
      refine ⟨rest ++ [key], ?_, ?_, bound, .inr exact⟩
      · rw [← append_assoc]
        exact perm.append_right [key]
      · intro low lower high higher
        rcases mem_append.mp higher with old | new
        · exact below low lower high old
        · rw [mem_singleton.mp new]
          exact (above low lower).trans (not_lt.mp less)

theorem smallest_offered (positive : 0 < limit) (keys : List TaskCursor) :
    Smallest limit (keys.foldl (MemoryTaskStore.offerCandidate limit) []) keys := by
  have offered : ∀ seen kept, Smallest limit kept seen →
      Smallest limit (keys.foldl (MemoryTaskStore.offerCandidate limit) kept) (seen ++ keys) := by
    induction keys with
    | nil =>
      intro seen kept smallest
      rw [append_nil]
      exact smallest
    | cons key keys ih =>
      intro seen kept smallest
      have rest := ih (seen ++ [key]) _ (smallest.offer positive)
      rw [append_assoc] at rest
      exact rest
  exact offered [] [] ⟨[], List.Perm.refl _, (forall_mem_nil _), Nat.zero_le _, .inl rfl⟩

end Heap

namespace MemoryTaskStore

variable {store : MemoryTaskStore} {query : TaskQuery} {now limit : Nat}

theorem positions_distinct (valid : store.Valid) :
    (store.summaries.map ofSummary).Nodup := by
  have keys : store.state.encodedTasks.entries.map Sigma.fst =
      (store.summaries.map ofSummary).map TaskCursor.id := by
    simp only [summaries, Table.values, map_map]
    apply map_congr_left
    rintro ⟨id, task⟩ member
    exact (valid.keyed id task (AList.mem_lookup_iff.mpr member)).symm
  apply List.Nodup.of_map TaskCursor.id
  rw [← keys]
  exact store.state.encodedTasks.nodupKeys

theorem list_encoded_selects (valid : store.Valid) (query : TaskQuery) :
    store.listEncoded query = query.checkedPageSize.map fun size =>
      pageFrom (historySelection store.summaries query) size := by
  unfold listEncoded
  cases query.checkedPageSize with
  | error error => rfl
  | ok size =>
    have sorted : (((store.summaries.filter (queryMatches query)).map
        ofSummary).foldl (offerCandidate (size + 1)) []).insertionSort (· ≤ ·) =
        ((historySelection store.summaries query).map ofSummary).take (size + 1) := by
      rw [← (smallest_offered (Nat.succ_pos size) _).sorted, historySelection, inHistoryOrder]
      congr 1
      apply Eq.symm
      apply map_insertionSort
      exact fun _ _ _ _ => Iff.rfl
    have records : ((((historySelection store.summaries query).map ofSummary).take
        (size + 1)).take size).filterMap (fun key =>
          (store.getEncodedTask key.id).map StoredTask.summary) =
        (historySelection store.summaries query).take size := by
      rw [take_take, Nat.min_eq_left (Nat.le_succ size), ← map_take, filterMap_map]
      refine Eq.trans (filterMap_congr ?_) filterMap_some
      intro summary member
      have listed := (mem_insertionSort _).mp (mem_of_mem_take member)
      obtain ⟨task, found, same⟩ := scanned_summary valid (mem_filter.mp listed).1
      simp only [Function.comp, ofSummary, found, Option.map_some, same]
    have longer : min (size + 1) (historySelection store.summaries query).length > size ↔
        (historySelection store.summaries query).length > size := by omega
    refine congrArg Except.ok ?_
    change pageOf (List.filterMap _ (List.take size (List.insertionSort (· ≤ ·) _)))
      (decide ((List.insertionSort (· ≤ ·) _).length > size)) = _
    rw [sorted, records, length_take, length_map]
    simp only [pageFrom, longer]

def HistoryReads (query : TaskQuery) (store : MemoryTaskStore) (after : Option TaskCursor)
    (records : List TaskSummary) (next : Option TaskCursor) : Prop :=
  store.listEncoded { query with after := after } = .ok { records := records, next := next }

def ReadyReads (limit now : Nat) (store : MemoryTaskStore) (after : Option TaskCursor)
    (records : List TaskSummary) (next : Option TaskCursor) : Prop :=
  store.listReadyQueued after limit now = .ok { records := records, next := next }

theorem lists_of_pages (valid : store.Valid) (keep : TaskSummary → Bool)
    {reads : MemoryTaskStore → Option TaskCursor → List TaskSummary → Option TaskCursor → Prop}
    (pages : ∀ after records next, reads store after records next →
      { records := records, next := next } = pageFrom (inHistoryOrder
        (store.summaries.filter fun summary =>
          keep summary && afterPosition after summary)) limit) :
    Lists ofSummary limit reads (fun store => store.summaries.filter keep) store where
  distinct := (filter_sublist.map _).nodup (positions_distinct valid)
  cuts after records next read := page_from_cut keep _ after limit (pages after records next read)

theorem query_matches_after (query : TaskQuery) (after : Option TaskCursor) :
    queryMatches { query with after := after } = fun summary =>
      queryMatches { query with after := none } summary && afterPosition after summary := by
  funext summary
  cases after with
  | none => simp [afterPosition]
  | some cursor => simp [queryMatches, afterPosition]

theorem lists_history (valid : store.Valid) (bounded : query.limit ≤ maxTaskQueryLimit) :
    Lists ofSummary (max query.limit 1) (HistoryReads query)
      (fun store => store.summaries.filter (queryMatches { query with after := none })) store := by
  apply lists_of_pages valid
  intro after records next read
  have sized : TaskQuery.checkedPageSize { query with after := after } = .ok (max query.limit 1) :=
    if_neg (Nat.not_lt.mpr bounded)
  rw [HistoryReads, list_encoded_selects valid, sized] at read
  rw [← query_matches_after]
  exact (Except.ok.inj read).symm

theorem lists_ready (valid : store.Valid) :
    Lists ofSummary limit (ReadyReads limit now)
      (fun store => store.summaries.filter (readyAt now)) store := by
  apply lists_of_pages valid
  intro after records next read
  unfold ReadyReads listReadyQueued at read
  split_ifs at read
  exact (Except.ok.inj read).symm

structure ExactTraversal (keep : TaskSummary → Bool)
    (reads : MemoryTaskStore → Option TaskCursor → List TaskSummary → Option TaskCursor → Prop) :
    Prop where
  /-- The store may change in any way between two pages. -/
  increasing : ∀ after stores seen, (∀ store ∈ stores, store.Valid) →
    Traversal reads after stores seen →
    seen.Pairwise fun left right =>
      (TaskCursor.ofSummary left).lt (TaskCursor.ofSummary right) = true
  /-- A task that is retained and matches at every request is read. -/
  complete : ∀ after stores seen position, (∀ store ∈ stores, store.Valid) →
    Traversal reads after stores seen → (∀ cursor ∈ after, TaskCursor.lt cursor position = true) →
    (∀ store ∈ stores, ∃ task, store.getEncodedTask position.id = some task ∧
      task.summary.acceptedAtMs = position.acceptedAtMs ∧ keep task.summary = true) →
    ∃ summary ∈ seen, TaskCursor.ofSummary summary = position
  exact : ∀ store after stores seen, store.Valid → (∀ other ∈ stores, other = store) →
    Traversal reads after stores seen →
    seen = inHistoryOrder
      (store.summaries.filter fun summary => keep summary && afterPosition after summary)
  ends : ∀ store after, store.Valid →
    ∃ pages seen, Traversal reads after (List.replicate (pages + 1) store) seen

theorem exact_traversal {keep : TaskSummary → Bool}
    {reads : MemoryTaskStore → Option TaskCursor → List TaskSummary → Option TaskCursor → Prop}
    (positive : 0 < limit) (lists : ∀ store : MemoryTaskStore, store.Valid →
      Lists ofSummary limit reads (fun store => store.summaries.filter keep) store)
    (answers : ∀ store : MemoryTaskStore, store.Valid → ∀ after, ∃ page next,
      reads store after page next) : ExactTraversal keep reads where
  increasing _ _ _ valid traversal :=
    traversal.increasing fun store member => lists store (valid store member)
  complete after stores seen position valid traversal later stays := by
    apply traversal.complete positive
      (fun store member => lists store (valid store member)) ?_ later
    intro store member
    obtain ⟨task, found, accepted, kept⟩ := stays store member
    have own := (valid store member).keyed _ _ found
    refine ⟨task.summary, mem_filter.mpr ⟨?_, kept⟩, ?_⟩
    · apply (scans_summaries (valid store member) task.summary).mpr
      exact ⟨task, by rw [own]; exact found, rfl⟩
    · rw [ofSummary, accepted, own]
  exact store after stores seen valid unchanging traversal := by
    rw [traversal.exact positive (lists store valid) unchanging]
    exact (selection_behind keep _ after).symm
  ends store after valid := traversal_ends (lists store valid) (answers store valid) after

/-- Following the continuations of a history query, or of the ready listing at a fixed time, reads
strictly increasing positions, whatever happens to the store in between; it misses no task that
is there and matches throughout, and reads out a store that does not change. -/
theorem paged_traversal_exact (query : TaskQuery) (bounded : query.limit ≤ maxTaskQueryLimit)
    (limit now : Nat) (positive : 0 < limit) (few : limit ≤ maxTaskQueryLimit) :
    ExactTraversal (queryMatches { query with after := none }) (HistoryReads query) ∧
      ExactTraversal (readyAt now) (ReadyReads limit now) := by
  refine ⟨exact_traversal (Nat.lt_of_lt_of_le Nat.one_pos (Nat.le_max_right query.limit 1))
    (fun store valid => lists_history valid bounded) ?_,
    exact_traversal positive (fun store valid => lists_ready valid) ?_⟩
  · intro store valid after
    have sized : TaskQuery.checkedPageSize { query with after := after } =
        .ok (max query.limit 1) := if_neg (Nat.not_lt.mpr bounded)
    have read := list_encoded_selects valid { query with after := after }
    rw [sized] at read
    exact ⟨_, _, read⟩
  · exact fun store valid after => ⟨_, _, if_neg (Nat.not_lt.mpr few)⟩

def samplePaged (ids : List UInt64) : MemoryTaskStore :=
  ids.foldr (fun id store => (StoreCall.run store
    (.accept sampleClock { value := id } (sampleStored none []))).1) (withLimits 4 64 4)

theorem sample_paged_valid (ids : List UInt64) : (samplePaged ids).Valid := by
  induction ids with
  | nil => exact with_limits_valid 4 64 4
  | cons id ids ih => exact @call_valid MemoryTaskStore _ _ _ ih _

def samplePage (id : UInt64) : List TaskSummary :=
  [acceptedSummary { value := id } (sampleStored none []) 5]

theorem sample_traversal : Traversal
    (HistoryReads
      { states := [], category := none, correlationKey := none, after := none, limit := 1 })
    none [samplePaged [1, 2], samplePaged [1, 2, 3], samplePaged [1, 2, 3]]
    (samplePage 1 ++ (samplePage 2 ++ samplePage 3)) := by
  apply Traversal.more _ _ { acceptedAtMs := 5, id := { value := 1 } } _ _ _ rfl
  apply Traversal.more _ _ { acceptedAtMs := 5, id := { value := 2 } } _ _ _ rfl
  exact .last _ _ _ rfl

theorem paged_traversal_exact_sample :
    (samplePage 1 ++ (samplePage 2 ++ samplePage 3)).Pairwise fun left right =>
      (TaskCursor.ofSummary left).lt (TaskCursor.ofSummary right) = true := by
  refine (paged_traversal_exact _ (by decide) 1 5 (by decide) (by decide)).1.increasing none _ _ ?_
    sample_traversal
  intro store member
  simp only [mem_cons, not_mem_nil, or_false] at member
  rcases member with rfl | rfl | rfl <;> exact sample_paged_valid _

end MemoryTaskStore

end TaskService.Store
