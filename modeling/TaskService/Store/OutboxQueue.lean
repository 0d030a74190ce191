import TaskService.Store.SqliteTaskStoreLaws

/-!
# The event outbox as a queue

Event rows are appended by lifecycle revisions and deleted one at a time.  Creation
times never decrease along the table and the versions of one task increase along it,
whatever the wall clock does, so the publication order of the table lists the
revisions of every task in the order they were committed in.
-/

namespace TaskService.Store

open Library Model List Database

/-- What an event row keeps of an earlier row of the table. -/
def OutboxRow.Follows (earlier later : OutboxRow) : Prop :=
  earlier.createdAtMs ≤ later.createdAtMs ∧
    (earlier.taskId = later.taskId → earlier.stateVersion < later.stateVersion)

def Queue (rows : List OutboxRow) : Prop :=
  rows.Pairwise OutboxRow.Follows

def QuarantineRow.entry (row : QuarantineRow) : EventOutboxEntry :=
  { taskId := row.taskId
    stateVersion := row.stateVersion
    eventId := row.eventId
    event := row.event }

section Order

variable {rows : List OutboxRow}

variable {α : Type} {left right : OutboxRow}

theorem pair_sublist_cases {items : List α} {first second : α} (left : first ∈ items)
    (right : second ∈ items) (different : first ≠ second) :
    [first, second].Sublist items ∨ [second, first].Sublist items := by
  induction items with
  | nil => cases left
  | cons head tail ih =>
    rcases mem_cons.mp left with rfl | leftTail
    · rcases mem_cons.mp right with same | rightTail
      · exact (different same.symm).elim
      · exact .inl ((singleton_sublist.mpr rightTail).cons_cons _)
    · rcases mem_cons.mp right with rfl | rightTail
      · exact .inr ((singleton_sublist.mpr leftTail).cons_cons _)
      · rcases ih leftTail rightTail with ordered | ordered
        · exact .inl (ordered.cons _)
        · exact .inr (ordered.cons _)

theorem not_both_orders {items : List α} {first second : α} (nodup : items.Nodup)
    (forth : [first, second].Sublist items) (back : [second, first].Sublist items) : False := by
  induction items with
  | nil => cases forth
  | cons head tail ih =>
    obtain ⟨absent, tailNodup⟩ := nodup_cons.mp nodup
    rcases cons_sublist_cons'.mp forth with forthTail | ⟨rfl, secondTail⟩
    · rcases cons_sublist_cons'.mp back with backTail | ⟨rfl, _⟩
      · exact ih tailNodup forthTail backTail
      · exact absent (forthTail.subset (by simp))
    · rcases cons_sublist_cons'.mp back with backTail | ⟨rfl, firstTail⟩
      · exact absent (backTail.subset (by simp))
      · exact absent (singleton_sublist.mp firstTail)

theorem Queue.unique (queue : Queue rows) (leftRow : left ∈ rows) (rightRow : right ∈ rows)
    (task : left.taskId = right.taskId) (version : left.stateVersion = right.stateVersion) :
    left = right := by
  by_contra different
  rcases pair_sublist_cases leftRow rightRow different with ordered | ordered
  · have follows := pairwise_iff_forall_sublist.mp queue ordered
    have less := follows.2 task
    omega
  · have follows := pairwise_iff_forall_sublist.mp queue ordered
    have less := follows.2 task.symm
    omega

theorem Queue.nodup (queue : Queue rows) : rows.Nodup := by
  refine List.Pairwise.imp ?_ queue
  rintro left right follows rfl
  have less := follows.2 rfl
  omega

theorem Queue.earlier (queue : Queue rows) (leftRow : left ∈ rows) (rightRow : right ∈ rows)
    (task : left.taskId = right.taskId) (version : left.stateVersion < right.stateVersion) :
    [left, right].Sublist rows := by
  have different : left ≠ right := by
    rintro rfl
    omega
  rcases pair_sublist_cases leftRow rightRow different with ordered | ordered
  · exact ordered
  · have follows := pairwise_iff_forall_sublist.mp queue ordered
    have less := follows.2 task.symm
    omega

theorem ordered_outbox_increases (database : Database) (queue : Queue database.taskEventOutbox) :
    database.orderedOutbox.Pairwise fun first second =>
      first.taskId = second.taskId → first.stateVersion < second.stateVersion := by
  have permuted := perm_insertionSort
    (fun left right => outboxLe left right = true) database.taskEventOutbox
  have nodup : database.orderedOutbox.Nodup := permuted.nodup_iff.mpr queue.nodup
  apply pairwise_iff_forall_sublist.mpr
  intro first second ordered task
  have firstRow : first ∈ database.taskEventOutbox := permuted.mem_iff.mp (ordered.subset (by simp))
  have secondRow : second ∈ database.taskEventOutbox :=
    permuted.mem_iff.mp (ordered.subset (by simp))
  rcases Nat.lt_trichotomy first.stateVersion second.stateVersion with less | same | greater
  · exact less
  · have equal := queue.unique firstRow secondRow task same
    subst equal
    exact absurd (nodup.sublist ordered) (by simp)
  · -- the table has them the other way round, and the sort does not swap them
    have table := queue.earlier secondRow firstRow task.symm greater
    have follows := pairwise_iff_forall_sublist.mp queue table
    have least : outboxLe second first = true := by
      unfold outboxLe
      rcases Nat.lt_or_eq_of_le follows.1 with before | tie
      · simp [before]
      · simp [tie, task, Nat.le_of_lt greater]
    exact (not_both_orders nodup ordered (pair_sublist_insertionSort least table)).elim

end Order

section Changes

/-- What one transaction does to the tasks, the outbox and the archive.  `accepting`
is the identifier given to an acceptance and `marking` the event an acknowledgement
names. -/
inductive DatabaseChange (outboxEnabled : Bool) (accepting : Option TaskId)
    (marking : Option (TaskId × Nat)) (before after : Database) : Prop
  | kept
      (records : ∀ id row, after.tasks.lookup id = some row →
        ∃ old, before.tasks.lookup id = some old ∧
          row.lifecycle.stateVersion = old.lifecycle.stateVersion ∧
          row.lifecycle.state = old.lifecycle.state)
      (outbox : after.taskEventOutbox = before.taskEventOutbox)
      (quarantine : after.taskEventOutboxQuarantine = before.taskEventOutboxQuarantine)
  | accepted (id : TaskId) (row : TaskRow) (now : Nat) (given : accepting = some id)
      (absent : before.tasks.lookup id = none)
      (revision : before.Revision after id row outboxEnabled now)
  | advanced (id : TaskId) (old row : TaskRow) (now : Nat)
      (found : before.tasks.lookup id = some old)
      (version : row.lifecycle.stateVersion = old.lifecycle.stateVersion + 1)
      (revision : before.Revision after id row outboxEnabled now)
  | published (id : TaskId) (version : Nat) (named : marking = some (id, version))
      (marked : before.markOutboxPublished id version = .ok (after, ()))
  | archived (clock : Clock) (command : QuarantineCommand)
      (moved : before.quarantineOutboxHead clock command = .ok (after, ()))

theorem DatabaseChange.refl {outboxEnabled : Bool} {accepting : Option TaskId}
    {marking : Option (TaskId × Nat)} (database : Database) :
    DatabaseChange outboxEnabled accepting marking database database :=
  .kept (fun _ row found => ⟨row, found, rfl, rfl⟩) rfl rfl

/-- An entry the worker or the bus has seen: its revision lies in the past of its task,
and a row with its key is its row. -/
structure Seen (known : List TaskId) (database : Database) (entry : EventOutboxEntry) :
    Prop where
  known : entry.taskId ∈ known
  past : ∀ row, database.tasks.lookup entry.taskId = some row →
    entry.stateVersion ≤ row.lifecycle.stateVersion
  authentic : ∀ row ∈ database.taskEventOutbox, row.taskId = entry.taskId →
    row.stateVersion = entry.stateVersion → row.entry = entry

/-- Published entry by entry, the page never comes to an event while the table holds a
smaller version of the same task. -/
def PageClear : List OutboxRow → List EventOutboxEntry → Prop
  | _, [] => True
  | rows, entry :: rest =>
      (∀ row ∈ rows, row.taskId = entry.taskId → entry.stateVersion ≤ row.stateVersion) ∧
        PageClear
          (rows.filter fun row =>
            decide (¬ (row.taskId = entry.taskId ∧ row.stateVersion = entry.stateVersion)))
          rest

variable {outboxEnabled : Bool} {accepting : Option TaskId} {marking : Option (TaskId × Nat)}
  {before after : Database}

variable {id : TaskId} {version limit : Nat} {entry : EventOutboxEntry} {known : List TaskId}
  {row : OutboxRow} {page entries : List EventOutboxEntry} {database : Database} {state : TaskState}

theorem mark_rows (marked : before.markOutboxPublished id version = .ok (after, ())) :
    after.taskEventOutbox = before.taskEventOutbox.filter fun row =>
      decide (¬ (row.taskId = id ∧ row.stateVersion = version)) := by
  unfold markOutboxPublished at marked
  simp only [bind_eq_ok] at marked
  obtain ⟨_, _, result⟩ := marked
  cases result
  rfl

theorem quarantine_rows {clock : Clock} {command : QuarantineCommand}
    (moved : before.quarantineOutboxHead clock command = .ok (after, ())) :
    after.taskEventOutbox.Sublist before.taskEventOutbox := by
  unfold quarantineOutboxHead at moved
  simp only [bind_eq_ok, require_eq_ok] at moved
  obtain ⟨_, _, head, _, _, _, _, _, result⟩ := moved
  cases result
  exact filter_sublist

/-- A row that a transaction leaves in the outbox was there, or it is the row of a
revision that is later than everything seen of its task. -/
theorem DatabaseChange.newer (change : DatabaseChange outboxEnabled accepting marking before after)
    (seen : Seen known before entry) (fresh : ∀ id, accepting = some id → id ∉ known)
    (member : row ∈ after.taskEventOutbox) :
    row ∈ before.taskEventOutbox ∨
      (row.taskId = entry.taskId → entry.stateVersion < row.stateVersion) := by
  cases change with
  | kept _ outbox _ =>
    rw [outbox] at member
    exact .inl member
  | accepted id written now given _ revision =>
    rcases revision.event_cases member with old | rfl
    · exact .inl old
    · refine .inr fun task => ?_
      have task : id = entry.taskId := task
      exact (fresh id given (task ▸ seen.known)).elim
  | advanced id old written now found version revision =>
    rcases revision.event_cases member with old' | rfl
    · exact .inl old'
    · refine .inr fun task => ?_
      have task : id = entry.taskId := task
      have bound := seen.past old (task ▸ found)
      show entry.stateVersion < written.lifecycle.stateVersion
      omega
  | published id version _ marked =>
    rw [mark_rows marked] at member
    exact .inl (mem_filter.mp member).1
  | archived clock command moved => exact .inl ((quarantine_rows moved).subset member)

theorem Seen.change {later : List TaskId} (seen : Seen known before entry)
    (change : DatabaseChange outboxEnabled accepting marking before after)
    (fresh : ∀ id, accepting = some id → id ∉ known) (grown : ∀ id ∈ known, id ∈ later) :
    Seen later after entry := by
  refine ⟨grown _ seen.known, ?_, ?_⟩
  · intro row found
    cases change with
    | kept records _ _ =>
      obtain ⟨old, held, version, _⟩ := records _ row found
      rw [version]
      exact seen.past old held
    | accepted id written now given _ revision =>
      rw [revision.lookup] at found
      split_ifs at found with same
      · exact (fresh id given (same ▸ seen.known)).elim
      · exact seen.past row found
    | advanced id old written now held version revision =>
      rw [revision.lookup] at found
      split_ifs at found with same
      · cases found
        have bound := seen.past old (same ▸ held)
        omega
      · exact seen.past row found
    | published id version _ marked =>
      rw [(mark_spec marked).1] at found
      exact seen.past row found
    | archived clock command moved =>
      rw [(quarantine_spec moved).1] at found
      exact seen.past row found
  · intro row member task version
    rcases change.newer seen fresh member with old | later
    · exact seen.authentic row old task version
    · have less := later task
      omega

theorem PageClear.mono {rows others : List OutboxRow} (clear : PageClear rows page)
    (source : ∀ row ∈ others, row ∈ rows ∨
      ∀ entry ∈ page, row.taskId = entry.taskId → entry.stateVersion < row.stateVersion) :
    PageClear others page := by
  induction page generalizing rows others with
  | nil => trivial
  | cons entry rest ih =>
    refine ⟨?_, ih clear.2 ?_⟩
    · intro row member task
      rcases source row member with old | later
      · exact clear.1 row old task
      · exact Nat.le_of_lt (later entry (by simp) task)
    · intro row member
      obtain ⟨held, differs⟩ := mem_filter.mp member
      rcases source row held with old | later
      · exact .inl (mem_filter.mpr ⟨old, differs⟩)
      · exact .inr fun other inRest => later other (mem_cons_of_mem _ inRest)

theorem PageClear.change (clear : PageClear before.taskEventOutbox page)
    (seen : ∀ entry ∈ page, Seen known before entry)
    (change : DatabaseChange outboxEnabled accepting marking before after)
    (fresh : ∀ id, accepting = some id → id ∉ known) :
    PageClear after.taskEventOutbox page := by
  apply clear.mono
  intro row member
  by_cases old : row ∈ before.taskEventOutbox
  · exact .inl old
  · refine .inr fun entry inPage => ?_
    exact (change.newer (seen entry inPage) fresh member).resolve_left old

/-- A first part of an increasing list of all rows is a clear page. -/
theorem page_clear_of_increasing {rows page beyond : List OutboxRow}
    (increases : (page ++ beyond).Pairwise fun first second =>
      first.taskId = second.taskId → first.stateVersion < second.stateVersion)
    (complete : ∀ row ∈ rows, row ∈ page ++ beyond) :
    PageClear rows (page.map OutboxRow.entry) := by
  induction page generalizing rows with
  | nil => trivial
  | cons first rest ih =>
    obtain ⟨later, tail⟩ := pairwise_cons.mp increases
    refine ⟨?_, ih tail ?_⟩
    · intro row member task
      rcases mem_cons.mp (complete row member) with rfl | other
      · exact Nat.le_refl _
      · exact Nat.le_of_lt (later row other task.symm)
    · intro row member
      obtain ⟨held, differs⟩ := mem_filter.mp member
      rcases mem_cons.mp (complete row held) with rfl | other
      · simp [OutboxRow.entry] at differs
      · exact other

theorem list_outbox_page (listed : database.listOutbox limit = .ok entries) :
    entries = (database.orderedOutbox.take limit).map OutboxRow.entry := by
  unfold listOutbox at listed
  simp only [bind_eq_ok, require_eq_ok] at listed
  obtain ⟨_, _, result⟩ := listed
  cases result
  rfl

theorem mem_ordered_outbox (database : Database) (row : OutboxRow) :
    row ∈ database.orderedOutbox ↔ row ∈ database.taskEventOutbox :=
  mem_insertionSort _

theorem listed_page_clear (queue : Queue database.taskEventOutbox)
    (listed : database.listOutbox limit = .ok entries) :
    PageClear database.taskEventOutbox entries := by
  rw [list_outbox_page listed]
  refine @page_clear_of_increasing _ _ (database.orderedOutbox.drop limit) ?_ ?_
  · rw [take_append_drop]
    exact ordered_outbox_increases database queue
  · intro row member
    rw [take_append_drop]
    exact (mem_ordered_outbox database row).mpr member

section

variable (sound : database.Sound) (queue : Queue database.taskEventOutbox)
  (knows : ∀ id row, database.tasks.lookup id = some row → id ∈ known)
include sound queue knows

theorem row_seen (member : row ∈ database.taskEventOutbox) : Seen known database row.entry := by
  obtain ⟨held, found, bound⟩ := sound.events row member
  refine ⟨knows _ held found, ?_, ?_⟩
  · intro other lookup
    have same : other = held := Option.some.inj (lookup.symm.trans found)
    subst same
    rw [← (sound.rows _ _ found).version]
    exact bound
  · intro other otherRow task version
    rw [queue.unique otherRow member task version]

theorem listed_seen (listed : database.listOutbox limit = .ok entries) (member : entry ∈ entries) :
    Seen known database entry := by
  rw [list_outbox_page listed] at member
  obtain ⟨row, inPage, rfl⟩ := mem_map.mp member
  have inTable := (mem_ordered_outbox database row).mp (mem_of_mem_take inPage)
  exact row_seen sound queue knows inTable

end

theorem created_at_le_next {outbox : List OutboxRow} (member : row ∈ outbox) (now : Nat) :
    row.createdAtMs ≤ nextCreatedAtMs outbox now := by
  unfold nextCreatedAtMs
  cases greatest : (outbox.map OutboxRow.createdAtMs).max? with
  | none =>
    rw [List.max?_eq_none_iff, map_eq_nil_iff] at greatest
    rw [greatest] at member
    cases member
  | some bound =>
    have above := (List.max?_eq_some_iff.mp greatest).2 _ (mem_map_of_mem member)
    exact above.trans (Nat.le_max_right _ _)

theorem queue_append {row : TaskRow} {now : Nat} (queue : Queue before.taskEventOutbox)
    (revision : before.Revision after id row outboxEnabled now)
    (above : ∀ event ∈ before.taskEventOutbox, event.taskId = id →
      event.stateVersion < row.lifecycle.stateVersion) :
    Queue after.taskEventOutbox := by
  cases enabled : outboxEnabled with
  | false =>
    rw [revision.disabled enabled]
    exact queue
  | true =>
    rw [(revision.enabled enabled).1]
    apply pairwise_append.mpr
    refine ⟨queue, pairwise_singleton _ _, ?_⟩
    intro event member new isNew
    rw [mem_singleton.mp isNew]
    exact ⟨created_at_le_next member now, above event member⟩

theorem Queue.change (queue : Queue before.taskEventOutbox) (sound : before.Sound)
    (change : DatabaseChange outboxEnabled accepting marking before after) :
    Queue after.taskEventOutbox := by
  cases change with
  | kept _ outbox _ =>
    rw [outbox]
    exact queue
  | accepted id row now _ absent revision =>
    refine queue_append queue revision ?_
    intro event member task
    obtain ⟨held, found, _⟩ := sound.events event member
    rw [task, absent] at found
    cases found
  | advanced id old row now found version revision =>
    refine queue_append queue revision ?_
    intro event member task
    obtain ⟨held, lookup, bound⟩ := sound.events event member
    rw [task, found] at lookup
    cases lookup
    have column := (sound.rows _ _ found).version
    omega
  | published id version _ marked =>
    rw [mark_rows marked]
    exact List.Pairwise.filter _ queue
  | archived clock command moved => exact queue.sublist (quarantine_rows moved)

section

variable (change : DatabaseChange outboxEnabled accepting marking before after)
include change

theorem DatabaseChange.archive {row : QuarantineRow}
    (member : row ∈ before.taskEventOutboxQuarantine) : row ∈ after.taskEventOutboxQuarantine := by
  cases change with
  | kept _ _ quarantine =>
    rw [quarantine]
    exact member
  | accepted id written now _ _ revision | advanced id old written now _ _ revision =>
    rw [revision.quarantine]
    exact member
  | published id version _ marked =>
    rw [(mark_spec marked).2.1]
    exact member
  | archived clock command moved =>
    obtain ⟨_, head, now, _, _, archive, _⟩ := quarantine_spec moved
    rw [archive]
    exact mem_append_left _ member

theorem DatabaseChange.fate (queue : Queue before.taskEventOutbox)
    (member : row ∈ before.taskEventOutbox) :
    row ∈ after.taskEventOutbox ∨
      (∃ archived ∈ after.taskEventOutboxQuarantine, archived.entry = row.entry) ∨
      marking = some (row.taskId, row.stateVersion) := by
  have appended : ∀ {id : TaskId} {written : TaskRow} {now : Nat},
      before.Revision after id written outboxEnabled now → row ∈ after.taskEventOutbox := by
    intro id written now revision
    cases enabled : outboxEnabled with
    | false =>
      rw [revision.disabled enabled]
      exact member
    | true =>
      rw [(revision.enabled enabled).1]
      exact mem_append_left _ member
  cases change with
  | kept _ outbox _ =>
    rw [outbox]
    exact .inl member
  | accepted id written now _ _ revision | advanced id old written now _ _ revision =>
    exact .inl (appended revision)
  | published id version named marked =>
    by_cases acknowledged : row.taskId = id ∧ row.stateVersion = version
    · obtain ⟨rfl, rfl⟩ := acknowledged
      exact .inr (.inr named)
    · exact .inl (((mark_spec marked).2.2 row).mpr ⟨member, acknowledged⟩)
  | archived clock command moved =>
    obtain ⟨_, head, now, first, _, archive, remaining⟩ := quarantine_spec moved
    by_cases removed : row.taskId = head.taskId ∧ row.stateVersion = head.stateVersion ∧
        row.eventId = head.eventId
    · have headRow : head ∈ before.taskEventOutbox :=
        (mem_ordered_outbox before head).mp (mem_of_mem_head? first)
      have same := queue.unique member headRow removed.1 removed.2.1
      refine .inr (.inl ⟨quarantinedRow head command now, ?_, ?_⟩)
      · rw [archive]
        exact mem_append_right _ (by simp)
      · rw [same]
        rfl
    · exact .inl ((remaining row).mpr ⟨member, removed⟩)

end

def Database.revisionOf (database : Database) (id : TaskId) : Option (Nat × TaskState) :=
  (database.getEncodedTask id).map fun task => (task.summary.stateVersion, task.summary.state)

def Commits (before after : Database) (id : TaskId) (version : Nat) (state : TaskState) : Prop :=
  after.revisionOf id = some (version, state) ∧ before.revisionOf id ≠ some (version, state)

/-- The entry notifies of this revision, in its key and in its event. -/
def EntryCarries (entry : EventOutboxEntry) (id : TaskId) (version : Nat) (state : TaskState) :
    Prop :=
  entry.taskId = id ∧ entry.stateVersion = version ∧ entry.event.taskId = id ∧
    entry.event.stateVersion = version ∧ entry.event.state = state

def InsertsRow (before after : Database) (id : TaskId) (version : Nat) (state : TaskState) :
    Prop :=
  ∃ row, after.taskEventOutbox = before.taskEventOutbox ++ [row] ∧
    EntryCarries row.entry id version state ∧
    ¬ Database.outboxKeyTaken before.taskEventOutbox id version

theorem revision_of_lookup {row : TaskRow} (found : database.tasks.lookup id = some row) :
    database.revisionOf id = some (row.lifecycle.stateVersion, row.lifecycle.state) := by
  unfold revisionOf getEncodedTask
  rw [found]
  rfl

theorem lookup_of_revision (revision : database.revisionOf id = some (version, state)) :
    ∃ row, database.tasks.lookup id = some row ∧ row.lifecycle.stateVersion = version ∧
      row.lifecycle.state = state := by
  unfold revisionOf getEncodedTask at revision
  cases found : database.tasks.lookup id with
  | none =>
    rw [found] at revision
    cases revision
  | some row =>
    rw [found] at revision
    cases revision
    exact ⟨row, rfl, rfl, rfl⟩

theorem DatabaseChange.inserts (change : DatabaseChange true accepting marking before after)
    (commits : Commits before after id version state) :
    InsertsRow before after id version state := by
  obtain ⟨revised, isNew⟩ := commits
  obtain ⟨row, found, rfl, rfl⟩ := lookup_of_revision revised
  -- an unchanged record is no new revision
  have unchanged : ∀ old, before.tasks.lookup id = some old →
      old.lifecycle.stateVersion = row.lifecycle.stateVersion →
      old.lifecycle.state = row.lifecycle.state → False := by
    intro old held version state
    apply isNew
    rw [revision_of_lookup held, version, state]
  have written : ∀ {other : TaskId} {event : TaskRow} {now : Nat},
      before.Revision after other event true now →
      InsertsRow before after id row.lifecycle.stateVersion row.lifecycle.state := by
    intro other event now revision
    rw [revision.lookup] at found
    split_ifs at found with same
    · cases found
      subst same
      obtain ⟨appended, free⟩ := revision.enabled rfl
      exact ⟨_, appended, ⟨rfl, rfl, rfl, rfl, rfl⟩, free⟩
    · exact (unchanged row found rfl rfl).elim
  cases change with
  | kept records _ _ =>
    obtain ⟨old, held, version, state⟩ := records id row found
    exact (unchanged old held version.symm state.symm).elim
  | accepted other event now _ _ revision | advanced other old event now _ _ revision =>
    exact written revision
  | published other version _ marked =>
    rw [(mark_spec marked).1] at found
    exact (unchanged row found rfl rfl).elim
  | archived clock command moved =>
    rw [(quarantine_spec moved).1] at found
    exact (unchanged row found rfl rfl).elim

end Changes

section Operations

variable (store : SqliteTaskStore)

variable {accepting : Option TaskId} {marking : Option (TaskId × Nat)} {outboxEnabled : Bool}
  {α : Type}

theorem run_write_change (operation : Database → Except StoreError (Database × α))
    (changes : ∀ database value, operation store.database = .ok (database, value) →
      DatabaseChange outboxEnabled accepting marking store.database database) :
    DatabaseChange outboxEnabled accepting marking store.database
      (store.runWrite operation).1.database := by
  rcases store.run_write_cases operation with ⟨_, failed, _⟩ | ⟨database, value, ran, committed⟩
  · rw [failed]
    exact .refl _
  · rw [committed]
    exact changes database value ran

theorem run_outbox_change (operation : Database → Except StoreError (Database × Unit))
    (changes : ∀ database, operation store.database = .ok (database, ()) →
      DatabaseChange outboxEnabled accepting marking store.database database) :
    DatabaseChange outboxEnabled accepting marking store.database
      (store.runOutbox operation).1.database := by
  rcases store.run_outbox_cases operation with ⟨_, failed⟩ | ⟨database, value, ran, committed⟩
  · rw [failed]
    exact .refl _
  · rw [committed]
    exact changes database ran

theorem run_write_failed (store : SqliteTaskStore)
    (operation : Database → Except StoreError (Database × α)) (error : StoreError)
    (failed : (store.runWrite operation).2 = .error error) :
    (store.runWrite operation).1 = store := by
  rcases store.run_write_cases operation with ⟨_, rejected, _⟩ | ⟨_, _, _, committed⟩
  · rw [rejected]
  · rw [committed] at failed
    cases failed

theorem acquire_database (store : SqliteTaskStore) (lock : Except StoreError Unit) :
    ∃ epoch, (store.acquireOwner lock).1.database =
      { store.database with ownerEpoch := epoch } := by
  unfold SqliteTaskStore.acquireOwner
  split
  · exact ⟨store.database.ownerEpoch, rfl⟩
  · split
    · exact ⟨store.database.ownerEpoch, rfl⟩
    · exact ⟨_, rfl⟩

theorem enable_database (store : SqliteTaskStore) :
    store.enableOutbox.1.database = store.database := by
  unfold SqliteTaskStore.enableOutbox
  split
  · rfl
  · rfl

theorem release_database (store : SqliteTaskStore) (epoch : Nat) (unlock : Except StoreError Unit) :
    (store.releaseOwner epoch unlock).1.database = store.database := by
  unfold SqliteTaskStore.releaseOwner
  split
  · rfl
  · split
    · rfl
    · rfl

theorem progress_change (command : ProgressCommand) :
    DatabaseChange store.outboxEnabled none none store.database
      (store.updateProgress command).1.database := by
  apply run_write_change
  intro database summary updated
  unfold updateProgress at updated
  simp only [bind_eq_ok, require_eq_ok, addressed_row_eq_ok] at updated
  obtain ⟨snapshot, _, row, found, _, _, _, _, _, _, result⟩ := updated
  cases result
  refine .kept ?_ rfl rfl
  intro other stored held
  rw [put_row_lookup] at held
  split_ifs at held with same
  · cases held
    exact ⟨row, same ▸ found, rfl, rfl⟩
  · exact ⟨stored, held, rfl, rfl⟩

theorem prune_change (valid : store.Valid) (cutoff maxRows : Nat) :
    DatabaseChange store.outboxEnabled none none store.database
      (store.pruneTerminalBefore cutoff maxRows).1.database := by
  unfold SqliteTaskStore.pruneTerminalBefore
  split
  · exact .refl _
  split
  · exact .refl _
  apply run_write_change
  intro database count pruned
  have spec := prune_spec valid pruned
  refine .kept ?_ spec.outbox spec.quarantine
  intro id row found
  exact ⟨row, spec.rows id row found, rfl, rfl⟩

theorem mark_change (id : TaskId) (version : Nat) :
    DatabaseChange store.outboxEnabled none (some (id, version)) store.database
      (store.markOutboxPublished id version).1.database := by
  apply run_outbox_change
  intro database marked
  exact .published id version rfl marked

theorem quarantine_change (clock : Clock) (command : QuarantineCommand) :
    DatabaseChange store.outboxEnabled none none store.database
      (store.quarantineOutboxHead clock command).1.database := by
  apply run_outbox_change
  intro database moved
  exact .archived clock command moved

variable [IdCodec]

theorem accept_change (clock : Clock) (id : TaskId) (request : StoredTaskRequest) :
    DatabaseChange store.outboxEnabled (some id) none store.database
      (store.acceptEncoded clock id request).1.database := by
  apply run_write_change
  intro database outcome accepted
  rcases accept_revision accepted with ⟨_, rfl⟩ | ⟨_, absent, revision⟩
  · exact .refl _
  · exact .accepted id _ _ rfl absent revision

theorem start_change (clock : Clock) (command : StartCommand) :
    DatabaseChange store.outboxEnabled none none store.database
      (store.startEncoded clock command).1.database := by
  apply run_write_change
  intro database summary started
  obtain ⟨row, found, _, _, _, _, revision⟩ := start_revision started
  exact .advanced command.id row _ _ found rfl revision

theorem transition_change (clock : Clock) (command : TransitionCommand) :
    DatabaseChange store.outboxEnabled none none store.database
      (store.transitionEncoded clock command).1.database := by
  apply run_write_change
  intro database summary applied
  obtain ⟨row, found, _, _, _, revision⟩ := transition_revision applied
  exact .advanced command.id row _ _ found rfl revision

end Operations

end TaskService.Store
