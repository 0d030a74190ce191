import TaskService.Engine.ResourceLedger

/-!
# Verdicts on reservations

A call is answered by two tests, one of the request against the configured capacity and one
against the aggregate usage.  Together they admit exactly the requests that fit beside the
live allocations, and a request that passes the first test is admitted once nothing is
reserved any more.
-/

namespace TaskService.Engine

open Library Model List

/-- A capacity whose amounts have the widths of the source: 32 bits for CPU slots and 64 bits
for everything else. -/
structure MachineCapacity extends ResourceCapacity where
  cpuBound : cpuSlots < u32Bound
  memoryBound : memoryBytes.getD 0 < u64Bound
  diskBound : diskBytes.getD 0 < u64Bound
  customBound : ∀ name, (custom.lookup name).getD 0 < u64Bound

/-- Devices with the requested labels that no live allocation holds. -/
def ResourceCapacity.freeDevices (capacity : ResourceCapacity)
    (allocations : Table Nat Allocation) (request : ResourceRequest) :
    List (String × List String) :=
  capacity.gpus.filter fun device =>
    (Table.values allocations).all (fun allocation => !allocation.gpus.contains device.1) &&
      hasLabels request device.2

/-- The request fits into what the live allocations leave of every pool. -/
structure FitsBeside (capacity : ResourceCapacity) (allocations : Table Nat Allocation)
    (request : ResourceRequest) : Prop where
  configured : ∀ entry ∈ request.custom, entry.1 ∈ capacity.custom
  cpu : Table.total Allocation.cpu allocations + request.cpuSlots ≤ capacity.cpuSlots
  memory : Table.total Allocation.memory allocations + request.memoryBytes.getD 0 ≤
    capacity.memoryBytes.getD 0
  disk : Table.total Allocation.disk allocations + request.diskBytes.getD 0 ≤
    capacity.diskBytes.getD 0
  custom : ∀ entry ∈ request.custom,
    Table.total (fun allocation => amountOf allocation.custom entry.1) allocations + entry.2 ≤
      (capacity.custom.lookup entry.1).getD 0
  gpus : request.gpuCount ≤ (capacity.freeDevices allocations request).length

structure Satisfiable (capacity : ResourceCapacity) (request : ResourceRequest) : Prop where
  cpu : request.cpuSlots ≤ capacity.cpuSlots
  gpus : request.gpuCount ≤ capacity.matchingGpuCapacity request
  memory : request.memoryBytes.getD 0 ≤ capacity.memoryBytes.getD 0
  disk : request.diskBytes.getD 0 ≤ capacity.diskBytes.getD 0
  custom : ∀ entry ∈ request.custom, entry.1 ∈ capacity.custom ∧
    entry.2 ≤ (capacity.custom.lookup entry.1).getD 0

theorem any_over_iff (value : Option Nat) (limit : Nat) :
    value.any (fun amount => decide (amount > limit)) = false ↔ value.getD 0 ≤ limit := by
  cases value with
  | none | some amount => simp

theorem custom_over_iff (capacity : ResourceCapacity) (entry : String × Nat) :
    (match capacity.custom.lookup entry.1 with
      | none => true
      | some limit => decide (entry.2 > limit)) = false ↔
      entry.1 ∈ capacity.custom ∧ entry.2 ≤ (capacity.custom.lookup entry.1).getD 0 := by
  rw [← AList.lookup_isSome]
  cases capacity.custom.lookup entry.1 with
  | none | some limit => simp

theorem satisfiable_iff (capacity : ResourceCapacity) (request : ResourceRequest) :
    capacity.unsatisfiable request = false ↔ Satisfiable capacity request := by
  unfold ResourceCapacity.unsatisfiable
  simp only [Bool.or_eq_false_iff, any_over_iff, decide_eq_false_iff_not, Nat.not_lt,
    any_eq_false, Bool.not_eq_true]
  constructor
  · rintro ⟨⟨⟨⟨cpu, gpus⟩, memory⟩, disk⟩, custom⟩
    exact ⟨cpu, gpus, memory, disk, fun entry member =>
      (custom_over_iff capacity entry).mp (custom entry member)⟩
  · rintro ⟨cpu, gpus, memory, disk, custom⟩
    exact ⟨⟨⟨⟨cpu, gpus⟩, memory⟩, disk⟩, fun entry member =>
      (custom_over_iff capacity entry).mpr (custom entry member)⟩

variable {capacity : ResourceCapacity} {request : ResourceRequest} {ledger : ResourceLedger}

theorem available_of_fits {usage : Usage} (fits : Fits capacity usage request) :
    capacity.available usage request = true := by
  have within : ∀ {bound left right limit : Nat}, left + right < bound → left + right ≤ limit →
      (checkedAdd bound left right).any (fun total => decide (total ≤ limit)) = true := by
    intro bound left right limit room below
    rw [checked_add_eq_some.mpr ⟨room, rfl⟩]
    exact decide_eq_true below
  simp only [ResourceCapacity.available, Bool.and_eq_true, decide_eq_true_eq]
  refine ⟨⟨⟨⟨within fits.cpu fits.cpuLimit, within fits.memory fits.memoryLimit⟩,
    within fits.disk fits.diskLimit⟩, fits.gpus⟩, ?_⟩
  apply all_eq_true.mpr
  intro entry member
  exact within (fits.custom entry member).1 (fits.custom entry member).2

theorem try_prepare_ok_iff {token : Nat} (current : ledger.nextToken = some token)
    (room : token + 1 < u64Bound) (asked : MapRequest) :
    (∃ next issued, tryPrepareTyped capacity ledger asked.request = some (next, .ok issued)) ↔
      Satisfiable capacity asked.request ∧ Fits capacity ledger.usage asked.request := by
  rw [← satisfiable_iff]
  unfold tryPrepareTyped
  constructor
  · rintro ⟨next, issued, answered⟩
    split at answered
    · cases answered
    rename_i satisfiable
    simp only at answered
    split at answered
    · cases answered
    rename_i available
    exact ⟨Bool.eq_false_of_not_eq_true satisfiable, fits_of_available (by simpa using available)⟩
  · rintro ⟨satisfiable, fits⟩
    obtain ⟨after, booked, _⟩ := fits.book (capacity.availableGpus ledger.usage asked.request)
    simp only [satisfiable, available_of_fits fits, Bool.not_true, Bool.false_eq_true, if_false,
      current, checked_add_eq_some.mpr ⟨room, rfl⟩, booked, Option.map_some]
    exact ⟨_, _, rfl⟩

theorem satisfiable_of_unavailable {next : ResourceLedger}
    (answered : tryPrepareTyped capacity ledger request =
      some (next, .error .temporarilyUnavailable)) : Satisfiable capacity request := by
  rw [← satisfiable_iff]
  unfold tryPrepareTyped at answered
  split at answered
  · cases answered
  · rename_i satisfiable
    exact Bool.eq_false_of_not_eq_true satisfiable

def ResourceLedger.Spent (ledger : ResourceLedger) : Prop :=
  ∀ token, ledger.nextToken = some token → u64Bound ≤ token + 1

theorem granted_of_try_prepare {next : ResourceLedger} {token : Nat}
    (answered : tryPrepareTyped capacity ledger request = some (next, .ok token)) :
    capacity.unsatisfiable request = false ∧ ¬ ledger.Spent := by
  unfold tryPrepareTyped at answered
  split at answered
  · cases answered
  rename_i satisfiable
  simp only at answered
  split at answered
  · cases answered
  split at answered
  · cases answered
  rename_i token current
  split at answered
  · cases answered
  rename_i counted
  refine ⟨Bool.eq_false_of_not_eq_true satisfiable, fun spent => ?_⟩
  have room := (checked_add_eq_some.mp counted).1
  have none_left := spent token current
  omega

theorem refused_of_try_prepare {next : ResourceLedger} {error : EngineError}
    (answered : tryPrepareTyped capacity ledger request = some (next, .error error)) :
    next = ledger ∧ (error = .temporarilyUnavailable ∨ capacity.unsatisfiable request = true ∨
      ledger.Spent) := by
  unfold tryPrepareTyped at answered
  split at answered
  · rename_i unsatisfiable
    cases answered
    exact ⟨rfl, .inr (.inl unsatisfiable)⟩
  simp only at answered
  split at answered
  · cases answered
    exact ⟨rfl, .inl rfl⟩
  split at answered
  · rename_i none_left
    cases answered
    refine ⟨rfl, .inr (.inr fun token current => ?_)⟩
    rw [none_left] at current
    cases current
  rename_i token current
  split at answered
  · rename_i overflow
    cases answered
    refine ⟨rfl, .inr (.inr fun other same => ?_)⟩
    cases current.symm.trans same
    exact checked_add_eq_none.mp overflow
  · obtain ⟨usage, -, impossible⟩ := Option.map_eq_some_iff.mp answered
    cases impossible

theorem matching_gpu_capacity_eq (capacity : ResourceCapacity) (request : ResourceRequest) :
    capacity.matchingGpuCapacity request =
      (capacity.gpus.filter fun device => hasLabels request device.2).length := by
  unfold ResourceCapacity.matchingGpuCapacity
  rw [filter_map, length_map]
  rfl

section Reached

variable {capacity : MachineCapacity} {state : EngineState}

theorem LedgerSound.free_devices (sound : LedgerSound capacity.toResourceCapacity state)
    (request : ResourceRequest) :
    (capacity.gpus.filter fun device =>
      !state.ledger.usage.gpus.contains device.1 && hasLabels request device.2) =
      capacity.freeDevices state.ledger.allocations request := by
  apply filter_congr
  intro device _
  congr 1
  rw [Bool.eq_iff_iff]
  simp only [Bool.not_eq_true', contains_eq_mem, decide_eq_false_iff_not,
    all_eq_true, sound.gpus.mem_iff, mem_flatMap]
  constructor
  · intro unused allocation member holds
    exact unused ⟨allocation, member, holds⟩
  · rintro unused ⟨allocation, member, holds⟩
    exact unused allocation member holds

theorem LedgerSound.tests_iff (sound : LedgerSound capacity.toResourceCapacity state)
    (request : ResourceRequest) :
    Satisfiable capacity.toResourceCapacity request ∧
        Fits capacity.toResourceCapacity state.ledger.usage request ↔
      FitsBeside capacity.toResourceCapacity state.ledger.allocations request := by
  have selected : (capacity.availableGpus state.ledger.usage request).length =
      min request.gpuCount (capacity.freeDevices state.ledger.allocations request).length := by
    rw [← sound.free_devices request, ResourceCapacity.availableGpus, length_take, length_map]
  constructor
  · rintro ⟨satisfiable, fits⟩
    refine
      { configured := fun entry member => (satisfiable.custom entry member).1
        cpu := sound.cpu ▸ fits.cpuLimit
        memory := sound.memory ▸ fits.memoryLimit
        disk := sound.disk ▸ fits.diskLimit
        custom := fun entry member => sound.custom entry.1 ▸ (fits.custom entry member).2
        gpus := ?_ }
    have enough := fits.gpus
    rw [selected] at enough
    omega
  · intro beside
    have cpu : state.ledger.usage.cpu + request.cpuSlots ≤ capacity.cpuSlots :=
      sound.cpu ▸ beside.cpu
    have memory : state.ledger.usage.memory + request.memoryBytes.getD 0 ≤
        capacity.memoryBytes.getD 0 := sound.memory ▸ beside.memory
    have disk : state.ledger.usage.disk + request.diskBytes.getD 0 ≤
        capacity.diskBytes.getD 0 := sound.disk ▸ beside.disk
    have custom : ∀ entry ∈ request.custom,
        amountAt state.ledger.usage.custom entry.1 + entry.2 ≤
          (capacity.custom.lookup entry.1).getD 0 :=
      fun entry member => sound.custom entry.1 ▸ beside.custom entry member
    have devices : (capacity.freeDevices state.ledger.allocations request).length ≤
        capacity.matchingGpuCapacity request := by
      rw [matching_gpu_capacity_eq, ResourceCapacity.freeDevices, ← filter_filter]
      exact length_filter_le _ _
    have cpuBound := capacity.cpuBound
    have memoryBound := capacity.memoryBound
    have diskBound := capacity.diskBound
    constructor
    · refine
        { cpu := by omega
          gpus := beside.gpus.trans devices
          memory := by omega
          disk := by omega
          custom := fun entry member => ⟨beside.configured entry member, ?_⟩ }
      have amount := custom entry member
      omega
    · refine
        { cpu := by omega
          cpuLimit := cpu
          memory := by omega
          memoryLimit := memory
          disk := by omega
          diskLimit := disk
          gpus := by rw [selected, min_eq_left beside.gpus]
          custom := fun entry member => ⟨?_, custom entry member⟩ }
      have amount := custom entry member
      have amountBound := capacity.customBound entry.1
      omega

theorem fits_beside_nothing {request : ResourceRequest} {allocations : Table Nat Allocation}
    (satisfiable : Satisfiable capacity.toResourceCapacity request)
    (nothing : Table.values allocations = []) :
    FitsBeside capacity.toResourceCapacity allocations request := by
  have zero : ∀ measure : Allocation → Nat, Table.total measure allocations = 0 := by
    intro measure
    unfold Table.total
    rw [nothing]
    rfl
  refine
    { configured := fun entry member => (satisfiable.custom entry member).1
      cpu := by rw [zero, Nat.zero_add]; exact satisfiable.cpu
      memory := by rw [zero, Nat.zero_add]; exact satisfiable.memory
      disk := by rw [zero, Nat.zero_add]; exact satisfiable.disk
      custom := fun entry member => ?_
      gpus := ?_ }
  · rw [zero, Nat.zero_add]
    exact (satisfiable.custom entry member).2
  · have free : capacity.freeDevices allocations request =
        capacity.gpus.filter fun device => hasLabels request device.2 := by
      simp only [ResourceCapacity.freeDevices, nothing, all_nil, Bool.true_and]
    rw [free, ← matching_gpu_capacity_eq]
    exact satisfiable.gpus

end Reached

section Drops

variable {capacity : ResourceCapacity} {state next : EngineState}

def Drained (state : EngineState) : Prop :=
  ∀ lease ∈ state.leases, lease.live = false

def EngineAction.IsDrop : EngineAction → Prop
  | .tryPrepare _ => False
  | .drop _ => True

theorem release_next_token (token : Nat) (ledger : ResourceLedger) :
    (releaseReservation token ledger).nextToken = ledger.nextToken := by
  unfold releaseReservation
  split
  · rfl
  · rfl

theorem spent_step {action : EngineAction} (spent : state.ledger.Spent)
    (taken : engineStep capacity state action = some next) : next.ledger.Spent := by
  cases action with
  | tryPrepare asked =>
    obtain ⟨⟨after, outcome⟩, answered, rfl⟩ := Option.map_eq_some_iff.mp taken
    cases outcome with
    | ok token => exact ((granted_of_try_prepare answered).2 spent).elim
    | error error =>
      rw [(refused_of_try_prepare answered).1]
      exact spent
  | drop position =>
    obtain ⟨lease, _, taken⟩ := Option.bind_eq_some_iff.mp taken
    obtain ⟨token, _, taken⟩ := Option.bind_eq_some_iff.mp taken
    cases taken
    intro other current
    rw [release_next_token] at current
    exact spent other current

theorem drops_keep_token {drops : List EngineAction} (only : ∀ action ∈ drops, action.IsDrop)
    (reached : runActions (engineStep capacity) state drops = some next) :
    next.ledger.nextToken = state.ledger.nextToken := by
  induction drops generalizing state with
  | nil =>
    cases reached
    rfl
  | cons action rest ih =>
    obtain ⟨middle, taken, remaining⟩ := run_cons_eq_some.mp reached
    rw [ih (fun later member => only later (mem_cons_of_mem _ member)) remaining]
    cases action with
    | tryPrepare asked => exact (only _ (mem_cons_self ..)).elim
    | drop position =>
      obtain ⟨lease, _, taken⟩ := Option.bind_eq_some_iff.mp taken
      obtain ⟨token, _, taken⟩ := Option.bind_eq_some_iff.mp taken
      cases taken
      exact release_next_token token state.ledger

theorem drains (capacity : ResourceCapacity) (state : EngineState) :
    ∃ drops final, (∀ action ∈ drops, EngineAction.IsDrop action) ∧
      runActions (engineStep capacity) state drops = some final ∧ Drained final := by
  -- Induction on the number of live leases: one drop makes it smaller.
  induction alive : state.leases.countP Issued.live generalizing state with
  | zero =>
    refine ⟨[], state, (fun action member => by cases member), rfl, ?_⟩
    intro lease member
    exact Bool.eq_false_of_not_eq_true (countP_eq_zero.mp alive lease member)
  | succ count ih =>
    have some_live : 0 < state.leases.countP Issued.live := by omega
    obtain ⟨lease, member, live⟩ := countP_pos_iff.mp some_live
    obtain ⟨position, present⟩ := mem_iff_getElem?.mp member
    obtain ⟨bound, located⟩ := List.getElem?_eq_some_iff.mp present
    obtain ⟨token, release⟩ := Option.isSome_iff_exists.mp live
    let dropped : EngineState :=
      { ledger := releaseReservation token state.ledger
        leases := state.leases.set position { lease with reservation := ⟨none⟩ } }
    have taken : engineStep capacity state (.drop position) = some dropped :=
      Option.bind_eq_some_iff.mpr ⟨lease, present,
        Option.bind_eq_some_iff.mpr ⟨token, release, rfl⟩⟩
    have fewer : dropped.leases.countP Issued.live = count := by
      have counted := @countP_set _ Issued.live state.leases position
        { lease with reservation := ⟨none⟩ } bound
      rw [located, if_pos live, if_neg (fun still => by cases still)] at counted
      show (state.leases.set position { lease with reservation := ⟨none⟩ }).countP Issued.live =
        count
      omega
    obtain ⟨drops, final, only, reached, drained⟩ := ih dropped fewer
    refine ⟨.drop position :: drops, final, ?_, ?_, drained⟩
    · intro action member
      rcases mem_cons.mp member with rfl | later
      · trivial
      · exact only action later
    · exact run_cons_eq_some.mpr ⟨dropped, taken, reached⟩

end Drops

/-- In every state of an engine with tokens left, a call succeeds exactly when its request
fits beside the live allocations; and a request that is only unavailable for the time being
succeeds as soon as all live leases are dropped, which they can be. -/
theorem reservation_verdicts_exact (capacity : MachineCapacity) (actions : List EngineAction)
    (state : EngineState) (token : Nat) (asked : MapRequest)
    (reached : runActions (engineStep capacity.toResourceCapacity) EngineState.new actions =
      some state)
    (current : state.ledger.nextToken = some token) (remaining : token + 1 < u64Bound) :
    ((∃ next issued, tryPrepareTyped capacity.toResourceCapacity state.ledger asked.request =
        some (next, .ok issued)) ↔
      FitsBeside capacity.toResourceCapacity state.ledger.allocations asked.request) ∧
    ((∃ next, tryPrepareTyped capacity.toResourceCapacity state.ledger asked.request =
        some (next, .error .temporarilyUnavailable)) →
      (∃ drops final, (∀ action ∈ drops, EngineAction.IsDrop action) ∧
        runActions (engineStep capacity.toResourceCapacity) state drops = some final ∧
        Drained final) ∧
      ∀ drops final, (∀ action ∈ drops, EngineAction.IsDrop action) →
        runActions (engineStep capacity.toResourceCapacity) state drops = some final →
        Drained final →
        ∃ next issued, tryPrepareTyped capacity.toResourceCapacity final.ledger asked.request =
          some (next, .ok issued)) := by
  have sound := reached_sound (new_sound capacity.toResourceCapacity) reached
  refine ⟨?_, ?_⟩
  · rw [try_prepare_ok_iff current remaining asked, sound.tests_iff]
  · rintro ⟨next, unavailable⟩
    refine ⟨drains capacity.toResourceCapacity state, ?_⟩
    intro drops final only dropped drained
    have soundLater := reached_sound sound dropped
    have later : final.ledger.nextToken = some token :=
      (drops_keep_token only dropped).trans current
    rw [try_prepare_ok_iff later remaining asked, soundLater.tests_iff]
    exact fits_beside_nothing (satisfiable_of_unavailable unavailable)
      (soundLater.no_allocation drained)

def machineCapacity : MachineCapacity :=
  { sharedCapacity with
    cpuBound := by decide
    memoryBound := by decide
    diskBound := by decide
    customBound := by
      intro name
      have amount : (sharedCapacity.custom.lookup name).getD 0 ≤ 3 := by
        show (((∅ : Table String Nat).insert "license" 3).lookup name).getD 0 ≤ 3
        rw [Table.lookup_insert_eq]
        split
        · exact Nat.le_refl 3
        · exact Nat.zero_le 3
      exact lt_of_le_of_lt amount (by decide) }

/-- The labelled device is reserved, the request is unavailable for the time being, and it
succeeds once the lease is dropped. -/
theorem reservation_verdicts_exact_shared :
    ∃ state final, runActions (engineStep machineCapacity.toResourceCapacity) EngineState.new
        [.tryPrepare licensedRequest] = some state ∧
      runActions (engineStep machineCapacity.toResourceCapacity) state [.drop 0] = some final ∧
      (∃ next, tryPrepareTyped machineCapacity.toResourceCapacity state.ledger
        licensedRequest.request = some (next, .error .temporarilyUnavailable)) ∧
      ∃ next issued, tryPrepareTyped machineCapacity.toResourceCapacity final.ledger
        licensedRequest.request = some (next, .ok issued) := by
  refine ⟨_, _, rfl, rfl, ⟨_, rfl⟩, ?_⟩
  refine ((reservation_verdicts_exact machineCapacity [.tryPrepare licensedRequest] _ 2
    licensedRequest rfl rfl (by decide)).2 ⟨_, rfl⟩).2 [.drop 0] _ ?_ rfl ?_
  · intro action member
    cases mem_singleton.mp member
    trivial
  · intro lease member
    cases mem_singleton.mp member
    rfl

end TaskService.Engine
