import TaskService.Library.Accounts
import TaskService.Library.StepSystem
import TaskService.Model.TaskRecord

/-!
# The local execution engine

The engine accounts for the resources of admitted attempts in one ledger behind a lock.  A
reservation takes CPU slots, memory, disk, GPU devices and named amounts together or not at
all, and its lease gives them back when it is dropped.  Fixed-width counters are natural
numbers below their bound; an addition that leaves the bound is a fault of the program.

At every moment the usage of the engine is what its live leases were granted: the counters
are sums over the live allocations, the devices are handed out to one lease at a time, and
a dropped lease gives back exactly what it took.
-/

namespace TaskService.Engine

open Library Model List

/-- Total resources of an engine.  The devices are listed in the order of their
identifiers, as the ordered map of the source iterates over them. -/
structure ResourceCapacity where
  cpuSlots : Nat
  memoryBytes : Option Nat
  diskBytes : Option Nat
  gpus : List (String × List String)
  custom : Table String Nat
  gpusOrdered : (gpus.map Prod.fst).Pairwise (· < ·)

/-- A request whose named amounts form a map: in key order, one amount for each name. -/
structure MapRequest where
  request : ResourceRequest
  customOrdered : (request.custom.map Prod.fst).Pairwise (· < ·)

inductive EngineError where
  | temporarilyUnavailable
  | unsatisfiable
  | reservationTokenExhausted
  deriving DecidableEq, Repr

def EngineError.text : EngineError → String
  | .temporarilyUnavailable => "requested resources are temporarily unavailable"
  | .unsatisfiable => "requested resources cannot be satisfied by this engine"
  | .reservationTokenExhausted => "task execution reservation identifier space is exhausted"

structure Usage where
  cpu : Nat
  memory : Nat
  disk : Nat
  gpus : List String
  custom : Table String Nat
  deriving DecidableEq

def Usage.zero : Usage :=
  { cpu := 0, memory := 0, disk := 0, gpus := [], custom := ∅ }

structure Allocation where
  cpu : Nat
  memory : Nat
  disk : Nat
  gpus : List String
  custom : List (String × Nat)
  deriving DecidableEq, Repr

structure ResourceLedger where
  usage : Usage
  allocations : Table Nat Allocation
  /-- Next unused token, none when the token space is exhausted. -/
  nextToken : Option Nat
  deriving DecidableEq

def hasLabels (request : ResourceRequest) (labels : List String) : Bool :=
  request.gpuLabels.all fun label => labels.contains label

namespace ResourceCapacity

variable (capacity : ResourceCapacity)

def matchingGpuCapacity (request : ResourceRequest) : Nat :=
  ((capacity.gpus.map Prod.snd).filter (hasLabels request)).length

/-- The request exceeds the configured capacity whatever is reserved. -/
def unsatisfiable (request : ResourceRequest) : Bool :=
  decide (request.cpuSlots > capacity.cpuSlots) ||
    decide (request.gpuCount > capacity.matchingGpuCapacity request) ||
    request.memoryBytes.any (fun value => decide (value > capacity.memoryBytes.getD 0)) ||
    request.diskBytes.any (fun value => decide (value > capacity.diskBytes.getD 0)) ||
    request.custom.any fun entry =>
      match capacity.custom.lookup entry.1 with
      | none => true
      | some limit => decide (entry.2 > limit)

/-- The first free devices with the requested labels, at most as many as requested. -/
def availableGpus (usage : Usage) (request : ResourceRequest) : List String :=
  ((capacity.gpus.filter fun device =>
    !usage.gpus.contains device.1 && hasLabels request device.2).map Prod.fst).take
      request.gpuCount

def availableCustom (usage : Usage) (request : ResourceRequest) : Bool :=
  request.custom.all fun entry =>
    (checkedAdd u64Bound (amountAt usage.custom entry.1) entry.2).any fun total =>
      decide (total ≤ (capacity.custom.lookup entry.1).getD 0)

def available (usage : Usage) (request : ResourceRequest) : Bool :=
  (checkedAdd u32Bound usage.cpu request.cpuSlots).any
      (fun total => decide (total ≤ capacity.cpuSlots)) &&
    (checkedAdd u64Bound usage.memory (request.memoryBytes.getD 0)).any
      (fun total => decide (total ≤ capacity.memoryBytes.getD 0)) &&
    (checkedAdd u64Bound usage.disk (request.diskBytes.getD 0)).any
      (fun total => decide (total ≤ capacity.diskBytes.getD 0)) &&
    decide ((capacity.availableGpus usage request).length = request.gpuCount) &&
    capacity.availableCustom usage request

end ResourceCapacity

/-- The additions that book a request, `none` when one of them overflows. -/
def Usage.book (usage : Usage) (request : ResourceRequest) (gpus : List String) :
    Option Usage := do
  let cpu ← checkedAdd u32Bound usage.cpu request.cpuSlots
  let memory ← checkedAdd u64Bound usage.memory (request.memoryBytes.getD 0)
  let disk ← checkedAdd u64Bound usage.disk (request.diskBytes.getD 0)
  let custom ← creditAll u64Bound usage.custom request.custom
  some { cpu, memory, disk, gpus := usage.gpus ++ gpus, custom }

def Allocation.ofRequest (request : ResourceRequest) (gpus : List String) : Allocation :=
  { cpu := request.cpuSlots
    memory := request.memoryBytes.getD 0
    disk := request.diskBytes.getD 0
    gpus := gpus
    custom := request.custom }

/-- Reserve the resources of a request.  The answer carries the ledger the call leaves and
the token its lease will release; `none` is an overflowing addition. -/
def tryPrepareTyped (capacity : ResourceCapacity) (ledger : ResourceLedger)
    (request : ResourceRequest) : Option (ResourceLedger × Except EngineError Nat) :=
  if capacity.unsatisfiable request then some (ledger, .error .unsatisfiable)
  else
    let gpus := capacity.availableGpus ledger.usage request
    if !capacity.available ledger.usage request then
      some (ledger, .error .temporarilyUnavailable)
    else
      match ledger.nextToken with
      | none => some (ledger, .error .reservationTokenExhausted)
      | some token =>
          match checkedAdd u64Bound token 1 with
          | none => some (ledger, .error .reservationTokenExhausted)
          | some nextToken =>
              (ledger.usage.book request gpus).map fun usage =>
                ({ usage
                   allocations :=
                     ledger.allocations.insert token (Allocation.ofRequest request gpus)
                   nextToken := some nextToken }, .ok token)

def removeReservedGpus (usageGpus reservedGpus : List String) : List String :=
  usageGpus.filter fun id => !reservedGpus.contains id

/-- The subtractions that give an allocation back; on natural numbers they stop at zero. -/
def Usage.unbook (usage : Usage) (allocation : Allocation) : Usage :=
  { cpu := usage.cpu - allocation.cpu
    memory := usage.memory - allocation.memory
    disk := usage.disk - allocation.disk
    gpus := removeReservedGpus usage.gpus allocation.gpus
    custom := debitAll usage.custom allocation.custom }

def releaseReservation (token : Nat) (ledger : ResourceLedger) : ResourceLedger :=
  match ledger.allocations.lookup token with
  | none => ledger
  | some allocation =>
      { ledger with
        usage := ledger.usage.unbook allocation
        allocations := ledger.allocations.erase token }

/-- The lease of a reservation: the token its release action frees, taken when it runs. -/
structure TypedResourceReservation where
  release : Option Nat
  deriving DecidableEq, Repr

structure Issued where
  token : Nat
  request : ResourceRequest
  reservation : TypedResourceReservation
  deriving DecidableEq, Repr

def Issued.live (issued : Issued) : Bool :=
  issued.reservation.release.isSome

/-- One engine with every lease it has handed out, in the order of the calls. -/
structure EngineState where
  ledger : ResourceLedger
  leases : List Issued
  deriving DecidableEq

def EngineState.new : EngineState :=
  { ledger := { usage := Usage.zero, allocations := ∅, nextToken := some 1 }
    leases := [] }

inductive EngineAction where
  | tryPrepare (request : MapRequest)
  /-- Drop the lease at a position. -/
  | drop (position : Nat)

/-- Every call and every drop holds the ledger lock for its whole effect. -/
def engineStep (capacity : ResourceCapacity) (state : EngineState) :
    EngineAction → Option EngineState
  | .tryPrepare asked =>
      (tryPrepareTyped capacity state.ledger asked.request).map fun answer =>
        { ledger := answer.1
          leases :=
            match answer.2 with
            | .error _ => state.leases
            | .ok token =>
                state.leases ++
                  [{ token, request := asked.request, reservation := ⟨some token⟩ }] }
  | .drop position => do
      let lease ← state.leases[position]?
      let token ← lease.reservation.release
      some
        { ledger := releaseReservation token state.ledger
          leases := state.leases.set position { lease with reservation := ⟨none⟩ } }

structure Fits (capacity : ResourceCapacity) (usage : Usage) (request : ResourceRequest) :
    Prop where
  cpu : usage.cpu + request.cpuSlots < u32Bound
  cpuLimit : usage.cpu + request.cpuSlots ≤ capacity.cpuSlots
  memory : usage.memory + request.memoryBytes.getD 0 < u64Bound
  memoryLimit : usage.memory + request.memoryBytes.getD 0 ≤ capacity.memoryBytes.getD 0
  disk : usage.disk + request.diskBytes.getD 0 < u64Bound
  diskLimit : usage.disk + request.diskBytes.getD 0 ≤ capacity.diskBytes.getD 0
  gpus : (capacity.availableGpus usage request).length = request.gpuCount
  custom : ∀ entry ∈ request.custom, amountAt usage.custom entry.1 + entry.2 < u64Bound ∧
    amountAt usage.custom entry.1 + entry.2 ≤ (capacity.custom.lookup entry.1).getD 0

theorem checked_add_within {bound left right limit : Nat}
    (within : (checkedAdd bound left right).any (fun total => decide (total ≤ limit)) = true) :
    left + right < bound ∧ left + right ≤ limit := by
  cases added : checkedAdd bound left right with
  | none =>
    rw [added] at within
    cases within
  | some total =>
    obtain ⟨fits, rfl⟩ := checked_add_eq_some.mp added
    rw [added] at within
    exact ⟨fits, of_decide_eq_true within⟩

variable {capacity : ResourceCapacity} {request : ResourceRequest} {usage : Usage}
  {asked : MapRequest} {state : EngineState} {token position : Nat} {lease : Issued}

theorem fits_of_available (available : capacity.available usage request = true) :
    Fits capacity usage request := by
  simp only [ResourceCapacity.available, Bool.and_eq_true, decide_eq_true_eq] at available
  obtain ⟨⟨⟨⟨cpu, memory⟩, disk⟩, gpus⟩, custom⟩ := available
  refine
    { cpu := (checked_add_within cpu).1
      cpuLimit := (checked_add_within cpu).2
      memory := (checked_add_within memory).1
      memoryLimit := (checked_add_within memory).2
      disk := (checked_add_within disk).1
      diskLimit := (checked_add_within disk).2
      gpus := gpus
      custom := ?_ }
  intro entry member
  exact checked_add_within (all_eq_true.mp custom entry member)

theorem nodup_of_ordered {names : List String} (ordered : names.Pairwise (· < ·)) :
    names.Nodup := by
  refine List.Pairwise.imp ?_ ordered
  intro left right less same
  subst same
  exact String.lt_irrefl _ less

theorem Fits.custom_amount {capacity : ResourceCapacity} {usage : Usage} {asked : MapRequest}
    (fits : Fits capacity usage asked.request) {name : String}
    (member : name ∈ asked.request.custom.map Prod.fst) :
    amountAt usage.custom name + amountOf asked.request.custom name < u64Bound ∧
      amountAt usage.custom name + amountOf asked.request.custom name ≤
        (capacity.custom.lookup name).getD 0 := by
  obtain ⟨⟨_, amount⟩, listed, rfl⟩ := mem_map.mp member
  rw [amount_of_member (nodup_of_ordered asked.customOrdered) listed]
  exact fits.custom _ listed

structure Booked (usage : Usage) (request : ResourceRequest) (gpus : List String)
    (after : Usage) : Prop where
  cpu : after.cpu = usage.cpu + request.cpuSlots
  memory : after.memory = usage.memory + request.memoryBytes.getD 0
  disk : after.disk = usage.disk + request.diskBytes.getD 0
  gpus : after.gpus = usage.gpus ++ gpus
  custom : ∀ name, amountAt after.custom name =
    amountAt usage.custom name + amountOf request.custom name
  names : ∀ name ∈ after.custom, name ∈ usage.custom ∨ name ∈ request.custom.map Prod.fst

theorem Fits.book (fits : Fits capacity usage asked.request) (gpus : List String) :
    ∃ after, usage.book asked.request gpus = some after ∧
      Booked usage asked.request gpus after := by
  obtain ⟨custom, credited, amounts, names⟩ :=
    credit_all_of_fits fun name member => (@Fits.custom_amount _ _ _ fits name member).1
  refine ⟨⟨_, _, _, usage.gpus ++ gpus, custom⟩, ?_, ⟨rfl, rfl, rfl, rfl, amounts, names⟩⟩
  unfold Usage.book
  rw [checked_add_eq_some.mpr ⟨fits.cpu, rfl⟩, checked_add_eq_some.mpr ⟨fits.memory, rfl⟩,
    checked_add_eq_some.mpr ⟨fits.disk, rfl⟩, credited]
  rfl

/-- A call is refused and changes nothing, or it books its request under the next token. -/
theorem try_prepare_cases (capacity : ResourceCapacity) (ledger : ResourceLedger)
    (asked : MapRequest) :
    (∃ error, tryPrepareTyped capacity ledger asked.request = some (ledger, .error error)) ∨
      ∃ token after, ledger.nextToken = some token ∧ Fits capacity ledger.usage asked.request ∧
        Booked ledger.usage asked.request
          (capacity.availableGpus ledger.usage asked.request) after ∧
        tryPrepareTyped capacity ledger asked.request = some
          ({ usage := after
             allocations := ledger.allocations.insert token
               (Allocation.ofRequest asked.request
                 (capacity.availableGpus ledger.usage asked.request))
             nextToken := some (token + 1) }, .ok token) := by
  unfold tryPrepareTyped
  split
  · exact .inl ⟨_, rfl⟩
  · simp only
    split
    · exact .inl ⟨_, rfl⟩
    · rename_i available
      have fits := fits_of_available (by simpa using available)
      split
      · exact .inl ⟨_, rfl⟩
      · rename_i token current
        split
        · exact .inl ⟨_, rfl⟩
        · rename_i next counted
          obtain ⟨_, rfl⟩ := checked_add_eq_some.mp counted
          obtain ⟨after, done, booked⟩ := fits.book (capacity.availableGpus ledger.usage
            asked.request)
          rw [done]
          exact .inr ⟨token, after, current, fits, booked, rfl⟩

/-- The devices a call selects exist, are free, carry the labels and are distinct. -/
theorem mem_available_gpus {id : String} (member : id ∈ capacity.availableGpus usage request) :
    id ∉ usage.gpus ∧
      ∃ labels, (id, labels) ∈ capacity.gpus ∧ ∀ label ∈ request.gpuLabels, label ∈ labels := by
  obtain ⟨⟨_, labels⟩, device, rfl⟩ := mem_map.mp (mem_of_mem_take member)
  obtain ⟨exists_, selected⟩ := mem_filter.mp device
  rw [Bool.and_eq_true] at selected
  refine ⟨by simpa using selected.1, labels, exists_, ?_⟩
  intro label asked
  simpa using all_eq_true.mp selected.2 label asked

theorem available_gpus_nodup (capacity : ResourceCapacity) (usage : Usage)
    (request : ResourceRequest) : (capacity.availableGpus usage request).Nodup := by
  have kept : ((capacity.gpus.filter fun device =>
      !usage.gpus.contains device.1 && hasLabels request device.2).map Prod.fst).Sublist
        (capacity.gpus.map Prod.fst) :=
    filter_sublist.map _
  exact ((take_sublist _ _).trans kept).nodup (nodup_of_ordered capacity.gpusOrdered)

/-- An allocation is what its request asked for, on devices that carry its labels. -/
structure Granted (capacity : ResourceCapacity) (request : ResourceRequest)
    (allocation : Allocation) : Prop where
  amounts : allocation = Allocation.ofRequest request allocation.gpus
  count : allocation.gpus.length = request.gpuCount
  devices : ∀ id ∈ allocation.gpus,
    ∃ labels, (id, labels) ∈ capacity.gpus ∧ ∀ label ∈ request.gpuLabels, label ∈ labels

/-- The ledger accounts for the leases that are alive, and for nothing else. -/
structure LedgerSound (capacity : ResourceCapacity) (state : EngineState) : Prop where
  cpu : state.ledger.usage.cpu = Table.total Allocation.cpu state.ledger.allocations
  cpuLimit : state.ledger.usage.cpu ≤ capacity.cpuSlots
  memory : state.ledger.usage.memory = Table.total Allocation.memory state.ledger.allocations
  memoryLimit : state.ledger.usage.memory ≤ capacity.memoryBytes.getD 0
  disk : state.ledger.usage.disk = Table.total Allocation.disk state.ledger.allocations
  diskLimit : state.ledger.usage.disk ≤ capacity.diskBytes.getD 0
  custom : ∀ name, amountAt state.ledger.usage.custom name =
    Table.total (fun allocation => amountOf allocation.custom name) state.ledger.allocations
  customLimit : ∀ name, amountAt state.ledger.usage.custom name ≤
    (capacity.custom.lookup name).getD 0
  /-- A name is kept only while a live allocation uses it. -/
  named : ∀ name ∈ state.ledger.usage.custom,
    ∃ allocation ∈ Table.values state.ledger.allocations, name ∈ allocation.custom.map Prod.fst
  gpus : state.ledger.usage.gpus.Perm
    ((Table.values state.ledger.allocations).flatMap Allocation.gpus)
  disjoint : state.ledger.usage.gpus.Nodup
  granted : ∀ token allocation, state.ledger.allocations.lookup token = some allocation →
    ∃ lease ∈ state.leases, lease.token = token ∧ lease.live = true ∧
      Granted capacity lease.request allocation
  held : ∀ lease ∈ state.leases, ∀ token, lease.reservation.release = some token →
    token = lease.token ∧ token ∈ state.ledger.allocations
  tokens : (state.leases.map Issued.token).Pairwise (· < ·)
  counted : ∃ next, state.ledger.nextToken = some next ∧
    ∀ lease ∈ state.leases, lease.token < next

theorem new_sound (capacity : ResourceCapacity) : LedgerSound capacity EngineState.new := by
  refine
    { cpu := rfl
      cpuLimit := Nat.zero_le _
      memory := rfl
      memoryLimit := Nat.zero_le _
      disk := rfl
      diskLimit := Nat.zero_le _
      custom := fun _ => rfl
      customLimit := fun _ => Nat.zero_le _
      named := ?_
      gpus := List.Perm.refl _
      disjoint := nodup_nil
      granted := ?_
      held := ?_
      tokens := List.Pairwise.nil
      counted := ⟨1, rfl, ?_⟩ }
  · intro name member
    cases member
  · intro token allocation found
    cases found
  · intro lease member
    cases member
  · intro lease member
    cases member

theorem prepare_sound {after : Usage} (sound : LedgerSound capacity state)
    (current : state.ledger.nextToken = some token)
    (fits : Fits capacity state.ledger.usage asked.request)
    (booked : Booked state.ledger.usage asked.request
      (capacity.availableGpus state.ledger.usage asked.request) after) :
    LedgerSound capacity
      { ledger :=
          { usage := after
            allocations := state.ledger.allocations.insert token
              (Allocation.ofRequest asked.request
                (capacity.availableGpus state.ledger.usage asked.request))
            nextToken := some (token + 1) }
        leases := state.leases ++
          [{ token, request := asked.request, reservation := ⟨some token⟩ }] } := by
  obtain ⟨next, same, counted⟩ := sound.counted
  cases current.symm.trans same
  have unused : state.ledger.allocations.lookup token = none := by
    cases found : state.ledger.allocations.lookup token with
    | none => rfl
    | some allocation =>
      obtain ⟨lease, member, same, _⟩ := sound.granted token allocation found
      exact absurd (counted lease member) (by omega)
  have scanned := Table.values_insert_new state.ledger.allocations token
    (Allocation.ofRequest asked.request
      (capacity.availableGpus state.ledger.usage asked.request)) unused
  have added := fun measure => Table.total_insert_new measure state.ledger.allocations token
    (Allocation.ofRequest asked.request
      (capacity.availableGpus state.ledger.usage asked.request)) unused
  refine
    { cpu := ?_
      cpuLimit := booked.cpu ▸ fits.cpuLimit
      memory := ?_
      memoryLimit := booked.memory ▸ fits.memoryLimit
      disk := ?_
      diskLimit := booked.disk ▸ fits.diskLimit
      custom := ?_
      customLimit := ?_
      named := ?_
      gpus := ?_
      disjoint := ?_
      granted := ?_
      held := ?_
      tokens := ?_
      counted := ⟨token + 1, rfl, ?_⟩ }
  · rw [booked.cpu, sound.cpu, added, Nat.add_comm]
    rfl
  · rw [booked.memory, sound.memory, added, Nat.add_comm]
    rfl
  · rw [booked.disk, sound.disk, added, Nat.add_comm]
    rfl
  · intro name
    rw [booked.custom, sound.custom, added, Nat.add_comm]
    rfl
  · intro name
    rw [booked.custom]
    by_cases asks : name ∈ asked.request.custom.map Prod.fst
    · exact (fits.custom_amount asks).2
    · rw [amount_of_absent asks]
      exact sound.customLimit name
  · intro name member
    simp only [scanned, mem_cons, exists_eq_or_imp]
    rcases booked.names name member with old | asks
    · exact .inr (sound.named name old)
    · exact .inl asks
  · rw [booked.gpus, scanned, flatMap_cons]
    exact perm_append_comm.trans (sound.gpus.append_left _)
  · rw [booked.gpus]
    refine nodup_append.mpr ⟨sound.disjoint, available_gpus_nodup _ _ _, ?_⟩
    intro id used other chosen same
    exact (mem_available_gpus chosen).1 (same ▸ used)
  · intro other allocation found
    rw [Table.lookup_insert_eq] at found
    split at found
    · rename_i same
      cases found
      refine ⟨_, mem_append_right _ (mem_singleton_self _), same.symm, rfl, ?_⟩
      exact ⟨rfl, fits.gpus, fun id chosen => (mem_available_gpus chosen).2⟩
    · obtain ⟨lease, member, rest⟩ := sound.granted other allocation found
      exact ⟨lease, mem_append_left _ member, rest⟩
  · intro lease member freed release
    rcases mem_append.mp member with old | new
    · obtain ⟨own, present⟩ := sound.held lease old freed release
      exact ⟨own, (AList.mem_insert _).mpr (.inr present)⟩
    · cases mem_singleton.mp new
      cases release
      exact ⟨rfl, (AList.mem_insert _).mpr (.inl rfl)⟩
  · rw [map_append, pairwise_append]
    refine ⟨sound.tokens, pairwise_singleton _ _, ?_⟩
    intro earlier member last new
    obtain ⟨lease, old, rfl⟩ := mem_map.mp member
    cases mem_singleton.mp new
    exact counted lease old
  · intro lease member
    rcases mem_append.mp member with old | new
    · exact Nat.lt_succ_of_lt (counted lease old)
    · cases mem_singleton.mp new
      exact Nat.lt_succ_self _

theorem remove_reserved_gpus_perm {gpus reserved rest : List String} (unique : gpus.Nodup)
    (split : gpus.Perm (reserved ++ rest)) : (removeReservedGpus gpus reserved).Perm rest := by
  have parts := nodup_append.mp (split.nodup_iff.mp unique)
  have first : reserved.filter (fun id => !reserved.contains id) = [] := by
    rw [filter_eq_nil_iff]
    intro id member
    simpa using member
  have second : rest.filter (fun id => !reserved.contains id) = rest := by
    rw [filter_eq_self]
    intro id member
    simp only [Bool.not_eq_true', contains_eq_mem, decide_eq_false_iff_not]
    exact fun taken => parts.2.2 id taken id member rfl
  have filtered := split.filter fun id => !reserved.contains id
  rw [filter_append, first, second, nil_append] at filtered
  exact filtered

theorem mem_set_lease {leases : List Issued} {dropped found : Issued}
    (present : leases[position]? = some lease) (member : found ∈ leases.set position dropped) :
    found = dropped ∨ ∃ other, other ≠ position ∧ leases[other]? = some found := by
  obtain ⟨other, lookup⟩ := mem_iff_getElem?.mp member
  by_cases same : other = position
  · subst same
    rw [List.getElem?_set_self (List.getElem?_eq_some_iff.mp present).1] at lookup
    exact .inl (Option.some.inj lookup).symm
  · rw [List.getElem?_set_ne (Ne.symm same)] at lookup
    exact .inr ⟨other, same, lookup⟩

section

variable (sound : LedgerSound capacity state)
include sound

theorem LedgerSound.token_inj {first second : Nat} {other : Issued}
    (left : state.leases[first]? = some lease) (right : state.leases[second]? = some other)
    (same : lease.token = other.token) : first = second := by
  have ordered := pairwise_iff_getElem.mp sound.tokens
  obtain ⟨firstBound, rfl⟩ := List.getElem?_eq_some_iff.mp left
  obtain ⟨secondBound, rfl⟩ := List.getElem?_eq_some_iff.mp right
  rcases Nat.lt_trichotomy first second with less | equal | greater
  · have apart := ordered first second (by simpa using firstBound) (by simpa using secondBound)
      less
    rw [getElem_map, getElem_map] at apart
    omega
  · exact equal
  · have apart := ordered second first (by simpa using secondBound) (by simpa using firstBound)
      greater
    rw [getElem_map, getElem_map] at apart
    omega

theorem drop_sound (present : state.leases[position]? = some lease)
    (release : lease.reservation.release = some token) :
    LedgerSound capacity
      { ledger := releaseReservation token state.ledger
        leases := state.leases.set position { lease with reservation := ⟨none⟩ } } := by
  obtain ⟨own, booked⟩ := sound.held lease (mem_of_getElem? present) token release
  obtain ⟨allocation, found⟩ := Option.isSome_iff_exists.mp (AList.lookup_isSome.mpr booked)
  have scanned := Table.values_erase_perm state.ledger.allocations token allocation found
  have removed := fun measure =>
    Table.total_erase measure state.ledger.allocations token allocation found
  have kept : (state.leases.set position { lease with reservation := ⟨none⟩ }).map Issued.token =
      state.leases.map Issued.token := by
    refine ext_getElem? ?_
    intro index
    rw [List.getElem?_map, List.getElem?_map]
    by_cases same : position = index
    · subst same
      rw [List.getElem?_set_self (List.getElem?_eq_some_iff.mp present).1, present]
      rfl
    · rw [List.getElem?_set_ne same]
  unfold releaseReservation
  rw [found]
  refine
    { cpu := ?_
      cpuLimit := (Nat.sub_le _ _).trans sound.cpuLimit
      memory := ?_
      memoryLimit := (Nat.sub_le _ _).trans sound.memoryLimit
      disk := ?_
      diskLimit := (Nat.sub_le _ _).trans sound.diskLimit
      custom := ?_
      customLimit := ?_
      named := ?_
      gpus := ?_
      disjoint := sound.disjoint.filter _
      granted := ?_
      held := ?_
      tokens := kept ▸ sound.tokens
      counted := ?_ }
  · have counted := removed Allocation.cpu
    have before := sound.cpu
    simp only [Usage.unbook]
    omega
  · have counted := removed Allocation.memory
    have before := sound.memory
    simp only [Usage.unbook]
    omega
  · have counted := removed Allocation.disk
    have before := sound.disk
    simp only [Usage.unbook]
    omega
  · intro name
    have counted := removed fun allocation => amountOf allocation.custom name
    have before := sound.custom name
    simp only [Usage.unbook, amount_at_debit_all]
    omega
  · intro name
    simp only [Usage.unbook, amount_at_debit_all]
    exact (Nat.sub_le _ _).trans (sound.customLimit name)
  · intro name member
    obtain ⟨before, positive⟩ := mem_debit_all member
    by_cases asks : name ∈ allocation.custom.map Prod.fst
    · -- what is left under the name is positive, so another allocation holds it
      have left := positive asks
      have counted := removed fun allocation => amountOf allocation.custom name
      have booked := sound.custom name
      rw [amount_at_debit_all] at left
      obtain ⟨other, inside, holds⟩ := @Table.exists_of_total_pos _ _
        (fun allocation => amountOf allocation.custom name)
        (state.ledger.allocations.erase token) (by omega)
      refine ⟨other, inside, ?_⟩
      by_contra absent
      rw [amount_of_absent absent] at holds
      exact absurd holds (Nat.lt_irrefl 0)
    · obtain ⟨other, inside, holds⟩ := sound.named name before
      rcases mem_cons.mp (scanned.mem_iff.mp inside) with same | remains
      · exact absurd (same ▸ holds) asks
      · exact ⟨other, remains, holds⟩
  · exact remove_reserved_gpus_perm sound.disjoint
      (sound.gpus.trans (scanned.flatMap_right Allocation.gpus))
  · intro other granted lookup
    rw [Table.lookup_erase_eq] at lookup
    split at lookup
    · cases lookup
    · rename_i different
      obtain ⟨holder, member, names, live, fits⟩ := sound.granted other granted lookup
      obtain ⟨index, at_⟩ := mem_iff_getElem?.mp member
      have elsewhere : position ≠ index := by
        rintro rfl
        cases present.symm.trans at_
        exact different (names.symm.trans own.symm)
      refine ⟨holder, ?_, names, live, fits⟩
      refine mem_of_getElem? (i := index) ?_
      rw [List.getElem?_set_ne elsewhere]
      exact at_
  · intro holder member freed holds
    rcases mem_set_lease present member with rfl | ⟨index, elsewhere, at_⟩
    · cases holds
    · obtain ⟨itself, inside⟩ := sound.held holder (mem_of_getElem? at_) freed holds
      refine ⟨itself, AList.mem_erase.mpr ⟨?_, inside⟩⟩
      rintro rfl
      exact elsewhere (sound.token_inj at_ present (itself.symm.trans own))
  · obtain ⟨next, current, counted⟩ := sound.counted
    refine ⟨next, current, ?_⟩
    intro holder member
    rcases mem_set_lease present member with rfl | ⟨index, _, at_⟩
    · exact counted lease (mem_of_getElem? present)
    · exact counted holder (mem_of_getElem? at_)

theorem step_sound {next : EngineState} {action : EngineAction}
    (taken : engineStep capacity state action = some next) : LedgerSound capacity next := by
  cases action with
  | tryPrepare asked =>
    simp only [engineStep] at taken
    rcases try_prepare_cases capacity state.ledger asked with
      ⟨error, refused⟩ | ⟨token, after, current, fits, booked, granted⟩
    · rw [refused] at taken
      cases taken
      exact sound
    · rw [granted] at taken
      cases taken
      exact prepare_sound sound current fits booked
  | drop position =>
    obtain ⟨lease, present, taken⟩ := Option.bind_eq_some_iff.mp taken
    obtain ⟨token, release, taken⟩ := Option.bind_eq_some_iff.mp taken
    cases taken
    exact drop_sound sound present release

structure LedgerLaws (capacity : ResourceCapacity) (state : EngineState) : Prop where
  sound : LedgerSound capacity state
  /-- A call that is refused leaves the ledger as it was. -/
  refused : ∀ (asked : MapRequest) next error,
    tryPrepareTyped capacity state.ledger asked.request = some (next, .error error) →
      next = state.ledger
  /-- No addition overflows, whatever is asked next. -/
  answered : ∀ asked : MapRequest,
    ∃ answer, tryPrepareTyped capacity state.ledger asked.request = some answer
  drained : (∀ lease ∈ state.leases, lease.live = false) → state.ledger.usage = Usage.zero

theorem LedgerSound.no_allocation (dropped : ∀ lease ∈ state.leases, lease.live = false) :
    Table.values state.ledger.allocations = [] := by
  refine eq_nil_iff_forall_not_mem.mpr ?_
  intro allocation member
  obtain ⟨token, found⟩ := (Table.mem_values_iff _ _).mp member
  obtain ⟨lease, inside, _, live, _⟩ := sound.granted token allocation found
  rw [dropped lease inside] at live
  cases live

theorem LedgerSound.drained (dropped : ∀ lease ∈ state.leases, lease.live = false) :
    state.ledger.usage = Usage.zero := by
  have none := sound.no_allocation dropped
  have zero : ∀ measure : Allocation → Nat,
      Table.total measure state.ledger.allocations = 0 := by
    intro measure
    unfold Table.total
    rw [none]
    rfl
  have gpus : state.ledger.usage.gpus = [] := by
    have left := sound.gpus
    rw [none] at left
    exact left.eq_nil
  have custom : state.ledger.usage.custom = ∅ := by
    refine AList.ext (eq_nil_iff_forall_not_mem.mpr ?_)
    intro entry member
    obtain ⟨allocation, inside, _⟩ := sound.named entry.1 (mem_keys_of_mem member)
    rw [none] at inside
    cases inside
  have cpu := sound.cpu.trans (zero _)
  have memory := sound.memory.trans (zero _)
  have disk := sound.disk.trans (zero _)
  cases usage : state.ledger.usage with
  | mk =>
    rw [usage] at gpus custom cpu memory disk
    simp only at gpus custom cpu memory disk
    subst gpus custom cpu memory disk
    rfl

end

theorem reached_sound {actions : List EngineAction} {state final : EngineState}
    (sound : LedgerSound capacity state)
    (reached : runActions (engineStep capacity) state actions = some final) :
    LedgerSound capacity final :=
  run_preserves (fun holds => step_sound holds) sound reached

theorem resource_ledger_sound (capacity : ResourceCapacity) (actions : List EngineAction)
    (state : EngineState)
    (reached : runActions (engineStep capacity) EngineState.new actions = some state) :
    LedgerLaws capacity state := by
  have sound := reached_sound (new_sound capacity) reached
  refine { sound, refused := ?_, answered := ?_, drained := sound.drained }
  · intro asked next error answer
    rcases try_prepare_cases capacity state.ledger asked with
      ⟨other, refused⟩ | ⟨token, after, _, _, _, granted⟩
    · cases refused.symm.trans answer
      rfl
    · cases granted.symm.trans answer
  · intro asked
    rcases try_prepare_cases capacity state.ledger asked with
      ⟨other, refused⟩ | ⟨token, after, _, _, _, granted⟩
    · exact ⟨_, refused⟩
    · exact ⟨_, granted⟩

def sharedCapacity : ResourceCapacity :=
  { cpuSlots := 4
    memoryBytes := some 100
    diskBytes := none
    gpus := [("gpu0", ["a100"]), ("gpu1", [])]
    custom := (∅ : Table String Nat).insert "license" 3
    gpusOrdered := by decide }

def licensedRequest : MapRequest :=
  { request :=
      { cpuSlots := 2, gpuCount := 1, memoryBytes := some 60, diskBytes := none
        gpuLabels := ["a100"], custom := [("license", 2)] }
    customOrdered := by decide }

/-- One of two labelled devices and a licence are reserved, asked for once more in vain,
given back, and reserved again under a new token. -/
def leaseTwice : List EngineAction :=
  [.tryPrepare licensedRequest, .tryPrepare licensedRequest, .drop 0,
    .tryPrepare licensedRequest]

theorem resource_ledger_sound_shared :
    ∃ state, runActions (engineStep sharedCapacity) EngineState.new leaseTwice = some state ∧
      state.leases.map Issued.token = [1, 2] ∧ state.ledger.usage.gpus = ["gpu0"] ∧
      LedgerLaws sharedCapacity state := by
  obtain ⟨state, reached, checked⟩ := @run_of_check _ _ (engineStep sharedCapacity)
    EngineState.new leaseTwice
    (fun state => state.leases.map Issued.token == [1, 2] &&
      state.ledger.usage.gpus == ["gpu0"]) (by decide +kernel)
  rw [Bool.and_eq_true, beq_iff_eq, beq_iff_eq] at checked
  exact ⟨state, reached, checked.1, checked.2,
    resource_ledger_sound sharedCapacity leaseTwice state reached⟩

end TaskService.Engine
