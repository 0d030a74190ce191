import Mathlib.Algebra.Order.BigOperators.Group.List
import Mathlib.Algebra.Order.Ring.Nat
import Mathlib.Data.List.Nodup

/-!
# Thread pools

A pool is a list of threads; a thread is named by its position.  A step of one
thread replaces that thread and may append spawned ones, so positions stay
valid for the whole run.  Tokens are what the threads of a pool hold between
their steps; a step passes the tokens of its thread on and may mint new ones.
-/

namespace TaskService.Library

open List

variable {Thread : Type}

def advance (pool : List Thread) (index : Nat) (thread : Thread) (spawned : List Thread) :
    List Thread :=
  pool.set index thread ++ spawned

variable {found old thread : Thread} {index position : Nat} {pool spawned : List Thread}

theorem advance_cases (lookup : (advance pool index thread spawned)[position]? = some found) :
    (position = index ∧ found = thread) ∨
      (position ≠ index ∧ pool[position]? = some found) ∨
      (pool.length ≤ position ∧ found ∈ spawned) := by
  unfold advance at lookup
  rcases Nat.lt_or_ge position pool.length with inside | outside
  · rw [List.getElem?_append_left (by rwa [length_set])] at lookup
    rcases Nat.decEq position index with different | same
    · rw [List.getElem?_set_ne (Ne.symm different)] at lookup
      exact .inr (.inl ⟨different, lookup⟩)
    · subst same
      rw [List.getElem?_set_self inside] at lookup
      exact .inl ⟨rfl, (Option.some.inj lookup).symm⟩
  · rw [List.getElem?_append_right (by rwa [length_set])] at lookup
    exact .inr (.inr ⟨outside, mem_of_getElem? lookup⟩)

theorem mem_advance_cases (member : found ∈ advance pool index thread spawned) :
    found ∈ thread :: spawned ∨ ∃ position, position ≠ index ∧ pool[position]? = some found := by
  obtain ⟨position, lookup⟩ := mem_iff_getElem?.mp member
  rcases advance_cases lookup with ⟨_, same⟩ | ⟨different, old⟩ | ⟨_, minted⟩
  · rw [same]
    exact .inl mem_cons_self
  · exact .inr ⟨position, different, old⟩
  · exact .inl (mem_cons_of_mem _ minted)

theorem mem_advance_or_mem (member : found ∈ advance pool index thread spawned) :
    found ∈ thread :: spawned ∨ found ∈ pool := by
  rcases mem_advance_cases member with renewed | ⟨_, _, lookup⟩
  · exact .inl renewed
  · exact .inr (mem_of_getElem? lookup)

theorem advance_self (stepping : pool[index]? = some old) :
    (advance pool index thread spawned)[index]? = some thread := by
  have present : index < pool.length := (List.getElem?_eq_some_iff.mp stepping).1
  unfold advance
  rw [List.getElem?_append_left (by rwa [length_set]), List.getElem?_set_self present]

theorem advance_other (different : position ≠ index) (lookup : pool[position]? = some found) :
    (advance pool index thread spawned)[position]? = some found := by
  have inside : position < pool.length := (List.getElem?_eq_some_iff.mp lookup).1
  unfold advance
  rw [List.getElem?_append_left (by rwa [length_set]), List.getElem?_set_ne (Ne.symm different)]
  exact lookup

theorem sum_advance (weight : Thread → Nat) {old : Thread} (thread : Thread) (spawned : List Thread)
    (lookup : pool[index]? = some old) :
    ((advance pool index thread spawned).map weight).sum + weight old =
      (pool.map weight).sum + ((thread :: spawned).map weight).sum := by
  unfold advance
  induction pool generalizing index with
  | nil => simp at lookup
  | cons head tail ih =>
    cases index with
    | zero =>
      cases (show head = old by simpa using lookup)
      simp only [set_cons_zero, cons_append, map_cons, map_append, sum_cons, sum_append]
      omega
    | succ index =>
      have rest := @ih index (by simpa using lookup)
      simp only [set_cons_succ, cons_append, map_cons, sum_cons] at rest ⊢
      omega

theorem weight_le_sum (weight : Thread → Nat) (lookup : pool[index]? = some thread) :
    weight thread ≤ (pool.map weight).sum := by
  have member : weight thread ∈ pool.map weight :=
    mem_map_of_mem (mem_of_getElem? lookup)
  exact le_sum_of_mem member

section Tokens

variable {Token : Type} (tokens : Thread → List Token)

variable {index : Nat} {old thread : Thread} {pool spawned : List Thread} {token : Token}

variable {tokens} in
theorem mem_tokens (lookup : pool[index]? = some thread) (holds : token ∈ tokens thread) :
    token ∈ pool.flatMap tokens :=
  mem_flatMap.mpr ⟨thread, mem_of_getElem? lookup, holds⟩

theorem tokens_advance (thread : Thread) (spawned : List Thread)
    (lookup : pool[index]? = some old) :
    ∃ rest, (pool.flatMap tokens).Perm (tokens old ++ rest) ∧
      ((advance pool index thread spawned).flatMap tokens).Perm
        ((thread :: spawned).flatMap tokens ++ rest) := by
  unfold advance
  induction pool generalizing index with
  | nil => simp at lookup
  | cons head tail ih =>
    cases index with
    | zero =>
      cases (show head = old by simpa using lookup)
      refine ⟨tail.flatMap tokens, List.Perm.refl _, ?_⟩
      simp only [set_cons_zero, cons_append, flatMap_cons, flatMap_append, append_assoc]
      exact perm_append_comm.append_left _
    | succ index =>
      obtain ⟨rest, before, after⟩ := @ih index (by simpa using lookup)
      refine ⟨tokens head ++ rest, ?_, ?_⟩
      · rw [flatMap_cons]
        exact (before.append_left _).trans (perm_append_comm_assoc _ _ _)
      · rw [set_cons_succ, cons_append, flatMap_cons]
        exact (after.append_left _).trans (perm_append_comm_assoc _ _ _)

/-- A token of the advanced pool is passed on or minted by the step, or is held
by a thread that did not step. -/
theorem mem_tokens_advance
    (member : token ∈ (advance pool index thread spawned).flatMap tokens) :
    token ∈ (thread :: spawned).flatMap tokens ∨
      ∃ position other, position ≠ index ∧ pool[position]? = some other ∧ token ∈ tokens other := by
  obtain ⟨found, inside, holds⟩ := mem_flatMap.mp member
  rcases mem_advance_cases inside with renewed | ⟨position, different, lookup⟩
  · exact .inl (mem_flatMap.mpr ⟨found, renewed, holds⟩)
  · exact .inr ⟨position, found, different, lookup, holds⟩

theorem mem_tokens_advance_or_mem
    (member : token ∈ (advance pool index thread spawned).flatMap tokens) :
    token ∈ (thread :: spawned).flatMap tokens ∨ token ∈ pool.flatMap tokens := by
  rcases mem_tokens_advance tokens member with renewed | ⟨_, other, _, lookup, holds⟩
  · exact .inl renewed
  · exact .inr (mem_tokens lookup holds)

theorem mem_tokens_of_other {position : Nat} {other : Thread} (different : position ≠ index)
    (lookup : pool[position]? = some other) (holds : token ∈ tokens other) :
    token ∈ (advance pool index thread spawned).flatMap tokens :=
  mem_tokens (advance_other different lookup) holds

theorem mem_tokens_of_step (stepping : pool[index]? = some old)
    (member : token ∈ (thread :: spawned).flatMap tokens) :
    token ∈ (advance pool index thread spawned).flatMap tokens := by
  obtain ⟨found, among, holds⟩ := mem_flatMap.mp member
  refine mem_flatMap.mpr ⟨found, ?_, holds⟩
  rcases mem_cons.mp among with rfl | minted
  · exact mem_of_getElem? (advance_self stepping)
  · exact mem_append_right _ minted

theorem mem_tokens_advance_of_kept (lookup : pool[index]? = some old)
    (member : token ∈ pool.flatMap tokens)
    (kept : token ∈ tokens old → token ∈ (thread :: spawned).flatMap tokens) :
    token ∈ (advance pool index thread spawned).flatMap tokens := by
  obtain ⟨found, among, holds⟩ := mem_flatMap.mp member
  obtain ⟨position, there⟩ := mem_iff_getElem?.mp among
  by_cases same : position = index
  · subst same
    rw [lookup] at there
    cases there
    exact mem_tokens_of_step tokens lookup (kept holds)
  · exact mem_tokens_of_other tokens same there holds

theorem nodup_tokens_advance (lookup : pool[index]? = some old)
    (distinct : (pool.flatMap tokens).Nodup) (renewed : ((thread :: spawned).flatMap tokens).Nodup)
    (source : ∀ token ∈ (thread :: spawned).flatMap tokens,
      token ∈ tokens old ∨ token ∉ pool.flatMap tokens) :
    ((advance pool index thread spawned).flatMap tokens).Nodup := by
  obtain ⟨rest, before, after⟩ := tokens_advance tokens thread spawned lookup
  rw [before.nodup_iff, nodup_append'] at distinct
  rw [after.nodup_iff, nodup_append']
  refine ⟨renewed, distinct.2.1, ?_⟩
  intro token minted kept
  rcases source token minted with passed | fresh
  · exact distinct.2.2 passed kept
  · exact fresh (before.mem_iff.mpr (mem_append_right _ kept))

theorem position_of_token (distinct : (pool.flatMap tokens).Nodup) {first second : Nat}
    {left right : Thread} (leftAt : pool[first]? = some left) (rightAt : pool[second]? = some right)
    (leftHolds : token ∈ tokens left) (rightHolds : token ∈ tokens right) : first = second := by
  induction pool generalizing first second with
  | nil => simp at leftAt
  | cons head tail ih =>
    rw [flatMap_cons, nodup_append'] at distinct
    obtain ⟨_, tailDistinct, apart⟩ := distinct
    cases first with
    | zero =>
      cases second with
      | zero => rfl
      | succ second =>
        cases (show head = left by simpa using leftAt)
        have member : right ∈ tail := mem_of_getElem? (by simpa using rightAt)
        exact (apart leftHolds (mem_flatMap.mpr ⟨right, member, rightHolds⟩)).elim
    | succ first =>
      cases second with
      | zero =>
        cases (show head = right by simpa using rightAt)
        have member : left ∈ tail := mem_of_getElem? (by simpa using leftAt)
        exact (apart rightHolds (mem_flatMap.mpr ⟨left, member, leftHolds⟩)).elim
      | succ second =>
        exact congrArg Nat.succ (ih tailDistinct (by simpa using leftAt) (by simpa using rightAt))

end Tokens

end TaskService.Library
