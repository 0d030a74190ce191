import Mathlib.Data.List.Induction
import TaskService.Library.Checks
import TaskService.Library.Table

/-!
# Accounts of named amounts

An account keeps an amount under each of finitely many names; a name without an entry has
the amount zero.  Crediting a list of entries adds their amounts with overflow checks.
Debiting one subtracts them, stopping at zero, and forgets a name whose amount is used up.
-/

namespace TaskService.Library

open List

section

variable {κ : Type} [DecidableEq κ]

def amountAt (account : Table κ Nat) (name : κ) : Nat :=
  (account.lookup name).getD 0

def amountOf (entries : List (κ × Nat)) (name : κ) : Nat :=
  (entries.map fun entry => if entry.1 = name then entry.2 else 0).sum

def credit (bound : Nat) (account : Table κ Nat) (entry : κ × Nat) : Option (Table κ Nat) :=
  (checkedAdd bound (amountAt account entry.1) entry.2).map fun total =>
    account.insert entry.1 total

def creditAll (bound : Nat) : Table κ Nat → List (κ × Nat) → Option (Table κ Nat)
  | account, [] => some account
  | account, entry :: rest =>
      (credit bound account entry).bind fun next => creditAll bound next rest

def debit (account : Table κ Nat) (entry : κ × Nat) : Table κ Nat :=
  match account.lookup entry.1 with
  | none => account
  | some value =>
      if value - entry.2 = 0 then account.erase entry.1
      else account.insert entry.1 (value - entry.2)

def debitAll (account : Table κ Nat) (entries : List (κ × Nat)) : Table κ Nat :=
  entries.foldl debit account

theorem amount_of_cons (entry : κ × Nat) (rest : List (κ × Nat)) (name : κ) :
    amountOf (entry :: rest) name =
      (if entry.1 = name then entry.2 else 0) + amountOf rest name := by
  simp [amountOf]

theorem amount_of_absent {entries : List (κ × Nat)} {name : κ}
    (absent : name ∉ entries.map Prod.fst) : amountOf entries name = 0 := by
  induction entries with
  | nil => rfl
  | cons entry rest ih =>
    rw [map_cons, mem_cons, not_or] at absent
    rw [amount_of_cons, if_neg fun same => absent.1 same.symm, ih absent.2]

theorem amount_of_member {entries : List (κ × Nat)} {name : κ} {amount : Nat}
    (unique : (entries.map Prod.fst).Nodup) (member : (name, amount) ∈ entries) :
    amountOf entries name = amount := by
  induction entries with
  | nil => cases member
  | cons entry rest ih =>
    rw [map_cons, nodup_cons] at unique
    rw [amount_of_cons]
    rcases mem_cons.mp member with rfl | later
    · rw [if_pos rfl, amount_of_absent unique.1, Nat.add_zero]
    · have other : entry.1 ≠ name := fun same =>
        unique.1 (same ▸ mem_map_of_mem later)
      rw [if_neg other, Nat.zero_add, ih unique.2 later]

variable {bound : Nat}

theorem credit_of_fits {account : Table κ Nat} {entry : κ × Nat}
    (fits : amountAt account entry.1 + entry.2 < bound) :
    credit bound account entry =
      some (account.insert entry.1 (amountAt account entry.1 + entry.2)) := by
  unfold credit
  rw [checked_add_eq_some.mpr ⟨fits, rfl⟩]
  rfl

theorem amount_at_insert (account : Table κ Nat) (name other : κ) (amount : Nat) :
    amountAt (account.insert name amount) other =
      if name = other then amount else amountAt account other := by
  unfold amountAt
  rw [Table.lookup_insert_eq]
  by_cases same : name = other
  · rw [if_pos same.symm, if_pos same]
    rfl
  · rw [if_neg fun back => same back.symm, if_neg same]

/-- If the new amounts fit, crediting succeeds, adds what the entries hold, and leaves
entries under the old names and the credited ones only. -/
theorem credit_all_of_fits {account : Table κ Nat} {entries : List (κ × Nat)}
    (fits : ∀ name ∈ entries.map Prod.fst,
      amountAt account name + amountOf entries name < bound) :
    ∃ credited, creditAll bound account entries = some credited ∧
      (∀ name, amountAt credited name = amountAt account name + amountOf entries name) ∧
      ∀ name ∈ credited, name ∈ account ∨ name ∈ entries.map Prod.fst := by
  induction entries generalizing account with
  | nil => exact ⟨account, rfl, fun _ => rfl, fun _ => Or.inl⟩
  | cons entry rest ih =>
    have head : amountAt account entry.1 + entry.2 < bound := by
      have whole := fits entry.1 (mem_cons_self ..)
      rw [amount_of_cons, if_pos rfl] at whole
      omega
    have moved : ∀ name,
        amountAt (account.insert entry.1 (amountAt account entry.1 + entry.2)) name +
            amountOf rest name =
          amountAt account name + amountOf (entry :: rest) name := by
      intro name
      rw [amount_at_insert, amount_of_cons]
      by_cases same : entry.1 = name
      · subst same
        rw [if_pos rfl, if_pos rfl]
        omega
      · rw [if_neg same, if_neg same]
        omega
    have later : ∀ name ∈ rest.map Prod.fst,
        amountAt (account.insert entry.1 (amountAt account entry.1 + entry.2)) name +
          amountOf rest name < bound := by
      intro name member
      rw [moved]
      exact fits name (mem_cons_of_mem _ member)
    obtain ⟨credited, done, amounts, names⟩ := ih later
    refine ⟨credited, ?_, ?_, ?_⟩
    · rw [creditAll, credit_of_fits head]
      exact done
    · intro name
      rw [amounts, moved]
    · intro name member
      rcases names name member with old | credited
      · rcases (AList.mem_insert _).mp old with same | before
        · exact .inr (same ▸ mem_cons_self ..)
        · exact .inl before
      · exact .inr (mem_cons_of_mem _ credited)

theorem amount_at_debit (account : Table κ Nat) (entry : κ × Nat) (name : κ) :
    amountAt (debit account entry) name =
      amountAt account name - if entry.1 = name then entry.2 else 0 := by
  unfold debit
  split
  · rename_i absent
    by_cases same : entry.1 = name
    · subst same
      simp [amountAt, absent]
    · rw [if_neg same]
      rfl
  · rename_i value found
    by_cases same : entry.1 = name
    · subst same
      split
      · rename_i used
        simp [amountAt, found, used]
      · simp [amountAt, found]
    · rw [if_neg same]
      split
      · unfold amountAt
        rw [AList.lookup_erase_ne fun back => same back.symm]
        rfl
      · rw [amount_at_insert, if_neg same]
        rfl

theorem amount_at_debit_all (account : Table κ Nat) (entries : List (κ × Nat)) (name : κ) :
    amountAt (debitAll account entries) name = amountAt account name - amountOf entries name := by
  induction entries generalizing account with
  | nil => rfl
  | cons entry rest ih =>
    rw [debitAll, foldl_cons]
    rw [← debitAll, ih, amount_at_debit, amount_of_cons]
    omega

theorem mem_of_mem_debit {account : Table κ Nat} {entry : κ × Nat} {name : κ}
    (member : name ∈ debit account entry) : name ∈ account := by
  unfold debit at member
  split at member
  · exact member
  · rename_i value found
    split at member
    · exact (AList.mem_erase.mp member).2
    · rcases (AList.mem_insert _).mp member with same | before
      · rw [same]
        exact AList.lookup_isSome.mp (by rw [found]; rfl)
      · exact before

theorem debited_positive {account : Table κ Nat} {entry : κ × Nat}
    (member : entry.1 ∈ debit account entry) : 0 < amountAt (debit account entry) entry.1 := by
  unfold debit at member ⊢
  split at member
  · rename_i absent
    exact absurd member (AList.lookup_eq_none.mp absent)
  · rename_i value found
    split at member
    · exact absurd rfl (AList.mem_erase.mp member).1
    · rename_i left
      rw [if_neg left, amount_at_insert, if_pos rfl]
      omega

/-- A debited account has no new names, and a debited name is left with a positive amount. -/
theorem mem_debit_all {account : Table κ Nat} {entries : List (κ × Nat)} {name : κ}
    (member : name ∈ debitAll account entries) :
    name ∈ account ∧
      (name ∈ entries.map Prod.fst → 0 < amountAt (debitAll account entries) name) := by
  induction entries using List.reverseRecOn with
  | nil => exact ⟨member, fun listed => by cases listed⟩
  | append_singleton earlier entry ih =>
    unfold debitAll at member ⊢
    rw [foldl_append, foldl_cons, foldl_nil] at member ⊢
    have before := mem_of_mem_debit member
    refine ⟨(ih before).1, ?_⟩
    intro listed
    by_cases same : entry.1 = name
    · subst same
      exact debited_positive member
    · rw [amount_at_debit, if_neg same, Nat.sub_zero]
      refine (ih before).2 ?_
      rw [map_append, mem_append] at listed
      rcases listed with listed | last
      · exact listed
      · exact absurd (mem_singleton.mp last).symm same

end

end TaskService.Library
