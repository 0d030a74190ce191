import Mathlib.Algebra.Order.Ring.Nat
import Mathlib.Data.List.AList

/-!
# Keyed tables

A table holds at most one row for each key.  It is Mathlib's association list
at a fixed row type, with the row listing a scan iterates over.
-/

namespace TaskService.Library

open List

/-- A finite map from keys to rows of one type. -/
abbrev Table (κ ν : Type) := AList (fun _ : κ => ν)

section

variable {κ ν : Type}

def Table.values (table : Table κ ν) : List ν :=
  table.entries.map Sigma.snd

variable [DecidableEq κ]

theorem Table.mem_values_iff (table : Table κ ν) (row : ν) :
    row ∈ table.values ↔ ∃ key, table.lookup key = some row := by
  unfold Table.values
  rw [mem_map]
  constructor
  · rintro ⟨⟨key, value⟩, member, rfl⟩
    exact ⟨key, AList.mem_lookup_iff.mpr member⟩
  · rintro ⟨key, found⟩
    exact ⟨⟨key, row⟩, AList.mem_lookup_iff.mp found, rfl⟩

theorem Table.lookup_insert_eq (table : Table κ ν) (key other : κ) (row : ν) :
    (table.insert key row).lookup other = if other = key then some row else table.lookup other := by
  by_cases same : other = key
  · subst same
    rw [AList.lookup_insert, if_pos rfl]
  · rw [AList.lookup_insert_ne same, if_neg same]

theorem Table.lookup_erase_eq (table : Table κ ν) (key other : κ) :
    (table.erase key).lookup other = if other = key then none else table.lookup other := by
  by_cases same : other = key
  · subst same
    rw [AList.lookup_erase, if_pos rfl]
  · rw [AList.lookup_erase_ne same, if_neg same]

def Table.mapRows {μ : Type} (convert : ν → μ) (table : Table κ ν) : Table κ μ :=
  { entries := table.entries.map (.map id fun _ => convert)
    nodupKeys := List.NodupKeys.map₂ (fun _ => convert) _ table.nodupKeys }

/-- Tables that show the same under every key are scanned to the same rows, up to order. -/
theorem Table.scan_perm {μ ρ : Type} (left : Table κ ν) (right : Table κ μ)
    (first : κ → ν → ρ) (second : κ → μ → ρ)
    (same : ∀ key, (left.lookup key).map (first key) = (right.lookup key).map (second key)) :
    (left.entries.map fun entry => first entry.1 entry.2).Perm
      (right.entries.map fun entry => second entry.1 entry.2) := by
  have shown := lookup_ext (List.NodupKeys.map₂ first _ left.nodupKeys)
    (List.NodupKeys.map₂ second _ right.nodupKeys) (by
      intro key row
      rw [dlookup_map₂, dlookup_map₂]
      exact iff_of_eq (congrArg (row ∈ ·) (same key)))
  have rows := shown.map Sigma.snd
  rw [map_map, map_map] at rows
  exact rows

theorem Table.values_insert_new (table : Table κ ν) (key : κ) (row : ν)
    (absent : table.lookup key = none) :
    Table.values (table.insert key row) = row :: table.values := by
  unfold Table.values
  rw [AList.entries_insert_of_notMem (AList.lookup_eq_none.mp absent)]
  rfl

theorem Table.values_erase_perm (table : Table κ ν) (key : κ) (row : ν)
    (found : table.lookup key = some row) :
    table.values.Perm (row :: Table.values (table.erase key)) := by
  have member : key ∈ table.entries.keys :=
    mem_keys_of_mem (AList.mem_lookup_iff.mp found)
  obtain ⟨value, first, second, absent, split, erased⟩ := exists_of_kerase member
  have same : value = row := by
    have inside : (⟨key, value⟩ : Sigma fun _ : κ => ν) ∈ table.entries := by
      rw [split]
      exact mem_append_right _ (mem_cons_self ..)
    exact Option.some.inj ((AList.mem_lookup_iff.mpr inside).symm.trans found)
  subst same
  unfold Table.values
  rw [split, show (AList.erase key table).entries = first ++ second from erased]
  simp only [map_append, map_cons]
  exact perm_middle

def Table.total (measure : ν → Nat) (table : Table κ ν) : Nat :=
  (table.values.map measure).sum

theorem Table.total_erase (measure : ν → Nat) (table : Table κ ν) (key : κ) (row : ν)
    (found : table.lookup key = some row) :
    Table.total measure (table.erase key) + measure row = Table.total measure table := by
  have scanned := ((table.values_erase_perm key row found).map measure).sum_nat
  rw [map_cons, sum_cons] at scanned
  unfold Table.total
  omega

theorem Table.total_insert_new (measure : ν → Nat) (table : Table κ ν) (key : κ) (row : ν)
    (absent : table.lookup key = none) :
    Table.total measure (table.insert key row) = measure row + Table.total measure table := by
  unfold Table.total
  rw [table.values_insert_new key row absent, map_cons, sum_cons]

omit [DecidableEq κ] in
theorem Table.exists_of_total_pos {measure : ν → Nat} {table : Table κ ν}
    (positive : 0 < Table.total measure table) : ∃ row ∈ table.values, 0 < measure row := by
  unfold Table.total at positive
  generalize table.values = rows at positive ⊢
  induction rows with
  | nil => cases positive
  | cons row rest ih =>
    rw [map_cons, sum_cons] at positive
    by_cases here : 0 < measure row
    · exact ⟨row, mem_cons_self .., here⟩
    · obtain ⟨other, member, counted⟩ := ih (by omega)
      exact ⟨other, mem_cons_of_mem _ member, counted⟩

theorem Table.total_insert_old (measure : ν → Nat) (table : Table κ ν) (key : κ) (old row : ν)
    (found : table.lookup key = some old) :
    Table.total measure (table.insert key row) + measure old =
      measure row + Table.total measure table := by
  have erased := Table.total_erase measure table key old found
  have inserted : Table.total measure (table.insert key row) =
      measure row + Table.total measure (table.erase key) := by
    unfold Table.total Table.values
    rw [AList.entries_insert, map_cons, map_cons, sum_cons]
    rfl
  omega

/-- The rows that pass a test, listed by their keys, and the rows that fail it make up the
total. -/
theorem Table.total_listed (measure : ν → Nat) (test : ν → Bool) (table : Table κ ν)
    (keys : List κ) (unique : keys.Nodup)
    (listed : ∀ key, key ∈ keys ↔ ∃ row, table.lookup key = some row ∧ test row = true) :
    ((keys.filterMap fun key => table.lookup key).map measure).sum +
        Table.total (fun row => if test row then 0 else measure row) table =
      Table.total measure table := by
  -- Induction on the keys: the first one is erased from the table.
  induction keys generalizing table with
  | nil =>
    have failing : ∀ row ∈ table.values, test row = false := by
      intro row member
      obtain ⟨key, found⟩ := (table.mem_values_iff row).mp member
      by_contra passing
      have absurdity := (listed key).mpr ⟨row, found, Bool.eq_true_of_not_eq_false passing⟩
      cases absurdity
    simp only [filterMap_nil, map_nil, sum_nil, Nat.zero_add]
    unfold Table.total
    congr 1
    apply map_congr_left
    intro row member
    simp [failing row member]
  | cons first rest ih =>
    obtain ⟨absent, restUnique⟩ := nodup_cons.mp unique
    obtain ⟨row, found, passing⟩ := (listed first).mp (mem_cons_self ..)
    have others : ∀ key, key ∈ rest ↔
        ∃ row, (table.erase first).lookup key = some row ∧ test row = true := by
      intro key
      rw [Table.lookup_erase_eq]
      by_cases same : key = first
      · subst same
        simp [absent]
      · have member := listed key
        rw [mem_cons] at member
        simp only [same, false_or] at member
        rw [if_neg same]
        exact member
    have kept : rest.filterMap (fun key => (table.erase first).lookup key) =
        rest.filterMap fun key => table.lookup key := by
      apply filterMap_congr
      intro key member
      rw [Table.lookup_erase_eq, if_neg]
      rintro rfl
      exact absent member
    have remaining := ih (table.erase first) restUnique others
    have all := Table.total_erase measure table first row found
    have failed := Table.total_erase (fun row => if test row then 0 else measure row) table first
      row found
    simp only [passing, if_true] at failed
    rw [kept] at remaining
    simp only [filterMap_cons, found, map_cons, sum_cons]
    omega

omit [DecidableEq κ] in
theorem Table.total_indicator (test : ν → Bool) (table : Table κ ν) :
    Table.total (fun row => if test row then 1 else 0) table =
      (table.values.filter test).length := by
  unfold Table.total
  induction table.values with
  | nil => rfl
  | cons row rest ih =>
    simp only [map_cons, sum_cons, ih, filter_cons]
    split
    · simp only [length_cons]
      omega
    · simp

end

end TaskService.Library
