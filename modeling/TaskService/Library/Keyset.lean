import Mathlib.Data.List.Sort

/-!
# Keyset listings

A listing is read page by page: a page holds the first items behind a cursor, in key order,
and the next request continues at the key of its last item.  What is listed may change between
two requests.
-/

namespace TaskService.Library

open List

variable {α κ σ : Type} [LinearOrder κ]

def behind (key : α → κ) (after : Option κ) (items : List α) : List α :=
  (items.filter fun item => after.all fun cursor => decide (cursor < key item)).insertionSort
    fun left right => key left ≤ key right

/-- A page cut from a listing.  It names a continuation only when more items follow. -/
structure Cut (key : α → κ) (limit : Nat) (items : List α) (after : Option κ) (page : List α)
    (next : Option κ) : Prop where
  first : page = (behind key after items).take limit
  next : next = if limit < (behind key after items).length then page.getLast?.map key else none

/-- Pages requested one after the other, each from the store of its moment, until one names no
continuation. -/
inductive Traversal (reads : σ → Option κ → List α → Option κ → Prop) :
    Option κ → List σ → List α → Prop
  | last (store : σ) (after : Option κ) (page : List α) (read : reads store after page none) :
      Traversal reads after [store] page
  | more (store : σ) (after : Option κ) (cursor : κ) (page : List α) (stores : List σ)
      (seen : List α) (read : reads store after page (some cursor))
      (later : Traversal reads (some cursor) stores seen) :
      Traversal reads after (store :: stores) (page ++ seen)

section Pages

variable {key : α → κ} {limit : Nat} {items page : List α} {after next : Option κ} {item : α}

theorem mem_behind :
    item ∈ behind key after items ↔ item ∈ items ∧ ∀ cursor ∈ after, cursor < key item := by
  unfold behind
  rw [mem_insertionSort, mem_filter]
  simp [Option.all_eq_true]

theorem behind_ordered (key : α → κ) (after : Option κ) (items : List α) :
    (behind key after items).Pairwise fun left right => key left ≤ key right := by
  have : Std.Total fun left right : α => key left ≤ key right :=
    ⟨fun left right => le_total (key left) (key right)⟩
  have : IsTrans α fun left right => key left ≤ key right := ⟨fun _ _ _ => le_trans⟩
  exact pairwise_insertionSort _ _

theorem behind_increasing (distinct : (items.map key).Nodup) :
    (behind key after items).Pairwise fun left right => key left < key right := by
  have different : (behind key after items).Pairwise fun left right => key left ≠ key right := by
    apply pairwise_map.mp
    apply ((perm_insertionSort _ _).map key).nodup_iff.mpr
    exact (filter_sublist.map key).nodup distinct
  exact ((behind_ordered key after items).and different).imp fun both =>
    lt_of_le_of_ne both.1 both.2

theorem Cut.mem (cut : Cut key limit items after page next) (member : item ∈ page) :
    item ∈ items ∧ ∀ cursor ∈ after, cursor < key item := by
  rw [cut.first] at member
  exact mem_behind.mp (mem_of_mem_take member)

theorem Cut.increasing (distinct : (items.map key).Nodup)
    (cut : Cut key limit items after page next) :
    page.Pairwise fun left right => key left < key right := by
  rw [cut.first]
  exact (behind_increasing distinct).sublist (take_sublist _ _)

theorem Cut.cursor {cursor : κ} (distinct : (items.map key).Nodup)
    (cut : Cut key limit items after page (some cursor)) :
    limit < (behind key after items).length ∧ (∃ item ∈ page, key item = cursor) ∧
      ∀ item ∈ page, key item ≤ cursor := by
  have named := cut.next
  split at named
  · rename_i longer
    obtain ⟨last, ends, rfl⟩ := Option.map_eq_some_iff.mp named.symm
    obtain ⟨front, split⟩ := List.getLast?_eq_some_iff.mp ends
    refine ⟨longer, ⟨last, mem_of_getLast? ends, rfl⟩, ?_⟩
    have ordered := cut.increasing distinct
    rw [split, pairwise_append] at ordered
    intro item member
    rw [split, mem_append, mem_singleton] at member
    rcases member with earlier | rfl
    · exact le_of_lt (ordered.2.2 item earlier last (mem_singleton_self last))
    · exact le_refl _
  · cases named

/-- The position of an item behind the cursor is met on the page or lies behind its
continuation. -/
theorem Cut.covers (positive : 0 < limit) (cut : Cut key limit items after page next)
    (member : item ∈ items) (later : ∀ cursor ∈ after, cursor < key item) :
    (∃ other ∈ page, key other = key item) ∨ ∃ cursor, next = some cursor ∧ cursor < key item := by
  have listed : item ∈ behind key after items := mem_behind.mpr ⟨member, later⟩
  have ordered := behind_ordered key after items
  rw [← take_append_drop limit (behind key after items), ← cut.first] at listed ordered
  rcases mem_append.mp listed with first | beyond
  · exact .inl ⟨item, first, rfl⟩
  · have longer : limit < (behind key after items).length := by
      by_contra short
      rw [drop_eq_nil_of_le (Nat.not_lt.mp short)] at beyond
      cases beyond
    have filled : page ≠ [] := by
      intro empty
      have length := congrArg List.length (cut.first.symm.trans empty)
      rw [length_take, length_nil] at length
      omega
    have last := getLast_mem filled
    rcases eq_or_lt_of_le ((pairwise_append.mp ordered).2.2 _ last item beyond) with
      same | less
    · exact .inl ⟨_, last, same⟩
    · refine .inr ⟨_, ?_, less⟩
      rw [cut.next, if_pos longer, List.getLast?_eq_some_getLast filled]
      rfl

theorem Cut.uses {places : List κ} (once : places.Nodup) (distinct : (items.map key).Nodup)
    (known : ∀ item ∈ items, key item ∈ places) (cut : Cut key limit items after page next) :
    page.length + (next.elim 0 fun cursor => (behind id (some cursor) places).length) ≤
      (behind id after places).length := by
  have unique : (page.map key).Nodup :=
    pairwise_map.mpr ((cut.increasing distinct).imp fun less => less.ne)
  have inside : page.map key ⊆ behind id after places := by
    intro place member
    obtain ⟨item, listed, rfl⟩ := mem_map.mp member
    exact mem_behind.mpr ⟨known item (cut.mem listed).1, (cut.mem listed).2⟩
  cases next with
  | none =>
    have count := (subperm_of_subset unique inside).length_le
    rw [length_map] at count
    exact count
  | some cursor =>
    obtain ⟨-, ⟨last, ending, own⟩, least⟩ := cut.cursor distinct
    have both : (page.map key ++ behind id (some cursor) places).Nodup := by
      apply nodup_append.mpr
      refine ⟨unique, (perm_insertionSort _ _).nodup_iff.mpr (once.filter _), ?_⟩
      rintro place first other second rfl
      obtain ⟨item, listed, rfl⟩ := mem_map.mp first
      exact not_lt_of_ge (least item listed) ((mem_behind.mp second).2 cursor rfl)
    have inclusion : page.map key ++ behind id (some cursor) places ⊆ behind id after places := by
      apply append_subset_of_subset_of_subset inside
      intro place far
      obtain ⟨there, later⟩ := mem_behind.mp far
      refine mem_behind.mpr ⟨there, fun earlier given => ?_⟩
      exact ((cut.mem ending).2 earlier given).trans (own ▸ later cursor rfl)
    have count := (subperm_of_subset both inclusion).length_le
    rw [length_append, length_map] at count
    exact count

end Pages

section Traversals

variable {key : α → κ} {limit : Nat} {reads : σ → Option κ → List α → Option κ → Prop}
  {listed : σ → List α} {after : Option κ} {store : σ} {stores : List σ} {seen : List α}

/-- What a store lists has distinct keys, and its pages are cut from that. -/
structure Lists (key : α → κ) (limit : Nat) (reads : σ → Option κ → List α → Option κ → Prop)
    (listed : σ → List α) (store : σ) : Prop where
  distinct : ((listed store).map key).Nodup
  cuts : ∀ after page next, reads store after page next →
    Cut key limit (listed store) after page next

section

variable (lists : ∀ store ∈ stores, Lists key limit reads listed store)
  (traversal : Traversal reads after stores seen)
include lists traversal

theorem Traversal.sound :
    ∀ item ∈ seen, (∃ store ∈ stores, item ∈ listed store) ∧
      ∀ cursor ∈ after, cursor < key item := by
  induction traversal with
  | last store after page read =>
    intro item member
    have cut := (lists store mem_cons_self).cuts _ _ _ read
    exact ⟨⟨store, mem_cons_self, (cut.mem member).1⟩, (cut.mem member).2⟩
  | more store after cursor page stores seen read later ih =>
    have here := lists store mem_cons_self
    have cut := here.cuts _ _ _ read
    intro item member
    rcases mem_append.mp member with first | rest
    · exact ⟨⟨store, mem_cons_self, (cut.mem first).1⟩, (cut.mem first).2⟩
    · obtain ⟨⟨other, among, shown⟩, behindCursor⟩ :=
        ih (fun store member => lists store (mem_cons_of_mem _ member)) item rest
      refine ⟨⟨other, mem_cons_of_mem _ among, shown⟩, ?_⟩
      obtain ⟨-, ⟨last, inside, same⟩, -⟩ := cut.cursor here.distinct
      intro first given
      exact ((cut.mem inside).2 first given).trans (same ▸ behindCursor cursor rfl)

/-- Whatever happens between the pages, no key is met twice. -/
theorem Traversal.increasing : seen.Pairwise fun left right => key left < key right := by
  induction traversal with
  | last store after page read =>
    have here := lists store mem_cons_self
    exact (here.cuts _ _ _ read).increasing here.distinct
  | more store after cursor page stores seen read later ih =>
    have here := lists store mem_cons_self
    have rest := fun store member => lists store (mem_cons_of_mem _ member)
    have cut := here.cuts _ _ _ read
    refine pairwise_append.mpr ⟨cut.increasing here.distinct, ih rest, ?_⟩
    intro left first right beyond
    exact lt_of_le_of_lt ((cut.cursor here.distinct).2.2 left first)
      ((later.sound rest right beyond).2 cursor rfl)

end

theorem Traversal.complete (positive : 0 < limit)
    (lists : ∀ store ∈ stores, Lists key limit reads listed store)
    (traversal : Traversal reads after stores seen) {position : κ}
    (stays : ∀ store ∈ stores, ∃ item ∈ listed store, key item = position)
    (later : ∀ cursor ∈ after, cursor < position) : ∃ item ∈ seen, key item = position := by
  induction traversal with
  | last store after page read =>
    have here := lists store mem_cons_self
    obtain ⟨item, member, rfl⟩ := stays store mem_cons_self
    rcases (here.cuts _ _ _ read).covers positive member later with shown | ⟨cursor, absent, -⟩
    · exact shown
    · cases absent
  | more store after cursor page stores seen read rest ih =>
    have here := lists store mem_cons_self
    obtain ⟨item, member, rfl⟩ := stays store mem_cons_self
    rcases (here.cuts _ _ _ read).covers positive member later with
      ⟨other, shown, same⟩ | ⟨other, same, beyond⟩
    · exact ⟨other, mem_append_left _ shown, same⟩
    · cases same
      obtain ⟨found, among, same⟩ := ih
        (fun store member => lists store (mem_cons_of_mem _ member))
        (fun store member => stays store (mem_cons_of_mem _ member))
        (fun _ given => Option.some.inj given ▸ beyond)
      exact ⟨found, mem_append_right _ among, same⟩

theorem Traversal.exact (positive : 0 < limit) (lists : Lists key limit reads listed store)
    (unchanging : ∀ other ∈ stores, other = store) (traversal : Traversal reads after stores seen) :
    seen = behind key after (listed store) := by
  have all : ∀ other ∈ stores, Lists key limit reads listed other := fun other member =>
    (unchanging other member).symm ▸ lists
  have : Std.Irrefl fun left right : α => key left < key right := ⟨fun _ => lt_irrefl _⟩
  have : Std.Antisymm fun left right : α => key left < key right :=
    ⟨fun _ _ forth back => (lt_asymm forth back).elim⟩
  apply List.Pairwise.eq_of_mem_iff (traversal.increasing all) (behind_increasing lists.distinct)
  intro item
  rw [mem_behind]
  constructor
  · intro member
    obtain ⟨⟨other, among, shown⟩, later⟩ := traversal.sound all item member
    exact ⟨unchanging other among ▸ shown, later⟩
  · rintro ⟨member, later⟩
    obtain ⟨found, among, same⟩ := traversal.complete positive all
      (fun other inside => ⟨item, (unchanging other inside).symm ▸ member, rfl⟩) later
    obtain ⟨⟨other, inside, shown⟩, -⟩ := traversal.sound all found among
    rw [unchanging other inside] at shown
    exact inj_on_of_nodup_map lists.distinct shown member same ▸ among

theorem traversal_ends (lists : Lists key limit reads listed store)
    (answers : ∀ after, ∃ page next, reads store after page next) (after : Option κ) :
    ∃ pages seen, Traversal reads after (List.replicate (pages + 1) store) seen := by
  generalize left : (behind id after ((listed store).map key)).length = remaining
  induction remaining using Nat.strong_induction_on generalizing after with
  | _ remaining ih =>
    obtain ⟨page, next, read⟩ := answers after
    have cut := lists.cuts _ _ _ read
    cases next with
    | none => exact ⟨0, page, .last store after page read⟩
    | some cursor =>
      obtain ⟨-, ⟨last, inside, -⟩, -⟩ := cut.cursor lists.distinct
      have fewer : (behind id (some cursor) ((listed store).map key)).length < remaining := by
        have uses := cut.uses lists.distinct lists.distinct fun _ => mem_map_of_mem
        have filled := length_pos_of_mem inside
        rw [Option.elim_some, left] at uses
        omega
      obtain ⟨pages, seen, rest⟩ := ih _ fewer (some cursor) rfl
      exact ⟨pages + 1, page ++ seen, .more store after cursor page _ seen read rest⟩

end Traversals

end TaskService.Library
