import Mathlib.Data.Finset.Card

/-! Making a value distinct from those that are taken: it is changed until nobody has it. A
change only ever makes it larger, so the taken values run out. -/

namespace ScyllaDriver

structure Bump (α : Type*) where
  next : α → α
  size : α → Nat
  size_lt : ∀ a, size a < size (next a)

namespace Bump

variable {α : Type*} (bump : Bump α)

theorem card_next_lt {seen : Finset α} {a : α} (h : a ∈ seen) :
    (seen.filter fun b => bump.size (bump.next a) ≤ bump.size b).card <
      (seen.filter fun b => bump.size a ≤ bump.size b).card := by
  have hlt := bump.size_lt a
  apply Finset.card_lt_card
  refine Finset.ssubset_iff_subset_ne.mpr ⟨fun b hb => ?_, fun heq => ?_⟩
  · have hsize := (Finset.mem_filter.mp hb).2
    exact Finset.mem_filter.mpr ⟨(Finset.mem_filter.mp hb).1, by omega⟩
  · have ha : a ∈ seen.filter fun b => bump.size a ≤ bump.size b :=
      Finset.mem_filter.mpr ⟨h, le_rfl⟩
    rw [← heq] at ha
    have hsize := (Finset.mem_filter.mp ha).2
    omega

variable [DecidableEq α]

/-- `while !seen.insert(a) { a = next(a) }`, by what it inserts in the end. -/
def untilNew (seen : Finset α) (a : α) : α :=
  if a ∈ seen then untilNew seen (bump.next a) else a
termination_by (seen.filter fun b => bump.size a ≤ bump.size b).card
decreasing_by exact bump.card_next_lt ‹_›

theorem untilNew_notMem (seen : Finset α) (a : α) : bump.untilNew seen a ∉ seen := by
  fun_induction bump.untilNew seen a with
  | case1 a hmem ih => exact ih
  | case2 a hnew => exact hnew

theorem untilNew_eq_self_iff {seen : Finset α} {a : α} :
    bump.untilNew seen a = a ↔ a ∉ seen := by
  constructor
  · intro h
    rw [← h]
    exact bump.untilNew_notMem seen a
  · intro h
    rw [untilNew, if_neg h]

/-- What every change keeps holds of the value that is changed last. -/
theorem untilNew_eq_next {P : α → Prop} (hnext : ∀ a, P a → P (bump.next a)) {seen : Finset α}
    {a : α} (ha : P a) (hmem : a ∈ seen) : ∃ b, P b ∧ bump.untilNew seen a = bump.next b := by
  fun_induction bump.untilNew seen a with
  | case1 a hmem ih =>
    by_cases hmem' : bump.next a ∈ seen
    · exact ih (hnext a ha) hmem'
    · exact ⟨a, ha, bump.untilNew_eq_self_iff.mpr hmem'⟩
  | case2 a hnew => exact absurd hmem hnew

end Bump

end ScyllaDriver
