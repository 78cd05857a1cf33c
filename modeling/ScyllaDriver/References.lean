import Mathlib.Data.Multiset.Bind
import ScyllaDriver.Interleaving

/-! Allocations that live as long as they are referenced. Once the last reference to an
address is dropped the allocator may give the address out again, so an address tells
allocations apart only while they are held. -/

namespace ScyllaDriver

/-- What the addresses hold, and the number of references to each. -/
structure Memory (V : Type*) where
  content : Nat → V
  strong : Nat → Nat

namespace Memory

variable {V : Type*}

def cloneAll (m : Memory V) (more : Multiset Nat) : Memory V :=
  { m with strong := fun a => m.strong a + more.count a }

def dropAll (m : Memory V) (fewer : Multiset Nat) : Memory V :=
  { m with strong := fun a => m.strong a - fewer.count a }

def clone (m : Memory V) (a : Nat) : Memory V := m.cloneAll {a}

def drop (m : Memory V) (a : Nat) : Memory V := m.dropAll {a}

/-- An allocation at an address that nothing references. -/
def allocate (m : Memory V) (a : Nat) (v : V) : Option (Memory V) :=
  if m.strong a = 0 then
    some ⟨Function.update m.content a v, Function.update m.strong a 1⟩
  else none

/-- The references are `refs`, each as often as it is held. -/
def Counts (m : Memory V) (refs : Multiset Nat) : Prop := ∀ a, m.strong a = refs.count a

variable {m m' : Memory V} {refs : Multiset Nat} {a : Nat} {v : V}

theorem allocate_eq_some (h : m.allocate a v = some m') : m.strong a = 0 ∧
    m' = ⟨Function.update m.content a v, Function.update m.strong a 1⟩ := by
  unfold allocate at h
  split at h
  · rename_i hfree
    exact ⟨hfree, (Option.some.inj h).symm⟩
  · cases h

theorem content_allocate (h : m.allocate a v = some m') : m'.content a = v := by
  obtain ⟨-, rfl⟩ := allocate_eq_some h
  exact Function.update_self a v m.content

namespace Counts

theorem cloneAll (h : m.Counts refs) (more : Multiset Nat) :
    (m.cloneAll more).Counts (more + refs) := by
  intro a
  simp [Memory.cloneAll, h a, add_comm]

theorem dropAll {fewer : Multiset Nat} (h : m.Counts (fewer + refs)) :
    (m.dropAll fewer).Counts refs := by
  intro a
  simp [Memory.dropAll, h a]

theorem clone (h : m.Counts refs) (a : Nat) : (m.clone a).Counts ({a} + refs) := h.cloneAll {a}

theorem drop (h : m.Counts ({a} + refs)) : (m.drop a).Counts refs := h.dropAll

theorem strong_pos (h : m.Counts refs) (ha : a ∈ refs) : 0 < m.strong a := by
  rw [h a]
  exact Multiset.count_pos.mpr ha

theorem not_mem_of_allocate (h : m.Counts refs) (hm : m.allocate a v = some m') : a ∉ refs := by
  intro ha
  have hpos := h.strong_pos ha
  have hfree := (allocate_eq_some hm).1
  omega

theorem allocate (h : m.Counts refs) (hm : m.allocate a v = some m') :
    m'.Counts ({a} + refs) := by
  have hnew := h.not_mem_of_allocate hm
  obtain ⟨-, rfl⟩ := allocate_eq_some hm
  rw [Multiset.singleton_add]
  intro b
  by_cases hb : b = a
  · subst hb
    simp [Multiset.count_eq_zero_of_notMem hnew]
  · simp [Function.update_of_ne hb, Multiset.count_cons_of_ne hb, h b]

/-- An allocation leaves everything alone that is referenced. -/
theorem content_of_allocate (h : m.Counts refs) (hm : m.allocate a v = some m') {b : Nat}
    (hb : b ∈ refs) : m'.content b = m.content b := by
  have hne : b ≠ a := fun hba => h.not_mem_of_allocate hm (hba ▸ hb)
  obtain ⟨-, rfl⟩ := allocate_eq_some hm
  exact Function.update_of_ne hne v m.content

end Counts

end Memory

/-- The references that a configuration holds, in its state and by its threads. -/
def Config.refs {σ π : Type*} (held : σ → Multiset Nat) (holds : π → Multiset Nat)
    (c : Config σ π) : Multiset Nat :=
  held c.shared + c.threads.bind holds

section Holding

variable {σ π : Type*} {held : σ → Multiset Nat} {holds : π → Multiset Nat} {s s' : σ} {p : π}
  {q : List π} {T : Multiset π}

/-- The references of a thread, apart from those of the others. -/
theorem Config.refs_cons : Config.refs held holds ⟨s, p ::ₘ T⟩ =
    held s + holds p + T.bind holds := by
  simp [Config.refs, Multiset.cons_bind, add_assoc]

theorem Config.refs_add : Config.refs held holds ⟨s, (q : Multiset π) + T⟩ =
    held s + (q : Multiset π).bind holds + T.bind holds := by
  simp [Config.refs, Multiset.add_bind, add_assoc]

theorem Config.mem_refs_shared {a : Nat} (ha : a ∈ held s) :
    a ∈ Config.refs held holds ⟨s, T⟩ :=
  Multiset.mem_add.mpr (.inl ha)

theorem Config.mem_refs_thread {a : Nat} (hp : p ∈ T) (ha : a ∈ holds p) :
    a ∈ Config.refs held holds ⟨s, T⟩ :=
  Multiset.mem_add.mpr (.inr (Multiset.mem_bind.mpr ⟨p, hp, ha⟩))

end Holding

end ScyllaDriver
