import ScyllaDriver.Interleaving
import Mathlib.Data.Multiset.Count

/-! Threads that block until a condition settles, counted so that whoever
settles it may skip the notification when nobody waits. A program in which
every step respects the count loses no wakeup. -/

namespace ScyllaDriver

/-- Where a program keeps its waiters. -/
structure Waiting (σ π : Type*) where
  waiters : σ → Nat
  /-- Notifications so far. -/
  epoch : σ → Nat
  /-- The notifications there had been when the thread last began to wait. -/
  since : π → Option Nat
  /-- The thread is still going to notify. -/
  owes : π → Prop

namespace Waiting

variable {σ π : Type*} (W : Waiting σ π)

def blocked (T : Multiset π) : Nat := T.countP fun p => (W.since p).isSome

/-- A step of `p` that respects the count. The condition may settle only if
nobody waits or somebody will notify, and a thread begins to wait only while
the condition is not settled. -/
structure Respects (settled settled' : Prop) (s : σ) (p : π) (s' : σ) (q : List π) : Prop where
  waiters : W.waiters s' = W.waiters s + W.blocked q - W.blocked {p}
  epoch : W.epoch s ≤ W.epoch s'
  fresh : ∀ r ∈ q, ∀ t, W.since r = some t → t = W.epoch s' ∧ ¬settled'
  owed : W.owes p → W.epoch s < W.epoch s' ∨ ∃ r ∈ q, W.owes r
  settle : settled' → settled ∨ W.waiters s' = 0 ∨ ∃ r ∈ q, W.owes r

/-- The count is right, and once the condition is settled every waiting thread
was notified or is going to be. -/
structure Kept (settled : Prop) (c : Config σ π) : Prop where
  waiters : W.waiters c.shared = W.blocked c.threads
  since : ∀ p ∈ c.threads, ∀ t, W.since p = some t → t ≤ W.epoch c.shared
  notified : settled → ∀ p ∈ c.threads, ∀ t, W.since p = some t →
    t < W.epoch c.shared ∨ ∃ r ∈ c.threads, W.owes r

variable {W} {settled settled' : Prop} {s s' : σ} {p : π} {q : List π} {T : Multiset π}

theorem blocked_add (S T : Multiset π) : W.blocked (S + T) = W.blocked S + W.blocked T :=
  Multiset.countP_add _ S T

theorem blocked_pos (hp : p ∈ T) {t : Nat} (ht : W.since p = some t) : 0 < W.blocked T :=
  Multiset.countP_pos.mpr ⟨p, hp, by simp [ht]⟩

theorem blocked_eq_zero (h : ∀ p ∈ T, W.since p = none) : W.blocked T = 0 :=
  Multiset.countP_eq_zero.mpr fun p hp => by simp [h p hp]

theorem blocked_singleton {t : Nat} (ht : W.since p = some t) : W.blocked {p} = 1 := by
  have := Multiset.countP_cons_of_pos (p := fun p => (W.since p).isSome) 0 (a := p) (by simp [ht])
  simpa [blocked] using this

theorem Respects.apart (hp : W.since p = none) (hq : ∀ r ∈ q, W.since r = none)
    (hw : W.waiters s' = W.waiters s) (he : W.epoch s ≤ W.epoch s')
    (ho : W.owes p → W.epoch s < W.epoch s' ∨ ∃ r ∈ q, W.owes r)
    (hset : settled' → settled ∨ W.waiters s' = 0 ∨ ∃ r ∈ q, W.owes r) :
    W.Respects settled settled' s p s' q := by
  have hzero : W.blocked {p} = 0 :=
    blocked_eq_zero fun r hr => by rwa [Multiset.mem_singleton.mp hr]
  have hnone : W.blocked (q : Multiset π) = 0 := blocked_eq_zero hq
  refine ⟨by omega, he, fun r hr t ht => ?_, ho, hset⟩
  rw [hq r hr] at ht
  cases ht

theorem Respects.begin {r : π} (hp : W.since p = none) (hr : W.since r = some (W.epoch s'))
    (hw : W.waiters s' = W.waiters s + 1) (he : W.epoch s' = W.epoch s) (ho : ¬W.owes p)
    (hset : ¬settled') : W.Respects settled settled' s p s' [r] := by
  have hzero : W.blocked {p} = 0 :=
    blocked_eq_zero fun r hr => by rwa [Multiset.mem_singleton.mp hr]
  have hone : W.blocked ([r] : List π) = 1 := blocked_singleton hr
  refine ⟨by omega, he.ge, fun x hx t ht => ?_, fun h => absurd h ho, fun h => absurd h hset⟩
  obtain rfl := List.mem_singleton.mp hx
  rw [hr] at ht
  exact ⟨(Option.some.inj ht).symm, hset⟩

theorem Respects.again {r : π} {t : Nat} (hp : W.since p = some t)
    (hr : W.since r = some (W.epoch s)) (ho : ¬W.owes p) (hset : ¬settled') :
    W.Respects settled settled' s p s [r] := by
  have hbefore : W.blocked {p} = 1 := blocked_singleton hp
  have hafter : W.blocked ([r] : List π) = 1 := blocked_singleton hr
  refine ⟨by omega, le_rfl, fun x hx t ht => ?_, fun h => absurd h ho, fun h => absurd h hset⟩
  obtain rfl := List.mem_singleton.mp hx
  rw [hr] at ht
  exact ⟨(Option.some.inj ht).symm, hset⟩

theorem Respects.leave {t : Nat} (hp : W.since p = some t) (hq : ∀ r ∈ q, W.since r = none)
    (hw : W.waiters s' = W.waiters s - 1) (he : W.epoch s' = W.epoch s) (ho : ¬W.owes p)
    (hset : settled' → settled) : W.Respects settled settled' s p s' q := by
  have hone : W.blocked {p} = 1 := blocked_singleton hp
  have hnone : W.blocked (q : Multiset π) = 0 := blocked_eq_zero hq
  refine ⟨by omega, he.ge, fun r hr t ht => ?_, fun h => absurd h ho, fun h => .inl (hset h)⟩
  rw [hq r hr] at ht
  cases ht

theorem Kept.step (h : W.Kept settled ⟨s, p ::ₘ T⟩) (hs : W.Respects settled settled' s p s' q) :
    W.Kept settled' ⟨s', (q : Multiset π) + T⟩ := by
  have hcount : W.waiters s' = W.blocked ((q : Multiset π) + T) := by
    have hsplit : W.blocked (p ::ₘ T) = W.blocked {p} + W.blocked T := by
      rw [← Multiset.singleton_add, blocked_add]
    have hbefore : W.waiters s = W.blocked (p ::ₘ T) := h.waiters
    have hafter := hs.waiters
    rw [blocked_add]
    omega
  refine ⟨hcount, ?_, ?_⟩
  · intro r hr t ht
    rcases Multiset.mem_add.mp hr with hr | hr
    · exact (hs.fresh r hr t ht).1.le
    · exact (h.since r (Multiset.mem_cons_of_mem hr) t ht).trans hs.epoch
  · intro hset r hr t ht
    rcases Multiset.mem_add.mp hr with hr' | hr'
    · exact absurd hset (hs.fresh r hr' t ht).2
    · have hle := h.since r (Multiset.mem_cons_of_mem hr') t ht
      rcases hs.settle hset with hold | hzero | ⟨r', hr', ho⟩
      · rcases h.notified hold r (Multiset.mem_cons_of_mem hr') t ht with hlt | ⟨r', hr', ho⟩
        · exact .inl (hlt.trans_le hs.epoch)
        · rcases Multiset.mem_cons.mp hr' with rfl | hr'
          · rcases hs.owed ho with hlt | ⟨r', hr', ho⟩
            · exact .inl (Nat.lt_of_le_of_lt hle hlt)
            · exact .inr ⟨r', Multiset.mem_add.mpr (.inl hr'), ho⟩
          · exact .inr ⟨r', Multiset.mem_add.mpr (.inr hr'), ho⟩
      · have hpos : 0 < W.waiters s' := hcount ▸ blocked_pos hr ht
        omega
      · exact .inr ⟨r', Multiset.mem_add.mpr (.inl hr'), ho⟩

/-- New threads that are not waiting, and a condition that did not settle
without anybody notifying. -/
theorem Kept.arrive (h : W.Kept settled ⟨s, T⟩) (hw : W.waiters s' = W.waiters s)
    (he : W.epoch s' = W.epoch s) (hq : ∀ r ∈ q, W.since r = none)
    (hset : settled' → settled ∨ W.waiters s' = 0 ∨ ∃ r ∈ q, W.owes r) :
    W.Kept settled' ⟨s', (q : Multiset π) + T⟩ := by
  have hold {r t} (hr : r ∈ (q : Multiset π) + T) (ht : W.since r = some t) : r ∈ T := by
    refine (Multiset.mem_add.mp hr).resolve_left fun hr => ?_
    rw [hq r hr] at ht
    cases ht
  have hcount : W.waiters s' = W.blocked ((q : Multiset π) + T) := by
    have hbefore : W.waiters s = W.blocked T := h.waiters
    have hzero : W.blocked (q : Multiset π) = 0 := blocked_eq_zero hq
    rw [blocked_add]
    omega
  refine ⟨hcount, ?_, ?_⟩
  · intro r hr t ht
    have := h.since r (hold hr ht) t ht
    exact this.trans_eq he.symm
  · intro hs r hr t ht
    rcases hset hs with hb | hzero | ⟨r', hr', ho⟩
    · rcases h.notified hb r (hold hr ht) t ht with hlt | ⟨r', hr', ho⟩
      · exact .inl (hlt.trans_eq he.symm)
      · exact .inr ⟨r', Multiset.mem_add.mpr (.inr hr'), ho⟩
    · have hpos : 0 < W.waiters s' := hcount ▸ blocked_pos hr ht
      omega
    · exact .inr ⟨r', Multiset.mem_add.mpr (.inl hr'), ho⟩

theorem Kept.init (hw : W.waiters s = 0) (hT : ∀ p ∈ T, W.since p = none) :
    W.Kept settled ⟨s, T⟩ := by
  refine ⟨hw.trans (blocked_eq_zero hT).symm, fun p hp t ht => ?_, fun _ p hp t ht => ?_⟩ <;>
  · rw [hT p hp] at ht
    cases ht

end Waiting

end ScyllaDriver
