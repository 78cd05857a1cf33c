import ScyllaDriver.FollowedCalls
import ScyllaDriver.MutualExclusion

/-! A lock around the critical sections of a program in which each of them is one step. A
thread takes the lock before the step and gives it back with it; others wait meanwhile. -/

namespace ScyllaDriver

structure UnderLock (σ : Type*) where
  state : σ
  locked : Bool

inductive GuardedPc (π : Type*) where
  | outside (p : π)
  /-- With the lock held, before the step of the critical section. -/
  | inside (p : π)
  /-- A section that only reads the state. -/
  | look
  | looking
  deriving DecidableEq

inductive GuardedEvent (κ : Type*) where
  | event (k : κ)
  | look

variable {σ π ε κ : Type*}

def GuardedPc.isInside : GuardedPc π → Bool
  | .inside _ | .looking => true
  | _ => false

/-- The thread of the program that this one is. -/
def GuardedPc.thread : GuardedPc π → Option π
  | .outside p | .inside p => some p
  | _ => none

def Program.guarded (P : Program σ π ε κ) (critical : π → Bool) :
    Program (UnderLock σ) (GuardedPc π) ε (GuardedEvent κ) where
  step s
    | .outside p, e =>
      if critical p then if s.locked then none else some ({ s with locked := true }, [.inside p])
      else (P.step s.state p e).map fun r => ({ s with state := r.1 }, r.2.map .outside)
    | .inside p, e => (P.step s.state p e).map fun r => (⟨r.1, false⟩, r.2.map .outside)
    | .look, _ => if s.locked then none else some ({ s with locked := true }, [.looking])
    | .looking, _ => some ({ s with locked := false }, [])
  env s
    | .event k => (P.env s.state k).map fun r => ({ s with state := r.1 }, r.2.map .outside)
    | .look => some (s, [.look])

/-- The program without its lock. -/
def Config.unguarded (c : Config (UnderLock σ) (GuardedPc π)) : Config σ π :=
  ⟨c.shared.state, c.threads.filterMap GuardedPc.thread⟩

section Sections

variable {P : Program σ π ε κ} {critical : π → Bool}
  {ok : Config (UnderLock σ) (GuardedPc π) → Label (GuardedPc π) ε (GuardedEvent κ) → Prop}
  {ok' : Config σ π → Label π ε κ → Prop} {c d : Config (UnderLock σ) (GuardedPc π)}

theorem Config.unguarded_cons {s : UnderLock σ} {r : GuardedPc π} {p : π}
    {T : Multiset (GuardedPc π)} (h : r.thread = some p) :
    Config.unguarded ⟨s, r ::ₘ T⟩ = ⟨s.state, p ::ₘ T.filterMap GuardedPc.thread⟩ := by
  rw [unguarded, Multiset.filterMap_cons_some _ _ _ h]

theorem Config.unguarded_cons_look {s : UnderLock σ} {r : GuardedPc π} {T : Multiset (GuardedPc π)}
    (h : r.thread = none) :
    Config.unguarded ⟨s, r ::ₘ T⟩ = ⟨s.state, T.filterMap GuardedPc.thread⟩ := by
  rw [unguarded, Multiset.filterMap_cons_none _ _ h]

theorem filterMap_outside (q : List π) :
    ((q.map GuardedPc.outside : List (GuardedPc π)) : Multiset (GuardedPc π)).filterMap
      GuardedPc.thread = q := by
  simp [List.filterMap_map, Function.comp_def, GuardedPc.thread]

theorem Config.unguarded_add (s : UnderLock σ) (q : List π) (T : Multiset (GuardedPc π)) :
    Config.unguarded ⟨s, ((q.map .outside : List (GuardedPc π)) : Multiset (GuardedPc π)) + T⟩ =
      ⟨s.state, (q : Multiset π) + T.filterMap GuardedPc.thread⟩ := by
  rw [unguarded, Multiset.filterMap_add, filterMap_outside]

/-- Taking the lock changes nothing else, and a critical section is the step it was. -/
theorem Program.guarded_runIn [DecidableEq π] (hthread : ∀ c p e, ok' c (.thread p e))
    (henv : ∀ c k, ok c (.env (.event k)) → ok' c.unguarded (.env k))
    (hr : (P.guarded critical).RunIn ok c d) : P.RunIn ok' c.unguarded d.unguarded := by
  induction hr with
  | refl => exact .refl
  | @tail b d _ hstep ih =>
    refine ih.trans ?_
    obtain ⟨l, hok, hn⟩ := hstep
    rcases Program.next_cases hn with ⟨p, e, T, s, q, rfl, hb, hs, rfl⟩ | ⟨k, s, q, rfl, hs, rfl⟩
    · rw [hb]
      have htaken {p : π} {s' : σ} {q' : List π} (hp : P.step b.shared.state p e = some (s', q')) :
          P.RunIn ok' ⟨b.shared.state, p ::ₘ T.filterMap GuardedPc.thread⟩
            ⟨s', (q' : Multiset π) + T.filterMap GuardedPc.thread⟩ :=
        P.runIn_thread (hthread _ p e) hp
      cases p with
      | outside p =>
        rw [Config.unguarded_cons rfl]
        simp only [guarded] at hs
        split at hs
        · split at hs
          · cases hs
          · cases hs
            exact (Config.unguarded_cons (r := .inside p) rfl) ▸ .refl
        · obtain ⟨r, hr, he⟩ := Option.map_eq_some_iff.mp hs
          cases he
          rw [Config.unguarded_add]
          exact htaken hr
      | inside p =>
        rw [Config.unguarded_cons rfl]
        obtain ⟨r, hr, he⟩ := Option.map_eq_some_iff.mp hs
        cases he
        rw [Config.unguarded_add]
        exact htaken hr
      | look =>
        rw [Config.unguarded_cons_look rfl]
        simp only [guarded] at hs
        split at hs
        · cases hs
        · cases hs
          exact (Config.unguarded_cons_look (r := (.looking : GuardedPc π)) rfl) ▸ .refl
      | looking =>
        rw [Config.unguarded_cons_look rfl]
        cases hs
        rw [Multiset.coe_nil, zero_add]
        exact .refl
    · cases k with
      | event k =>
        obtain ⟨r, hr, he⟩ := Option.map_eq_some_iff.mp hs
        cases he
        rw [Config.unguarded_add]
        exact P.runIn_env (henv b k hok) hr
      | look =>
        cases hs
        exact (Config.unguarded_cons_look (r := (.look : GuardedPc π)) rfl) ▸ .refl

/-- At most one thread is inside, the lock says so, and it is in a critical section. -/
structure Sectioned (critical : π → Bool) (c : Config (UnderLock σ) (GuardedPc π)) : Prop where
  oneInside : OneInside GuardedPc.isInside c.shared.locked c.threads
  critical : ∀ p, .inside p ∈ c.threads → critical p = true

theorem OneInside.outside {T : Multiset (GuardedPc π)} {locked : Bool}
    (h : OneInside GuardedPc.isInside locked T) (q : List π) :
    OneInside GuardedPc.isInside locked
      (((q.map .outside : List (GuardedPc π)) : Multiset (GuardedPc π)) + T) := by
  induction q with
  | nil => simpa using h
  | cons p q ih =>
    rw [List.map_cons, ← Multiset.cons_coe, Multiset.cons_add]
    exact ih.cons rfl

theorem OneInside.rest {p : GuardedPc π} {T : Multiset (GuardedPc π)} {locked : Bool}
    (h : OneInside GuardedPc.isInside locked (p ::ₘ T)) :
    OneInside GuardedPc.isInside (locked && !p.isInside) T := by
  unfold OneInside at h ⊢
  rw [OneInside.countP_cons] at h
  cases locked <;> cases hp : p.isInside <;> simp_all

theorem Program.preserves_sectioned :
    (P.guarded critical).Preserves (fun _ _ => True) (Sectioned critical) := by
  have houtside {q : List π} {T : Multiset (GuardedPc π)}
      (h : ∀ p, .inside p ∈ T → critical p = true) :
      ∀ p, .inside p ∈ ((q.map .outside : List (GuardedPc π)) : Multiset (GuardedPc π)) + T →
        critical p = true := by
    intro p hp
    rcases Multiset.mem_add.mp hp with hp | hp
    · simp at hp
    · exact h p hp
  constructor
  · intro s T p e s' q _ h hs
    have hrest := h.oneInside.rest
    have hT : ∀ p, .inside p ∈ T → critical p = true := fun p hp =>
      h.critical p (Multiset.mem_cons_of_mem hp)
    have enters {p' : GuardedPc π} (hout : p.isInside = false) (hin : p'.isInside = true)
        (hfree : s.locked = false) (hp' : ∀ r, p' = .inside r → critical r = true) :
        Sectioned critical ⟨{ s with locked := true }, p' ::ₘ T⟩ := by
      refine ⟨h.oneInside.step ?_, fun r hr => ?_⟩
      · rw [hfree]
        exact .enters hout hin
      · rcases Multiset.mem_cons.mp hr with hr | hr
        · exact hp' r hr.symm
        · exact hT r hr
    cases p with
    | outside p =>
      simp only [guarded] at hs
      split at hs
      · rename_i hcritical
        split at hs
        · cases hs
        · rename_i hl
          cases hs
          exact enters rfl rfl (by simpa using hl) fun r hr => by cases hr; exact hcritical
      · obtain ⟨r, _, he⟩ := Option.map_eq_some_iff.mp hs
        cases he
        have hkeep : OneInside GuardedPc.isInside s.locked T := by
          simpa [GuardedPc.isInside] using hrest
        exact ⟨hkeep.outside r.2, houtside hT⟩
    | inside p =>
      obtain ⟨r, _, he⟩ := Option.map_eq_some_iff.mp hs
      cases he
      have hfree : OneInside GuardedPc.isInside false T := by
        simpa [GuardedPc.isInside] using hrest
      exact ⟨hfree.outside r.2, houtside hT⟩
    | look =>
      simp only [guarded] at hs
      split at hs
      · cases hs
      · rename_i hl
        cases hs
        exact enters rfl rfl (by simpa using hl) nofun
    | looking =>
      cases hs
      have hfree : OneInside GuardedPc.isInside false T := by
        simpa [GuardedPc.isInside] using hrest
      rw [Multiset.coe_nil, zero_add]
      exact ⟨hfree, hT⟩
  · intro s T k s' q _ h hs
    cases k with
    | event k =>
      obtain ⟨r, _, he⟩ := Option.map_eq_some_iff.mp hs
      cases he
      exact ⟨h.oneInside.outside r.2, houtside h.critical⟩
    | look =>
      cases hs
      refine ⟨h.oneInside.cons rfl, fun r hr => ?_⟩
      rcases Multiset.mem_cons.mp hr with hr | hr
      · cases hr
      · exact h.critical r hr

end Sections

section Calls

variable [DecidableEq π] {P : Program σ π ε κ} {critical : π → Bool}
  {ok : Config (UnderLock σ) (GuardedPc π) → Label (GuardedPc π) ε (GuardedEvent κ) → Prop}
  {still : Multiset (GuardedPc π)} {x : Followed (UnderLock σ) (GuardedPc π)}

/-- Where no critical section is stuck, the lock is given back, unless the thread that holds it
stands still. -/
theorem Sectioned.release (h : Sectioned critical (x.config still))
    (hruns : ∀ s p, critical p = true → ∃ e r, P.step s p e = some r)
    (hok : ∀ c r e, r.isInside = true → ok c (.thread r e)) (hpc : x.pc.isInside = false)
    (hstill : ∀ r ∈ still, r.isInside = false) [Nonempty ε] :
    ∃ y, (P.guarded critical).Follow ok still x y ∧ y.pc = x.pc ∧ y.shared.locked = false ∧
      ∀ r ∈ x.others, r.isInside = false → r ∈ y.others := by
  obtain ⟨s, p, T⟩ := x
  cases hl : s.locked with
  | false => exact ⟨_, .refl, rfl, hl, fun r hr _ => hr⟩
  | true =>
    obtain ⟨r, hr, hin⟩ := h.oneInside.exists_inside hl
    have hmem : r ∈ T := by
      rcases Multiset.mem_cons.mp hr with rfl | hr
      · cases hpc.symm.trans hin
      · refine (Multiset.mem_add.mp hr).resolve_right fun hr => ?_
        cases (hstill r hr).symm.trans hin
    have hkeep {q : Multiset (GuardedPc π)} :
        ∀ z ∈ T, z.isInside = false → z ∈ q + T.erase r := by
      intro z hz hout
      refine Multiset.mem_add.mpr (.inr ((Multiset.mem_erase_of_ne ?_).mpr hz))
      rintro rfl
      cases hout.symm.trans hin
    cases r with
    | inside r =>
      obtain ⟨e, ⟨s', q⟩, hstep⟩ := hruns s.state r (h.critical r hr)
      have hguarded : (P.guarded critical).step s (.inside r) e =
          some (⟨s', false⟩, q.map .outside) := by
        simp [Program.guarded, hstep]
      exact ⟨_, .step_other hmem (hok _ _ e rfl) hguarded, rfl, rfl, hkeep⟩
    | looking =>
      obtain ⟨e⟩ := (inferInstance : Nonempty ε)
      exact ⟨_, .step_other hmem (hok _ _ e rfl) rfl, rfl, rfl, hkeep⟩
    | _ => cases hin

end Calls

end ScyllaDriver
