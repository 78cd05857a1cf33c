import ScyllaDriver.DriverLocking

/-! Everybody agrees on the outcome of a `DriverFuture`: what a thread has in
hand, what was reported and what the callbacks got all fit the state seen by
the users of the future. -/

namespace ScyllaDriver

/-- What a thread relies on having read. -/
def DriverPc.Agrees (st : FutureState) : DriverPc → Prop
  | .run acts => ∀ cb r, Act.invoke cb r ∈ acts → st = .ready (.converted r)
  | .fireAndNotify _ _ | .blocking _ _ | .readReady => ∃ rr, st = .ready rr
  | .waitForReady _ | .blocked _ _ | .yieldAsyncio => ∀ co, st ≠ .pendingAsyncio co
  | .unreachable => False
  | _ => True

/-- The report is right about the state `st`. -/
def Report.Of (st : FutureState) : Report → Prop
  | .result r | .next r | .repr (some r) => st = .ready (.converted r)
  | .repr none => st.isTerminal = false
  | .done b => b = st.isTerminal
  | .cancelled b =>
    (∃ r, st = .ready (.converted r) ∧ b = isCancelled r) ∨ (st.isTerminal = false ∧ b = false)
  | .timedOut | .yielded _ | .rethrown _ => True

/-- How many conversions there can have been. -/
def FutureState.conversions : FutureState → Nat
  | .ready (.converted _) => 1
  | _ => 0

theorem DriverPc.Agrees.step {st st' : FutureState} {p : DriverPc} (h : p.Agrees st)
    (hs : st.Step st') : p.Agrees st' := by
  cases p with
  | run acts =>
    intro cb r hr
    have he := h cb r hr
    subst he
    cases hs
  | fireAndNotify | blocking | readReady =>
    obtain ⟨rr, rfl⟩ := h
    cases hs
    exact ⟨_, rfl⟩
  | waitForReady | blocked | yieldAsyncio => cases hs <;> simp [DriverPc.Agrees]
  | unreachable => exact h
  | _ => trivial

theorem DriverPc.agrees_acts {reader : Reader} {r : PyResult} :
    (DriverPc.run (reader.acts r)).Agrees (.ready (.converted r)) := by
  intro cb r' h
  cases reader <;> simp_all [Reader.acts]

theorem Reader.reports_of {reader : Reader} {r : PyResult} :
    ∀ x ∈ reader.reports r, x.Of (.ready (.converted r)) := by
  cases reader <;> simp [Reader.reports, Report.Of]

theorem DriverPc.agrees_invoke (acts : List Act) {cbs : List CallbackKind} {r : PyResult}
    (h : ∀ a ∈ acts, ∀ cb r, a ≠ .invoke cb r) :
    (DriverPc.run (acts ++ cbs.map (Act.invoke · r))).Agrees (.ready (.converted r)) := by
  intro cb r' hm
  rcases List.mem_append.mp hm with hm | hm
  · exact absurd rfl (h _ hm cb r')
  · simp_all

/-- A wake may leave a future to push, nothing else leaves more to do. -/
theorem act_todo {s : DriverShared} {a b : Act} (h : b ∈ (s.act a).2) : ∃ f, b = .push f := by
  cases a with
  | wake | wakeByRef =>
    simp only [DriverShared.act] at h
    split at h
    · obtain ⟨f, _, rfl⟩ := List.mem_map.mp h
      exact ⟨f, rfl⟩
    · simp at h
  | _ => simp [DriverShared.act] at h

theorem DriverMove.agrees {s s' : DriverShared} {p : DriverPc} {q : List DriverPc}
    {st : FutureState} (h : DriverMove s p s' q) (hv : Stance s p st) (hp : p.Agrees st) :
    ∀ r ∈ q, r.Agrees (s'.seen q st) := by
  have free := @DriverShared.seen_free s' q st
  cases h with
  | skip hl h =>
    rw [free hl]
    cases h <;> simp_all [DriverPc.Agrees]
  | readConverted hl _ hs =>
    rw [free hl]
    simpa [hs] using DriverPc.agrees_acts
  | throwTokio hl hs =>
    rw [free hl]
    simpa using DriverPc.agrees_invoke [.wake, .notify s.waiters] (by simp)
  | closeTokio hl hs =>
    rw [free hl]
    simpa using DriverPc.agrees_invoke [.notify s.waiters, .wake] (by simp)
  | closeAsyncio hl hs => split <;> simp [DriverPc.Agrees]
  | wait hl hs | waitAgain hl hs => rw [free hl]; simp [DriverPc.Agrees, hs]
  | resultAsyncio hl hs => rw [free hl]; simp [DriverPc.Agrees, DriverShared.started]
  | waitDone hl hs => rw [free hl]; simp [DriverPc.Agrees, hs]
  | waitUnreachable hl hs | wakeUnreachable hl hs =>
    exact absurd (hv.state_eq hl).symm (hs ▸ hp _)
  | fireUnreachable hl hs =>
    obtain ⟨rr, rfl⟩ := hp
    simp [hv.state_eq hl, FutureState.isTerminal] at hs
  | convert hr =>
    subst hr
    rw [free rfl]
    simpa using DriverPc.agrees_acts
  | resolveFinished hl hs =>
    rw [free hl]
    split <;> simp [DriverPc.Agrees]
  | resolveDropped hl hs => rw [free hl]; simp [DriverPc.Agrees]
  | blocking =>
    rw [seen_apart hv rfl rfl (by simp [LockFree, DriverPc.inside])]
    simpa [DriverPc.Agrees] using hp
  | act =>
    rw [seen_act hv]
    intro r hr
    obtain rfl := List.mem_singleton.mp hr
    intro cb r hm
    rcases List.mem_append.mp hm with hm | hm
    · obtain ⟨f, hf⟩ := act_todo hm
      cases hf
    · exact hp cb r (List.mem_cons_of_mem _ hm)
  | store | yieldAsyncio => unfold suspend; split <;> simp [DriverPc.Agrees]
  | _ => simp [DriverPc.Agrees]

theorem DriverMove.reports {s s' : DriverShared} {p : DriverPc} {q : List DriverPc}
    {st : FutureState} (h : DriverMove s p s' q) (hv : Stance s p st) (hp : p.Agrees st) :
    ∃ new, s'.reports = s.reports ++ new ∧ ∀ x ∈ new, x.Of (s'.seen q st) := by
  have free := @DriverShared.seen_free s' q st
  cases h with
  | skip hl h =>
    refine ⟨_, rfl, ?_⟩
    rw [free hl]
    cases h <;> simp_all [Report.Of]
  | readConverted hl _ hs =>
    refine ⟨_, rfl, ?_⟩
    rw [free hl]
    simpa [hs] using Reader.reports_of
  | throwAsyncio hl _ | throwTokio hl _ => exact ⟨_, rfl, by rw [free hl]; simp [Report.Of]⟩
  | waitTimeout | store | yieldAsyncio => exact ⟨_, rfl, by simp [Report.Of]⟩
  | readReadyPending hl hs =>
    obtain ⟨rr, rfl⟩ := hp
    simp [hv.state_eq hl, FutureState.isTerminal] at hs
  | pollPanicked => exact ⟨_, rfl, by rw [free rfl]; simp [Report.Of]⟩
  | convert hr => exact ⟨_, rfl, by rw [free rfl]; simpa using Reader.reports_of⟩
  | act => rw [act_frame]; exact ⟨[], by simp⟩
  | _ => exact ⟨[], (List.append_nil _).symm, List.forall_mem_nil _⟩

theorem DriverMove.invoked {s s' : DriverShared} {p : DriverPc} {q : List DriverPc}
    (h : DriverMove s p s' q) :
    s'.invoked = s.invoked ∨
    ∃ cb r acts, p = .run (.invoke cb r :: acts) ∧ q = [.run acts] ∧
      s'.invoked = s.invoked ++ [(cb, r)] := by
  cases h with
  | @act a acts =>
    cases a with
    | invoke cb r => exact .inr ⟨cb, r, acts, rfl, rfl, rfl⟩
    | wake | wakeByRef => simp only [DriverShared.act]; split <;> exact .inl rfl
    | _ => exact .inl rfl
  | _ => exact .inl rfl

theorem ResolvedResult.conversions_le (resolved : ResolvedResult) : resolved.conversions ≤ 1 := by
  cases resolved with
  | err e => exact Nat.zero_le _
  | stashed future =>
    cases future with
    | mk output => cases output <;> simp [ResolvedResult.conversions]

theorem DriverMove.conversions {s s' : DriverShared} {p : DriverPc} {q : List DriverPc}
    {st : FutureState} (h : DriverMove s p s' q) (hv : Stance s p st)
    (hc : s.conversions ≤ st.conversions) : s'.conversions ≤ (s'.seen q st).conversions := by
  have keep (he : s'.conversions = s.conversions) :
      s'.conversions ≤ (s'.seen q st).conversions := by
    rcases h.life hv with hs | hs
    · rwa [hs, he]
    · generalize s'.seen q st = st' at hs ⊢
      cases hs <;> simp_all [FutureState.conversions]
  cases h with
  | @convert reader resolved r conversion hr =>
    obtain ⟨rfl, _⟩ := hv.inside_eq rfl
    have := resolved.conversions_le
    simp_all [FutureState.conversions, DriverShared.seen]
  | act => exact keep (by rw [act_frame])
  | _ => exact keep rfl

/-- The threads and the histories agree with the state `st` seen by the users. -/
structure Coherent (st : FutureState) (c : Config DriverShared DriverPc) : Prop where
  locking : Locking c st
  threads : ∀ p ∈ c.threads, p.Agrees st
  invoked : ∀ e ∈ c.shared.invoked, st = .ready (.converted e.2)
  conversions : c.shared.conversions ≤ st.conversions

theorem Coherent.ne_panicked {st : FutureState} {c : Config DriverShared DriverPc}
    (h : Coherent st c) : st ≠ .panicked := by
  cases h.locking with
  | unlocked hl hs hT => exact hs
  | held hl hp hi hT =>
    rintro rfl
    unfold DriverPc.inside at hi
    split at hi <;> cases hi

/-- A terminal state that is not the placeholder of a poll is the outcome. -/
theorem Coherent.ready_of_terminal {st : FutureState} {c : Config DriverShared DriverPc}
    (h : Coherent st c) (hterm : c.shared.state.isTerminal = true)
    (hpoll : ∀ p ∈ c.threads, ∀ co, p.inside ≠ some (.pendingAsyncio co)) :
    ∃ rr, st = .ready rr := by
  have hne := h.ne_panicked
  cases h.locking with
  | @unlocked s T hl hs hT =>
    cases he : s.state with
    | ready rr => exact ⟨rr, rfl⟩
    | panicked => exact absurd he hne
    | _ => simp [he, FutureState.isTerminal] at hterm
  | @held s p T st hl hp hi hT =>
    cases p with
    | convert reader resolved => exact ⟨_, (Option.some.inj hi).symm⟩
    | reset co | poll co | park co | store co _ =>
      exact absurd rfl (hpoll _ (Multiset.mem_cons_self _ _) co)
    | _ => cases hi

theorem Coherent.ready_of_quiet {st : FutureState} {c : Config DriverShared DriverPc}
    (h : Coherent st c) (hterm : c.shared.state.isTerminal = true)
    (hquiet : ∀ p ∈ c.threads, ∃ v, p = .suspended v) :
    c.shared.state = st ∧ ∃ rr, st = .ready rr := by
  have hfree : ∀ p ∈ c.threads, p.inside = none := by
    intro p hp
    obtain ⟨v, rfl⟩ := hquiet p hp
    rfl
  refine ⟨?_, h.ready_of_terminal hterm fun p hp co => by simp [hfree p hp]⟩
  cases h.locking with
  | unlocked hl hs hT => rfl
  | @held s p T st hl hp hi hT => simp [hfree p (Multiset.mem_cons_self p T)] at hi

theorem Coherent.move {s s' : DriverShared} {p : DriverPc} {q : List DriverPc}
    {T : Multiset DriverPc} {st : FutureState} (h : Coherent st ⟨s, p ::ₘ T⟩)
    (hm : DriverMove s p s' q) :
    Coherent (s'.seen q st) ⟨s', (q : Multiset DriverPc) + T⟩ := by
  have hv := h.locking.stance
  have hp := h.threads p (Multiset.mem_cons_self p T)
  have hlife := hm.life hv
  constructor
  · exact h.locking.move hm
  · intro r hr
    rcases Multiset.mem_add.mp hr with hr | hr
    · exact hm.agrees hv hp r hr
    · have hr' := h.threads r (Multiset.mem_cons_of_mem hr)
      rcases hlife with hs | hs
      · rwa [hs]
      · exact hr'.step hs
  · have keep (e) (he : e ∈ s.invoked) : s'.seen q st = .ready (.converted e.2) := by
      have hst := h.invoked e he
      subst hst
      rcases hlife with hs | hs
      · exact hs
      · cases hs
    intro e he
    rcases hm.invoked with hi | ⟨cb, r, acts, rfl, rfl, hi⟩
    · exact keep e (hi ▸ he)
    · rcases List.mem_append.mp (hi ▸ he) with he | he
      · exact keep e he
      · obtain rfl := List.mem_singleton.mp he
        have hst := hp cb r List.mem_cons_self
        subst hst
        rcases hlife with hs | hs
        · exact hs
        · cases hs
  · exact hm.conversions hv h.conversions

theorem Coherent.arrive {s s' : DriverShared} {k : DriverEvent} {q : List DriverPc}
    {T : Multiset DriverPc} {st : FutureState} (h : Coherent st ⟨s, T⟩)
    (ha : DriverArrival s k s' q) : Coherent st ⟨s', (q : Multiset DriverPc) + T⟩ := by
  have hframe : s'.invoked = s.invoked ∧ s'.conversions = s.conversions ∧
      ∀ r ∈ q, r.Agrees st := by
    cases ha <;> exact ⟨rfl, rfl, by simp [DriverPc.Agrees]⟩
  obtain ⟨hi, hcv, hq⟩ := hframe
  constructor
  · exact h.locking.arrive ha
  · intro r hr
    rcases Multiset.mem_add.mp hr with hr | hr
    · exact hq r hr
    · exact h.threads r hr
  · rw [hi]; exact h.invoked
  · rw [hcv]; exact h.conversions

theorem DriverShared.IsNew.coherent {s : DriverShared} (h : s.IsNew) {T : Multiset DriverPc}
    (hT : ∀ p ∈ T, ∃ entry, p = .call entry) : Coherent s.state ⟨s, T⟩ := by
  refine ⟨h.locking fun p hp => ?_, fun p hp => ?_, ?_, ?_⟩
  · obtain ⟨entry, rfl⟩ := hT p hp
    rfl
  · obtain ⟨entry, rfl⟩ := hT p hp
    trivial
  all_goals
    cases h <;> simp [DriverShared.spawn, DriverShared.spawnOnTokio, DriverShared.alreadyReady,
      DriverShared.create]

/-- The rule every invariant of a `DriverFuture` is proved with: the moves of
the threads and the arrivals keep it, in runs where everybody agrees. -/
theorem driver_invariant (ok : Config DriverShared DriverPc →
      Label DriverPc Choice DriverEvent → Prop)
    {I : FutureState → Config DriverShared DriverPc → Prop}
    (hmove : ∀ {s s' p q T e st}, ok ⟨s, p ::ₘ T⟩ (.thread p e) → Coherent st ⟨s, p ::ₘ T⟩ →
      I st ⟨s, p ::ₘ T⟩ → driverStep s p e = some (s', q) → DriverMove s p s' q →
      I (s'.seen q st) ⟨s', (q : Multiset DriverPc) + T⟩)
    (harrive : ∀ {s s' k q T st}, ok ⟨s, T⟩ (.env k) → Coherent st ⟨s, T⟩ → I st ⟨s, T⟩ →
      DriverArrival s k s' q → I st ⟨s', (q : Multiset DriverPc) + T⟩)
    {st : FutureState} {c d : Config DriverShared DriverPc} (hc : Coherent st c) (hI : I st c)
    (hr : driverProgram.RunIn ok c d) : ∃ st', Coherent st' d ∧ I st' d := by
  have hp : driverProgram.Preserves ok (fun c => ∃ st, Coherent st c ∧ I st c) := by
    constructor
    · rintro s T p e s' q hok ⟨st, hc, hI⟩ hs
      have hm := driverStep_move hc.locking.clean hs
      exact ⟨_, hc.move hm, hmove hok hc hI hs hm⟩
    · rintro s T k s' q hok ⟨st, hc, hI⟩ hs
      have ha := driverEnv_arrival hs
      exact ⟨st, hc.arrive ha, harrive hok hc hI ha⟩
  exact hp.run ⟨st, hc, hI⟩ hr

end ScyllaDriver
