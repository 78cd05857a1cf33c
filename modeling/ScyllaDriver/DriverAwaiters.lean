import ScyllaDriver.DriverWaker

/-! Several tasks awaiting one `DriverFuture`. The slot of the waker has room
for one parked future, so a task that polls or throws can lose the future
another one waits on. As long as no step does that, every future handed out is
accounted for. -/

namespace ScyllaDriver

/-- A task waits on `f`, parked in the slot. -/
def DriverShared.Parked (s : DriverShared) (f : AioFuture) : Prop :=
  s.waker = some (.parked f) ∧ s.batcher.shared.status f = .pending

/-- The steps that lose a parked future: a poll that resets the slot, an
exception thrown into a future that no thread wakes for, and parking on a
future whose last wake is over. -/
def Losing (c : Config DriverShared DriverPc) : Label DriverPc Choice DriverEvent → Prop
  | .thread (.reset _) _ => ∃ f, c.shared.Parked f
  | .thread (.call (.throw _)) _ =>
    (∃ co, c.shared.state = .pendingAsyncio co) ∧ ∃ f, c.shared.Parked f
  | .thread .yieldAsyncio _ =>
    c.shared.state.isTerminal = true ∧ c.shared.waker ≠ some .woken ∧ ¬ WakePending c
  | _ => False

/-- The runtime and the loop stay up, and the step loses no parked future. -/
def Attentive (c : Config DriverShared DriverPc) (l : Label DriverPc Choice DriverEvent) : Prop :=
  l ≠ .env .shutdown ∧ l ≠ .env (.batcher (.env .closeLoop)) ∧ ¬ Losing c l

/-- A thread that polls between `reset` and parking. -/
def DriverPc.polls : DriverPc → Prop
  | .poll _ | .park _ => True
  | _ => False

/-- The future a task was given to suspend on. -/
def DriverPc.awaits : DriverPc → Option AioFuture
  | .suspended v => v
  | .store _ (.ok v) => v
  | _ => none

structure Tracked (st : FutureState) (c : Config DriverShared DriverPc) : Prop where
  shutdown : c.shared.shutdown = false
  live : Batcher.Live c.shared.batcher
  handed : ∀ f ∈ c.shared.handed, c.shared.batcher.shared.status f = .pending →
    c.shared.waker = some (.parked f) ∨ InTransit c f
  settled : ∀ rr, st = .ready rr → ∀ f, c.shared.Parked f → WakePending c
  polling : ∀ p ∈ c.threads, p.polls → ∀ f, c.shared.waker ≠ some (.parked f)
  awaited : ∀ p ∈ c.threads, ∀ f, p.awaits = some f → f ∈ c.shared.handed

theorem DriverMove.live {s s' : DriverShared} {p : DriverPc} {q : List DriverPc}
    (h : DriverMove s p s' q) (hb : Batcher.Live s.batcher) : Batcher.Live s'.batcher := by
  rcases h.batcher with he | ⟨f, acts, -, -, he⟩
  · rwa [he]
  · rw [he]
    exact hb.next (by simp) (Batcher.push_next s.batcher f)

section Moves

variable {s s' : DriverShared} {p : DriverPc} {q : List DriverPc} {T : Multiset DriverPc}
  {st : FutureState}

theorem Tracked.handed_move (h : Tracked st ⟨s, p ::ₘ T⟩) (hm : DriverMove s p s' q)
    (hreset : ∀ co, p = .reset co → ∀ f, ¬ s.Parked f) :
    ∀ f ∈ s'.handed, s'.batcher.shared.status f = .pending →
      s'.waker = some (.parked f) ∨ InTransit ⟨s', (q : Multiset DriverPc) + T⟩ f := by
  intro f hf hp
  rw [hm.status] at hp
  -- A future handed out before: still parked, unless this step emptied the slot.
  have before (hf : f ∈ s.handed)
      (hkeep : s.waker = some (.parked f) → s'.waker = some (.parked f) ∨
        InTransit ⟨s', (q : Multiset DriverPc) + T⟩ f) :
      s'.waker = some (.parked f) ∨ InTransit ⟨s', (q : Multiset DriverPc) + T⟩ f := by
    rcases h.handed f hf hp with hw | ht
    · exact hkeep hw
    · exact .inr (ht.move hm)
  have yielded {value} (hy : Yielded s s' value) :
      s'.waker = some (.parked f) ∨ InTransit ⟨s', (q : Multiset DriverPc) + T⟩ f := by
    cases hy with
    | woken hs hw hh =>
      refine before (hh ▸ hf) fun hpk => ?_
      cases hs.symm.trans hpk
    | again hs hg hw hh =>
      rw [hh] at hf
      rcases List.mem_append.mp hf with hf | hf
      · exact before hf fun hpk => .inl (hw.trans (hs.symm.trans hpk))
      · rw [List.mem_singleton.mp hf]
        exact .inl hw
    | fresh hs hne hg hw hh =>
      rw [hh] at hf
      rcases List.mem_append.mp hf with hf | hf
      · refine before hf fun hpk => ?_
        cases hp.symm.trans (hs f hpk)
      · rw [List.mem_singleton.mp hf]
        exact .inl hw
    | failed hw hh => exact before (hh ▸ hf) fun hpk => .inl (by rw [hw, hpk]; rfl)
  cases hm.wakerEffect with
  | keep hw hh => exact before (hh ▸ hf) fun hpk => .inl (hw.trans hpk)
  | make hs hw hh =>
    refine before (hh ▸ hf) fun hpk => ?_
    cases hs.symm.trans hpk
  | reset hco hw hh => exact before (hh ▸ hf) fun hpk => absurd ⟨hpk, hp⟩ (hreset _ hco f)
  | park _ _ hy => exact yielded hy
  | yield _ _ hy => exact yielded hy
  | @wake a acts slot hrun hs hw hh hq =>
    refine before (hh ▸ hf) fun hpk => .inr (.inl ⟨.push f :: acts, ?_, List.mem_cons_self⟩)
    cases hs.symm.trans hpk
    simp [hq, WakerSlot.takeParked]

theorem WakePending.of_mem_right (h : ∃ r ∈ T, r.wakes) :
    WakePending ⟨s', (q : Multiset DriverPc) + T⟩ := by
  obtain ⟨r, hr, hw⟩ := h
  exact ⟨r, Multiset.mem_add.mpr (.inr hr), hw⟩

theorem WakePending.move (hc : Coherent st ⟨s, p ::ₘ T⟩) (hrun : RunsClosure p q)
    (hm : DriverMove s p s' q) (h : WakePending ⟨s, p ::ₘ T⟩) {f : AioFuture}
    (hf : s'.waker = some (.parked f)) : WakePending ⟨s', (q : Multiset DriverPc) + T⟩ := by
  obtain ⟨r, hr, hw⟩ := h
  rcases Multiset.mem_cons.mp hr with rfl | hr
  · rcases hm.wakes hc.locking.stance (hc.threads _ (Multiset.mem_cons_self _ _)) hrun hw with
      ⟨p', hp', hw'⟩ | ⟨acts, rfl⟩
    · exact ⟨p', Multiset.mem_add.mpr (.inl hp'), hw'⟩
    · rw [hm.wake_waker] at hf
      obtain ⟨slot, -, hs⟩ := Option.map_eq_some_iff.mp hf
      exact absurd hs (slot.takeParked_not_parked f)
  · exact .of_mem_right ⟨r, hr, hw⟩

theorem Tracked.settled_move (h : Tracked st ⟨s, p ::ₘ T⟩) (hc : Coherent st ⟨s, p ::ₘ T⟩)
    (hm : DriverMove s p s' q)
    (hthrow : ∀ exc co, p = .call (.throw exc) → s.state = .pendingAsyncio co →
      ∀ f, ¬ s.Parked f)
    (hyield : p = .yieldAsyncio → ∀ rr, st = .ready rr → s.waker ≠ some .woken →
      WakePending ⟨s, p ::ₘ T⟩) :
    ∀ rr, s'.seen q st = .ready rr → ∀ f, s'.Parked f →
      WakePending ⟨s', (q : Multiset DriverPc) + T⟩ := by
  rintro rr hr f ⟨hf, hp⟩
  rw [hm.status] at hp
  have hv := hc.locking.stance
  by_cases hst : ∃ rr, st = .ready rr
  · -- It was `Ready` before: the wake was pending, unless the task parked just now.
    obtain ⟨rr₀, rfl⟩ := hst
    have pending (hwp : WakePending ⟨s, p ::ₘ T⟩) := hwp.move hc (hm.runsClosure h.shutdown) hm hf
    have parked (hpk : s.waker = some (.parked f)) := pending (h.settled rr₀ rfl f ⟨hpk, hp⟩)
    cases hm.wakerEffect with
    | keep hw hh => exact parked (hw.symm.trans hf)
    | make hs hw hh => cases hw.symm.trans hf
    | reset hco hw hh => cases hw.symm.trans hf
    | park hco =>
      subst hco
      cases (hv.inside_eq rfl).1
    | yield hy hq hyl =>
      cases hyl with
      | woken hs hw hh => cases hw.symm.trans hf
      | again hs hg hw hh => exact pending (hyield hy rr₀ rfl (by simp [hs]))
      | fresh hs hne hg hw hh => exact pending (hyield hy rr₀ rfl hne)
      | failed hw hh =>
        cases hs : s.waker with
        | none => simp [hw, hs] at hf
        | some slot => exact parked (by simpa [hw, hs] using hf)
    | wake hrun hs hw hh hq =>
      exact absurd (Option.some.inj (hw.symm.trans hf)) (WakerSlot.takeParked_not_parked _ f)
  · have hne : ∀ rr, st ≠ .ready rr := fun rr he => hst ⟨rr, he⟩
    obtain ⟨hw, hcases⟩ := hm.settles hv hne hr
    have hpk : s.Parked f := ⟨hw.symm.trans hf, hp⟩
    rcases hcases with ⟨p', hp', hw'⟩ | hn | ⟨co, rfl⟩ | ⟨exc, co, rfl, hs⟩
    · exact ⟨p', Multiset.mem_add.mpr (.inl hp'), hw'⟩
    · cases hn.symm.trans hpk.1
    · exact absurd hpk.1 (h.polling _ (Multiset.mem_cons_self _ _) trivial f)
    · exact absurd hpk (hthrow exc co rfl hs f)

theorem DriverMove.polls {r : DriverPc} (hm : DriverMove s p s' q) (hr : r ∈ q) (hp : r.polls) :
    (∃ co, p = .reset co) ∨ p.polls ∧ s'.waker = s.waker := by
  cases hm with
  | reset => exact .inl ⟨_, rfl⟩
  | pollPending => exact .inr ⟨trivial, rfl⟩
  | skip hl h => cases h <;> simp_all [DriverPc.polls]
  | store | yieldAsyncio => unfold suspend at hr; split at hr <;> simp_all [DriverPc.polls]
  | resolveFinished =>
    obtain rfl := List.mem_singleton.mp hr
    split at hp <;> exact absurd hp id
  | _ => simp_all [DriverPc.polls]

theorem Tracked.polling_move (h : Tracked st ⟨s, p ::ₘ T⟩) (hc : Coherent st ⟨s, p ::ₘ T⟩)
    (hm : DriverMove s p s' q) :
    ∀ r ∈ (q : Multiset DriverPc) + T, r.polls → ∀ f, s'.waker ≠ some (.parked f) := by
  intro r hr hp f
  rcases Multiset.mem_add.mp hr with hr | hr
  · rcases hm.polls (Multiset.mem_coe.mp hr) hp with ⟨co, rfl⟩ | ⟨hpp, hw⟩
    · cases hm with
      | skip hl h => cases h
      | readConverted hl h => cases h
      | readUnconverted hl h => cases h
      | reset => simp
    · rw [hw]
      exact h.polling p (Multiset.mem_cons_self p T) hpp f
  · -- The polling thread has the lock, so this step cannot fill the slot.
    have hold := h.polling r (Multiset.mem_cons_of_mem hr) hp f
    obtain ⟨co, hi⟩ : ∃ co, r.inside = some (.pendingAsyncio co) := by
      cases r with
      | poll co | park co => exact ⟨co, rfl⟩
      | _ => exact absurd hp id
    obtain ⟨rfl, hl, hpi⟩ := hc.locking.inside_other hr hi
    cases hm.wakerEffect with
    | keep hw hh => rwa [hw]
    | make hs hw hh => simp [hw]
    | reset hco hw hh => simp [hw]
    | park hco => simp [hco, DriverPc.inside] at hpi
    | yield hy =>
      subst hy
      exact absurd rfl (hc.threads _ (Multiset.mem_cons_self _ _) co)
    | wake hrun hs hw hh hq =>
      rw [hw]
      exact fun he => WakerSlot.takeParked_not_parked _ f (Option.some.inj he)

theorem Yielded.handed {f : AioFuture} {value : Except PyErr (Option AioFuture)}
    (h : Yielded s s' value) (hv : value = .ok (some f)) : f ∈ s'.handed := by
  cases h with
  | woken => cases hv
  | again hs hf hw hh | fresh hs hne hf hw hh =>
    cases hv
    simp [hh]
  | failed => cases hv

theorem awaits_suspend {r : DriverPc} {f : AioFuture} {value : Except PyErr (Option AioFuture)}
    (hr : r ∈ suspend value) (hf : r.awaits = some f) : value = .ok (some f) := by
  cases value with
  | error e => cases hr
  | ok v =>
    obtain rfl := List.mem_singleton.mp hr
    cases hf
    rfl

theorem DriverMove.awaits {r : DriverPc} {f : AioFuture} (hm : DriverMove s p s' q) (hr : r ∈ q)
    (hf : r.awaits = some f) : p.awaits = some f ∧ s'.handed = s.handed ∨ f ∈ s'.handed := by
  cases hm with
  | park fail =>
    obtain rfl := List.mem_singleton.mp hr
    refine .inr ((yieldAsyncioFuture_yielded s fail).handed ?_)
    generalize (s.yieldAsyncioFuture fail).2 = value at hf
    cases value <;> cases hf
    rfl
  | yieldAsyncio fail =>
    exact .inr ((yieldAsyncioFuture_yielded s fail).handed (awaits_suspend hr hf))
  | store => exact .inl ⟨by rw [awaits_suspend hr hf]; rfl, rfl⟩
  | skip hl h => cases h <;> simp_all [DriverPc.awaits]
  | resolveFinished =>
    obtain rfl := List.mem_singleton.mp hr
    split at hf <;> cases hf
  | _ => simp_all [DriverPc.awaits]

theorem DriverMove.handed (hm : DriverMove s p s' q) {f : AioFuture} (hf : f ∈ s.handed) :
    f ∈ s'.handed := by
  have yielded {value} (hy : Yielded s s' value) : f ∈ s'.handed := by
    cases hy with
    | woken hs hw hh | failed hw hh => rwa [hh]
    | again hs hg hw hh | fresh hs hne hg hw hh => rw [hh]; exact List.mem_append_left _ hf
  cases hm.wakerEffect with
  | park _ _ hy => exact yielded hy
  | yield _ _ hy => exact yielded hy
  | keep hw hh | make hs hw hh | reset hco hw hh | wake hrun hs hw hh hq => rwa [hh]

theorem Tracked.awaited_move (h : Tracked st ⟨s, p ::ₘ T⟩) (hm : DriverMove s p s' q) :
    ∀ r ∈ (q : Multiset DriverPc) + T, ∀ f, r.awaits = some f → f ∈ s'.handed := by
  intro r hr f hf
  rcases Multiset.mem_add.mp hr with hr | hr
  · rcases hm.awaits (Multiset.mem_coe.mp hr) hf with ⟨hp, hh⟩ | hnew
    · rw [hh]
      exact h.awaited p (Multiset.mem_cons_self p T) f hp
    · exact hnew
  · exact hm.handed (h.awaited r (Multiset.mem_cons_of_mem hr) f hf)

theorem Tracked.move {choice : Choice} (h : Tracked st ⟨s, p ::ₘ T⟩)
    (hc : Coherent st ⟨s, p ::ₘ T⟩) (hok : Attentive ⟨s, p ::ₘ T⟩ (.thread p choice))
    (hm : DriverMove s p s' q) : Tracked (s'.seen q st) ⟨s', (q : Multiset DriverPc) + T⟩ := by
  obtain ⟨-, -, hkeep⟩ := hok
  constructor
  · exact hm.shutdown.trans h.shutdown
  · exact hm.live h.live
  · refine h.handed_move hm ?_
    rintro co rfl f hf
    exact hkeep ⟨f, hf⟩
  · refine h.settled_move hc hm ?_ ?_
    · rintro exc co rfl hs f hf
      exact hkeep ⟨⟨co, hs⟩, f, hf⟩
    · rintro rfl rr rfl hw
      by_contra hwp
      exact hkeep ⟨hc.locking.terminal, hw, hwp⟩
  · exact h.polling_move hc hm
  · exact h.awaited_move hm

end Moves

theorem DriverArrival.batcher_next {s s' : DriverShared} {k : DriverEvent} {q : List DriverPc}
    (h : DriverArrival s k s' q) :
    s'.batcher = s.batcher ∨
    ∃ l, Batcher.program.next s.batcher l = some s'.batcher ∧
      (l = .env .closeLoop → k = .batcher (.env .closeLoop)) := by
  cases h with
  | foreignPush => exact .inr ⟨_, Batcher.push_next s.batcher s.nextFuture, by simp⟩
  | batcher hl hn => exact .inr ⟨_, hn, fun he => by rw [he]⟩
  | _ => exact .inl rfl

theorem Tracked.arrive {s s' : DriverShared} {k : DriverEvent} {q : List DriverPc}
    {T : Multiset DriverPc} {st : FutureState} (h : Tracked st ⟨s, T⟩)
    (hok : Attentive ⟨s, T⟩ (.env k)) (ha : DriverArrival s k s' q) :
    Tracked st ⟨s', (q : Multiset DriverPc) + T⟩ := by
  obtain ⟨hnsd, hncl, -⟩ := hok
  have hw : s'.waker = s.waker := by cases ha <;> rfl
  have hh : s'.handed = s.handed := by cases ha <;> rfl
  have hq : ∀ p ∈ q, ¬ p.polls ∧ p.awaits = none := by
    cases ha <;> simp [DriverPc.polls, DriverPc.awaits]
  have hpend {f} (hf : s'.batcher.shared.status f = .pending) :
      s.batcher.shared.status f = .pending := by
    rcases ha.batcher_next with he | ⟨l, hn, -⟩
    · rwa [he] at hf
    · exact Batcher.pending_of_next hn hf
  constructor
  · cases ha with
    | shutdown => exact absurd rfl hnsd
    | _ => exact h.shutdown
  · rcases ha.batcher_next with he | ⟨l, hn, hl⟩
    · rw [he]; exact h.live
    · exact h.live.next (fun he => hncl (by rw [hl he])) hn
  · intro f hf hp
    rw [hw]
    refine (h.handed f (hh ▸ hf) (hpend hp)).imp_right ?_
    rintro (⟨acts, hr, hpush⟩ | hheld)
    · exact .inl ⟨acts, Multiset.mem_add.mpr (.inr hr), hpush⟩
    · rcases ha.batcher_next with he | ⟨l, hn, -⟩
      · exact .inr (by rwa [he])
      · exact .inr (hheld.next h.live.inv hn hp)
  · rintro rr hst f ⟨hf, hp⟩
    exact .of_mem_right (h.settled rr hst f ⟨hw.symm.trans hf, hpend hp⟩)
  · intro p hp hpl f
    rcases Multiset.mem_add.mp hp with hp | hp
    · exact absurd hpl (hq p hp).1
    · rw [hw]; exact h.polling p hp hpl f
  · intro p hp f hf
    rcases Multiset.mem_add.mp hp with hp | hp
    · rw [(hq p hp).2] at hf
      cases hf
    · rw [hh]; exact h.awaited p hp f hf

theorem DriverShared.IsNew.tracked {s : DriverShared} (h : s.IsNew) {T : Multiset DriverPc}
    (hT : ∀ p ∈ T, p = .call .next) : Tracked s.state ⟨s, T⟩ := by
  have hlive {kind : Batcher.NotifierKind} : Batcher.Live (Batcher.init kind 0 0) :=
    ⟨rfl, Batcher.inv_init kind 0 0⟩
  constructor
  · cases h <;> rfl
  · cases h <;> exact hlive
  · cases h <;> exact fun _ hf => absurd hf List.not_mem_nil
  · rintro rr - f ⟨hf, -⟩
    cases h <;> cases hf
  · rintro p hp hpl
    rw [hT p hp] at hpl
    exact absurd hpl id
  · rintro p hp f hf
    rw [hT p hp] at hf
    cases hf

theorem driver_tracked {s₀ : DriverShared} (hnew : s₀.IsNew) {n : Nat}
    {c : Config DriverShared DriverPc}
    (hr : driverProgram.RunIn Attentive ⟨s₀, Multiset.replicate n (.call .next)⟩ c) :
    ∃ st, Coherent st c ∧ Tracked st c := by
  have hT : ∀ p ∈ Multiset.replicate n (DriverPc.call .next), p = .call .next :=
    fun p hp => Multiset.eq_of_mem_replicate hp
  exact driver_invariant _ (fun hok hc h _ hm => h.move hc hok hm) (fun hok _ h ha => h.arrive hok ha)
    (hnew.coherent fun p hp => ⟨_, hT p hp⟩) (hnew.tracked hT) hr

/-- In a run whose steps lose no parked future, every future handed to a task
is parked, on its way or done; so once the future is terminal and every
started step has finished, each suspended task has had its future pushed. -/
theorem awaiters_released {self : PyObj} {kind : Batcher.NotifierKind} {n : Nat}
    {c : Config DriverShared DriverPc}
    (hr : driverProgram.RunIn Attentive
      ⟨.spawn self kind, Multiset.replicate n (.call .next)⟩ c) :
    (∀ f ∈ c.shared.handed, c.shared.batcher.shared.status f = .pending →
      c.shared.waker = some (.parked f) ∨ InTransit c f) ∧
    (c.shared.state.isTerminal = true → (∀ p ∈ c.threads, ∃ v, p = .suspended v) →
      c.shared.batcher.threads = 0 → ∀ f, .suspended (some f) ∈ c.threads →
      c.shared.batcher.shared.status f = .cancelled ∨ f ∈ c.shared.batcher.shared.pushed) := by
  obtain ⟨st, hc, h⟩ := driver_tracked (.spawn self kind) hr
  refine ⟨h.handed, fun hterm hquiet hidle f hf => ?_⟩
  have hnw : ¬ WakePending c := by
    rintro ⟨p, hp, hw⟩
    obtain ⟨v, rfl⟩ := hquiet p hp
    exact hw
  cases hs : c.shared.batcher.shared.status f with
  | cancelled => exact .inl rfl
  | finished => exact .inr (h.live.inv.pushed_of_finished hs)
  | pending =>
    right
    rcases h.handed f (h.awaited _ hf f rfl) hs with hw | ⟨acts, hr, -⟩ | hheld
    · obtain ⟨-, rr, hst⟩ := hc.ready_of_quiet hterm hquiet
      exact absurd (h.settled rr hst f ⟨hw, hs⟩) hnw
    · obtain ⟨v, hv⟩ := hquiet _ hr
      cases hv
    · exact h.live.inv.pushed_of_holds hheld hidle

/-- Two tasks that share the future of a request running on tokio. -/
theorem awaiters_released_on_tokio :
    ∃ c, driverProgram.RunIn Attentive
        ⟨.spawn 0 .callSoon, Multiset.replicate 2 (.call .next)⟩ c ∧
      c.threads = {.suspended (some 0), .suspended (some 0)} ∧
      0 ∈ c.shared.batcher.shared.pushed := by
  have hstart : driverProgram.RunIn Attentive
      ⟨.spawn 0 .callSoon, Multiset.replicate 2 (.call .next)⟩
      ⟨.spawnOnTokio 0 .callSoon, {.yieldAsyncio, .yieldAsyncio}⟩ :=
    Program.exec_runIn [.env (.call .start), .thread (.call .start) .go,
      .thread (.call .next) .go, .thread (.call .next) .go]
      (by simp [Attentive, Losing]) rfl
  -- Both tasks are given the one parked future.
  have hparked := (hstart.tail ⟨.thread .yieldAsyncio .go,
    ⟨by simp, by simp, fun h => Bool.noConfusion h.1⟩, rfl⟩).tail ⟨.thread .yieldAsyncio .go,
    ⟨by simp, by simp, fun h => Bool.noConfusion h.1⟩, rfl⟩
  have hr : driverProgram.RunIn Attentive _
      ⟨{ DriverShared.spawnOnTokio 0 .callSoon with
          state := .ready (.unconverted (.stashed ⟨some 7⟩)), task := .over, nextFuture := 2,
          handed := [0, 0], reports := [.yielded (.ok (some 0)), .yielded (.ok (some 0))],
          batcher := ⟨{ (Batcher.init .callSoon 0 0).shared with
            queue := [0], armed := true, scheduled := 1, pushed := [0] }, 0⟩ },
        {.suspended (some 0), .suspended (some 0)}⟩ :=
    hparked.trans (Program.exec_runIn [.env (.taskFinishes 7),
      .thread (.resolve (.finished (.stashed ⟨some 7⟩))) .go,
      .thread (.fireAndNotify [] 0) .go, .thread (.run [.wake, .notify 0]) .go,
      .thread (.run [.push 0, .notify 0]) .go, .thread (.run [.notify 0]) .go,
      .thread (.run []) .go, .env (.batcher (.thread (.push 0) .interrupted)),
      .env (.batcher (.thread .notify .interrupted)),
      .env (.batcher (.thread .scheduleDrainCallSoon .interrupted))]
      (by simp [Attentive, Losing]) rfl)
  refine ⟨_, hr, rfl, ?_⟩
  rcases (awaiters_released hr).2 rfl (by simp) rfl 0 (by simp) with h | h
  · cases h
  · exact h

/-- Two tasks await a future that no thread started. The poll of the second
drops the asyncio future of the first, which is never pushed: the future is
terminal, every started step has finished and the first task waits for ever. -/
theorem awaiter_lost :
    ∃ c, driverProgram.Run ⟨.spawn 0 .callSoon, Multiset.replicate 2 (.call .next)⟩ c ∧
      c.shared.state = .ready (.converted (.ok 42)) ∧ c.threads = {.suspended (some 0)} ∧
      c.shared.batcher.threads = 0 ∧ 0 ∈ c.shared.handed ∧
      c.shared.batcher.shared.status 0 = .pending ∧ c.shared.waker ≠ some (.parked 0) ∧
      ¬ InTransit c 0 ∧ 0 ∉ c.shared.batcher.shared.pushed := by
  let parked : DriverShared :=
    { DriverShared.spawn 0 .callSoon with
      waker := some (.parked 1), nextFuture := 2, handed := [0, 1],
      reports := [.yielded (.ok (some 0)), .yielded (.ok (some 1))] }
  have hparked : driverProgram.Run
      ⟨.spawn 0 .callSoon, Multiset.replicate 2 (.call .next)⟩
      ⟨parked, {.suspended (some 1), .suspended (some 0)}⟩ :=
    Program.exec_run [.thread (.call .next) .go, .thread (.reset ⟨none⟩) .go,
      .thread (.poll ⟨none⟩) (.polled none), .thread (.park ⟨none⟩) .go,
      .thread (.store ⟨none⟩ (.ok (some 0))) .go,
      -- The second task polls and parks another future.
      .thread (.call .next) .go, .thread (.reset ⟨none⟩) .go,
      .thread (.poll ⟨none⟩) (.polled none), .thread (.park ⟨none⟩) .go,
      .thread (.store ⟨none⟩ (.ok (some 1))) .go] rfl
  let woken : DriverShared :=
    { parked with
      waker := some .idle,
      batcher := ⟨{ (Batcher.init .callSoon 0 0).shared with
        pushed := [1], taken := [[1]], released := [1],
        status := Function.update (fun _ => .pending) 1 .finished }, 0⟩ }
  -- The second task is woken through the batcher.
  have hwoken : driverProgram.Run ⟨parked, {.suspended (some 1), .suspended (some 0)}⟩
      ⟨woken, {.suspended (some 1), .suspended (some 0)}⟩ :=
    Program.exec_run [.env .innerWake, .thread (.run [.wakeByRef]) .go,
      .thread (.run [.push 1]) .go, .thread (.run []) .go,
      .env (.batcher (.thread (.push 1) .interrupted)),
      .env (.batcher (.thread .notify .interrupted)),
      .env (.batcher (.thread .scheduleDrainCallSoon .interrupted)),
      .env (.batcher (.env (.startDrain .callback))), .env (.batcher (.env (.read .interrupted))),
      .env (.batcher (.env .takeQueue)), .env (.batcher (.env .releaseWaiter)),
      .env (.batcher (.env .releaseWaiter))] rfl
  -- Its next poll completes the future.
  have hdone : driverProgram.Run ⟨woken, {.suspended (some 1), .suspended (some 0)}⟩
      ⟨{ woken with
          state := .ready (.converted (.ok 42)), conversions := 1,
          reports := parked.reports ++ [.next (.ok 42)] }, {.suspended (some 0)}⟩ :=
    Program.exec_run [.thread (.suspended (some 1)) .go, .thread (.call .next) .go,
      .thread (.reset ⟨none⟩) .go, .thread (.poll ⟨none⟩) (.polled (some 7)),
      .thread (.convert .next (.stashed ⟨some 7⟩)) (.converted (.ok 42)),
      .thread (.run []) .go] rfl
  refine ⟨_, hparked.trans (hwoken.trans hdone), rfl, rfl, rfl, by decide, rfl, by simp [woken],
    ?_, by decide⟩
  rintro (⟨acts, h, -⟩ | h | h | h)
  · simp at h
  · exact absurd h (Multiset.notMem_zero _)
  · cases h
  · cases h

end ScyllaDriver
