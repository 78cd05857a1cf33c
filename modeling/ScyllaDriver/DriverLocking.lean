import ScyllaDriver.DriverMoves

/-! The state lock of a `DriverFuture` and the life of the state behind it. At
most one thread is inside a critical section; the state as its users see it is
then the one that thread took out, and the placeholder is never seen. -/

namespace ScyllaDriver

/-- What the state holds while a thread at `p` has the lock; `none` if it has not. -/
def DriverPc.held : DriverPc → Option FutureState
  | .reset _ | .poll _ | .park _ | .store _ _ => some .panicked
  | .convert reader _ => some reader.placeholder
  | _ => none

/-- The state such a thread took out, to put it back or to replace it. -/
def DriverPc.inside : DriverPc → Option FutureState
  | .reset co | .poll co | .park co | .store co _ => some (.pendingAsyncio co)
  | .convert _ resolved => some (.ready (.unconverted resolved))
  | _ => none

/-- The life of a future. -/
inductive FutureState.Step : FutureState → FutureState → Prop where
  | start {co cbs} : Step (.pendingAsyncio co) (.pendingTokio cbs)
  | queue {cbs cb} : Step (.pendingTokio cbs) (.pendingTokio (cbs ++ [cb]))
  | asyncioReady {co rr} : Step (.pendingAsyncio co) (.ready rr)
  | tokioReady {cbs rr} : Step (.pendingTokio cbs) (.ready rr)
  | convert {resolved conversion} :
      Step (.ready (.unconverted resolved))
        (.ready (.converted (resolved.intoPyResult conversion)))

def LockFree (T : Multiset DriverPc) : Prop := ∀ p ∈ T, p.inside = none

/-- The lock is well used, and `st` is the state its users see. -/
inductive Locking : Config DriverShared DriverPc → FutureState → Prop where
  | unlocked {s T} (hl : s.locked = false) (hs : s.state ≠ .panicked) (hT : LockFree T) :
      Locking ⟨s, T⟩ s.state
  | held {s p T st} (hl : s.locked = true) (hp : p.held = some s.state)
      (hi : p.inside = some st) (hT : LockFree T) : Locking ⟨s, p ::ₘ T⟩ st

/-- How one thread stands to the lock. -/
inductive Stance (s : DriverShared) (p : DriverPc) (st : FutureState) : Prop where
  | holds (hl : s.locked = true) (hp : p.held = some s.state) (hi : p.inside = some st)
  | free (hl : s.locked = false) (hi : p.inside = none) (hs : s.state = st)
      (hne : st ≠ .panicked)
  | other (hl : s.locked = true) (hi : p.inside = none)

/-- The state seen after a step to `s` that left the threads `q`, if it was `st`. -/
def DriverShared.seen (s : DriverShared) (q : List DriverPc) (st : FutureState) : FutureState :=
  if s.locked then (q.findSome? DriverPc.inside).getD st else s.state

theorem DriverShared.seen_free {s : DriverShared} {q : List DriverPc} {st : FutureState}
    (h : s.locked = false) : s.seen q st = s.state := by
  simp [seen, h]

theorem LockFree.add {T U : Multiset DriverPc} (hT : LockFree T) (hU : LockFree U) :
    LockFree (T + U) := by
  intro p hp
  rcases Multiset.mem_add.mp hp with hp | hp
  · exact hT p hp
  · exact hU p hp

theorem LockFree.of_cons {p : DriverPc} {T : Multiset DriverPc} (h : LockFree (p ::ₘ T)) :
    p.inside = none ∧ LockFree T :=
  ⟨h p (Multiset.mem_cons_self p T), fun r hr => h r (Multiset.mem_cons_of_mem hr)⟩

theorem lockFree_suspend {value : Except PyErr (Option AioFuture)} :
    LockFree (suspend value) := by
  cases value <;> simp [suspend, LockFree, DriverPc.inside]

/-- Seen from a thread: it holds the lock alone, or the lock is free, or
another thread has it. -/
theorem Locking.cons_cases {s : DriverShared} {p : DriverPc} {T : Multiset DriverPc}
    {st : FutureState} (h : Locking ⟨s, p ::ₘ T⟩ st) :
    (s.locked = true ∧ p.held = some s.state ∧ p.inside = some st ∧ LockFree T) ∨
    (s.locked = false ∧ p.inside = none ∧ s.state = st ∧ st ≠ .panicked ∧ LockFree T) ∨
    (s.locked = true ∧ p.inside = none ∧
      ∃ h U, T = h ::ₘ U ∧ h.held = some s.state ∧ h.inside = some st ∧ LockFree U) := by
  generalize hU : p ::ₘ T = U at h
  cases h with
  | unlocked hl hs hT =>
    subst hU
    exact .inr (.inl ⟨hl, hT.of_cons.1, rfl, hs, hT.of_cons.2⟩)
  | @held _ r V _ hl hp hi hT =>
    rcases Multiset.cons_eq_cons.mp hU with ⟨rfl, rfl⟩ | ⟨_, W, rfl, rfl⟩
    · exact .inl ⟨hl, hp, hi, hT⟩
    · exact .inr (.inr ⟨hl, hT.of_cons.1, r, W, rfl, hp, hi, hT.of_cons.2⟩)

theorem Locking.stance {s : DriverShared} {p : DriverPc} {T : Multiset DriverPc}
    {st : FutureState} (h : Locking ⟨s, p ::ₘ T⟩ st) : Stance s p st := by
  rcases h.cons_cases with ⟨hl, hp, hi, _⟩ | ⟨hl, hi, hs, hne, _⟩ | ⟨hl, hi, _⟩
  · exact .holds hl hp hi
  · exact .free hl hi hs hne
  · exact .other hl hi

theorem Locking.clean {s : DriverShared} {T : Multiset DriverPc} {st : FutureState}
    (h : Locking ⟨s, T⟩ st) : s.Clean := by
  cases h with
  | unlocked hl hs hT => exact fun _ => hs
  | held hl hp hi hT => intro hf; simp [hl] at hf

theorem Locking.state_eq {s : DriverShared} {T : Multiset DriverPc} {st : FutureState}
    (h : Locking ⟨s, T⟩ st) (hl : s.locked = false) : s.state = st := by
  cases h with
  | unlocked hl hs hT => rfl
  | held hl' hp hi hT => simp [hl] at hl'

/-- Behind the placeholder of a `Ready` state is a terminal one. -/
theorem Locking.terminal {s : DriverShared} {T : Multiset DriverPc} {rr : ReadyResult}
    (h : Locking ⟨s, T⟩ (.ready rr)) : s.state.isTerminal = true := by
  generalize hst : FutureState.ready rr = st at h
  cases h with
  | unlocked hl hs hT => rw [← hst]; rfl
  | @held s p T st hl hp hi hT =>
    subst hst
    cases p with
    | convert reader resolved =>
      rw [← Option.some.inj hp]
      cases reader <;> rfl
    | _ => cases hi

theorem Stance.state_eq {s : DriverShared} {p : DriverPc} {st : FutureState}
    (h : Stance s p st) (hl : s.locked = false) : s.state = st := by
  cases h with
  | free hl' hi hs hne => exact hs
  | holds hl' => simp [hl] at hl'
  | other hl' => simp [hl] at hl'

theorem Stance.inside_eq {s : DriverShared} {p : DriverPc} {st st' : FutureState}
    (h : Stance s p st) (hi : p.inside = some st') :
    st' = st ∧ s.locked = true ∧ p.held = some s.state := by
  cases h with
  | holds hl hp hi' => exact ⟨Option.some.inj (hi.symm.trans hi'), hl, hp⟩
  | free hl hi' => simp [hi] at hi'
  | other hl hi' => simp [hi] at hi'

theorem DriverShared.seen_lockFree {s : DriverShared} {q : List DriverPc} {st : FutureState}
    (hl : s.locked = false → s.state = st) (hq : LockFree q) : s.seen q st = st := by
  have hn : q.findSome? DriverPc.inside = none :=
    List.findSome?_eq_none_iff.mpr fun p hp => hq p (Multiset.mem_coe.mpr hp)
  cases h : s.locked with
  | false => simp [seen, h, hl h]
  | true => simp [seen, h, hn]

/-- What a step does to the lock. -/
inductive LockEffect (s : DriverShared) (p : DriverPc) (s' : DriverShared)
    (q : List DriverPc) : Prop where
  /-- The step needs no lock, or leaves what it guards alone. -/
  | apart (hp : p.inside = none) (hl : s'.locked = s.locked) (hs : s'.state = s.state)
      (hq : LockFree q)
  /-- A whole critical section. -/
  | whole (hl : s.locked = false) (hl' : s'.locked = false) (hs : s.state.Step s'.state)
      (hq : LockFree q)
  | acquire {h : DriverPc} (hl : s.locked = false) (hl' : s'.locked = true) (hq : q = [h])
      (hh : h.held = some s'.state) (hi : h.inside = some s.state)
  | inside {h : DriverPc} {st st'} (hp : p.inside = some st) (hl : s'.locked = s.locked)
      (hs : s'.state = s.state) (hq : q = [h]) (hh : h.held = p.held)
      (hi : h.inside = some st') (hst : st' = st ∨ st.Step st')
  | release {st} (hp : p.inside = some st) (hl' : s'.locked = false)
      (hst : s'.state = st ∨ st.Step s'.state) (hne : s'.state ≠ .panicked) (hq : LockFree q)

theorem DriverPc.inside_of_reader {p : DriverPc} {reader : Reader}
    (h : p.reader = some reader) : p.inside = none := by
  cases p <;> simp_all [DriverPc.reader, DriverPc.inside]

theorem act_frame (s : DriverShared) (a : Act) :
    (s.act a).1 =
      { s with waker := (s.act a).1.waker, batcher := (s.act a).1.batcher,
               epoch := (s.act a).1.epoch, invoked := (s.act a).1.invoked } := by
  cases a with
  | wake | wakeByRef => simp only [DriverShared.act]; split <;> rfl
  | _ => rfl

theorem DriverMove.shutdown {s s' : DriverShared} {p : DriverPc} {q : List DriverPc}
    (h : DriverMove s p s' q) : s'.shutdown = s.shutdown := by
  cases h with
  | act => rw [act_frame]
  | _ => rfl

theorem DriverMove.lockEffect {s s' : DriverShared} {p : DriverPc} {q : List DriverPc}
    (h : DriverMove s p s' q) : LockEffect s p s' q := by
  cases h with
  | skip hl h => cases h <;> exact .apart rfl rfl rfl (by simp [LockFree, DriverPc.inside])
  | readConverted hl hp hs =>
    exact .apart (DriverPc.inside_of_reader hp) rfl rfl (by simp [LockFree, DriverPc.inside])
  | readUnconverted hl hp hs => exact .acquire hl rfl rfl rfl (by rw [hs]; rfl)
  | nextAsyncio hl hs => exact .acquire hl rfl rfl rfl (by rw [hs]; rfl)
  | waitUnreachable hl _ => exact .apart rfl rfl rfl (by simp [LockFree, DriverPc.inside])
  | waitAgain hl _ => exact .apart rfl rfl rfl (by simp [LockFree, DriverPc.inside])
  | wakeUnreachable hl _ => exact .apart rfl rfl rfl (by simp [LockFree, DriverPc.inside])
  | wait hl _ => exact .apart rfl rfl rfl (by simp [LockFree, DriverPc.inside])
  | waitTimeout hl _ => exact .apart rfl rfl rfl (by simp [LockFree])
  | waitDone hl _ => exact .apart rfl rfl rfl (by simp [LockFree, DriverPc.inside])
  | readReadyPending hl _ => exact .apart rfl rfl rfl (by simp [LockFree, DriverPc.inside])
  | start hl hs => exact .whole hl hl (by rw [hs]; exact .start) (by simp [LockFree])
  | registerAsyncio hl hs => exact .whole hl hl (by rw [hs]; exact .start) (by simp [LockFree])
  | registerTokio hl hs => exact .whole hl hl (by rw [hs]; exact .queue) (by simp [LockFree])
  | resultAsyncio hl hs =>
    exact .whole hl hl (by rw [hs]; exact .start) (by simp [LockFree, DriverPc.inside])
  | throwAsyncio hl hs =>
    exact .whole hl hl (by rw [hs]; exact .asyncioReady) (by simp [LockFree])
  | throwTokio hl hs =>
    exact .whole hl hl (by rw [hs]; exact .tokioReady) (by simp [LockFree, DriverPc.inside])
  | closeAsyncio hl hs =>
    exact .whole hl hl (by rw [hs]; exact .asyncioReady) (by simp [LockFree, DriverPc.inside])
  | closeTokio hl hs =>
    exact .whole hl hl (by rw [hs]; exact .tokioReady) (by simp [LockFree, DriverPc.inside])
  | resolveFinished hl hs =>
    refine .whole hl hl (by rw [hs]; exact .tokioReady) ?_
    intro r hr
    obtain rfl := Multiset.mem_singleton.mp hr
    split <;> rfl
  | resolveDropped hl hs =>
    exact .whole hl hl (by rw [hs]; exact .tokioReady) (by simp [LockFree, DriverPc.inside])
  | reset => exact .inside rfl rfl rfl rfl rfl rfl (.inl rfl)
  | pollPending _ => exact .inside rfl rfl rfl rfl rfl rfl (.inl rfl)
  | pollReady => exact .inside rfl rfl rfl rfl rfl rfl (.inr .asyncioReady)
  | park fail => exact .inside rfl rfl rfl rfl rfl rfl (.inl rfl)
  | pollPanicked =>
    exact .release rfl rfl (.inr .asyncioReady) (by simp) (by simp [LockFree, DriverPc.inside])
  | store => exact .release rfl rfl (.inl rfl) (by simp) lockFree_suspend
  | convert hr =>
    subst hr
    exact .release rfl rfl (.inr .convert) (by simp) (by simp [LockFree, DriverPc.inside])
  | yieldAsyncio fail => exact .apart rfl rfl rfl lockFree_suspend
  | blocking => exact .apart rfl rfl rfl (by simp [LockFree, DriverPc.inside])
  | closureDropped _ => exact .apart rfl rfl rfl (by simp [LockFree])
  | fireNone => exact .apart rfl rfl rfl (by simp [LockFree, DriverPc.inside])
  | fireUnreachable _ _ => exact .apart rfl rfl rfl (by simp [LockFree, DriverPc.inside])
  | finish => exact .apart rfl rfl rfl (by simp [LockFree])
  | act =>
    rw [act_frame]
    exact .apart rfl rfl rfl (by simp [LockFree, DriverPc.inside])
  | resumeNone => exact .apart rfl rfl rfl (by simp [LockFree, DriverPc.inside])
  | resumeDone _ => exact .apart rfl rfl rfl (by simp [LockFree, DriverPc.inside])
  | throwIn _ => exact .apart rfl rfl rfl (by simp [LockFree, DriverPc.inside])

theorem FutureState.Step.ne_panicked {st st' : FutureState} (h : st.Step st') :
    st' ≠ .panicked := by
  cases h <;> simp

theorem seen_apart {s s' : DriverShared} {p : DriverPc} {q : List DriverPc} {st : FutureState}
    (hv : Stance s p st) (hl : s'.locked = s.locked) (hs : s'.state = s.state)
    (hq : LockFree q) : s'.seen q st = st :=
  DriverShared.seen_lockFree (fun h => hs.trans (hv.state_eq (hl.symm.trans h))) hq

theorem seen_act {s : DriverShared} {p : DriverPc} {a : Act} {acts : List Act}
    {st : FutureState} (hv : Stance s p st) : (s.act a).1.seen [.run acts] st = st :=
  seen_apart hv (by rw [act_frame]) (by rw [act_frame]) (by simp [LockFree, DriverPc.inside])

theorem seen_yield {s : DriverShared} {p : DriverPc} {fail : Option PyErr} {x : Report}
    {value : Except PyErr (Option AioFuture)} {st : FutureState} (hv : Stance s p st) :
    ((s.yieldAsyncioFuture fail).1.report x).seen (suspend value) st = st :=
  seen_apart hv rfl rfl lockFree_suspend

theorem DriverMove.life {s s' : DriverShared} {p : DriverPc} {q : List DriverPc}
    {st : FutureState} (h : DriverMove s p s' q) (hv : Stance s p st) :
    s'.seen q st = st ∨ st.Step (s'.seen q st) := by
  cases h.lockEffect with
  | apart hp hl hs hq => exact .inl (seen_apart hv hl hs hq)
  | whole hl hl' hs hq => simpa [DriverShared.seen, hl', ← hv.state_eq hl] using .inr hs
  | acquire hl hl' hq hh hi =>
    subst hq
    exact .inl (by simp [DriverShared.seen, hl', hi, hv.state_eq hl])
  | inside hp hl hs hq hh hi hst =>
    subst hq
    obtain ⟨rfl, hlocked, _⟩ := hv.inside_eq hp
    simpa [DriverShared.seen, hl, hlocked, hi] using hst
  | release hp hl' hst hne hq =>
    obtain ⟨rfl, _⟩ := hv.inside_eq hp
    simpa [DriverShared.seen, hl'] using hst

/-- What the thread that makes a tokio future `Ready` goes on with. -/
inductive Finisher (cbs : List CallbackKind) (waiters : Nat) : DriverPc → Prop where
  | threw {exc : PyErr} :
      Finisher cbs waiters (.run ([.wake, .notify waiters] ++ cbs.map (Act.invoke · (.error exc))))
  | closed {exc : PyErr} :
      Finisher cbs waiters (.run ([.notify waiters, .wake] ++ cbs.map (Act.invoke · (.error exc))))
  | blocking : Finisher cbs waiters (.blocking cbs waiters)
  | fireAndNotify : Finisher cbs waiters (.fireAndNotify cbs waiters)

/-- Which step takes the state seen by the users through its life, and how. -/
inductive Lived (s : DriverShared) (p : DriverPc) (s' : DriverShared) (q : List DriverPc) :
    FutureState → FutureState → Prop where
  | stays {st} (hq : s'.queued = s.queued) : Lived s p s' q st st
  | starts {co cbs} (hs : s' = s.started co cbs) :
      Lived s p s' q (.pendingAsyncio co) (.pendingTokio cbs)
  | queues {cbs cb} (hq : s'.queued = s.queued ++ [cb]) :
      Lived s p s' q (.pendingTokio cbs) (.pendingTokio (cbs ++ [cb]))
  | finishes {cbs rr r} (hq : q = [r]) (hr : Finisher cbs s.waiters r)
      (hw : s'.waker = s.waker) (hqu : s'.queued = s.queued) :
      Lived s p s' q (.pendingTokio cbs) (.ready rr)
  | polled {co rr} (hp : p = .poll co) (hw : s'.waker = s.waker) (hq : s'.queued = s.queued) :
      Lived s p s' q (.pendingAsyncio co) (.ready rr)
  | threw {co rr exc} (hp : p = .call (.throw exc)) (hs : s.state = .pendingAsyncio co)
      (hw : s'.waker = s.waker) (hq : s'.queued = s.queued) :
      Lived s p s' q (.pendingAsyncio co) (.ready rr)
  | closed {co rr} (hq : q = [.run (.notify 0 :: if s.waker.isSome then [.wake] else [])])
      (hw : s'.waker = s.waker) (hqu : s'.queued = s.queued) :
      Lived s p s' q (.pendingAsyncio co) (.ready rr)
  | converts {resolved rr} (hq : s'.queued = s.queued) :
      Lived s p s' q (.ready (.unconverted resolved)) (.ready rr)

theorem DriverMove.lived {s s' : DriverShared} {p : DriverPc} {q : List DriverPc}
    {st : FutureState} (h : DriverMove s p s' q) (hv : Stance s p st) :
    Lived s p s' q st (s'.seen q st) := by
  have free := @DriverShared.seen_free s' q st
  have stays (he : s'.seen q st = st) (hq : s'.queued = s.queued) :
      Lived s p s' q st (s'.seen q st) := by
    rw [he]
    exact .stays hq
  cases h with
  | start hl hs | registerAsyncio hl hs | resultAsyncio hl hs =>
    rw [free hl, ← hv.state_eq hl, hs]
    exact .starts rfl
  | registerTokio hl hs =>
    rw [free hl, ← hv.state_eq hl, hs]
    exact .queues rfl
  | throwTokio hl hs =>
    rw [free hl, ← hv.state_eq hl, hs]
    exact .finishes rfl .threw rfl rfl
  | closeTokio hl hs =>
    rw [free hl, ← hv.state_eq hl, hs]
    exact .finishes rfl .closed rfl rfl
  | resolveFinished hl hs =>
    rw [free hl, ← hv.state_eq hl, hs]
    refine .finishes rfl ?_ rfl rfl
    split
    · exact .fireAndNotify
    · exact .blocking
  | resolveDropped hl hs =>
    rw [free hl, ← hv.state_eq hl, hs]
    exact .finishes rfl .fireAndNotify rfl rfl
  | throwAsyncio hl hs =>
    rw [free hl, ← hv.state_eq hl, hs]
    exact .threw rfl hs rfl rfl
  | closeAsyncio hl hs =>
    rw [free hl, ← hv.state_eq hl, hs]
    exact .closed rfl rfl rfl
  | pollReady | pollPanicked =>
    obtain ⟨rfl, hl, _⟩ := hv.inside_eq rfl
    simp only [DriverShared.seen, hl]
    exact .polled rfl rfl rfl
  | convert =>
    obtain ⟨rfl, _⟩ := hv.inside_eq rfl
    exact .converts rfl
  | readUnconverted hl hr hs | nextAsyncio hl hs =>
    exact stays (by simp [DriverShared.seen, DriverPc.inside, ← hv.state_eq hl, hs]) rfl
  | reset | pollPending | park | store =>
    obtain ⟨rfl, hl, _⟩ := hv.inside_eq rfl
    refine stays ?_ rfl
    simp [DriverShared.seen, DriverPc.inside, hl, DriverShared.yieldAsyncioFuture]
  | act => exact stays (seen_act hv) (by rw [act_frame])
  | yieldAsyncio => exact stays (seen_yield hv) rfl
  | blocking | closureDropped | fireNone | finish | resumeNone | resumeDone | throwIn =>
    exact stays (seen_apart hv rfl rfl (by simp [LockFree, DriverPc.inside])) rfl
  | skip hl | readConverted hl | wait hl | waitUnreachable hl | waitTimeout hl | waitAgain hl
  | waitDone hl | wakeUnreachable hl | readReadyPending hl | fireUnreachable hl =>
    exact stays (by simp [DriverShared.seen, hl, hv.state_eq hl]) rfl

theorem Locking.move {s s' : DriverShared} {p : DriverPc} {q : List DriverPc}
    {T : Multiset DriverPc} {st : FutureState} (h : Locking ⟨s, p ::ₘ T⟩ st)
    (hm : DriverMove s p s' q) : Locking ⟨s', (q : Multiset DriverPc) + T⟩ (s'.seen q st) := by
  have hv := h.stance
  have unlocked (hl' : s'.locked = false) (hne : s'.state ≠ .panicked)
      (hq : LockFree q) (hT : LockFree T) :
      Locking ⟨s', (q : Multiset DriverPc) + T⟩ (s'.seen q st) := by
    simpa [DriverShared.seen, hl'] using Locking.unlocked hl' hne (hq.add hT)
  cases hm.lockEffect with
  | apart hp hl' hs' hq =>
    rcases h.cons_cases with ⟨_, _, hi, _⟩ | ⟨hl, _, hs, hne, hT⟩ | ⟨hl, _, r, U, rfl, hr, hi, hU⟩
    · simp [hp] at hi
    · exact unlocked (hl'.trans hl) (by rwa [hs', hs]) hq hT
    · rw [seen_apart hv hl' hs' hq, Multiset.add_cons]
      exact .held (hl'.trans hl) (by rw [hr, hs']) hi (hq.add hU)
  | whole hl hl' hs' hq =>
    rcases h.cons_cases with ⟨hl, _⟩ | ⟨_, _, _, _, hT⟩ | ⟨hl, _⟩
    · simp_all
    · exact unlocked hl' hs'.ne_panicked hq hT
    · simp_all
  | acquire hl hl' hq hh hi =>
    subst hq
    rcases h.cons_cases with ⟨hl, _⟩ | ⟨_, _, _, _, hT⟩ | ⟨hl, _⟩
    · simp_all
    · simpa [DriverShared.seen, hl', hi] using Locking.held hl' hh hi hT
    · simp_all
  | inside hp hl' hs' hq hh hi =>
    subst hq
    rcases h.cons_cases with ⟨hl, hp', _, hT⟩ | ⟨_, hp', _⟩ | ⟨_, hp', _⟩
    · have hlocked := hl'.trans hl
      simpa [DriverShared.seen, hlocked, hi] using
        Locking.held hlocked (by rw [hh, hp', hs']) hi hT
    · simp [hp] at hp'
    · simp [hp] at hp'
  | release hp hl' hst hne hq =>
    rcases h.cons_cases with ⟨_, _, _, hT⟩ | ⟨_, hp', _⟩ | ⟨_, hp', _⟩
    · exact unlocked hl' hne hq hT
    · simp [hp] at hp'
    · simp [hp] at hp'

/-- What arrives never needs the lock. -/
theorem DriverArrival.lock_frame {s s' : DriverShared} {k : DriverEvent} {q : List DriverPc}
    (h : DriverArrival s k s' q) :
    s'.locked = s.locked ∧ s'.state = s.state ∧ LockFree q := by
  cases h <;> exact ⟨rfl, rfl, by simp [LockFree, DriverPc.inside]⟩

theorem Locking.arrive {s s' : DriverShared} {k : DriverEvent} {q : List DriverPc}
    {T : Multiset DriverPc} {st : FutureState} (h : Locking ⟨s, T⟩ st)
    (ha : DriverArrival s k s' q) : Locking ⟨s', (q : Multiset DriverPc) + T⟩ st := by
  obtain ⟨hl', hs', hq⟩ := ha.lock_frame
  cases h with
  | unlocked hl hs hT =>
    rw [← hs']
    exact .unlocked (hl'.trans hl) (by rwa [hs']) (hq.add hT)
  | held hl hp hi hT =>
    rw [Multiset.add_cons]
    exact .held (hl'.trans hl) (by rw [hp, hs']) hi (hq.add hT)

theorem DriverShared.IsNew.locking {s : DriverShared} (h : s.IsNew) {T : Multiset DriverPc}
    (hT : LockFree T) : Locking ⟨s, T⟩ s.state := by
  have hne : s.state ≠ .panicked := by cases h <;> exact FutureState.noConfusion
  have hl : s.locked = false := by cases h <;> rfl
  exact .unlocked hl hne hT

theorem Locking.inside_eq {s : DriverShared} {p : DriverPc} {T : Multiset DriverPc}
    {st st' : FutureState} (h : Locking ⟨s, T⟩ st) (hp : p ∈ T) (hi : p.inside = some st') :
    st' = st := by
  obtain ⟨U, rfl⟩ := Multiset.exists_cons_of_mem hp
  exact (h.stance.inside_eq hi).1

theorem Locking.inside_locked {s : DriverShared} {p : DriverPc} {T : Multiset DriverPc}
    {st st' : FutureState} (h : Locking ⟨s, T⟩ st) (hp : p ∈ T) (hi : p.inside = some st') :
    s.locked = true := by
  obtain ⟨U, rfl⟩ := Multiset.exists_cons_of_mem hp
  exact (h.stance.inside_eq hi).2.1

theorem Locking.unique {s : DriverShared} {T : Multiset DriverPc} {st st' : FutureState}
    (h : Locking ⟨s, T⟩ st) (h' : Locking ⟨s, T⟩ st') : st = st' := by
  cases h with
  | unlocked hl => exact h'.state_eq hl
  | @held s p T st hl hp hi => exact h'.inside_eq (Multiset.mem_cons_self p T) hi

theorem Locking.pendingTokio {s : DriverShared} {T : Multiset DriverPc} {st : FutureState}
    {cbs : List CallbackKind} (h : Locking ⟨s, T⟩ st) (hs : s.state = .pendingTokio cbs) :
    st = .pendingTokio cbs := by
  cases h with
  | unlocked => exact hs
  | @held s p T st hl hp hi =>
    rw [hs] at hp
    cases p with
    | convert reader resolved => cases reader <;> cases hp
    | _ => cases hp

theorem Locking.inside_other {s : DriverShared} {p r : DriverPc} {T : Multiset DriverPc}
    {st st' : FutureState} (h : Locking ⟨s, p ::ₘ T⟩ st) (hr : r ∈ T)
    (hi : r.inside = some st') : st' = st ∧ s.locked = true ∧ p.inside = none := by
  rcases h.cons_cases with ⟨_, _, _, hT⟩ | ⟨_, _, _, _, hT⟩ | ⟨hl, hp, o, U, rfl, _, hi', hU⟩
  · simp [hT r hr] at hi
  · simp [hT r hr] at hi
  · rcases Multiset.mem_cons.mp hr with rfl | hr
    · exact ⟨Option.some.inj (hi.symm.trans hi'), hl, hp⟩
    · simp [hU r hr] at hi

end ScyllaDriver
