import ScyllaDriver.DriverFiring

/-! A panic that unwinds out of a transition of a `DriverFuture`, and the poison it leaves
on the `std::sync::Mutex` of the state lock. The placeholder `Panicked` reports the
panic from every entry point, but only if the lock is not poisoned. -/

namespace ScyllaDriver

/-- The future behind its mutex, which may be poisoned. -/
structure GuardedShared where
  future : DriverShared
  poisoned : Bool
  /-- The threads that a panic unwound, in order. -/
  unwound : List DriverPc

inductive GuardedChoice where
  | go (choice : Choice)
  /-- A panic unwinds. `already` tells whether the thread was panicking when it locked. -/
  | panics (already : Bool)

/-- The thread is about to lock the state, or to get the lock back from the condvar. -/
def DriverPc.locks : DriverPc → Bool
  | .call _ | .waitForReady _ | .blocked _ _ | .readReady | .resolve _ => true
  | .fireAndNotify callbacks _ => !callbacks.isEmpty
  | _ => false

namespace GuardedShared

def new (future : DriverShared) : GuardedShared := ⟨future, false, []⟩

def unwind (g : GuardedShared) (p : DriverPc) : GuardedShared :=
  { g with unwound := g.unwound ++ [p] }

/-- The guard is dropped while its thread panics. The mutex is poisoned, unless the
thread was panicking when it locked; the coroutine is gone with its waker. -/
def dropGuard (g : GuardedShared) (already : Bool) : GuardedShared :=
  { g with future := { g.future with locked := false, waker := none },
           poisoned := g.poisoned || !already }

end GuardedShared

def guardedStep (g : GuardedShared) (p : DriverPc) :
    GuardedChoice → Option (GuardedShared × List DriverPc)
  | .go choice =>
    -- `unwrap` on what `lock` returns for a poisoned mutex.
    if g.poisoned && p.locks then
      if g.future.locked then none else some (g.unwind p, [])
    else (driverStep g.future p choice).map fun r => ({ g with future := r.1 }, r.2)
  | .panics already =>
    match p with
    -- `yield_asyncio_future` panics, for example in `batcher_for`. The poll of the inner
    -- future and the conversion of its output catch theirs.
    | .park _ => some ((g.dropGuard already).unwind p, [])
    | _ => none

def guardedEnv (g : GuardedShared) (k : DriverEvent) : Option (GuardedShared × List DriverPc) :=
  (driverEnv g.future k).map fun r => ({ g with future := r.1 }, r.2)

def guardedProgram : Program GuardedShared DriverPc GuardedChoice DriverEvent :=
  ⟨guardedStep, guardedEnv⟩

/-- A panic unwound out of a transition: nobody holds the lock over the placeholder. -/
def DriverShared.LeftPanicked (s : DriverShared) : Prop :=
  s.locked = false ∧ s.state = .panicked

/-- What a call on a future left `Panicked` is to report: the panic, or for `throw` its
argument. -/
def Entry.panickedReports : Entry → List Report
  | .result _ => [.result (.error panickedErr)]
  | .next => [.next (.error panickedErr)]
  | .repr => [.repr (some (.error panickedErr))]
  | .throw exc => [.rethrown exc]
  | .done => [.done true]
  | .cancelled => [.cancelled false]
  | .start | .register _ | .close _ => []

/-- Where a thread can be once the future is left `Panicked`. -/
def DriverPc.AtRest : DriverPc → Prop
  | .call _ | .resolve _ | .suspended _ => True
  | .run acts => ∀ cb r, Act.invoke cb r ∈ acts → r = .error panickedErr
  | _ => False

/-- The steps on a future left `Panicked`. -/
inductive PanickedMove (s : DriverShared) : DriverPc → DriverShared → List DriverPc → Prop where
  | reply {entry q} (hq : q = [] ∨ q = [.run []]) (he : ∀ cb, entry ≠ .register cb) :
      PanickedMove s (.call entry) { s with reports := s.reports ++ entry.panickedReports } q
  | register {cb} : PanickedMove s (.call (.register cb)) s [.run [.invoke cb (.error panickedErr)]]
  | skip {outcome} : PanickedMove s (.resolve outcome) s []
  | resume {v entry} (he : ∀ cb, entry ≠ .register cb) :
      PanickedMove s (.suspended v) s [.call entry]
  | finish : PanickedMove s (.run []) s []
  | act {a acts} : PanickedMove s (.run (a :: acts)) (s.act a).1 [.run ((s.act a).2 ++ acts)]

theorem PanickedMove.silent {s : DriverShared} {entry : Entry} (hr : entry.panickedReports = [])
    (he : ∀ cb, entry ≠ .register cb) : PanickedMove s (.call entry) s [] := by
  simpa [hr] using PanickedMove.reply (s := s) (.inl rfl) he

theorem enter_panicked {s : DriverShared} (hs : s.state = .panicked) (entry : Entry) :
    PanickedMove s (.call entry) (s.enter entry).1 (s.enter entry).2 := by
  cases entry with
  | register cb =>
    simpa [DriverShared.enter, DriverShared.registerCallback, hs] using PanickedMove.register
  | start =>
    simp only [DriverShared.enter, DriverShared.ensureStarted, hs]
    exact .silent rfl (by simp)
  | close exc =>
    simp only [DriverShared.enter, DriverShared.closeFuture, hs]
    exact .silent rfl (by simp)
  | result t =>
    simp only [DriverShared.enter, DriverShared.blockUntilReady, hs]
    exact .reply (.inr rfl) (by simp)
  | next =>
    simp only [DriverShared.enter, DriverShared.pollCoroutine, hs]
    exact .reply (.inr rfl) (by simp)
  | throw exc =>
    simp only [DriverShared.enter, DriverShared.throwInto, hs]
    exact .reply (.inl rfl) (by simp)
  | done =>
    simp only [DriverShared.enter, hs]
    exact .reply (.inl rfl) (by simp)
  | cancelled =>
    simp only [DriverShared.enter, DriverShared.readCancelled, hs]
    exact .reply (.inl rfl) (by simp)
  | repr =>
    simp only [DriverShared.enter, DriverShared.readRepr, hs]
    exact .reply (.inr rfl) (by simp)

theorem driverStep_panicked {s s' : DriverShared} {p : DriverPc} {q : List DriverPc} {e : Choice}
    (hleft : s.LeftPanicked) (hp : p.AtRest) (h : driverStep s p e = some (s', q)) :
    PanickedMove s p s' q := by
  obtain ⟨hl, hs⟩ := hleft
  cases p with
  | call entry =>
    simp only [driverStep, hl, Bool.false_eq_true, if_false, Option.some.injEq] at h
    have hm := enter_panicked hs entry
    rwa [h] at hm
  | resolve outcome =>
    simp only [driverStep, hl, Bool.false_eq_true, if_false, DriverShared.resolveOnTokio, hs] at h
    cases h
    exact .skip
  | run acts =>
    cases acts with
    | nil => cases h; exact .finish
    | cons a acts => cases h; exact .act
  | suspended v =>
    cases v with
    | none =>
      cases e with
      | go | throwIn => cases h; exact .resume (by simp)
      | _ => cases h
    | some f =>
      cases e with
      | go | throwIn =>
        simp only [driverStep] at h
        split at h <;> cases h
        exact .resume (by simp)
      | _ => cases h
  | _ => exact hp.elim

/-- The future is left `Panicked`, and every callback whose registration was called is
with a thread that will report the panic to it, or was told. -/
structure Left (c : Config DriverShared DriverPc) : Prop where
  panicked : c.shared.LeftPanicked
  threads : ∀ p ∈ c.threads, p.AtRest
  census : Census .panicked c
  invoked : ∀ e ∈ c.shared.invoked, e.2 = .error panickedErr

section Moves

variable {s s' : DriverShared} {p : DriverPc} {q : List DriverPc} {T : Multiset DriverPc}
  {st : FutureState} {k : DriverEvent}

theorem PanickedMove.frame (hm : PanickedMove s p s' q) :
    s'.locked = s.locked ∧ s'.state = s.state ∧ s'.registered = s.registered := by
  cases hm with
  | act => rw [act_frame]; exact ⟨rfl, rfl, rfl⟩
  | _ => exact ⟨rfl, rfl, rfl⟩

theorem PanickedMove.atRest (hm : PanickedMove s p s' q) (hp : p.AtRest) : ∀ r ∈ q, r.AtRest := by
  cases hm with
  | reply hq => rcases hq with rfl | rfl <;> simp [DriverPc.AtRest]
  | register => simp [DriverPc.AtRest]
  | skip | finish => simp
  | resume => simp [DriverPc.AtRest]
  | @act a acts =>
    intro r hr
    rw [List.mem_singleton.mp hr]
    intro cb r hcb
    rcases List.mem_append.mp hcb with hcb | hcb
    · obtain ⟨f, hf⟩ := act_todo hcb
      cases hf
    · exact hp cb r (List.mem_cons_of_mem a hcb)

/-- A callback goes from its registration to the thread that invokes it, and is then told. -/
theorem PanickedMove.placed (hm : PanickedMove s p s' q) (cb : CallbackKind) :
    (q.map (·.pending.count cb)).sum + (s'.invoked.map Prod.fst).count cb =
      p.pending.count cb + (s.invoked.map Prod.fst).count cb := by
  cases hm with
  | @reply entry q hq he =>
    have hp : (DriverPc.call entry).pending = [] := by
      cases entry with
      | register cb => exact absurd rfl (he cb)
      | _ => rfl
    rw [hp]
    rcases hq with rfl | rfl <;> rfl
  | register => simp [DriverPc.pending, DriverPc.registering, DriverPc.firing]
  | skip | finish => rfl
  | @resume v entry he =>
    cases entry with
    | register cb => exact absurd rfl (he cb)
    | _ => rfl
  | @act a acts =>
    cases hcb : a.callback with
    | none =>
      simp [act_invoked hcb, DriverPc.pending, DriverPc.registering, DriverPc.firing,
        filterMap_callback_act, hcb]
    | some cb' =>
      cases a <;> cases hcb
      simp [DriverShared.act, DriverPc.pending, DriverPc.registering, DriverPc.firing,
        List.count_cons, List.count_append]
      omega

theorem PanickedMove.invoked (hm : PanickedMove s p s' q) (hp : p.AtRest) :
    ∃ fired, s'.invoked = s.invoked ++ fired ∧ ∀ e ∈ fired, e.2 = .error panickedErr := by
  cases hm with
  | @act a acts =>
    cases hcb : a.callback with
    | none => exact ⟨[], by simp [act_invoked hcb], by simp⟩
    | some cb' =>
      cases a <;> cases hcb
      exact ⟨[_], rfl, by simpa using hp _ _ List.mem_cons_self⟩
  | _ => exact ⟨[], by simp, by simp⟩

theorem PanickedMove.reports (hm : PanickedMove s p s' q) :
    ∃ later, s'.reports = s.reports ++ later ∧
      ∀ r ∈ later, ∃ entry : Entry, r ∈ entry.panickedReports := by
  cases hm with
  | @reply entry => exact ⟨_, rfl, fun r hr => ⟨entry, hr⟩⟩
  | act => exact ⟨[], by rw [act_frame]; simp, by simp⟩
  | _ => exact ⟨[], by simp, by simp⟩

theorem Left.move (h : Left ⟨s, p ::ₘ T⟩) (hm : PanickedMove s p s' q) :
    Left ⟨s', (q : Multiset DriverPc) + T⟩ := by
  have hp := h.threads p (Multiset.mem_cons_self p T)
  obtain ⟨hl, hs, hreg⟩ := hm.frame
  constructor
  · exact ⟨hl.trans h.panicked.1, hs.trans h.panicked.2⟩
  · intro r hr
    rcases Multiset.mem_add.mp hr with hr | hr
    · exact hm.atRest hp r hr
    · exact h.threads r (Multiset.mem_cons_of_mem hr)
  · intro cb
    have hcb := h.census cb
    have hplaced := hm.placed cb
    simp only [Multiset.map_cons, Multiset.sum_cons] at hcb
    simp only [hreg, Multiset.map_add, Multiset.sum_add, Multiset.map_coe, Multiset.sum_coe]
    omega
  · obtain ⟨fired, hi, hf⟩ := hm.invoked hp
    intro e he
    rcases List.mem_append.mp (hi ▸ he) with he | he
    · exact h.invoked e he
    · exact hf e he

theorem Left.arrive (h : Left ⟨s, T⟩) (ha : DriverArrival s k s' q) :
    Left ⟨s', (q : Multiset DriverPc) + T⟩ := by
  constructor
  · cases ha <;> exact h.panicked
  · intro r hr
    rcases Multiset.mem_add.mp hr with hr | hr
    · cases ha <;> simp_all [DriverPc.AtRest]
    · exact h.threads r hr
  · exact h.census.arrive ha
  · have hinv : s'.invoked = s.invoked := by cases ha <;> rfl
    intro e he
    exact h.invoked e (hinv ▸ he)

/-- A future still driven by asyncio has queued no callback and lost none. -/
def Uncounted (st : FutureState) (c : Config DriverShared DriverPc) : Prop :=
  (∃ co, st = .pendingAsyncio co) → Census st c

theorem Uncounted.move (h : Uncounted st ⟨s, p ::ₘ T⟩) (hc : Coherent st ⟨s, p ::ₘ T⟩)
    (hm : DriverMove s p s' q) : Uncounted (s'.seen q st) ⟨s', (q : Multiset DriverPc) + T⟩ := by
  rintro ⟨co, hst'⟩
  have hlived := hm.lived hc.locking.stance
  rw [hst'] at hlived
  cases hlived
  refine (h ⟨co, rfl⟩).move hc ?_ hm
  rintro cbs n rfl
  obtain ⟨rr, hrr⟩ := hc.threads _ (Multiset.mem_cons_self _ T)
  cases hrr

/-- A panic that unwinds out of `yield_asyncio_future` leaves the other threads at rest. -/
theorem Left.of_unwind {co : StashingFuture} (hc : Coherent st ⟨s, .park co ::ₘ T⟩)
    (hn : Uncounted st ⟨s, .park co ::ₘ T⟩) :
    Left ⟨{ s with locked := false, waker := none }, T⟩ := by
  rcases hc.locking.cons_cases with ⟨hl, hheld, hi, hT⟩ | ⟨_, hi, _⟩ | ⟨_, hi, _⟩
  · cases hi
    refine ⟨⟨rfl, (Option.some.inj hheld).symm⟩, fun p hp => ?_, fun cb => ?_, fun e he => ?_⟩
    · have hagree := hc.threads p (Multiset.mem_cons_of_mem hp)
      have hfree := hT p hp
      cases p with
      | run acts =>
        intro cb r hcb
        cases hagree cb r hcb
      | call | resolve | suspended => trivial
      | waitForReady | blocked | yieldAsyncio => exact absurd rfl (hagree co)
      | readReady | fireAndNotify | blocking =>
        obtain ⟨rr, hrr⟩ := hagree
        cases hrr
      | unreachable => exact hagree
      | _ => cases hfree
    · have hcb := hn ⟨co, rfl⟩ cb
      simpa [DriverPc.pending, DriverPc.registering, DriverPc.firing, FutureState.callbacks]
        using hcb
    · cases hc.invoked e he
  · cases hi
  · cases hi

end Moves

theorem guardedStep_cases {g g' : GuardedShared} {p : DriverPc} {q : List DriverPc}
    {e : GuardedChoice} (hp : g.poisoned = false) (h : guardedStep g p e = some (g', q)) :
    (∃ choice s', driverStep g.future p choice = some (s', q) ∧ g' = { g with future := s' }) ∨
    (∃ co already, p = .park co ∧ q = [] ∧ g' = (g.dropGuard already).unwind p) := by
  cases e with
  | go choice =>
    rw [guardedStep, if_neg (by simp [hp])] at h
    obtain ⟨⟨s', q'⟩, hs, hr⟩ := Option.map_eq_some_iff.mp h
    cases hr
    exact .inl ⟨choice, s', hs, rfl⟩
  | panics already =>
    cases p with
    | park co =>
      cases h
      exact .inr ⟨co, already, rfl, rfl, rfl⟩
    | _ => cases h

theorem guardedEnv_arrival {g g' : GuardedShared} {k : DriverEvent} {q : List DriverPc}
    (h : guardedEnv g k = some (g', q)) :
    ∃ s', DriverArrival g.future k s' q ∧ g' = { g with future := s' } := by
  obtain ⟨⟨s', q'⟩, hs, hr⟩ := Option.map_eq_some_iff.mp h
  cases hr
  exact ⟨s', driverEnv_arrival hs, rfl⟩

theorem guardedStep_poisoned {g g' : GuardedShared} {p : DriverPc} {q : List DriverPc}
    {e : GuardedChoice} (h : guardedStep g p e = some (g', q)) (hp : g'.poisoned = false) :
    g.poisoned = false := by
  by_contra hne
  have hg : g.poisoned = true := by simpa using hne
  cases e with
  | go choice =>
    simp only [guardedStep] at h
    split at h
    · split at h <;> cases h
      exact hne hp
    · obtain ⟨r, -, hr⟩ := Option.map_eq_some_iff.mp h
      cases hr
      exact hne hp
  | panics already =>
    cases p with
    | park co =>
      cases h
      simp [GuardedShared.unwind, GuardedShared.dropGuard, hg] at hp
    | _ => cases h

/-- As long as the mutex is not poisoned, the future is as without panics, or left
`Panicked`. -/
def Guarded (c : Config GuardedShared DriverPc) : Prop :=
  c.shared.poisoned = false →
    (∃ st, Coherent st ⟨c.shared.future, c.threads⟩ ∧ Uncounted st ⟨c.shared.future, c.threads⟩) ∨
    Left ⟨c.shared.future, c.threads⟩

theorem guarded_preserves : guardedProgram.Preserves (fun _ _ => True) Guarded := by
  constructor
  · intro g T p e g' q _ h hs hpoison
    have hclean := guardedStep_poisoned hs hpoison
    rcases guardedStep_cases hclean hs with ⟨choice, s', hstep, rfl⟩ | ⟨co, already, rfl, rfl, rfl⟩
    · rcases h hclean with ⟨st, hc, hn⟩ | hleft
      · have hm := driverStep_move hc.locking.clean hstep
        exact .inl ⟨_, hc.move hm, hn.move hc hm⟩
      · have hrest := hleft.threads p (Multiset.mem_cons_self p T)
        exact .inr (hleft.move (driverStep_panicked hleft.panicked hrest hstep))
    · refine .inr ?_
      rcases h hclean with ⟨st, hc, hn⟩ | hleft
      · simpa [GuardedShared.unwind, GuardedShared.dropGuard] using Left.of_unwind hc hn
      · exact (hleft.threads _ (Multiset.mem_cons_self _ T)).elim
  · intro g T k g' q _ h hs hpoison
    obtain ⟨s', ha, rfl⟩ := guardedEnv_arrival hs
    rcases h hpoison with ⟨st, hc, hn⟩ | hleft
    · exact .inl ⟨st, hc.arrive ha, fun hst => (hn hst).arrive ha⟩
    · exact .inr (hleft.arrive ha)

theorem guarded_of_run {s₀ : DriverShared} (hnew : s₀.IsNew) {c : Config GuardedShared DriverPc}
    (hr : guardedProgram.Run ⟨.new s₀, 0⟩ c) : Guarded c := by
  refine guarded_preserves.run (fun _ => .inl ⟨_, hnew.coherent (by simp), fun _ => ?_⟩) hr
  cases hnew <;> simp [Census, DriverShared.spawn, DriverShared.spawnOnTokio,
    DriverShared.alreadyReady, DriverShared.create, GuardedShared.new, FutureState.callbacks]

/-- What the users of a future left `Panicked` in `c` have seen until `d`. -/
structure PanicReported (c d : Config GuardedShared DriverPc) : Prop where
  /-- No call panicked. -/
  unwound : d.shared.unwound = c.shared.unwound
  /-- A call gets the lock at once and reports, and then has only callbacks to run. -/
  takes : ∀ entry, .call entry ∈ d.threads → ∃ s q,
    guardedStep d.shared (.call entry) (.go .go) = some ({ d.shared with future := s }, q) ∧
    s.reports = d.shared.future.reports ++ entry.panickedReports ∧ ∀ p ∈ q, ∃ acts, p = .run acts
  /-- Nothing else was reported. -/
  reports : ∃ later, d.shared.future.reports = c.shared.future.reports ++ later ∧
    ∀ r ∈ later, ∃ entry : Entry, r ∈ entry.panickedReports
  invoked : ∀ e ∈ d.shared.future.invoked, e.2 = .error panickedErr
  /-- Once the calls have ended, every callback was told. -/
  told : (∀ p ∈ d.threads, ∃ v, p = .suspended v) →
    ∀ cb ∈ d.shared.future.registered, (cb, .error panickedErr) ∈ d.shared.future.invoked

theorem PanickedMove.reply_eq {s s' : DriverShared} {entry : Entry} {q : List DriverPc}
    (hm : PanickedMove s (.call entry) s' q) :
    s'.reports = s.reports ++ entry.panickedReports ∧ ∀ p ∈ q, ∃ acts, p = .run acts := by
  cases hm with
  | reply hq => exact ⟨rfl, by rcases hq with rfl | rfl <;> simp⟩
  | register => exact ⟨by simp [Entry.panickedReports], by simp⟩

theorem Left.takes {g : GuardedShared} {T : Multiset DriverPc} (h : Left ⟨g.future, T⟩)
    (hp : g.poisoned = false) (entry : Entry) : ∃ s q,
      guardedStep g (.call entry) (.go .go) = some ({ g with future := s }, q) ∧
      s.reports = g.future.reports ++ entry.panickedReports ∧ ∀ p ∈ q, ∃ acts, p = .run acts := by
  obtain ⟨hl, hs⟩ := h.panicked
  refine ⟨(g.future.enter entry).1, (g.future.enter entry).2, ?_, (enter_panicked hs entry).reply_eq⟩
  rw [guardedStep, if_neg (by simp [hp])]
  simp [driverStep, show g.future.locked = false from hl]

theorem Left.told {c : Config DriverShared DriverPc} (h : Left c)
    (hquiet : ∀ p ∈ c.threads, ∃ v, p = .suspended v) :
    ∀ cb ∈ c.shared.registered, (cb, .error panickedErr) ∈ c.shared.invoked := by
  intro cb hcb
  have hzero : (c.threads.map (·.pending.count cb)).sum = 0 := by
    refine Multiset.sum_eq_zero fun n hn => ?_
    obtain ⟨p, hp, rfl⟩ := Multiset.mem_map.mp hn
    obtain ⟨v, rfl⟩ := hquiet p hp
    rfl
  have hcount : 0 < (c.shared.invoked.map Prod.fst).count cb := by
    have hcen := h.census cb
    have hpos := List.count_pos_iff.mpr hcb
    simp only [FutureState.callbacks, List.count_nil] at hcen
    omega
  obtain ⟨⟨cb', r⟩, he, rfl⟩ := List.mem_map.mp (List.count_pos_iff.mp hcount)
  rwa [← h.invoked _ he]

/-- The future stays left `Panicked`, and has reported nothing else since `c`. -/
structure LeftSince (c d : Config GuardedShared DriverPc) : Prop where
  sound : d.shared.poisoned = false
  left : Left ⟨d.shared.future, d.threads⟩
  unwound : d.shared.unwound = c.shared.unwound
  reports : ∃ later, d.shared.future.reports = c.shared.future.reports ++ later ∧
    ∀ r ∈ later, ∃ entry : Entry, r ∈ entry.panickedReports

theorem leftSince_preserves (c : Config GuardedShared DriverPc) :
    guardedProgram.Preserves (fun _ _ => True) (LeftSince c) := by
  constructor
  · intro g T p e g' q _ h hs
    have hrest := h.left.threads p (Multiset.mem_cons_self p T)
    rcases guardedStep_cases h.sound hs with ⟨choice, s', hstep, rfl⟩ | ⟨co, already, rfl, rfl, rfl⟩
    · have hm := driverStep_panicked h.left.panicked hrest hstep
      obtain ⟨later, hrep, hlater⟩ := h.reports
      obtain ⟨new, hnew, hof⟩ := hm.reports
      refine ⟨h.sound, h.left.move hm, h.unwound, later ++ new, ?_, ?_⟩
      · exact hnew.trans (by rw [show g.future.reports = _ from hrep, List.append_assoc])
      · intro r hr
        rcases List.mem_append.mp hr with hr | hr
        · exact hlater r hr
        · exact hof r hr
    · exact hrest.elim
  · intro g T k g' q _ h hs
    obtain ⟨s', ha, rfl⟩ := guardedEnv_arrival hs
    have hrep : s'.reports = g.future.reports := by cases ha <;> rfl
    refine ⟨h.sound, h.left.arrive ha, h.unwound, ?_⟩
    rw [show (⟨s', g.poisoned, g.unwound⟩ : GuardedShared).future.reports = _ from hrep]
    exact h.reports

/-- Behind a poisoned mutex every call panics. -/
theorem poisoned_call_panics {g : GuardedShared} (hp : g.poisoned = true)
    (hl : g.future.locked = false) (entry : Entry) (choice : Choice) :
    guardedStep g (.call entry) (.go choice) = some (g.unwind (.call entry), []) := by
  simp [guardedStep, hp, hl, DriverPc.locks]

/-- A future left `Panicked` reports that from every entry point, in every later run and
however often it is called, exactly if the panic has not poisoned the mutex. -/
theorem panicked_reported_iff {s₀ : DriverShared} (hnew : s₀.IsNew)
    {c : Config GuardedShared DriverPc} (hr : guardedProgram.Run ⟨.new s₀, 0⟩ c)
    (hleft : c.shared.future.LeftPanicked) :
    (∀ d, guardedProgram.Run c d → PanicReported c d) ↔ c.shared.poisoned = false := by
  constructor
  · intro h
    by_contra hne
    -- A call of `done` panics.
    have harrive : guardedProgram.Run c ⟨c.shared, .call .done ::ₘ c.threads⟩ :=
      guardedProgram.run_env (k := .call .done) (q := [.call .done]) rfl
    have hpanics := harrive.trans (guardedProgram.run_thread (e := .go .go)
      (poisoned_call_panics (by simpa using hne) hleft.1 .done .go))
    have hunwound := (h _ hpanics).unwound
    simp [GuardedShared.unwind] at hunwound
  · intro hsound d hd
    have hc : LeftSince c c := by
      refine ⟨hsound, ?_, rfl, [], by simp, by simp⟩
      rcases guarded_of_run hnew hr hsound with ⟨st, hc, -⟩ | h
      · exact absurd hleft.2 (hc.locking.clean hleft.1)
      · exact h
    have h := (leftSince_preserves c).run hc hd
    exact ⟨h.unwound, fun entry _ => h.left.takes h.sound entry, h.reports, h.left.invoked,
      h.left.told⟩

/-- A poll that parked on a loop without weak references panicked, and left the future
`Panicked`. -/
def leftByPark (already : Bool) : Config GuardedShared DriverPc :=
  ⟨⟨{ DriverShared.spawn 3 .callSoon with state := .panicked, waker := none }, !already,
    [.park ⟨none⟩]⟩, 0⟩

theorem leftByPark_run (already : Bool) :
    guardedProgram.Run ⟨.new (.spawn 3 .callSoon), 0⟩ (leftByPark already) := by
  have hr : guardedProgram.Run ⟨.new (.spawn 3 .callSoon), 0⟩ _ :=
    Program.exec_run [.env (.call .next), .thread (.call .next) (.go .go),
      .thread (.reset ⟨none⟩) (.go .go), .thread (.poll ⟨none⟩) (.go (.polled none)),
      .thread (.park ⟨none⟩) (.panics already)] rfl
  exact hr

/-- A thread that was panicking when it locked leaves the mutex sound, and an `on_error`
callback is told. -/
theorem panicked_reported_iff_sound :
    (∀ d, guardedProgram.Run (leftByPark true) d → PanicReported (leftByPark true) d) ∧
    ∃ d, guardedProgram.Run (leftByPark true) d ∧
      (.error ⟨10, 0⟩, .error panickedErr) ∈ d.shared.future.invoked := by
  have hreported := (panicked_reported_iff (.spawn 3 .callSoon) (leftByPark_run true) ⟨rfl, rfl⟩).mpr
    rfl
  have hr : guardedProgram.Run (leftByPark true) _ :=
    Program.exec_run [.env (.call (.onError 10)),
      .thread (.call (.register (.error ⟨10, 0⟩))) (.go .go),
      .thread (.run [.invoke (.error ⟨10, 0⟩) (.error panickedErr)]) (.go .go),
      .thread (.run []) (.go .go)] rfl
  refine ⟨hreported, _, hr, (hreported _ hr).told ?_ _ (List.mem_singleton_self _)⟩
  exact fun p hp => absurd hp (Multiset.notMem_zero p)

/-- The panic poisons the mutex, and then every call panics. -/
theorem panicked_calls_panic :
    ∃ c, guardedProgram.Run ⟨.new (.spawn 3 .callSoon), 0⟩ c ∧ c.shared.future.LeftPanicked ∧
      ∀ entry choice, guardedStep c.shared (.call entry) (.go choice) =
        some (c.shared.unwind (.call entry), []) :=
  ⟨leftByPark false, leftByPark_run false, ⟨rfl, rfl⟩, poisoned_call_panics rfl rfl⟩

end ScyllaDriver
