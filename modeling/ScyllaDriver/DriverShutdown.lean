import ScyllaDriver.DriverFiring
import ScyllaDriver.DriverWaiters
import ScyllaDriver.DriverAwaiters

/-! The runtime shutting down under a future that runs on tokio. A task that
reports its outcome, also one that is dropped, releases everybody who waits, as long
as tokio drops no closure that was given to `spawn_blocking` for it. -/

namespace ScyllaDriver

namespace Batcher

/-- Whatever the batcher queued, took or finished was pushed to it, whether or not the
loop is still open. -/
structure Sourced (s : Shared) : Prop where
  queued : ∀ f ∈ s.queue, f ∈ s.pushed
  taken : ∀ f ∈ s.drain.ready, f ∈ s.pushed
  finished : ∀ f, s.status f = .finished → f ∈ s.pushed

theorem Sourced.next {c d : Config Shared Pc} {l : Label Pc Io Event} (h : Sourced c.shared)
    (hn : program.next c l = some d) : Sourced d.shared := by
  rcases Program.next_cases hn with ⟨p, io, T, s, q, -, -, hs, rfl⟩ | ⟨k, s, q, -, hs, rfl⟩
  · cases step_move hs with
    | @push f =>
      refine ⟨fun g hg => ?_, fun g hg => List.mem_append_left _ (h.taken g hg),
        fun g hg => List.mem_append_left _ (h.finished g hg)⟩
      rcases List.mem_append.mp hg with hg | hg
      · exact List.mem_append_left _ (h.queued g hg)
      · exact List.mem_append_right _ hg
    | discard => exact ⟨by simp, h.taken, h.finished⟩
    | _ => exact ⟨h.queued, h.taken, h.finished⟩
  · cases env_move hs with
    | startDrain => exact ⟨h.queued, by simp [Drain.ready], h.finished⟩
    | read hd hd' => exact ⟨h.queued, by rcases hd' with rfl | rfl <;> simp [Drain.ready], h.finished⟩
    | takeQueue => exact ⟨by simp [Shared.takeQueue], h.queued, h.finished⟩
    | @release f ready hd =>
      have htaken : ∀ g ∈ f :: ready, g ∈ c.shared.pushed := by simpa [hd, Drain.ready] using h.taken
      refine ⟨h.queued, fun g hg => htaken g (List.mem_cons_of_mem f hg), fun g hg => ?_⟩
      by_cases hfg : g = f
      · exact hfg ▸ htaken f List.mem_cons_self
      · refine h.finished g ?_
        simp only [releaseWaiter] at hg
        split at hg
        · rwa [Function.update_of_ne hfg] at hg
        · exact hg
    | released => exact ⟨h.queued, by simp [Drain.ready], h.finished⟩
    | @cancelFuture f hf =>
      refine ⟨h.queued, h.taken, fun g hg => h.finished g ?_⟩
      by_cases hfg : g = f
      · simp [hfg] at hg
      · simpa [Function.update_of_ne hfg] using hg
    | _ => exact ⟨h.queued, h.taken, h.finished⟩

theorem pushed_of_next {c d : Config Shared Pc} {l : Label Pc Io Event} {f : AioFuture}
    (hn : program.next c l = some d) (h : .push f ∈ c.threads ∨ f ∈ c.shared.pushed) :
    .push f ∈ d.threads ∨ f ∈ d.shared.pushed := by
  rcases Program.next_cases hn with ⟨p, io, T, s, q, -, hT, hs, rfl⟩ | ⟨k, s, q, -, hs, rfl⟩
  · have hmono : f ∈ c.shared.pushed → f ∈ s.pushed := by
      cases step_move hs with
      | push => exact List.mem_append_left _
      | _ => exact id
    rcases h with h | h
    · rw [hT] at h
      rcases Multiset.mem_cons.mp h with rfl | h
      · cases hs
        exact .inr (List.mem_append_right _ (List.mem_singleton_self f))
      · exact .inl (Multiset.mem_add.mpr (.inr h))
    · exact .inr (hmono h)
  · rcases h with h | h
    · exact .inl (Multiset.mem_add.mpr (.inr h))
    · refine .inr ?_
      cases env_move hs <;> exact h

end Batcher

section Moves

variable {s s' : DriverShared} {p : DriverPc} {q : List DriverPc} {T : Multiset DriverPc}
  {st : FutureState} {f : AioFuture} {k : DriverEvent}

/-- A thread is pushing the future to the batcher, or has done so. -/
def GivenOut (c : Config DriverShared DriverPc) (f : AioFuture) : Prop :=
  (∃ acts, .run acts ∈ c.threads ∧ .push f ∈ acts) ∨
    .push f ∈ c.shared.batcher.threads ∨ f ∈ c.shared.batcher.shared.pushed

theorem GivenOut.move (h : GivenOut ⟨s, p ::ₘ T⟩ f) (hm : DriverMove s p s' q) :
    GivenOut ⟨s', (q : Multiset DriverPc) + T⟩ f := by
  rcases h with h | h
  · exact (pushing_move h hm).imp_right .inl
  · refine .inr ?_
    rcases hm.batcher with hb | ⟨g, acts, -, -, hb⟩
    · rwa [hb]
    · rw [hb]
      exact h.imp_left Multiset.mem_cons_of_mem

theorem GivenOut.arrive (h : GivenOut ⟨s, T⟩ f) (ha : DriverArrival s k s' q) :
    GivenOut ⟨s', (q : Multiset DriverPc) + T⟩ f := by
  rcases h with ⟨acts, hr, hf⟩ | h
  · exact .inl ⟨acts, Multiset.mem_add.mpr (.inr hr), hf⟩
  · refine .inr ?_
    rcases ha.batcher_next with he | ⟨l, hn, -⟩
    · rwa [he]
    · exact Batcher.pushed_of_next hn h

/-- The future waits in the slot of a future running on tokio, or of one that is about
to be woken; otherwise it is done with or on its way to the batcher. -/
def Cared (f : AioFuture) (st : FutureState) (c : Config DriverShared DriverPc) : Prop :=
  (c.shared.waker = some (.parked f) ∧
    ((∃ cbs, st = .pendingTokio cbs) ∨ (∃ rr, st = .ready rr) ∧ WakePending c)) ∨
  GivenOut c f ∨ c.shared.batcher.shared.status f ≠ .pending

/-- Only a wake empties the slot of a future that left `PendingAsyncio`. -/
theorem DriverMove.slot (hm : DriverMove s p s' q) (hv : Stance s p st)
    (hst : ∀ co, st ≠ .pendingAsyncio co) (hw : s.waker = some (.parked f)) :
    s'.waker = some (.parked f) ∨ GivenOut ⟨s', (q : Multiset DriverPc) + T⟩ f ∨
      s.batcher.shared.status f ≠ .pending := by
  cases hm.wakerEffect with
  | keep hk => exact .inl (hk.trans hw)
  | make hs => cases hs.symm.trans hw
  | reset hp =>
    subst hp
    exact absurd (hv.inside_eq rfl).1.symm (hst _)
  | park hp =>
    subst hp
    exact absurd (hv.inside_eq rfl).1.symm (hst _)
  | yield hp hq hy =>
    cases hy with
    | woken hs => cases hs.symm.trans hw
    | again hs _ hs' =>
      cases hs.symm.trans hw
      exact .inl hs'
    | fresh hs =>
      refine .inr (.inr ?_)
      rw [hs f hw]
      decide
    | failed hs' => exact .inl (by rw [hs', hw]; rfl)
  | @wake a acts slot hp hs _ _ hq =>
    cases hs.symm.trans hw
    refine .inr (.inl (.inl ⟨.push f :: acts, ?_, List.mem_cons_self⟩))
    simp [hq, WakerSlot.takeParked]

theorem Cared.move (h : Cared f st ⟨s, p ::ₘ T⟩) (hc : Coherent st ⟨s, p ::ₘ T⟩)
    (hrun : RunsClosure p q) (hm : DriverMove s p s' q) :
    Cared f (s'.seen q st) ⟨s', (q : Multiset DriverPc) + T⟩ := by
  have hv := hc.locking.stance
  have hstatus : s'.batcher.shared.status = s.batcher.shared.status := by rw [hm.status]
  rcases h with ⟨hw, hst⟩ | h | h
  · have hne : ∀ co, st ≠ .pendingAsyncio co := by
      rcases hst with ⟨cbs, rfl⟩ | ⟨⟨rr, rfl⟩, -⟩ <;> exact nofun
    rcases hm.slot (T := T) hv hne hw with hw' | h | h
    · refine .inl ⟨hw', ?_⟩
      have hlived := hm.lived hv
      rcases hst with ⟨cbs, rfl⟩ | ⟨⟨rr, rfl⟩, hwake⟩
      · generalize s'.seen q (.pendingTokio cbs) = st' at hlived
        cases hlived with
        | stays => exact .inl ⟨cbs, rfl⟩
        | queues => exact .inl ⟨_, rfl⟩
        | @finishes _ rr r hq hr =>
          exact .inr ⟨⟨rr, rfl⟩, r, by simp [hq], hr.wakes⟩
      · refine .inr ⟨?_, hwake.move hc hrun hm hw'⟩
        generalize s'.seen q (.ready rr) = st' at hlived
        cases hlived with
        | stays => exact ⟨rr, rfl⟩
        | converts => exact ⟨_, rfl⟩
    · exact .inr (.inl h)
    · exact .inr (.inr (by rwa [hstatus]))
  · exact .inr (.inl (h.move hm))
  · exact .inr (.inr (by rwa [hstatus]))

theorem Cared.arrive (h : Cared f st ⟨s, T⟩) (ha : DriverArrival s k s' q) :
    Cared f st ⟨s', (q : Multiset DriverPc) + T⟩ := by
  have hwaker : s'.waker = s.waker := by cases ha <;> rfl
  rcases h with ⟨hw, hst⟩ | h | h
  · refine .inl ⟨hwaker.trans hw, hst.imp_right (.imp_right ?_)⟩
    exact fun h => .of_mem_right h
  · exact .inr (.inl (h.arrive ha))
  · refine .inr (.inr fun hp => h ?_)
    rcases ha.batcher_next with he | ⟨l, hn, -⟩
    · rwa [he] at hp
    · exact Batcher.pending_of_next hn hp

/-- A future on tokio has a task that runs, or one whose `on_done` was called and has
not returned. -/
def Reporting (st : FutureState) (c : Config DriverShared DriverPc) : Prop :=
  (∃ cbs, st = .pendingTokio cbs) →
    (∃ future aborted, c.shared.task = .running future aborted) ∨ ∃ o, .resolve o ∈ c.threads

theorem DriverMove.task_running (hm : DriverMove s p s' q)
    (h : ∃ future aborted, s.task = .running future aborted) :
    ∃ future aborted, s'.task = .running future aborted := by
  obtain ⟨future, aborted, ht⟩ := h
  cases hm with
  | throwTokio | closeTokio => exact ⟨future, true, by simp [ht, TaskState.abort]⟩
  | start | registerAsyncio | resultAsyncio => exact ⟨_, _, rfl⟩
  | act => rw [act_frame]; exact ⟨future, aborted, ht⟩
  | _ => exact ⟨future, aborted, ht⟩

theorem Reporting.move (h : Reporting st ⟨s, p ::ₘ T⟩) (hc : Coherent st ⟨s, p ::ₘ T⟩)
    (hm : DriverMove s p s' q) : Reporting (s'.seen q st) ⟨s', (q : Multiset DriverPc) + T⟩ := by
  have hv := hc.locking.stance
  -- A thread in `on_done` makes a future that runs on tokio `Ready`.
  have hstays {cbs cbs'} (hst : st = .pendingTokio cbs) (hst' : s'.seen q st = .pendingTokio cbs') :
      (∃ future aborted, s'.task = .running future aborted) ∨
        ∃ o, .resolve o ∈ (q : Multiset DriverPc) + T := by
    rcases h ⟨cbs, hst⟩ with hrun | ⟨o, ho⟩
    · exact .inl (hm.task_running hrun)
    · rcases Multiset.mem_cons.mp ho with rfl | ho
      · cases hm with
        | skip hl hskip =>
          cases hskip with
          | resolveOver hne => exact absurd ((hv.state_eq hl).trans hst) (hne cbs)
        | readConverted _ hp => cases hp
        | readUnconverted _ hp => cases hp
        | resolveFinished hl | resolveDropped hl => simp [DriverShared.seen, hl] at hst'
      · exact .inr ⟨o, Multiset.mem_add.mpr (.inr ho)⟩
  rintro ⟨cbs, hst'⟩
  have hlived := hm.lived hv
  rw [hst'] at hlived
  cases hlived with
  | stays => exact hstays rfl hst'
  | queues => exact hstays rfl hst'
  | starts hs => exact .inl ⟨_, _, by rw [hs]; rfl⟩

theorem Reporting.arrive (h : Reporting st ⟨s, T⟩) (ha : DriverArrival s k s' q) :
    Reporting st ⟨s', (q : Multiset DriverPc) + T⟩ := by
  intro hst
  rcases h hst with ⟨future, aborted, ht⟩ | ⟨o, ho⟩
  · cases ha with
    | taskFinishes | taskPanics | taskDropped =>
      exact .inr ⟨_, Multiset.mem_add.mpr (.inl (List.mem_singleton.mpr rfl))⟩
    | _ => exact .inl ⟨future, aborted, ht⟩
  · exact .inr ⟨o, Multiset.mem_add.mpr (.inr ho)⟩

theorem sourced_move (h : Batcher.Sourced s.batcher.shared) (hm : DriverMove s p s' q) :
    Batcher.Sourced s'.batcher.shared := by
  rwa [hm.status]

theorem sourced_arrive (h : Batcher.Sourced s.batcher.shared) (ha : DriverArrival s k s' q) :
    Batcher.Sourced s'.batcher.shared := by
  rcases ha.batcher_next with he | ⟨l, hn, -⟩
  · rwa [he]
  · exact h.next hn

end Moves

/-- The thread is in `on_done` of the task or in the closure it gave to
`spawn_blocking`, or has callbacks, a wake, a push or a `notify` left to do. -/
def DriverPc.Settling : DriverPc → Prop
  | .resolve _ | .blocking _ _ | .fireAndNotify _ _ | .convert (.fire _ _) _ => True
  | .run acts => acts ≠ []
  | _ => False

theorem DriverPc.settling_of_wakes {p : DriverPc} (h : p.wakes) : p.Settling := by
  cases p with
  | run acts => exact List.ne_nil_of_mem h
  | resolve => trivial
  | convert reader resolved =>
    cases reader with
    | fire => trivial
    | _ => exact h
  | _ => exact h

theorem DriverPc.settling_of_owes {p : DriverPc} (h : p.OwesNotify) : p.Settling := by
  cases p with
  | run acts =>
    obtain ⟨n, -, hn⟩ := h
    exact List.ne_nil_of_mem hn
  | resolve | blocking | fireAndNotify => trivial
  | convert reader resolved =>
    cases reader with
    | fire => trivial
    | _ => exact h
  | _ => exact h

theorem DriverPc.settling_of_firing {p : DriverPc} (h : p.firing ≠ []) : p.Settling := by
  cases p with
  | run acts =>
    rintro rfl
    exact h rfl
  | blocking | fireAndNotify => trivial
  | convert reader resolved =>
    cases reader with
    | fire => trivial
    | _ => exact absurd rfl h
  | _ => exact absurd rfl h

theorem Coherent.state_of_converted {c : Config DriverShared DriverPc} {r : PyResult}
    (h : Coherent (.ready (.converted r)) c) : c.shared.state = .ready (.converted r) := by
  generalize hst : FutureState.ready (.converted r) = st at h
  cases h.locking with
  | unlocked => rfl
  | held hl hp hi =>
    unfold DriverPc.inside at hi
    split at hi <;> simp [← hst] at hi

/-- What a run without a dropped closure keeps from a moment on at which the future
runs on tokio, the asyncio futures of `parked` being parked on it. -/
structure Attended (parked : AioFuture → Prop) (st : FutureState)
    (c : Config DriverShared DriverPc) : Prop where
  left : ∀ co, st ≠ .pendingAsyncio co
  reporting : Reporting st c
  sourced : Batcher.Sourced c.shared.batcher.shared
  cared : ∀ f, parked f → Cared f st c

theorem driver_reporting {s₀ : DriverShared} (hnew : s₀.IsNew) {c : Config DriverShared DriverPc}
    (hr : driverProgram.RunIn ClosuresKept ⟨s₀, 0⟩ c) :
    ∃ st, Coherent st c ∧ Reporting st c ∧ Batcher.Sourced c.shared.batcher.shared := by
  refine driver_invariant ClosuresKept
    (I := fun st c => Reporting st c ∧ Batcher.Sourced c.shared.batcher.shared) ?_ ?_
    (hnew.coherent (by simp)) ?_ hr
  · exact fun _ hc h _ hm => ⟨h.1.move hc hm, sourced_move h.2 hm⟩
  · exact fun _ _ h ha => ⟨h.1.arrive ha, sourced_arrive h.2 ha⟩
  · have hsourced {kind : Batcher.NotifierKind} :
        Batcher.Sourced (Batcher.init kind 0 0).shared := ⟨nofun, nofun, nofun⟩
    cases hnew with
    | spawnOnTokio => exact ⟨fun _ => .inl ⟨_, _, rfl⟩, hsourced⟩
    | _ => exact ⟨nofun, hsourced⟩

theorem driver_attended {s₀ : DriverShared} (hnew : s₀.IsNew)
    {d c : Config DriverShared DriverPc} {cbs : List CallbackKind}
    (hd : driverProgram.RunIn ClosuresKept ⟨s₀, 0⟩ d)
    (hpending : d.shared.state = .pendingTokio cbs)
    (hr : driverProgram.RunIn ClosuresKept d c) :
    ∃ st, Coherent st c ∧ Attended (fun f => d.shared.waker = some (.parked f)) st c := by
  obtain ⟨st, hc, hrep, hsrc⟩ := driver_reporting hnew hd
  have hst : st = .pendingTokio cbs := hc.locking.pendingTokio hpending
  refine driver_invariant ClosuresKept
    (I := Attended (fun f => d.shared.waker = some (.parked f))) ?_ ?_ hc
    ⟨by simp [hst], hrep, hsrc, fun f hf => .inl ⟨hf, .inl ⟨cbs, hst⟩⟩⟩ hr
  · intro s s' p q T e st hok hc h hs hm
    refine ⟨?_, h.reporting.move hc hm, sourced_move h.sourced hm,
      fun f hf => (h.cared f hf).move hc (hok.runsClosure hs) hm⟩
    intro co hco
    have hlived := hm.lived hc.locking.stance
    rw [hco] at hlived
    cases hlived with
    | stays => exact h.left co rfl
  · intro s s' k q T st hok hc h ha
    exact ⟨h.left, h.reporting.arrive ha, sourced_arrive h.sourced ha,
      fun f hf => (h.cared f hf).arrive ha⟩

theorem Attended.ready {parked : AioFuture → Prop} {st : FutureState}
    {c : Config DriverShared DriverPc} (h : Attended parked st c) (hc : Coherent st c)
    (hover : c.shared.task = .over) (hquiet : ∀ p ∈ c.threads, ¬ p.Settling) :
    ∃ rr, st = .ready rr := by
  cases st with
  | ready rr => exact ⟨rr, rfl⟩
  | pendingAsyncio co => exact absurd rfl (h.left co)
  | panicked => exact absurd rfl hc.ne_panicked
  | pendingTokio cbs =>
    rcases h.reporting ⟨cbs, rfl⟩ with ⟨future, aborted, ht⟩ | ⟨o, ho⟩
    · cases hover.symm.trans ht
    · exact absurd trivial (hquiet _ ho)

theorem GivenOut.pushed {c : Config DriverShared DriverPc} {f : AioFuture} (h : GivenOut c f)
    (hquiet : ∀ p ∈ c.threads, ¬ p.Settling) (hidle : c.shared.batcher.threads = 0) :
    f ∈ c.shared.batcher.shared.pushed := by
  rcases h with ⟨acts, hr, hf⟩ | h | h
  · exact absurd (List.ne_nil_of_mem hf) (hquiet _ hr)
  · simp [hidle] at h
  · exact h

theorem Attended.released {parked : AioFuture → Prop} {st : FutureState}
    {c : Config DriverShared DriverPc} (h : Attended parked st c) (hready : ∃ rr, st = .ready rr)
    (hquiet : ∀ p ∈ c.threads, ¬ p.Settling) (hidle : c.shared.batcher.threads = 0)
    {f : AioFuture} (hf : parked f) :
    c.shared.batcher.shared.status f = .cancelled ∨ f ∈ c.shared.batcher.shared.pushed := by
  obtain ⟨rr, rfl⟩ := hready
  rcases h.cared f hf with ⟨-, ⟨cbs, hst⟩ | ⟨-, p, hp, hw⟩⟩ | hgiven | hstatus
  · cases hst
  · exact absurd (DriverPc.settling_of_wakes hw) (hquiet p hp)
  · exact .inr (hgiven.pushed hquiet hidle)
  · cases hs : c.shared.batcher.shared.status f with
    | pending => exact absurd hs hstatus
    | cancelled => exact .inl rfl
    | finished => exact .inr (h.sourced.finished f hs)

theorem Census.invoked_nodup {st : FutureState} {c : Config DriverShared DriverPc}
    (h : Census st c) (hreg : Registry c.shared) :
    ((c.shared.invoked.map Prod.fst).map CallbackKind.callback).Nodup := by
  have hsub : (c.shared.invoked.map Prod.fst).Subperm c.shared.registered := by
    refine List.subperm_iff_count.mpr fun cb => ?_
    have := h cb
    omega
  obtain ⟨l, hperm, hl⟩ := hsub
  exact (hperm.map _).nodup_iff.mp ((hl.map _).nodup hreg.nodup)

/-- Once the task of a future on tokio has reported and nothing it set off is under
way, in a run that drops no closure of `spawn_blocking`, shut down or not: every blocked
thread was notified, the asyncio future parked on it was pushed, and every queued
callback was called as its kind asks. -/
theorem shutdown_strands_nobody {s₀ : DriverShared} (hnew : s₀.IsNew)
    {d c : Config DriverShared DriverPc} {cbs : List CallbackKind}
    (hd : driverProgram.RunIn ClosuresKept ⟨s₀, 0⟩ d)
    (hpending : d.shared.state = .pendingTokio cbs)
    (hr : driverProgram.RunIn ClosuresKept d c) (hover : c.shared.task = .over)
    (hquiet : ∀ p ∈ c.threads, ¬ p.Settling) (hidle : c.shared.batcher.threads = 0) :
    (∀ t since, .blocked t since ∈ c.threads → since < c.shared.epoch) ∧
    (∀ f, d.shared.waker = some (.parked f) →
      c.shared.batcher.shared.status f = .cancelled ∨ f ∈ c.shared.batcher.shared.pushed) ∧
    (∀ cb ∈ c.shared.queued, ∃ r, c.shared.state = .ready (.converted r) ∧
      c.shared.callsOf cb.callback = (cb.invoke r).toList) := by
  obtain ⟨st, hc, hatt⟩ := driver_attended hnew hd hpending hr
  obtain ⟨rr, rfl⟩ := hatt.ready hc hover hquiet
  refine ⟨fun t since hp => ?_, fun f hf => hatt.released ⟨rr, rfl⟩ hquiet hidle hf,
    fun cb hcb => ?_⟩
  · obtain ⟨st', hc', hk⟩ := driver_waiters hnew (hd.trans hr)
    obtain rfl := hc'.locking.unique hc.locking
    rcases hk.notified ⟨rr, rfl⟩ _ hp since rfl with h | ⟨p, hp, ho⟩
    · exact h
    · exact absurd (DriverPc.settling_of_owes ho) (hquiet p hp)
  · obtain ⟨st', hc', hcen, hord, hreg⟩ := driver_callbacks hnew (hd.trans hr)
    obtain rfl := hc'.locking.unique hc.locking
    obtain ⟨fired, rest, hfr, hsub, hrest⟩ := hord
    have hrest : rest = [] := by
      rcases hrest with rfl | ⟨p, hp, rfl⟩
      · rfl
      · by_contra hne
        exact hquiet p hp (DriverPc.settling_of_firing hne)
    rw [hrest, List.append_nil] at hfr
    obtain ⟨⟨cb', r⟩, he, rfl⟩ := List.mem_map.mp (hsub.subset (hfr ▸ hcb))
    have hst := hc.invoked _ he
    refine ⟨r, Coherent.state_of_converted (hst ▸ hc), callsOf_eq ?_ he⟩
    exact hcen.invoked_nodup hreg

/-- A future on tokio with a callback queued, a task parked on the asyncio future `0` and
a thread blocked in `result()`. -/
def awaitedOnTokio : Config DriverShared DriverPc :=
  ⟨{ DriverShared.spawnOnTokio 3 .callSoon with
      state := .pendingTokio [.done ⟨10, 0⟩ 3], waiters := 1, waker := some (.parked 0),
      nextFuture := 1, handed := [0], registered := [.done ⟨10, 0⟩ 3],
      queued := [.done ⟨10, 0⟩ 3], reports := [.yielded (.ok (some 0))] },
    {.blocked false 0, .suspended (some 0)}⟩

theorem awaitedOnTokio_run :
    driverProgram.RunIn ClosuresKept ⟨.spawnOnTokio 3 .callSoon, 0⟩ awaitedOnTokio :=
  Program.exec_runIn [.env (.call (.onDone 10)),
    .thread (.call (.register (.done ⟨10, 0⟩ 3))) .go, .env (.call .next),
    .thread (.call .next) .go, .thread .yieldAsyncio .go, .env (.call (.result false)),
    .thread (.call (.result false)) .go, .thread (.waitForReady false) .go]
    (by simp [ClosuresKept]) rfl

/-- The runtime shuts down before the task is done, which is then dropped. -/
theorem shutdown_strands_nobody_dropped :
    ∃ c, driverProgram.RunIn ClosuresKept awaitedOnTokio c ∧ c.shared.shutdown = true ∧
      c.threads = {.blocked false 0, .suspended (some 0)} ∧ 0 < c.shared.epoch ∧
      0 ∈ c.shared.batcher.shared.pushed ∧ c.shared.callsOf ⟨10, 0⟩ = [3] := by
  have hr : driverProgram.RunIn ClosuresKept awaitedOnTokio
      ⟨{ awaitedOnTokio.shared with
          state := .ready (.converted (.error (droppedErr 5))), waker := some .idle,
          task := .over, shutdown := true, epoch := 1,
          invoked := [(.done ⟨10, 0⟩ 3, .error (droppedErr 5))],
          batcher := ⟨{ (Batcher.init .callSoon 0 0).shared with
            queue := [0], armed := true, scheduled := 1, pushed := [0] }, 0⟩ },
        {.blocked false 0, .suspended (some 0)}⟩ :=
    Program.exec_runIn [.env .shutdown, .env (.taskDropped 5),
      .thread (.resolve (.dropped 5)) .go, .thread (.fireAndNotify [.done ⟨10, 0⟩ 3] 1) .go,
      .thread (.run [.invoke (.done ⟨10, 0⟩ 3) (.error (droppedErr 5)), .wake, .notify 1]) .go,
      .thread (.run [.wake, .notify 1]) .go, .thread (.run [.push 0, .notify 1]) .go,
      .thread (.run [.notify 1]) .go, .thread (.run []) .go,
      .env (.batcher (.thread (.push 0) .interrupted)),
      .env (.batcher (.thread .notify .interrupted)),
      .env (.batcher (.thread .scheduleDrainCallSoon .interrupted))]
      (by simp [ClosuresKept]) rfl
  obtain ⟨hblocked, hparked, hqueued⟩ := shutdown_strands_nobody (.spawnOnTokio 3 .callSoon)
    awaitedOnTokio_run rfl hr rfl (by simp [DriverPc.Settling]) rfl
  refine ⟨_, hr, rfl, rfl, hblocked false 0 (by simp), ?_, ?_⟩
  · rcases hparked 0 rfl with h | h
    · cases h
    · exact h
  · obtain ⟨r, -, hcalls⟩ := hqueued (.done ⟨10, 0⟩ 3) (List.mem_singleton_self _)
    exact hcalls

/-- The task completes, and the runtime shuts down before the closure that fires the
callbacks runs. Nobody is told: the callback is not called, the asyncio future is not
pushed and the blocked thread is not notified. -/
theorem shutdown_strands_completed :
    ∃ c, driverProgram.Run awaitedOnTokio c ∧ c.shared.task = .over ∧
      c.threads = {.blocked false 0, .suspended (some 0)} ∧ c.shared.batcher.threads = 0 ∧
      c.shared.state = .ready (.unconverted (.stashed ⟨some 7⟩)) ∧ c.shared.epoch = 0 ∧
      c.shared.batcher.shared.status 0 = .pending ∧ 0 ∉ c.shared.batcher.shared.pushed ∧
      c.shared.queued = [.done ⟨10, 0⟩ 3] ∧ c.shared.invoked = [] := by
  have hr : driverProgram.Run awaitedOnTokio
      ⟨{ awaitedOnTokio.shared with
          state := .ready (.unconverted (.stashed ⟨some 7⟩)), task := .over, shutdown := true },
        {.blocked false 0, .suspended (some 0)}⟩ :=
    Program.exec_run [.env (.taskFinishes 7),
      .thread (.resolve (.finished (.stashed ⟨some 7⟩))) .go, .env .shutdown,
      .thread (.blocking [.done ⟨10, 0⟩ 3] 1) .closureDropped] rfl
  exact ⟨_, hr, rfl, rfl, rfl, rfl, rfl, rfl, by simp [awaitedOnTokio, DriverShared.spawnOnTokio,
    DriverShared.create, Batcher.init], rfl, rfl⟩

end ScyllaDriver
