import ScyllaDriver.DriverWriteOnce

/-! `cancelled()` goes by the class of the stored exception. It tells whether `cancel()`
ended the future as long as nothing else ends it with an exception of that class. -/

namespace ScyllaDriver

abbrev DriverLabel := Label DriverPc Choice DriverEvent

/-- The users of the future find it terminal. -/
def settled (c : Config DriverShared DriverPc) : Bool :=
  !c.shared.locked && c.shared.state.isTerminal

/-- The step of a run that made the future terminal; `none` if there is none, or if the future
was made terminal. -/
def endedBy (c : Config DriverShared DriverPc) : List DriverLabel → Option DriverLabel
  | [] => none
  | l :: ls =>
    if settled c then none
    else (driverProgram.next c l).bind fun d => if settled d then some l else endedBy d ls

/-- The critical section of a `cancel()` call. -/
def IsCancel (l : DriverLabel) : Prop :=
  ∃ obj choice, l = .thread (.call (.close (cancelErr obj))) choice

/-- The steps that do not end the future with a `FutureCancelledError` of their own: no such
exception is thrown into a pending future, raised by the request or by its conversion, or
left by a task that the runtime drops. -/
def OwnError (c : Config DriverShared DriverPc) : DriverLabel → Prop
  | .thread (.call (.throw e)) _ =>
    c.shared.state.isTerminal = true ∨ e.cls ≠ .futureCancelledError
  | .thread (.poll _) (.pollPanicked e) => e.cls ≠ .futureCancelledError
  | .thread (.convert _ resolved) (.converted r) => isCancelled (resolved.intoPyResult r) = false
  | .thread (.resolve (.dropped _)) _ => ∀ callbacks, c.shared.state ≠ .pendingTokio callbacks
  | _ => True

/-- The future is over, and not with a `FutureCancelledError`. -/
def Uncancelled (st : FutureState) : Prop :=
  (∃ rr, st = .ready rr) ∧ ∀ r, st = .ready (.converted r) → isCancelled r = false

theorem isCancelled_error {e : PyErr} (h : e.cls ≠ .futureCancelledError) :
    isCancelled (.error e) = false := by
  simpa [isCancelled] using h

theorem uncancelled_unconverted (resolved : ResolvedResult) :
    Uncancelled (.ready (.unconverted resolved)) :=
  ⟨⟨_, rfl⟩, fun r h => by cases h⟩

theorem uncancelled_converted {r : PyResult} (h : isCancelled r = false) :
    Uncancelled (.ready (.converted r)) := by
  refine ⟨⟨_, rfl⟩, fun r' hr => ?_⟩
  cases hr
  exact h

/-- The two exceptions that `close` and `cancel` pass on. -/
def CloseCalls (T : Multiset DriverPc) : Prop :=
  ∀ exc, .call (.close exc) ∈ T → (∃ obj, exc = closedErr obj) ∨ ∃ obj, exc = cancelErr obj

theorem DriverMove.not_close {s s' : DriverShared} {p : DriverPc} {q : List DriverPc}
    (h : DriverMove s p s' q) (exc : PyErr) : .call (.close exc) ∉ q := by
  cases h with
  | skip hl h => cases h <;> simp
  | store | yieldAsyncio => unfold suspend; split <;> simp
  | resolveFinished => split <;> simp
  | _ => simp

theorem DriverArrival.close {s s' : DriverShared} {k : DriverEvent} {q : List DriverPc}
    (h : DriverArrival s k s' q) {exc : PyErr} (hq : .call (.close exc) ∈ q) :
    (∃ obj, exc = closedErr obj) ∨ ∃ obj, exc = cancelErr obj := by
  cases h with
  | @call m entry hreg hm =>
    obtain rfl := by simpa using hq
    cases m with
    | close obj => exact .inl ⟨obj, by simpa [DriverShared.call] using hm.symm⟩
    | cancel obj => exact .inr ⟨obj, by simpa [DriverShared.call] using hm.symm⟩
    | _ => simp [DriverShared.call, DriverShared.register] at hm
  | _ => simp at hq

theorem CloseCalls.next {c d : Config DriverShared DriverPc} {l : DriverLabel}
    (h : CloseCalls c.threads) (hst : ∃ st, Coherent st c) (hn : driverProgram.next c l = some d) :
    CloseCalls d.threads := by
  obtain ⟨st, hco⟩ := hst
  rcases Program.next_cases hn with ⟨p, e, T, s, q, rfl, hc, hs, rfl⟩ | ⟨k, s, q, rfl, hs, rfl⟩
  · rw [hc] at h hco
    intro exc hexc
    rcases Multiset.mem_add.mp hexc with hq | hT
    · exact absurd (Multiset.mem_coe.mp hq) ((driverStep_move hco.locking.clean hs).not_close exc)
    · exact h exc (Multiset.mem_cons_of_mem hT)
  · intro exc hexc
    rcases Multiset.mem_add.mp hexc with hq | hT
    · exact (driverEnv_arrival hs).close (Multiset.mem_coe.mp hq)
    · exact h exc hT

/-- What a step that meets the condition makes of the state its users see. -/
inductive Ending (l : DriverLabel) (st : FutureState) : FutureState → Prop where
  | stays : Ending l st st
  | pending {st'} (h₀ : st.isTerminal = false) (h : st'.isTerminal = false) : Ending l st st'
  | cancels {obj} (h₀ : st.isTerminal = false) (hl : IsCancel l) :
      Ending l st (.ready (.converted (.error (cancelErr obj))))
  | ends {st'} (hl : ¬ IsCancel l) (h : Uncancelled st') : Ending l st st'

theorem DriverMove.ending {s s' : DriverShared} {p : DriverPc} {q : List DriverPc} {e : Choice}
    {T : Multiset DriverPc} {st : FutureState} (h : DriverMove s p s' q) (hv : Stance s p st)
    (hs : driverStep s p e = some (s', q)) (hok : OwnError ⟨s, p ::ₘ T⟩ (.thread p e))
    (hcl : CloseCalls (p ::ₘ T)) : Ending (.thread p e) st (s'.seen q st) := by
  have free := @DriverShared.seen_free s' q st
  have stays (he : s'.seen q st = st) : Ending (.thread p e) st (s'.seen q st) := by
    rw [he]
    exact .stays
  have closed {exc} (hp : p = .call (.close exc)) (h₀ : st.isTerminal = false) :
      Ending (.thread p e) st (.ready (.converted (.error exc))) := by
    rcases hcl exc (by simp [hp]) with ⟨obj, rfl⟩ | ⟨obj, rfl⟩
    · exact .ends (by simp [IsCancel, hp, closedErr, cancelErr]) (uncancelled_converted rfl)
    · exact .cancels h₀ ⟨obj, e, by rw [hp]⟩
  cases h with
  | closeAsyncio hl hst | closeTokio hl hst =>
    rw [free hl]
    exact closed rfl (by rw [← hv.state_eq hl, hst]; rfl)
  | throwAsyncio hl hst | throwTokio hl hst =>
    rw [free hl]
    rcases hok with ht | hcls
    · simp [hst, FutureState.isTerminal] at ht
    · exact .ends (by simp [IsCancel]) (uncancelled_converted (isCancelled_error hcls))
  | resolveFinished hl hst =>
    rw [free hl]
    exact .ends (by simp [IsCancel]) (uncancelled_unconverted _)
  | resolveDropped hl hst => exact absurd hst (hok _)
  | pollReady =>
    obtain ⟨rfl, hl, _⟩ := hv.inside_eq rfl
    simp only [DriverShared.seen, hl]
    exact .ends (by simp [IsCancel]) (uncancelled_unconverted _)
  | pollPanicked =>
    rw [free rfl]
    cases e with
    | polled out =>
      simp only [driverStep, Option.some.injEq, Prod.mk.injEq] at hs
      split at hs <;> simp at hs
    | pollPanicked e' =>
      have he := congrArg (fun r => r.map (·.1.state)) hs
      simp only [driverStep, DriverShared.finishConvert, DriverShared.deliver,
        ResolvedResult.intoPyResult, Option.map_some, Option.some.injEq] at he
      rw [← he]
      exact .ends (by simp [IsCancel]) (uncancelled_converted (isCancelled_error hok))
    | _ => cases hs
  | convert hr =>
    rw [free rfl]
    cases e with
    | converted r' =>
      have he := congrArg (fun r => r.map (·.1.state)) hs
      simp only [driverStep, DriverShared.finishConvert, DriverShared.deliver, Option.map_some,
        Option.some.injEq] at he
      rw [← he]
      exact .ends (by simp [IsCancel]) (uncancelled_converted hok)
    | _ => cases hs
  | start hl hst | registerAsyncio hl hst | resultAsyncio hl hst | registerTokio hl hst =>
    rw [free hl]
    exact .pending (by rw [← hv.state_eq hl, hst]; rfl) rfl
  | readUnconverted hl hr hst | nextAsyncio hl hst =>
    exact stays (by simp [DriverShared.seen, DriverPc.inside, ← hv.state_eq hl, hst])
  | reset | pollPending | park | store =>
    obtain ⟨rfl, hl, _⟩ := hv.inside_eq rfl
    refine stays ?_
    simp [DriverShared.seen, DriverPc.inside, hl, DriverShared.yieldAsyncioFuture]
  | act => exact stays (seen_act hv)
  | yieldAsyncio => exact stays (seen_yield hv)
  | blocking | closureDropped | fireNone | finish | resumeNone | resumeDone | throwIn =>
    exact stays (seen_apart hv rfl rfl (by simp [LockFree, DriverPc.inside]))
  | skip hl | readConverted hl | wait hl | waitUnreachable hl | waitTimeout hl | waitAgain hl
  | waitDone hl | wakeUnreachable hl | readReadyPending hl | fireUnreachable hl =>
    exact stays (by simp [DriverShared.seen, hl, hv.state_eq hl])

/-- A configuration in which everybody agrees, with the state seen by the users. -/
structure Tidy (st : FutureState) (c : Config DriverShared DriverPc) : Prop where
  coherent : Coherent st c
  closeCalls : CloseCalls c.threads

theorem Tidy.next {st : FutureState} {c d : Config DriverShared DriverPc} {l : DriverLabel}
    (h : Tidy st c) (hok : OwnError c l) (hn : driverProgram.next c l = some d) :
    ∃ st', Tidy st' d ∧ Ending l st st' ∧ (st' = st ∨ st.Step st') := by
  have hcl := h.closeCalls.next ⟨st, h.coherent⟩ hn
  rcases Program.next_cases hn with ⟨p, e, T, s, q, rfl, hc, hs, rfl⟩ | ⟨k, s, q, rfl, hs, rfl⟩
  · have hco := h.coherent
    have hcalls := h.closeCalls
    rw [hc] at hco hok
    rw [congrArg Config.threads hc] at hcalls
    have hm := driverStep_move hco.locking.clean hs
    exact ⟨_, ⟨hco.move hm, hcl⟩, hm.ending hco.locking.stance hs hok hcalls,
      hm.life hco.locking.stance⟩
  · exact ⟨st, ⟨h.coherent.arrive (driverEnv_arrival hs), hcl⟩, .stays, .inl rfl⟩

theorem Tidy.trace {st : FutureState} {c d : Config DriverShared DriverPc} {ls : List DriverLabel}
    (h : Tidy st c) (ht : driverProgram.TraceIn OwnError c ls d) : ∃ st', Tidy st' d := by
  induction ls generalizing c st with
  | nil =>
    obtain rfl : d = c := ht
    exact ⟨st, h⟩
  | cons l ls ih =>
    obtain ⟨hok, b, hb, hrest⟩ := ht
    obtain ⟨st', hb', -⟩ := h.next hok hb
    exact ih hb' hrest

theorem settled_eq_true {st : FutureState} {c : Config DriverShared DriverPc} (h : Coherent st c) :
    settled c = true ↔ c.shared.locked = false ∧ st.isTerminal = true := by
  simp only [settled, Bool.and_eq_true, Bool.not_eq_true']
  constructor
  · rintro ⟨hl, ht⟩
    exact ⟨hl, by rw [← h.locking.state_eq hl]; exact ht⟩
  · rintro ⟨hl, ht⟩
    exact ⟨hl, by rw [h.locking.state_eq hl]; exact ht⟩

/-- Behind the lock there is no converted result. -/
theorem Locking.uncancelled {st : FutureState} {c : Config DriverShared DriverPc}
    (h : Locking c st) (hl : c.shared.locked = true) (ht : st.isTerminal = true) :
    Uncancelled st := by
  cases h with
  | unlocked hl' => simp [hl'] at hl
  | @held s p T st hl' hp hi hT =>
    cases p with
    | convert reader resolved =>
      cases hi
      exact uncancelled_unconverted resolved
    | reset co | poll co | park co | store co value =>
      cases hi
      cases ht
    | _ => cases hi

theorem not_isCancel_of_locked {c d : Config DriverShared DriverPc} {l : DriverLabel}
    (hl : c.shared.locked = true) (hn : driverProgram.next c l = some d) : ¬ IsCancel l := by
  rintro ⟨obj, choice, rfl⟩
  simp only [Program.next, driverProgram, driverStep, hl] at hn
  split at hn <;> simp at hn

/-- The outcome that is there once the step `l` has made the future terminal. -/
def OutcomeOf (l : DriverLabel) (st : FutureState) : Prop :=
  (IsCancel l ∧ ∃ obj, st = .ready (.converted (.error (cancelErr obj)))) ∨
    (¬ IsCancel l ∧ Uncancelled st)

theorem Tidy.outcomeOf {st st' : FutureState} {c d : Config DriverShared DriverPc}
    {l : DriverLabel} (h : Tidy st c) (hd : Tidy st' d) (he : Ending l st st')
    (hn : driverProgram.next c l = some d) (hc : settled c = false) (hs : settled d = true) :
    OutcomeOf l st' := by
  obtain ⟨-, ht⟩ := (settled_eq_true hd.coherent).mp hs
  cases he with
  | stays =>
    have hl : c.shared.locked = true := by
      by_contra hfree
      have := (settled_eq_true h.coherent).mpr ⟨by simpa using hfree, ht⟩
      simp [hc] at this
    exact .inr ⟨not_isCancel_of_locked hl hn, h.coherent.locking.uncancelled hl ht⟩
  | pending _ hp => simp [hp] at ht
  | cancels _ hl => exact .inl ⟨hl, _, rfl⟩
  | ends hl hu => exact .inr ⟨hl, hu⟩

theorem Uncancelled.ending {l : DriverLabel} {st st' : FutureState} (h : Uncancelled st)
    (he : Ending l st st') : Uncancelled st' := by
  obtain ⟨⟨rr, rfl⟩, -⟩ := id h
  cases he with
  | stays => exact h
  | pending h₀ => cases h₀
  | cancels h₀ => cases h₀
  | ends _ hu => exact hu

theorem Uncancelled.trace {st : FutureState} {c d : Config DriverShared DriverPc}
    {ls : List DriverLabel} (hu : Uncancelled st) (h : Tidy st c)
    (ht : driverProgram.TraceIn OwnError c ls d) : ∃ st', Tidy st' d ∧ Uncancelled st' := by
  induction ls generalizing c st with
  | nil =>
    obtain rfl : d = c := ht
    exact ⟨st, h, hu⟩
  | cons l ls ih =>
    obtain ⟨hok, b, hb, hrest⟩ := ht
    obtain ⟨st', hb', he, -⟩ := h.next hok hb
    exact ih (hu.ending he) hb' hrest

/-- An outcome is not replaced, so the step that ended the future goes on deciding. -/
theorem OutcomeOf.trace {l : DriverLabel} {st : FutureState} {c d : Config DriverShared DriverPc}
    {ls : List DriverLabel} (ho : OutcomeOf l st) (h : Tidy st c)
    (ht : driverProgram.TraceIn OwnError c ls d) : ∃ st', Tidy st' d ∧ OutcomeOf l st' := by
  rcases ho with ⟨hl, obj, rfl⟩ | ⟨hl, hu⟩
  · induction ls generalizing c with
    | nil =>
      obtain rfl : d = c := ht
      exact ⟨_, h, .inl ⟨hl, obj, rfl⟩⟩
    | cons k ls ih =>
      obtain ⟨hok, b, hb, hrest⟩ := ht
      obtain ⟨st', hb', -, hst⟩ := h.next hok hb
      have hsame : st' = .ready (.converted (.error (cancelErr obj))) := by
        rcases hst with he | hstep
        · exact he
        · cases hstep
      subst hsame
      exact ih hrest hb'
  · obtain ⟨st', hd, hu'⟩ := hu.trace h ht
    exact ⟨st', hd, .inr ⟨hl, hu'⟩⟩

theorem ended_trace {st : FutureState} {c d : Config DriverShared DriverPc}
    {ls : List DriverLabel} (h : Tidy st c) (hc : settled c = false)
    (ht : driverProgram.TraceIn OwnError c ls d) :
    ∃ st', Tidy st' d ∧ ((endedBy c ls = none ∧ settled d = false) ∨
      ∃ l, endedBy c ls = some l ∧ OutcomeOf l st') := by
  induction ls generalizing c st with
  | nil =>
    obtain rfl : d = c := ht
    exact ⟨st, h, .inl ⟨rfl, hc⟩⟩
  | cons l ls ih =>
    obtain ⟨hok, b, hb, hrest⟩ := ht
    obtain ⟨st', hb', he, -⟩ := h.next hok hb
    cases hs : settled b with
    | true =>
      obtain ⟨st'', hd, ho⟩ := (h.outcomeOf hb' he hb hc hs).trace hb' hrest
      exact ⟨st'', hd, .inr ⟨l, by simp [endedBy, hc, hb, hs], ho⟩⟩
    | false =>
      have hended : endedBy c (l :: ls) = endedBy b ls := by simp [endedBy, hc, hb, hs]
      rw [hended]
      exact ih hb' hs hrest

theorem endedBy_of_settled {c : Config DriverShared DriverPc} (h : settled c = true)
    (ls : List DriverLabel) : endedBy c ls = none := by
  cases ls with
  | nil => rfl
  | cons l ls => simp [endedBy, h]

/-- A report of `cancelled` is about a state that its reader finds with the lock free. -/
theorem report_of_next {st : FutureState} {c d : Config DriverShared DriverPc} {l : DriverLabel}
    {b : Bool} (h : Coherent st c) (hn : driverProgram.next c l = some d)
    (hb : d.shared.reports = c.shared.reports ++ [.cancelled b]) :
    ∃ st', Coherent st' d ∧ Report.Of st' (.cancelled b) := by
  rcases Program.next_cases hn with ⟨p, e, T, s, q, rfl, hc, hs, rfl⟩ | ⟨k, s, q, rfl, hs, rfl⟩
  · rw [hc] at h
    have hm := driverStep_move h.locking.clean hs
    obtain ⟨new, hnew, hof⟩ :=
      hm.reports h.locking.stance (h.threads p (Multiset.mem_cons_self p T))
    have hmem : Report.cancelled b ∈ new := by
      rw [List.append_cancel_left (hnew.symm.trans hb)]
      exact List.mem_singleton_self _
    exact ⟨_, h.move hm, hof _ hmem⟩
  · have he : s.reports = c.shared.reports := by cases driverEnv_arrival hs <;> rfl
    simp [he] at hb

theorem Report.Of.of_uncancelled {st : FutureState} {b : Bool} (h : Report.Of st (.cancelled b))
    (hu : Uncancelled st) : b = false := by
  rcases h with ⟨r, rfl, rfl⟩ | ⟨-, hb⟩
  · exact hu.2 r rfl
  · exact hb

/-- A future that `cancelled` finds pending, or already taken by another reader. -/
theorem Report.Of.of_unsettled {st : FutureState} {c : Config DriverShared DriverPc} {b : Bool}
    (h : Report.Of st (.cancelled b)) (hco : Coherent st c) (hs : settled c = false) :
    b = false := by
  rcases h with ⟨r, rfl, hr⟩ | ⟨-, hb⟩
  · cases hl : c.shared.locked with
    | false => simp [(settled_eq_true hco).mpr ⟨hl, rfl⟩] at hs
    | true => rw [hr]; exact (hco.locking.uncancelled hl rfl).2 r rfl
  · exact hb

/-- In every run whose steps meet the condition, `cancelled()` returns whether a `cancel()` call
made the future terminal. -/
theorem cancelled_iff_cancel {s₀ : DriverShared} (hnew : s₀.IsNew)
    (hmade : ∀ r, s₀.state = .ready (.converted r) → isCancelled r = false)
    {ls : List DriverLabel} {c d : Config DriverShared DriverPc} {l : DriverLabel} {b : Bool}
    (hrun : driverProgram.TraceIn OwnError ⟨s₀, 0⟩ ls c) (hok : OwnError c l)
    (hn : driverProgram.next c l = some d)
    (hb : d.shared.reports = c.shared.reports ++ [.cancelled b]) :
    b = true ↔ ∃ l', endedBy ⟨s₀, 0⟩ (ls ++ [l]) = some l' ∧ IsCancel l' := by
  have htidy : Tidy s₀.state ⟨s₀, 0⟩ := ⟨hnew.coherent (by simp), by simp [CloseCalls]⟩
  have htrace := hrun.concat hok hn
  obtain ⟨stc, hc⟩ := htidy.trace hrun
  obtain ⟨std, hd, hof⟩ := report_of_next hc.coherent hn hb
  cases hs : settled ⟨s₀, 0⟩ with
  | true =>
    -- A future made ready was ended by no step.
    have hready : ∃ r, s₀.state = .ready (.converted r) := by
      cases hnew with
      | alreadyReady self kind result => exact ⟨result, rfl⟩
      | spawn | spawnOnTokio => cases hs
    obtain ⟨r, hr⟩ := hready
    have hu : Uncancelled s₀.state := by
      rw [hr]
      exact uncancelled_converted (hmade r hr)
    obtain ⟨st', hd', hu'⟩ := hu.trace htidy htrace
    obtain rfl := hd.locking.unique hd'.coherent.locking
    simp [hof.of_uncancelled hu', endedBy_of_settled hs]
  | false =>
    obtain ⟨st', hd', hnone | ⟨l', hl', ho⟩⟩ := ended_trace htidy hs htrace
    · obtain rfl := hd.locking.unique hd'.coherent.locking
      simp [hof.of_unsettled hd hnone.2, hnone.1]
    · obtain rfl := hd.locking.unique hd'.coherent.locking
      rw [hl']
      rcases ho with ⟨hcancel, obj, hst⟩ | ⟨hcancel, hu⟩
      · have hb : b = true := by
          rcases hof with ⟨r, hr, rfl⟩ | ⟨hterm, -⟩
          · rw [hst] at hr
            cases hr
            rfl
          · rw [hst] at hterm
            cases hterm
        exact iff_of_true hb ⟨l', rfl, hcancel⟩
      · simp [hof.of_uncancelled hu, hcancel]

/-- `cancel()` on a future that runs on tokio, then `cancelled()`. -/
theorem cancelled_iff_cancel_tokio :
    ∃ ls l c d, driverProgram.exec ⟨.spawnOnTokio 0 .callSoon, 0⟩ ls = some c ∧
      driverProgram.next c l = some d ∧ d.shared.reports = [.cancelled true] ∧
      ∃ l', endedBy ⟨.spawnOnTokio 0 .callSoon, 0⟩ (ls ++ [l]) = some l' ∧ IsCancel l' := by
  refine ⟨[.env (.call (.cancel 5)), .thread (.call (.close (cancelErr 5))) .go,
    .env (.call .cancelled)], .thread (.call .cancelled) .go, _, _, rfl, rfl, rfl, ?_⟩
  refine (cancelled_iff_cancel (.spawnOnTokio 0 .callSoon) ?_
    (Program.exec_traceIn _ ?_ rfl) ?_ rfl rfl).mp rfl
  · intro r h
    cases h
  · simp [OwnError]
  · exact trivial

/-- The runtime shuts down and drops the task: nobody called `cancel()`, and `cancelled()` is
true all the same. -/
theorem cancelled_after_dropped_task :
    ∃ ls c, driverProgram.exec ⟨.spawnOnTokio 0 .callSoon, 0⟩ ls = some c ∧
      (∀ obj, .env (.call (.cancel obj)) ∉ ls) ∧ c.shared.reports = [.cancelled true] ∧
      ∃ l, endedBy ⟨.spawnOnTokio 0 .callSoon, 0⟩ ls = some l ∧ ¬ IsCancel l := by
  refine ⟨[.env .shutdown, .env (.taskDropped 5), .thread (.resolve (.dropped 5)) .go,
    .env (.call .cancelled), .thread (.call .cancelled) .go], _, rfl, by simp, rfl, _, rfl, ?_⟩
  simp [IsCancel]

end ScyllaDriver
