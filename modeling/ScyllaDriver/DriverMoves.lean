import ScyllaDriver.DriverFuture

/-! Everything a thread of a `DriverFuture` can do in one step, as long as no
panic left the state `Panicked` with the lock free. -/

namespace ScyllaDriver

/-- The result a program counter is about to read off a `Ready` state. -/
def DriverPc.reader : DriverPc → Option Reader
  | .call (.register cb) => some (.register cb)
  | .call (.result _) | .readReady => some .result
  | .call .next => some .next
  | .call .cancelled => some .cancelled
  | .call .repr => some .repr
  | .fireAndNotify (cb :: callbacks) waiters => some (.fire (cb :: callbacks) waiters)
  | _ => none

/-- A `PendingAsyncio` future handed over to tokio. -/
def DriverShared.started (s : DriverShared) (coroutine : StashingFuture)
    (callbacks : List CallbackKind) : DriverShared :=
  { s with state := .pendingTokio callbacks, waker := some (s.waker.getD .idle),
           task := .running coroutine false, queued := s.queued ++ callbacks }

/-- A step that changes nothing but the position of the thread and the reports. -/
inductive DriverSkip (s : DriverShared) : DriverPc → List Report → List DriverPc → Prop where
  | start (h : ∀ co, s.state ≠ .pendingAsyncio co) : DriverSkip s (.call .start) [] []
  | resultTokio {t cbs} (h : s.state = .pendingTokio cbs) :
      DriverSkip s (.call (.result t)) [] [.waitForReady t]
  | nextTokio {cbs} (h : s.state = .pendingTokio cbs) :
      DriverSkip s (.call .next) [] [.yieldAsyncio]
  | throwReady {exc r} (h : s.state = .ready r) :
      DriverSkip s (.call (.throw exc)) [.rethrown exc] []
  | closeReady {exc r} (h : s.state = .ready r) : DriverSkip s (.call (.close exc)) [] []
  | done : DriverSkip s (.call .done) [.done s.state.isTerminal] []
  | cancelledPending (h : s.state.isTerminal = false) :
      DriverSkip s (.call .cancelled) [.cancelled false] []
  | reprPending (h : s.state.isTerminal = false) : DriverSkip s (.call .repr) [.repr none] []
  | waitReady {t r} (h : s.state = .ready r) : DriverSkip s (.waitForReady t) [] [.readReady]
  | resolveOver {o} (h : ∀ cbs, s.state ≠ .pendingTokio cbs) : DriverSkip s (.resolve o) [] []

inductive DriverMove (s : DriverShared) : DriverPc → DriverShared → List DriverPc → Prop where
  | skip {p reports q} (hl : s.locked = false) (h : DriverSkip s p reports q) :
      DriverMove s p { s with reports := s.reports ++ reports } q
  | readConverted {p reader r} (hl : s.locked = false) (hp : p.reader = some reader)
      (hs : s.state = .ready (.converted r)) :
      DriverMove s p { s with reports := s.reports ++ reader.reports r } [.run (reader.acts r)]
  | readUnconverted {p reader resolved} (hl : s.locked = false) (hp : p.reader = some reader)
      (hs : s.state = .ready (.unconverted resolved)) :
      DriverMove s p { s with locked := true, state := reader.placeholder }
        [.convert reader resolved]
  | start {co} (hl : s.locked = false) (hs : s.state = .pendingAsyncio co) :
      DriverMove s (.call .start) (s.started co []) []
  | registerAsyncio {co cb} (hl : s.locked = false) (hs : s.state = .pendingAsyncio co) :
      DriverMove s (.call (.register cb)) (s.started co [cb]) []
  | registerTokio {cbs cb} (hl : s.locked = false) (hs : s.state = .pendingTokio cbs) :
      DriverMove s (.call (.register cb))
        { s with state := .pendingTokio (cbs ++ [cb]), queued := s.queued ++ [cb] } []
  | resultAsyncio {co t} (hl : s.locked = false) (hs : s.state = .pendingAsyncio co) :
      DriverMove s (.call (.result t)) (s.started co []) [.waitForReady t]
  | nextAsyncio {co} (hl : s.locked = false) (hs : s.state = .pendingAsyncio co) :
      DriverMove s (.call .next) { s with locked := true, state := .panicked } [.reset co]
  | throwAsyncio {co exc} (hl : s.locked = false) (hs : s.state = .pendingAsyncio co) :
      DriverMove s (.call (.throw exc))
        { s with state := .ready (.converted (.error exc)),
                 reports := s.reports ++ [.next (.error exc)] } []
  | throwTokio {cbs exc} (hl : s.locked = false) (hs : s.state = .pendingTokio cbs) :
      DriverMove s (.call (.throw exc))
        { s with state := .ready (.converted (.error exc)), task := s.task.abort,
                 reports := s.reports ++ [.next (.error exc)] }
        [.run ([.wake, .notify s.waiters] ++ cbs.map (Act.invoke · (.error exc)))]
  | closeAsyncio {co exc} (hl : s.locked = false) (hs : s.state = .pendingAsyncio co) :
      DriverMove s (.call (.close exc)) { s with state := .ready (.converted (.error exc)) }
        [.run (.notify 0 :: if s.waker.isSome then [.wake] else [])]
  | closeTokio {cbs exc} (hl : s.locked = false) (hs : s.state = .pendingTokio cbs) :
      DriverMove s (.call (.close exc))
        { s with state := .ready (.converted (.error exc)), task := s.task.abort }
        [.run ([.notify s.waiters, .wake] ++ cbs.map (Act.invoke · (.error exc)))]
  | wait {t cbs} (hl : s.locked = false) (hs : s.state = .pendingTokio cbs) :
      DriverMove s (.waitForReady t) { s with waiters := s.waiters + 1 } [.blocked t s.epoch]
  | waitUnreachable {t co} (hl : s.locked = false) (hs : s.state = .pendingAsyncio co) :
      DriverMove s (.waitForReady t) s [.unreachable]
  | waitTimeout {since cbs} (hl : s.locked = false) (hs : s.state = .pendingTokio cbs) :
      DriverMove s (.blocked true since)
        { s with waiters := s.waiters - 1, reports := s.reports ++ [.timedOut] } []
  | waitAgain {t since cbs} (hl : s.locked = false) (hs : s.state = .pendingTokio cbs) :
      DriverMove s (.blocked t since) s [.blocked t s.epoch]
  | waitDone {t since r} (hl : s.locked = false) (hs : s.state = .ready r) :
      DriverMove s (.blocked t since) { s with waiters := s.waiters - 1 } [.readReady]
  | wakeUnreachable {t since co} (hl : s.locked = false) (hs : s.state = .pendingAsyncio co) :
      DriverMove s (.blocked t since) s [.unreachable]
  | readReadyPending (hl : s.locked = false) (hs : s.state.isTerminal = false) :
      DriverMove s .readReady { s with reports := s.reports ++ [.result (.error panickedErr)] }
        [.run []]
  | reset {co} : DriverMove s (.reset co) { s with waker := some .idle } [.poll co]
  | pollPending {co} (h : co.output = none) : DriverMove s (.poll co) s [.park co]
  | pollReady {co out} : DriverMove s (.poll co) s [.convert .next (.stashed ⟨some out⟩)]
  | pollPanicked {co e} :
      DriverMove s (.poll co)
        { s with state := .ready (.converted (.error e)), locked := false,
                 reports := s.reports ++ [.next (.error e)] } [.run []]
  | park {co} (fail : Option PyErr) :
      DriverMove s (.park co) (s.yieldAsyncioFuture fail).1
        [.store co (s.yieldAsyncioFuture fail).2]
  | store {co value} :
      DriverMove s (.store co value)
        { s with state := .pendingAsyncio co, locked := false,
                 reports := s.reports ++ [.yielded value] }
        (suspend value)
  | convert {reader resolved r conversion} (hr : resolved.intoPyResult conversion = r) :
      DriverMove s (.convert reader resolved)
        { s with state := .ready (.converted r), locked := false,
                 conversions := s.conversions + resolved.conversions,
                 reports := s.reports ++ reader.reports r } [.run (reader.acts r)]
  | yieldAsyncio (fail : Option PyErr) :
      DriverMove s .yieldAsyncio
        ((s.yieldAsyncioFuture fail).1.report (.yielded (s.yieldAsyncioFuture fail).2))
        (suspend (s.yieldAsyncioFuture fail).2)
  | resolveFinished {resolved cbs} (hl : s.locked = false) (hs : s.state = .pendingTokio cbs) :
      DriverMove s (.resolve (.finished resolved))
        { s with state := .ready (.unconverted resolved) }
        [if cbs = [] then .fireAndNotify cbs s.waiters else .blocking cbs s.waiters]
  | resolveDropped {obj cbs} (hl : s.locked = false) (hs : s.state = .pendingTokio cbs) :
      DriverMove s (.resolve (.dropped obj))
        { s with state := .ready (.converted (.error (droppedErr obj))) }
        [.fireAndNotify cbs s.waiters]
  | blocking {cbs n} : DriverMove s (.blocking cbs n) s [.fireAndNotify cbs n]
  | closureDropped {cbs n} (h : s.shutdown = true) : DriverMove s (.blocking cbs n) s []
  | fireNone {n} : DriverMove s (.fireAndNotify [] n) s [.run [.wake, .notify n]]
  | fireUnreachable {cb cbs n} (hl : s.locked = false) (hs : s.state.isTerminal = false) :
      DriverMove s (.fireAndNotify (cb :: cbs) n) s [.unreachable]
  | finish : DriverMove s (.run []) s []
  | act {a acts} : DriverMove s (.run (a :: acts)) (s.act a).1 [.run ((s.act a).2 ++ acts)]
  | resumeNone : DriverMove s (.suspended none) s [.call .next]
  | resumeDone {f} (h : s.batcher.shared.status f = .finished) :
      DriverMove s (.suspended (some f)) s [.call .next]
  | throwIn {v e} (h : ∀ f, v = some f → s.batcher.shared.status f ≠ .pending) :
      DriverMove s (.suspended v) s [.call (.throw e)]

/-- The lock is free only when no transition is halfway through. -/
def DriverShared.Clean (s : DriverShared) : Prop := s.locked = false → s.state ≠ .panicked

theorem DriverMove.noop {s : DriverShared} {p : DriverPc} {q : List DriverPc}
    (hl : s.locked = false) (h : DriverSkip s p [] q) : DriverMove s p s q := by
  simpa using DriverMove.skip hl h

theorem move_getOrConvert {s : DriverShared} {p : DriverPc} {reader : Reader} {rr : ReadyResult}
    (hl : s.locked = false) (hp : p.reader = some reader) (hs : s.state = .ready rr) :
    DriverMove s p (s.getOrConvert reader rr).1 (s.getOrConvert reader rr).2 := by
  cases rr with
  | converted r => exact .readConverted hl hp hs
  | unconverted resolved => exact .readUnconverted hl hp hs

theorem isTerminal_false {state : FutureState} (hp : state ≠ .panicked)
    (hr : ∀ r, state ≠ .ready r) : state.isTerminal = false := by
  cases state with
  | pendingAsyncio co => rfl
  | pendingTokio cbs => rfl
  | ready r => exact absurd rfl (hr r)
  | panicked => exact absurd rfl hp

theorem move_call {s : DriverShared} (hc : s.Clean) (hl : s.locked = false) (entry : Entry) :
    DriverMove s (.call entry) (s.enter entry).1 (s.enter entry).2 := by
  cases entry with
  | start =>
    simp only [DriverShared.enter, DriverShared.ensureStarted]
    split
    · rename_i co hs
      simpa [DriverShared.started] using DriverMove.start hl hs
    · rename_i hs
      exact .noop hl (.start hs)
  | register cb =>
    simp only [DriverShared.enter, DriverShared.registerCallback]
    split
    · rename_i hs; exact move_getOrConvert hl rfl hs
    · rename_i hs; exact .registerTokio hl hs
    · rename_i co hs
      simpa [DriverShared.ensureStarted, hs, DriverShared.started] using
        @DriverMove.registerAsyncio s co cb hl hs
    · rename_i hs; exact absurd hs (hc hl)
  | result t =>
    simp only [DriverShared.enter, DriverShared.blockUntilReady]
    split
    · rename_i hs; exact move_getOrConvert hl rfl hs
    · rename_i hs; exact .noop hl (.resultTokio hs)
    · rename_i co hs
      simpa [DriverShared.ensureStarted, hs, DriverShared.started] using
        DriverMove.resultAsyncio (t := t) hl hs
    · rename_i hs; exact absurd hs (hc hl)
  | next =>
    simp only [DriverShared.enter, DriverShared.pollCoroutine]
    split
    · rename_i hs; exact move_getOrConvert hl rfl hs
    · rename_i hs; exact .noop hl (.nextTokio hs)
    · rename_i hs; exact .nextAsyncio hl hs
    · rename_i hs; exact absurd hs (hc hl)
  | throw exc =>
    simp only [DriverShared.enter, DriverShared.throwInto]
    split
    · rename_i hs; exact absurd hs (hc hl)
    · rename_i hs; exact .skip hl (.throwReady hs)
    · rename_i hs; exact .throwAsyncio hl hs
    · rename_i hs; exact .throwTokio hl hs
  | close exc =>
    simp only [DriverShared.enter, DriverShared.closeFuture]
    split
    · rename_i hs; exact absurd hs (hc hl)
    · rename_i hs; exact .noop hl (.closeReady hs)
    · rename_i hs; exact .closeTokio hl hs
    · rename_i hs; exact .closeAsyncio hl hs
  | done => exact .skip hl .done
  | cancelled =>
    simp only [DriverShared.enter, DriverShared.readCancelled]
    split
    · rename_i hs; exact move_getOrConvert hl rfl hs
    · rename_i hs; exact .skip hl (.cancelledPending (isTerminal_false (hc hl) hs))
  | repr =>
    simp only [DriverShared.enter, DriverShared.readRepr]
    split
    · rename_i hs; exact move_getOrConvert hl rfl hs
    · rename_i hs; exact absurd hs (hc hl)
    · rename_i hs _; exact .skip hl (.reprPending (isTerminal_false (hc hl) hs))

theorem move_poll {s : DriverShared} {co : StashingFuture} {out : Option Output} :
    DriverMove s (.poll co) s
      [if (co.pollStash out).2 then .convert .next (.stashed (co.pollStash out).1)
       else .park (co.pollStash out).1] := by
  cases hco : co.output with
  | some o =>
    have he : co = ⟨some o⟩ := by cases co; cases hco; rfl
    simpa [StashingFuture.pollStash, he] using @DriverMove.pollReady s co o
  | none =>
    cases out with
    | some o => simpa [StashingFuture.pollStash, hco] using @DriverMove.pollReady s co o
    | none => simpa [StashingFuture.pollStash, hco] using DriverMove.pollPending hco

/-- The inversion of `driverStep`: every invariant is proved from these cases. -/
theorem driverStep_move {s s' : DriverShared} {p : DriverPc} {choice : Choice}
    {q : List DriverPc} (hc : s.Clean) (h : driverStep s p choice = some (s', q)) :
    DriverMove s p s' q := by
  have unlocked {r : DriverShared × List DriverPc}
      (h : (if s.locked then none else some r) = some (s', q)) :
      s.locked = false ∧ r = (s', q) := by
    cases hl : s.locked <;> simp_all
  cases p with
  | call entry =>
    obtain ⟨hl, he⟩ := unlocked h
    simpa [he] using move_call hc hl entry
  | waitForReady t =>
    obtain ⟨hl, he⟩ := unlocked h
    simp only [DriverShared.waitWhile] at he
    split at he <;> cases he
    · rename_i hs; exact .wait hl hs
    · rename_i hs; exact absurd hs (hc hl)
    · rename_i hs; exact .noop hl (.waitReady hs)
    · rename_i hs; exact .waitUnreachable hl hs
  | blocked t since =>
    obtain ⟨hl, he⟩ := unlocked h
    simp only [DriverShared.wakeUp] at he
    split at he
    · rename_i hs
      split at he <;> cases he
      · rename_i ht
        obtain rfl : t = true := by simp_all
        exact .waitTimeout hl hs
      · exact .waitAgain hl hs
    · rename_i hs; exact absurd hs (hc hl)
    · rename_i hs; cases he; exact .waitDone hl hs
    · rename_i hs; cases he; exact .wakeUnreachable hl hs
  | readReady =>
    obtain ⟨hl, he⟩ := unlocked h
    simp only [DriverShared.readReady] at he
    split at he
    · rename_i hs
      simpa [he] using move_getOrConvert (p := .readReady) hl rfl hs
    · rename_i hs
      cases he
      exact .readReadyPending hl (isTerminal_false (hc hl) hs)
  | reset co => cases h; exact .reset
  | poll co =>
    cases choice <;> try cases h
    · exact move_poll
    · exact .pollPanicked
  | park co => cases h; exact .park choice.loopError
  | store co value => cases h; exact .store
  | convert reader resolved =>
    cases choice <;> cases h
    exact .convert rfl
  | yieldAsyncio => cases h; exact .yieldAsyncio choice.loopError
  | resolve o =>
    obtain ⟨hl, he⟩ := unlocked h
    simp only [DriverShared.resolveOnTokio] at he
    split at he
    · rename_i hs
      split at he <;> cases he
      · exact .resolveFinished hl hs
      · exact .resolveDropped hl hs
    · rename_i hs
      cases he
      exact .noop hl (.resolveOver hs)
  | blocking cbs n =>
    cases choice <;> try cases h
    · exact .blocking
    · simp only [driverStep] at h
      split at h <;> cases h
      rename_i hsd; exact .closureDropped hsd
  | fireAndNotify cbs n =>
    cases cbs with
    | nil => cases h; exact .fireNone
    | cons cb cbs =>
      obtain ⟨hl, he⟩ := unlocked h
      simp only [DriverShared.fireAndNotify] at he
      split at he
      · rename_i hs
        simpa [he] using move_getOrConvert (p := .fireAndNotify (cb :: cbs) n) hl rfl hs
      · rename_i hs
        cases he
        exact .fireUnreachable hl (isTerminal_false (hc hl) hs)
  | run acts =>
    cases acts with
    | nil => cases h; exact .finish
    | cons a acts => cases h; exact .act
  | suspended v =>
    cases v with
    | none =>
      cases choice <;> try cases h
      · exact .resumeNone
      · exact .throwIn (by simp)
    | some f =>
      cases choice <;> simp only [driverStep] at h <;> try cases h
      · split at h <;> cases h
        rename_i hf; exact .resumeDone hf
      · split at h <;> cases h
        rename_i hf; exact .throwIn (by simpa using hf)
  | unreachable => cases choice <;> cases h

/-- A closure given to `spawn_blocking` is not dropped in the step. -/
def RunsClosure (p : DriverPc) (q : List DriverPc) : Prop := ∀ cbs n, p = .blocking cbs n → q ≠ []

theorem DriverMove.runsClosure {s s' : DriverShared} {p : DriverPc} {q : List DriverPc}
    (h : DriverMove s p s' q) (hsd : s.shutdown = false) : RunsClosure p q := by
  rintro cbs n rfl rfl
  cases h with
  | skip hl h => cases h
  | closureDropped hs => simp [hsd] at hs

/-- A run in which tokio drops no closure given to `spawn_blocking`. -/
def ClosuresKept (_ : Config DriverShared DriverPc) (l : Label DriverPc Choice DriverEvent) :
    Prop :=
  ∀ cbs n, l ≠ .thread (.blocking cbs n) .closureDropped

theorem ClosuresKept.runsClosure {c : Config DriverShared DriverPc} {s s' : DriverShared}
    {p : DriverPc} {e : Choice} {q : List DriverPc} (hok : ClosuresKept c (.thread p e))
    (hs : driverStep s p e = some (s', q)) : RunsClosure p q := by
  rintro cbs n rfl rfl
  cases e with
  | closureDropped => exact hok cbs n rfl
  | _ => simp [driverStep] at hs

/-- What the environment can do. -/
inductive DriverArrival (s : DriverShared) :
    DriverEvent → DriverShared → List DriverPc → Prop where
  | call {m entry} (h : ∀ cb, entry ≠ .register cb) (hm : s.call m = (s, [.call entry])) :
      DriverArrival s (.call m) s [.call entry]
  | register {m cb} (hid : cb.callback.registration = s.registered.length)
      (hself : ∀ c f, cb = .done c f → f = s.self) :
      DriverArrival s (.call m) { s with registered := s.registered ++ [cb] }
        [.call (.register cb)]
  | innerWake (h : s.waker.isSome) : DriverArrival s .innerWake s [.run [.wakeByRef]]
  | taskFinishes {future aborted out} (h : s.task = .running future aborted) :
      DriverArrival s (.taskFinishes out) { s with task := .over }
        [.resolve (.finished (.stashed (future.pollStash (some out)).1))]
  | taskPanics {future aborted e} (h : s.task = .running future aborted) :
      DriverArrival s (.taskPanics e) { s with task := .over } [.resolve (.finished (.err e))]
  | taskDropped {future aborted obj} (h : s.task = .running future aborted)
      (ha : aborted = true ∨ s.shutdown = true) :
      DriverArrival s (.taskDropped obj) { s with task := .over } [.resolve (.dropped obj)]
  | shutdown : DriverArrival s .shutdown { s with shutdown := true } []
  | foreignPush :
      DriverArrival s .foreignPush
        { s with nextFuture := s.nextFuture + 1,
                 batcher := ⟨s.batcher.shared, .push s.nextFuture ::ₘ s.batcher.threads⟩ } []
  | batcher {l b} (hl : s.allowsBatcher l = true)
      (h : Batcher.program.next s.batcher l = some b) :
      DriverArrival s (.batcher l) { s with batcher := b } []

theorem driverEnv_arrival {s s' : DriverShared} {k : DriverEvent} {q : List DriverPc}
    (h : driverEnv s k = some (s', q)) : DriverArrival s k s' q := by
  cases k with
  | call m =>
    cases m with
    | onSuccess callable => cases h; exact .register rfl (by simp)
    | onError callable => cases h; exact .register rfl (by simp)
    | onDone callable => cases h; exact .register rfl (by simp)
    | _ => cases h; exact .call (by simp) rfl
  | innerWake =>
    simp only [driverEnv] at h
    split at h <;> cases h
    rename_i hw; exact .innerWake hw
  | taskFinishes out =>
    simp only [driverEnv] at h
    split at h <;> cases h
    rename_i ht; exact .taskFinishes ht
  | taskPanics e =>
    simp only [driverEnv] at h
    split at h <;> cases h
    rename_i ht; exact .taskPanics ht
  | taskDropped obj =>
    simp only [driverEnv] at h
    split at h
    · rename_i aborted ht
      split at h <;> cases h
      rename_i ha
      exact .taskDropped ht (by simpa using ha)
    · cases h
  | shutdown => cases h; exact .shutdown
  | foreignPush => cases h; exact .foreignPush
  | batcher l =>
    simp only [driverEnv] at h
    split at h
    · rename_i hl
      obtain ⟨b, hb, he⟩ := Option.map_eq_some_iff.mp h
      cases he
      exact .batcher hl hb
    · cases h

end ScyllaDriver
