import ScyllaDriver.Waker

/-! `PyDriverFuture`: one future, its waker, its tokio task and the batcher of
the event loop whose tasks await it. A critical section of the state lock is
one step, unless it runs Python code or touches the waker: then the lock stays
taken between its steps and the state holds the placeholder left behind. -/

namespace ScyllaDriver

/-- Identity of the raw output of a request. -/
abbrev Output := Nat

/-- A request future with the slot its output is stashed in. -/
structure StashingFuture where
  output : Option Output
  deriving DecidableEq, Repr

/-- `poll_stash`: fused once stashed. The second component tells `Poll::Ready`. -/
def StashingFuture.pollStash (future : StashingFuture) (polled : Option Output) :
    StashingFuture × Bool :=
  if future.output.isSome then (future, true)
  else
    match polled with
    | some out => (⟨some out⟩, true)
    | none => (future, false)

inductive ResolvedResult where
  | stashed (future : StashingFuture)
  | err (e : PyErr)
  deriving DecidableEq, Repr

/-- `into_py_result`. The conversion runs Python code and may give any result;
`conversion` is what it gives this time. -/
def ResolvedResult.intoPyResult (conversion : PyResult) : ResolvedResult → PyResult
  | .stashed ⟨some _⟩ => conversion
  | .stashed ⟨none⟩ => .error panickedErr
  | .err e => .error e

/-- How many raw outputs `into_py_result` converts. -/
def ResolvedResult.conversions : ResolvedResult → Nat
  | .stashed ⟨some _⟩ => 1
  | _ => 0

inductive ReadyResult where
  | unconverted (resolved : ResolvedResult)
  | converted (result : PyResult)
  deriving DecidableEq, Repr

/-- The waker of a coroutine is shared, so it is kept beside the state. -/
inductive FutureState where
  | pendingAsyncio (coroutine : StashingFuture)
  | pendingTokio (callbacks : List CallbackKind)
  | ready (result : ReadyResult)
  | panicked
  deriving DecidableEq, Repr

def FutureState.isTerminal : FutureState → Bool
  | .ready _ | .panicked => true
  | _ => false

inductive TaskState where
  | notSpawned
  | running (future : StashingFuture) (aborted : Bool)
  | over
  deriving DecidableEq, Repr

def TaskState.abort : TaskState → TaskState
  | .running future _ => .running future true
  | task => task

inductive TaskOutcome where
  | finished (resolved : ResolvedResult)
  | dropped (obj : PyObj)
  deriving DecidableEq, Repr

/-- What a caller sees. A report is made where the state is read. -/
inductive Report where
  | result (r : PyResult)
  | timedOut
  | next (r : PyResult)
  | yielded (value : Except PyErr (Option AioFuture))
  | rethrown (e : PyErr)
  | done (b : Bool)
  | cancelled (b : Bool)
  | repr (r : Option PyResult)
  deriving DecidableEq, Repr

/-- Who asks for the Python value of a `Ready` future. -/
inductive Reader where
  | result
  | next
  | cancelled
  | repr
  | register (cb : CallbackKind)
  | fire (callbacks : List CallbackKind) (waiters : Nat)
  deriving DecidableEq, Repr

/-- What a thread still does after it released the state lock. -/
inductive Act where
  | invoke (cb : CallbackKind) (result : PyResult)
  | wake
  /-- The inner Rust future wakes, not the thread that finished the future. -/
  | wakeByRef
  | push (future : AioFuture)
  | notify (waiters : Nat)
  deriving DecidableEq, Repr

/-- A method call about to take the state lock. -/
inductive Entry where
  | start
  | register (cb : CallbackKind)
  | result (timeout : Bool)
  | next
  | throw (exc : PyErr)
  | close (exc : PyErr)
  | done
  | cancelled
  | repr
  deriving DecidableEq, Repr

inductive DriverPc where
  | call (entry : Entry)
  | waitForReady (timeout : Bool)
  /-- In `Condvar::wait`, since that many `notify_all`. -/
  | blocked (timeout : Bool) (since : Nat)
  | readReady
  /-- The stages of `Coroutine::poll`; the lock is held. -/
  | reset (coroutine : StashingFuture)
  | poll (coroutine : StashingFuture)
  | park (coroutine : StashingFuture)
  | store (coroutine : StashingFuture) (value : Except PyErr (Option AioFuture))
  /-- `get_or_convert` running the conversion; the lock is held. -/
  | convert (reader : Reader) (resolved : ResolvedResult)
  | yieldAsyncio
  | resolve (outcome : TaskOutcome)
  /-- A closure given to `spawn_blocking`. -/
  | blocking (callbacks : List CallbackKind) (waiters : Nat)
  | fireAndNotify (callbacks : List CallbackKind) (waiters : Nat)
  | run (acts : List Act)
  /-- An asyncio task given that value by `__next__`, until it is resumed. -/
  | suspended (value : Option AioFuture)
  /-- The thread ran into an `unreachable!`. -/
  | unreachable
  deriving DecidableEq, Repr

structure DriverShared where
  /-- The future's own Python object. -/
  self : PyObj
  locked : Bool
  state : FutureState
  waiters : Nat
  /-- Calls of `Condvar::notify_all` so far. -/
  epoch : Nat
  /-- The slot of the future's one `AsyncioWaker`, `none` until it is made. -/
  waker : Option WakerSlot
  task : TaskState
  shutdown : Bool
  batcher : Config Batcher.Shared Batcher.Pc
  nextFuture : AioFuture
  /-- Every callback whose registration was called, in order. -/
  registered : List CallbackKind
  /-- Every callback ever pushed on the list of `PendingTokio`, in order. -/
  queued : List CallbackKind
  /-- Every run of `CallbackKind::invoke` with the result it got, in order. -/
  invoked : List (CallbackKind × PyResult)
  reports : List Report
  conversions : Nat
  /-- Every asyncio future handed to a task by `yield_asyncio_future`. -/
  handed : List AioFuture

def Reader.reports (r : PyResult) : Reader → List Report
  | .result => [.result r]
  | .next => [.next r]
  | .cancelled => [.cancelled (isCancelled r)]
  | .repr => [.repr (some r)]
  | .register _ | .fire _ _ => []

def Reader.acts (r : PyResult) : Reader → List Act
  | .register cb => [.invoke cb r]
  | .fire callbacks waiters =>
    callbacks.map (Act.invoke · r) ++ [.wake, .notify waiters]
  | .result | .next | .cancelled | .repr => []

/-- What the state holds while `reader` converts: `poll_coroutine` has moved it
out, the others leave the placeholder of `get_or_convert`. -/
def Reader.placeholder : Reader → FutureState
  | .next => .panicked
  | _ => .ready (.unconverted (.err panickedErr))

/-- An asyncio task after `__next__`: suspended on the value, or given an error. -/
def suspend : Except PyErr (Option AioFuture) → List DriverPc
  | .ok v => [.suspended v]
  | .error _ => []

namespace DriverShared

def report (s : DriverShared) (r : Report) : DriverShared :=
  { s with reports := s.reports ++ [r] }

def deliver (s : DriverShared) (reader : Reader) (r : PyResult) :
    DriverShared × List DriverPc :=
  ({ s with reports := s.reports ++ reader.reports r }, [.run (reader.acts r)])

/-- `ReadyResult::get_or_convert`, up to the conversion if there is one. -/
def getOrConvert (s : DriverShared) (reader : Reader) :
    ReadyResult → DriverShared × List DriverPc
  | .converted r => s.deliver reader r
  | .unconverted resolved =>
    ({ s with locked := true, state := reader.placeholder }, [.convert reader resolved])

/-- The rest of `get_or_convert`: the result is cached and the lock released. -/
def finishConvert (s : DriverShared) (reader : Reader) (resolved : ResolvedResult)
    (conversion : PyResult) : DriverShared × List DriverPc :=
  let r := resolved.intoPyResult conversion
  deliver { s with state := .ready (.converted r), locked := false,
                   conversions := s.conversions + resolved.conversions } reader r

def ensureStarted (s : DriverShared) : DriverShared :=
  match s.state with
  | .pendingAsyncio coroutine =>
    { s with state := .pendingTokio [], waker := some (s.waker.getD .idle),
             task := .running coroutine false }
  | _ => s

def registerCallback (s : DriverShared) (cb : CallbackKind) : DriverShared × List DriverPc :=
  match s.state with
  | .ready result => s.getOrConvert (.register cb) result
  | .pendingTokio callbacks =>
    ({ s with state := .pendingTokio (callbacks ++ [cb]), queued := s.queued ++ [cb] }, [])
  | .pendingAsyncio _ =>
    ({ s.ensureStarted with state := .pendingTokio [cb], queued := s.queued ++ [cb] }, [])
  | .panicked => (s, [.run [.invoke cb (.error panickedErr)]])

def blockUntilReady (s : DriverShared) (timeout : Bool) : DriverShared × List DriverPc :=
  match s.state with
  | .ready result => s.getOrConvert .result result
  | .pendingTokio _ => (s, [.waitForReady timeout])
  | .pendingAsyncio _ => (s.ensureStarted, [.waitForReady timeout])
  | .panicked => s.deliver .result (.error panickedErr)

def pollCoroutine (s : DriverShared) : DriverShared × List DriverPc :=
  match s.state with
  | .ready result => s.getOrConvert .next result
  | .pendingTokio _ => (s, [.yieldAsyncio])
  | .pendingAsyncio coroutine =>
    ({ s with locked := true, state := .panicked }, [.reset coroutine])
  | .panicked => s.deliver .next (.error panickedErr)

def throwInto (s : DriverShared) (exc : PyErr) : DriverShared × List DriverPc :=
  match s.state with
  | .panicked | .ready _ => (s.report (.rethrown exc), [])
  -- `Coroutine::poll` with an exception drops the future and touches no waker.
  | .pendingAsyncio _ =>
    (({ s with state := .ready (.converted (.error exc)) } : DriverShared).report
      (.next (.error exc)), [])
  | .pendingTokio callbacks =>
    (({ s with state := .ready (.converted (.error exc)), task := s.task.abort } :
        DriverShared).report (.next (.error exc)),
      [.run ([.wake, .notify s.waiters] ++ callbacks.map (Act.invoke · (.error exc)))])

def closeFuture (s : DriverShared) (exc : PyErr) : DriverShared × List DriverPc :=
  match s.state with
  | .panicked | .ready _ => (s, [])
  | .pendingTokio callbacks =>
    ({ s with state := .ready (.converted (.error exc)), task := s.task.abort },
      [.run ([.notify s.waiters, .wake] ++ callbacks.map (Act.invoke · (.error exc)))])
  | .pendingAsyncio _ =>
    ({ s with state := .ready (.converted (.error exc)) },
      [.run (.notify 0 :: if s.waker.isSome then [.wake] else [])])

def readCancelled (s : DriverShared) : DriverShared × List DriverPc :=
  match s.state with
  | .ready result => s.getOrConvert .cancelled result
  | _ => (s.report (.cancelled false), [])

def readRepr (s : DriverShared) : DriverShared × List DriverPc :=
  match s.state with
  | .ready result => s.getOrConvert .repr result
  | .panicked => s.deliver .repr (.error panickedErr)
  | _ => (s.report (.repr none), [])

def enter (s : DriverShared) : Entry → DriverShared × List DriverPc
  | .start => (s.ensureStarted, [])
  | .register cb => s.registerCallback cb
  | .result timeout => s.blockUntilReady timeout
  | .next => s.pollCoroutine
  | .throw exc => s.throwInto exc
  | .close exc => s.closeFuture exc
  | .done => (s.report (.done s.state.isTerminal), [])
  | .cancelled => s.readCancelled
  | .repr => s.readRepr

/-- `StateLock::wait_while` as `wait_for_ready` calls it, up to the first wait. -/
def waitWhile (s : DriverShared) (timeout : Bool) : DriverShared × List DriverPc :=
  match s.state with
  | .pendingTokio _ =>
    ({ s with waiters := s.waiters + 1 }, [.blocked timeout s.epoch])
  | .panicked | .ready _ => (s, [.readReady])
  | .pendingAsyncio _ => (s, [.unreachable])

/-- A wait that ended, notified or not; `timedOut` tells whether it took too long. -/
def wakeUp (s : DriverShared) (timeout timedOut : Bool) : DriverShared × List DriverPc :=
  match s.state with
  | .pendingTokio _ =>
    if timeout && timedOut then
      (({ s with waiters := s.waiters - 1 } : DriverShared).report .timedOut, [])
    else (s, [.blocked timeout s.epoch])
  | .panicked | .ready _ => ({ s with waiters := s.waiters - 1 }, [.readReady])
  | .pendingAsyncio _ => (s, [.unreachable])

/-- The end of `wait_for_ready`. -/
def readReady (s : DriverShared) : DriverShared × List DriverPc :=
  match s.state with
  | .ready result => s.getOrConvert .result result
  | _ => s.deliver .result (.error panickedErr)

def resolveOnTokio (s : DriverShared) (outcome : TaskOutcome) : DriverShared × List DriverPc :=
  match s.state with
  | .pendingTokio callbacks =>
    match outcome with
    | .finished resolved =>
      ({ s with state := .ready (.unconverted resolved) },
        [if callbacks = [] then .fireAndNotify callbacks s.waiters
         else .blocking callbacks s.waiters])
    | .dropped obj =>
      ({ s with state := .ready (.converted (.error (droppedErr obj))) },
        [.fireAndNotify callbacks s.waiters])
  | _ => (s, [])

def fireAndNotify (s : DriverShared) (callbacks : List CallbackKind) (waiters : Nat) :
    DriverShared × List DriverPc :=
  match s.state with
  | .ready result => s.getOrConvert (.fire callbacks waiters) result
  | _ => (s, [.unreachable])

/-- `yield_asyncio_future` on the future's waker; `fail` is an error of the loop. -/
def yieldAsyncioFuture (s : DriverShared) (fail : Option PyErr) :
    DriverShared × Except PyErr (Option AioFuture) :=
  let fresh := match fail with
    | some e => .error e
    | none => .ok s.nextFuture
  let (slot, value) :=
    (s.waker.getD .idle).yieldAsyncioFuture s.batcher.shared.status fresh
  ({ s with waker := some slot, nextFuture := s.nextFuture + 1,
            handed := s.handed ++ (match value with
              | .ok (some future) => [future]
              | _ => []) }, value)

/-- What `__next__` gives its caller. -/
def returnYielded (s : DriverShared) (value : Except PyErr (Option AioFuture)) :
    DriverShared × List DriverPc :=
  (s.report (.yielded value), suspend value)

def act (s : DriverShared) : Act → DriverShared × List Act
  | .invoke cb r => ({ s with invoked := s.invoked ++ [(cb, r)] }, [])
  | .wake | .wakeByRef =>
    match s.waker with
    | some slot =>
      ({ s with waker := some slot.takeParked.1 },
        slot.takeParked.2.toList.map .push)
    | none => (s, [])
  | .push future =>
    ({ s with batcher := ⟨s.batcher.shared, .push future ::ₘ s.batcher.threads⟩ }, [])
  | .notify waiters => ({ s with epoch := if 0 < waiters then s.epoch + 1 else s.epoch }, [])

end DriverShared

/-- What the code does not decide. -/
inductive Choice where
  | go
  | polled (out : Option Output)
  | pollPanicked (e : PyErr)
  | converted (r : PyResult)
  | loopFails (e : PyErr)
  | timedOut
  | closureDropped
  | throwIn (e : PyErr)
  deriving DecidableEq, Repr

def Choice.loopError : Choice → Option PyErr
  | .loopFails e => some e
  | _ => none

def driverStep (s : DriverShared) : DriverPc → Choice → Option (DriverShared × List DriverPc)
  | .call entry, _ => if s.locked then none else some (s.enter entry)
  | .waitForReady timeout, _ => if s.locked then none else some (s.waitWhile timeout)
  | .blocked timeout _, choice =>
    if s.locked then none else some (s.wakeUp timeout (choice = .timedOut))
  | .readReady, _ => if s.locked then none else some s.readReady
  | .reset coroutine, _ => some ({ s with waker := some .idle }, [.poll coroutine])
  | .poll coroutine, .polled out =>
    let (coroutine, isReady) := coroutine.pollStash out
    some (s, [if isReady then .convert .next (.stashed coroutine) else .park coroutine])
  -- A panic of the polled future is caught and becomes its result.
  | .poll _, .pollPanicked e => some (s.finishConvert .next (.err e) (.error e))
  | .park coroutine, choice =>
    let (s, value) := s.yieldAsyncioFuture choice.loopError
    some (s, [.store coroutine value])
  | .store coroutine value, _ =>
    some (({ s with state := .pendingAsyncio coroutine, locked := false } :
      DriverShared).returnYielded value)
  | .convert reader resolved, .converted r => some (s.finishConvert reader resolved r)
  | .yieldAsyncio, choice =>
    let (s, value) := s.yieldAsyncioFuture choice.loopError
    some (s.returnYielded value)
  | .resolve outcome, _ => if s.locked then none else some (s.resolveOnTokio outcome)
  | .blocking callbacks waiters, .go => some (s, [.fireAndNotify callbacks waiters])
  -- A runtime that shuts down runs no new blocking tasks.
  | .blocking _ _, .closureDropped => if s.shutdown then some (s, []) else none
  | .fireAndNotify [] waiters, _ => some (s, [.run [.wake, .notify waiters]])
  | .fireAndNotify (cb :: callbacks) waiters, _ =>
    if s.locked then none else some (s.fireAndNotify (cb :: callbacks) waiters)
  | .run [], _ => some (s, [])
  | .run (a :: acts), _ => some ((s.act a).1, [.run ((s.act a).2 ++ acts)])
  | .suspended none, .go => some (s, [.call .next])
  | .suspended none, .throwIn e => some (s, [.call (.throw e)])
  | .suspended (some future), .go =>
    if s.batcher.shared.status future = .finished then some (s, [.call .next]) else none
  | .suspended (some future), .throwIn e =>
    if s.batcher.shared.status future = .pending then none else some (s, [.call (.throw e)])
  | _, _ => none

/-- A method of the Python class. -/
inductive Method where
  | start
  | onSuccess (callable : PyObj)
  | onError (callable : PyObj)
  | onDone (callable : PyObj)
  | result (timeout : Bool)
  | next
  | throw (exc : PyErr)
  | close (obj : PyObj)
  | cancel (obj : PyObj)
  | done
  | cancelled
  | repr
  deriving DecidableEq, Repr

inductive DriverEvent where
  | call (method : Method)
  /-- The inner Rust future, or a stale handle of it, wakes its waker. -/
  | innerWake
  | taskFinishes (out : Output)
  | taskPanics (e : PyErr)
  | taskDropped (obj : PyObj)
  | shutdown
  /-- Another future of the same loop pushes to the batcher. -/
  | foreignPush
  | batcher (label : Label Batcher.Pc Batcher.Io Batcher.Event)

namespace DriverShared

def register (s : DriverShared) (cb : CallbackKind) : DriverShared × List DriverPc :=
  ({ s with registered := s.registered ++ [cb] }, [.call (.register cb)])

def call (s : DriverShared) : Method → DriverShared × List DriverPc
  | .start => (s, [.call .start])
  | .onSuccess callable => s.register (.success ⟨callable, s.registered.length⟩)
  | .onError callable => s.register (.error ⟨callable, s.registered.length⟩)
  | .onDone callable => s.register (.done ⟨callable, s.registered.length⟩ s.self)
  | .result timeout => (s, [.call (.result timeout)])
  | .next => (s, [.call .next])
  | .throw exc => (s, [.call (.throw exc)])
  | .close obj => (s, [.call (.close (closedErr obj))])
  | .cancel obj => (s, [.call (.close (cancelErr obj))])
  | .done => (s, [.call .done])
  | .cancelled => (s, [.call .cancelled])
  | .repr => (s, [.call .repr])

/-- Pushes come from wakers only, and only an existing future is cancelled. -/
def allowsBatcher (s : DriverShared) : Label Batcher.Pc Batcher.Io Batcher.Event → Bool
  | .env (.push _) => false
  | .env (.cancelFuture future) => future < s.nextFuture
  | _ => true

end DriverShared

def driverEnv (s : DriverShared) : DriverEvent → Option (DriverShared × List DriverPc)
  | .call method => some (s.call method)
  | .innerWake => if s.waker.isSome then some (s, [.run [.wakeByRef]]) else none
  | .taskFinishes out =>
    match s.task with
    | .running future _ =>
      some ({ s with task := .over },
        [.resolve (.finished (.stashed (future.pollStash (some out)).1))])
    | _ => none
  | .taskPanics e =>
    match s.task with
    | .running _ _ => some ({ s with task := .over }, [.resolve (.finished (.err e))])
    | _ => none
  | .taskDropped obj =>
    match s.task with
    | .running _ aborted =>
      if aborted || s.shutdown then some ({ s with task := .over }, [.resolve (.dropped obj)])
      else none
    | _ => none
  | .shutdown => some ({ s with shutdown := true }, [])
  | .foreignPush =>
    some ({ s with nextFuture := s.nextFuture + 1,
                   batcher := ⟨s.batcher.shared, .push s.nextFuture ::ₘ s.batcher.threads⟩ }, [])
  | .batcher label =>
    if s.allowsBatcher label then
      (Batcher.program.next s.batcher label).map fun b => ({ s with batcher := b }, [])
    else none

def driverProgram : Program DriverShared DriverPc Choice DriverEvent := ⟨driverStep, driverEnv⟩

/-- A future in `state`, before anything was done with it. -/
def DriverShared.create (self : PyObj) (kind : Batcher.NotifierKind) (state : FutureState)
    (waker : Option WakerSlot) (task : TaskState) : DriverShared :=
  { self := self, locked := false, state := state, waiters := 0, epoch := 0, waker := waker,
    task := task, shutdown := false, batcher := Batcher.init kind 0 0, nextFuture := 0,
    registered := [], queued := [], invoked := [], reports := [], conversions := 0,
    handed := [] }

/-- `PyDriverFuture::spawn`. -/
def DriverShared.spawn (self : PyObj) (kind : Batcher.NotifierKind) : DriverShared :=
  .create self kind (.pendingAsyncio ⟨none⟩) none .notSpawned

/-- `PyDriverFuture::spawn_on_tokio`. -/
def DriverShared.spawnOnTokio (self : PyObj) (kind : Batcher.NotifierKind) : DriverShared :=
  .create self kind (.pendingTokio []) (some .idle) (.running ⟨none⟩ false)

/-- `PyDriverFuture::ready`. -/
def DriverShared.alreadyReady (self : PyObj) (kind : Batcher.NotifierKind)
    (result : PyResult) : DriverShared :=
  .create self kind (.ready (.converted result)) none .notSpawned

/-- The three ways a `DriverFuture` is made. -/
inductive DriverShared.IsNew : DriverShared → Prop where
  | spawn (self kind) : IsNew (.spawn self kind)
  | spawnOnTokio (self kind) : IsNew (.spawnOnTokio self kind)
  | alreadyReady (self kind result) : IsNew (.alreadyReady self kind result)

end ScyllaDriver
