import ScyllaDriver.Interleaving
import ScyllaDriver.Callbacks

/-! `ResponseFuture`, the callback-driven future of the legacy driver. Callbacks
persist across pages and fire once a page; a blocking thread, the drainer, runs
them page by page. A critical section of the one lock runs no Python code, so
each is one step. -/

namespace ScyllaDriver

/-- The rows of a page: a list, `None` for a result without rows, or the error. -/
abbrev Rows := Except PyErr (Option PyObj)

def pyNone : PyObj := 0

def callbackValue : Rows → PyObj
  | .ok (some list) => list
  | .ok none => pyNone
  | .error e => e.obj

/-- `PendingResponsePage`: the identity of its `Arc<QueryResult>`, whether its
pager has more pages, and its tracing id. -/
structure ResponsePage where
  queryResult : Nat
  hasMorePages : Bool
  tracingId : Option Nat
  deriving DecidableEq, Repr

inductive PageRows where
  | built (rows : Rows)
  | toBuild (page : ResponsePage)
  deriving DecidableEq

inductive RequestState where
  | pending (lastPage : Option ResponsePage)
  | received (page : ResponsePage) (rows : Option Rows) (unfired : Option Callbacks)
  | failed (err : PyErr) (lastPage : Option ResponsePage) (unfired : Option Callbacks)
  deriving DecidableEq

/-- The rows of a settled page with the callbacks that have not run for it;
`page` counts the requests that settled before it. -/
structure Undelivered where
  page : Nat
  rows : PageRows
  unfired : Callbacks
  deriving DecidableEq

namespace RequestState

def isPending : RequestState → Bool
  | .pending _ => true
  | _ => false

def lastPage : RequestState → Option ResponsePage
  | .pending lastPage | .failed _ lastPage _ => lastPage
  | .received page _ _ => some page

def settle (request : RequestState) (outcome : Except PyErr ResponsePage)
    (unfired : Option Callbacks) : RequestState :=
  match outcome with
  | .ok page => .received page none unfired
  | .error err => .failed err request.lastPage unfired

def rows : RequestState → Option PageRows
  | .pending _ => none
  | .received _ (some rows) _ => some (.built rows)
  | .received page none _ => some (.toBuild page)
  | .failed err _ _ => some (.built (.error err))

def unfired : RequestState → Option Callbacks
  | .received _ _ unfired | .failed _ _ unfired => unfired
  | .pending _ => none

def setUnfired (unfired : Option Callbacks) : RequestState → RequestState
  | .received page rows _ => .received page rows unfired
  | .failed err lastPage _ => .failed err lastPage unfired
  | .pending lastPage => .pending lastPage

/-- `take_unfired`; `page` is the number of the current page. -/
def takeUnfired (request : RequestState) (page : Nat) : RequestState × Option Undelivered :=
  match request.unfired, request.rows with
  | some unfired, some rows => (request.setUnfired none, some ⟨page, rows, unfired⟩)
  | _, _ => (request, none)

def switchToPending (request : RequestState) (page : Nat) : RequestState × Option Undelivered :=
  (.pending request.lastPage, (request.takeUnfired page).2)

/-- `store_rows`: the first rows stored for the current page stay. -/
def storeRows (request : RequestState) (queryResult : Nat) (built : Rows) :
    RequestState × Rows :=
  match request with
  | .received page rows unfired =>
    if page.queryResult = queryResult then
      (.received page (some (rows.getD built)) unfired, rows.getD built)
    else (request, built)
  | _ => (request, built)

end RequestState

/-- A callback with the page it was registered on. -/
structure Registration where
  page : Nat
  delivery : Delivery
  callback : LegacyCallback
  deriving DecidableEq, Repr

/-- A call of a callback for a page. -/
structure Invocation where
  page : Nat
  callback : LegacyCallback
  call : PyCall
  deriving DecidableEq, Repr

structure Settlement where
  outcome : Except PyErr ResponsePage
  /-- The callbacks registered when the request settled. -/
  registered : Callbacks
  deriving DecidableEq

inductive ResponseReport where
  | result (rows : Rows)
  | raised (err : PyErr)
  deriving DecidableEq

def inFlightErr : PyErr := ⟨.scyllaError, "a request is already in flight", 0⟩

def exhaustedErr : PyErr := ⟨.queryExhausted, "no more pages", 0⟩

/-- Who asked for the rows of a page. -/
inductive RowsReader where
  | result
  | register (registration : Registration)
  | drain (page : Nat) (unfired : Callbacks)
  deriving DecidableEq

inductive ResponsePc where
  /-- About to spawn the request for a page. -/
  | spawn
  | request (polled : Bool)
  | complete (outcome : Except PyErr ResponsePage)
  | completeDropped (obj : PyObj)
  | notify (waiters : Nat)
  | notifyDropped (waiters : Nat) (registered : Callbacks)
  | fireDropped (callbacks : List LegacyCallback) (err : PyErr)
  | register (delivery : Delivery) (callback : LegacyCallback)
  | clearCallbacks
  | startFetchingNextPage
  | waitRows
  | waitWhile
  | blocked (since : Nat)
  | buildRows (rows : PageRows) (reader : RowsReader)
  | storeRows (page : ResponsePage) (built : Rows) (reader : RowsReader)
  | invoke (registration : Registration) (value : PyObj)
  /-- The closure of a drainer, given to `spawn_blocking`. -/
  | drainer
  | drain
  | fire (page : Nat) (callbacks : List LegacyCallback) (value : PyObj)
  deriving DecidableEq

structure ResponseShared where
  request : RequestState
  registered : Callbacks
  unfiredPages : List Undelivered
  /-- Whether the drain token is parked. -/
  permit : Bool
  tracingIds : List Nat
  waiters : Nat
  epoch : Nat
  shutdown : Bool
  /-- The next fresh `Arc<QueryResult>`. -/
  nextResult : Nat
  registrations : Nat
  /-- Every callback whose registration took the lock, in order. -/
  entered : List LegacyCallback
  /-- Every request that settled, in order. -/
  settled : List Settlement
  /-- Every registration that joined the unfired callbacks of a page. -/
  joined : List Registration
  /-- Every registration on a settled page with nothing unfired. -/
  late : List Registration
  /-- Every rows a row factory gave, with the page they were built for. -/
  built : List (Nat × Rows)
  /-- Every call made by a drainer. -/
  fired : List Invocation
  /-- Every other call. -/
  invoked : List Invocation
  reports : List ResponseReport

namespace ResponseShared

/-- The number of the last page that settled. -/
def current (s : ResponseShared) : Nat := s.settled.length - 1

def hasMorePages (s : ResponseShared) : Bool :=
  match s.request.lastPage with
  | some page => page.hasMorePages
  | none => false

def isTerminal (s : ResponseShared) : Bool := !s.request.isPending && !s.hasMorePages

/-- `Drainer::wake`. -/
def wakeDrainer (s : ResponseShared) : ResponseShared × List ResponsePc :=
  if s.permit then ({ s with permit := false }, [.drainer]) else (s, [])

def settle (s : ResponseShared) (outcome : Except PyErr ResponsePage)
    (unfired : Option Callbacks) : ResponseShared :=
  { s with request := s.request.settle outcome unfired,
           settled := s.settled ++ [⟨outcome, s.registered⟩] }

def dropRegistered (s : ResponseShared) : ResponseShared :=
  { s with registered := if s.isTerminal then .empty else s.registered }

def extendTracingIds (s : ResponseShared) (outcome : Except PyErr ResponsePage) : List Nat :=
  s.tracingIds ++ match outcome with
    | .ok page => page.tracingId.toList
    | .error _ => []

/-- The rows of a received page can still fail to build. -/
def unfiredFor (s : ResponseShared) (outcome : Except PyErr ResponsePage) : Option Callbacks :=
  s.registered.forOutcome (match outcome with
    | .ok _ => none
    | .error _ => some .errbacks)

def complete (s : ResponseShared) (outcome : Except PyErr ResponsePage) :
    ResponseShared × List ResponsePc :=
  let unfired := s.unfiredFor outcome
  let s := { s with tracingIds := s.extendTracingIds outcome }
  let s := (s.settle outcome unfired).dropRegistered
  let (s, woken) := if unfired.isSome then s.wakeDrainer else (s, [])
  (s, woken ++ [.notify s.waiters])

def completeDropped (s : ResponseShared) (obj : PyObj) : ResponseShared × List ResponsePc :=
  if s.request.isPending then
    ({ s.settle (.error (droppedErr obj)) none with registered := .empty },
      [.notifyDropped s.waiters s.registered])
  else (s, [])

def notify (s : ResponseShared) (waiters : Nat) : ResponseShared :=
  { s with epoch := if 0 < waiters then s.epoch + 1 else s.epoch }

def keepRegistered (s : ResponseShared) (delivery : Delivery) (callback : LegacyCallback) :
    ResponseShared :=
  { s with
    registered := if s.isTerminal then s.registered else s.registered.push delivery callback
    entered := s.entered ++ [callback] }

def register (s : ResponseShared) (delivery : Delivery) (callback : LegacyCallback) :
    ResponseShared × List ResponsePc :=
  let s := s.keepRegistered delivery callback
  let registration := ⟨s.current, delivery, callback⟩
  match s.request.unfired with
  | some unfired =>
    ({ s with request := s.request.setUnfired (some (unfired.push delivery callback)),
              joined := s.joined ++ [registration] }, [])
  | none =>
    match s.request.rows with
    | some rows =>
      ({ s with late := s.late ++ [registration] }, [.buildRows rows (.register registration)])
    | none => (s, [])

def startFetchingNextPage (s : ResponseShared) : ResponseShared × List ResponsePc :=
  if s.request.isPending then ({ s with reports := s.reports ++ [.raised inFlightErr] }, [])
  else if s.hasMorePages then
    let (request, undelivered) := s.request.switchToPending s.current
    ({ s with request := request, unfiredPages := s.unfiredPages ++ undelivered.toList }, [.spawn])
  else ({ s with reports := s.reports ++ [.raised exhaustedErr] }, [])

/-- The head of the loop of `wait_rows`. -/
def waitRows (s : ResponseShared) : ResponseShared × List ResponsePc :=
  match s.request.rows with
  | some rows => (s, [.buildRows rows .result])
  | none => (s, [.waitWhile])

/-- `wait_while` up to the first wait. -/
def waitWhile (s : ResponseShared) : ResponseShared × List ResponsePc :=
  if s.request.isPending then ({ s with waiters := s.waiters + 1 }, [.blocked s.epoch])
  else (s, [.waitRows])

/-- A wait that ended, notified or not. -/
def wakeUp (s : ResponseShared) : ResponseShared × List ResponsePc :=
  if s.request.isPending then (s, [.blocked s.epoch])
  else ({ s with waiters := s.waiters - 1 }, [.waitRows])

/-- What a reader does with the rows `build_rows` gave it. -/
def deliver (s : ResponseShared) (rows : Rows) : RowsReader → ResponseShared × List ResponsePc
  | .result => ({ s with reports := s.reports ++ [.result rows] }, [])
  | .register registration =>
    (s, if Delivery.of rows = registration.delivery then
      [.invoke registration (callbackValue rows)] else [])
  | .drain page unfired =>
    (s, [.fire page (unfired.list (Delivery.of rows)) (callbackValue rows)])

def storeRows (s : ResponseShared) (page : ResponsePage) (built : Rows) (reader : RowsReader) :
    ResponseShared × List ResponsePc :=
  deliver { s with request := (s.request.storeRows page.queryResult built).1 }
    (s.request.storeRows page.queryResult built).2 reader

/-- `Drainer::next`, and the drainer going on with the page it gave. -/
def drain (s : ResponseShared) : ResponseShared × List ResponsePc :=
  match s.unfiredPages with
  | undelivered :: rest =>
    ({ s with unfiredPages := rest },
      [.buildRows undelivered.rows (.drain undelivered.page undelivered.unfired)])
  | [] =>
    match s.request.takeUnfired s.current with
    | (request, some undelivered) =>
      ({ s with request := request },
        [.buildRows undelivered.rows (.drain undelivered.page undelivered.unfired)])
    | (_, none) => ({ s with permit := true }, [])

end ResponseShared

/-- What the code does not decide. -/
inductive ResponseChoice where
  | go
  | polled
  | receives (hasMorePages : Bool) (tracingId : Option Nat)
  | fails (err : PyErr)
  | dropped (obj : PyObj)
  | built (rows : Rows)
  | closureDropped
  deriving DecidableEq

def responseStep (s : ResponseShared) :
    ResponsePc → ResponseChoice → Option (ResponseShared × List ResponsePc)
  | .spawn, _ => some (s, [.request false])
  | .request _, .polled => some (s, [.request true])
  | .request _, .receives more tracing =>
    some ({ s with nextResult := s.nextResult + 1 }, [.complete (.ok ⟨s.nextResult, more, tracing⟩)])
  | .request _, .fails err => some (s, [.complete (.error err)])
  -- The guard that reports a dropped task is made at its first poll.
  | .request polled, .dropped obj =>
    if s.shutdown then some (s, if polled then [.completeDropped obj] else []) else none
  | .complete outcome, _ => some (s.complete outcome)
  | .completeDropped obj, _ => some (s.completeDropped obj)
  | .notify waiters, _ => some (s.notify waiters, [])
  | .notifyDropped waiters registered, .dropped obj =>
    some (s.notify waiters, if registered.isEmptyFor .errbacks then []
      else [.fireDropped registered.errbacks (droppedErr obj)])
  | .fireDropped [] _, _ => some (s, [])
  | .fireDropped (callback :: callbacks) err, _ =>
    some ({ s with invoked := s.invoked ++ [⟨s.current, callback, callback.invoke err.obj⟩] },
      [.fireDropped callbacks err])
  | .register delivery callback, _ => some (s.register delivery callback)
  | .clearCallbacks, _ => some ({ s with registered := .empty }, [])
  | .startFetchingNextPage, _ => some s.startFetchingNextPage
  | .waitRows, _ => some s.waitRows
  | .waitWhile, _ => some s.waitWhile
  | .blocked _, _ => some s.wakeUp
  | .buildRows (.built rows) reader, _ => some (s.deliver rows reader)
  | .buildRows (.toBuild page) reader, .built rows =>
    some ({ s with built := s.built ++ [(page.queryResult, rows)] }, [.storeRows page rows reader])
  | .storeRows page built reader, _ => some (s.storeRows page built reader)
  | .invoke registration value, _ =>
    some ({ s with invoked := s.invoked ++
      [⟨registration.page, registration.callback, registration.callback.invoke value⟩] }, [])
  | .drainer, .go => some (s, [.drain])
  | .drainer, .closureDropped => if s.shutdown then some (s, []) else none
  | .drain, _ => some s.drain
  | .fire _ [] _, _ => some (s, [.drain])
  | .fire page (callback :: callbacks) value, _ =>
    some ({ s with fired := s.fired ++ [⟨page, callback, callback.invoke value⟩] },
      [.fire page callbacks value])
  | _, _ => none

/-- A method of the Python class, or the end of the runtime. -/
inductive ResponseEvent where
  | addCallback (callable : PyObj) (args : List PyObj) (kwargs : Option PyObj)
  | addErrback (callable : PyObj) (args : List PyObj) (kwargs : Option PyObj)
  | clearCallbacks
  | startFetchingNextPage
  | result
  | shutdown
  deriving DecidableEq

def ResponseShared.add (s : ResponseShared) (delivery : Delivery) (callable : PyObj)
    (args : List PyObj) (kwargs : Option PyObj) : ResponseShared × List ResponsePc :=
  ({ s with registrations := s.registrations + 1 },
    [.register delivery ⟨callable, args, kwargs, s.registrations⟩])

def responseEnv (s : ResponseShared) :
    ResponseEvent → Option (ResponseShared × List ResponsePc)
  | .addCallback callable args kwargs => some (s.add .callbacks callable args kwargs)
  | .addErrback callable args kwargs => some (s.add .errbacks callable args kwargs)
  | .clearCallbacks => some (s, [.clearCallbacks])
  | .startFetchingNextPage => some (s, [.startFetchingNextPage])
  | .result => some (s, [.waitRows])
  | .shutdown => some ({ s with shutdown := true }, [])

def responseProgram : Program ResponseShared ResponsePc ResponseChoice ResponseEvent :=
  ⟨responseStep, responseEnv⟩

/-- `ResponseInner::new`. -/
def ResponseShared.new : ResponseShared :=
  { request := .pending none, registered := .empty, unfiredPages := [], permit := true,
    tracingIds := [], waiters := 0, epoch := 0, shutdown := false, nextResult := 0,
    registrations := 0, entered := [], settled := [], joined := [], late := [], built := [], fired := [],
    invoked := [], reports := [] }

/-- `PyResponseFuture::spawn`: a new future about to spawn its first request. -/
def responseInit : Config ResponseShared ResponsePc := ⟨.new, {.spawn}⟩

end ScyllaDriver
