import ScyllaDriver.PageSequence
import ScyllaDriver.ResponseMoves

/-! The legacy `ResultSet`: a row iterator over the current page of its
`ResponseFuture` that blocks for the following ones. One thread reads it; what
runs while it waits is the request it started. -/

namespace ScyllaDriver

variable {F : Foreign}

/-- What the requests for pages are answered with, each by its number. -/
abbrev Network (F : Foreign) := Nat → F.BoundStatement → F.PagingState → PageReply F

def buildRows (page : PendingRequestResult F) : Except PyErr (Option (List F.Row)) :=
  match ResolvedPage.new page.queryResult page.factory with
  | .error err => .error (DriverExecuteError.rowFactoryFailed err).toPyErr
  | .ok resolved => pageRows resolved

/-- A `ResponseFuture` with what its state refers to: the pages received, by the
identity of their `QueryResult`, and the lists of rows built, by theirs. -/
structure PyResponseFuture (F : Foreign) where
  inner : ResponseShared
  received : List (PendingRequestResult F)
  lists : List (List F.Row)
  /-- The number of requests sent. -/
  sent : Nat
  /-- The errors of the requests that failed, in order. -/
  failed : List PyErr

namespace PyResponseFuture

def lastPage (future : PyResponseFuture F) : Option (PendingRequestResult F) :=
  future.inner.request.lastPage.bind fun page => future.received[page.queryResult]?

def hasMorePages (future : PyResponseFuture F) : Bool := future.inner.hasMorePages

def pagingState (future : PyResponseFuture F) : Option F.PagingState :=
  future.lastPage.bind fun page => page.queryPager.pagingState

/-- A request that was sent settles. -/
def settle (future : PyResponseFuture F) (outcome : Except PyErr (PendingRequestResult F)) :
    PyResponseFuture F :=
  match outcome with
  | .ok page =>
    { future with
      inner := ({ future.inner with nextResult := future.inner.nextResult + 1 }.complete
        (.ok ⟨future.inner.nextResult, page.queryPager.hasMorePages,
          page.queryResult.tracingId⟩)).1
      received := future.received ++ [page]
      sent := future.sent + 1 }
  | .error err =>
    { future with
      inner := (future.inner.complete (.error err)).1
      sent := future.sent + 1
      failed := future.failed ++ [err] }

/-- The request for the page after `page`. -/
def nextPage (future : PyResponseFuture F) (net : Network F) (page : PendingRequestResult F) :
    Except PyErr (PendingRequestResult F) :=
  match page.queryPager.fetchNextPendingPage (net future.sent) page.factory with
  | .error err => .error err.toPyErr
  | .ok none => .error exhaustedErr
  | .ok (some next) => .ok next

/-- `start_fetching_next_page`, and the request it spawns run to its end. -/
def startFetchingNextPage (future : PyResponseFuture F) (net : Network F) :
    Except PyErr Unit × PyResponseFuture F :=
  let started := { future with inner := future.inner.startFetchingNextPage.1 }
  if future.inner.request.isPending then (.error inFlightErr, started)
  else
    match future.lastPage with
    | none => (.error exhaustedErr, started)
    | some page =>
      if page.queryPager.hasMorePages then (.ok (), started.settle (future.nextPage net page))
      else (.error exhaustedErr, started)

/-- The rows of a page, built by the row factory, as an object. -/
def build (future : PyResponseFuture F) (queryResult : Nat) : Rows × PyResponseFuture F :=
  match future.received[queryResult]?.map buildRows with
  | some (.ok (some list)) =>
    (.ok (some (future.lists.length + 1)), { future with lists := future.lists ++ [list] })
  | some (.error err) => (.error err, future)
  | some (.ok none) | none => (.ok none, future)

def contents (future : PyResponseFuture F) : Rows → Except PyErr (Option (List F.Row))
  | .ok (some obj) => .ok (some (future.lists.getD (obj - 1) []))
  | .ok none => .ok none
  | .error err => .error err

/-- `wait_rows`, `none` if the request in flight never settles. -/
def waitRows (future : PyResponseFuture F) :
    Option (Except PyErr (Option (List F.Row)) × PyResponseFuture F) :=
  match future.inner.request.rows with
  | none => none
  | some (.built rows) =>
    some (future.contents rows, { future with inner := (future.inner.deliver rows .result).1 })
  | some (.toBuild page) =>
    let (built, future) := future.build page.queryResult
    some (future.contents (future.inner.request.storeRows page.queryResult built).2,
      { future with inner := ({ future.inner with
          built := future.inner.built ++ [(page.queryResult, built)] }.storeRows page built
            .result).1 })

/-- `PyResponseFuture::spawn`, and the request it spawns run to its end. -/
def spawn (request : Except PyErr (PendingRequestResult F)) : PyResponseFuture F :=
  settle ⟨.new, [], [], 0, []⟩ request

end PyResponseFuture

inductive Mode where
  /-- Nothing read yet. -/
  | notStarted
  /-- The index of the next row of `current_rows` to yield. -/
  | iterating (position : Nat)
  /-- Every row has been materialized into `current_rows`. -/
  | list
  deriving DecidableEq, Repr

structure PyResultSet (F : Foreign) where
  future : PyResponseFuture F
  currentRows : List F.Row
  mode : Mode

/-- What `next_row` does after one step under the lock. -/
inductive ResultSetStep (F : Foreign) where
  | row (row : F.Row)
  | ended
  | fetchPage

def useIteratorErr : PyErr := ⟨.typeError, "Use the iterator that iter(result_set) returns.", 0⟩

namespace PyResultSet

def new (future : PyResponseFuture F) (rows : Option (List F.Row)) : PyResultSet F :=
  ⟨future, rows.getD [], .notStarted⟩

def startPage (set : PyResultSet F) (rows : List F.Row) : PyResultSet F :=
  { set with currentRows := rows, mode := .iterating 0 }

/-- `step`, once the position is known. -/
def stepAt (set : PyResultSet F) (position : Nat) : ResultSetStep F × PyResultSet F :=
  match set.currentRows[position]? with
  | some row => (.row row, { set with mode := .iterating (position + 1) })
  | none =>
    if set.future.hasMorePages then (.fetchPage, { set with mode := .iterating position })
    else (.ended, set.startPage [])

def step (set : PyResultSet F) : Except PyErr (ResultSetStep F × PyResultSet F) :=
  match set.mode with
  | .iterating position => .ok (set.stepAt position)
  | .notStarted => .ok (set.stepAt 0)
  | .list => .error useIteratorErr

def fetchPage (set : PyResultSet F) (net : Network F) :
    Option (Except PyErr (List F.Row) × PyResultSet F) :=
  match set.future.startFetchingNextPage net with
  | (.error err, future) => some (.error err, { set with future := future })
  | (.ok (), future) => do
    let (rows, future) ← future.waitRows
    return (rows.map (·.getD []), { set with future := future })

/-- `next_row`, `none` when `fuel` rounds of its loop do not end it. -/
def nextRow (net : Network F) :
    Nat → PyResultSet F → Option (Except PyErr (Option F.Row) × PyResultSet F)
  | 0, _ => none
  | fuel + 1, set =>
    match set.step with
    | .error err => some (.error err, set)
    | .ok (.row row, set) => some (.ok (some row), set)
    | .ok (.ended, set) => some (.ok none, set)
    | .ok (.fetchPage, set) =>
      match set.fetchPage net with
      | none => none
      | some (.error err, set) => some (.error err, set)
      | some (.ok rows, set) => nextRow net fuel (set.startPage rows)

/-- Takes rows until there are none. -/
def drain (net : Network F) :
    Nat → PyResultSet F → List F.Row → Option (Except PyErr (List F.Row) × PyResultSet F)
  | 0, _, _ => none
  | fuel + 1, set, rows =>
    match set.nextRow net fuel with
    | none => none
    | some (.error err, set) => some (.error err, set)
    | some (.ok none, set) => some (.ok rows, set)
    | some (.ok (some row), set) => drain net fuel set (rows ++ [row])

def drainFromStart (set : PyResultSet F) (net : Network F) (fuel : Nat) :
    Option (Except PyErr (List F.Row) × PyResultSet F) :=
  match set.mode with
  | .list => some (.ok set.currentRows, set)
  | _ => drain net fuel { set with mode := .iterating 0 } []

def all (set : PyResultSet F) (net : Network F) (fuel : Nat) :
    Option (Except PyErr (List F.Row) × PyResultSet F) :=
  set.drainFromStart net fuel

/-- `list(result_set)`: `__iter__`, then `__next__` until it stops. -/
def list (set : PyResultSet F) (net : Network F) (fuel : Nat) :
    Option (Except PyErr (List F.Row) × PyResultSet F) :=
  match set.mode with
  -- `__iter__` gives an iterator over the rows themselves.
  | .list => some (.ok set.currentRows, set)
  | _ => drain net fuel { set with mode := .iterating 0 } []

end PyResultSet

/-- `result()`, and so `LegacySession.execute`, `none` if the request never settles. -/
def PyResponseFuture.result (future : PyResponseFuture F) :
    Option (Except PyErr (PyResultSet F)) := do
  let (rows, future) ← future.waitRows
  return rows.map (.new future)

end ScyllaDriver
