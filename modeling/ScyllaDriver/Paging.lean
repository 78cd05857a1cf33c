import Mathlib.Data.List.Forall2
import ScyllaDriver.Callbacks

/-! The rows of one page and the pager that requests the following ones. Row
factories are user Python: a factory is taken as a function of the columns it is
given, a builder as a function of the raw row. -/

namespace ScyllaDriver

/-- What the paging code passes on without looking inside. -/
structure Foreign where
  PagingState : Type
  BoundStatement : Type
  ColumnSpec : Type
  RawRow : Type
  Row : Type

variable {F : Foreign}

inductive PagingStateResponse (F : Foreign) where
  | hasMorePages (state : F.PagingState)
  | noMorePages

/-- A response of the Rust driver. `rows` is `deserialized_metadata_and_rows`: the
columns with the items of the raw row iterator, `none` for a result without rows. -/
structure QueryResult (F : Foreign) where
  rows : Option (List F.ColumnSpec × List (Except PyErr F.RawRow))
  tracingId : Option Nat

/-- The errors of a page request and of its conversion. An error of the Rust
driver is given by the exception it converts to. -/
inductive DriverExecuteError where
  | rustDriverExecutionError (source : PyErr)
  | runtimeTaskJoinFailed (join : String)
  | rowFactoryFailed (source : PyErr)

inductive DriverRowIterationError where
  | deserialization (source : PyErr)
  | failedToFetchNextPage (source : DriverExecuteError)
  | pythonError (source : PyErr)

/-- `with_cause`: the new exception, identified by its cause. -/
def withCause (cls : ErrClass) (message : String) (cause : PyErr) : PyErr :=
  ⟨cls, message, cause.obj⟩

def DriverExecuteError.toPyErr : DriverExecuteError → PyErr
  | .rustDriverExecutionError source => source
  | .runtimeTaskJoinFailed join =>
    ⟨.internalDriverError, "runtime error while executing query: " ++ join, 0⟩
  | .rowFactoryFailed source =>
    withCause .rowFactoryError "Failed to prepare the row factory for the result metadata" source

def DriverRowIterationError.toPyErr : DriverRowIterationError → PyErr
  | .deserialization source => source
  | .failedToFetchNextPage source =>
    withCause .rowIterationError "Row iteration error: failed to fetch next page of results"
      source.toPyErr
  | .pythonError source =>
    withCause .rowIterationError
      "Row iteration error: a Python error occurred during processing of a row" source

/-- A row factory resolved against the columns of one page. -/
structure RowBuilder (F : Foreign) where
  build : F.RawRow → Except DriverRowIterationError F.Row

structure PyRowFactory (F : Foreign) where
  resolve : List F.ColumnSpec → Except PyErr (RowBuilder F)

inductive ResolvedPage (F : Foreign) where
  | rows (queryResult : QueryResult F) (builder : RowBuilder F) (h : queryResult.rows.isSome)
  | nonRows (queryResult : QueryResult F)

def ResolvedPage.new (queryResult : QueryResult F) (factory : PyRowFactory F) :
    Except PyErr (ResolvedPage F) :=
  match h : queryResult.rows with
  | none => .ok (.nonRows queryResult)
  | some (specs, _) => do
    let builder ← factory.resolve specs
    return .rows queryResult builder (by simp [h])

inductive RowsIteratorKind (F : Foreign) where
  | rows (rows : List (Except PyErr F.RawRow)) (builder : RowBuilder F)
  | nonRows

namespace RowsIteratorKind

def new : ResolvedPage F → RowsIteratorKind F
  | .rows queryResult builder h => .rows (queryResult.rows.get h).2 builder
  | .nonRows _ => .nonRows

/-- Switches to the next page; a factory that fails leaves the iterator as it was. -/
def update (queryResult : QueryResult F) (factory : PyRowFactory F) :
    Except PyErr (RowsIteratorKind F) := do
  return .new (← ResolvedPage.new queryResult factory)

def next : RowsIteratorKind F →
    Option (Except DriverRowIterationError F.Row) × RowsIteratorKind F
  | .nonRows => (none, .nonRows)
  | .rows [] builder => (none, .rows [] builder)
  | .rows (.error err :: rest) builder => (some (.error (.deserialization err)), .rows rest builder)
  | .rows (.ok columns :: rest) builder => (some (builder.build columns), .rows rest builder)

def remaining : RowsIteratorKind F → Nat
  | .rows rest _ => rest.length
  | .nonRows => 0

theorem remaining_lt_of_next {rowsIterator rest : RowsIteratorKind F}
    {row : Except DriverRowIterationError F.Row} (h : rowsIterator.next = (some row, rest)) :
    rest.remaining < rowsIterator.remaining := by
  match rowsIterator with
  | .nonRows | .rows [] _ => cases h
  | .rows (.error _ :: _) _ | .rows (.ok _ :: _) _ =>
    cases h
    simp [remaining]

end RowsIteratorKind

/-- Appends every remaining row of the current page to `list`. -/
def drainPage (rowsIterator : RowsIteratorKind F) (list : List F.Row) :
    Except PyErr (RowsIteratorKind F × List F.Row) :=
  match _h : rowsIterator.next with
  | (none, rest) => .ok (rest, list)
  | (some (.error err), _) => .error err.toPyErr
  | (some (.ok row), rest) => drainPage rest (list ++ [row])
termination_by rowsIterator.remaining
decreasing_by exact RowsIteratorKind.remaining_lt_of_next _h

/-- The rows of one page as a list, `none` for a result without rows. -/
def pageRows (page : ResolvedPage F) : Except PyErr (Option (List F.Row)) :=
  match page with
  | .nonRows _ => .ok none
  | .rows .. => do return some (← drainPage (.new page) []).2

/-- The pagers of one result share its session and its trace log; what differs is
`PagerState`. -/
inductive Pager (F : Foreign) where
  | unpaged
  | paged (pagingResponse : PagingStateResponse F) (prepared : F.BoundStatement)

/-- What `fetch_page` gives: a page and the paging response that follows it. -/
abbrev PageReply (F : Foreign) :=
  Except DriverExecuteError (QueryResult F × PagingStateResponse F)

namespace Pager

def hasMorePages : Pager F → Bool
  | .paged (.hasMorePages _) _ => true
  | _ => false

def pagingState : Pager F → Option F.PagingState
  | .paged (.hasMorePages state) _ => some state
  | _ => none

/-- The request `fetch_next_page` sends, `none` when it returns at once. -/
def request : Pager F → Option (F.BoundStatement × F.PagingState)
  | .paged (.hasMorePages state) prepared => some (prepared, state)
  | _ => none

/-- `fetch_page` is what a request is answered with. -/
def fetchNextPage (fetchPage : F.BoundStatement → F.PagingState → PageReply F) (pager : Pager F) :
    Option (Except DriverExecuteError (QueryResult F)) × Pager F :=
  match pager with
  | .paged (.hasMorePages state) prepared =>
    match fetchPage prepared state with
    | .ok (queryResult, pagingResponse) => (some (.ok queryResult), .paged pagingResponse prepared)
    | .error err => (some (.error err), pager)
  | _ => (none, pager)

end Pager

/-- A finished request whose rows are not bound to a row factory yet. -/
structure PendingRequestResult (F : Foreign) where
  queryResult : QueryResult F
  queryPager : Pager F
  factory : PyRowFactory F

/-- One page of a result, with the pager positioned after it. -/
structure PageCore (F : Foreign) where
  rowFactory : PyRowFactory F
  queryPager : Pager F
  page : ResolvedPage F

def PageCore.new (queryResult : QueryResult F) (queryPager : Pager F)
    (rowFactory : PyRowFactory F) : Except DriverExecuteError (PageCore F) := do
  let page ← (ResolvedPage.new queryResult rowFactory).mapError .rowFactoryFailed
  return ⟨rowFactory, queryPager, page⟩

def PendingRequestResult.resolve (result : PendingRequestResult F) :
    Except DriverExecuteError (PageCore F) :=
  PageCore.new result.queryResult result.queryPager result.factory

def Pager.fetchNextPendingPage (fetchPage : F.BoundStatement → F.PagingState → PageReply F)
    (pager : Pager F) (rowFactory : PyRowFactory F) :
    Except DriverExecuteError (Option (PendingRequestResult F)) :=
  match pager.fetchNextPage fetchPage with
  | (none, _) => .ok none
  | (some (.ok queryResult), pager) => .ok (some ⟨queryResult, pager, rowFactory⟩)
  | (some (.error err), _) => .error err

/-- How a statement is executed. -/
inductive ExecutionParams (F : Foreign) where
  | unpaged (prepared : F.BoundStatement)
  | paged (prepared : F.BoundStatement) (pagingState : F.PagingState)

/-- What the session of the Rust driver answers requests with. -/
structure Session (F : Foreign) where
  unpaged : F.BoundStatement → Except DriverExecuteError (QueryResult F)
  fetchPage : F.BoundStatement → F.PagingState → PageReply F

/-- The future of `SessionCore::execute`. -/
def Session.execute (session : Session F) (factory : PyRowFactory F) :
    ExecutionParams F → Except DriverExecuteError (PendingRequestResult F)
  | .unpaged prepared => do return ⟨← session.unpaged prepared, .unpaged, factory⟩
  | .paged prepared pagingState => do
    let (result, pagingResponse) ← session.fetchPage prepared pagingState
    return ⟨result, .paged pagingResponse prepared, factory⟩

end ScyllaDriver
