import ScyllaDriver.Interleaving
import ScyllaDriver.PageSequence

/-! The reads of a `RequestResult`: `all()`, `first_row()`, `async for` over its
rows and over its pages, and `first_page` with repeated `fetch_next_page()`. Each
read works on its own clone of the first page's core, so any number of them may
be under way; they share the trace log only. A thread is one read: it runs up to
its next `await`, or up to the next call of its iterator. -/

namespace ScyllaDriver

variable {F : Foreign}

inductive TraceLog where
  | untraced
  | traced (ids : List Nat)

namespace TraceLog

def new : Option Nat → TraceLog
  | some id => .traced [id]
  | none => .untraced

def record : TraceLog → Option Nat → TraceLog
  | .traced ids, some id => .traced (ids ++ [id])
  | log, _ => log

end TraceLog

/-- A row iterator with the pager positioned after its page: the state of an
`AsyncRowsIterator`, and the locals of `all` and `first_row`. -/
structure AsyncIteratorState (F : Foreign) where
  rowsIterator : RowsIteratorKind F
  queryPager : Pager F
  factory : PyRowFactory F

namespace AsyncIteratorState

def new (core : PageCore F) : AsyncIteratorState F :=
  ⟨.new core.page, core.queryPager, core.rowFactory⟩

def switch (state : AsyncIteratorState F) :
    Option (QueryResult F) → Except PyErr (AsyncIteratorState F)
  | none => .ok state
  | some nextPage => do
    return { state with rowsIterator := ← RowsIteratorKind.update nextPage state.factory }

/-- The part of the loop of `next_row_with_paging` that runs under the GIL. -/
def nextRow (state : AsyncIteratorState F) (nextPage : Option (QueryResult F)) :
    Option (Except DriverRowIterationError F.Row) × AsyncIteratorState F :=
  match state.switch nextPage with
  | .error err => (some (.error (.pythonError err)), state)
  | .ok state => (state.rowsIterator.next.1, { state with rowsIterator := state.rowsIterator.next.2 })

/-- `query_pager.fetch_next_page`, its request answered by `reply`. -/
def fetch (state : AsyncIteratorState F) (reply : PageReply F) :
    Option (Except DriverExecuteError (QueryResult F)) × AsyncIteratorState F :=
  let fetched := state.queryPager.fetchNextPage fun _ _ => reply
  (fetched.1, { state with queryPager := fetched.2 })

/-- Ends the iteration, like a Python generator that raised. -/
def finish (state : AsyncIteratorState F) : AsyncIteratorState F :=
  { state with rowsIterator := .nonRows, queryPager := .unpaged }

end AsyncIteratorState

/-- The state of an `AsyncPagesIterator`, its `finished` flag included. -/
structure PagesState (F : Foreign) where
  firstPage : Option (PageCore F)
  queryPager : Pager F
  factory : PyRowFactory F
  finished : Bool

def PagesState.new (firstPage : PageCore F) : PagesState F :=
  ⟨some firstPage, firstPage.queryPager, firstPage.rowFactory, false⟩

inductive ReadKind where
  | all
  | firstRow
  | rows
  | pages
  | firstPage
  deriving DecidableEq, Repr

inductive Answer (F : Foreign) where
  | rows (list : List F.Row)
  | row (row : Option F.Row)
  | raised (err : PyErr)

/-- The caller of `next_row_with_paging`, with the rows it collected so far. -/
inductive RowCaller (F : Foreign) where
  | firstRow
  | rows (list : List F.Row)

/-- What a caller does once it has iterated a page. -/
inductive AfterPage (F : Foreign) where
  | anext (state : PagesState F)
  | fetchNextPage (page : PageCore F)

inductive ReadPc (F : Foreign) where
  | all (state : AsyncIteratorState F) (nextPage : Option (QueryResult F)) (list : List F.Row)
  | allFetch (state : AsyncIteratorState F) (list : List F.Row)
  | nextRow (state : AsyncIteratorState F) (nextPage : Option (QueryResult F))
      (caller : RowCaller F)
  | nextRowFetch (state : AsyncIteratorState F) (caller : RowCaller F)
  /-- About to call `__anext__` of an `AsyncRowsIterator`. -/
  | rowsAnext (state : AsyncIteratorState F) (list : List F.Row)
  /-- About to call `__anext__` of an `AsyncPagesIterator`. -/
  | pagesAnext (state : PagesState F) (list : List F.Row)
  | pagesFetch (state : PagesState F) (list : List F.Row)
  /-- About to call `__next__` of a `SinglePageIterator`. -/
  | page (rowsIterator : RowsIteratorKind F) (list : List F.Row) (after : AfterPage F)
  | fetchNextPage (page : PageCore F) (list : List F.Row)

structure ReadShared (F : Foreign) where
  /-- The core of the first page, which nothing changes. -/
  core : PageCore F
  traces : TraceLog
  /-- The answers given, with the read each belongs to. -/
  answers : List (ReadKind × Answer F)

namespace ReadShared

def answer (s : ReadShared F) (kind : ReadKind) (answer : Answer F) :
    ReadShared F × List (ReadPc F) :=
  ({ s with answers := s.answers ++ [(kind, answer)] }, [])

def record (s : ReadShared F) (queryResult : QueryResult F) : ReadShared F :=
  { s with traces := s.traces.record queryResult.tracingId }

end ReadShared

def RowCaller.kind : RowCaller F → ReadKind
  | .firstRow => .firstRow
  | .rows _ => .rows

def AfterPage.kind : AfterPage F → ReadKind
  | .anext _ => .pages
  | .fetchNextPage _ => .firstPage

def AfterPage.resume (list : List F.Row) : AfterPage F → ReadPc F
  | .anext state => .pagesAnext state list
  | .fetchNextPage page => .fetchNextPage page list

/-- `__anext__` of an `AsyncRowsIterator` ends with StopAsyncIteration, and so does
the `async for`. -/
def RowCaller.noRow : RowCaller F → Answer F
  | .firstRow => .row none
  | .rows list => .rows list

/-- A page handed to Python is bound to the row factory first. -/
def ReadShared.openPage (s : ReadShared F) (kind : ReadKind) (page : PendingRequestResult F)
    (list : List F.Row) (after : PageCore F → AfterPage F) : ReadShared F × List (ReadPc F) :=
  match page.resolve with
  | .error err => s.answer kind (.raised err.toPyErr)
  | .ok core => (s, [.page (.new core.page) list (after core)])

def readStep (s : ReadShared F) : ReadPc F → PageReply F → ReadShared F × List (ReadPc F)
  | .all state nextPage list, _ =>
    match state.switch nextPage with
    | .error err => s.answer .all (.raised (DriverRowIterationError.pythonError err).toPyErr)
    | .ok state =>
      match drainPage state.rowsIterator list with
      | .error err => s.answer .all (.raised err)
      | .ok (rest, list) => (s, [.allFetch { state with rowsIterator := rest } list])
  | .allFetch state list, reply =>
    match state.fetch reply with
    | (none, _) => s.answer .all (.rows list)
    | (some (.error err), _) => s.answer .all (.raised err.toPyErr)
    | (some (.ok page), state) => (s.record page, [.all state (some page) list])
  | .nextRow state nextPage caller, _ =>
    match state.nextRow nextPage with
    | (none, state) => (s, [.nextRowFetch state caller])
    | (some (.error err), _) => s.answer caller.kind (.raised err.toPyErr)
    | (some (.ok row), state) =>
      match caller with
      | .firstRow => s.answer .firstRow (.row (some row))
      | .rows list => (s, [.rowsAnext state (list ++ [row])])
  | .nextRowFetch state caller, reply =>
    match state.fetch reply with
    | (none, _) => s.answer caller.kind caller.noRow
    | (some (.error err), _) =>
      s.answer caller.kind (.raised (DriverRowIterationError.failedToFetchNextPage err).toPyErr)
    | (some (.ok page), state) => (s.record page, [.nextRow state (some page) caller])
  | .rowsAnext state list, _ =>
    -- Nobody else holds the iterator, so `try_lock` succeeds.
    match state.rowsIterator.next with
    | (some (.ok row), rest) =>
      (s, [.rowsAnext { state with rowsIterator := rest } (list ++ [row])])
    | (some (.error err), _) => s.answer .rows (.raised err.toPyErr)
    | (none, rest) => (s, [.nextRow { state with rowsIterator := rest } none (.rows list)])
  | .pagesAnext state list, _ =>
    match state.firstPage with
    | some page => (s, [.page (.new page.page) list (.anext { state with firstPage := none })])
    | none => (s, [.pagesFetch state list])
  | .pagesFetch state list, reply =>
    if state.finished then s.answer .pages (.rows list)
    else
      match state.queryPager.fetchNextPage fun _ _ => reply with
      | (none, _) => s.answer .pages (.rows list)
      | (some (.error err), _) => s.answer .pages (.raised err.toPyErr)
      | (some (.ok page), pager) =>
        (s.record page).openPage .pages ⟨page, pager, state.factory⟩ list
          fun _ => .anext { state with queryPager := pager }
  | .page rowsIterator list after, _ =>
    match rowsIterator.next with
    | (some (.ok row), rest) => (s, [.page rest (list ++ [row]) after])
    | (some (.error err), _) => s.answer after.kind (.raised err.toPyErr)
    | (none, _) => (s, [after.resume list])
  | .fetchNextPage page list, reply =>
    match page.queryPager.fetchNextPendingPage (fun _ _ => reply) page.rowFactory with
    | .error err => s.answer .firstPage (.raised err.toPyErr)
    | .ok none => s.answer .firstPage (.rows list)
    | .ok (some next) => (s.record next.queryResult).openPage .firstPage next list .fetchNextPage

/-- A read starts on a clone of the first page's core. -/
def ReadKind.start (core : PageCore F) : ReadKind → ReadPc F
  | .all => .all (.new core) none []
  | .firstRow => .nextRow (.new core) none .firstRow
  | .rows => .rowsAnext (.new core) []
  | .pages => .pagesAnext (.new core) []
  | .firstPage => .page (.new core.page) [] (.fetchNextPage core)

def readProgram (F : Foreign) : Program (ReadShared F) (ReadPc F) (PageReply F) ReadKind where
  step s p reply := some (readStep s p reply)
  env s kind := some (s, [kind.start s.core])

/-- A `RequestResult` that nothing has read yet. -/
def RequestResult.init (core : PageCore F) (tracingId : Option Nat) :
    Config (ReadShared F) (ReadPc F) :=
  ⟨⟨core, .new tracingId, []⟩, 0⟩

namespace ReadPc

def kind : ReadPc F → ReadKind
  | .all .. | .allFetch .. => .all
  | .nextRow _ _ caller | .nextRowFetch _ caller => caller.kind
  | .rowsAnext .. => .rows
  | .pagesAnext .. | .pagesFetch .. => .pages
  | .page _ _ after => after.kind
  | .fetchNextPage .. => .firstPage

/-- The page request a read awaits. -/
def request : ReadPc F → Option (F.BoundStatement × F.PagingState)
  | .allFetch state _ | .nextRowFetch state _ => state.queryPager.request
  | .pagesFetch state _ => state.queryPager.request
  | .fetchNextPage core _ => core.queryPager.request
  | _ => none

end ReadPc

/-- Every page request of the step is answered by the server. -/
def ReadPc.AnsweredBy (server : Server F) (p : ReadPc F) (reply : PageReply F) : Prop :=
  ∀ prepared state, p.request = some (prepared, state) → reply = server.reply prepared state

def answeredBy (server : Server F) (_ : Config (ReadShared F) (ReadPc F)) :
    Label (ReadPc F) (PageReply F) ReadKind → Prop
  | .thread p reply => p.AnsweredBy server reply
  | .env _ => True

end ScyllaDriver
