import ScyllaDriver.LockedOutcomes
import ScyllaDriver.Reads

/-! What the `__anext__` calls of one iterator hand out, the pages that follow a
pager, and the replies its page requests may get. -/

namespace ScyllaDriver

/-- The outcome of an `__anext__`; `stop` is StopAsyncIteration. -/
inductive Anext (α : Type*) where
  | item (item : α)
  | raised (err : PyErr)
  | stop
  deriving DecidableEq

def Anext.fails {α : Type*} : Anext α → Bool
  | .raised _ => true
  | _ => false

/-- The outcomes are the first items of `all`, in order, and no call stops before all
of them were handed out. -/
def HandsOut {α β : Type*} (g : α → β) (all : List β) (taken : List (Anext α)) : Prop :=
  ∃ done k, taken = List.map .item done ++ List.replicate k .stop ∧ done.map g <+: all ∧
    (0 < k → done.map g = all)

variable {F : Foreign}

namespace Pager

/-- The pages that follow, each with the pager positioned after it. -/
inductive Follows (server : Server F) (factory : PyRowFactory F) :
    Pager F → List (PendingRequestResult F) → Prop
  | unpaged : Follows server factory .unpaged []
  | last {prepared : F.BoundStatement} :
    Follows server factory (.paged .noMorePages prepared) []
  | next {prepared : F.BoundStatement} {state : F.PagingState}
      {pages : List (PendingRequestResult F)}
      (hpages : Follows server factory (.paged (server.page prepared state).2 prepared) pages) :
    Follows server factory (.paged (.hasMorePages state) prepared)
      (⟨(server.page prepared state).1, .paged (server.page prepared state).2 prepared, factory⟩ ::
        pages)

/-- A page request is answered by the server, or fails if it may. -/
def MayAnswer (server : Server F) (mayFail : Prop) (pager : Pager F) (reply : PageReply F) : Prop :=
  ∀ prepared state, pager.request = some (prepared, state) →
    reply = server.reply prepared state ∨ mayFail ∧ ∃ err, reply = .error err

variable {server : Server F} {factory : PyRowFactory F} {mayFail : Prop} {pager : Pager F}
  {pages : List (PendingRequestResult F)}

theorem exists_mayAnswer (server : Server F) (mayFail : Prop) (pager : Pager F) :
    ∃ reply, pager.MayAnswer server mayFail reply := by
  cases hr : pager.request with
  | none => exact ⟨.error (.runtimeTaskJoinFailed ""), fun _ _ h => by simp [hr] at h⟩
  | some request =>
    refine ⟨server.reply request.1 request.2, fun prepared state h => .inl ?_⟩
    obtain rfl := Option.some.inj (hr.symm.trans h)
    rfl

theorem Follows.nil_of_request (h : pager.Follows server factory pages)
    (hr : pager.request = none) : pages = [] := by
  cases h with
  | unpaged => rfl
  | last => rfl
  | next => cases hr

theorem Follows.request_of_nil (h : pager.Follows server factory []) : pager.request = none := by
  cases h <;> rfl

theorem Follows.of_request (h : pager.request = none) : pager.Follows server factory [] := by
  match pager with
  | .unpaged => exact .unpaged
  | .paged .noMorePages _ => exact .last
  | .paged (.hasMorePages _) _ => cases h

/-- `fetch_next_page` with the trace log of the pager, run to its end, or dropped (`none`)
while its request is under way. Nothing is changed before the request is answered. -/
def fetchTraced (pager : Pager F) (traces : TraceLog) (reply : Option (PageReply F)) :
    Option (Option (Except DriverExecuteError (QueryResult F))) × Pager F × TraceLog :=
  match pager.request, reply with
  | none, _ => (some none, pager, traces)
  | some _, none => (none, pager, traces)
  | some _, some reply =>
    match pager.fetchNextPage fun _ _ => reply with
    | (some (.ok page), pager) => (some (some (.ok page)), pager, traces.record page.tracingId)
    | (outcome, pager) => (some outcome, pager, traces)

theorem fetchTraced_of_request_none (h : pager.request = none) (traces : TraceLog)
    (reply : Option (PageReply F)) : pager.fetchTraced traces reply = (some none, pager, traces) := by
  simp only [fetchTraced, h]

/-- A fetch that is dropped or fails leaves the pager and the trace log as they were. -/
theorem fetchTraced_of_failed {traces : TraceLog} {reply : Option (PageReply F)}
    (h : (pager.fetchTraced traces reply).1 = none ∨
      ∃ err, (pager.fetchTraced traces reply).1 = some (some (.error err))) :
    (pager.fetchTraced traces reply).2 = (pager, traces) := by
  match pager, reply with
  | .unpaged, _ | .paged .noMorePages _, _ | .paged (.hasMorePages _) _, none
  | .paged (.hasMorePages _) _, some (.error _) => rfl
  | .paged (.hasMorePages _) _, some (.ok _) =>
    rcases h with h | ⟨err, h⟩
    · cases h
    · cases h

/-- An answered request gives the next page, and the others follow it; one that failed
leaves the pager and the trace log as they were. -/
theorem Follows.fetchTraced (h : pager.Follows server factory pages)
    (hr : pager.request ≠ none) {reply : PageReply F}
    (hreply : pager.MayAnswer server mayFail reply) (traces : TraceLog) :
    (∃ page rest, pages = page :: rest ∧ page.factory = factory ∧
      pager.fetchTraced traces (some reply) = (some (some (.ok page.queryResult)), page.queryPager,
        traces.record page.queryResult.tracingId) ∧
      page.queryPager.Follows server factory rest) ∨
    mayFail ∧ ∃ err, pager.fetchTraced traces (some reply) =
      (some (some (.error err)), pager, traces) := by
  cases h with
  | unpaged => exact absurd rfl hr
  | last => exact absurd rfl hr
  | @next prepared state rest hpages =>
    rcases hreply prepared state rfl with rfl | ⟨hfail, err, rfl⟩
    · exact .inl ⟨_, rest, rfl, rfl, rfl, hpages⟩
    · exact .inr ⟨hfail, err, rfl⟩

end Pager

/-- What a row iterator has left, item by item. -/
def RowsIteratorKind.items : RowsIteratorKind F → List (Except DriverRowIterationError F.Row)
  | .rows rest builder => rest.map fun
    | .error err => .error (.deserialization err)
    | .ok columns => builder.build columns
  | .nonRows => []

theorem RowsIteratorKind.next_of_items_nil {rowsIterator : RowsIteratorKind F}
    (h : rowsIterator.items = []) : rowsIterator.next = (none, rowsIterator) := by
  match rowsIterator with
  | .nonRows | .rows [] _ => rfl
  | .rows (_ :: _) _ => cases h

theorem RowsIteratorKind.next_of_items_cons {rowsIterator : RowsIteratorKind F}
    {item : Except DriverRowIterationError F.Row}
    {items : List (Except DriverRowIterationError F.Row)} (h : rowsIterator.items = item :: items) :
    ∃ rest, rowsIterator.next = (some item, rest) ∧ rest.items = items := by
  match rowsIterator with
  | .nonRows | .rows [] _ => cases h
  | .rows (.error _ :: rest) builder | .rows (.ok _ :: rest) builder =>
    cases h
    exact ⟨.rows rest builder, rfl, rfl⟩

/-- The items of a page under its row factory; a factory that fails is one error. -/
def PendingRequestResult.items (page : PendingRequestResult F) :
    List (Except DriverRowIterationError F.Row) :=
  match RowsIteratorKind.update page.queryResult page.factory with
  | .ok rowsIterator => rowsIterator.items
  | .error err => [.error (.pythonError err)]

end ScyllaDriver
