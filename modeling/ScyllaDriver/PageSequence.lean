import ScyllaDriver.Paging

/-! What the pages of a result contain: a server that answers every request, the
rows a factory builds from one page, and the pages a pager still has to fetch. -/

namespace ScyllaDriver

variable {F : Foreign}

/-- A server that answers every request. -/
structure Server (F : Foreign) where
  unpaged : F.BoundStatement → QueryResult F
  page : F.BoundStatement → F.PagingState → QueryResult F × PagingStateResponse F

def Server.reply (server : Server F) (prepared : F.BoundStatement) (state : F.PagingState) :
    PageReply F :=
  .ok (server.page prepared state)

def Server.session (server : Server F) : Session F :=
  ⟨fun prepared => .ok (server.unpaged prepared), server.reply⟩

/-- Decoding the item and building its row both succeed. -/
def RowBuilder.Builds (builder : RowBuilder F) (item : Except PyErr F.RawRow) (row : F.Row) :
    Prop :=
  ∃ columns, item = .ok columns ∧ builder.build columns = .ok row

/-- The iterator yields exactly `rows`, without a failure. -/
def RowsIteratorKind.Yields (list : List F.Row) : RowsIteratorKind F → Prop
  | .rows items builder => List.Forall₂ builder.Builds items list
  | .nonRows => list = []

/-- The page carries exactly `list` under `factory`, without a failure. -/
def QueryResult.Yields (queryResult : QueryResult F) (factory : PyRowFactory F)
    (list : List F.Row) : Prop :=
  match queryResult.rows with
  | some (specs, items) =>
    ∃ builder, factory.resolve specs = .ok builder ∧ List.Forall₂ builder.Builds items list
  | none => list = []

/-- The pages that follow, by their rows. -/
inductive Pager.Serves (server : Server F) (factory : PyRowFactory F) :
    Pager F → List (List F.Row) → Prop
  | unpaged : Serves server factory .unpaged []
  | last {prepared : F.BoundStatement} :
    Serves server factory (.paged .noMorePages prepared) []
  | next {prepared : F.BoundStatement} {state : F.PagingState} {page : List F.Row}
      {pages : List (List F.Row)} (hpage : (server.page prepared state).1.Yields factory page)
      (hpages : Serves server factory (.paged (server.page prepared state).2 prepared) pages) :
    Serves server factory (.paged (.hasMorePages state) prepared) (page :: pages)

namespace RowsIteratorKind

theorem next_of_yields_nil {rowsIterator : RowsIteratorKind F} (h : rowsIterator.Yields []) :
    rowsIterator.next = (none, rowsIterator) := by
  cases rowsIterator with
  | nonRows => rfl
  | rows items builder =>
    cases h
    rfl

theorem next_of_yields_cons {rowsIterator : RowsIteratorKind F} {row : F.Row} {list : List F.Row}
    (h : rowsIterator.Yields (row :: list)) :
    ∃ rest, rowsIterator.next = (some (.ok row), rest) ∧ rest.Yields list := by
  cases rowsIterator with
  | nonRows => cases h
  | rows items builder =>
    cases h with
    | @cons _ _ rest _ hrow hlist =>
      obtain ⟨columns, rfl, hbuild⟩ := hrow
      exact ⟨.rows rest builder, by rw [next, hbuild], hlist⟩

end RowsIteratorKind

theorem drainPage_of_yields {rowsIterator : RowsIteratorKind F} {list : List F.Row}
    (h : rowsIterator.Yields list) (before : List F.Row) :
    ∃ rest, drainPage rowsIterator before = .ok (rest, before ++ list) ∧ rest.Yields [] := by
  induction list generalizing rowsIterator before with
  | nil =>
    have hnext := RowsIteratorKind.next_of_yields_nil h
    refine ⟨rowsIterator, ?_, h⟩
    rw [drainPage]
    split <;> simp_all
  | cons row list ih =>
    obtain ⟨rest, hnext, hrest⟩ := RowsIteratorKind.next_of_yields_cons h
    obtain ⟨drained, hdrain, hend⟩ := ih hrest (before ++ [row])
    refine ⟨drained, ?_, hend⟩
    rw [drainPage]
    split <;> simp_all

theorem ResolvedPage.new_of_yields {queryResult : QueryResult F} {factory : PyRowFactory F}
    {list : List F.Row} (h : queryResult.Yields factory list) :
    ∃ page, ResolvedPage.new queryResult factory = .ok page ∧
      (RowsIteratorKind.new page).Yields list := by
  obtain ⟨rows, tracingId⟩ := queryResult
  cases rows with
  | none => exact ⟨_, rfl, h⟩
  | some rows =>
    obtain ⟨builder, hbuilder, hitems⟩ := h
    refine ⟨.rows ⟨some rows, tracingId⟩ builder rfl, ?_, hitems⟩
    simp only [ResolvedPage.new, hbuilder]
    rfl

theorem RowsIteratorKind.update_of_yields {queryResult : QueryResult F}
    {factory : PyRowFactory F} {list : List F.Row} (h : queryResult.Yields factory list) :
    ∃ rowsIterator, update queryResult factory = .ok rowsIterator ∧ rowsIterator.Yields list := by
  obtain ⟨page, hpage, hrows⟩ := ResolvedPage.new_of_yields h
  refine ⟨.new page, ?_, hrows⟩
  rw [update, hpage]
  rfl

theorem PageCore.new_of_yields {queryResult : QueryResult F} {factory : PyRowFactory F}
    {list : List F.Row} (h : queryResult.Yields factory list) (pager : Pager F) :
    ∃ core, PageCore.new queryResult pager factory = .ok core ∧ core.rowFactory = factory ∧
      core.queryPager = pager ∧ (RowsIteratorKind.new core.page).Yields list := by
  obtain ⟨page, hpage, hrows⟩ := ResolvedPage.new_of_yields h
  refine ⟨⟨factory, pager, page⟩, ?_, rfl, rfl, hrows⟩
  rw [PageCore.new, hpage]
  rfl

namespace Pager

variable {server : Server F} {factory : PyRowFactory F} {pager : Pager F}

theorem Serves.fetchNextPage_nil (h : pager.Serves server factory [])
    (fetchPage : F.BoundStatement → F.PagingState → PageReply F) :
    pager.fetchNextPage fetchPage = (none, pager) := by
  cases h <;> rfl

theorem Serves.hasMorePages_nil (h : pager.Serves server factory []) :
    pager.hasMorePages = false := by
  cases h <;> rfl

theorem Serves.fetchNextPage_cons {page : List F.Row} {pages : List (List F.Row)}
    (h : pager.Serves server factory (page :: pages))
    {fetchPage : F.BoundStatement → F.PagingState → PageReply F}
    (hr : ∀ prepared state, pager.request = some (prepared, state) →
      fetchPage prepared state = server.reply prepared state) :
    ∃ queryResult rest, pager.fetchNextPage fetchPage = (some (.ok queryResult), rest) ∧
      queryResult.Yields factory page ∧ rest.Serves server factory pages := by
  cases h with
  | @next prepared state _ _ hpage hpages =>
    have hreply := hr prepared state rfl
    refine ⟨(server.page prepared state).1, _, ?_, hpage, hpages⟩
    simp only [fetchNextPage, hreply, Server.reply]

theorem Serves.hasMorePages_cons {page : List F.Row} {pages : List (List F.Row)}
    (h : pager.Serves server factory (page :: pages)) : pager.hasMorePages = true := by
  cases h
  rfl

end Pager

end ScyllaDriver
