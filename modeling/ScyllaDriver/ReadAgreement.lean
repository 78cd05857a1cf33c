import ScyllaDriver.ReadAnswers
import ScyllaDriver.ResultSetReads

/-! Every way of reading the result of one query gives the same rows: the reads of
a `RequestResult`, however they interleave, and a fresh legacy `ResultSet`. -/

namespace ScyllaDriver

variable {F : Foreign} {server : Server F} {factory : PyRowFactory F}

/-- The first page of the query has the rows `page`; the pages `following` come
after it. -/
def ExecutionParams.Serves (server : Server F) (factory : PyRowFactory F) (page : List F.Row)
    (following : List (List F.Row)) : ExecutionParams F → Prop
  | .unpaged prepared => (server.unpaged prepared).Yields factory page ∧ following = []
  | .paged prepared pagingState =>
    (Pager.paged (.hasMorePages pagingState) prepared).Serves server factory (page :: following)

theorem execute_of_serves {params : ExecutionParams F} {page : List F.Row}
    {following : List (List F.Row)} (h : params.Serves server factory page following) :
    ∃ pending, server.session.execute factory params = .ok pending ∧ pending.factory = factory ∧
      pending.queryResult.Yields factory page ∧
      pending.queryPager.Serves server factory following := by
  cases params with
  | unpaged prepared =>
    obtain ⟨hyields, rfl⟩ := h
    exact ⟨⟨server.unpaged prepared, .unpaged, factory⟩, rfl, rfl, hyields, .unpaged⟩
  | paged prepared pagingState =>
    cases h with
    | next hpage hpages =>
      exact ⟨⟨(server.page prepared pagingState).1,
        .paged (server.page prepared pagingState).2 prepared, factory⟩, rfl, rfl, hpage, hpages⟩

/-- The result of a query whose requests, decoding and row building all succeed,
with finitely many pages. Any number of reads of the `RequestResult` may be under
way; each answers with the rows of all pages, or the first of them, after a bounded
number of its own steps. A fresh `ResultSet` gives the same rows. -/
theorem reads_agree {params : ExecutionParams F} {page : List F.Row}
    {following : List (List F.Row)} (h : params.Serves server factory page following) :
    ∃ pending, server.session.execute factory params = .ok pending ∧
      (∃ core, pending.resolve = .ok core ∧ open scoped Classical in
        ∀ c, (readProgram F).RunIn (answeredBy server)
          (RequestResult.init core pending.queryResult.tracingId) c →
        (∀ a ∈ c.shared.answers, a.2 = a.1.expected (page :: following).flatten) ∧
        ∀ p ∈ c.threads, p.AnswersAfter server (p.kind.expected (page :: following).flatten)
          (span page following + 4)) ∧
      ∃ set, (PyResponseFuture.spawn (.ok pending)).result = some (.ok set) ∧
        ∃ n, ∀ fuel > n,
          (∃ after, set.all (fun _ => server.reply) fuel =
            some (.ok (page :: following).flatten, after)) ∧
          ∃ after, set.list (fun _ => server.reply) fuel =
            some (.ok (page :: following).flatten, after) := by
  obtain ⟨pending, hexecute, rfl, hyields, hserves⟩ := execute_of_serves h
  refine ⟨pending, hexecute, ?_, ?_⟩
  · obtain ⟨core, hcore, hfactory, hpager, hpage⟩ :=
      PageCore.new_of_yields hyields pending.queryPager
    refine ⟨core, hcore, ?_⟩
    intro c hc
    have hfollowing : core.queryPager.Serves server core.rowFactory following := by
      rw [hpager, hfactory]
      exact hserves
    have hinit : ReadsSound server core (page ++ following.flatten) (span page following + 4)
        (RequestResult.init core pending.queryResult.tracingId) :=
      ⟨rfl, fun a ha => absurd ha (List.not_mem_nil), fun p hp => absurd hp (Multiset.notMem_zero p)⟩
    have hsound := reads_sound hpage hfollowing hinit hc
    refine ⟨hsound.answers, ?_⟩
    intro p hp
    obtain ⟨m, hm, howes⟩ := hsound.threads p hp
    exact howes.answersAfter hm
  · obtain ⟨set, hset, hmode, -, hreading⟩ := PyResponseFuture.result_of_yields hyields hserves
    refine ⟨set, hset, (page ++ following.flatten).length + following.length + 1, ?_⟩
    intro fuel hfuel
    obtain ⟨-, hfresh⟩ := hreading.restart hmode
    obtain ⟨after, -, hdrain, -⟩ := PyResultSet.drain_spec hfresh hfuel []
    rw [List.nil_append, ← List.flatten_cons] at hdrain
    refine ⟨⟨after, ?_⟩, after, ?_⟩
    · simpa only [PyResultSet.all, PyResultSet.drainFromStart, hmode] using hdrain
    · simpa only [PyResultSet.list, hmode] using hdrain

/-- Paging states, raw rows and rows are numbers, and a row is its raw row. -/
abbrev numbers : Foreign := ⟨Nat, Unit, Unit, Nat, Nat⟩

def numbersFactory : PyRowFactory numbers := ⟨fun _ => .ok ⟨fun row => .ok row⟩⟩

/-- A page of two rows, a result without rows, an empty page, and a last row. -/
def fourPages : Server numbers where
  unpaged _ := ⟨none, none⟩
  page _
    | 0 => (⟨some ([()], [.ok 1, .ok 2]), none⟩, .hasMorePages 1)
    | 1 => (⟨none, none⟩, .hasMorePages 2)
    | 2 => (⟨some ([()], []), none⟩, .hasMorePages 3)
    | _ => (⟨some ([()], [.ok 3]), none⟩, .noMorePages)

def fromStart : ExecutionParams numbers := .paged () (0 : Nat)

theorem fourPages_serves : fromStart.Serves fourPages numbersFactory [1, 2] [[], [], [3]] := by
  have hrow : ∀ row : Nat, RowBuilder.Builds (⟨fun row => .ok row⟩ : RowBuilder numbers)
      (.ok row) row := fun row => ⟨row, rfl, rfl⟩
  have hfirst : (fourPages.page () (0 : Nat)).1.Yields numbersFactory [1, 2] :=
    ⟨_, rfl, .cons (hrow 1) (.cons (hrow 2) .nil)⟩
  have hnonRows : (fourPages.page () (1 : Nat)).1.Yields numbersFactory [] := rfl
  have hempty : (fourPages.page () (2 : Nat)).1.Yields numbersFactory [] := ⟨_, rfl, .nil⟩
  have hlast : (fourPages.page () (3 : Nat)).1.Yields numbersFactory [3] :=
    ⟨_, rfl, .cons (hrow 3) .nil⟩
  exact .next hfirst (.next hnonRows (.next hempty (.next hlast .last)))

theorem reads_agree_four_pages :
    fromStart.Serves fourPages numbersFactory [1, 2] [[], [], [3]] ∧
    ∃ pending, fourPages.session.execute numbersFactory fromStart = .ok pending ∧
      ∃ set, (PyResponseFuture.spawn (.ok pending)).result = some (.ok set) ∧
        ∃ n, ∀ fuel > n, ∃ after,
          set.all (fun _ => fourPages.reply) fuel = some (.ok [1, 2, 3], after) := by
  obtain ⟨pending, hexecute, -, set, hset, n, hn⟩ := reads_agree fourPages_serves
  exact ⟨fourPages_serves, pending, hexecute, set, hset, n, fun fuel hfuel => (hn fuel hfuel).1⟩

end ScyllaDriver
