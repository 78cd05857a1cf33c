import ScyllaDriver.ResultSet

/-! Reading a legacy `ResultSet` to its end. A future is positioned when its last
page received is the one its pager goes on from; a request that fails leaves it
positioned where it was. -/

namespace ScyllaDriver

variable {F : Foreign} {server : Server F} {factory : PyRowFactory F}

theorem ResponseShared.complete_request (s : ResponseShared) (outcome : Except PyErr ResponsePage) :
    (s.complete outcome).1.request = s.request.settle outcome (s.unfiredFor outcome) := by
  rw [s.complete_eq]
  split <;> rfl

theorem ResponseShared.complete_nextResult (s : ResponseShared)
    (outcome : Except PyErr ResponsePage) : (s.complete outcome).1.nextResult = s.nextResult := by
  rw [s.complete_eq]
  split <;> rfl

theorem RequestState.settle_error_lastPage (request : RequestState) (err : PyErr)
    (unfired : Option Callbacks) :
    (request.settle (.error err) unfired).lastPage = request.lastPage := rfl

theorem buildRows_of_yields {page : PendingRequestResult F} {list : List F.Row}
    (h : page.queryResult.Yields page.factory list) :
    ∃ rows, buildRows page = .ok rows ∧ rows.getD [] = list := by
  obtain ⟨resolved, hresolved, hrows⟩ := ResolvedPage.new_of_yields h
  simp only [buildRows, hresolved]
  cases resolved with
  | nonRows queryResult =>
    refine ⟨none, rfl, ?_⟩
    exact hrows.symm
  | rows queryResult builder hsome =>
    obtain ⟨rest, hdrain, -⟩ := drainPage_of_yields hrows []
    refine ⟨some list, ?_, rfl⟩
    simp only [pageRows, hdrain]
    rfl

namespace PyResponseFuture

variable {future : PyResponseFuture F} {following : List (List F.Row)}

/-- `pending` is the last page received, and the request after it is not in flight. -/
structure At (future : PyResponseFuture F) (pending : PendingRequestResult F) : Prop where
  settled : future.inner.request.isPending = false
  lastPage : ∃ page, future.inner.request.lastPage = some page ∧
    future.received[page.queryResult]? = some pending ∧
    page.hasMorePages = pending.queryPager.hasMorePages
  newest : future.received.getLast? = some pending
  /-- The next `QueryResult` gets an identity of its own. -/
  fresh : future.received.length = future.inner.nextResult

theorem At.hasMorePages {pending : PendingRequestResult F} (h : future.At pending) :
    future.hasMorePages = pending.queryPager.hasMorePages := by
  obtain ⟨page, hlast, _, hmore⟩ := h.lastPage
  simp only [PyResponseFuture.hasMorePages, ResponseShared.hasMorePages, hlast, hmore]

theorem At.lastPage_eq {pending : PendingRequestResult F} (h : future.At pending) :
    PyResponseFuture.lastPage future = some pending := by
  obtain ⟨page, hlast, hreceived, _⟩ := h.lastPage
  simp only [PyResponseFuture.lastPage, hlast, Option.bind_some, hreceived]

theorem At.pagingState {pending : PendingRequestResult F} (h : future.At pending) :
    future.pagingState = pending.queryPager.pagingState := by
  simp only [PyResponseFuture.pagingState, h.lastPage_eq, Option.bind_some]

theorem settle_ok (hfresh : future.received.length = future.inner.nextResult)
    (page : PendingRequestResult F) :
    (future.settle (.ok page)).At page ∧
    ∃ current unfired, (future.settle (.ok page)).inner.request = .received current none unfired := by
  set arrived : ResponsePage :=
    ⟨future.inner.nextResult, page.queryPager.hasMorePages, page.queryResult.tracingId⟩
  have hrequest : (future.settle (.ok page)).inner.request =
      .received arrived none (ResponseShared.unfiredFor _ (.ok arrived)) :=
    ResponseShared.complete_request _ _
  have hreceived : (future.settle (.ok page)).received[arrived.queryResult]? = some page := by
    simp only [settle, arrived, ← hfresh, List.getElem?_concat_length]
  have hnext : (future.settle (.ok page)).inner.nextResult = future.inner.nextResult + 1 :=
    ResponseShared.complete_nextResult _ _
  refine ⟨⟨?_, ⟨arrived, ?_, hreceived, rfl⟩, ?_, ?_⟩, arrived, _, hrequest⟩
  · rw [hrequest]
    rfl
  · rw [hrequest]
    rfl
  · simp [settle]
  · rw [hnext, ← hfresh]
    simp [settle]

theorem settle_error {pending : PendingRequestResult F} {page : ResponsePage} (err : PyErr)
    (hlast : future.inner.request.lastPage = some page)
    (hreceived : future.received[page.queryResult]? = some pending)
    (hmore : page.hasMorePages = pending.queryPager.hasMorePages)
    (hnewest : future.received.getLast? = some pending)
    (hfresh : future.received.length = future.inner.nextResult) :
    (future.settle (.error err)).At pending ∧
    (future.settle (.error err)).inner.request.rows = some (.built (.error err)) := by
  have hrequest : (future.settle (.error err)).inner.request =
      future.inner.request.settle (.error err) (future.inner.unfiredFor (.error err)) :=
    ResponseShared.complete_request _ _
  have hnext : (future.settle (.error err)).inner.nextResult = future.inner.nextResult :=
    ResponseShared.complete_nextResult _ _
  refine ⟨⟨?_, ⟨page, ?_, hreceived, hmore⟩, hnewest, ?_⟩, ?_⟩
  · rw [hrequest, RequestState.settle_isPending]
  · rw [hrequest, RequestState.settle_error_lastPage, hlast]
  · rw [hnext]
    exact hfresh
  · rw [hrequest]
    rfl

/-- Building the rows of a page allocates at most one list, which holds them. -/
theorem build_of_yields {pending : PendingRequestResult F} {queryResult : Nat}
    {list : List F.Row} (hreceived : future.received[queryResult]? = some pending)
    (hyields : pending.queryResult.Yields pending.factory list) :
    ∃ built lists rows, future.build queryResult = (built, { future with lists := lists }) ∧
      contents { future with lists := lists } built = .ok rows ∧ rows.getD [] = list := by
  obtain ⟨rows, hbuild, hlist⟩ := buildRows_of_yields hyields
  simp only [build, hreceived, Option.map_some, hbuild]
  cases rows with
  | none => exact ⟨.ok none, future.lists, none, rfl, rfl, hlist⟩
  | some list' =>
    refine ⟨.ok (some (future.lists.length + 1)), future.lists ++ [list'], some list', rfl, ?_, hlist⟩
    simp [contents]

theorem waitRows_of_toBuild {pending : PendingRequestResult F} {current : ResponsePage}
    {unfired : Option Callbacks} {list : List F.Row} (hat : future.At pending)
    (hrequest : future.inner.request = .received current none unfired)
    (hyields : pending.queryResult.Yields pending.factory list) :
    ∃ rows after, future.waitRows = some (.ok rows, after) ∧ rows.getD [] = list ∧
      after.At pending ∧ after.failed = future.failed ∧ after.sent = future.sent := by
  obtain ⟨page, hlast, hreceived, hmore⟩ := hat.lastPage
  obtain rfl : current = page := by
    rw [hrequest] at hlast
    exact Option.some.inj hlast
  obtain ⟨built, lists, rows, hbuild, hcontents, hlist⟩ := build_of_yields hreceived hyields
  have hrows : future.inner.request.rows = some (.toBuild current) := by
    rw [hrequest]
    rfl
  have hstore : future.inner.request.storeRows current.queryResult built =
      (.received current (some built) unfired, built) := by
    simp [hrequest, RequestState.storeRows]
  set inner : ResponseShared := { future.inner with
    built := future.inner.built ++ [(current.queryResult, built)] }
  have hinner : (inner.storeRows current built .result).1.request =
      .received current (some built) unfired := by
    simp only [inner, ResponseShared.storeRows, ResponseShared.deliver_eq, hstore]
  refine ⟨rows, { future with lists := lists, inner := (inner.storeRows current built .result).1 },
    ?_, hlist, ⟨?_, ⟨current, ?_, hreceived, hmore⟩, hat.newest, ?_⟩, rfl, rfl⟩
  · simp only [waitRows, hrows, hbuild, hstore, hcontents]
    rfl
  · rw [hinner]
    rfl
  · rw [hinner]
    rfl
  · simpa only [ResponseShared.storeRows, ResponseShared.deliver_eq] using hat.fresh

theorem waitRows_of_error {pending : PendingRequestResult F} {err : PyErr} (hat : future.At pending)
    (hrows : future.inner.request.rows = some (.built (.error err))) :
    ∃ after, future.waitRows = some (.error err, after) ∧ after.At pending ∧
      after.failed = future.failed ∧ after.sent = future.sent := by
  refine ⟨{ future with inner := (future.inner.deliver (.error err) .result).1 }, ?_, ?_, rfl, rfl⟩
  · simp only [waitRows, hrows, contents]
  · rw [ResponseShared.deliver_eq]
    exact ⟨hat.settled, hat.lastPage, hat.newest, hat.fresh⟩

theorem startFetchingNextPage_of_more {pending : PendingRequestResult F} (hat : future.At pending)
    (hmore : pending.queryPager.hasMorePages = true) (net : Network F) :
    future.startFetchingNextPage net =
      (.ok (), { future with inner := future.inner.startFetchingNextPage.1 }.settle
        (future.nextPage net pending)) := by
  simp only [startFetchingNextPage, hat.settled, Bool.false_eq_true, if_false, hat.lastPage_eq,
    hmore, if_true]

theorem At.started {pending : PendingRequestResult F} (hat : future.At pending) :
    future.inner.startFetchingNextPage.1.request.lastPage = future.inner.request.lastPage ∧
    future.inner.startFetchingNextPage.1.nextResult = future.inner.nextResult := by
  simp only [ResponseShared.startFetchingNextPage, hat.settled, Bool.false_eq_true, if_false]
  split <;> exact ⟨rfl, rfl⟩

end PyResponseFuture

/-- Every request is answered by the server or fails. -/
def Network.MayFail (server : Server F) (net : Network F) : Prop :=
  ∀ k prepared state, net k prepared state = server.reply prepared state ∨
    ∃ err, net k prepared state = .error err

/-- The `k`-th request fails with `err`. -/
def Network.Fails (net : Network F) (k : Nat) (err : PyErr) : Prop :=
  ∃ prepared state source, net k prepared state = .error source ∧ err = source.toPyErr

theorem PyResponseFuture.nextPage_of_serves {pending : PendingRequestResult F} {net : Network F}
    {page : List F.Row} {following : List (List F.Row)} (future : PyResponseFuture F)
    (hnet : net.MayFail server)
    (hserves : pending.queryPager.Serves server pending.factory (page :: following)) :
    (∃ next, future.nextPage net pending = .ok next ∧ next.factory = pending.factory ∧
      next.queryResult.Yields pending.factory page ∧
      next.queryPager.Serves server pending.factory following) ∨
    ∃ err, net.Fails future.sent err ∧ future.nextPage net pending = .error err := by
  obtain ⟨queryResult, pager, rowFactory⟩ := pending
  cases hserves with
  | @next prepared state _ _ hpage hpages =>
    rcases hnet future.sent prepared state with hreply | ⟨source, hreply⟩
    · refine .inl ⟨⟨(server.page prepared state).1, _, rowFactory⟩, ?_, rfl, hpage, hpages⟩
      simp only [nextPage, Pager.fetchNextPendingPage, Pager.fetchNextPage, hreply, Server.reply]
    · refine .inr ⟨source.toPyErr, ⟨prepared, state, source, hreply, rfl⟩, ?_⟩
      simp only [nextPage, Pager.fetchNextPendingPage, Pager.fetchNextPage, hreply]

namespace PyResultSet

variable {net : Network F} {set : PyResultSet F} {pending : PendingRequestResult F}
  {page current : List F.Row} {following : List (List F.Row)}

/-- The page after the current one: it arrives, or its request fails and the set
stays as it was. -/
theorem fetchPage_of_serves (hat : set.future.At pending) (hnet : net.MayFail server)
    (hserves : pending.queryPager.Serves server pending.factory (page :: following)) :
    ∃ future, future.sent = set.future.sent + 1 ∧
      ((∃ next, set.fetchPage net = some (.ok page, { set with future := future }) ∧
        future.At next ∧ next.factory = pending.factory ∧
        next.queryPager.Serves server pending.factory following ∧
        future.failed = set.future.failed) ∨
      ∃ err, net.Fails set.future.sent err ∧
        set.fetchPage net = some (.error err, { set with future := future }) ∧
        future.At pending ∧ future.failed = set.future.failed ++ [err]) := by
  have hstart := PyResponseFuture.startFetchingNextPage_of_more hat hserves.hasMorePages_cons net
  obtain ⟨hlast, hnext⟩ := hat.started
  set started : PyResponseFuture F :=
    { set.future with inner := set.future.inner.startFetchingNextPage.1 }
  have hfresh : started.received.length = started.inner.nextResult := hat.fresh.trans hnext.symm
  rcases set.future.nextPage_of_serves hnet hserves with
    ⟨next, hpage, hfactory, hyields, hserved⟩ | ⟨err, hfails, hpage⟩
  · obtain ⟨hsettled, cur, unfired, hrequest⟩ := PyResponseFuture.settle_ok hfresh next
    obtain ⟨rows, future, hwait, hrows, hafter, hfailed, hsent⟩ :=
      PyResponseFuture.waitRows_of_toBuild hsettled hrequest (hfactory.symm ▸ hyields)
    refine ⟨future, hsent, .inl ⟨next, ?_, hafter, hfactory, hserved, hfailed⟩⟩
    simp only [fetchPage, hstart, hpage, hwait, ← hrows]
    rfl
  · obtain ⟨cur, hcur, hpending, hmore⟩ := hat.lastPage
    have hcur' : started.inner.request.lastPage = some cur := hlast.trans hcur
    obtain ⟨hsettled, hrows⟩ :=
      PyResponseFuture.settle_error err hcur' hpending hmore hat.newest hfresh
    obtain ⟨future, hwait, hafter, hfailed, hsent⟩ :=
      PyResponseFuture.waitRows_of_error hsettled hrows
    refine ⟨future, hsent, .inr ⟨err, hfails, ?_, hafter, hfailed⟩⟩
    simp only [fetchPage, hstart, hpage, hwait]
    rfl

/-- The index of the next row to yield. -/
def position (set : PyResultSet F) : Option Nat :=
  match set.mode with
  | .notStarted => some 0
  | .iterating position => some position
  | .list => none

/-- The set still has to yield `current`, then the pages that follow. -/
structure Reading (server : Server F) (factory : PyRowFactory F) (set : PyResultSet F)
    (pending : PendingRequestResult F) (current : List F.Row) (following : List (List F.Row)) :
    Prop where
  last : set.future.At pending
  sameFactory : pending.factory = factory
  serves : pending.queryPager.Serves server factory following
  position : ∃ position, set.position = some position ∧ set.currentRows.drop position = current

/-- What one call of `next()` comes to. -/
inductive RowOutcome (net : Network F) (todo todo' : List F.Row) (pages' : List (List F.Row))
    (before after : PyResponseFuture F) : Except PyErr (Option F.Row) → Prop
  | row {row : F.Row} (htodo : todo = row :: todo') (hfailed : after.failed = before.failed) :
    RowOutcome net todo todo' pages' before after (.ok (some row))
  | ended (htodo : todo = []) (htodo' : todo' = []) (hpages : pages' = [])
      (hfailed : after.failed = before.failed) :
    RowOutcome net todo todo' pages' before after (.ok none)
  | raised {err : PyErr} {k : Nat} (hfails : net.Fails k err) (hk : before.sent ≤ k)
      (hk' : k < after.sent) (htodo : todo' = todo) (hfailed : after.failed = before.failed ++ [err]) :
    RowOutcome net todo todo' pages' before after (.error err)

/-- A request that succeeded before does not change what the call comes to. -/
theorem RowOutcome.of_later {todo todo' : List F.Row} {pages' : List (List F.Row)}
    {before between after : PyResponseFuture F} {result : Except PyErr (Option F.Row)}
    (h : RowOutcome net todo todo' pages' between after result)
    (hfailed : between.failed = before.failed) (hsent : between.sent = before.sent + 1) :
    RowOutcome net todo todo' pages' before after result := by
  cases h with
  | row htodo h => exact .row htodo (h.trans hfailed)
  | ended htodo htodo' hpages h => exact .ended htodo htodo' hpages (h.trans hfailed)
  | raised hfails hk hk' htodo h => exact .raised hfails (by omega) hk' htodo (by rw [h, hfailed])

theorem step_eq_stepAt {position : Nat} (h : set.position = some position) :
    set.step = .ok (set.stepAt position) := by
  obtain ⟨future, rows, mode⟩ := set
  cases mode with
  | list => cases h
  | _ => cases h; rfl

theorem Reading.nextRow_row {row : F.Row}
    (h : Reading server factory set pending (row :: current) following) (net : Network F)
    (fuel : Nat) :
    ∃ after, set.nextRow net (fuel + 1) = some (.ok (some row), after) ∧
      Reading server factory after pending current following ∧ after.future = set.future ∧
      after.currentRows = set.currentRows := by
  obtain ⟨position, hposition, hdrop⟩ := h.position
  have hget : set.currentRows[position]? = some row := by
    rw [← List.head?_drop, hdrop, List.head?_cons]
  have hrest : set.currentRows.drop (position + 1) = current := by
    rw [← List.tail_drop, hdrop, List.tail_cons]
  refine ⟨{ set with mode := .iterating (position + 1) }, ?_,
    ⟨h.last, h.sameFactory, h.serves, _, rfl, hrest⟩, rfl, rfl⟩
  simp only [nextRow, step_eq_stepAt hposition, stepAt, hget]

/-- At the end of the current page the set asks its future whether more follow. -/
theorem Reading.step_nil (h : Reading server factory set pending [] following) :
    ∃ position, set.currentRows.drop position = [] ∧
      set.step = .ok (if set.future.hasMorePages
        then (.fetchPage, { set with mode := .iterating position })
        else (.ended, set.startPage [])) := by
  obtain ⟨position, hposition, hdrop⟩ := h.position
  have hget : set.currentRows[position]? = none := by
    rw [← List.head?_drop, hdrop, List.head?_nil]
  exact ⟨position, hdrop, by simp only [step_eq_stepAt hposition, stepAt, hget]⟩

theorem Reading.nextRow_ended (h : Reading server factory set pending [] []) (net : Network F)
    (fuel : Nat) :
    set.nextRow net (fuel + 1) = some (.ok none, set.startPage []) ∧
      Reading server factory (set.startPage []) pending [] [] := by
  obtain ⟨position, -, hstep⟩ := h.step_nil
  rw [h.last.hasMorePages, h.serves.hasMorePages_nil] at hstep
  refine ⟨?_, h.last, h.sameFactory, h.serves, 0, rfl, rfl⟩
  simp only [nextRow, hstep]
  rfl

theorem nextRow_spec (hnet : net.MayFail server)
    (h : Reading server factory set pending current following) {fuel : Nat}
    (hfuel : following.length < fuel) :
    ∃ result after pending' current' following', set.nextRow net fuel = some (result, after) ∧
      Reading server factory after pending' current' following' ∧
      following'.length ≤ following.length ∧
      after.currentRows.length + following'.flatten.length ≤
        set.currentRows.length + following.flatten.length ∧
      set.future.sent ≤ after.future.sent ∧
      RowOutcome net (current ++ following.flatten) (current' ++ following'.flatten) following'
        set.future after.future result := by
  -- The loop goes round once for each page without rows.
  induction following generalizing set pending current fuel with
  | nil =>
    obtain ⟨fuel, rfl⟩ := Nat.exists_eq_succ_of_ne_zero (by omega : fuel ≠ 0)
    cases current with
    | cons row current =>
      obtain ⟨after, hnext, hafter, hfuture, hrows⟩ := h.nextRow_row net fuel
      exact ⟨_, after, _, _, _, hnext, hafter, le_rfl, by rw [hrows], by rw [hfuture],
        .row rfl (by rw [hfuture])⟩
    | nil =>
      obtain ⟨hnext, hafter⟩ := h.nextRow_ended net fuel
      exact ⟨.ok none, set.startPage [], pending, [], [], hnext, hafter, le_rfl,
        by simp [startPage], le_rfl, .ended rfl rfl rfl rfl⟩
  | cons page following ih =>
    obtain ⟨fuel, rfl⟩ := Nat.exists_eq_succ_of_ne_zero (by omega : fuel ≠ 0)
    cases current with
    | cons row current =>
      obtain ⟨after, hnext, hafter, hfuture, hrows⟩ := h.nextRow_row net fuel
      exact ⟨_, after, _, _, _, hnext, hafter, le_rfl, by rw [hrows], by rw [hfuture],
        .row rfl (by rw [hfuture])⟩
    | nil =>
      obtain ⟨position, hdrop, hstep⟩ := h.step_nil
      rw [h.last.hasMorePages, h.serves.hasMorePages_cons, if_pos rfl] at hstep
      have hwaiting : { set with mode := .iterating position }.future.At pending := h.last
      obtain ⟨future, hsent, ⟨next, hfetch, hlast, hfactory, hserved, hfailed⟩ |
        ⟨err, hfails, hfetch, hlast, hfailed⟩⟩ :=
        fetchPage_of_serves hwaiting hnet (h.sameFactory.symm ▸ h.serves)
      · have hreading : Reading server factory
            (startPage { set with mode := .iterating position, future := future } page) next page
            following :=
          ⟨hlast, hfactory.trans h.sameFactory, h.sameFactory ▸ hserved, 0, rfl, rfl⟩
        obtain ⟨result, after, pending', current', following', hnext, hafter, hlen, hbound,
          hmono, houtcome⟩ := ih hreading (Nat.lt_of_succ_lt_succ hfuel)
        have hmono' : set.future.sent + 1 ≤ after.future.sent := hsent.symm.le.trans hmono
        refine ⟨result, after, pending', current', following', ?_, hafter, hlen.trans (by simp), ?_,
          by omega, ?_⟩
        · simp only [nextRow, hstep, hfetch]
          exact hnext
        · simp only [startPage] at hbound
          simp only [List.flatten_cons, List.length_append]
          omega
        · exact houtcome.of_later hfailed hsent
      · refine ⟨.error err, { set with mode := .iterating position, future := future }, pending, [],
          page :: following, ?_, ⟨hlast, h.sameFactory, h.serves, position, rfl, hdrop⟩, le_rfl,
          le_rfl, hsent.symm ▸ Nat.le_succ _, .raised hfails le_rfl (hsent.symm ▸ Nat.lt_succ_self _) rfl
            hfailed⟩
        simp only [nextRow, hstep, hfetch]

theorem drain_spec (h : Reading server factory set pending current following) {fuel : Nat}
    (hfuel : (current ++ following.flatten).length + following.length + 1 < fuel)
    (rows : List F.Row) :
    ∃ after last, set.drain (fun _ => server.reply) fuel rows =
        some (.ok (rows ++ (current ++ following.flatten)), after) ∧
      Reading server factory after last [] [] ∧
      after.currentRows.length ≤ set.currentRows.length + following.flatten.length := by
  have hnet : Network.MayFail server (fun _ => server.reply) := fun _ _ _ => .inl rfl
  -- One call of `next()` per row, and the one that ends it.
  induction hn : (current ++ following.flatten).length
    generalizing set pending current following fuel rows with
  | zero =>
    obtain ⟨fuel, rfl⟩ := Nat.exists_eq_succ_of_ne_zero (by omega : fuel ≠ 0)
    obtain ⟨result, after, last, _, _, hnext, hafter, _, hbound, _, houtcome⟩ :=
      nextRow_spec hnet h (by omega : following.length < fuel)
    have htodo := List.length_eq_zero_iff.mp hn
    cases houtcome with
    | row hrow => exact absurd (htodo.symm.trans hrow) (by simp)
    | ended _ htodo' hpages =>
      subst hpages
      obtain rfl := (List.append_eq_nil_iff.mp htodo').1
      exact ⟨after, last, by simp only [drain, hnext, htodo, List.append_nil], hafter, hbound⟩
    | raised hfails => obtain ⟨_, _, _, hreply, _⟩ := hfails; cases hreply
  | succ n ih =>
    obtain ⟨fuel, rfl⟩ := Nat.exists_eq_succ_of_ne_zero (by omega : fuel ≠ 0)
    obtain ⟨result, after, pending', current', following', hnext, hafter, hlen, hbound, _,
      houtcome⟩ :=
      nextRow_spec hnet h (by omega : following.length < fuel)
    cases houtcome with
    | @row row hrow =>
      have hn' : (current' ++ following'.flatten).length = n := by
        rw [hrow] at hn
        exact Nat.succ.inj hn
      have hfuel' : (current' ++ following'.flatten).length + following'.length + 1 < fuel := by
        omega
      obtain ⟨final, last, hdrain, hend, hfinal⟩ := ih hafter hfuel' (rows ++ [row]) hn'
      refine ⟨final, last, ?_, hend, hfinal.trans hbound⟩
      simp only [drain, hnext, hdrain, hrow, List.append_assoc, List.cons_append, List.nil_append]
    | ended htodo => rw [htodo] at hn; cases hn
    | raised hfails => obtain ⟨_, _, _, hreply, _⟩ := hfails; cases hreply

/-- Starting the current page again. -/
theorem Reading.restart (h : Reading server factory set pending current following)
    (hmode : set.mode = .notStarted) :
    set.currentRows = current ∧
      Reading server factory { set with mode := .iterating 0 } pending current following := by
  obtain ⟨position, hposition, hdrop⟩ := h.position
  have hstart : set.position = some 0 := by simp only [PyResultSet.position, hmode]
  obtain rfl : position = 0 := Option.some.inj (hposition.symm.trans hstart)
  exact ⟨hdrop, h.last, h.sameFactory, h.serves, 0, rfl, hdrop⟩

end PyResultSet

section Run

variable {future after : PyResponseFuture F} (T : Multiset ResponsePc)

theorem startFetchingNextPage_run {s : ResponseShared} (hsettled : s.request.isPending = false)
    (hmore : s.hasMorePages = true) :
    responseProgram.Run ⟨s, T⟩ ⟨s.startFetchingNextPage.1, .request false ::ₘ T⟩ := by
  have hspawn : s.startFetchingNextPage = (s.startFetchingNextPage.1, [.spawn]) := by
    simp [ResponseShared.startFetchingNextPage, hsettled, hmore]
  have harrives : responseProgram.env s .startFetchingNextPage =
      some (s, [.startFetchingNextPage]) := rfl
  have hstarts : responseProgram.step s .startFetchingNextPage .go =
      some (s.startFetchingNextPage.1, [.spawn]) := congrArg some hspawn
  have hspawns : responseProgram.step s.startFetchingNextPage.1 .spawn .go =
      some (s.startFetchingNextPage.1, [.request false]) := rfl
  exact (Program.run_env harrives).trans ((Program.run_thread hstarts).trans
    (Program.run_thread hspawns))

theorem PyResponseFuture.settle_run (future : PyResponseFuture F)
    (outcome : Except PyErr (PendingRequestResult F)) :
    ∃ woken : Multiset ResponsePc, responseProgram.Run ⟨future.inner, .request false ::ₘ T⟩
      ⟨(future.settle outcome).inner, woken + T⟩ := by
  cases outcome with
  | ok page =>
    have hreceives : responseProgram.step future.inner (.request false)
        (.receives page.queryPager.hasMorePages page.queryResult.tracingId) =
      some ({ future.inner with nextResult := future.inner.nextResult + 1 },
        [.complete (.ok ⟨future.inner.nextResult, page.queryPager.hasMorePages,
          page.queryResult.tracingId⟩)]) := rfl
    exact ⟨_, (Program.run_thread hreceives).trans (Program.run_thread (e := .go) rfl)⟩
  | error err =>
    have hfails : responseProgram.step future.inner (.request false) (.fails err) =
      some (future.inner, [.complete (.error err)]) := rfl
    exact ⟨_, (Program.run_thread hfails).trans (Program.run_thread (e := .go) rfl)⟩

theorem PyResponseFuture.waitRows_run {rows : Except PyErr (Option (List F.Row))}
    (h : future.waitRows = some (rows, after)) :
    responseProgram.Run ⟨future.inner, T⟩ ⟨after.inner, T⟩ := by
  have harrives : responseProgram.env future.inner .result = some (future.inner, [.waitRows]) := rfl
  refine (Program.run_env harrives).trans ?_
  cases hrows : future.inner.request.rows with
  | none => simp only [waitRows, hrows] at h; cases h
  | some pageRows =>
    have hreads : responseProgram.step future.inner .waitRows .go =
        some (future.inner, [.buildRows pageRows .result]) := by
      simp only [responseProgram, responseStep, ResponseShared.waitRows, hrows]
    refine (Program.run_thread hreads).trans ?_
    cases pageRows with
    | built built =>
      simp only [waitRows, hrows] at h
      cases h
      have hdelivers : responseProgram.step future.inner (.buildRows (.built built) .result) .go =
          some ((future.inner.deliver built .result).1, []) := rfl
      simpa using Program.run_thread hdelivers
    | toBuild page =>
      simp only [waitRows, hrows] at h
      obtain ⟨-, rfl⟩ := Prod.mk.inj (Option.some.inj h)
      have hinner : (future.build page.queryResult).2.inner = future.inner := by
        simp only [build]
        split <;> rfl
      set built := (future.build page.queryResult).1
      have hbuilds : responseProgram.step future.inner (.buildRows (.toBuild page) .result)
          (.built built) = some ({ future.inner with
            built := future.inner.built ++ [(page.queryResult, built)] },
            [.storeRows page built .result]) := rfl
      refine (Program.run_thread hbuilds).trans ?_
      have hstores : ∀ s, responseProgram.step s (.storeRows page built .result) .go =
          some ((s.storeRows page built .result).1, []) := fun _ => rfl
      simpa [hinner] using Program.run_thread (hstores _)

/-- What `fetch_page` does to the future is one interleaving of its threads,
whatever other threads there are. -/
theorem PyResultSet.fetchPage_run {set after : PyResultSet F} {pending : PendingRequestResult F}
    {net : Network F} {result : Except PyErr (List F.Row)} (hat : set.future.At pending)
    (hmore : pending.queryPager.hasMorePages = true)
    (h : set.fetchPage net = some (result, after)) :
    ∃ woken : Multiset ResponsePc,
      responseProgram.Run ⟨set.future.inner, T⟩ ⟨after.future.inner, woken + T⟩ := by
  have hstart := PyResponseFuture.startFetchingNextPage_of_more hat hmore net
  simp only [fetchPage, hstart, Option.bind_eq_bind, Option.bind_eq_some_iff] at h
  obtain ⟨⟨rows, future⟩, hwait, hresult⟩ := h
  cases hresult
  have hrun := startFetchingNextPage_run T hat.settled (hat.hasMorePages.trans hmore)
  obtain ⟨woken, hsettle⟩ := PyResponseFuture.settle_run T
    { set.future with inner := set.future.inner.startFetchingNextPage.1 }
    (set.future.nextPage net pending)
  exact ⟨woken, hrun.trans (hsettle.trans (PyResponseFuture.waitRows_run (woken + T) hwait))⟩

end Run

/-- `result()` once the first page arrived: a set with all the rows still to yield. -/
theorem PyResponseFuture.result_of_yields {pending : PendingRequestResult F} {page : List F.Row}
    {following : List (List F.Row)} (hyields : pending.queryResult.Yields pending.factory page)
    (hserves : pending.queryPager.Serves server pending.factory following) :
    ∃ set, (PyResponseFuture.spawn (.ok pending)).result = some (.ok set) ∧
      set.mode = .notStarted ∧ set.future.failed = [] ∧
      set.Reading server pending.factory pending page following := by
  have hfresh : (⟨.new, [], [], 0, []⟩ : PyResponseFuture F).received.length =
      ResponseShared.new.nextResult := rfl
  obtain ⟨hat, cur, unfired, hrequest⟩ := settle_ok hfresh pending
  obtain ⟨rows, future, hwait, hrows, hafter, hfailed, -⟩ :=
    waitRows_of_toBuild hat hrequest hyields
  refine ⟨.new future rows, ?_, rfl, hfailed, hafter, rfl, hserves, 0, rfl, hrows⟩
  rw [PyResponseFuture.result, PyResponseFuture.spawn, hwait]
  rfl

end ScyllaDriver
