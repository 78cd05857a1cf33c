import Mathlib.Algebra.Ring.Nat
import ScyllaDriver.Reads

/-! Every read of a `RequestResult` answers with the rows of all its pages, in the
order the server sends them, however the reads interleave. `Owes` says what a
read under way still has to collect and bounds the steps it takes for it. -/

namespace ScyllaDriver

variable {F : Foreign} {server : Server F} {rows : List F.Row}

def ReadKind.expected (rows : List F.Row) : ReadKind → Answer F
  | .firstRow => .row rows.head?
  | _ => .rows rows

/-- Steps enough to read the current page and those that follow. -/
def span (current : List F.Row) (following : List (List F.Row)) : Nat :=
  4 * (current.length + (following.map fun page => page.length + 1).sum)

theorem span_cons_current (row : F.Row) (current : List F.Row) (following : List (List F.Row)) :
    span (row :: current) following = span current following + 4 := by
  simp only [span, List.length_cons]
  omega

theorem span_cons_following (page : List F.Row) (following : List (List F.Row)) :
    span [] (page :: following) = span page following + 4 := by
  simp only [span, List.length_nil, List.map_cons, List.sum_cons]
  omega

theorem span_nil_le (current : List F.Row) (following : List (List F.Row)) :
    span [] following ≤ span current following := by
  simp only [span, List.length_nil]
  omega

/-- What an iterator will yield: the rest of its page, or the page it is about to
switch to, then the pages its pager serves. -/
structure AsyncIteratorState.Holds (server : Server F) (state : AsyncIteratorState F)
    (nextPage : Option (QueryResult F)) (current : List F.Row) (following : List (List F.Row)) :
    Prop where
  current : match nextPage with
    | none => state.rowsIterator.Yields current
    | some page => page.Yields state.factory current
  following : state.queryPager.Serves server state.factory following

def RowCaller.Owes (rows todo : List F.Row) : RowCaller F → Prop
  | .firstRow => rows.head? = todo.head?
  | .rows list => rows = list ++ todo

structure PagesState.Holds (server : Server F) (state : PagesState F)
    (following : List (List F.Row)) : Prop where
  firstPage : state.firstPage = none
  finished : state.finished = false
  following : state.queryPager.Serves server state.factory following

def AfterPage.Holds (server : Server F) (following : List (List F.Row)) : AfterPage F → Prop
  | .anext state => state.Holds server following
  | .fetchNextPage page => page.queryPager.Serves server page.rowFactory following

/-- The read will answer with `rows`, after fewer than `n` further steps of its own. -/
def ReadPc.Owes (server : Server F) (rows : List F.Row) (n : Nat) : ReadPc F → Prop
  | .all state nextPage list => ∃ current following, state.Holds server nextPage current following ∧
      rows = list ++ (current ++ following.flatten) ∧ span current following + 1 < n
  | .allFetch state list => ∃ following, state.queryPager.Serves server state.factory following ∧
      rows = list ++ following.flatten ∧ span [] following < n
  | .nextRow state nextPage caller => ∃ current following,
      state.Holds server nextPage current following ∧
      caller.Owes rows (current ++ following.flatten) ∧ span current following + 1 < n
  | .nextRowFetch state caller => ∃ following,
      state.queryPager.Serves server state.factory following ∧
      caller.Owes rows following.flatten ∧ span [] following < n
  | .rowsAnext state list => ∃ current following, state.Holds server none current following ∧
      rows = list ++ (current ++ following.flatten) ∧ span current following + 2 < n
  | .pagesAnext state list => (∃ page current following, state.firstPage = some page ∧
      (RowsIteratorKind.new page.page).Yields current ∧
      { state with firstPage := none }.Holds server following ∧
      rows = list ++ (current ++ following.flatten) ∧ span current following + 3 < n) ∨
      ∃ following, state.Holds server following ∧ rows = list ++ following.flatten ∧
        span [] following + 1 < n
  | .pagesFetch state list => ∃ following, state.Holds server following ∧
      rows = list ++ following.flatten ∧ span [] following < n
  | .page rowsIterator list after => ∃ current following, rowsIterator.Yields current ∧
      after.Holds server following ∧ rows = list ++ (current ++ following.flatten) ∧
      span current following + 2 < n
  | .fetchNextPage core list => ∃ following,
      core.queryPager.Serves server core.rowFactory following ∧
      rows = list ++ following.flatten ∧ span [] following < n

/-- What a step of a read comes to: the answer, or the same read with less to do. -/
inductive ReadProgress (server : Server F) (rows : List F.Row) (s : ReadShared F)
    (kind : ReadKind) (n : Nat) : ReadShared F × List (ReadPc F) → Prop
  | answers {answer : Answer F} (h : answer = kind.expected rows) :
    ReadProgress server rows s kind n (s.answer kind answer)
  | goesOn {s' : ReadShared F} {q : ReadPc F} {m : Nat} (hcore : s'.core = s.core)
      (hanswers : s'.answers = s.answers) (hkind : q.kind = kind) (howes : q.Owes server rows m)
      (hm : m < n) : ReadProgress server rows s kind n (s', [q])

theorem ReadProgress.eq_or {s : ReadShared F} {kind : ReadKind} {n : Nat}
    {r : ReadShared F × List (ReadPc F)} (h : ReadProgress server rows s kind n r) :
    r = s.answer kind (kind.expected rows) ∨
    ∃ s' q m, r = (s', [q]) ∧ s'.core = s.core ∧ s'.answers = s.answers ∧ q.kind = kind ∧
      q.Owes server rows m ∧ m < n := by
  cases h with
  | answers ha => exact .inl (by rw [ha])
  | goesOn hcore hanswers hkind howes hm => exact .inr ⟨_, _, _, rfl, hcore, hanswers, hkind, howes, hm⟩

theorem ReadProgress.stays {s : ReadShared F} {kind : ReadKind} {n m : Nat} {q : ReadPc F}
    (hkind : q.kind = kind) (howes : q.Owes server rows m) (hm : m < n) :
    ReadProgress server rows s kind n (s, [q]) :=
  .goesOn rfl rfl hkind howes hm

namespace AsyncIteratorState

variable {state : AsyncIteratorState F}

theorem Holds.switch {nextPage : Option (QueryResult F)} {current : List F.Row}
    {following : List (List F.Row)} (h : state.Holds server nextPage current following) :
    ∃ state', state.switch nextPage = .ok state' ∧ state'.Holds server none current following := by
  cases nextPage with
  | none => exact ⟨state, rfl, h⟩
  | some page =>
    obtain ⟨rowsIterator, hupdate, hrows⟩ := RowsIteratorKind.update_of_yields h.current
    refine ⟨{ state with rowsIterator := rowsIterator }, ?_, hrows, h.following⟩
    simp only [AsyncIteratorState.switch, hupdate]
    rfl

theorem fetch_of_serves_cons {page : List F.Row} {following : List (List F.Row)}
    {reply : PageReply F}
    (h : state.queryPager.Serves server state.factory (page :: following))
    (hr : ∀ prepared paging, state.queryPager.request = some (prepared, paging) →
      reply = server.reply prepared paging) :
    ∃ queryResult state', state.fetch reply = (some (.ok queryResult), state') ∧
      state'.Holds server (some queryResult) page following := by
  obtain ⟨queryResult, pager, hfetch, hpage, hfollowing⟩ := h.fetchNextPage_cons hr
  refine ⟨queryResult, { state with queryPager := pager }, ?_, hpage, hfollowing⟩
  simp only [fetch, hfetch]

theorem fetch_of_serves_nil (h : state.queryPager.Serves server state.factory [])
    (reply : PageReply F) : state.fetch reply = (none, state) := by
  simp only [fetch, h.fetchNextPage_nil]

end AsyncIteratorState

theorem ReadShared.openPage_of_yields {queryResult : QueryResult F} {factory : PyRowFactory F}
    {page : List F.Row} (h : queryResult.Yields factory page) (s : ReadShared F) (kind : ReadKind)
    (pager : Pager F) (list : List F.Row) (after : PageCore F → AfterPage F) :
    ∃ core : PageCore F, core.rowFactory = factory ∧ core.queryPager = pager ∧
      (RowsIteratorKind.new core.page).Yields page ∧
      s.openPage kind ⟨queryResult, pager, factory⟩ list after =
        (s, [.page (.new core.page) list (after core)]) := by
  obtain ⟨core, hcore, hfactory, hpager, hrows⟩ := PageCore.new_of_yields h pager
  refine ⟨core, hfactory, hpager, hrows, ?_⟩
  simp only [openPage, PendingRequestResult.resolve, hcore]

section Steps

variable {n : Nat} {reply : PageReply F} (s : ReadShared F)

theorem all_step {state : AsyncIteratorState F} {nextPage : Option (QueryResult F)}
    {list : List F.Row} (h : (ReadPc.all state nextPage list).Owes server rows n) :
    ReadProgress server rows s .all n (readStep s (.all state nextPage list) reply) := by
  obtain ⟨current, following, hholds, hrows, hn⟩ := h
  obtain ⟨state', hswitch, hholds'⟩ := hholds.switch
  obtain ⟨rest, hdrain, -⟩ := drainPage_of_yields hholds'.current list
  have hle := span_nil_le current following
  simp only [readStep, hswitch, hdrain]
  refine .stays rfl ⟨following, hholds'.following, ?_, Nat.lt_succ_self _⟩ (by omega)
  rw [hrows, List.append_assoc]

theorem allFetch_step {state : AsyncIteratorState F} {list : List F.Row}
    (h : (ReadPc.allFetch state list).Owes server rows n)
    (hr : (ReadPc.allFetch state list).AnsweredBy server reply) :
    ReadProgress server rows s .all n (readStep s (.allFetch state list) reply) := by
  obtain ⟨following, hserves, hrows, hn⟩ := h
  cases following with
  | nil =>
    simp only [readStep, AsyncIteratorState.fetch_of_serves_nil hserves]
    exact .answers (by simp [hrows, ReadKind.expected])
  | cons page following =>
    obtain ⟨queryResult, state', hfetch, hholds⟩ :=
      AsyncIteratorState.fetch_of_serves_cons hserves hr
    have hspan := span_cons_following page following
    simp only [readStep, hfetch]
    exact .goesOn rfl rfl rfl ⟨page, following, hholds, by simpa using hrows, Nat.lt_succ_self _⟩
      (by omega)

theorem nextRow_step {state : AsyncIteratorState F} {nextPage : Option (QueryResult F)}
    {caller : RowCaller F} (h : (ReadPc.nextRow state nextPage caller).Owes server rows n) :
    ReadProgress server rows s caller.kind n
      (readStep s (.nextRow state nextPage caller) reply) := by
  obtain ⟨current, following, hholds, howes, hn⟩ := h
  obtain ⟨state', hswitch, hholds'⟩ := hholds.switch
  cases current with
  | nil =>
    have hnext := RowsIteratorKind.next_of_yields_nil hholds'.current
    simp only [readStep, AsyncIteratorState.nextRow, hswitch, hnext]
    exact .stays rfl ⟨following, hholds'.following, howes, Nat.lt_succ_self _⟩ (by omega)
  | cons row current =>
    obtain ⟨rest, hnext, hrest⟩ := RowsIteratorKind.next_of_yields_cons hholds'.current
    have hspan := span_cons_current row current following
    simp only [readStep, AsyncIteratorState.nextRow, hswitch, hnext]
    cases caller with
    | firstRow =>
      refine ReadProgress.answers ?_
      simpa [RowCaller.kind, ReadKind.expected] using howes.symm
    | rows list =>
      refine .stays rfl ⟨current, following, ⟨hrest, hholds'.following⟩, ?_, Nat.lt_succ_self _⟩
        (by omega)
      simpa [RowCaller.Owes] using howes

theorem nextRowFetch_step {state : AsyncIteratorState F} {caller : RowCaller F}
    (h : (ReadPc.nextRowFetch state caller).Owes server rows n)
    (hr : (ReadPc.nextRowFetch state caller).AnsweredBy server reply) :
    ReadProgress server rows s caller.kind n (readStep s (.nextRowFetch state caller) reply) := by
  obtain ⟨following, hserves, howes, hn⟩ := h
  cases following with
  | nil =>
    simp only [readStep, AsyncIteratorState.fetch_of_serves_nil hserves]
    refine .answers ?_
    cases caller with
    | firstRow => simpa [RowCaller.noRow, RowCaller.kind, ReadKind.expected] using howes.symm
    | rows list => simpa [RowCaller.noRow, RowCaller.kind, ReadKind.expected] using howes.symm
  | cons page following =>
    obtain ⟨queryResult, state', hfetch, hholds⟩ :=
      AsyncIteratorState.fetch_of_serves_cons hserves hr
    have hspan := span_cons_following page following
    simp only [readStep, hfetch]
    exact .goesOn rfl rfl rfl ⟨page, following, hholds, howes, Nat.lt_succ_self _⟩ (by omega)

theorem rowsAnext_step {state : AsyncIteratorState F} {list : List F.Row}
    (h : (ReadPc.rowsAnext state list).Owes server rows n) :
    ReadProgress server rows s .rows n (readStep s (.rowsAnext state list) reply) := by
  obtain ⟨current, following, hholds, hrows, hn⟩ := h
  cases current with
  | nil =>
    have hnext := RowsIteratorKind.next_of_yields_nil hholds.current
    simp only [readStep, hnext]
    exact .stays rfl ⟨[], following, hholds, hrows, Nat.lt_succ_self _⟩ (by omega)
  | cons row current =>
    obtain ⟨rest, hnext, hrest⟩ := RowsIteratorKind.next_of_yields_cons hholds.current
    have hspan := span_cons_current row current following
    simp only [readStep, hnext]
    exact .stays rfl ⟨current, following, ⟨hrest, hholds.following⟩, by simpa using hrows,
      Nat.lt_succ_self _⟩ (by omega)

theorem pagesAnext_step {state : PagesState F} {list : List F.Row}
    (h : (ReadPc.pagesAnext state list).Owes server rows n) :
    ReadProgress server rows s .pages n (readStep s (.pagesAnext state list) reply) := by
  rcases h with ⟨page, current, following, hfirst, hyields, hholds, hrows, hn⟩ |
    ⟨following, hholds, hrows, hn⟩
  · simp only [readStep, hfirst]
    exact .stays rfl ⟨current, following, hyields, hholds, hrows, Nat.lt_succ_self _⟩ (by omega)
  · simp only [readStep, hholds.firstPage]
    exact .stays rfl ⟨following, hholds, hrows, Nat.lt_succ_self _⟩ (by omega)

theorem pagesFetch_step {state : PagesState F} {list : List F.Row}
    (h : (ReadPc.pagesFetch state list).Owes server rows n)
    (hr : (ReadPc.pagesFetch state list).AnsweredBy server reply) :
    ReadProgress server rows s .pages n (readStep s (.pagesFetch state list) reply) := by
  obtain ⟨following, hholds, hrows, hn⟩ := h
  have hfinished : ¬state.finished = true := by simp [hholds.finished]
  rw [readStep, if_neg hfinished]
  cases following with
  | nil =>
    rw [hholds.following.fetchNextPage_nil]
    exact .answers (by simp [hrows, ReadKind.expected])
  | cons page following =>
    obtain ⟨queryResult, pager, hfetch, hpage, hfollowing⟩ :=
      hholds.following.fetchNextPage_cons hr
    obtain ⟨core, -, -, hyields, hopen⟩ := ReadShared.openPage_of_yields hpage
      (s.record queryResult) .pages pager list fun _ => .anext { state with queryPager := pager }
    have hspan := span_cons_following page following
    simp only [hfetch, hopen]
    exact .goesOn rfl rfl rfl ⟨page, following, hyields,
      ⟨hholds.firstPage, hholds.finished, hfollowing⟩, by simpa using hrows, Nat.lt_succ_self _⟩
      (by omega)

theorem page_step {rowsIterator : RowsIteratorKind F} {list : List F.Row} {after : AfterPage F}
    (h : (ReadPc.page rowsIterator list after).Owes server rows n) :
    ReadProgress server rows s after.kind n (readStep s (.page rowsIterator list after) reply) := by
  obtain ⟨current, following, hyields, hholds, hrows, hn⟩ := h
  cases current with
  | nil =>
    have hnext := RowsIteratorKind.next_of_yields_nil hyields
    simp only [readStep, hnext]
    cases after with
    | anext state =>
      exact .stays rfl (.inr ⟨following, hholds, hrows, Nat.lt_succ_self _⟩) (by omega)
    | fetchNextPage page =>
      exact .stays rfl ⟨following, hholds, hrows, Nat.lt_succ_self _⟩ (by omega)
  | cons row current =>
    obtain ⟨rest, hnext, hrest⟩ := RowsIteratorKind.next_of_yields_cons hyields
    have hspan := span_cons_current row current following
    simp only [readStep, hnext]
    exact .stays rfl ⟨current, following, hrest, hholds, by simpa using hrows,
      Nat.lt_succ_self _⟩ (by omega)

theorem fetchNextPage_step {page : PageCore F} {list : List F.Row}
    (h : (ReadPc.fetchNextPage page list).Owes server rows n)
    (hr : (ReadPc.fetchNextPage page list).AnsweredBy server reply) :
    ReadProgress server rows s .firstPage n (readStep s (.fetchNextPage page list) reply) := by
  obtain ⟨following, hserves, hrows, hn⟩ := h
  cases following with
  | nil =>
    simp only [readStep, Pager.fetchNextPendingPage, hserves.fetchNextPage_nil]
    exact .answers (by simp [hrows, ReadKind.expected])
  | cons current following =>
    obtain ⟨queryResult, pager, hfetch, hpage, hfollowing⟩ := hserves.fetchNextPage_cons hr
    obtain ⟨core, hfactory, hcore, hyields, hopen⟩ := ReadShared.openPage_of_yields hpage
      (s.record queryResult) .firstPage pager list .fetchNextPage
    have hspan := span_cons_following current following
    simp only [readStep, Pager.fetchNextPendingPage, hfetch, hopen]
    refine .goesOn rfl rfl rfl ⟨current, following, hyields, ?_, by simpa using hrows,
      Nat.lt_succ_self _⟩ (by omega)
    simpa only [AfterPage.Holds, hfactory, hcore] using hfollowing

/-- A step of a read answers as expected or leaves less to do. -/
theorem read_step {p : ReadPc F} (h : p.Owes server rows n) (hr : p.AnsweredBy server reply) :
    ReadProgress server rows s p.kind n (readStep s p reply) := by
  cases p with
  | all => exact all_step s h
  | allFetch => exact allFetch_step s h hr
  | nextRow => exact nextRow_step s h
  | nextRowFetch => exact nextRowFetch_step s h hr
  | rowsAnext => exact rowsAnext_step s h
  | pagesAnext => exact pagesAnext_step s h
  | pagesFetch => exact pagesFetch_step s h hr
  | page => exact page_step s h
  | fetchNextPage => exact fetchNextPage_step s h hr

end Steps

/-- The read gives `answer` after at most `n` further steps of its own, whatever
the shared state other reads leave it with. -/
def ReadPc.AnswersAfter (server : Server F) (answer : Answer F) : Nat → ReadPc F → Prop
  | 0, p => ∀ s reply, p.AnsweredBy server reply → readStep s p reply = s.answer p.kind answer
  | n + 1, p => ∀ s reply, p.AnsweredBy server reply →
      readStep s p reply = s.answer p.kind answer ∨
      ∃ s' q, readStep s p reply = (s', [q]) ∧ s'.answers = s.answers ∧ q.kind = p.kind ∧
        q.AnswersAfter server answer n

theorem ReadPc.Owes.answersAfter {p : ReadPc F} {m n : Nat} (h : p.Owes server rows m)
    (hm : m ≤ n) : p.AnswersAfter server (p.kind.expected rows) n := by
  induction n generalizing p m with
  | zero =>
    intro s reply hr
    rcases (read_step s h hr).eq_or with ha | ⟨_, _, _, _, _, _, _, _, hlt⟩
    · exact ha
    · omega
  | succ n ih =>
    intro s reply hr
    rcases (read_step s h hr).eq_or with ha | ⟨s', q, m', heq, _, hanswers, hkind, howes, hlt⟩
    · exact .inl ha
    · have hafter := ih howes (by omega)
      rw [hkind] at hafter
      exact .inr ⟨s', q, heq, hanswers, hkind, hafter⟩

variable {core : PageCore F} {current : List F.Row} {following : List (List F.Row)}

theorem start_owes (hcurrent : (RowsIteratorKind.new core.page).Yields current)
    (hfollowing : core.queryPager.Serves server core.rowFactory following) (kind : ReadKind) :
    (kind.start core).Owes server (current ++ following.flatten) (span current following + 4) := by
  have hholds : (AsyncIteratorState.new core).Holds server none current following :=
    ⟨hcurrent, hfollowing⟩
  cases kind with
  | all => exact ⟨current, following, hholds, rfl, by omega⟩
  | firstRow => exact ⟨current, following, hholds, rfl, by omega⟩
  | rows => exact ⟨current, following, hholds, rfl, by omega⟩
  | pages =>
    exact .inl ⟨core, current, following, rfl, hcurrent, ⟨rfl, rfl, hfollowing⟩, rfl, by omega⟩
  | firstPage => exact ⟨current, following, hcurrent, hfollowing, rfl, by omega⟩

/-- What holds of all reads of one `RequestResult` at any moment. -/
structure ReadsSound (server : Server F) (core : PageCore F) (rows : List F.Row) (n : Nat)
    (c : Config (ReadShared F) (ReadPc F)) : Prop where
  core : c.shared.core = core
  answers : ∀ a ∈ c.shared.answers, a.2 = a.1.expected rows
  threads : ∀ p ∈ c.threads, ∃ m ≤ n, p.Owes server rows m

open scoped Classical in
theorem reads_sound {c d : Config (ReadShared F) (ReadPc F)}
    (hcurrent : (RowsIteratorKind.new core.page).Yields current)
    (hfollowing : core.queryPager.Serves server core.rowFactory following)
    (hc : ReadsSound server core (current ++ following.flatten) (span current following + 4) c)
    (hr : (readProgram F).RunIn (answeredBy server) c d) :
    ReadsSound server core (current ++ following.flatten) (span current following + 4) d := by
  refine Program.Preserves.run ⟨?_, ?_⟩ hc hr
  · rintro s T p reply s' q hok ⟨hcore, hanswers, hthreads⟩ hs
    obtain ⟨m, hm, howes⟩ := hthreads p (Multiset.mem_cons_self p T)
    have hT : ∀ p' ∈ T, ∃ m ≤ span current following + 4,
        p'.Owes server (current ++ following.flatten) m :=
      fun p' hp' => hthreads p' (Multiset.mem_cons_of_mem hp')
    have hstep : readStep s p reply = (s', q) := Option.some.inj hs
    rcases (read_step s howes hok).eq_or with
      ha | ⟨s'', q', m', heq, hcore', hanswers', _, howes', hlt⟩
    · obtain ⟨rfl, rfl⟩ := Prod.mk.inj (hstep.symm.trans ha)
      refine ⟨hcore, ?_, by simpa using hT⟩
      intro a hmem
      rcases List.mem_append.mp hmem with hmem | hmem
      · exact hanswers a hmem
      · rw [List.mem_singleton.mp hmem]
    · obtain ⟨rfl, rfl⟩ := Prod.mk.inj (hstep.symm.trans heq)
      refine ⟨hcore'.trans hcore, ?_, ?_⟩
      · intro a hmem
        exact hanswers a (hanswers' ▸ hmem)
      · intro p' hp'
        rcases Multiset.mem_add.mp hp' with hp' | hp'
        · rw [List.mem_singleton.mp (Multiset.mem_coe.mp hp')]
          exact ⟨m', by omega, howes'⟩
        · exact hT p' hp'
  · rintro s T kind s' q - ⟨hcore, hanswers, hthreads⟩ hs
    cases hs
    refine ⟨hcore, hanswers, ?_⟩
    intro p hp
    rcases Multiset.mem_add.mp hp with hp | hp
    · rw [List.mem_singleton.mp (Multiset.mem_coe.mp hp)]
      have hcore : s.core = core := hcore
      rw [hcore]
      exact ⟨_, le_rfl, start_owes hcurrent hfollowing kind⟩
    · exact hthreads p hp

end ScyllaDriver
