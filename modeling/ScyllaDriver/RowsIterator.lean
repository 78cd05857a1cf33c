import ScyllaDriver.AnextCalls

/-! `AsyncRowsIterator.__anext__`, for any number of calls at a time. What a call
does to the state under the lock is a `LockedCode`. -/

namespace ScyllaDriver

variable {F : Foreign}

/-- The state of an iterator with the trace log its pager records in. -/
structure Traced (σ : Type*) where
  state : σ
  traces : TraceLog

namespace AsyncRowsIterator

/-- Ends a section of `__anext__` with what the row iterator gave. -/
def outcome (traces : TraceLog) :
    Option (Except DriverRowIterationError F.Row) × AsyncIteratorState F →
    Traced (AsyncIteratorState F) × Option (Anext F.Row)
  | (some (.ok row), state) => (⟨state, traces⟩, some (.item row))
  | (some (.error err), state) => (⟨state.finish, traces⟩, some (.raised err.toPyErr))
  | (none, state) => (⟨state, traces⟩, none)

/-- A round of the loop of `next_row_with_paging`, up to the request of the next page. -/
def advance (v : Traced (AsyncIteratorState F)) (nextPage : Option (QueryResult F)) :
    Traced (AsyncIteratorState F) × Option (Anext F.Row) :=
  match outcome v.traces (v.state.nextRow nextPage) with
  | (v, none) => if v.state.queryPager.request = none then (v, some .stop) else (v, none)
  | ended => ended

def fast (v : Traced (AsyncIteratorState F)) : Traced (AsyncIteratorState F) × Option (Anext F.Row) :=
  outcome v.traces
    (v.state.rowsIterator.next.1, { v.state with rowsIterator := v.state.rowsIterator.next.2 })

def resume (v : Traced (AsyncIteratorState F)) (reply : PageReply F) :
    Traced (AsyncIteratorState F) × Option (Anext F.Row) :=
  match v.state.queryPager.fetchTraced v.traces (some reply) with
  | (some (some (.ok page)), pager, traces) =>
    advance ⟨{ v.state with queryPager := pager }, traces⟩ (some page)
  | (some (some (.error err)), pager, traces) =>
    outcome traces (some (.error (.failedToFetchNextPage err)), { v.state with queryPager := pager })
  | (_, pager, traces) => (⟨{ v.state with queryPager := pager }, traces⟩, some .stop)

def code (F : Foreign) :
    LockedCode (Traced (AsyncIteratorState F)) (PageReply F) (Anext F.Row) (Anext F.Row) where
  fast := fast
  enter v := advance v none
  resume := resume
  deliver v _ := v
  result := id
  fails := Anext.fails

/-- Nothing is left to hand out. -/
def Over (v : Traced (AsyncIteratorState F)) : Prop :=
  v.state.rowsIterator.items = [] ∧ v.state.queryPager.request = none

/-- The items that are left: those of the current page, then those of the pages that
follow. -/
def Left (server : Server F) (v : Traced (AsyncIteratorState F))
    (left : List (Except DriverRowIterationError F.Row)) : Prop :=
  ∃ pages, v.state.queryPager.Follows server v.state.factory pages ∧
    left = v.state.rowsIterator.items ++ pages.flatMap (·.items)

/-- The outcomes of calls on an iterator that had `all` to hand out, once a call
raised: the rows before the error, and nothing after it. -/
def RaisedAfter (mayFail : Prop) (all : List (Except DriverRowIterationError F.Row))
    (taken : List (Anext F.Row)) : Prop :=
  ∃ done err k, taken = List.map .item done ++ .raised err.toPyErr :: List.replicate k .stop ∧
    ((∃ rest, all = List.map .ok done ++ .error err :: rest) ∨
      mayFail ∧ List.map .ok done <+: all ∧ ∃ cause, err = .failedToFetchNextPage cause)

/-- What one call keeps between the state and the outcomes taken. -/
def Kept (server : Server F) (mayFail : Prop) (all : List (Except DriverRowIterationError F.Row))
    (phase : Phase) (v : Traced (AsyncIteratorState F)) (taken : List (Anext F.Row)) : Prop :=
  (phase = .awaiting → v.state.rowsIterator.items = []) ∧
    ((∃ done k left, Left server v left ∧ all = List.map .ok done ++ left ∧
      taken = List.map .item done ++ List.replicate k .stop ∧ (0 < k → Over v)) ∨
    (RaisedAfter mayFail all taken ∧ Over v))

variable {server : Server F} {mayFail : Prop} {v : Traced (AsyncIteratorState F)}
  {all left : List (Except DriverRowIterationError F.Row)}

theorem Over.left_nil (h : Over v) (hleft : Left server v left) : left = [] := by
  obtain ⟨pages, hpages, rfl⟩ := hleft
  rw [h.1, hpages.nil_of_request h.2]
  rfl

theorem over_finish (state : AsyncIteratorState F) (traces : TraceLog) :
    Over ⟨state.finish, traces⟩ :=
  ⟨rfl, rfl⟩

/-- What a section of a call comes to, in terms of the items left: it hands out the
first one, or fails with it, or finds none on the current page. -/
inductive Section (v : Traced (AsyncIteratorState F)) :
    Traced (AsyncIteratorState F) × Option (Anext F.Row) → Prop
  | row {row items v'} (h : v.state.rowsIterator.items = .ok row :: items)
      (hitems : v'.state.rowsIterator.items = items)
      (hpager : v'.state.queryPager = v.state.queryPager)
      (hfactory : v'.state.factory = v.state.factory) : Section v (v', some (.item row))
  | error {err items v'} (h : v.state.rowsIterator.items = .error err :: items) (hover : Over v') :
      Section v (v', some (.raised err.toPyErr))
  | none (h : v.state.rowsIterator.items = []) : Section v (v, none)
  | stop (h : Over v) : Section v (v, some .stop)

theorem fast_section (v : Traced (AsyncIteratorState F)) : Section v (fast v) := by
  cases hitems : v.state.rowsIterator.items with
  | nil =>
    have hnext := RowsIteratorKind.next_of_items_nil hitems
    have hfast : fast v = (v, none) := by simp only [fast, hnext, outcome]
    exact hfast ▸ .none hitems
  | cons item items =>
    obtain ⟨rest, hnext, hrest⟩ := RowsIteratorKind.next_of_items_cons hitems
    cases item with
    | ok row =>
      simp only [fast, hnext, outcome]
      exact .row hitems hrest rfl rfl
    | error err =>
      simp only [fast, hnext, outcome]
      exact .error hitems (over_finish _ _)

theorem advance_eq_fast (v : Traced (AsyncIteratorState F)) :
    advance v none = match fast v with
      | (v, none) => if v.state.queryPager.request = none then (v, some .stop) else (v, none)
      | ended => ended := rfl

theorem advance_section (v : Traced (AsyncIteratorState F)) :
    Section v (advance v none) ∧
      ((advance v none).2 = none → v.state.queryPager.request ≠ none) := by
  have hfast := fast_section v
  rw [advance_eq_fast]
  generalize fast v = r at hfast
  cases hfast with
  | row h hitems hpager hfactory => exact ⟨.row h hitems hpager hfactory, nofun⟩
  | error h hover => exact ⟨.error h hover, nofun⟩
  | stop h => exact ⟨.stop h, nofun⟩
  | none h =>
    by_cases hr : v.state.queryPager.request = none
    · simp only [hr, if_true]
      exact ⟨.stop ⟨h, hr⟩, nofun⟩
    · simp only [hr, if_false]
      exact ⟨.none h, fun _ => hr⟩

variable {phase : Phase} {taken : List (Anext F.Row)}

theorem Kept.weaken (h : Kept server mayFail all phase v taken) {phase' : Phase}
    (hphase : phase' ≠ .awaiting) : Kept server mayFail all phase' v taken :=
  ⟨fun ha => absurd ha hphase, h.2⟩

theorem RaisedAfter.stop (h : RaisedAfter mayFail all taken) :
    RaisedAfter mayFail all (taken ++ [.stop]) := by
  obtain ⟨done, err, k, rfl, hall⟩ := h
  refine ⟨done, err, k + 1, ?_, hall⟩
  rw [List.replicate_succ', List.append_assoc, List.cons_append]

theorem Kept.section (h : Kept server mayFail all phase v taken)
    {r : Traced (AsyncIteratorState F) × Option (Anext F.Row)} (hr : Section v r) :
    Kept server mayFail all (.after r.2) r.1 (taken ++ r.2.toList) := by
  obtain ⟨-, h⟩ := h
  cases hr with
  | @row row items v' hv hitems hpager hfactory =>
    have hnot : ¬ Over v := fun hover => by simp [hover.1] at hv
    rcases h with ⟨done, k, left, ⟨pages, hpages, rfl⟩, rfl, rfl, hk⟩ | ⟨-, hover⟩
    · have hk : k = 0 := Nat.eq_zero_of_not_pos fun hpos => hnot (hk hpos)
      refine ⟨nofun, .inl ⟨done ++ [row], 0, v'.state.rowsIterator.items ++ pages.flatMap (·.items),
        ⟨pages, by rwa [hpager, hfactory], rfl⟩, ?_, ?_, nofun⟩⟩
      · simp [hv, hitems]
      · simp [hk]
    · exact absurd hover hnot
  | @error err items v' hv hover' =>
    have hnot : ¬ Over v := fun hover => by simp [hover.1] at hv
    rcases h with ⟨done, k, left, ⟨pages, hpages, rfl⟩, rfl, rfl, hk⟩ | ⟨-, hover⟩
    · have hk : k = 0 := Nat.eq_zero_of_not_pos fun hpos => hnot (hk hpos)
      refine ⟨nofun, .inr ⟨⟨done, err, 0, ?_, .inl ⟨items ++ pages.flatMap (·.items), ?_⟩⟩, hover'⟩⟩
      · simp [hk]
      · simp [hv]
    · exact absurd hover hnot
  | none hv =>
    rw [Option.toList_none, List.append_nil]
    exact ⟨fun _ => hv, h⟩
  | stop hover =>
    refine ⟨nofun, ?_⟩
    rcases h with ⟨done, k, left, hleft, hall, rfl, -⟩ | ⟨hraised, -⟩
    · refine .inl ⟨done, k + 1, left, hleft, hall, ?_, fun _ => hover⟩
      rw [List.replicate_succ', Option.toList_some, List.append_assoc]
    · exact .inr ⟨hraised.stop, hover⟩

theorem advance_some {page : PendingRequestResult F} (hpage : page.factory = v.state.factory) :
    (∃ rowsIterator, advance v (some page.queryResult) =
        advance ⟨{ v.state with rowsIterator := rowsIterator }, v.traces⟩ none ∧
      rowsIterator.items = page.items) ∨
    ∃ err, advance v (some page.queryResult) = (⟨v.state.finish, v.traces⟩,
        some (.raised (DriverRowIterationError.pythonError err).toPyErr)) ∧
      page.items = [.error (.pythonError err)] := by
  cases hupdate : RowsIteratorKind.update page.queryResult v.state.factory with
  | ok rowsIterator =>
    refine .inl ⟨rowsIterator, ?_, ?_⟩
    · simp only [advance, AsyncIteratorState.nextRow, AsyncIteratorState.switch, hupdate]
      rfl
    · simp only [PendingRequestResult.items, hpage, hupdate]
  | error err =>
    refine .inr ⟨err, ?_, ?_⟩
    · simp only [advance, AsyncIteratorState.nextRow, AsyncIteratorState.switch, hupdate]
      rfl
    · simp only [PendingRequestResult.items, hpage, hupdate]

theorem resume_of_request_none (h : v.state.queryPager.request = none) (reply : PageReply F) :
    resume v reply = (v, some .stop) := by
  simp only [resume, Pager.fetchTraced_of_request_none h]

theorem Kept.resume (h : Kept server mayFail all .awaiting v taken) {reply : PageReply F}
    (hreply : v.state.queryPager.MayAnswer server mayFail reply) :
    Kept server mayFail all (.after (resume v reply).2) (resume v reply).1
      (taken ++ (resume v reply).2.toList) := by
  have hitems := h.1 rfl
  by_cases hr : v.state.queryPager.request = none
  · rw [resume_of_request_none hr]
    exact h.section (.stop ⟨hitems, hr⟩)
  · have hnot : ¬ Over v := fun hover => hr hover.2
    rcases h.2 with ⟨done, k, left, ⟨pages, hpages, rfl⟩, rfl, rfl, hk⟩ | ⟨-, hover⟩
    · have hk : k = 0 := Nat.eq_zero_of_not_pos fun hpos => hnot (hk hpos)
      subst hk
      rcases hpages.fetchTraced hr hreply v.traces with
        ⟨page, rest, rfl, hpage, hfetch, hrest⟩ | ⟨hfail, err, hfetch⟩
      · simp only [AsyncRowsIterator.resume, hfetch]
        rcases advance_some (v := ⟨{ v.state with queryPager := page.queryPager },
            v.traces.record page.queryResult.tracingId⟩) hpage with
          ⟨rowsIterator, hadvance, hrows⟩ | ⟨err, hadvance, herr⟩
        · -- The page's rows take the place of the exhausted iterator's.
          rw [hadvance]
          have hidle : Phase.idle = .awaiting → rowsIterator.items = [] := nofun
          refine Kept.section ⟨hidle, .inl ⟨done, 0, _, ⟨rest, hrest, rfl⟩, ?_, rfl, nofun⟩⟩
            (advance_section _).1
          simp [hitems, hrows]
        · rw [hadvance]
          refine ⟨nofun, .inr ⟨⟨done, .pythonError err, 0, ?_, .inl ⟨rest.flatMap (·.items), ?_⟩⟩,
            over_finish _ _⟩⟩
          · simp
          · simp [hitems, herr]
      · simp only [AsyncRowsIterator.resume, hfetch, outcome]
        refine ⟨nofun, .inr ⟨⟨done, .failedToFetchNextPage err, 0, ?_, .inr ⟨hfail, ?_, err, rfl⟩⟩,
          over_finish _ _⟩⟩
        · simp
        · exact List.prefix_append _ _
    · exact absurd hover hnot

def allowed (server : Server F) (mayFail : Prop) (v : Traced (AsyncIteratorState F)) :
    CallChoice (PageReply F) → Prop
  | .reply reply => v.state.queryPager.MayAnswer server mayFail reply
  | .go | .drop => True

abbrev Calls (F : Foreign) :=
  Config (LockedShared (Traced (AsyncIteratorState F)) (Anext F.Row) (Anext F.Row))
    (Call (Anext F.Row))

open scoped Classical in
/-- Any interleaving of `__anext__` calls, made, driven on and dropped at any time. -/
def Run (server : Server F) (mayFail : Prop) : Calls F → Calls F → Prop :=
  (code F).program.RunIn (LockedCode.answered (allowed server mayFail))

theorem keeps (server : Server F) (mayFail : Prop)
    (all : List (Except DriverRowIterationError F.Row)) :
    (code F).Keeps (allowed server mayFail) (Kept server mayFail all) where
  first h := (h.section (fast_section _)).weaken nofun
  fast h := (h.section (fast_section _)).weaken nofun
  enter h := h.section (advance_section _).1
  resume h hok := h.resume hok
  drop h _ := h.weaken nofun
  deliver h _ := h

theorem Section.of_over {r : Traced (AsyncIteratorState F) × Option (Anext F.Row)}
    (hr : Section v r) (h : Over v) : Over r.1 ∧ ∀ o, r.2 = some o → o = .stop := by
  cases hr with
  | row hv => simp [h.1] at hv
  | error hv => simp [h.1] at hv
  | none => exact ⟨h, nofun⟩
  | stop => exact ⟨h, fun o ho => (Option.some.inj ho).symm⟩

theorem Kept.over_of_raised (h : Kept server mayFail all phase v taken) {o : Anext F.Row}
    (ho : o ∈ taken) (hfails : o.fails = true) : Over v := by
  rcases h.2 with ⟨done, k, left, -, -, rfl, -⟩ | ⟨-, hover⟩
  · rcases List.mem_append.mp ho with ho | ho
    · obtain ⟨row, -, rfl⟩ := List.mem_map.mp ho
      cases hfails
    · rw [List.eq_of_mem_replicate ho] at hfails
      cases hfails
  · exact hover

/-- An error ends the iteration before it is raised. -/
theorem ends (server : Server F) (mayFail : Prop)
    (all : List (Except DriverRowIterationError F.Row)) :
    (code F).Ends (Kept server mayFail all) Over (· = .stop) where
  fast h := (fast_section _).of_over h
  enter {v} h := by
    obtain ⟨hsection, hrequest⟩ := advance_section v
    obtain ⟨hover, hstop⟩ := hsection.of_over h
    refine ⟨hover, ?_⟩
    cases ho : (advance v none).2 with
    | none => exact absurd h.2 (hrequest ho)
    | some o => exact ⟨o, ho, hstop o ho⟩
  resume h := by
    rw [show (code F).resume = resume from rfl, resume_of_request_none h.2]
    exact h
  deliver h := h
  reported h ho hfails := h.over_of_raised ho hfails

/-- At most `n` pages follow. -/
def AtMost (server : Server F) (n : Nat) (v : Traced (AsyncIteratorState F)) : Prop :=
  ∃ pages, v.state.queryPager.Follows server v.state.factory pages ∧ pages.length ≤ n

theorem Over.atMost (h : Over v) (n : Nat) : AtMost server n v :=
  ⟨[], .of_request h.2, Nat.zero_le n⟩

theorem Section.atMost {r : Traced (AsyncIteratorState F) × Option (Anext F.Row)} {n : Nat}
    (hr : Section v r) (h : AtMost server n v) : AtMost server n r.1 := by
  cases hr with
  | row hv hitems hpager hfactory =>
    obtain ⟨pages, hpages, hle⟩ := h
    exact ⟨pages, by rwa [hpager, hfactory], hle⟩
  | error hv hover => exact hover.atMost n
  | none => exact h
  | stop => exact h

theorem bounded (server : Server F) (mayFail : Prop) :
    (code F).Bounded (allowed server mayFail) (AtMost server) where
  fast h := (fast_section _).atMost h
  enter h := (advance_section _).1.atMost h
  resume {n v reply} h hok := by
    change ∃ m, AtMost server m (resume v reply).1 ∧ m ≤ n ∧ ((resume v reply).2 = none → m < n)
    by_cases hr : v.state.queryPager.request = none
    · rw [resume_of_request_none hr]
      exact ⟨n, h, le_rfl, nofun⟩
    · obtain ⟨pages, hpages, hle⟩ := h
      rcases hpages.fetchTraced hr hok v.traces with
        ⟨page, rest, rfl, hpage, hfetch, hrest⟩ | ⟨hfail, err, hfetch⟩
      · have hlt : rest.length < n := hle
        refine ⟨rest.length, ?_, hlt.le, fun _ => hlt⟩
        simp only [resume, hfetch]
        rcases advance_some (v := ⟨{ v.state with queryPager := page.queryPager },
            v.traces.record page.queryResult.tracingId⟩) hpage with
          ⟨rowsIterator, hadvance, -⟩ | ⟨err, hadvance, -⟩
        · rw [hadvance]
          exact (advance_section _).1.atMost ⟨rest, hrest, le_rfl⟩
        · rw [hadvance]
          exact (over_finish _ _).atMost _
      · simp only [resume, hfetch, outcome]
        exact ⟨n, (over_finish _ _).atMost _, le_rfl, nofun⟩
  deliver h := h

end AsyncRowsIterator

end ScyllaDriver
