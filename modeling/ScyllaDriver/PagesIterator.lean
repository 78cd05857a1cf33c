import ScyllaDriver.RowsIterator

/-! `AsyncPagesIterator.__anext__`, for any number of calls at a time. The first page
is handed out without a trip to tokio; each other page is resolved against the row
factory when it is handed to Python, after the lock was released. -/

namespace ScyllaDriver

variable {F : Foreign}

/-- A page an `AsyncPagesIterator` hands out. -/
inductive IteratedPage (F : Foreign) where
  | first (page : PageCore F)
  | fetched (page : PendingRequestResult F)

def IteratedPage.intoPyobject : IteratedPage F → Anext (PageCore F)
  | .first page => .item page
  | .fetched page =>
    match page.resolve with
    | .ok core => .item core
    | .error err => .raised err.toPyErr

namespace AsyncPagesIterator

def fast (v : Traced (PagesState F)) : Traced (PagesState F) × Option (Anext (IteratedPage F)) :=
  match v.state.firstPage with
  | some page => (⟨{ v.state with firstPage := none }, v.traces⟩, some (.item (.first page)))
  | none => (v, none)

def enter (v : Traced (PagesState F)) : Traced (PagesState F) × Option (Anext (IteratedPage F)) :=
  if v.state.finished then (v, some .stop)
  else if v.state.queryPager.request = none then (v, some .stop)
  else (v, none)

def resume (v : Traced (PagesState F)) (reply : PageReply F) :
    Traced (PagesState F) × Option (Anext (IteratedPage F)) :=
  match v.state.queryPager.fetchTraced v.traces (some reply) with
  | (some (some (.ok page)), pager, traces) =>
    (⟨{ v.state with queryPager := pager }, traces⟩,
      some (.item (.fetched ⟨page, pager, v.state.factory⟩)))
  | (some (some (.error err)), pager, traces) =>
    (⟨{ v.state with queryPager := pager, finished := true }, traces⟩, some (.raised err.toPyErr))
  | (_, pager, traces) => (⟨{ v.state with queryPager := pager }, traces⟩, some .stop)

def result : Anext (IteratedPage F) → Anext (PageCore F)
  | .item page => page.intoPyobject
  | .raised err => .raised err
  | .stop => .stop

/-- The flag is shared with the pages in flight: one that cannot be resolved sets it. -/
def deliver (v : Traced (PagesState F)) (o : Anext (IteratedPage F)) : Traced (PagesState F) :=
  match o with
  | .item page => { v with state.finished := v.state.finished || page.intoPyobject.fails }
  | _ => v

def code (F : Foreign) :
    LockedCode (Traced (PagesState F)) (PageReply F) (Anext (IteratedPage F))
      (Anext (PageCore F)) where
  fast := fast
  enter := enter
  resume := resume
  deliver := deliver
  result := result
  fails := Anext.fails

/-- The pages after the first are handed out as they follow; the calls after the last
one, or after an error, stop. -/
inductive Tail (v : Traced (PagesState F)) (left : List (PendingRequestResult F)) :
    List (Anext (IteratedPage F)) → Prop
  | stops {k} (h : 0 < k → v.state.finished = true ∨ left = []) :
      Tail v left (List.replicate k .stop)
  | raised {err k} (h : v.state.finished = true) :
      Tail v left (.raised err :: List.replicate k .stop)

/-- What one call keeps, once the first page has been handed out. -/
structure Handed (server : Server F) (core : PageCore F) (pages : List (PendingRequestResult F))
    (phase : Phase) (v : Traced (PagesState F)) (taken : List (Anext (IteratedPage F))) : Prop where
  firstPage : v.state.firstPage = none
  factory : v.state.factory = core.rowFactory
  handed : ∃ done left tail, taken =
      .item (.first core) :: (done.map fun page => .item (.fetched page)) ++ tail ∧
    pages = done ++ left ∧ v.state.queryPager.Follows server core.rowFactory left ∧
    Tail v left tail ∧ (phase = .awaiting → tail = [])
  finished : v.state.finished = true → ∃ o ∈ taken, (result o).fails = true

def Kept (server : Server F) (core : PageCore F) (pages : List (PendingRequestResult F)) :
    Phase → Traced (PagesState F) → List (Anext (IteratedPage F)) → Prop
  | .fresh, v, taken => taken = [] ∧ v.state.firstPage = some core ∧ v.state.finished = false ∧
      v.state.factory = core.rowFactory ∧ v.state.queryPager.Follows server core.rowFactory pages
  | phase, v, taken => Handed server core pages phase v taken

def allowed (server : Server F) (mayFail : Prop) (v : Traced (PagesState F)) :
    CallChoice (PageReply F) → Prop
  | .reply reply => v.state.queryPager.MayAnswer server mayFail reply
  | .go | .drop => True

abbrev Calls (F : Foreign) :=
  Config (LockedShared (Traced (PagesState F)) (Anext (IteratedPage F)) (Anext (PageCore F)))
    (Call (Anext (IteratedPage F)))

open scoped Classical in
/-- Any interleaving of `__anext__` calls, made, driven on and dropped at any time. -/
def Run (server : Server F) (mayFail : Prop) : Calls F → Calls F → Prop :=
  (code F).program.RunIn (LockedCode.answered (allowed server mayFail))

variable {server : Server F} {mayFail : Prop} {core : PageCore F}
  {pages : List (PendingRequestResult F)} {phase : Phase} {v : Traced (PagesState F)}
  {taken : List (Anext (IteratedPage F))} {left : List (PendingRequestResult F)}
  {tail : List (Anext (IteratedPage F))}

theorem Tail.stop (h : Tail v left tail) (hend : v.state.finished = true ∨ left = []) :
    Tail v left (tail ++ [.stop]) := by
  cases h with
  | @stops k hk =>
    rw [← List.replicate_succ']
    exact .stops fun _ => hend
  | @raised err k hfinished =>
    rw [List.cons_append, ← List.replicate_succ']
    exact .raised hfinished

theorem Tail.eq_nil (h : Tail v left tail) (hfinished : v.state.finished = false)
    (hleft : left ≠ []) : tail = [] := by
  cases h with
  | @stops k hk =>
    cases k with
    | zero => rfl
    | succ k => rcases hk (Nat.succ_pos k) with hf | hl <;> simp_all
  | raised hf => simp_all

theorem Tail.mono (h : Tail v left tail) {v' : Traced (PagesState F)}
    (hv : v.state.finished = true → v'.state.finished = true) : Tail v' left tail := by
  cases h with
  | stops hk => exact .stops fun hpos => (hk hpos).imp_left hv
  | raised hfinished => exact .raised (hv hfinished)

theorem Handed.weaken (h : Handed server core pages phase v taken) :
    Handed server core pages .idle v taken := by
  obtain ⟨hfirst, hfactory, ⟨done, left, tail, htaken, hpages, hfollows, htail, -⟩, hfinished⟩ := h
  exact ⟨hfirst, hfactory, ⟨done, left, tail, htaken, hpages, hfollows, htail, nofun⟩, hfinished⟩

theorem Handed.stop (h : Handed server core pages phase v taken)
    (hend : v.state.finished = true ∨ v.state.queryPager.request = none) :
    Handed server core pages .idle v (taken ++ [.stop]) := by
  obtain ⟨hfirst, hfactory, ⟨done, left, tail, rfl, hpages, hfollows, htail, -⟩, hfinished⟩ := h
  refine ⟨hfirst, hfactory, ⟨done, left, tail ++ [.stop], ?_, hpages, hfollows,
    htail.stop (hend.imp_right hfollows.nil_of_request), nofun⟩, fun hf => ?_⟩
  · rw [List.append_assoc]
  · obtain ⟨o, ho, hfails⟩ := hfinished hf
    exact ⟨o, List.mem_append_left _ ho, hfails⟩

theorem Handed.enter (h : Handed server core pages .idle v taken) :
    Kept server core pages (.after (enter v).2) (enter v).1 (taken ++ (enter v).2.toList) := by
  unfold AsyncPagesIterator.enter
  split
  · rename_i hf
    exact h.stop (.inl hf)
  · rename_i hf
    split
    · rename_i hr
      exact h.stop (.inr hr)
    · rename_i hr
      obtain ⟨hfirst, hfactory, ⟨done, left, tail, rfl, hpages, hfollows, htail, -⟩, hfinished⟩ := h
      rw [Option.toList_none, List.append_nil]
      have hleft : left ≠ [] := fun hl => hr (hl ▸ hfollows).request_of_nil
      refine ⟨hfirst, hfactory, ⟨done, left, tail, rfl, hpages, hfollows, htail, fun _ => ?_⟩,
        hfinished⟩
      exact htail.eq_nil (by simpa using hf) hleft

theorem Handed.resume (h : Handed server core pages .awaiting v taken) {reply : PageReply F}
    (hreply : v.state.queryPager.MayAnswer server mayFail reply) :
    Kept server core pages (.after (resume v reply).2) (resume v reply).1
      (taken ++ (resume v reply).2.toList) := by
  by_cases hr : v.state.queryPager.request = none
  · simp only [AsyncPagesIterator.resume, Pager.fetchTraced_of_request_none hr]
    exact h.stop (.inr hr)
  · obtain ⟨hfirst, hfactory, ⟨done, left, tail, rfl, hpages, hfollows, htail, hnil⟩, hfinished⟩ := h
    obtain rfl := hnil rfl
    rcases hfollows.fetchTraced hr hreply v.traces with
      ⟨page, rest, rfl, hpage, hfetch, hrest⟩ | ⟨-, err, hfetch⟩
    · simp only [AsyncPagesIterator.resume, hfetch]
      have hpending : page = ⟨page.queryResult, page.queryPager, v.state.factory⟩ := by
        rw [hfactory, ← hpage]
      refine ⟨hfirst, hfactory, ⟨done ++ [page], rest, [], ?_, ?_, hrest, .stops (k := 0) nofun,
        nofun⟩, fun hf => ?_⟩
      · simp [← hpending]
      · simp [hpages]
      · obtain ⟨o, ho, hfails⟩ := hfinished hf
        exact ⟨o, List.mem_append_left _ ho, hfails⟩
    · simp only [AsyncPagesIterator.resume, hfetch]
      refine ⟨hfirst, hfactory, ⟨done, left, [.raised err.toPyErr], ?_, hpages, hfollows,
        .raised (k := 0) rfl, nofun⟩, fun _ => ⟨.raised err.toPyErr, by simp, rfl⟩⟩
      simp

theorem Handed.deliver (h : Handed server core pages phase v taken) {o : Anext (IteratedPage F)}
    (ho : o ∈ taken) : Handed server core pages phase (deliver v o) taken := by
  match o with
  | .raised _ | .stop => exact h
  | .item page =>
    obtain ⟨hfirst, hfactory, ⟨done, left, tail, htaken, hpages, hfollows, htail, hnil⟩,
      hfinished⟩ := h
    refine ⟨hfirst, hfactory, ⟨done, left, tail, htaken, hpages, hfollows,
      htail.mono fun hf => by simp [AsyncPagesIterator.deliver, hf], hnil⟩, fun hf => ?_⟩
    simp only [AsyncPagesIterator.deliver, Bool.or_eq_true] at hf
    rcases hf with hf | hf
    · exact hfinished hf
    · exact ⟨.item page, ho, hf⟩

theorem keeps (server : Server F) (mayFail : Prop) (core : PageCore F)
    (pages : List (PendingRequestResult F)) :
    (code F).Keeps (allowed server mayFail) (Kept server core pages) where
  first {v taken} h := by
    obtain ⟨rfl, hfirst, hfinished, hfactory, hfollows⟩ := h
    have hfast : fast v = (⟨{ v.state with firstPage := none }, v.traces⟩,
        some (.item (.first core))) := by simp only [fast, hfirst]
    change Kept server core pages .idle (fast v).1 ([] ++ (fast v).2.toList)
    rw [hfast]
    refine ⟨rfl, hfactory, ⟨[], pages, [], rfl, rfl, hfollows, .stops (k := 0) nofun, nofun⟩, ?_⟩
    intro hf
    rw [hfinished] at hf
    cases hf
  fast {v taken} h := by
    have hfast : fast v = (v, none) := by simp only [fast, Handed.firstPage h]
    change Kept server core pages .idle (fast v).1 (taken ++ (fast v).2.toList)
    rw [hfast, Option.toList_none, List.append_nil]
    exact h
  enter h := Handed.enter h
  resume h hok := Handed.resume h hok
  drop h _ := Handed.weaken h
  deliver {phase v taken o} h ho := by
    cases phase with
    | fresh =>
      obtain ⟨rfl, -⟩ := h
      cases ho
    | idle => exact Handed.deliver h ho
    | awaiting => exact Handed.deliver h ho

/-- Every later call stops. -/
def Over (v : Traced (PagesState F)) : Prop :=
  v.state.finished = true ∧ v.state.firstPage = none

theorem Handed.finished_of_raised (h : Handed server core pages phase v taken) {err : PyErr}
    (hraised : .raised err ∈ taken) : v.state.finished = true := by
  obtain ⟨done, left, tail, rfl, -, -, htail, -⟩ := h.handed
  cases htail with
  | stops => simp at hraised
  | raised hfinished => exact hfinished

theorem Handed.reported (h : Handed server core pages phase v taken) {o : Anext (IteratedPage F)}
    (ho : o ∈ taken) (hfails : (result o).fails = true) : Over (AsyncPagesIterator.deliver v o) := by
  match o with
  | .item page => exact ⟨(Bool.or_eq_true _ _).mpr (.inr hfails), h.firstPage⟩
  | .raised err => exact ⟨h.finished_of_raised ho, h.firstPage⟩
  | .stop => cases hfails

/-- An error sets the flag before it is raised, also one of resolving a page. -/
theorem ends (server : Server F) (core : PageCore F) (pages : List (PendingRequestResult F)) :
    (code F).Ends (Kept server core pages) Over (· = .stop) where
  fast {v} h := by
    change Over (fast v).1 ∧ ∀ o, (fast v).2 = some o → o = .stop
    have hfast : fast v = (v, none) := by simp only [fast, h.2]
    rw [hfast]
    exact ⟨h, nofun⟩
  enter {v} h := by
    change Over (enter v).1 ∧ ∃ o, (enter v).2 = some o ∧ o = .stop
    have henter : enter v = (v, some .stop) := if_pos h.1
    rw [henter]
    exact ⟨h, .stop, rfl, rfl⟩
  resume {v reply} h := by
    change Over (resume v reply).1
    unfold AsyncPagesIterator.resume
    split
    · exact h
    · exact ⟨rfl, h.2⟩
    · exact h
  deliver {v o} h := by
    match o with
    | .item page => exact ⟨by simp [code, deliver, h.1], h.2⟩
    | .raised _ | .stop => exact h
  reported {phase v taken o} h ho hfails := by
    cases phase with
    | fresh =>
      obtain ⟨rfl, -⟩ := h
      cases ho
    | idle => exact Handed.reported h ho hfails
    | awaiting => exact Handed.reported h ho hfails

theorem bounded (server : Server F) (mayFail : Prop) :
    (code F).Bounded (allowed server mayFail) fun _ _ => True where
  fast _ := trivial
  enter _ := trivial
  resume {n v reply} _ _ := by
    refine ⟨n, trivial, le_rfl, fun hnone => ?_⟩
    change (resume v reply).2 = none at hnone
    unfold AsyncPagesIterator.resume at hnone
    split at hnone <;> cases hnone
  deliver _ := trivial

end AsyncPagesIterator

end ScyllaDriver
