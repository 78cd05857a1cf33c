import ScyllaDriver.PagesIterator
import ScyllaDriver.ReadAgreement

/-! Any number of `__anext__` calls of one iterator, in any interleaving: they share
its rows or pages, and a call that is dropped takes nothing. -/

namespace ScyllaDriver

variable {F : Foreign}

open scoped Classical in
/-- Calls under way share the items `all` of their iterator. -/
structure SharesOut {σ ε α β γ : Type*} (L : LockedCode σ ε (Anext α) (Anext β))
    (allowed : σ → CallChoice ε → Prop) (g : α → γ) (all : List γ)
    (c : Config (LockedShared σ (Anext α) (Anext β)) (Call (Anext α))) : Prop where
  /-- In the order the calls get the lock. -/
  inOrder : (∀ o ∈ c.shared.taken, L.fails (L.result o) = false) → HandsOut g all c.shared.taken
  once : (c.shared.taken : Multiset (Anext α)) =
    (c.shared.delivered : Multiset (Anext α)) + c.threads.filterMap Call.outcome
  results : c.shared.returned.map Prod.snd = c.shared.delivered.map L.result
  late : ∀ r ∈ c.shared.returned, r.1 = true → r.2 = .stop
  completes : L.Completes allowed c

theorem AsyncRowsIterator.Kept.handsOut {server : Server F} {mayFail : Prop}
    {all : List (Except DriverRowIterationError F.Row)} {phase : Phase}
    {v : Traced (AsyncIteratorState F)} {taken : List (Anext F.Row)}
    (h : AsyncRowsIterator.Kept server mayFail all phase v taken) :
    HandsOut .ok all taken ∨ AsyncRowsIterator.RaisedAfter mayFail all taken := by
  rcases h.2 with ⟨done, k, left, hleft, rfl, rfl, hk⟩ | ⟨hraised, -⟩
  · refine .inl ⟨done, k, rfl, List.prefix_append _ _, fun hpos => ?_⟩
    rw [(hk hpos).left_nil hleft, List.append_nil]
  · exact .inr hraised

theorem AsyncPagesIterator.Handed.handsOut {server : Server F} {core : PageCore F}
    {pages : List (PendingRequestResult F)} {phase : Phase} {v : Traced (PagesState F)}
    {taken : List (Anext (IteratedPage F))}
    (h : AsyncPagesIterator.Handed server core pages phase v taken)
    (hok : ∀ o ∈ taken, (AsyncPagesIterator.result o).fails = false) :
    HandsOut id (.first core :: pages.map .fetched) taken := by
  have hfinished : v.state.finished = false := by
    by_contra hf
    obtain ⟨o, ho, hfails⟩ := h.finished (by simpa using hf)
    rw [hok o ho] at hfails
    cases hfails
  obtain ⟨done, left, tail, rfl, rfl, -, htail, -⟩ := h.handed
  cases htail with
  | @stops k hk =>
    refine ⟨.first core :: done.map .fetched, k, by simp, by simp, fun hpos => ?_⟩
    rcases hk hpos with hf | rfl
    · rw [hfinished] at hf
      cases hf
    · simp
  | raised hf =>
    rw [hfinished] at hf
    cases hf

section

open scoped Classical
open LockedCode

variable {server : Server F} {mayFail : Prop}

theorem AsyncRowsIterator.sharesOut {v : Traced (AsyncIteratorState F)}
    {pages : List (PendingRequestResult F)}
    (hpages : v.state.queryPager.Follows server v.state.factory pages)
    {c : Calls F} (hrun : Run server mayFail (init v) c) :
    SharesOut (code F) (allowed server mayFail) Except.ok
      (v.state.rowsIterator.items ++ pages.flatMap (·.items)) c := by
  set all := v.state.rowsIterator.items ++ pages.flatMap (·.items) with hall
  have hinit : Kept server mayFail all .fresh v [] :=
    ⟨nofun, .inl ⟨[], 0, all, ⟨pages, hpages, hall⟩, rfl, rfl, nofun⟩⟩
  obtain ⟨phase, hturn⟩ := (keeps server mayFail all).run hinit hrun
  have hended := Ends.run (keeps server mayFail all) (ends server mayFail all) hinit hrun
  refine ⟨fun hok => ?_, hturn.pending, returned_eq hrun, fun r hr hlate => ?_, ?_⟩
  · rcases hturn.kept.handsOut with h | ⟨done, err, k, htaken, -⟩
    · exact h
    · have hfails := hok (.raised err.toPyErr) (by simp [htaken])
      cases hfails
  · obtain ⟨o, rfl, hr⟩ := hended.returned r hr hlate
    exact hr
  · have hsize : ∃ n, AtMost server n c.shared.value := by
      rcases hturn.kept.2 with ⟨done, k, left, ⟨pages, hpages, -⟩, -⟩ | ⟨-, hover⟩
      · exact ⟨pages.length, pages, hpages, le_rfl⟩
      · exact ⟨0, hover.atMost 0⟩
    obtain ⟨n, hsize⟩ := hsize
    exact (bounded server mayFail).completes (keeps server mayFail all)
      (fun v => Pager.exists_mayAnswer server mayFail v.state.queryPager) hturn hsize

theorem AsyncPagesIterator.sharesOut {core : PageCore F} {traces : TraceLog}
    {pages : List (PendingRequestResult F)}
    (hpages : core.queryPager.Follows server core.rowFactory pages)
    {c : Calls F} (hrun : Run server mayFail (init ⟨.new core, traces⟩) c) :
    SharesOut (code F) (allowed server mayFail) id (.first core :: pages.map .fetched) c := by
  have hinit : Kept server core pages .fresh ⟨.new core, traces⟩ [] :=
    ⟨rfl, rfl, rfl, rfl, hpages⟩
  obtain ⟨phase, hturn⟩ := (keeps server mayFail core pages).run hinit hrun
  have hended := Ends.run (keeps server mayFail core pages) (ends server core pages) hinit hrun
  refine ⟨fun hok => ?_, hturn.pending, returned_eq hrun, fun r hr hlate => ?_, ?_⟩
  · have hkept := hturn.kept
    cases phase with
    | fresh =>
      obtain ⟨htaken, -⟩ := hkept
      exact ⟨[], 0, htaken, by simp, nofun⟩
    | idle => exact Handed.handsOut hkept hok
    | awaiting => exact Handed.handsOut hkept hok
  · obtain ⟨o, rfl, hr⟩ := hended.returned r hr hlate
    exact hr
  · exact (bounded server mayFail).completes (n := 0) (keeps server mayFail core pages)
      (fun v => Pager.exists_mayAnswer server mayFail v.state.queryPager) hturn trivial

/-- Dropped calls take nothing: the outcomes of the calls that complete, in order, are the
next items of the pages, up to an item that fails. A page fetch that fails or is dropped
changes nothing. -/
theorem paging_cancel_safe (v : Traced (AsyncIteratorState F))
    (pages : List (PendingRequestResult F))
    (hpages : v.state.queryPager.Follows server v.state.factory pages)
    (c : AsyncRowsIterator.Calls F) (hrun : AsyncRowsIterator.Run server False (init v) c) :
    let all := v.state.rowsIterator.items ++ pages.flatMap (·.items)
    (HandsOut .ok all c.shared.taken ∨
      AsyncRowsIterator.RaisedAfter False all c.shared.taken) ∧
    (∀ rows, all = List.map .ok rows → HandsOut .ok all c.shared.taken) ∧
    (AsyncRowsIterator.code F).Completes (AsyncRowsIterator.allowed server False) c ∧
    ∀ (pager : Pager F) (traces : TraceLog) (reply : Option (PageReply F)),
      ((pager.fetchTraced traces reply).1 = none ∨
        ∃ err, (pager.fetchTraced traces reply).1 = some (some (.error err))) →
      (pager.fetchTraced traces reply).2 = (pager, traces) := by
  intro all
  have hinit : AsyncRowsIterator.Kept server False all .fresh v [] :=
    ⟨nofun, .inl ⟨[], 0, all, ⟨pages, hpages, rfl⟩, rfl, rfl, nofun⟩⟩
  obtain ⟨phase, hturn⟩ := (AsyncRowsIterator.keeps server False all).run hinit hrun
  have hout := hturn.kept.handsOut
  refine ⟨hout, fun rows hrows => ?_, (AsyncRowsIterator.sharesOut hpages hrun).completes, ?_⟩
  · rcases hout with h | ⟨done, err, k, -, ⟨rest, hrest⟩ | ⟨hfail, -⟩⟩
    · exact h
    · have hmem : .error err ∈ all := by simp [hrest]
      rw [hrows] at hmem
      simp at hmem
    · exact hfail.elim
  · intro pager traces reply hended
    exact Pager.fetchTraced_of_failed hended

theorem AsyncRowsIterator.Run.call
    {s s' : LockedShared (Traced (AsyncIteratorState F)) (Anext F.Row) (Anext F.Row)}
    {l l' r q : List (Call (Anext F.Row))} {p : Call (Anext F.Row)} {e : CallChoice (PageReply F)}
    (hl : l.Perm (p :: r)) (hl' : (q ++ r).Perm l')
    (hok : p.pc = .awaiting → allowed server mayFail s.value e)
    (h : (code F).step s p e = some (s', q)) : Run server mayFail ⟨s, l⟩ ⟨s', l'⟩ :=
  Program.runIn_perm hl hl' hok h

/-- An iterator at the end of the third of four pages. -/
def afterThird : Traced (AsyncIteratorState numbers) :=
  ⟨⟨.rows [] ⟨fun row => .ok row⟩, .paged (.hasMorePages (3 : Nat)) (), numbersFactory⟩, .untraced⟩

def afterFourth : Traced (AsyncIteratorState numbers) :=
  ⟨⟨.rows [] ⟨fun row => .ok row⟩, .paged .noMorePages (), numbersFactory⟩, .untraced⟩

theorem afterThird_follows : afterThird.state.queryPager.Follows fourPages numbersFactory
    [⟨⟨some ([()], [.ok (3 : Nat)]), none⟩, .paged .noMorePages (), numbersFactory⟩] :=
  .next .last

theorem afterThird_awaits {mayFail : Prop} :
    AsyncRowsIterator.Run fourPages mayFail (init afterThird)
      ⟨⟨afterThird, true, [], [], []⟩, ([⟨false, .awaiting⟩] : List (Call (Anext Nat)))⟩ := by
  set run := AsyncRowsIterator.Run fourPages mayFail
  have hcalled : run (init afterThird)
      ⟨⟨afterThird, false, [], [], []⟩, ([⟨false, .called⟩] : List (Call (Anext Nat)))⟩ :=
    .single ⟨.env (), trivial, rfl⟩
  have hfast : run ⟨⟨afterThird, false, [], [], []⟩, ([⟨false, .called⟩] : List (Call (Anext Nat)))⟩
      ⟨⟨afterThird, true, [], [], []⟩, ([⟨false, .fast⟩] : List (Call (Anext Nat)))⟩ :=
    AsyncRowsIterator.Run.call (e := .go) (.refl _) (.refl _) nofun rfl
  have hslow : run ⟨⟨afterThird, true, [], [], []⟩, ([⟨false, .fast⟩] : List (Call (Anext Nat)))⟩
      ⟨⟨afterThird, false, [], [], []⟩, ([⟨false, .waiting⟩] : List (Call (Anext Nat)))⟩ :=
    AsyncRowsIterator.Run.call (e := .go) (.refl _) (.refl _) nofun rfl
  have hentered : run
      ⟨⟨afterThird, false, [], [], []⟩, ([⟨false, .waiting⟩] : List (Call (Anext Nat)))⟩
      ⟨⟨afterThird, true, [], [], []⟩, ([⟨false, .entered⟩] : List (Call (Anext Nat)))⟩ :=
    AsyncRowsIterator.Run.call (e := .go) (.refl _) (.refl _) nofun rfl
  have hawaits : run
      ⟨⟨afterThird, true, [], [], []⟩, ([⟨false, .entered⟩] : List (Call (Anext Nat)))⟩
      ⟨⟨afterThird, true, [], [], []⟩, ([⟨false, .awaiting⟩] : List (Call (Anext Nat)))⟩ :=
    AsyncRowsIterator.Run.call (e := .go) (.refl _) (.refl _) nofun rfl
  exact hcalled.trans (hfast.trans (hslow.trans (hentered.trans hawaits)))

theorem afterThird_resumes {mayFail : Prop} {waiting : List (Call (Anext Nat))} :
    AsyncRowsIterator.Run fourPages mayFail
      ⟨⟨afterThird, true, [], [], []⟩, ((⟨false, .awaiting⟩ :: waiting : List (Call (Anext Nat))))⟩
      ⟨⟨afterFourth, false, [.item (3 : Nat)], [], []⟩,
        (⟨false, .deliver (.item (3 : Nat))⟩ :: waiting : List (Call (Anext Nat)))⟩ := by
  refine AsyncRowsIterator.Run.call (e := .reply (fourPages.reply () (3 : Nat))) (.refl _) (.refl _) ?_ rfl
  intro _ prepared state hrequest
  cases hrequest
  exact .inl rfl

theorem paging_cancel_safe_dropped :
    ∃ c, AsyncRowsIterator.Run fourPages False (init afterThird) c ∧
      c.shared.taken = [.item (3 : Nat)] ∧
      HandsOut Except.ok (afterThird.state.rowsIterator.items ++ [.ok (3 : Nat)]) c.shared.taken := by
  have hdropped : AsyncRowsIterator.Run fourPages False
      ⟨⟨afterThird, true, [], [], []⟩, ([⟨false, .awaiting⟩] : List (Call (Anext Nat)))⟩
      (init afterThird) :=
    AsyncRowsIterator.Run.call (e := .drop) (.refl _) (.refl _) (fun _ => trivial) rfl
  have hrun := afterThird_awaits.trans (hdropped.trans (afterThird_awaits.trans afterThird_resumes))
  exact ⟨_, hrun, rfl, (paging_cancel_safe afterThird _ afterThird_follows _ hrun).2.1 [3] rfl⟩

/-- Calls on the rows iterator, and calls on the pages iterator, of one page share what
the iterator hands out; page requests may fail. -/
theorem anext_calls_share (core : PageCore F) (traces : TraceLog)
    (pages : List (PendingRequestResult F))
    (hpages : core.queryPager.Follows server core.rowFactory pages) :
    (∀ c, AsyncRowsIterator.Run server True (init ⟨.new core, traces⟩) c →
      SharesOut (AsyncRowsIterator.code F) (AsyncRowsIterator.allowed server True) Except.ok
        ((RowsIteratorKind.new core.page).items ++ pages.flatMap (·.items)) c) ∧
    ∀ c, AsyncPagesIterator.Run server True (init ⟨.new core, traces⟩) c →
      SharesOut (AsyncPagesIterator.code F) (AsyncPagesIterator.allowed server True) id
        (.first core :: pages.map .fetched) c :=
  ⟨fun _ hrun => AsyncRowsIterator.sharesOut (v := ⟨.new core, traces⟩) hpages hrun,
    fun _ hrun => AsyncPagesIterator.sharesOut hpages hrun⟩

/-- The third of the four pages. -/
def thirdPage : PageCore numbers :=
  ⟨numbersFactory, .paged (.hasMorePages (3 : Nat)) (),
    .rows ⟨some ([()], []), none⟩ ⟨fun row => .ok row⟩ rfl⟩

theorem anext_calls_share_two_calls :
    ∃ c, AsyncRowsIterator.Run fourPages True (init ⟨.new thirdPage, .untraced⟩) c ∧
      c.threads = 0 ∧ c.shared.returned = [(false, .item (3 : Nat)), (false, .stop)] ∧
      HandsOut Except.ok ([.ok (3 : Nat)] : List (Except DriverRowIterationError Nat))
        c.shared.taken := by
  set run := AsyncRowsIterator.Run fourPages True
  have hcalled : run
      ⟨⟨afterThird, true, [], [], []⟩, ([⟨false, .awaiting⟩] : List (Call (Anext Nat)))⟩
      ⟨⟨afterThird, true, [], [], []⟩,
        ([⟨false, .called⟩, ⟨false, .awaiting⟩] : List (Call (Anext Nat)))⟩ :=
    .single ⟨.env (), trivial, rfl⟩
  have hwaits : run ⟨⟨afterThird, true, [], [], []⟩,
        ([⟨false, .called⟩, ⟨false, .awaiting⟩] : List (Call (Anext Nat)))⟩
      ⟨⟨afterThird, true, [], [], []⟩,
        ([⟨false, .awaiting⟩, ⟨false, .waiting⟩] : List (Call (Anext Nat)))⟩ :=
    AsyncRowsIterator.Run.call (e := .go) (.refl _) (.swap _ _ _) nofun rfl
  have hreturns : run ⟨⟨afterFourth, false, [.item (3 : Nat)], [], []⟩,
        ([⟨false, .deliver (.item (3 : Nat))⟩, ⟨false, .waiting⟩] : List (Call (Anext Nat)))⟩
      ⟨⟨afterFourth, false, [.item (3 : Nat)], [.item (3 : Nat)], [(false, .item (3 : Nat))]⟩,
        ([⟨false, .waiting⟩] : List (Call (Anext Nat)))⟩ :=
    AsyncRowsIterator.Run.call (e := .go) (.refl _) (.refl _) nofun rfl
  have henters : run
      ⟨⟨afterFourth, false, [.item (3 : Nat)], [.item (3 : Nat)], [(false, .item (3 : Nat))]⟩,
        ([⟨false, .waiting⟩] : List (Call (Anext Nat)))⟩
      ⟨⟨afterFourth, true, [.item (3 : Nat)], [.item (3 : Nat)], [(false, .item (3 : Nat))]⟩,
        ([⟨false, .entered⟩] : List (Call (Anext Nat)))⟩ :=
    AsyncRowsIterator.Run.call (e := .go) (.refl _) (.refl _) nofun rfl
  have hstops : run
      ⟨⟨afterFourth, true, [.item (3 : Nat)], [.item (3 : Nat)], [(false, .item (3 : Nat))]⟩,
        ([⟨false, .entered⟩] : List (Call (Anext Nat)))⟩
      ⟨⟨afterFourth, false, [.item (3 : Nat), .stop], [.item (3 : Nat)],
        [(false, .item (3 : Nat))]⟩, ([⟨false, .deliver .stop⟩] : List (Call (Anext Nat)))⟩ :=
    AsyncRowsIterator.Run.call (e := .go) (.refl _) (.refl _) nofun rfl
  have hreturnsStop : run
      ⟨⟨afterFourth, false, [.item (3 : Nat), .stop], [.item (3 : Nat)],
        [(false, .item (3 : Nat))]⟩, ([⟨false, .deliver .stop⟩] : List (Call (Anext Nat)))⟩
      ⟨⟨afterFourth, false, [.item (3 : Nat), .stop], [.item (3 : Nat), .stop],
        [(false, .item (3 : Nat)), (false, .stop)]⟩, ([] : List (Call (Anext Nat)))⟩ :=
    AsyncRowsIterator.Run.call (e := .go) (.refl _) (.refl _) nofun rfl
  have hrun := afterThird_awaits.trans (hcalled.trans (hwaits.trans (afterThird_resumes.trans
    (hreturns.trans (henters.trans (hstops.trans hreturnsStop))))))
  have hshares := (anext_calls_share thirdPage .untraced _ afterThird_follows).1 _ hrun
  refine ⟨_, hrun, rfl, rfl, hshares.inOrder ?_⟩
  intro o ho
  rcases List.mem_pair.mp ho with rfl | rfl <;> rfl

end

end ScyllaDriver
