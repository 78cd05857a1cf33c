import ScyllaDriver.CriticalSections
import ScyllaDriver.ResponseTending
import ScyllaDriver.ResponseWaiters

/-! The methods of a `ResponseFuture` and its lock. A critical section runs no Python code, so
the lock is given back whatever the threads outside do, and a call comes to its end while
whoever made it waits. -/

namespace ScyllaDriver

/-- The step is made with the lock of the future held. -/
def ResponsePc.isCritical : ResponsePc → Bool
  | .complete _ | .completeDropped _ | .register _ _ | .clearCallbacks | .startFetchingNextPage
  | .waitRows | .waitWhile | .blocked _ | .storeRows _ _ _ | .drain => true
  | .spawn | .request _ | .notify _ | .notifyDropped _ _ | .fireDropped _ _ | .buildRows _ _
  | .invoke _ _ | .drainer | .fire _ _ _ => false

abbrev lockedResponse := responseProgram.guarded ResponsePc.isCritical

def lockedResponseInit : Config (UnderLock ResponseShared) (GuardedPc ResponsePc) :=
  ⟨⟨.new, false⟩, {.outside .spawn}⟩

/-- The runtime is not shut down. -/
def ResponseUp (_ : Config (UnderLock ResponseShared) (GuardedPc ResponsePc))
    (l : Label (GuardedPc ResponsePc) ResponseChoice (GuardedEvent ResponseEvent)) : Prop :=
  l ≠ .env (.event .shutdown)

/-- A blocked thread goes on after it was notified. -/
def ResponseAwoken (c : Config (UnderLock ResponseShared) (GuardedPc ResponsePc))
    (l : Label (GuardedPc ResponsePc) ResponseChoice (GuardedEvent ResponseEvent)) : Prop :=
  ResponseUp c l ∧
    ∀ since e, l = .thread (.outside (.blocked since)) e → since < c.shared.state.epoch

theorem critical_runs (s : ResponseShared) (p : ResponsePc) (h : p.isCritical = true) :
    ∃ e r, responseStep s p e = some r := by
  cases p <;> first | exact ⟨.go, _, rfl⟩ | cases h

/-- The stages of a call of `result()` or of one that registers or clears callbacks. -/
def ResponsePc.IsCall : ResponsePc → Prop
  | .register _ _ | .clearCallbacks | .waitRows | .waitWhile | .blocked _ | .invoke _ _ => True
  | .buildRows _ reader | .storeRows _ _ reader => ∀ page unfired, reader ≠ .drain page unfired
  | _ => False

def GuardedPc.IsCall : GuardedPc ResponsePc → Prop
  | .outside p | .inside p => p.IsCall
  | .look | .looking => True

/-- A call of a `ResponseFuture` while a thread at `p` waits for it, which neither completes
the request nor has to tell so. -/
structure ResponseReached (p : ResponsePc) (x : Followed (UnderLock ResponseShared)
    (GuardedPc ResponsePc)) : Prop where
  run : lockedResponse.RunIn ResponseUp lockedResponseInit (x.config {.outside p})
  notRequest : p.isRequest = false
  notOwes : ¬ p.OwesNotify

theorem sectioned_of_run {c : Config (UnderLock ResponseShared) (GuardedPc ResponsePc)}
    (hr : lockedResponse.RunIn ResponseUp lockedResponseInit c) :
    Sectioned ResponsePc.isCritical c := by
  have hrun : lockedResponse.Run lockedResponseInit c :=
    Relation.ReflTransGen.mono (fun _ _ ⟨l, _, hn⟩ => ⟨l, trivial, hn⟩) _ _ hr
  have hinit : Sectioned ResponsePc.isCritical lockedResponseInit :=
    ⟨rfl, by simp [lockedResponseInit]⟩
  exact Program.preserves_sectioned.run hinit hrun

theorem unguarded_run {c : Config (UnderLock ResponseShared) (GuardedPc ResponsePc)}
    (hr : lockedResponse.RunIn ResponseUp lockedResponseInit c) :
    responseProgram.RunIn ResponseRunning responseInit c.unguarded := by
  have hinit : responseInit = lockedResponseInit.unguarded := rfl
  rw [hinit]
  refine Program.guarded_runIn (fun _ _ _ => nofun) (fun c k hk he => hk ?_) hr
  cases he
  rfl

section Calls

variable {s s' : ResponseShared} {p r : ResponsePc} {q : List ResponsePc}
  {T : Multiset (GuardedPc ResponsePc)} {e : ResponseChoice} {locked : Bool}

abbrev ResponseReturns (p : ResponsePc) (x : Followed (UnderLock ResponseShared)
    (GuardedPc ResponsePc)) : Prop :=
  lockedResponse.CanReturn ResponseAwoken {.outside p} x

theorem awoken_step {c : Config (UnderLock ResponseShared) (GuardedPc ResponsePc)}
    {z : GuardedPc ResponsePc} (hz : ∀ since, z ≠ .outside (.blocked since)) :
    ResponseAwoken c (.thread z e) := by
  refine ⟨nofun, fun since e he => ?_⟩
  cases he
  exact absurd rfl (hz since)

theorem step_outside (hcritical : r.isCritical = false) (h : responseStep s r e = some (s', q)) :
    lockedResponse.step ⟨s, locked⟩ (.outside r) e = some (⟨s', locked⟩, q.map .outside) := by
  have hstep : responseProgram.step s r e = some (s', q) := h
  simp [Program.guarded, hcritical, hstep]

theorem step_enter (hcritical : r.isCritical = true) :
    lockedResponse.step ⟨s, false⟩ (.outside r) e = some (⟨s, true⟩, [.inside r]) := by
  simp [Program.guarded, hcritical]

theorem step_inside (h : responseStep s r e = some (s', q)) :
    lockedResponse.step ⟨s, locked⟩ (.inside r) e = some (⟨s', false⟩, q.map .outside) := by
  have hstep : responseProgram.step s r e = some (s', q) := h
  simp [Program.guarded, hstep]

theorem own_step {t t' : UnderLock ResponseShared} {z z' : GuardedPc ResponsePc}
    (h : lockedResponse.step t z e = some (t', [z']))
    (hz : ∀ since, z ≠ .outside (.blocked since)) :
    lockedResponse.Follow ResponseAwoken {.outside p} ⟨t, z, T⟩ ⟨t', z', T⟩ :=
  .single (.own (awoken_step hz) h)

theorem returns_invoke {registration : Registration} {value : PyObj} :
    ResponseReturns p ⟨⟨s, locked⟩, .outside (.invoke registration value), T⟩ := by
  have hstep : responseStep s (.invoke registration value) .go = some (_, []) := rfl
  exact .now (awoken_step nofun) (step_outside rfl hstep)

/-- What a call does with the rows it was given. -/
theorem returns_todo {z : GuardedPc ResponsePc} {rows : Rows} {reader : RowsReader}
    {s' : UnderLock ResponseShared} (hreader : ∀ page unfired, reader ≠ .drain page unfired)
    (hz : ∀ since, z ≠ .outside (.blocked since))
    (h : lockedResponse.step ⟨s, locked⟩ z e = some (s', (reader.todo rows).map .outside)) :
    ResponseReturns p ⟨⟨s, locked⟩, z, T⟩ := by
  cases reader with
  | result => exact .now (awoken_step hz) h
  | register registration =>
    by_cases hof : Delivery.of rows = registration.delivery
    · simp only [RowsReader.todo, hof, if_true, List.map_cons, List.map_nil] at h
      exact .own (awoken_step hz) h returns_invoke
    · simp only [RowsReader.todo, hof, if_false, List.map_nil] at h
      exact .now (awoken_step hz) h
  | drain page unfired => exact absurd rfl (hreader page unfired)

theorem deliver_eq (s : ResponseShared) (rows : Rows) (reader : RowsReader) :
    ∃ s', s.deliver rows reader = (s', reader.todo rows) := by
  cases reader <;> exact ⟨_, rfl⟩

theorem returns_inside_storeRows {page : ResponsePage} {built : Rows} {reader : RowsReader}
    (hreader : ∀ page unfired, reader ≠ .drain page unfired) :
    ResponseReturns p ⟨⟨s, locked⟩, .inside (.storeRows page built reader), T⟩ := by
  obtain ⟨s', hs⟩ := deliver_eq
    { s with request := (s.request.storeRows page.queryResult built).1 }
    (s.request.storeRows page.queryResult built).2 reader
  have hstep : responseStep s (.storeRows page built reader) .go = some (s', reader.todo _) :=
    congrArg some hs
  exact returns_todo hreader nofun (step_inside hstep)

end Calls

namespace ResponseReached

variable {p r : ResponsePc} {x y : Followed (UnderLock ResponseShared) (GuardedPc ResponsePc)}

theorem follow (h : ResponseReached p x)
    (hf : lockedResponse.Follow ResponseAwoken {.outside p} x y) : ResponseReached p y :=
  ⟨h.run.trans (hf.mono fun _ _ hok => hok.1).runIn, h.notRequest, h.notOwes⟩

theorem release (h : ResponseReached p x) (hpc : x.pc.isInside = false) :
    ∃ y, lockedResponse.Follow ResponseAwoken {.outside p} x y ∧ y.pc = x.pc ∧
      y.shared.locked = false ∧ ∀ r ∈ x.others, r.isInside = false → r ∈ y.others := by
  have : Nonempty ResponseChoice := ⟨.go⟩
  refine (sectioned_of_run h.run).release critical_runs (fun c z e hz => awoken_step ?_) hpc ?_
  · rintro since rfl
    cases hz
  · intro z hz
    rw [Multiset.mem_singleton.mp hz]
    rfl

/-- A call that wants the lock gets it. -/
theorem enters (h : ResponseReached p x) (hx : x.pc = .outside r) (hcritical : r.isCritical = true)
    (hblocked : ∀ since, r ≠ .blocked since) :
    ∃ s T, lockedResponse.Follow ResponseAwoken {.outside p} x ⟨⟨s, true⟩, .inside r, T⟩ := by
  obtain ⟨⟨⟨s, locked⟩, z, T⟩, hf, hpc, hl, -⟩ := h.release (by rw [hx]; rfl)
  obtain rfl : locked = false := hl
  obtain rfl : z = .outside r := hpc.trans hx
  have hok : ResponseAwoken (Followed.config {.outside p} ⟨⟨s, false⟩, .outside r, T⟩)
      (.thread (.outside r) .go) := awoken_step (by simpa using hblocked)
  exact ⟨s, T, hf.tail (.own hok (step_enter hcritical))⟩

/-- A critical section with one thing left to do after it. -/
theorem returns_after {s s' : ResponseShared} {locked : Bool} {r' : ResponsePc}
    {T : Multiset (GuardedPc ResponsePc)} (h : ResponseReached p ⟨⟨s, locked⟩, .inside r, T⟩)
    (hstep : responseStep s r .go = some (s', [r']))
    (hret : ResponseReached p ⟨⟨s', false⟩, .outside r', T⟩ →
      ResponseReturns p ⟨⟨s', false⟩, .outside r', T⟩) :
    ResponseReturns p ⟨⟨s, locked⟩, .inside r, T⟩ := by
  have hguarded : lockedResponse.step ⟨s, locked⟩ (.inside r) .go =
      some (⟨s', false⟩, [.outside r']) := step_inside hstep
  have hown := own_step (p := p) (T := T) hguarded nofun
  exact .of_follow hown (hret (h.follow hown))

theorem returns_storeRows (h : ResponseReached p x) {page : ResponsePage} {built : Rows}
    {reader : RowsReader} (hx : x.pc = .outside (.storeRows page built reader))
    (hreader : ∀ page unfired, reader ≠ .drain page unfired) : ResponseReturns p x := by
  obtain ⟨s, T, hf⟩ := h.enters hx rfl nofun
  exact .of_follow hf (returns_inside_storeRows hreader)

theorem returns_buildRows (h : ResponseReached p x) {rows : PageRows} {reader : RowsReader}
    (hx : x.pc = .outside (.buildRows rows reader))
    (hreader : ∀ page unfired, reader ≠ .drain page unfired) : ResponseReturns p x := by
  obtain ⟨⟨s, locked⟩, z, T⟩ := x
  obtain rfl : z = .outside (.buildRows rows reader) := hx
  cases rows with
  | built rows =>
    obtain ⟨s', hs⟩ := deliver_eq s rows reader
    have hstep : responseStep s (.buildRows (.built rows) reader) .go = some (s', reader.todo _) :=
      congrArg some hs
    exact returns_todo hreader nofun (step_outside rfl hstep)
  | toBuild page =>
    -- The row factory may give any rows; here it gives none.
    have hstep : responseStep s (.buildRows (.toBuild page) reader) (.built (.ok none)) =
        some (_, [.storeRows page (.ok none) reader]) := rfl
    have hguarded : lockedResponse.step ⟨s, locked⟩ (.outside (.buildRows (.toBuild page) reader))
        (.built (.ok none)) = some (_, [.outside (.storeRows page (.ok none) reader)]) :=
      step_outside rfl hstep
    have hown := own_step (p := p) (T := T) hguarded nofun
    exact .of_follow hown ((h.follow hown).returns_storeRows rfl hreader)

/-- `result()` of a request that has settled, with the lock free. -/
theorem returns_settled (h : ResponseReached p x) (hx : x.pc = .outside .waitRows)
    (hl : x.shared.locked = false) (hsettled : x.shared.state.request.isPending = false) :
    ResponseReturns p x := by
  obtain ⟨⟨s, locked⟩, z, T⟩ := x
  obtain rfl : z = .outside .waitRows := hx
  obtain rfl : locked = false := hl
  cases hrows : s.request.rows with
  | none =>
    rw [RequestState.rows_eq_none.mp hrows] at hsettled
    cases hsettled
  | some rows =>
    have hstep : responseStep s .waitRows .go = some (s, [.buildRows rows .result]) := by
      simp [responseStep, ResponseShared.waitRows, hrows]
    have henter : lockedResponse.step ⟨s, false⟩ (.outside .waitRows) .go =
        some (⟨s, true⟩, [.inside .waitRows]) := step_enter rfl
    have hinside : lockedResponse.step ⟨s, true⟩ (.inside .waitRows) .go =
        some (⟨s, false⟩, [.outside (.buildRows rows .result)]) := step_inside hstep
    have hread := (own_step (p := p) (T := T) henter (by simp)).trans (own_step hinside (by simp))
    exact .of_follow hread ((h.follow hread).returns_buildRows rfl (by simp))

theorem tended (h : ResponseReached p x) :
    ∃ owner, Tended owner (x.config {.outside p}).unguarded := by
  obtain ⟨owner, ht, -⟩ := response_invariant (I := fun _ _ => True)
    (fun _ _ _ => trivial) (fun _ _ _ => trivial) trivial (unguarded_run h.run)
  exact ⟨owner, ht⟩

theorem kept (h : ResponseReached p x) : responseWaiting.Kept
    (x.shared.state.request.isPending = false) (x.config {.outside p}).unguarded := by
  have hrun : responseProgram.Run responseInit (x.config {.outside p}).unguarded :=
    Relation.ReflTransGen.mono (fun _ _ ⟨l, _, hn⟩ => ⟨l, trivial, hn⟩) _ _ (unguarded_run h.run)
  exact response_waiters hrun

/-- The threads of the program are those of the guarded one. -/
theorem exists_guarded (h : ResponseReached p x) (hl : x.shared.locked = false)
    (hr : r ∈ (x.config {.outside p}).unguarded.threads) (hp : r ≠ p)
    (hpc : x.pc.thread ≠ some r) : .outside r ∈ x.others := by
  obtain ⟨z, hz, hthread⟩ := (Multiset.mem_filterMap _ _).mp hr
  have hsectioned := sectioned_of_run h.run
  have hout : z = .outside r := by
    cases z with
    | outside q => exact congrArg _ (Option.some.inj hthread)
    | inside q =>
      have hlocked : x.shared.locked = true :=
        hsectioned.oneInside.locked_of_inside (p := .inside q) hz rfl
      cases hl.symm.trans hlocked
    | look | looking => cases hthread
  subst hout
  rcases Multiset.mem_cons.mp hz with hz | hz
  · exact absurd (hz ▸ rfl) hpc
  · refine (Multiset.mem_add.mp hz).resolve_right fun hstill => hp ?_
    exact GuardedPc.outside.inj (Multiset.mem_singleton.mp hstill)

/-- The lock is free and the request of the page has settled. -/
def Settles (p : ResponsePc) (x : Followed (UnderLock ResponseShared) (GuardedPc ResponsePc)) :
    Prop :=
  ∃ y, lockedResponse.Follow ResponseAwoken {.outside p} x y ∧ y.pc = x.pc ∧
    y.shared.locked = false ∧ y.shared.state.request.isPending = false

section Settling

variable {s : ResponseShared} {z : GuardedPc ResponsePc} {T : Multiset (GuardedPc ResponsePc)}

theorem complete_settles (s : ResponseShared) (outcome : Except PyErr ResponsePage) :
    (s.complete outcome).1.request.isPending = false := by
  have hrequest : (s.complete outcome).1.request =
      s.request.settle outcome (s.unfiredFor outcome) := by
    simp only [ResponseShared.complete]
    split
    · simp only [ResponseShared.wakeDrainer]
      split <;> rfl
    · rfl
  rw [hrequest]
  exact RequestState.settle_isPending s.request outcome (s.unfiredFor outcome)

theorem settles_complete {outcome : Except PyErr ResponsePage}
    (hmem : .outside (.complete outcome) ∈ T) : Settles p ⟨⟨s, false⟩, z, T⟩ := by
  have henter : lockedResponse.Follow ResponseAwoken {.outside p} ⟨⟨s, false⟩, z, T⟩ _ :=
    .step_to (e := .go) hmem (awoken_step nofun) (step_enter rfl)
  obtain ⟨s', q, hstep, hsettled⟩ : ∃ s' q, responseStep s (.complete outcome) .go = some (s', q) ∧
      s'.request.isPending = false := ⟨_, _, rfl, complete_settles s outcome⟩
  have hdone := henter.trans (Program.Follow.step_other (e := .go) (Multiset.mem_cons_self _ _)
    (awoken_step nofun) (step_inside hstep))
  exact ⟨_, hdone, rfl, rfl, hsettled⟩

theorem settles_request {polled : Bool} (hmem : .outside (.request polled) ∈ T) :
    Settles p ⟨⟨s, false⟩, z, T⟩ := by
  have hstep : responseStep s (.request polled) (.fails exhaustedErr) =
      some (s, [.complete (.error exhaustedErr)]) := rfl
  have hfails : lockedResponse.Follow ResponseAwoken {.outside p} ⟨⟨s, false⟩, z, T⟩ _ :=
    .step_to hmem (awoken_step nofun) (step_outside rfl hstep)
  obtain ⟨y, hf, hy⟩ := settles_complete (p := p) (s := s) (z := z) (Multiset.mem_cons_self _ _)
  exact ⟨y, hfails.trans hf, hy⟩

theorem settles_spawn (hmem : .outside .spawn ∈ T) : Settles p ⟨⟨s, false⟩, z, T⟩ := by
  have hstep : responseStep s .spawn .go = some (s, [.request false]) := rfl
  have hspawn : lockedResponse.Follow ResponseAwoken {.outside p} ⟨⟨s, false⟩, z, T⟩ _ :=
    .step_to hmem (awoken_step nofun) (step_outside rfl hstep)
  obtain ⟨y, hf, hy⟩ := settles_request (p := p) (s := s) (z := z) (Multiset.mem_cons_self _ _)
  exact ⟨y, hspawn.trans hf, hy⟩

end Settling

/-- Whoever owes a `notify` calls it outside the lock. -/
theorem owes_step (s : ResponseShared) (h : r.OwesNotify) :
    ∃ e n q, r.isCritical = false ∧ responseStep s r e = some (s.notify n, q) ∧ 0 < n := by
  cases r with
  | notify n => exact ⟨.go, n, _, rfl, rfl, h⟩
  | notifyDropped n registered => exact ⟨.dropped 0, n, _, rfl, rfl, h⟩
  | _ => exact h.elim

theorem becomes_settled (h : ResponseReached p x) {since : Nat}
    (hx : x.pc = .outside (.blocked since)) : Settles p x := by
  obtain ⟨⟨⟨s, locked⟩, z, T⟩, hf, hpc, hl, -⟩ := h.release (by rw [hx]; rfl)
  obtain rfl : locked = false := hl
  obtain rfl : z = .outside (.blocked since) := hpc.trans hx
  have hy := h.follow hf
  cases hpending : s.request.isPending with
  | false => exact ⟨_, hf, hpc, rfl, hpending⟩
  | true =>
    -- Some thread has the request of the page; it is neither the call nor its caller.
    obtain ⟨owner, ht⟩ := hy.tended
    have hone : s.request.isPending.toNat = 1 := by rw [hpending]; rfl
    obtain ⟨r, hr, hrequest⟩ := Multiset.countP_pos.mp
      (Nat.zero_lt_one.trans_eq (ht.requests.trans hone).symm)
    have hmem : .outside r ∈ T := by
      refine hy.exists_guarded rfl hr ?_ ?_
      · rintro rfl
        cases hy.notRequest.symm.trans hrequest
      · intro he
        cases he
        cases hrequest
    have hsettles : Settles p ⟨⟨s, false⟩, .outside (.blocked since), T⟩ := by
      cases r with
      | spawn => exact settles_spawn hmem
      | request polled => exact settles_request hmem
      | complete outcome => exact settles_complete hmem
      | completeDropped obj => exact absurd hr (ht.undropped obj)
      | _ => cases hrequest
    obtain ⟨y, hf', hpc', hy'⟩ := hsettles
    exact ⟨y, hf.trans hf', hpc'.trans hpc, hy'⟩

/-- The next step of a thread that was notified of a request that has settled. -/
theorem returns_notified (h : ResponseReached p x) {since : Nat}
    (hx : x.pc = .outside (.blocked since)) (hl : x.shared.locked = false)
    (hsettled : x.shared.state.request.isPending = false)
    (hsince : since < x.shared.state.epoch) : ResponseReturns p x := by
  obtain ⟨⟨s, locked⟩, z, T⟩ := x
  obtain rfl : z = .outside (.blocked since) := hx
  obtain rfl : locked = false := hl
  have hok : ResponseAwoken (Followed.config {.outside p} ⟨⟨s, false⟩, .outside (.blocked since), T⟩)
      (.thread (.outside (.blocked since)) .go) := by
    refine ⟨nofun, fun since' e he => ?_⟩
    cases he
    exact hsince
  have henter : lockedResponse.Follow ResponseAwoken {.outside p}
      ⟨⟨s, false⟩, .outside (.blocked since), T⟩ _ := .single (.own hok (step_enter rfl))
  have hwake : responseStep s (.blocked since) .go =
      some ({ s with waiters := s.waiters - 1 }, [.waitRows]) := by
    have hpending : s.request.isPending = false := hsettled
    simp [responseStep, ResponseShared.wakeUp, hpending]
  have hguarded : lockedResponse.step ⟨s, true⟩ (.inside (.blocked since)) .go =
      some (⟨_, false⟩, [.outside .waitRows]) := step_inside hwake
  have hread := henter.trans (own_step hguarded (by simp))
  exact .of_follow hread ((h.follow hread).returns_settled rfl rfl hsettled)

theorem returns_blocked (h : ResponseReached p x) {since : Nat}
    (hx : x.pc = .outside (.blocked since)) : ResponseReturns p x := by
  obtain ⟨⟨⟨s, locked⟩, z, T⟩, hf, hpc, hl, hsettled⟩ := h.becomes_settled hx
  obtain rfl : locked = false := hl
  obtain rfl : z = .outside (.blocked since) := hpc.trans hx
  have hy := h.follow hf
  refine .of_follow hf ?_
  have hthread : ResponsePc.blocked since ∈
      (Followed.config {.outside p} ⟨⟨s, false⟩, .outside (.blocked since), T⟩).unguarded.threads :=
    (Multiset.mem_filterMap _ _).mpr ⟨_, Multiset.mem_cons_self _ _, rfl⟩
  have hle : since ≤ s.epoch := hy.kept.since _ hthread since rfl
  rcases hy.kept.notified hsettled _ hthread since rfl with hlt | ⟨r, hr, howes⟩
  · exact hy.returns_notified rfl rfl hsettled hlt
  · have hmem : .outside r ∈ T := by
      refine hy.exists_guarded rfl hr ?_ ?_
      · rintro rfl
        exact hy.notOwes howes
      · intro he
        cases he
        exact howes
    obtain ⟨e, n, q, hcritical, hstep, hn⟩ := owes_step s howes
    have hnotify : lockedResponse.Follow ResponseAwoken {.outside p}
        ⟨⟨s, false⟩, .outside (.blocked since), T⟩ _ :=
      .step_other hmem (awoken_step (by rintro t ⟨⟩; exact howes)) (step_outside hcritical hstep)
    have hlt : since < (s.notify n).epoch := hle.trans_lt ((s.notify_epoch n).2 hn)
    exact .of_follow hnotify ((hy.follow hnotify).returns_notified rfl rfl hsettled hlt)

theorem returns_inside_waitWhile (h : ResponseReached p x) (hx : x.pc = .inside .waitWhile) :
    ResponseReturns p x := by
  obtain ⟨⟨s, locked⟩, z, T⟩ := x
  obtain rfl : z = .inside .waitWhile := hx
  cases hpending : s.request.isPending with
  | true =>
    have hstep : responseStep s .waitWhile .go =
        some ({ s with waiters := s.waiters + 1 }, [.blocked s.epoch]) := by
      simp [responseStep, ResponseShared.waitWhile, hpending]
    exact h.returns_after hstep fun h => h.returns_blocked rfl
  | false =>
    have hstep : responseStep s .waitWhile .go = some (s, [.waitRows]) := by
      simp [responseStep, ResponseShared.waitWhile, hpending]
    exact h.returns_after hstep fun h => h.returns_settled rfl rfl hpending

theorem returns_waitWhile (h : ResponseReached p x) (hx : x.pc = .outside .waitWhile) :
    ResponseReturns p x := by
  obtain ⟨s, T, hf⟩ := h.enters hx rfl nofun
  exact .of_follow hf ((h.follow hf).returns_inside_waitWhile rfl)

theorem returns_inside_waitRows (h : ResponseReached p x) (hx : x.pc = .inside .waitRows) :
    ResponseReturns p x := by
  obtain ⟨⟨s, locked⟩, z, T⟩ := x
  obtain rfl : z = .inside .waitRows := hx
  cases hrows : s.request.rows with
  | none =>
    have hstep : responseStep s .waitRows .go = some (s, [.waitWhile]) := by
      simp [responseStep, ResponseShared.waitRows, hrows]
    exact h.returns_after hstep fun h => h.returns_waitWhile rfl
  | some rows =>
    have hstep : responseStep s .waitRows .go = some (s, [.buildRows rows .result]) := by
      simp [responseStep, ResponseShared.waitRows, hrows]
    exact h.returns_after hstep fun h => h.returns_buildRows rfl (by simp)

theorem returns_inside_blocked (h : ResponseReached p x) {since : Nat}
    (hx : x.pc = .inside (.blocked since)) : ResponseReturns p x := by
  obtain ⟨⟨s, locked⟩, z, T⟩ := x
  obtain rfl : z = .inside (.blocked since) := hx
  cases hpending : s.request.isPending with
  | true =>
    have hstep : responseStep s (.blocked since) .go = some (s, [.blocked s.epoch]) := by
      simp [responseStep, ResponseShared.wakeUp, hpending]
    exact h.returns_after hstep fun h => h.returns_blocked rfl
  | false =>
    have hstep : responseStep s (.blocked since) .go =
        some ({ s with waiters := s.waiters - 1 }, [.waitRows]) := by
      simp [responseStep, ResponseShared.wakeUp, hpending]
    exact h.returns_after hstep fun h => h.returns_settled rfl rfl hpending

theorem returns_inside_register (h : ResponseReached p x) {delivery : Delivery}
    {callback : LegacyCallback} (hx : x.pc = .inside (.register delivery callback)) :
    ResponseReturns p x := by
  obtain ⟨⟨s, locked⟩, z, T⟩ := x
  obtain rfl : z = .inside (.register delivery callback) := hx
  obtain ⟨s', q, hstep⟩ : ∃ s' q, responseStep s (.register delivery callback) .go = some (s', q) :=
    ⟨_, _, rfl⟩
  cases responseStep_move hstep with
  | joins | registers => exact .now (awoken_step nofun) (step_inside hstep)
  | late => exact h.returns_after hstep fun h => h.returns_buildRows rfl nofun

theorem returns_inside (h : ResponseReached p x) (hx : x.pc = .inside r) (hcall : r.IsCall) :
    ResponseReturns p x := by
  cases r with
  | waitRows => exact h.returns_inside_waitRows hx
  | waitWhile => exact h.returns_inside_waitWhile hx
  | blocked since => exact h.returns_inside_blocked hx
  | register delivery callback => exact h.returns_inside_register hx
  | storeRows page built reader =>
    obtain ⟨⟨s, locked⟩, z, T⟩ := x
    obtain rfl : z = .inside (.storeRows page built reader) := hx
    exact returns_inside_storeRows hcall
  | clearCallbacks =>
    obtain ⟨⟨s, locked⟩, z, T⟩ := x
    obtain rfl : z = .inside .clearCallbacks := hx
    have hstep : responseStep s .clearCallbacks .go = some (_, []) := rfl
    exact .now (awoken_step nofun) (step_inside hstep)
  | buildRows rows reader | invoke registration value =>
    have hmem : x.pc ∈ (x.config {.outside p}).threads := Multiset.mem_cons_self _ _
    rw [hx] at hmem
    cases (sectioned_of_run h.run).critical _ hmem
  | _ => exact hcall.elim

/-- Every call returns, at whatever stage it is. -/
theorem returns (h : ResponseReached p x) (hcall : x.pc.IsCall) : ResponseReturns p x := by
  cases hx : x.pc with
  | inside r => exact h.returns_inside hx (by rwa [hx] at hcall)
  | outside r =>
    have hr : r.IsCall := by rwa [hx] at hcall
    have hentered (hcritical : r.isCritical = true) (hblocked : ∀ since, r ≠ .blocked since) :
        ResponseReturns p x := by
      obtain ⟨s, T, hf⟩ := h.enters hx hcritical hblocked
      exact .of_follow hf ((h.follow hf).returns_inside rfl hr)
    cases r with
    | buildRows rows reader => exact h.returns_buildRows hx hr
    | blocked since => exact h.returns_blocked hx
    | invoke registration value =>
      obtain ⟨⟨s, locked⟩, z, T⟩ := x
      obtain rfl : z = .outside (.invoke registration value) := hx
      exact returns_invoke
    | register | clearCallbacks | waitRows | waitWhile | storeRows => exact hentered rfl nofun
    | _ => exact hr.elim
  | look =>
    obtain ⟨⟨⟨s, locked⟩, z, T⟩, hf, hpc, hl, -⟩ := h.release (by rw [hx]; rfl)
    obtain rfl : locked = false := hl
    obtain rfl : z = .look := hpc.trans hx
    have hlook : lockedResponse.step ⟨s, false⟩ .look .go = some (⟨s, true⟩, [.looking]) := rfl
    exact .of_follow hf (.own (awoken_step nofun) hlook (.now (e := .go) (awoken_step nofun) rfl))
  | looking =>
    obtain ⟨s, z, T⟩ := x
    obtain rfl : z = .looking := hx
    exact .now (e := .go) (awoken_step nofun) rfl

end ResponseReached

theorem ResponseMove.call_stays {s s' : ResponseShared} {p : ResponsePc} {q : List ResponsePc}
    (hm : ResponseMove s p s' q) (hcall : p.IsCall) : ∀ r ∈ q, r.IsCall := by
  have htodo {reader : RowsReader} {rows : Rows}
      (hreader : ∀ page unfired, reader ≠ .drain page unfired) :
      ∀ r ∈ reader.todo rows, r.IsCall := by
    cases reader with
    | result => simp [RowsReader.todo]
    | register registration =>
      simp only [RowsReader.todo]
      split <;> simp [ResponsePc.IsCall]
    | drain page unfired => exact absurd rfl (hreader page unfired)
  cases hm with
  | reads => exact htodo hcall
  | stores => exact htodo hcall
  | builds =>
    intro r hr
    rw [List.mem_singleton.mp hr]
    exact hcall
  | late | waitRowsPending | waitRowsSettled | waitBegins | waitSkips | waitAgain | waitLeaves =>
    simp [ResponsePc.IsCall]
  | joins | registers | clear | invoke => simp
  | _ => exact hcall.elim

/-- A call stays one, whatever happens meanwhile. -/
theorem GuardedPc.IsCall.follow {x y : Followed (UnderLock ResponseShared) (GuardedPc ResponsePc)}
    {still : Multiset (GuardedPc ResponsePc)} (hx : x.pc.IsCall)
    (h : lockedResponse.Follow ResponseUp still x y) : y.pc.IsCall := by
  induction h with
  | refl => exact hx
  | tail _ hstep ih =>
    cases hstep with
    | other | env => exact ih
    | @own s z T e s' z' hok hs =>
      have hmoved {r : ResponsePc} {s'' : ResponseShared} {q : List ResponsePc} (hr : r.IsCall)
          (hq : responseStep s.state r e = some (s'', q)) (hz : q.map .outside = [z']) :
          z'.IsCall := by
        obtain ⟨r', rfl, rfl⟩ := List.map_eq_singleton_iff.mp hz
        exact (responseStep_move hq).call_stays hr r' (by simp)
      cases z with
      | outside r =>
        simp only [Program.guarded] at hs
        split at hs
        · split at hs
          · cases hs
          · cases hs
            exact ih
        · obtain ⟨q, hq, he⟩ := Option.map_eq_some_iff.mp hs
          exact hmoved ih hq (Prod.mk.inj he).2
      | inside r =>
        obtain ⟨q, hq, he⟩ := Option.map_eq_some_iff.mp hs
        exact hmoved ih hq (Prod.mk.inj he).2
      | look =>
        simp only [Program.guarded] at hs
        split at hs
        · cases hs
        · cases hs
          trivial
      | looking => cases hs

end ScyllaDriver
