import ScyllaDriver.ResponseLate

/-! The pages of a `ResponseFuture`: each has its callbacks called once and in
page order, and none waits without a drainer that will come to it. -/

namespace ScyllaDriver

/-- What has been called for a page is the beginning of what is due for it. -/
theorem Deliveries.begun {owner : Option ResponsePc} {s : ResponseShared} {k : Nat}
    (h : Deliveries owner s) (hk : k < s.settled.length) :
    s.firedFor k = [] ∨ ∃ rows, s.Fits k (.built rows) ∧ s.firedFor k <+: s.owed k rows := by
  by_cases hl : k ∈ line owner s
  · rcases List.mem_append.mp hl with hown | hwait
    · obtain ⟨p, hp, hpk⟩ : ∃ p, owner = some p ∧ p.page = some k := by
        simpa [Option.bind_eq_some_iff] using hown
      have hhand := h.hand p hp
      cases p with
      | buildRows rows reader | storeRows page built reader =>
        cases reader with
        | drain n unfired =>
          cases hpk
          exact .inl hhand.2
        | _ => cases hpk
      | fire n cbs value =>
        cases hpk
        obtain ⟨rows, hfits, -, hcalls⟩ := hhand
        exact .inr ⟨rows, hfits, _, hcalls⟩
      | _ => cases hpk
    · rcases List.mem_append.mp hwait with hq | hc
      · obtain ⟨u, hu, rfl⟩ := List.mem_map.mp hq
        exact .inl (h.queued u hu).2
      · cases hun : s.request.unfired with
        | none => simp [hun] at hc
        | some unfired =>
          have hkc : k = s.current := by simpa [hun] using hc
          rw [hkc]
          exact .inl (h.current unfired hun).2
  · rcases h.done k hk hl with ⟨rows, hfits, hcalls⟩ | ⟨-, hnone⟩
    · exact .inr ⟨rows, hfits, by rw [hcalls]⟩
    · exact .inl hnone

theorem Tended.line_eq_nil {owner : Option ResponsePc} {c : Config ResponseShared ResponsePc}
    (h : Tended owner c) (hno : ∀ p ∈ c.threads, p.isDrainer = false) :
    line owner c.shared = [] := by
  have hnone : owner = none := by
    cases owner with
    | none => rfl
    | some p =>
      obtain ⟨hp, hd⟩ := h.token.mem
      rw [hno p hp] at hd
      cases hd
  subst hnone
  have hpermit : c.shared.permit = true := h.token.permit_eq
  by_contra hne
  rw [h.stocked hne] at hpermit
  cases hpermit

theorem Enrolled.due_next {c d : Config ResponseShared ResponsePc} {owner : Option ResponsePc}
    {l : Label ResponsePc ResponseChoice ResponseEvent} (h : Enrolled c) (ht : Tended owner c)
    (hn : responseProgram.next c l = some d) (k : Nat) (delivery : Delivery) :
    c.shared.due k delivery <+: d.shared.due k delivery := by
  rcases Program.next_cases hn with ⟨p, e, T, s, q, -, hc, hs, rfl⟩ | ⟨e, s, q, -, hs, rfl⟩
  · rw [hc] at h ht
    have hdrop : ∀ obj, p ≠ .completeDropped obj :=
      fun obj he => ht.undropped obj (he ▸ Multiset.mem_cons_self p T)
    exact h.due_grows (responseStep_move hs) hdrop k delivery
  · cases responseEnv_arrival hs <;> exact List.prefix_refl _

/-- The drainer calls the callbacks of every page, those registered when it
settled and those that joined it, once each, with its rows or error, and page
after page; nothing takes a callback from a page that settled; and a callback
registered on a settled page with nothing unfired is called at once by the
thread that registers it. -/
theorem pages_fire_in_order {c : Config ResponseShared ResponsePc}
    (hr : responseProgram.RunIn ResponseRunning responseInit c) :
    (∀ k < c.shared.settled.length, c.shared.firedFor k = [] ∨
      ∃ rows, c.shared.Fits k (.built rows) ∧ c.shared.firedFor k <+: c.shared.owed k rows) ∧
    ((∀ p ∈ c.threads, p.isDrainer = false) →
      ∀ k < c.shared.settled.length, c.shared.Delivered k) ∧
    c.shared.fired.Pairwise (·.page ≤ ·.page) ∧
    (∀ i ∈ c.shared.fired, ∀ k < i.page, c.shared.Delivered k) ∧
    (∀ k delivery, (c.shared.due k delivery).Nodup) ∧
    (∀ l d, responseProgram.next c l = some d →
      ∀ k delivery, c.shared.due k delivery <+: d.shared.due k delivery) ∧
    (∀ r ∈ c.shared.late, (∀ delivery, r.callback ∉ c.shared.due r.page delivery) ∧
      ((∀ p ∈ c.threads, p.sees ≠ some r) →
        ∃ rows, c.shared.Fits r.page (.built rows) ∧
          c.shared.invokedFor r.callback = ResponseShared.lateCalls r rows)) ∧
    (c.shared.settled.Pairwise fun x y => ∀ page page', x.outcome = .ok page →
      y.outcome = .ok page' → page.queryResult ≠ page'.queryResult) := by
  obtain ⟨owner, ht, -, hfresh, hdel⟩ := response_deliveries hr
  obtain ⟨owner', ht', -, henrol, hlate⟩ := response_registrations hr
  refine ⟨fun k hk => hdel.begun hk, fun hno k hk => ?_, hdel.sorted, fun i hi k hk => ?_,
    fun k delivery => (henrol.due k delivery).nodup henrol.entered_nodup,
    fun l d hn k delivery => henrol.due_next ht' hn k delivery,
    fun r hr => ⟨henrol.lateDue r hr, hlate.done r hr⟩, hfresh.distinct⟩
  · exact hdel.done k hk (by simp [ht.line_eq_nil hno])
  · refine hdel.done k (hk.trans (hdel.past i hi)) fun hl => ?_
    have := hdel.ahead i hi k hl
    omega

/-- One page with one callback. -/
theorem pages_fire_in_order_one_page :
    ∃ c, responseProgram.RunIn ResponseRunning responseInit c ∧ c.threads = 0 ∧
      c.shared.fired = [⟨0, ⟨10, [], none, 0⟩, ⟨10, [77], none⟩⟩] ∧ c.shared.Delivered 0 := by
  have hsettled : responseProgram.RunIn ResponseRunning responseInit
      ⟨{ ResponseShared.new with
          request := .received ⟨0, false, none⟩ none (some ⟨[⟨10, [], none, 0⟩], []⟩),
          permit := false, nextResult := 1, registrations := 1, entered := [⟨10, [], none, 0⟩],
          settled := [⟨.ok ⟨0, false, none⟩, ⟨[⟨10, [], none, 0⟩], []⟩⟩] },
        {.drainer}⟩ :=
    Program.exec_runIn [.env (.addCallback 10 [] none),
      .thread (.register .callbacks ⟨10, [], none, 0⟩) .go, .thread .spawn .go,
      .thread (.request false) (.receives false none),
      .thread (.complete (.ok ⟨0, false, none⟩)) .go, .thread (.notify 0) .go]
      (by simp [ResponseRunning]) rfl
  have hrun : responseProgram.RunIn ResponseRunning responseInit
      ⟨{ ResponseShared.new with
          request := .received ⟨0, false, none⟩ (some (.ok (some 77))) none,
          nextResult := 1, registrations := 1, entered := [⟨10, [], none, 0⟩],
          settled := [⟨.ok ⟨0, false, none⟩, ⟨[⟨10, [], none, 0⟩], []⟩⟩],
          built := [(0, .ok (some 77))], fired := [⟨0, ⟨10, [], none, 0⟩, ⟨10, [77], none⟩⟩] },
        0⟩ :=
    hsettled.trans (Program.exec_runIn [.thread .drainer .go, .thread .drain .go,
      .thread (.buildRows (.toBuild ⟨0, false, none⟩) (.drain 0 ⟨[⟨10, [], none, 0⟩], []⟩))
        (.built (.ok (some 77))),
      .thread (.storeRows ⟨0, false, none⟩ (.ok (some 77))
        (.drain 0 ⟨[⟨10, [], none, 0⟩], []⟩)) .go,
      .thread (.fire 0 [⟨10, [], none, 0⟩] 77) .go, .thread (.fire 0 [] 77) .go,
      .thread .drain .go] (by simp [ResponseRunning]) rfl)
  exact ⟨_, hrun, rfl, rfl, (pages_fire_in_order hrun).2.1 (by simp) 0 Nat.one_pos⟩

/-- A page that settled with a callback was paged past before the drainer came
to it, and another callback is about to be registered. -/
def pagedPast : Config ResponseShared ResponsePc :=
  ⟨{ ResponseShared.new with
      request := .pending (some ⟨0, true, none⟩), registered := ⟨[⟨10, [], none, 0⟩], []⟩,
      unfiredPages := [⟨0, .toBuild ⟨0, true, none⟩, ⟨[⟨10, [], none, 0⟩], []⟩⟩],
      permit := false, nextResult := 1, registrations := 2, entered := [⟨10, [], none, 0⟩],
      settled := [⟨.ok ⟨0, true, none⟩, ⟨[⟨10, [], none, 0⟩], []⟩⟩] },
    {.register .callbacks ⟨11, [], none, 1⟩, .spawn, .drainer}⟩

/-- A callback registered while an earlier page, paged past, is still unfired
is not called for that page. -/
theorem paged_past_not_joined :
    ∃ d, responseProgram.RunIn ResponseRunning responseInit pagedPast ∧
      (∃ u ∈ pagedPast.shared.unfiredPages, u.page = 0 ∧ u.unfired.callbacks ≠ []) ∧
      pagedPast.shared.firedFor 0 = [] ∧
      .register .callbacks ⟨11, [], none, 1⟩ ∈ pagedPast.threads ∧
      responseProgram.RunIn ResponseRunning pagedPast d ∧ d.threads = 0 ∧
      d.shared.Fits 0 (.built (.ok (some 70))) ∧
      d.shared.firedFor 0 = [⟨0, ⟨10, [], none, 0⟩, ⟨10, [70], none⟩⟩] ∧ d.shared.invoked = [] := by
  have hpast : responseProgram.RunIn ResponseRunning responseInit pagedPast :=
    Program.exec_runIn [.env (.addCallback 10 [] none),
      .thread (.register .callbacks ⟨10, [], none, 0⟩) .go, .thread .spawn .go,
      .thread (.request false) (.receives true none),
      .thread (.complete (.ok ⟨0, true, none⟩)) .go, .thread (.notify 0) .go,
      .env .startFetchingNextPage, .thread .startFetchingNextPage .go,
      .env (.addCallback 11 [] none)] (by simp [ResponseRunning]) rfl
  have hfirst : responseProgram.RunIn ResponseRunning pagedPast
      ⟨{ ResponseShared.new with
          request := .pending (some ⟨0, true, none⟩),
          registered := ⟨[⟨10, [], none, 0⟩, ⟨11, [], none, 1⟩], []⟩,
          nextResult := 1, registrations := 2,
          entered := [⟨10, [], none, 0⟩, ⟨11, [], none, 1⟩],
          settled := [⟨.ok ⟨0, true, none⟩, ⟨[⟨10, [], none, 0⟩], []⟩⟩],
          built := [(0, .ok (some 70))], fired := [⟨0, ⟨10, [], none, 0⟩, ⟨10, [70], none⟩⟩] },
        {.spawn}⟩ :=
    Program.exec_runIn [.thread (.register .callbacks ⟨11, [], none, 1⟩) .go,
      .thread .drainer .go, .thread .drain .go,
      .thread (.buildRows (.toBuild ⟨0, true, none⟩) (.drain 0 ⟨[⟨10, [], none, 0⟩], []⟩))
        (.built (.ok (some 70))),
      .thread (.storeRows ⟨0, true, none⟩ (.ok (some 70))
        (.drain 0 ⟨[⟨10, [], none, 0⟩], []⟩)) .go,
      .thread (.fire 0 [⟨10, [], none, 0⟩] 70) .go, .thread (.fire 0 [] 70) .go,
      .thread .drain .go] (by simp [ResponseRunning]) rfl
  have hsecond : responseProgram.RunIn ResponseRunning pagedPast
      ⟨{ ResponseShared.new with
          request := .failed inFlightErr (some ⟨0, true, none⟩) none,
          registered := ⟨[⟨10, [], none, 0⟩, ⟨11, [], none, 1⟩], []⟩,
          nextResult := 1, registrations := 2,
          entered := [⟨10, [], none, 0⟩, ⟨11, [], none, 1⟩],
          settled := [⟨.ok ⟨0, true, none⟩, ⟨[⟨10, [], none, 0⟩], []⟩⟩,
            ⟨.error inFlightErr, ⟨[⟨10, [], none, 0⟩, ⟨11, [], none, 1⟩], []⟩⟩],
          built := [(0, .ok (some 70))], fired := [⟨0, ⟨10, [], none, 0⟩, ⟨10, [70], none⟩⟩] },
        0⟩ :=
    hfirst.trans (Program.exec_runIn [.thread .spawn .go,
      .thread (.request false) (.fails inFlightErr),
      .thread (.complete (.error inFlightErr)) .go, .thread (.notify 0) .go]
      (by simp [ResponseRunning]) rfl)
  refine ⟨_, hpast, ⟨_, List.mem_singleton_self _, rfl, by simp⟩, rfl, by simp [pagedPast],
    hsecond, rfl, ⟨_, rfl, by simp⟩, rfl, rfl⟩

/-- The token is parked only by a drainer that found nothing to do. -/
theorem parks_when_done {c d : Config ResponseShared ResponsePc}
    {l : Label ResponsePc ResponseChoice ResponseEvent}
    (hn : responseProgram.next c l = some d) (hc : c.shared.permit = false)
    (hd : d.shared.permit = true) :
    c.shared.unfiredPages = [] ∧ c.shared.request.unfired = none := by
  rcases Program.next_cases hn with ⟨p, e, T, s, q, -, he, hs, rfl⟩ | ⟨e, s, q, -, hs, rfl⟩
  · have hm := responseStep_move hs
    cases hm with
    | drainParks hq hu => exact ⟨hq, hu⟩
    | completeWakes => cases hd
    | _ => exact absurd (hc.symm.trans hd) Bool.false_ne_true
  · cases responseEnv_arrival hs <;> exact absurd (hc.symm.trans hd) Bool.false_ne_true

/-- A page that waits has a drainer, which parks its token only when no page
waits; there is one drainer at most, the pages wait in the order they settled,
and one request is in flight exactly while the state is `Pending`. -/
theorem pages_never_stranded {c : Config ResponseShared ResponsePc}
    (hr : responseProgram.RunIn ResponseRunning responseInit c) :
    (c.shared.unfiredPages ≠ [] ∨ c.shared.request.unfired ≠ none → c.shared.permit = false) ∧
    (c.shared.permit = false → ∃ p ∈ c.threads, p.isDrainer = true) ∧
    (∀ l d, responseProgram.next c l = some d → c.shared.permit = false →
      d.shared.permit = true → c.shared.unfiredPages = [] ∧ c.shared.request.unfired = none) ∧
    c.threads.countP (·.isDrainer) ≤ 1 ∧
    c.shared.undelivered.Pairwise (· < ·) ∧
    (∀ u ∈ c.shared.unfiredPages, c.shared.Fits u.page u.rows) ∧
    (∀ rows, c.shared.request.rows = some rows → c.shared.Fits c.shared.current rows) ∧
    c.threads.countP (·.isRequest) = c.shared.request.isPending.toNat ∧
    (∀ outcome, .complete outcome ∈ c.threads → c.shared.request.isPending = true) := by
  obtain ⟨owner, ht, hrows, -, -⟩ := response_deliveries hr
  refine ⟨fun hwait => ht.stocked ?_, fun hp => ?_, fun l d hn => parks_when_done hn, ?_, ?_,
    hrows.queued, fun rows => hrows.current.rows, ht.requests,
    fun outcome ho => ht.pending_of_request ho rfl⟩
  · rcases hwait with hq | hu
    · simp [ResponseShared.undelivered, hq]
    · have hsome : c.shared.request.unfired.isSome = true := Option.isSome_iff_ne_none.mpr hu
      simp [ResponseShared.undelivered, hsome]
  · have hown : owner ≠ none := by
      intro ho
      have := ht.token.permit_eq
      rw [hp, ho] at this
      cases this
    obtain ⟨p, rfl⟩ := Option.ne_none_iff_exists'.mp hown
    exact ⟨p, ht.token.mem⟩
  · rw [ht.token.drainers]
    split <;> omega
  · exact (List.pairwise_append.mp ht.ordered).2.1

/-- The next page is requested before the drainer came to the first. -/
theorem pages_never_stranded_paged_past :
    ∃ c, responseProgram.RunIn ResponseRunning responseInit c ∧
      c.shared.unfiredPages.map (·.page) = [0] ∧ c.shared.request.isPending = true ∧
      c.shared.permit = false ∧ ∃ p ∈ c.threads, p.isDrainer = true := by
  have hrun : responseProgram.RunIn ResponseRunning responseInit
      ⟨{ ResponseShared.new with
          request := .pending (some ⟨0, true, none⟩), registered := ⟨[], [⟨10, [], none, 0⟩]⟩,
          unfiredPages := [⟨0, .toBuild ⟨0, true, none⟩, ⟨[], [⟨10, [], none, 0⟩]⟩⟩],
          permit := false, nextResult := 1, registrations := 1, entered := [⟨10, [], none, 0⟩],
          settled := [⟨.ok ⟨0, true, none⟩, ⟨[], [⟨10, [], none, 0⟩]⟩⟩] },
        {.spawn, .drainer}⟩ :=
    Program.exec_runIn [.env (.addErrback 10 [] none),
      .thread (.register .errbacks ⟨10, [], none, 0⟩) .go, .thread .spawn .go,
      .thread (.request false) (.receives true none),
      .thread (.complete (.ok ⟨0, true, none⟩)) .go, .thread (.notify 0) .go,
      .env .startFetchingNextPage, .thread .startFetchingNextPage .go]
      (by simp [ResponseRunning]) rfl
  obtain ⟨hpermit, hdrainer, -⟩ := pages_never_stranded hrun
  have hp := hpermit (.inl (by simp))
  exact ⟨_, hrun, rfl, rfl, hp, hdrainer hp⟩

end ScyllaDriver
