import ScyllaDriver.ResponseIdentities

/-! Readers of one page of a `ResponseFuture` that build its rows at the same time. The
page is known by the identity of its response, so that a later page is never taken for it. -/

namespace ScyllaDriver

/-- On the page that is current the first rows win, and everybody gets them. -/
theorem RequestState.storeRows_of_current {request : RequestState} {id : Nat}
    (h : request.current = some id) (built : Rows) :
    (request.storeRows id built).2 = request.stored.getD built ∧
      (request.storeRows id built).1.stored = some (request.stored.getD built) := by
  cases request with
  | received page rows unfired =>
    have hid : page.queryResult = id := Option.some.inj h
    simp [storeRows, hid, stored]
  | _ => cases h

theorem RequestState.storeRows_of_ne {request : RequestState} {id : Nat}
    (h : request.current ≠ some id) (built : Rows) :
    request.storeRows id built = (request, built) := by
  cases request with
  | received page rows unfired =>
    have hid : page.queryResult ≠ id := fun he => h (congrArg some he)
    simp [storeRows, hid]
  | _ => rfl

theorem RequestState.rows_of_stored {request : RequestState} {r : Rows}
    (h : request.stored = some r) : request.rows = some (.built r) := by
  cases request with
  | received page rows unfired =>
    obtain rfl : rows = some r := h
    rfl
  | _ => cases h

/-- What holds of a future in every run, shutdown included. -/
structure Readable (c : Config ResponseShared ResponsePc) : Prop where
  rows : RowsSound c
  identified : Identified c

theorem readable_preserved : responseProgram.Preserves (fun _ _ => True) Readable := by
  constructor
  · intro s T p e s' q _ h hs
    have hm := responseStep_move hs
    exact ⟨h.rows.move hm, h.identified.move hm⟩
  · intro s T k s' q _ h hs
    have ha := responseEnv_arrival hs
    exact ⟨h.rows.arrive ha, h.identified.arrive ha⟩

theorem readable_init : Readable responseInit := ⟨rowsSound_init, identified_init⟩

/-- The page has settled, and as long as it is current it has the rows `r`. -/
structure Keeps (id : Nat) (r : Rows) (c : Config ResponseShared ResponsePc) : Prop where
  settled : id ∈ c.shared.settled.filterMap Settlement.identity
  stored : c.shared.request.current = some id → c.shared.request.stored = some r

/-- A page that was left does not come back, since another response has another identity. -/
theorem Keeps.move {id : Nat} {r : Rows} {s s' : ResponseShared} {p : ResponsePc}
    {q : List ResponsePc} {T : Multiset ResponsePc} (h : Keeps id r ⟨s, p ::ₘ T⟩)
    (hi : Identified ⟨s, p ::ₘ T⟩) (hm : ResponseMove s p s' q) :
    Keeps id r ⟨s', (q : Multiset ResponsePc) + T⟩ := by
  cases hm.identityEffect with
  | same hp hq hs hn hc =>
    refine ⟨by rw [hs]; exact h.settled, fun hid => ?_⟩
    obtain ⟨hcur, hstays⟩ := hc id hid
    exact hstays r (h.stored hcur)
  | issued hp hq hs hn hc =>
    refine ⟨by rw [hs]; exact h.settled, ?_⟩
    rw [hc]
    exact h.stored
  | @settled page hp hq hs hn hc =>
    refine ⟨by rw [hs]; exact List.mem_append_left _ h.settled, fun hid => ?_⟩
    exfalso
    have hpage : page = id := Option.some.inj (hc.symm.trans hid)
    have hdistinct := hi.distinct
    rw [identities_thread, hp, hpage] at hdistinct
    have hdisjoint := (Multiset.nodup_add.mp hdistinct).2.2
    exact Multiset.disjoint_left.mp hdisjoint (Multiset.mem_coe.mpr h.settled) (by simp)

theorem keeps_run {id : Nat} {r : Rows} {c d : Config ResponseShared ResponsePc}
    (hc : Readable c) (h : Keeps id r c) (hr : responseProgram.Run c d) : Keeps id r d := by
  have hpres : responseProgram.Preserves (fun _ _ => True)
      (fun c => Readable c ∧ Keeps id r c) := by
    constructor
    · rintro s T p e s' q - ⟨hread, hkeeps⟩ hs
      exact ⟨readable_preserved.thread trivial hread hs,
        hkeeps.move hread.identified (responseStep_move hs)⟩
    · rintro s T k s' q - ⟨hread, hkeeps⟩ hs
      refine ⟨readable_preserved.env trivial hread hs, ?_⟩
      cases responseEnv_arrival hs <;> exact ⟨hkeeps.settled, hkeeps.stored⟩
  exact (hpres.run ⟨hc, h⟩ hr).2

theorem Readable.stored_built {c : Config ResponseShared ResponsePc} (h : Readable c) {id : Nat}
    {r : Rows} (hid : c.shared.request.current = some id) (hr : c.shared.request.stored = some r) :
    (id, r) ∈ c.shared.built := by
  have hc := h.rows.current
  cases hreq : c.shared.request with
  | received page rows unfired =>
    rw [hreq] at hid hr
    simp only [ResponseShared.Current, hreq] at hc
    obtain rfl := Option.some.inj hid
    exact hc.2 r hr
  | pending lastPage | failed err lastPage unfired =>
    rw [hreq] at hid
    cases hid

theorem Readable.settled_distinct {c : Config ResponseShared ResponsePc} (h : Readable c) :
    (c.shared.settled.filterMap Settlement.identity).Nodup :=
  Multiset.coe_nodup.mp (Multiset.nodup_add.mp h.identified.distinct).1

/-- What a reader does once it has built the rows of `page` and takes the lock again. -/
theorem next_storeRows {c d : Config ResponseShared ResponsePc} {page : ResponsePage}
    {built : Rows} {reader : RowsReader} {choice : ResponseChoice}
    (hd : responseProgram.next c (.thread (.storeRows page built reader) choice) = some d) :
    .storeRows page built reader ∈ c.threads ∧
      d.shared = { c.shared with
        request := (c.shared.request.storeRows page.queryResult built).1
        reports := c.shared.reports ++
          reader.reports (c.shared.request.storeRows page.queryResult built).2 } ∧
      (reader.todo (c.shared.request.storeRows page.queryResult built).2 :
        Multiset ResponsePc) ≤ d.threads := by
  rcases Program.next_cases hd with ⟨p, e, T, s, q, hl, hc, hs, rfl⟩ | ⟨k, s, q, hl, -⟩
  · cases hl
    have hstep : c.shared.storeRows page built reader = (s, q) := Option.some.inj hs
    rw [ResponseShared.storeRows, ResponseShared.deliver_eq] at hstep
    cases hstep
    refine ⟨?_, rfl, Multiset.le_add_right _ _⟩
    rw [hc]
    exact Multiset.mem_cons_self _ _
  · cases hl

/-- A reader that stores its rows while its page is current gets the rows stored first, as does
everybody who reads or stores rows of that page from then on; no reader is given, and no page
has stored, rows that were built for another page. -/
theorem readers_agree {c d : Config ResponseShared ResponsePc} {page : ResponsePage}
    {built : Rows} {reader : RowsReader} {choice : ResponseChoice}
    (hc : responseProgram.Run responseInit c)
    (hd : responseProgram.next c (.thread (.storeRows page built reader) choice) = some d) :
    let rows := (c.shared.request.storeRows page.queryResult built).2
    (d.shared.reports = c.shared.reports ++ reader.reports rows ∧
      (reader.todo rows : Multiset ResponsePc) ≤ d.threads) ∧
    ((page.queryResult, rows) ∈ d.shared.built ∧
      ∀ k, reader.page = some k → d.shared.Fits k (.built rows)) ∧
    (∀ id r, d.shared.request.current = some id → d.shared.request.stored = some r →
      (id, r) ∈ d.shared.built) ∧
    (d.shared.settled.filterMap Settlement.identity).Nodup ∧
    (c.shared.request.current ≠ some page.queryResult → d.shared.request = c.shared.request) ∧
    (c.shared.request.current = some page.queryResult →
      rows = c.shared.request.stored.getD built ∧
      ∀ e, responseProgram.Run d e → e.shared.request.current = some page.queryResult →
        e.shared.request.rows = some (.built rows) ∧
        ∀ built', (e.shared.request.storeRows page.queryResult built').2 = rows) := by
  intro rows
  have hread := readable_preserved.run readable_init hc
  have hread' := readable_preserved.next trivial hread hd
  obtain ⟨hmem, hshared, htodo⟩ := next_storeRows hd
  have hreads := hread.rows.reads _ hmem
  have hrequest : d.shared.request = (c.shared.request.storeRows page.queryResult built).1 := by
    rw [hshared]
  have hbuilt : d.shared.built = c.shared.built := by rw [hshared]
  have hgrows : Grows c.shared d.shared := by
    rw [hshared]
    exact ⟨List.prefix_refl _, List.Subset.refl _⟩
  refine ⟨⟨by rw [hshared], htodo⟩, ⟨?_, fun k hk => ?_⟩, fun id r => hread'.stored_built,
    hread'.settled_distinct, fun hne => ?_, fun hcur => ?_⟩
  · rw [hbuilt]
    by_cases hcur : c.shared.request.current = some page.queryResult
    · obtain ⟨hrows, hstored⟩ := RequestState.storeRows_of_current hcur built
      rw [← hbuilt]
      refine hread'.stored_built ?_ ?_
      · rw [hrequest, RequestState.current_storeRows, hcur]
      · rw [hrequest, hstored, ← hrows]
    · have hrows : rows = built :=
        congrArg Prod.snd (RequestState.storeRows_of_ne hcur built)
      rw [hrows]
      exact hreads.1
  · exact hgrows.fits (hread.rows.current.stored hreads.1 (hreads.2 k hk))
  · rw [hrequest, RequestState.storeRows_of_ne hne]
  · obtain ⟨hrows, hstored⟩ := RequestState.storeRows_of_current hcur built
    refine ⟨hrows, fun e he hcur' => ?_⟩
    have hkeeps : Keeps page.queryResult rows d := by
      refine ⟨hread'.identified.current _ ?_, fun _ => ?_⟩
      · rw [hrequest, RequestState.current_storeRows, hcur]
      · rw [hrequest, hstored, ← hrows]
    have hstored' := (keeps_run hread' hkeeps he).stored hcur'
    refine ⟨RequestState.rows_of_stored hstored', fun built' => ?_⟩
    rw [(RequestState.storeRows_of_current hcur' built').1, hstored']
    rfl

/-- Two threads wait for the first page; both build, and the second to finish is given the list
of the first. -/
theorem readers_agree_two_threads :
    ∃ c d, responseProgram.Run responseInit c ∧
      c.shared.built = [(0, .ok (some 7)), (0, .error exhaustedErr)] ∧
      responseProgram.next c
        (.thread (.storeRows ⟨0, false, none⟩ (.ok (some 7)) .result) .go) = some d ∧
      d.shared.reports = [.result (.ok (some 7))] ∧
      (d.shared.request.storeRows 0 (.error exhaustedErr)).2 = .ok (some 7) := by
  have hrun : responseProgram.Run responseInit _ :=
    Program.exec_run [.thread .spawn .go, .thread (.request false) (.receives false none),
      .thread (.complete (.ok ⟨0, false, none⟩)) .go, .env .result, .thread .waitRows .go,
      .env .result, .thread .waitRows .go,
      .thread (.buildRows (.toBuild ⟨0, false, none⟩) .result) (.built (.ok (some 7))),
      .thread (.buildRows (.toBuild ⟨0, false, none⟩) .result) (.built (.error exhaustedErr))] rfl
  have h := readers_agree hrun (show responseProgram.next _
    (.thread (.storeRows ⟨0, false, none⟩ (.ok (some 7)) .result) .go) = some _ from rfl)
  exact ⟨_, _, hrun, rfl, rfl, h.1.1, (h.2.2.2.2.2 rfl).2 _ .refl rfl |>.2 _⟩

end ScyllaDriver
