import ScyllaDriver.ResponseTending

/-! Whoever reads the rows of a page of a `ResponseFuture` gets rows that were
built for that page, or the error its request failed with. -/

namespace ScyllaDriver

/-- The rows of the page that settled as number `k`: still to build, built for
it, or its error. -/
def ResponseShared.Fits (s : ResponseShared) (k : Nat) : PageRows → Prop
  | .toBuild page => ∃ x, s.settled[k]? = some x ∧ x.outcome = .ok page
  | .built rows => ∃ x, s.settled[k]? = some x ∧
    match x.outcome with
    | .ok page => (page.queryResult, rows) ∈ s.built
    | .error err => rows = .error err

def RowsReader.page : RowsReader → Option Nat
  | .result => none
  | .register registration => some registration.page
  | .drain page _ => some page

/-- What a thread relies on having read. -/
def ResponsePc.Reads (s : ResponseShared) : ResponsePc → Prop
  | .buildRows rows reader => ∀ k, reader.page = some k → s.Fits k rows
  | .storeRows page built reader =>
    (page.queryResult, built) ∈ s.built ∧ ∀ k, reader.page = some k → s.Fits k (.toBuild page)
  | .invoke registration value =>
    ∃ rows, s.Fits registration.page (.built rows) ∧ value = callbackValue rows ∧
      Delivery.of rows = registration.delivery
  | .fire k _ value => ∃ rows, s.Fits k (.built rows) ∧ value = callbackValue rows
  | _ => True

/-- The request settled as the last page that settled says. -/
def ResponseShared.Current (s : ResponseShared) : Prop :=
  match s.request with
  | .pending _ => True
  | .received page rows _ =>
    s.Fits s.current (.toBuild page) ∧ ∀ r, rows = some r → (page.queryResult, r) ∈ s.built
  | .failed err _ _ => ∃ x, s.settled[s.current]? = some x ∧ x.outcome = .error err

/-- A response has an identity of its own. -/
structure Fresh (c : Config ResponseShared ResponsePc) : Prop where
  issued : ∀ x ∈ c.shared.settled, ∀ page, x.outcome = .ok page →
    page.queryResult < c.shared.nextResult
  arriving : ∀ page, .complete (.ok page) ∈ c.threads →
    page.queryResult < c.shared.nextResult ∧
      ∀ x ∈ c.shared.settled, ∀ page', x.outcome = .ok page' →
        page'.queryResult ≠ page.queryResult
  distinct : c.shared.settled.Pairwise fun x y => ∀ page page', x.outcome = .ok page →
    y.outcome = .ok page' → page.queryResult ≠ page'.queryResult

structure RowsSound (c : Config ResponseShared ResponsePc) : Prop where
  current : c.shared.Current
  queued : ∀ u ∈ c.shared.unfiredPages, c.shared.Fits u.page u.rows
  reads : ∀ p ∈ c.threads, p.Reads c.shared

/-- Nothing that settled or was built is forgotten. -/
structure Grows (s s' : ResponseShared) : Prop where
  settled : s.settled <+: s'.settled
  built : s.built ⊆ s'.built

theorem Grows.getElem? {s s' : ResponseShared} (h : Grows s s') {k : Nat} {x : Settlement}
    (hx : s.settled[k]? = some x) : s'.settled[k]? = some x := by
  obtain ⟨rest, hrest⟩ := h.settled
  have hlt : k < s.settled.length := (List.getElem?_eq_some_iff.mp hx).1
  rw [← hrest, List.getElem?_append_left hlt, hx]

theorem Grows.fits {s s' : ResponseShared} (h : Grows s s') {k : Nat} {rows : PageRows}
    (hf : s.Fits k rows) : s'.Fits k rows := by
  cases rows with
  | toBuild page =>
    obtain ⟨x, hx, ho⟩ := hf
    exact ⟨x, h.getElem? hx, ho⟩
  | built rows =>
    obtain ⟨x, hx, ho⟩ := hf
    refine ⟨x, h.getElem? hx, ?_⟩
    cases hout : x.outcome with
    | ok page => rw [hout] at ho; exact h.built ho
    | error err => rw [hout] at ho; exact ho

theorem Grows.reads {s s' : ResponseShared} (h : Grows s s') {p : ResponsePc}
    (hp : p.Reads s) : p.Reads s' := by
  cases p with
  | buildRows rows reader => exact fun k hk => h.fits (hp k hk)
  | storeRows page built reader => exact ⟨h.built hp.1, fun k hk => h.fits (hp.2 k hk)⟩
  | invoke registration value =>
    obtain ⟨rows, hf, hv⟩ := hp
    exact ⟨rows, h.fits hf, hv⟩
  | fire k cbs value =>
    obtain ⟨rows, hf, hv⟩ := hp
    exact ⟨rows, h.fits hf, hv⟩
  | _ => trivial

theorem ResponseMove.grows {s s' : ResponseShared} {p : ResponsePc} {q : List ResponsePc}
    (h : ResponseMove s p s' q) : Grows s s' := by
  cases h with
  | completeWakes | completes | completeDropped =>
    exact ⟨List.prefix_append _ _, List.Subset.refl _⟩
  | builds => exact ⟨List.prefix_refl _, List.subset_append_left _ _⟩
  | _ => exact ⟨List.prefix_refl _, List.Subset.refl _⟩

theorem ResponseShared.Current.rows {s : ResponseShared} (h : s.Current) {rows : PageRows}
    (hr : s.request.rows = some rows) : s.Fits s.current rows := by
  cases hreq : s.request with
  | pending => rw [hreq] at hr; cases hr
  | received page stored unfired =>
    rw [ResponseShared.Current, hreq] at h
    obtain ⟨⟨x, hx, ho⟩, hstored⟩ := h
    cases stored with
    | none =>
      rw [hreq] at hr
      cases hr
      exact ⟨x, hx, ho⟩
    | some r =>
      rw [hreq] at hr
      cases hr
      exact ⟨x, hx, by rw [ho]; exact hstored r rfl⟩
  | failed err lastPage unfired =>
    rw [ResponseShared.Current, hreq] at h
    rw [hreq] at hr
    cases hr
    obtain ⟨x, hx, ho⟩ := h
    exact ⟨x, hx, by rw [ho]⟩

theorem ResponseShared.Current.setUnfired {s s' : ResponseShared} (h : s.Current)
    (hg : Grows s s') (unfired : Option Callbacks)
    (hr : s'.request = s.request.setUnfired unfired) (hc : s'.settled = s.settled) :
    s'.Current := by
  have hcur : s'.current = s.current := by simp [current, hc]
  simp only [Current, hr, hcur] at h ⊢
  cases hreq : s.request with
  | pending => trivial
  | received page rows unfired =>
    rw [hreq] at h
    exact ⟨hg.fits h.1, fun r hr => hg.built (h.2 r hr)⟩
  | failed err lastPage unfired =>
    rw [hreq] at h
    simp only [RequestState.setUnfired, hc]
    exact h

theorem ResponseShared.Current.grows {s s' : ResponseShared} (h : s.Current) (hg : Grows s s')
    (hr : s'.request = s.request) (hc : s'.settled = s.settled) : s'.Current :=
  h.setUnfired hg s.request.unfired (hr.trans s.request.setUnfired_unfired_self.symm) hc

theorem ResponseShared.completed_current (s : ResponseShared)
    (outcome : Except PyErr ResponsePage) : (s.completed outcome).Current := by
  have hlast : (s.completed outcome).settled[(s.completed outcome).current]? =
      some ⟨outcome, s.registered⟩ := by
    simp [completed, current]
  cases outcome with
  | ok page => exact ⟨⟨_, hlast, rfl⟩, fun _ h => by cases h⟩
  | error err => exact ⟨_, hlast, rfl⟩

theorem ResponseShared.Current.storeRows {s : ResponseShared} {page : ResponsePage}
    {built : Rows} (h : s.Current) (hb : (page.queryResult, built) ∈ s.built)
    (reports : List ResponseReport) :
    ResponseShared.Current
      { s with request := (s.request.storeRows page.queryResult built).1,
               reports := reports } := by
  have hg : Grows s { s with request := (s.request.storeRows page.queryResult built).1,
                             reports := reports } :=
    ⟨List.prefix_refl _, List.Subset.refl _⟩
  cases hreq : s.request with
  | received cur rows unfired =>
    simp only [ResponseShared.Current, hreq] at h
    by_cases hq : cur.queryResult = page.queryResult
    · simp only [Current, RequestState.storeRows, hq, if_true]
      refine ⟨hg.fits h.1, fun r hr => ?_⟩
      cases rows with
      | none =>
        cases hr
        exact hb
      | some r' =>
        cases hr
        rw [← hq]
        exact h.2 r' rfl
    · simp only [Current, RequestState.storeRows, hq, if_false]
      exact ⟨hg.fits h.1, h.2⟩
  | pending lastPage => trivial
  | failed err lastPage unfired =>
    simp only [Current, hreq] at h
    exact h

theorem ResponseShared.Current.stored {s : ResponseShared} {page : ResponsePage} {built : Rows}
    {k : Nat} (h : s.Current) (hb : (page.queryResult, built) ∈ s.built)
    (hf : s.Fits k (.toBuild page)) :
    s.Fits k (.built (s.request.storeRows page.queryResult built).2) := by
  obtain ⟨x, hx, ho⟩ := hf
  refine ⟨x, hx, ?_⟩
  simp only [ho]
  cases hreq : s.request with
  | received cur rows unfired =>
    simp only [ResponseShared.Current, hreq] at h
    by_cases hq : cur.queryResult = page.queryResult
    · simp only [RequestState.storeRows, hq, if_true]
      cases rows with
      | none => exact hb
      | some r => rw [← hq]; exact h.2 r rfl
    · simpa only [RequestState.storeRows, hq, if_false] using hb
  | _ => exact hb

theorem RowsReader.reads_todo {s : ResponseShared} {reader : RowsReader} {rows : Rows}
    (h : ∀ k, reader.page = some k → s.Fits k (.built rows)) :
    ∀ r ∈ reader.todo rows, r.Reads s := by
  intro r hr
  cases reader with
  | result => cases hr
  | register registration =>
    simp only [todo] at hr
    split at hr
    · rename_i hd
      rw [List.mem_singleton.mp hr]
      exact ⟨rows, h _ rfl, rfl, hd⟩
    · cases hr
  | drain page unfired =>
    rw [List.mem_singleton.mp hr]
    exact ⟨rows, h _ rfl, rfl⟩

theorem ResponseMove.current {s s' : ResponseShared} {p : ResponsePc} {q : List ResponsePc}
    (h : ResponseMove s p s' q) (hc : s.Current) (hp : p.Reads s) : s'.Current := by
  have hg := h.grows
  cases h with
  | completeWakes | completes => exact s.completed_current _
  | @completeDropped obj =>
    refine ⟨⟨.error (droppedErr obj), s.registered⟩, ?_, rfl⟩
    simp [ResponseShared.settle, ResponseShared.current]
  | joins hu => exact hc.setUnfired hg _ rfl rfl
  | drainCurrent => exact hc.setUnfired hg _ rfl rfl
  | starts => trivial
  | stores => exact hc.storeRows hp.1 _
  | _ => exact hc.grows hg rfl rfl

theorem ResponseMove.queued {s s' : ResponseShared} {p : ResponsePc} {q : List ResponsePc}
    (h : ResponseMove s p s' q) (hc : s.Current)
    (hq : ∀ u ∈ s.unfiredPages, s.Fits u.page u.rows) :
    ∀ u ∈ s'.unfiredPages, s'.Fits u.page u.rows := by
  have hg := h.grows
  have keep : ∀ u ∈ s.unfiredPages, s'.Fits u.page u.rows := fun u hu => hg.fits (hq u hu)
  cases h with
  | starts hp hm =>
    intro u hu
    rcases List.mem_append.mp hu with hu | hu
    · exact keep u hu
    · obtain ⟨rows, unfired, hr, -, rfl⟩ := RequestState.mem_takeUnfired hu
      exact hg.fits (hc.rows hr)
  | drainQueued hq' => exact fun u hu => keep u (by rw [hq']; exact List.mem_cons_of_mem _ hu)
  | _ => exact keep

theorem ResponseMove.reads_next {s s' : ResponseShared} {p : ResponsePc} {q : List ResponsePc}
    (h : ResponseMove s p s' q) (hc : s.Current) (hp : p.Reads s)
    (hq : ∀ u ∈ s.unfiredPages, s.Fits u.page u.rows) : ∀ r ∈ q, r.Reads s' := by
  have hg := h.grows
  have single {r : ResponsePc} (hr : r.Reads s') : ∀ x ∈ [r], x.Reads s' := by simpa using hr
  cases h with
  | dropped => split <;> simp [ResponsePc.Reads]
  | notifyDropped => split <;> simp [ResponsePc.Reads]
  | late hu hr =>
    refine single fun k hk => ?_
    cases hk
    exact hg.fits (hc.rows hr)
  | waitRowsSettled hr => exact single nofun
  | reads => exact RowsReader.reads_todo fun k hk => hg.fits (hp k hk)
  | builds => exact single ⟨by simp, fun k hk => hg.fits (hp k hk)⟩
  | stores => exact RowsReader.reads_todo fun k hk => hg.fits (hc.stored hp.1 (hp.2 k hk))
  | drainQueued hq' =>
    refine single fun k hk => ?_
    cases hk
    exact hg.fits (hq _ (by rw [hq']; exact List.mem_cons_self))
  | drainCurrent hq' hu hr =>
    refine single fun k hk => ?_
    cases hk
    exact hg.fits (hc.rows hr)
  | fires => exact single (hg.reads hp)
  | _ => simp [ResponsePc.Reads]

theorem RowsSound.move {s s' : ResponseShared} {p : ResponsePc} {q : List ResponsePc}
    {T : Multiset ResponsePc} (h : RowsSound ⟨s, p ::ₘ T⟩) (hm : ResponseMove s p s' q) :
    RowsSound ⟨s', (q : Multiset ResponsePc) + T⟩ := by
  have hp := h.reads p (Multiset.mem_cons_self p T)
  refine ⟨hm.current h.current hp, hm.queued h.current h.queued, fun r hr => ?_⟩
  rcases Multiset.mem_add.mp hr with hr | hr
  · exact hm.reads_next h.current hp h.queued r hr
  · exact hm.grows.reads (h.reads r (Multiset.mem_cons_of_mem hr))

theorem ResponseArrival.grows {s s' : ResponseShared} {k : ResponseEvent} {q : List ResponsePc}
    (h : ResponseArrival s k s' q) : Grows s s' := by
  cases h <;> exact ⟨List.prefix_refl _, List.Subset.refl _⟩

theorem RowsSound.arrive {s s' : ResponseShared} {k : ResponseEvent} {q : List ResponsePc}
    {T : Multiset ResponsePc} (h : RowsSound ⟨s, T⟩) (ha : ResponseArrival s k s' q) :
    RowsSound ⟨s', (q : Multiset ResponsePc) + T⟩ := by
  have hg := ha.grows
  have hframe : s'.request = s.request ∧ s'.settled = s.settled ∧
      s'.unfiredPages = s.unfiredPages ∧ ∀ r ∈ q, r.Reads s' := by
    cases ha <;> simp [ResponsePc.Reads]
  obtain ⟨hr, hs, hu, hq⟩ := hframe
  refine ⟨h.current.grows hg hr hs, fun u hu' => hg.fits (h.queued u (hu ▸ hu')), fun r hr => ?_⟩
  rcases Multiset.mem_add.mp hr with hr | hr
  · exact hq r hr
  · exact hg.reads (h.reads r hr)

theorem rowsSound_init : RowsSound responseInit := by
  refine ⟨trivial, nofun, fun p hp => ?_⟩
  rw [Multiset.mem_singleton.mp hp]
  trivial

end ScyllaDriver
