import ScyllaDriver.ResponseDrainer

/-! While the runtime runs, every page in line has a drainer that will come to
it, and a request is in flight exactly while the state is `Pending`. -/

namespace ScyllaDriver

/-- A run in which the runtime is not shut down. -/
def ResponseRunning (_ : Config ResponseShared ResponsePc)
    (l : Label ResponsePc ResponseChoice ResponseEvent) : Prop :=
  l ≠ .env .shutdown

structure Tended (owner : Option ResponsePc) (c : Config ResponseShared ResponsePc) : Prop where
  token : Token c owner
  running : c.shared.shutdown = false
  undropped : ∀ obj, .completeDropped obj ∉ c.threads
  requests : c.threads.countP (·.isRequest) = c.shared.request.isPending.toNat
  stocked : c.shared.undelivered ≠ [] → c.shared.permit = false
  started : c.shared.request.isPending = false → c.shared.settled ≠ []
  ordered : (line owner c.shared).Pairwise (· < ·)
  numbered : ∀ k ∈ line owner c.shared, k < c.shared.settled.length

theorem RowsReader.todo_isRequest (reader : RowsReader) (rows : Rows) :
    ∀ r ∈ reader.todo rows, r.isRequest = false := by
  cases reader with
  | register registration =>
    simp only [todo]
    split <;> simp [ResponsePc.isRequest]
  | _ => simp [todo, ResponsePc.isRequest]

theorem countP_isRequest_eq_zero {q : List ResponsePc} (h : ∀ r ∈ q, r.isRequest = false) :
    q.countP (·.isRequest) = 0 :=
  List.countP_eq_zero.mpr fun r hr => by simp [h r hr]

theorem ResponseMove.requests {s s' : ResponseShared} {p : ResponsePc} {q : List ResponsePc}
    (h : ResponseMove s p s' q) (hrun : ∀ b, p = .request b → s.shutdown = false)
    (hpend : p.isRequest = true → s.request.isPending = true)
    (hdrop : ∀ obj, p ≠ .completeDropped obj) :
    q.countP (·.isRequest) + s.request.isPending.toNat =
      p.isRequest.toNat + s'.request.isPending.toNat := by
  cases h with
  | dropped hs => rw [hrun _ rfl] at hs; cases hs
  | completeDropped | completeDroppedOver => exact absurd rfl (hdrop _)
  | @completeWakes outcome =>
    have hp := RequestState.settle_isPending s.request outcome (s.unfiredFor outcome)
    simp [ResponsePc.isRequest, hpend rfl, ResponseShared.completed, hp]
  | @completes outcome =>
    have hp := RequestState.settle_isPending s.request outcome (s.unfiredFor outcome)
    simp [ResponsePc.isRequest, hpend rfl, ResponseShared.completed, hp]
  | starts hp =>
    rw [hp]
    rfl
  | joins | drainCurrent =>
    simp [ResponsePc.isRequest, RequestState.setUnfired_isPending]
  | notifyDropped =>
    rw [countP_isRequest_eq_zero (by split <;> simp [ResponsePc.isRequest])]
    rfl
  | reads =>
    rw [countP_isRequest_eq_zero (RowsReader.todo_isRequest _ _)]
    rfl
  | stores =>
    rw [countP_isRequest_eq_zero (RowsReader.todo_isRequest _ _), RequestState.storeRows_isPending]
    rfl
  | _ => rfl

theorem ResponseMove.stocked {s s' : ResponseShared} {p : ResponsePc} {q : List ResponsePc}
    (h : ResponseMove s p s' q) (hpend : p.isRequest = true → s.request.isPending = true)
    (hs : s.undelivered ≠ [] → s.permit = false) :
    s'.undelivered ≠ [] → s'.permit = false := by
  intro hne
  cases h with
  | completeDropped hp =>
    refine hs ?_
    simpa [ResponseShared.undelivered, ResponseShared.settle, RequestState.settle_unfired,
      RequestState.unfired_of_pending hp] using hne
  | completeWakes => rfl
  | @completes outcome hu =>
    rw [ResponseShared.undelivered_completed (hpend rfl)] at hne
    by_cases hsome : (s.unfiredFor outcome).isSome = true
    · exact hu hsome
    · exact hs (by simpa [hsome] using hne)
  | starts =>
    rw [s.undelivered_starts] at hne
    exact hs hne
  | joins hu => exact hs (by simp [ResponseShared.undelivered, hu])
  | stores =>
    simp only [ResponseShared.undelivered, RequestState.storeRows_unfired] at hne
    exact hs hne
  | drainQueued hq => exact hs (by simp [ResponseShared.undelivered, hq])
  | drainCurrent hq hu => exact hs (by simp [ResponseShared.undelivered, hu])
  | drainParks hq hu => exact absurd (by simp [ResponseShared.undelivered, hq, hu]) hne
  | _ => exact hs hne

theorem ResponseMove.started {s s' : ResponseShared} {p : ResponsePc} {q : List ResponsePc}
    (h : ResponseMove s p s' q) (hs : s.request.isPending = false → s.settled ≠ []) :
    s'.request.isPending = false → s'.settled ≠ [] := by
  intro hp
  cases h with
  | completeWakes | completes => simp [ResponseShared.completed]
  | completeDropped => simp [ResponseShared.settle]
  | starts => cases hp
  | joins | drainCurrent => exact hs (by rwa [RequestState.setUnfired_isPending] at hp)
  | stores => exact hs (by rwa [RequestState.storeRows_isPending] at hp)
  | _ => exact hs hp

theorem ResponseMove.undropped {s s' : ResponseShared} {p : ResponsePc} {q : List ResponsePc}
    (h : ResponseMove s p s' q) (hrun : s.shutdown = false) :
    s'.shutdown = false ∧ ∀ obj, .completeDropped obj ∉ q := by
  cases h with
  | dropped hs => rw [hrun] at hs; cases hs
  | notifyDropped =>
    refine ⟨hrun, fun obj => ?_⟩
    split <;> simp
  | @reads rows reader | @stores _ _ reader =>
    refine ⟨hrun, fun obj hm => ?_⟩
    have := RowsReader.todo_isRequest reader _ _ hm
    cases this
  | _ => exact ⟨hrun, by simp⟩

theorem Tended.pending_of_request {owner : Option ResponsePc}
    {c : Config ResponseShared ResponsePc} (h : Tended owner c) {p : ResponsePc}
    (hp : p ∈ c.threads) (hr : p.isRequest = true) : c.shared.request.isPending = true := by
  have hpos : 0 < c.threads.countP (·.isRequest) := Multiset.countP_pos.mpr ⟨p, hp, hr⟩
  have hcount := h.requests
  cases hpend : c.shared.request.isPending with
  | true => rfl
  | false =>
    rw [hpend, Bool.toNat_false] at hcount
    omega

theorem LineEffect.ordered {s s' : ResponseShared} {p : ResponsePc} {l l' : List Nat}
    (h : LineEffect s p s' l l') (ho : l.Pairwise (· < ·))
    (hn : ∀ k ∈ l, k < s.settled.length) :
    l'.Pairwise (· < ·) ∧ ∀ k ∈ l', k < s'.settled.length := by
  cases h with
  | same hs => exact ⟨ho, by rwa [hs]⟩
  | delivers hp hs =>
    subst hs
    exact ⟨ho.of_cons, fun k hk => hn k (List.mem_cons_of_mem _ hk)⟩
  | @settles outcome l hp hs =>
    rw [hs, List.length_append, List.length_singleton]
    split
    · refine ⟨List.pairwise_append.mpr ⟨ho, by simp, fun a ha b hb => ?_⟩, fun k hk => ?_⟩
      · rw [List.mem_singleton.mp hb]
        exact hn a ha
      · rcases List.mem_append.mp hk with hk | hk
        · have := hn k hk
          omega
        · rw [List.mem_singleton.mp hk]
          omega
    · refine ⟨by simpa using ho, fun k hk => ?_⟩
      have := hn k (by simpa using hk)
      omega

theorem Tended.move {s s' : ResponseShared} {p : ResponsePc} {q : List ResponsePc}
    {T : Multiset ResponsePc} {owner : Option ResponsePc} (h : Tended owner ⟨s, p ::ₘ T⟩)
    (hm : ResponseMove s p s' q) :
    Tended (nextOwner p q owner) ⟨s', (q : Multiset ResponsePc) + T⟩ := by
  have hmem : p ∈ p ::ₘ T := Multiset.mem_cons_self p T
  have hpend : p.isRequest = true → s.request.isPending = true := h.pending_of_request hmem
  have hdrop : ∀ obj, p ≠ .completeDropped obj := fun obj he => h.undropped obj (he ▸ hmem)
  obtain ⟨hrun, hund⟩ := hm.undropped h.running
  obtain ⟨hord, hnum⟩ := (hm.lineEffect h.token h.running hpend hdrop).ordered h.ordered h.numbered
  refine ⟨h.token.move (hm.tokenEffect h.running), hrun, fun obj hr => ?_, ?_,
    hm.stocked hpend h.stocked, hm.started h.started, hord, hnum⟩
  · rcases Multiset.mem_add.mp hr with hr | hr
    · exact hund obj hr
    · exact h.undropped obj (Multiset.mem_cons_of_mem hr)
  · have hstep := hm.requests (fun _ _ => h.running) hpend hdrop
    have hbefore : T.countP (·.isRequest) + p.isRequest.toNat = s.request.isPending.toNat := by
      have := h.requests
      rw [Multiset.countP_cons] at this
      cases hp : p.isRequest <;> simpa [hp] using this
    have hq : (q : Multiset ResponsePc).countP (·.isRequest) = q.countP (·.isRequest) := by simp
    rw [Multiset.countP_add, hq]
    show _ = s'.request.isPending.toNat
    omega

theorem Tended.arrive {s s' : ResponseShared} {k : ResponseEvent} {q : List ResponsePc}
    {T : Multiset ResponsePc} {owner : Option ResponsePc} (h : Tended owner ⟨s, T⟩)
    (hk : k ≠ .shutdown) (ha : ResponseArrival s k s' q) :
    Tended owner ⟨s', (q : Multiset ResponsePc) + T⟩ := by
  have hframe : ∃ n, s' = { s with registrations := n } := by
    cases ha with
    | shutdown => exact absurd rfl hk
    | _ => exact ⟨_, rfl⟩
  have hq : ∀ r ∈ q, r.isDrainer = false ∧ r.isRequest = false := by
    cases ha <;> simp [ResponsePc.isDrainer, ResponsePc.isRequest]
  obtain ⟨n, rfl⟩ := hframe
  refine ⟨h.token.frame rfl fun r hr => (hq r hr).1, h.running, fun obj hr => ?_, ?_, h.stocked,
    h.started, h.ordered, h.numbered⟩
  · rcases Multiset.mem_add.mp hr with hr | hr
    · cases (hq _ hr).2
    · exact h.undropped obj hr
  · have hzero : (q : Multiset ResponsePc).countP (·.isRequest) = 0 :=
      Multiset.countP_eq_zero.mpr fun r hr => by simp [(hq r hr).2]
    have hbefore := h.requests
    rw [Multiset.countP_add, hzero, Nat.zero_add]
    exact hbefore

theorem tended_init : Tended none responseInit := by
  refine ⟨.parked rfl (by simp [ResponsePc.isDrainer]), rfl, by simp [responseInit], rfl,
    by simp [responseInit, ResponseShared.new, ResponseShared.undelivered, RequestState.unfired],
    nofun, .nil, ?_⟩
  simp [responseInit, ResponseShared.new, line, ResponseShared.undelivered, RequestState.unfired]

/-- The rule for invariants of a `ResponseFuture` while the runtime runs. -/
theorem response_invariant {I : Option ResponsePc → Config ResponseShared ResponsePc → Prop}
    (hmove : ∀ {s s' p q T owner}, Tended owner ⟨s, p ::ₘ T⟩ → I owner ⟨s, p ::ₘ T⟩ →
      ResponseMove s p s' q → I (nextOwner p q owner) ⟨s', (q : Multiset ResponsePc) + T⟩)
    (harrive : ∀ {s s' k q T owner}, I owner ⟨s, T⟩ → k ≠ .shutdown →
      ResponseArrival s k s' q → I owner ⟨s', (q : Multiset ResponsePc) + T⟩)
    (hI : I none responseInit) {c : Config ResponseShared ResponsePc}
    (hr : responseProgram.RunIn ResponseRunning responseInit c) :
    ∃ owner, Tended owner c ∧ I owner c := by
  have hp : responseProgram.Preserves ResponseRunning
      fun c => ∃ owner, Tended owner c ∧ I owner c := by
    constructor
    · rintro s T p e s' q - ⟨owner, ht, hI⟩ hs
      have hm := responseStep_move hs
      exact ⟨_, ht.move hm, hmove ht hI hm⟩
    · rintro s T k s' q hok ⟨owner, ht, hI⟩ hs
      have ha := responseEnv_arrival hs
      have hk : k ≠ .shutdown := fun he => hok (by rw [he])
      exact ⟨owner, ht.arrive hk ha, harrive hI hk ha⟩
  exact hp.run ⟨none, tended_init, hI⟩ hr

end ScyllaDriver
