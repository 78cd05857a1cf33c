import ScyllaDriver.ResponseTending

/-! A `ResponseFuture` that can fire nothing more holds no callback: what is
registered is dropped with the last page, and what a page still owed is dropped once
the drainer has parked. This holds whether or not the runtime is shut down. -/

namespace ScyllaDriver

structure Released (c : Config ResponseShared ResponsePc) : Prop where
  requests : c.threads.countP (·.isRequest) ≤ c.shared.request.isPending.toNat
  stocked : c.shared.undelivered ≠ [] → c.shared.permit = false
  dropped : c.shared.isTerminal = true → c.shared.registered = .empty

variable {s s' : ResponseShared} {p : ResponsePc} {q : List ResponsePc} {T : Multiset ResponsePc}

theorem ResponseMove.requests_le (h : ResponseMove s p s' q)
    (hpend : p.isRequest = true → s.request.isPending = true) :
    q.countP (·.isRequest) + s.request.isPending.toNat ≤
      p.isRequest.toNat + s'.request.isPending.toNat := by
  by_cases hdrop : ∃ obj, p = .completeDropped obj
  · obtain ⟨obj, rfl⟩ := hdrop
    cases h with
    | completeDropped =>
      have hle : s.request.isPending.toNat ≤ 1 := Bool.toNat_le _
      simpa [ResponsePc.isRequest, ResponseShared.settle, RequestState.settle_isPending] using hle
    | completeDroppedOver => simp [ResponsePc.isRequest]
  by_cases hreq : ∃ b, p = .request b
  · obtain ⟨b, rfl⟩ := hreq
    cases h with
    | dropped => cases b <;> simp [ResponsePc.isRequest]
    | _ => exact le_rfl
  · exact (h.requests (fun b hb => absurd ⟨b, hb⟩ hreq) hpend
      fun obj ho => absurd ⟨obj, ho⟩ hdrop).le

theorem Released.pending_of_request (h : Released ⟨s, p ::ₘ T⟩) (hp : p.isRequest = true) :
    s.request.isPending = true := by
  have hpos : 0 < (p ::ₘ T).countP (·.isRequest) :=
    Multiset.countP_pos.mpr ⟨p, Multiset.mem_cons_self p T, hp⟩
  have hle := h.requests
  rw [← Bool.toNat_eq_one]
  have hone : s.request.isPending.toNat ≤ 1 := Bool.toNat_le _
  change (p ::ₘ T).countP (·.isRequest) ≤ s.request.isPending.toNat at hle
  omega

theorem ResponseShared.isTerminal_of_eq (hp : s'.request.isPending = s.request.isPending)
    (hl : s'.request.lastPage = s.request.lastPage) : s'.isTerminal = s.isTerminal := by
  simp only [isTerminal, hasMorePages, hp, hl]

theorem ResponseShared.keepRegistered_empty {delivery : Delivery} {callback : LegacyCallback}
    (hterminal : s.isTerminal = true) (hempty : s.registered = .empty) :
    (s.keepRegistered delivery callback).registered = .empty := by
  simp only [keepRegistered, hterminal, if_true, hempty]

/-- What a step does to the end of a future: it leaves it as it was, settles the request
in flight, or asks for the next page. -/
inductive EndEffect (s : ResponseShared) (p : ResponsePc) (s' : ResponseShared) : Prop
  | same (h : s'.isTerminal = s.isTerminal)
      (hr : s.isTerminal = true → s.registered = .empty → s'.registered = .empty)
  | settles (hp : p.isRequest = true) (h : s'.isTerminal = true → s'.registered = .empty)
  | starts (hm : s.hasMorePages = true) (hp : s'.request.isPending = true)

theorem ResponseMove.endEffect (h : ResponseMove s p s' q) : EndEffect s p s' := by
  cases h with
  | completeWakes | completes =>
    refine .settles rfl fun hterminal => if_pos ?_
    exact hterminal
  | completeDropped => exact .settles rfl fun _ => rfl
  | joins =>
    exact .same (ResponseShared.isTerminal_of_eq (RequestState.setUnfired_isPending _ _)
      (RequestState.setUnfired_lastPage _ _)) ResponseShared.keepRegistered_empty
  | late | registers => exact .same rfl ResponseShared.keepRegistered_empty
  | clear => exact .same rfl fun _ _ => rfl
  | starts _ hm => exact .starts hm rfl
  | stores =>
    exact .same (ResponseShared.isTerminal_of_eq (RequestState.storeRows_isPending _ _ _)
      (RequestState.storeRows_lastPage _ _ _)) fun _ => id
  | drainCurrent =>
    exact .same (ResponseShared.isTerminal_of_eq (RequestState.setUnfired_isPending _ _)
      (RequestState.setUnfired_lastPage _ _)) fun _ => id
  | _ => exact .same rfl fun _ => id

/-- No request is in flight for a terminal future, and none can be started. -/
theorem Released.terminal_stays (h : Released ⟨s, p ::ₘ T⟩) (hm : ResponseMove s p s' q)
    (hterminal : s.isTerminal = true) : s'.isTerminal = true := by
  obtain ⟨hsettled, hlast⟩ : s.request.isPending = false ∧ s.hasMorePages = false := by
    simpa [ResponseShared.isTerminal] using hterminal
  cases hm.endEffect with
  | same hsame => rwa [hsame]
  | settles hp =>
    rw [h.pending_of_request hp] at hsettled
    cases hsettled
  | starts hmore =>
    rw [hlast] at hmore
    cases hmore

theorem Released.move (h : Released ⟨s, p ::ₘ T⟩) (hm : ResponseMove s p s' q) :
    Released ⟨s', (q : Multiset ResponsePc) + T⟩ := by
  refine ⟨?_, hm.stocked h.pending_of_request h.stocked, fun hterminal => ?_⟩
  · have hstep := hm.requests_le h.pending_of_request
    have hbefore : T.countP (·.isRequest) + p.isRequest.toNat ≤ s.request.isPending.toNat := by
      have hle := h.requests
      rw [Multiset.countP_cons] at hle
      cases hp : p.isRequest <;> simpa [hp] using hle
    have hq : (q : Multiset ResponsePc).countP (·.isRequest) = q.countP (·.isRequest) := by simp
    rw [Multiset.countP_add, hq]
    show _ ≤ s'.request.isPending.toNat
    omega
  · cases hm.endEffect with
    | same hsame hempty =>
      have hbefore : s.isTerminal = true := hsame ▸ hterminal
      exact hempty hbefore (h.dropped hbefore)
    | settles _ hempty => exact hempty hterminal
    | starts _ hp =>
      have hfalse : s'.isTerminal = false := by simp [ResponseShared.isTerminal, hp]
      rw [hfalse] at hterminal
      cases hterminal

theorem Released.arrive {k : ResponseEvent} (h : Released ⟨s, T⟩) (ha : ResponseArrival s k s' q) :
    Released ⟨s', (q : Multiset ResponsePc) + T⟩ ∧ s'.isTerminal = s.isTerminal := by
  have hzero : (q : Multiset ResponsePc).countP (·.isRequest) = 0 := by
    cases ha <;> rfl
  have hrequest : s'.request = s.request := by cases ha <;> rfl
  refine ⟨⟨?_, ?_, ?_⟩, ResponseShared.isTerminal_of_eq (by rw [hrequest]) (by rw [hrequest])⟩
  · rw [Multiset.countP_add, hzero, Nat.zero_add]
    simpa only [hrequest] using h.requests
  · cases ha <;> exact h.stocked
  · cases ha <;> exact h.dropped

theorem released_preserves : responseProgram.Preserves (fun _ _ => True) Released where
  thread _ h hs := h.move (responseStep_move hs)
  env _ h hs := (h.arrive (responseEnv_arrival hs)).1

theorem released_init : Released responseInit := by
  refine ⟨le_rfl, fun hne => absurd rfl hne, nofun⟩

theorem Released.terminal_run {c d : Config ResponseShared ResponsePc} (h : Released c)
    (hterminal : c.shared.isTerminal = true) (hr : responseProgram.Run c d) :
    d.shared.isTerminal = true := by
  have hinv : responseProgram.Preserves (fun _ _ => True)
      fun c => Released c ∧ c.shared.isTerminal = true :=
    { thread := fun _ hc hs =>
        ⟨hc.1.move (responseStep_move hs), hc.1.terminal_stays (responseStep_move hs) hc.2⟩
      env := fun _ hc hs =>
        have harrive := hc.1.arrive (responseEnv_arrival hs)
        ⟨harrive.1, harrive.2.trans hc.2⟩ }
  exact (hinv.run ⟨h, hterminal⟩ hr).2

/-- A terminal future has dropped what was registered and stays terminal; once the
drainer has parked, no place of its state holds a callback. -/
theorem finished_keeps_no_callback {c : Config ResponseShared ResponsePc}
    (hr : responseProgram.Run responseInit c) (hterminal : c.shared.isTerminal = true) :
    c.shared.registered = .empty ∧
    (∀ d, responseProgram.Run c d → d.shared.isTerminal = true) ∧
    (c.shared.permit = true → c.shared.unfiredPages = [] ∧ c.shared.request.unfired = none) := by
  have h := released_preserves.run released_init hr
  refine ⟨h.dropped hterminal, fun d hd => h.terminal_run hterminal hd, fun hpermit => ?_⟩
  have hnone : c.shared.undelivered = [] := by
    by_contra hne
    rw [h.stocked hne] at hpermit
    cases hpermit
  simpa [ResponseShared.undelivered] using hnone

/-- A failed request whose errback the drainer called. -/
theorem finished_keeps_no_callback_failed :
    ∃ c, responseProgram.Run responseInit c ∧ c.shared.fired ≠ [] ∧ c.shared.permit = true ∧
      c.shared.registered = .empty ∧ c.shared.unfiredPages = [] ∧
      c.shared.request.unfired = none := by
  have hrun : responseProgram.Run responseInit
      ⟨{ ResponseShared.new with
          request := .failed ⟨.other, "timed out", 7⟩ none none, registrations := 1,
          entered := [⟨10, [], none, 0⟩],
          settled := [⟨.error ⟨.other, "timed out", 7⟩, ⟨[], [⟨10, [], none, 0⟩]⟩⟩],
          fired := [⟨0, ⟨10, [], none, 0⟩, ⟨10, [7], none⟩⟩] }, 0⟩ :=
    Program.exec_run [.env (.addErrback 10 [] none),
      .thread (.register .errbacks ⟨10, [], none, 0⟩) .go, .thread .spawn .go,
      .thread (.request false) (.fails ⟨.other, "timed out", 7⟩),
      .thread (.complete (.error ⟨.other, "timed out", 7⟩)) .go, .thread (.notify 0) .go,
      .thread .drainer .go, .thread .drain .go,
      .thread (.buildRows (.built (.error ⟨.other, "timed out", 7⟩))
        (.drain 0 ⟨[], [⟨10, [], none, 0⟩]⟩)) .go,
      .thread (.fire 0 [⟨10, [], none, 0⟩] 7) .go, .thread (.fire 0 [] 7) .go,
      .thread .drain .go] rfl
  obtain ⟨hregistered, -, hparked⟩ := finished_keeps_no_callback hrun rfl
  exact ⟨_, hrun, by simp, rfl, hregistered, hparked rfl⟩

end ScyllaDriver
