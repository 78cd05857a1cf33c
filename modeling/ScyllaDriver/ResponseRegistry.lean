import ScyllaDriver.ResponseDelivery

/-! Every registration on a `ResponseFuture` has a number of its own, and
whatever holds callbacks holds them in the order they were registered. -/

namespace ScyllaDriver

/-- The number of the registration about to take the lock. -/
def ResponsePc.registering : ResponsePc → Option Nat
  | .register _ cb => some cb.registration
  | _ => none

structure Enrolled (c : Config ResponseShared ResponsePc) : Prop where
  numbered : ∀ n, c.threads.countP (·.registering = some n) +
    c.shared.entered.countP (·.registration = n) ≤ if n < c.shared.registrations then 1 else 0
  registered : ∀ delivery, (c.shared.registered.list delivery).Sublist c.shared.entered
  due : ∀ k delivery, (c.shared.due k delivery).Sublist c.shared.entered
  joined : ∀ r ∈ c.shared.joined, r.page < c.shared.settled.length
  late : (c.shared.late.map (·.callback)).Sublist c.shared.entered
  latePast : ∀ r ∈ c.shared.late, r.page < c.shared.settled.length
  lateDue : ∀ r ∈ c.shared.late, ∀ delivery, r.callback ∉ c.shared.due r.page delivery

variable {s s' : ResponseShared} {p : ResponsePc} {q : List ResponsePc}
  {T : Multiset ResponsePc}

theorem RowsReader.registering_todo (reader : RowsReader) (rows : Rows) :
    ∀ r ∈ reader.todo rows, r.registering = none := by
  cases reader with
  | register registration =>
    simp only [todo]
    split <;> simp [ResponsePc.registering]
  | _ => simp [todo, ResponsePc.registering]

/-- How a step touches the record of registrations. -/
inductive EnrolEffect (s : ResponseShared) (p : ResponsePc) (s' : ResponseShared)
    (q : List ResponsePc) : Prop where
  | apart (hp : p.registering = none) (he : s'.entered = s.entered) (hs : s'.settled = s.settled)
      (hj : s'.joined = s.joined) (hl : s'.late = s.late)
      (hr : s'.registered = s.registered ∨ s'.registered = .empty)
  | settles {outcome} (hp : p.registering = none) (he : s'.entered = s.entered)
      (hs : s'.settled = s.settled ++ [⟨outcome, s.registered⟩]) (hj : s'.joined = s.joined)
      (hl : s'.late = s.late) (hr : s'.registered = s.registered ∨ s'.registered = .empty)
  | enters {delivery cb} (hp : p = .register delivery cb) (hs : s'.settled = s.settled)
      (he : s'.entered = s.entered ++ [cb])
      (hr : s'.registered = (s.keepRegistered delivery cb).registered)
      (hjl : (s'.joined = s.joined ++ [⟨s.current, delivery, cb⟩] ∧ s'.late = s.late ∧
          s.request.isPending = false) ∨
        (s'.joined = s.joined ∧ s'.late = s.late ++ [⟨s.current, delivery, cb⟩] ∧
          s.request.isPending = false) ∨
        (s'.joined = s.joined ∧ s'.late = s.late))

theorem ResponseMove.enrolEffect (h : ResponseMove s p s' q)
    (hdrop : ∀ obj, p ≠ .completeDropped obj) :
    EnrolEffect s p s' q ∧ (∀ r ∈ q, r.registering = none) ∧
      s'.registrations = s.registrations := by
  have completed (outcome : Except PyErr ResponsePage) :
      (s.completed outcome).registered = s.registered ∨
        (s.completed outcome).registered = .empty :=
    (ite_eq_or_eq _ Callbacks.empty s.registered).symm
  cases h with
  | completeWakes =>
    exact ⟨.settles rfl rfl rfl rfl rfl (completed _), by simp [ResponsePc.registering], rfl⟩
  | completes =>
    exact ⟨.settles rfl rfl rfl rfl rfl (completed _), by simp [ResponsePc.registering], rfl⟩
  | completeDropped => exact absurd rfl (hdrop _)
  | joins hu =>
    exact ⟨.enters rfl rfl rfl rfl (.inl ⟨rfl, rfl, RequestState.unfired_settled hu⟩), by simp, rfl⟩
  | late hu hr =>
    have hp : s.request.isPending = false := by
      rw [← Bool.not_eq_true, ← RequestState.rows_eq_none, hr]
      simp
    exact ⟨.enters rfl rfl rfl rfl (.inr (.inl ⟨rfl, rfl, hp⟩)), by simp [ResponsePc.registering],
      rfl⟩
  | registers hp => exact ⟨.enters rfl rfl rfl rfl (.inr (.inr ⟨rfl, rfl⟩)), by simp, rfl⟩
  | clear => exact ⟨.apart rfl rfl rfl rfl rfl (.inr rfl), by simp, rfl⟩
  | dropped =>
    refine ⟨.apart rfl rfl rfl rfl rfl (.inl rfl), ?_, rfl⟩
    split <;> simp [ResponsePc.registering]
  | notifyDropped =>
    refine ⟨.apart rfl rfl rfl rfl rfl (.inl rfl), ?_, rfl⟩
    split <;> simp [ResponsePc.registering]
  | reads | stores =>
    exact ⟨.apart rfl rfl rfl rfl rfl (.inl rfl),
      RowsReader.registering_todo _ _, rfl⟩
  | _ =>
    exact ⟨.apart rfl rfl rfl rfl rfl (.inl rfl), by simp [ResponsePc.registering], rfl⟩

theorem Enrolled.notMem_entered {delivery : Delivery} {cb : LegacyCallback}
    (h : Enrolled ⟨s, .register delivery cb ::ₘ T⟩) : cb ∉ s.entered := by
  intro hm
  have hone := h.numbered cb.registration
  have hpos : 0 < s.entered.countP (·.registration = cb.registration) :=
    List.countP_pos_iff.mpr ⟨cb, hm, by simp⟩
  have hthread : 0 < Multiset.countP (·.registering = some cb.registration)
      (ResponsePc.register delivery cb ::ₘ T) :=
    Multiset.countP_pos.mpr ⟨_, Multiset.mem_cons_self _ T, rfl⟩
  simp only at hone
  split at hone <;> omega

theorem Enrolled.entered_nodup {c : Config ResponseShared ResponsePc} (h : Enrolled c) :
    c.shared.entered.Nodup := by
  refine List.Nodup.of_map (fun cb : LegacyCallback => cb.registration)
    (List.nodup_iff_count_le_one.mpr fun n => ?_)
  have hone := h.numbered n
  have hcount : (c.shared.entered.map (·.registration)).count n =
      c.shared.entered.countP (·.registration = n) := by
    rw [List.count, List.countP_map]
    rfl
  rw [hcount]
  split at hone <;> omega

theorem ResponseShared.list_registered_sublist {entered : List LegacyCallback}
    (h : ∀ delivery, (s.registered.list delivery).Sublist entered)
    (hr : s'.registered = s.registered ∨ s'.registered = .empty) (delivery : Delivery) :
    (s'.registered.list delivery).Sublist entered := by
  rcases hr with hr | hr
  · rw [hr]
    exact h delivery
  · rw [hr, Callbacks.list_empty]
    exact List.nil_sublist _

theorem ResponseShared.keepRegistered_sublist
    (h : ∀ delivery, (s.registered.list delivery).Sublist s.entered) (delivery : Delivery)
    (cb : LegacyCallback) (d : Delivery) :
    ((s.keepRegistered delivery cb).registered.list d).Sublist (s.entered ++ [cb]) := by
  simp only [keepRegistered]
  split
  · exact (h d).trans (List.sublist_append_left _ _)
  · rw [Callbacks.list_push]
    refine (h d).append ?_
    split
    · exact List.Sublist.refl _
    · exact List.nil_sublist _

theorem Enrolled.numbered_step (h : Enrolled ⟨s, p ::ₘ T⟩)
    (hn : s'.registrations = s.registrations) (hq : ∀ r ∈ q, r.registering = none)
    (he : ∀ n, s'.entered.countP (·.registration = n) =
      s.entered.countP (·.registration = n) + if p.registering = some n then 1 else 0) (n : Nat) :
    ((q : Multiset ResponsePc) + T).countP (·.registering = some n) +
      s'.entered.countP (·.registration = n) ≤ if n < s'.registrations then 1 else 0 := by
  have hbefore : T.countP (·.registering = some n) + (if p.registering = some n then 1 else 0) +
      s.entered.countP (·.registration = n) ≤ if n < s.registrations then 1 else 0 := by
    have := h.numbered n
    rwa [Multiset.countP_cons] at this
  have hzero : (q : Multiset ResponsePc).countP (·.registering = some n) = 0 :=
    Multiset.countP_eq_zero.mpr fun r hr => by simp [hq r hr]
  rw [Multiset.countP_add, hzero, hn, he n]
  omega

theorem Enrolled.apart (h : Enrolled ⟨s, p ::ₘ T⟩) (hn : s'.registrations = s.registrations)
    (hq : ∀ r ∈ q, r.registering = none) (hp : p.registering = none)
    (he : s'.entered = s.entered) (hs : s'.settled = s.settled) (hj : s'.joined = s.joined)
    (hl : s'.late = s.late) (hr : s'.registered = s.registered ∨ s'.registered = .empty) :
    Enrolled ⟨s', (q : Multiset ResponsePc) + T⟩ := by
  have hdue := ResponseShared.due_congr hs hj
  refine ⟨h.numbered_step hn hq (by simp [he, hp]), ?_, ?_, by rw [hj, hs]; exact h.joined,
    by rw [hl, he]; exact h.late, by rw [hl, hs]; exact h.latePast, ?_⟩
  · rw [he]
    exact ResponseShared.list_registered_sublist h.registered hr
  · intro k delivery
    rw [hdue, he]
    exact h.due k delivery
  · intro r hr delivery
    rw [hdue]
    exact h.lateDue r (hl ▸ hr) delivery

/-- What is due for the new page is what was registered. -/
theorem Enrolled.settles {outcome : Except PyErr ResponsePage} (h : Enrolled ⟨s, p ::ₘ T⟩)
    (hn : s'.registrations = s.registrations) (hq : ∀ r ∈ q, r.registering = none)
    (hp : p.registering = none) (he : s'.entered = s.entered)
    (hs : s'.settled = s.settled ++ [⟨outcome, s.registered⟩]) (hj : s'.joined = s.joined)
    (hl : s'.late = s.late) (hr : s'.registered = s.registered ∨ s'.registered = .empty) :
    Enrolled ⟨s', (q : Multiset ResponsePc) + T⟩ := by
  have hlen : s'.settled.length = s.settled.length + 1 := by simp [hs]
  have hpast {page : Nat} (hpage : page < s.settled.length) : page < s'.settled.length := by
    omega
  refine ⟨h.numbered_step hn hq (by simp [he, hp]), ?_, ?_,
    fun r hr => hpast (h.joined r (hj ▸ hr)), by rw [hl, he]; exact h.late,
    fun r hr => hpast (h.latePast r (hl ▸ hr)), ?_⟩
  · rw [he]
    exact ResponseShared.list_registered_sublist h.registered hr
  · intro k delivery
    rw [he]
    rcases Nat.lt_trichotomy k s.settled.length with hk | rfl | hk
    · rw [ResponseShared.due_of_append hk hs hj]
      exact h.due k delivery
    · rw [ResponseShared.due_of_new hs hj h.joined]
      exact h.registered delivery
    · -- No page has that number yet.
      have hnone : s'.settled[k]? = none := List.getElem?_eq_none (by omega)
      have hbefore := h.due k delivery
      simp only [ResponseShared.due, List.getElem?_eq_none hk.le] at hbefore
      simpa only [ResponseShared.due, hnone, hj] using hbefore
  · intro r hr delivery
    rw [ResponseShared.due_of_append (h.latePast r (hl ▸ hr)) hs hj]
    exact h.lateDue r (hl ▸ hr) delivery

theorem Tended.current_lt {owner : Option ResponsePc} (ht : Tended owner ⟨s, T⟩)
    (hsettled : s.request.isPending = false) : s.current < s.settled.length := by
  have hpos : 0 < s.settled.length := List.length_pos_iff.mpr (ht.started hsettled)
  show s.settled.length - 1 < s.settled.length
  omega

/-- A registration was not entered before, so no list that has it can have had it. -/
theorem Enrolled.enters {owner : Option ResponsePc} {delivery : Delivery} {cb : LegacyCallback}
    (h : Enrolled ⟨s, .register delivery cb ::ₘ T⟩)
    (ht : Tended owner ⟨s, .register delivery cb ::ₘ T⟩)
    (hn : s'.registrations = s.registrations) (hq : ∀ r ∈ q, r.registering = none)
    (hs : s'.settled = s.settled) (he : s'.entered = s.entered ++ [cb])
    (hr : s'.registered = (s.keepRegistered delivery cb).registered)
    (hjl : (s'.joined = s.joined ++ [⟨s.current, delivery, cb⟩] ∧ s'.late = s.late ∧
        s.request.isPending = false) ∨
      (s'.joined = s.joined ∧ s'.late = s.late ++ [⟨s.current, delivery, cb⟩] ∧
        s.request.isPending = false) ∨
      (s'.joined = s.joined ∧ s'.late = s.late)) :
    Enrolled ⟨s', (q : Multiset ResponsePc) + T⟩ := by
  have hnot : cb ∉ s.entered := h.notMem_entered
  have hold : s.entered.Sublist s'.entered := he ▸ List.sublist_append_left _ _
  have hnumbered := h.numbered_step hn hq fun n => by
    rw [he, List.countP_append]
    by_cases hcb : cb.registration = n <;> simp [ResponsePc.registering, hcb]
  have hregistered : ∀ d, (s'.registered.list d).Sublist s'.entered := by
    rw [he, hr]
    exact ResponseShared.keepRegistered_sublist h.registered delivery cb
  rcases hjl with ⟨hj, hl, hset⟩ | ⟨hj, hl, hset⟩ | ⟨hj, hl⟩
  · refine ⟨hnumbered, hregistered, fun k d => ?_, ?_, by rw [hl]; exact h.late.trans hold,
      by rw [hl, hs]; exact h.latePast, fun r hr d => ?_⟩
    · rw [ResponseShared.due_of_join hs hj, he]
      refine (h.due k d).append ?_
      split
      · exact List.Sublist.refl _
      · exact List.nil_sublist _
    · rw [hj, hs]
      exact List.forall_mem_append.mpr
        ⟨h.joined, List.forall_mem_singleton.mpr (ht.current_lt hset)⟩
    · have hent : r.callback ∈ s.entered := h.late.subset (List.mem_map_of_mem (hl ▸ hr))
      have hne : r.callback ≠ cb := fun hcb => hnot (hcb ▸ hent)
      rw [ResponseShared.due_of_join hs hj]
      simp only [List.mem_append, not_or]
      refine ⟨h.lateDue r (hl ▸ hr) d, ?_⟩
      split <;> simp [hne]
  · have hdue := ResponseShared.due_congr hs hj
    refine ⟨hnumbered, hregistered, fun k d => ?_, by rw [hj, hs]; exact h.joined, ?_, ?_, ?_⟩
    · rw [hdue]
      exact (h.due k d).trans hold
    · rw [hl, he, List.map_append]
      exact h.late.append (List.Sublist.refl _)
    · rw [hl, hs]
      exact List.forall_mem_append.mpr
        ⟨h.latePast, List.forall_mem_singleton.mpr (ht.current_lt hset)⟩
    · simp only [hl, hdue]
      exact List.forall_mem_append.mpr
        ⟨h.lateDue, List.forall_mem_singleton.mpr fun d hm => hnot ((h.due _ d).subset hm)⟩
  · have hdue := ResponseShared.due_congr hs hj
    refine ⟨hnumbered, hregistered, fun k d => ?_, by rw [hj, hs]; exact h.joined,
      by rw [hl]; exact h.late.trans hold, by rw [hl, hs]; exact h.latePast, ?_⟩
    · rw [hdue]
      exact (h.due k d).trans hold
    · simp only [hl, hdue]
      exact h.lateDue

theorem Enrolled.move {owner : Option ResponsePc} (h : Enrolled ⟨s, p ::ₘ T⟩)
    (ht : Tended owner ⟨s, p ::ₘ T⟩) (hm : ResponseMove s p s' q) :
    Enrolled ⟨s', (q : Multiset ResponsePc) + T⟩ := by
  have hdrop : ∀ obj, p ≠ .completeDropped obj :=
    fun obj he => ht.undropped obj (he ▸ Multiset.mem_cons_self p T)
  obtain ⟨heff, hq, hn⟩ := hm.enrolEffect hdrop
  cases heff with
  | apart hp he hs hj hl hr => exact h.apart hn hq hp he hs hj hl hr
  | settles hp he hs hj hl hr => exact h.settles hn hq hp he hs hj hl hr
  | enters hp hs he hr hjl =>
    subst hp
    exact h.enters ht hn hq hs he hr hjl

theorem Enrolled.arrive {e : ResponseEvent} (h : Enrolled ⟨s, T⟩)
    (ha : ResponseArrival s e s' q) : Enrolled ⟨s', (q : Multiset ResponsePc) + T⟩ := by
  have keep (hq : ∀ r ∈ q, r.registering = none) (n : Nat) :
      ((q : Multiset ResponsePc) + T).countP (·.registering = some n) =
        T.countP (·.registering = some n) := by
    have hzero : (q : Multiset ResponsePc).countP (·.registering = some n) = 0 :=
      Multiset.countP_eq_zero.mpr fun r hr => by simp [hq r hr]
    rw [Multiset.countP_add, hzero, Nat.zero_add]
  cases ha with
  | @add k delivery cb hcb =>
    refine ⟨fun n => ?_, h.registered, h.due, h.joined, h.late, h.latePast, h.lateDue⟩
    have hbefore : T.countP (·.registering = some n) +
        s.entered.countP (·.registration = n) ≤ if n < s.registrations then 1 else 0 := h.numbered n
    have hone : Multiset.countP (·.registering = some n)
        (([.register delivery cb] : List ResponsePc) : Multiset ResponsePc) =
        if cb.registration = n then 1 else 0 := by
      show Multiset.countP _ (ResponsePc.register delivery cb ::ₘ 0) = _
      rw [Multiset.countP_cons, Multiset.countP_zero, Nat.zero_add]
      by_cases hn : cb.registration = n <;> simp [ResponsePc.registering, hn]
    rw [Multiset.countP_add, hone]
    show _ + T.countP (·.registering = some n) + s.entered.countP (·.registration = n) ≤
      if n < s.registrations + 1 then 1 else 0
    split at hbefore <;> split <;> split <;> omega
  | _ =>
    refine ⟨fun n => ?_, h.registered, h.due, h.joined, h.late, h.latePast, h.lateDue⟩
    rw [keep (by simp [ResponsePc.registering]) n]
    exact h.numbered n

theorem Enrolled.due_grows (h : Enrolled ⟨s, p ::ₘ T⟩) (hm : ResponseMove s p s' q)
    (hdrop : ∀ obj, p ≠ .completeDropped obj) (k : Nat) (delivery : Delivery) :
    s.due k delivery <+: s'.due k delivery := by
  obtain ⟨heff, -, -⟩ := hm.enrolEffect hdrop
  cases heff with
  | apart hp he hs hj =>
    rw [ResponseShared.due_congr hs hj]
  | settles hp he hs hj =>
    by_cases hk : k < s.settled.length
    · rw [ResponseShared.due_of_append hk hs hj]
    · -- Nothing is due for a page that has not settled.
      have hnone : s.joined.filter (fun r => r.page = k ∧ r.delivery = delivery) = [] := by
        refine List.filter_eq_nil_iff.mpr fun r hr => ?_
        have : r.page < s.settled.length := h.joined r hr
        simp only [decide_eq_true_eq, not_and]
        omega
      have hnil : s.due k delivery = [] := by
        simp only [ResponseShared.due, hnone, List.getElem?_eq_none (Nat.le_of_not_lt hk)]
        rfl
      rw [hnil]
      exact List.nil_prefix
  | enters hp hs he hr hjl =>
    rcases hjl with ⟨hj, -, -⟩ | ⟨hj, -⟩ | ⟨hj, -⟩
    · rw [ResponseShared.due_of_join hs hj]
      exact List.prefix_append _ _
    all_goals rw [ResponseShared.due_congr hs hj]

theorem enrolled_init : Enrolled responseInit := by
  refine ⟨fun n => ?_, fun d => ?_, fun k d => ?_, nofun, .slnil, nofun, nofun⟩
  · have hzero : Multiset.countP (·.registering = some n) {ResponsePc.spawn} = 0 :=
      Multiset.countP_eq_zero.mpr fun p hp => by
        rw [Multiset.mem_singleton.mp hp]
        simp [ResponsePc.registering]
    simp [responseInit, ResponseShared.new, hzero]
  · simp [responseInit, ResponseShared.new]
  · simp [responseInit, ResponseShared.new, ResponseShared.due]

end ScyllaDriver
