import ScyllaDriver.DriverCallbacks

/-! The order in which queued callbacks run, and that every callback of a
finished `DriverFuture` was called exactly as its kind asks. -/

namespace ScyllaDriver

/-- How far the callbacks queued on `PendingTokio` got. Once taken they stay
together in one thread, which invokes them from the front. -/
def Ordered (st : FutureState) (c : Config DriverShared DriverPc) : Prop :=
  match st with
  | .pendingAsyncio _ => c.shared.queued = []
  | .pendingTokio cbs => c.shared.queued = cbs
  | .ready _ => ∃ fired rest, c.shared.queued = fired ++ rest ∧
      fired.Sublist (c.shared.invoked.map Prod.fst) ∧
      (rest = [] ∨ ∃ p ∈ c.threads, p.firing = rest)
  | .panicked => True

theorem Reader.firing_acts (reader : Reader) (r : PyResult) :
    reader.firing = [] ∨ (DriverPc.run (reader.acts r)).firing = reader.firing := by
  cases reader with
  | fire cbs n => simp [DriverPc.firing, Reader.acts, Reader.firing, List.filterMap_cons]
  | _ => exact .inl rfl

theorem DriverMove.firing {s s' : DriverShared} {p : DriverPc} {q : List DriverPc}
    {st : FutureState} (h : DriverMove s p s' q) (hv : Stance s p st) (hp : p.Agrees st)
    (hrun : RunsClosure p q) :
    (s'.invoked = s.invoked ∧ (p.firing = [] ∨ ∃ p' ∈ q, p'.firing = p.firing)) ∨
    (∃ cb r p', q = [p'] ∧ p.firing = cb :: p'.firing ∧ s'.invoked = s.invoked ++ [(cb, r)]) := by
  cases h with
  | skip hl h => exact .inl ⟨rfl, .inl (by cases h <;> rfl)⟩
  | @readConverted p reader r hl hr hs =>
    rw [(DriverPc.reader_callbacks hr).2]
    exact .inl ⟨rfl, (reader.firing_acts r).imp_right fun h => ⟨_, List.mem_singleton_self _, h⟩⟩
  | readUnconverted hl hr hs =>
    rw [(DriverPc.reader_callbacks hr).2]
    exact .inl ⟨rfl, .inr ⟨_, List.mem_singleton_self _, rfl⟩⟩
  | @convert reader resolved r conversion hr =>
    exact .inl ⟨rfl, (reader.firing_acts r).imp_right fun h => ⟨_, List.mem_singleton_self _, h⟩⟩
  | blocking => exact .inl ⟨rfl, .inr ⟨_, List.mem_singleton_self _, rfl⟩⟩
  | closureDropped hs => exact absurd rfl (hrun _ _ rfl)
  | fireUnreachable hl hs =>
    obtain ⟨rr, rfl⟩ := hp
    simp [hv.state_eq hl, FutureState.isTerminal] at hs
  | @act a acts =>
    cases hcb : a.callback with
    | none =>
      refine .inl ⟨act_invoked hcb, .inr ⟨_, List.mem_singleton_self _, ?_⟩⟩
      simp [DriverPc.firing, filterMap_callback_act, hcb]
    | some cb =>
      cases a <;> cases hcb
      exact .inr ⟨cb, _, .run acts, rfl, by simp [DriverPc.firing], rfl⟩
  | _ => exact .inl ⟨rfl, .inl rfl⟩

theorem Finisher.firing {cbs : List CallbackKind} {waiters : Nat} {r : DriverPc}
    (h : Finisher cbs waiters r) : r.firing = cbs := by
  cases h <;> simp [DriverPc.firing, List.filterMap_cons]

theorem Ordered.move {s s' : DriverShared} {p : DriverPc} {q : List DriverPc}
    {T : Multiset DriverPc} {st : FutureState} (h : Ordered st ⟨s, p ::ₘ T⟩)
    (hc : Coherent st ⟨s, p ::ₘ T⟩) (hrun : RunsClosure p q) (hm : DriverMove s p s' q) :
    Ordered (s'.seen q st) ⟨s', (q : Multiset DriverPc) + T⟩ := by
  have hv := hc.locking.stance
  have hp := hc.threads p (Multiset.mem_cons_self p T)
  -- A `Ready` future: the thread that fires kept its callbacks or invoked the first.
  have ready {rr rr' : ReadyResult} (h : Ordered (.ready rr) ⟨s, p ::ₘ T⟩)
      (hq : s'.queued = s.queued) :
      Ordered (.ready rr') ⟨s', (q : Multiset DriverPc) + T⟩ := by
    obtain ⟨fired, rest, hfr, hsub, hrest⟩ := h
    have hsub' : fired.Sublist (s'.invoked.map Prod.fst) := by
      rcases hm.firing hv hp hrun with ⟨hi, _⟩ | ⟨cb, r, _, _, _, hi⟩
      · rwa [hi]
      · rw [hi, List.map_append]
        exact hsub.trans (List.sublist_append_left _ _)
    rcases hrest with rfl | ⟨p₁, hp₁, rfl⟩
    · exact ⟨fired, [], hq.trans hfr, hsub', .inl rfl⟩
    · rcases Multiset.mem_cons.mp hp₁ with rfl | hp₁
      · rcases hm.firing hv hp hrun with ⟨_, he | ⟨p', hp', he⟩⟩ | ⟨cb, r, p', rfl, he, hi⟩
        · exact ⟨fired, [], by simp [hq, show s.queued = _ from hfr, he], hsub', .inl rfl⟩
        · exact ⟨fired, _, hq.trans hfr, hsub', .inr ⟨p', by simp [hp'], he⟩⟩
        · refine ⟨fired ++ [cb], p'.firing, by simp [hq, show s.queued = _ from hfr, he], ?_,
            .inr ⟨p', by simp, rfl⟩⟩
          rw [hi, List.map_append]
          exact hsub.append (List.Sublist.refl _)
      · exact ⟨fired, _, hq.trans hfr, hsub', .inr ⟨p₁, by simp [hp₁], rfl⟩⟩
  have hlived := hm.lived hv
  generalize s'.seen q st = st' at hlived ⊢
  cases hlived with
  | stays hq =>
    cases st with
    | pendingAsyncio co => exact hq.trans h
    | pendingTokio cbs => exact hq.trans h
    | ready rr => exact ready h hq
    | panicked => trivial
  | starts hs => rw [hs]; exact by simp [Ordered, DriverShared.started, show s.queued = [] from h]
  | queues hq => exact hq.trans (by rw [show s.queued = _ from h])
  | @finishes cbs rr r hq hr hw hqu =>
    subst hq
    exact ⟨[], cbs, hqu.trans h, List.nil_sublist _, .inr ⟨r, by simp, hr.firing⟩⟩
  | polled _ _ hq | threw _ _ _ hq | closed _ _ hq =>
    exact ⟨[], [], hq.trans h, List.nil_sublist _, .inl rfl⟩
  | converts hq => exact ready h hq

theorem Ordered.arrive {s s' : DriverShared} {k : DriverEvent} {q : List DriverPc}
    {T : Multiset DriverPc} {st : FutureState} (h : Ordered st ⟨s, T⟩)
    (ha : DriverArrival s k s' q) : Ordered st ⟨s', (q : Multiset DriverPc) + T⟩ := by
  have hq : s'.queued = s.queued := by cases ha <;> rfl
  have hi : s'.invoked = s.invoked := by cases ha <;> rfl
  cases st with
  | pendingAsyncio co => exact hq.trans h
  | pendingTokio cbs => exact hq.trans h
  | panicked => trivial
  | ready rr =>
    obtain ⟨fired, rest, hfr, hsub, hrest⟩ := h
    refine ⟨fired, rest, hq.trans hfr, by rwa [hi], hrest.imp_right ?_⟩
    rintro ⟨p, hp, he⟩
    exact ⟨p, Multiset.mem_add.mpr (.inr hp), he⟩

/-- Registrations are numbered in order, and `on_done` gets the future itself. -/
structure Registry (s : DriverShared) : Prop where
  numbered : s.registered.map (·.callback.registration) = List.range s.registered.length
  done_self : ∀ k f, .done k f ∈ s.registered → f = s.self

theorem Registry.arrive {s s' : DriverShared} {k : DriverEvent} {q : List DriverPc}
    (h : Registry s) (ha : DriverArrival s k s' q) : Registry s' := by
  cases ha with
  | @register m cb hid hself =>
    constructor
    · simp [List.range_succ, h.numbered, hid]
    · intro k f hkf
      rcases List.mem_append.mp hkf with hkf | hkf
      · exact h.done_self k f hkf
      · exact hself k f (List.mem_singleton.mp hkf).symm
  | _ => exact ⟨h.numbered, h.done_self⟩

theorem Registry.nodup {s : DriverShared} (h : Registry s) :
    (s.registered.map CallbackKind.callback).Nodup := by
  have hn : ((s.registered.map CallbackKind.callback).map Callback.registration).Nodup := by
    rw [List.map_map, Function.comp_def, h.numbered]
    exact List.nodup_range
  exact List.Nodup.of_map _ hn

/-- The arguments the callable of registration `k` was called with, in order. -/
def DriverShared.callsOf (s : DriverShared) (k : Callback) : List PyObj :=
  s.invoked.filterMap fun e => if e.1.callback = k then e.1.invoke e.2 else none

theorem callsOf_eq {cb : CallbackKind} {r : PyResult} {log : List (CallbackKind × PyResult)}
    (hn : ((log.map Prod.fst).map CallbackKind.callback).Nodup) (hm : (cb, r) ∈ log) :
    (log.filterMap fun e => if e.1.callback = cb.callback then e.1.invoke e.2 else none) =
      (cb.invoke r).toList := by
  induction log with
  | nil => cases hm
  | cons e log ih =>
    simp only [List.map_cons, List.nodup_cons, List.mem_map, not_exists, not_and] at hn
    obtain ⟨hfresh, hn⟩ := hn
    rcases List.mem_cons.mp hm with rfl | hm
    · -- The rest of the log holds other registrations only.
      have hrest : (log.filterMap fun e =>
          if e.1.callback = cb.callback then e.1.invoke e.2 else none) = [] := by
        refine List.filterMap_eq_nil_iff.mpr fun e he => if_neg ?_
        exact hfresh e.1 ⟨e, he, rfl⟩
      cases hi : cb.invoke r <;> simp [hi, hrest]
    · have hne : e.1.callback ≠ cb.callback := fun he => hfresh cb ⟨(cb, r), hm, rfl⟩ he.symm
      simp [hne, ih hn hm]

/-- A run in which the runtime is not shut down. -/
def NoShutdown (_ : Config DriverShared DriverPc) (l : Label DriverPc Choice DriverEvent) : Prop :=
  l ≠ .env .shutdown

theorem NoShutdown.kept {s₀ : DriverShared} (hnew : s₀.IsNew) {c : Config DriverShared DriverPc}
    (hr : driverProgram.RunIn NoShutdown ⟨s₀, 0⟩ c) :
    driverProgram.RunIn ClosuresKept ⟨s₀, 0⟩ c := by
  have hup {d} (hd : driverProgram.RunIn NoShutdown ⟨s₀, 0⟩ d) : d.shared.shutdown = false := by
    refine (driver_invariant NoShutdown (I := fun _ c => c.shared.shutdown = false) ?_ ?_
      (hnew.coherent (by simp)) (by cases hnew <;> rfl) hd).choose_spec.2
    · exact fun _ _ h _ hm => hm.shutdown.trans h
    · rintro s s' k q T st hok - h ha
      cases ha with
      | shutdown => exact absurd rfl hok
      | _ => exact h
  induction hr with
  | refl => exact .refl
  | tail hd hs ih =>
    obtain ⟨l, hok, hn⟩ := hs
    refine ih.tail ⟨l, ?_, hn⟩
    rintro cbs n rfl
    simp [Program.next, driverProgram, driverStep, hup hd] at hn

theorem driver_callbacks {s₀ : DriverShared} (hnew : s₀.IsNew)
    {c : Config DriverShared DriverPc} (hr : driverProgram.RunIn ClosuresKept ⟨s₀, 0⟩ c) :
    ∃ st, Coherent st c ∧ Census st c ∧ Ordered st c ∧ Registry c.shared := by
  refine driver_invariant ClosuresKept
    (I := fun st c => Census st c ∧ Ordered st c ∧ Registry c.shared)
    ?_ ?_ (hnew.coherent (by simp)) ?_ hr
  · rintro s s' p q T e st hok hc ⟨hcen, hord, hreg⟩ hs hm
    have hrun := hok.runsClosure hs
    have hframe : s'.registered = s.registered ∧ s'.self = s.self := by
      cases hm with
      | act => rw [act_frame]; exact ⟨rfl, rfl⟩
      | _ => exact ⟨rfl, rfl⟩
    obtain ⟨hreg', hself'⟩ := hframe
    refine ⟨hcen.move hc hrun hm, hord.move hc hrun hm, ?_⟩
    exact ⟨by rw [hreg']; exact hreg.numbered, by rw [hreg', hself']; exact hreg.done_self⟩
  · rintro s s' k q T st hok hc ⟨hcen, hord, hreg⟩ ha
    exact ⟨hcen.arrive ha, hord.arrive ha, hreg.arrive ha⟩
  · refine ⟨?_, ?_, ?_, ?_⟩ <;> cases hnew <;>
      simp [Census, Ordered, DriverShared.spawn, DriverShared.spawnOnTokio,
        DriverShared.alreadyReady, DriverShared.create, FutureState.callbacks]

/-- Once a future is terminal and every started step has finished, each
registered callback that matches the outcome was called exactly once with it,
the others never, and the queued ones ran in the order they were queued. -/
theorem callbacks_fire_once {s₀ : DriverShared} (hnew : s₀.IsNew)
    {c : Config DriverShared DriverPc} (hr : driverProgram.RunIn NoShutdown ⟨s₀, 0⟩ c)
    (hterm : c.shared.state.isTerminal = true)
    (hquiet : ∀ p ∈ c.threads, ∃ v, p = .suspended v) :
    (∀ cb ∈ c.shared.registered, ∃ r, c.shared.state = .ready (.converted r) ∧
      c.shared.callsOf cb.callback = (cb.invoke r).toList) ∧
    (∀ k f, .done k f ∈ c.shared.registered → f = c.shared.self) ∧
    (c.shared.invoked.map Prod.fst).Perm c.shared.registered ∧
    c.shared.queued.Sublist (c.shared.invoked.map Prod.fst) := by
  obtain ⟨st, hc, hcen, hord, hreg⟩ := driver_callbacks hnew (NoShutdown.kept hnew hr)
  have hpend : ∀ p ∈ c.threads, p.pending = [] ∧ p.firing = [] := by
    intro p hp
    obtain ⟨v, rfl⟩ := hquiet p hp
    exact ⟨rfl, rfl⟩
  obtain ⟨hst, rr, rfl⟩ := hc.ready_of_quiet hterm hquiet
  have hperm : (c.shared.invoked.map Prod.fst).Perm c.shared.registered := by
    refine List.perm_iff_count.mpr fun cb => ?_
    have hzero : (c.threads.map (·.pending.count cb)).sum = 0 := by
      refine Multiset.sum_eq_zero fun n hn => ?_
      obtain ⟨p, hp, rfl⟩ := Multiset.mem_map.mp hn
      simp [(hpend p hp).1]
    have := hcen cb
    simp [FutureState.callbacks, hzero] at this
    exact this.symm
  refine ⟨fun cb hcb => ?_, hreg.done_self, hperm, ?_⟩
  · obtain ⟨⟨cb', r⟩, he, rfl⟩ := List.mem_map.mp (hperm.mem_iff.mpr hcb)
    refine ⟨r, hst.trans (hc.invoked _ he), callsOf_eq ?_ he⟩
    exact (hperm.map _).nodup_iff.mpr hreg.nodup
  · obtain ⟨fired, rest, hfr, hsub, rfl | ⟨p, hp, rfl⟩⟩ := hord
    · rw [hfr, List.append_nil]
      exact hsub
    · rw [hfr, (hpend p hp).2, List.append_nil]
      exact hsub

/-- Two callbacks queued on a future that then completes. -/
theorem callbacks_fire_once_completion :
    ∃ c, driverProgram.RunIn NoShutdown ⟨.spawn 3 .callSoon, 0⟩ c ∧
      c.shared.state = .ready (.converted (.ok 42)) ∧
      c.shared.queued = [.success ⟨10, 0⟩, .done ⟨11, 1⟩ 3] ∧
      c.shared.queued.Sublist (c.shared.invoked.map Prod.fst) := by
  have hr : driverProgram.RunIn NoShutdown ⟨.spawn 3 .callSoon, 0⟩ _ :=
    Program.exec_runIn [.env (.call (.onSuccess 10)),
      .thread (.call (.register (.success ⟨10, 0⟩))) .go, .env (.call (.onDone 11)),
      .thread (.call (.register (.done ⟨11, 1⟩ 3))) .go, .env (.taskFinishes 7),
      .thread (.resolve (.finished (.stashed ⟨some 7⟩))) .go,
      .thread (.blocking [.success ⟨10, 0⟩, .done ⟨11, 1⟩ 3] 0) .go,
      .thread (.fireAndNotify [.success ⟨10, 0⟩, .done ⟨11, 1⟩ 3] 0) .go,
      .thread (.convert (.fire [.success ⟨10, 0⟩, .done ⟨11, 1⟩ 3] 0) (.stashed ⟨some 7⟩))
        (.converted (.ok 42)),
      .thread (.run [.invoke (.success ⟨10, 0⟩) (.ok 42), .invoke (.done ⟨11, 1⟩ 3) (.ok 42),
        .wake, .notify 0]) .go,
      .thread (.run [.invoke (.done ⟨11, 1⟩ 3) (.ok 42), .wake, .notify 0]) .go,
      .thread (.run [.wake, .notify 0]) .go, .thread (.run [.notify 0]) .go,
      .thread (.run []) .go] (by simp [NoShutdown]) rfl
  have hquiet : ∀ p ∈ (0 : Multiset DriverPc), ∃ v, p = .suspended v := by simp
  exact ⟨_, hr, rfl, rfl, (callbacks_fire_once (.spawn 3 .callSoon) hr rfl hquiet).2.2.2⟩

end ScyllaDriver
