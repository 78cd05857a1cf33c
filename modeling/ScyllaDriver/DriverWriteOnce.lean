import ScyllaDriver.DriverOutcome

/-! The outcome of a `DriverFuture` is written once. Over a run the state only
goes through its life, and every report fits some state of that life. -/

namespace ScyllaDriver

abbrev FutureState.Steps := Relation.ReflTransGen FutureState.Step

/-- The outcome a report names. -/
def Report.outcome : Report → Option PyResult
  | .result r | .next r | .repr (some r) => some r
  | _ => none

theorem FutureState.Steps.of_converted {r : PyResult} {st : FutureState}
    (h : FutureState.Steps (.ready (.converted r)) st) : st = .ready (.converted r) := by
  induction h with
  | refl => rfl
  | tail _ hs ih => subst ih; cases hs

theorem FutureState.Steps.of_unconverted {resolved : ResolvedResult} {st : FutureState}
    (h : FutureState.Steps (.ready (.unconverted resolved)) st) :
    st = .ready (.unconverted resolved) ∨
      ∃ conversion, st = .ready (.converted (resolved.intoPyResult conversion)) := by
  cases h.cases_head with
  | inl h => exact .inl h.symm
  | inr h =>
    obtain ⟨st', hs, hss⟩ := h
    cases hs
    exact .inr ⟨_, FutureState.Steps.of_converted hss⟩

theorem FutureState.Steps.of_ready {rr : ReadyResult} {st : FutureState}
    (h : FutureState.Steps (.ready rr) st) : ∃ rr', st = .ready rr' := by
  cases rr with
  | converted r => exact ⟨_, h.of_converted⟩
  | unconverted resolved =>
    rcases h.of_unconverted with rfl | ⟨_, rfl⟩
    · exact ⟨_, rfl⟩
    · exact ⟨_, rfl⟩

theorem Report.Of.outcome {st st' : FutureState} {x : Report} {r : PyResult} (h : x.Of st)
    (hs : st.Steps st') (hx : x.outcome = some r) : st' = .ready (.converted r) := by
  have hst : st = .ready (.converted r) := by
    cases x with
    | result | next => cases hx; exact h
    | repr o =>
      cases o with
      | none => cases hx
      | some r => cases hx; exact h
    | _ => cases hx
  subst hst
  exact hs.of_converted

theorem Report.Of.steps {rr : ReadyResult} {st : FutureState} {x : Report}
    (h : x.Of (.ready rr)) (hs : FutureState.Steps (.ready rr) st) : x.Of st := by
  obtain ⟨rr', rfl⟩ := hs.of_ready
  cases x with
  | result | next => cases h; exact hs.of_converted
  | repr o =>
    cases o with
    | none => simp [Report.Of, FutureState.isTerminal] at h
    | some r => cases h; exact hs.of_converted
  | done b => exact h
  | cancelled b =>
    rcases h with ⟨r, hr, hb⟩ | ⟨ht, _⟩
    · cases hr
      exact .inl ⟨r, hs.of_converted, hb⟩
    · simp [FutureState.isTerminal] at ht
  | _ => trivial

/-- Over a run the state goes through its life, and what is reported on the
way was right about some state in between. -/
theorem driver_run_life {ok : Config DriverShared DriverPc →
      Label DriverPc Choice DriverEvent → Prop} {c d : Config DriverShared DriverPc}
    {st : FutureState} (hc : Coherent st c) (hr : driverProgram.RunIn ok c d) :
    ∃ st', Coherent st' d ∧ st.Steps st' ∧
      ∃ new, d.shared.reports = c.shared.reports ++ new ∧
        ∀ x ∈ new, ∃ st₀, st.Steps st₀ ∧ st₀.Steps st' ∧ x.Of st₀ := by
  refine driver_invariant _ (I := fun st' d => st.Steps st' ∧
    ∃ new, d.shared.reports = c.shared.reports ++ new ∧
      ∀ x ∈ new, ∃ st₀, st.Steps st₀ ∧ st₀.Steps st' ∧ x.Of st₀) ?_ ?_ hc
    ⟨.refl, [], by simp, by simp⟩ hr
  · rintro s s' p q T e st₁ - hco ⟨hs, new, hnew, hof⟩ - hm
    have hv := hco.locking.stance
    have hstep : st₁.Steps (s'.seen q st₁) := by
      rcases hm.life hv with he | he
      · rw [he]
      · exact .single he
    obtain ⟨more, hmore, hof'⟩ := hm.reports hv (hco.threads p (Multiset.mem_cons_self p T))
    have hall : s'.reports = c.shared.reports ++ (new ++ more) := by
      rw [hmore, show s.reports = _ from hnew, List.append_assoc]
    refine ⟨hs.trans hstep, new ++ more, hall, ?_⟩
    intro x hx
    rcases List.mem_append.mp hx with hx | hx
    · obtain ⟨st₀, h₀, h₁, hx⟩ := hof x hx
      exact ⟨st₀, h₀, h₁.trans hstep, hx⟩
    · exact ⟨_, hs.trans hstep, .refl, hof' x hx⟩
  · rintro s s' k q T st₁ - hco ⟨hs, new, hnew, hof⟩ ha
    have he : s'.reports = s.reports := by cases ha <;> rfl
    exact ⟨hs, new, he.trans hnew, hof⟩

theorem throw_on_ready {c d : Config DriverShared DriverPc} {exc : PyErr} {choice : Choice}
    {rr : ReadyResult} (hs : c.shared.state = .ready rr)
    (hn : driverProgram.next c (.thread (.call (.throw exc)) choice) = some d) :
    d.shared.state = c.shared.state ∧
      d.shared.reports = c.shared.reports ++ [.rethrown exc] := by
  rcases Program.next_cases hn with ⟨p, e, T, s, q, hp, -, hstep, rfl⟩ | ⟨k, s, q, hp, -⟩
  · cases hp
    simp only [driverProgram, driverStep] at hstep
    split at hstep
    · cases hstep
    · simp only [DriverShared.enter, DriverShared.throwInto, hs] at hstep
      cases hstep
      exact ⟨rfl, rfl⟩
  · cases hp

/-- Between two states of a run with the lock free the future only goes
forward, nothing replaces an outcome, and whatever was or will be reported is
that outcome. -/
theorem outcome_write_once {s₀ : DriverShared} (hnew : s₀.IsNew)
    {c d : Config DriverShared DriverPc} (hc : driverProgram.Run ⟨s₀, 0⟩ c)
    (hd : driverProgram.Run c d) (hlc : c.shared.locked = false)
    (hld : d.shared.locked = false) :
    d.shared.state ≠ .panicked ∧ c.shared.state.Steps d.shared.state ∧
    (∀ r, c.shared.state = .ready (.converted r) → d.shared.state = .ready (.converted r)) ∧
    (∀ resolved, c.shared.state = .ready (.unconverted resolved) →
      d.shared.state = .ready (.unconverted resolved) ∨
      ∃ conversion, d.shared.state = .ready (.converted (resolved.intoPyResult conversion))) ∧
    (∀ rr, c.shared.state = .ready rr →
      ∃ new, d.shared.reports = c.shared.reports ++ new ∧ ∀ x ∈ new, x.Of d.shared.state) ∧
    (∀ x ∈ d.shared.reports, ∀ r, x.outcome = some r →
      d.shared.state = .ready (.converted r)) ∧
    (∀ e ∈ d.shared.invoked, d.shared.state = .ready (.converted e.2)) ∧
    (∀ rr exc choice d', d.shared.state = .ready rr →
      driverProgram.next d (.thread (.call (.throw exc)) choice) = some d' →
      d'.shared.state = d.shared.state ∧
        d'.shared.reports = d.shared.reports ++ [.rethrown exc]) ∧
    d.shared.conversions ≤ 1 := by
  obtain ⟨stc, hcc, hs₀, old, hold, hofOld⟩ := driver_run_life (hnew.coherent (by simp)) hc
  obtain ⟨std, hcd, hs, new, hnew', hofNew⟩ := driver_run_life hcc hd
  obtain rfl := hcc.locking.state_eq hlc
  obtain rfl := hcd.locking.state_eq hld
  have hempty : s₀.reports = [] := by cases hnew <;> rfl
  refine ⟨hcd.locking.clean hld, hs, ?_, ?_, ?_, ?_, hcd.invoked,
    fun _ _ _ _ hr hn => throw_on_ready hr hn, ?_⟩
  · intro r hr
    exact FutureState.Steps.of_converted (hr ▸ hs)
  · intro resolved hr
    exact FutureState.Steps.of_unconverted (hr ▸ hs)
  · intro rr hr
    refine ⟨new, hnew', fun x hx => ?_⟩
    obtain ⟨st₁, h₁, h₂, hx⟩ := hofNew x hx
    rw [hr] at h₁
    obtain ⟨rr₁, rfl⟩ := h₁.of_ready
    exact hx.steps h₂
  · intro x hx r hr
    rw [hnew', hold, hempty, List.nil_append, List.mem_append] at hx
    rcases hx with hx | hx
    · obtain ⟨st₁, _, h₂, hx⟩ := hofOld x hx
      exact hx.outcome (h₂.trans hs) hr
    · obtain ⟨st₁, _, h₂, hx⟩ := hofNew x hx
      exact hx.outcome h₂ hr
  · refine hcd.conversions.trans ?_
    generalize d.shared.state = st
    unfold FutureState.conversions
    split <;> omega

/-- A task that completes after the future was cancelled. -/
theorem outcome_write_once_late_completion :
    ∃ c d, driverProgram.Run ⟨.spawn 0 .callSoon, 0⟩ c ∧ driverProgram.Run c d ∧
      c.shared.state = .ready (.converted (.error (cancelErr 5))) ∧ d.shared.task = .over ∧
      d.shared.state = .ready (.converted (.error (cancelErr 5))) := by
  have hc : driverProgram.Run ⟨.spawn 0 .callSoon, 0⟩
      ⟨{ DriverShared.spawnOnTokio 0 .callSoon with
          state := .ready (.converted (.error (cancelErr 5))), task := .running ⟨none⟩ true },
        {.run [.notify 0, .wake]}⟩ :=
    Program.exec_run [.env (.call .start), .thread (.call .start) .go,
      .env (.call (.cancel 5)), .thread (.call (.close (cancelErr 5))) .go] rfl
  have hd : driverProgram.Run
      ⟨{ DriverShared.spawnOnTokio 0 .callSoon with
          state := .ready (.converted (.error (cancelErr 5))), task := .running ⟨none⟩ true },
        {.run [.notify 0, .wake]}⟩ _ :=
    Program.exec_run [.env (.taskFinishes 7),
      .thread (.resolve (.finished (.stashed ⟨some 7⟩))) .go] rfl
  exact ⟨_, _, hc, hd, rfl, rfl, (outcome_write_once (.spawn 0 .callSoon) hc hd rfl rfl).2.2.1 _ rfl⟩

end ScyllaDriver
