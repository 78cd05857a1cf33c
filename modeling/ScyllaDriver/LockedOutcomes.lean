import ScyllaDriver.LockedTurns

/-! What calls on a locked value return: each outcome taken is returned by one call,
calls made after an error was returned find the value over, and calls that are
driven on all return after a bounded number of steps. -/

namespace ScyllaDriver

def CallPc.work {ω : Type*} : CallPc ω → Nat
  | .called => 6
  | .fast => 5
  | .waiting => 4
  | .entered => 3
  | .awaiting => 2
  | .deliver _ => 1

namespace LockedCode

variable {σ ε ω ρ : Type*} {L : LockedCode σ ε ω ρ} {allowed : σ → CallChoice ε → Prop}
  {J : Phase → σ → List ω → Prop}

/-- A value that an error has put an end to: `over` lasts, and a call that finds the
value over stops. -/
structure Ends (L : LockedCode σ ε ω ρ) (J : Phase → σ → List ω → Prop) (spent : σ → Prop)
    (stops : ω → Prop) : Prop where
  fast : ∀ {v}, spent v → spent (L.fast v).1 ∧ ∀ o, (L.fast v).2 = some o → stops o
  enter : ∀ {v}, spent v → spent (L.enter v).1 ∧ ∃ o, (L.enter v).2 = some o ∧ stops o
  resume : ∀ {v e}, spent v → spent (L.resume v e).1
  deliver : ∀ {v o}, spent v → spent (L.deliver v o)
  reported : ∀ {phase v taken o}, J phase v taken → o ∈ taken → L.fails (L.result o) = true →
    spent (L.deliver v o)

/-- A call made after an error finds the value over. -/
def Call.Stops (spent : Prop) (stops : ω → Prop) (p : Call ω) : Prop :=
  p.late = true → spent ∧ p.pc ≠ .awaiting ∧ ∀ o, p.outcome = some o → stops o

structure Ended (L : LockedCode σ ε ω ρ) (spent : σ → Prop) (stops : ω → Prop)
    (c : Config (LockedShared σ ω ρ) (Call ω)) : Prop where
  failed : L.hasFailed c.shared = true → spent c.shared.value
  late : ∀ p ∈ c.threads, Call.Stops (spent c.shared.value) stops p
  returned : ∀ r ∈ c.shared.returned, r.1 = true → ∃ o, stops o ∧ r.2 = L.result o

variable {spent : σ → Prop} {stops : ω → Prop} {s : LockedShared σ ω ρ} {T : Multiset (Call ω)}
  {p : Call ω} {phase : Phase}

/-- A step that leaves what was returned alone keeps `Ended`, if it keeps `over` and
the call that steps still stops. -/
theorem Ended.steps (h : Ended L spent stops ⟨s, p ::ₘ T⟩) {s' : LockedShared σ ω ρ}
    {q : List (Call ω)} (hreturned : s'.returned = s.returned)
    (hover : spent s.value → spent s'.value) (hq : ∀ x ∈ q, Call.Stops (spent s'.value) stops x) :
    Ended L spent stops ⟨s', (q : Multiset (Call ω)) + T⟩ := by
  refine ⟨fun hfailed => ?_, fun x hx => ?_, ?_⟩
  · rw [hasFailed, hreturned] at hfailed
    exact hover (h.failed hfailed)
  · rcases Multiset.mem_add.mp hx with hx | hx
    · exact hq x (Multiset.mem_coe.mp hx)
    · intro hlate
      obtain ⟨hv, hx⟩ := h.late x (Multiset.mem_cons_of_mem hx) hlate
      exact ⟨hover hv, hx⟩
  · simpa only [hreturned] using h.returned

theorem Ends.thread (hL : L.Ends J spent stops) {choice : CallChoice ε} {s' : LockedShared σ ω ρ}
    {q : List (Call ω)} (ht : Turn J ⟨s, p ::ₘ T⟩ phase) (h : Ended L spent stops ⟨s, p ::ₘ T⟩)
    (hm : L.Move s p choice s' q) : Ended L spent stops ⟨s', (q : Multiset (Call ω)) + T⟩ := by
  have hp := h.late p (Multiset.mem_cons_self p T)
  cases hm with
  | contended _ | tries _ | locks _ =>
    refine h.steps rfl id fun x hx hlate => ?_
    obtain rfl := List.mem_singleton.mp hx
    exact ⟨(hp hlate).1, nofun, nofun⟩
  | dropsWaiting | dropsAwaiting => exact h.steps rfl id nofun
  | fast ho =>
    refine h.steps rfl (fun hv => (hL.fast hv).1) fun x hx hlate => ?_
    obtain rfl := List.mem_singleton.mp hx
    obtain ⟨hv, hstops⟩ := hL.fast (hp hlate).1
    refine ⟨hv, nofun, ?_⟩
    rintro o ⟨rfl⟩
    exact hstops _ ho
  | slow ho =>
    refine h.steps rfl (fun hv => (hL.fast hv).1) fun x hx hlate => ?_
    obtain rfl := List.mem_singleton.mp hx
    exact ⟨(hL.fast (hp hlate).1).1, nofun, nofun⟩
  | enters ho =>
    refine h.steps rfl (fun hv => (hL.enter hv).1) fun x hx hlate => ?_
    obtain rfl := List.mem_singleton.mp hx
    obtain ⟨hv, o, ho', hstops⟩ := hL.enter (hp hlate).1
    obtain rfl := Option.some.inj (ho.symm.trans ho')
    refine ⟨hv, nofun, ?_⟩
    rintro o ⟨rfl⟩
    exact hstops
  | awaits ho =>
    refine h.steps rfl (fun hv => (hL.enter hv).1) fun x hx hlate => ?_
    obtain rfl := List.mem_singleton.mp hx
    obtain ⟨-, o, ho', -⟩ := hL.enter (hp hlate).1
    cases ho.symm.trans ho'
  | resumes ho | awaitsMore ho =>
    refine h.steps rfl hL.resume fun x hx hlate => ?_
    obtain rfl := List.mem_singleton.mp hx
    exact absurd rfl (hp hlate).2.1
  | @delivers late outcome =>
    have hmem := ht.outcome_mem rfl
    refine ⟨fun hfailed => ?_, fun x hx hlate => ?_, fun r hr hlate => ?_⟩
    · simp only [hasFailed, List.any_append, List.any_cons, List.any_nil, Bool.or_false,
        Bool.or_eq_true] at hfailed
      rcases hfailed with hfailed | hfailed
      · exact hL.deliver (h.failed hfailed)
      · exact hL.reported ht.kept hmem hfailed
    · obtain ⟨hv, hx⟩ := h.late x (Multiset.mem_cons_of_mem (by simpa using hx)) hlate
      exact ⟨hL.deliver hv, hx⟩
    · rcases List.mem_append.mp hr with hr | hr
      · exact h.returned r hr hlate
      · obtain rfl := List.mem_singleton.mp hr
        exact ⟨outcome, (hp hlate).2.2 outcome rfl, rfl⟩

theorem Ends.called (h : Ended L spent stops ⟨s, T⟩) :
    Ended L spent stops ⟨s, ([⟨L.hasFailed s, .called⟩] : List (Call ω)) + T⟩ := by
  refine ⟨h.failed, fun x hx hlate => ?_, h.returned⟩
  rcases Multiset.mem_add.mp hx with hx | hx
  · obtain rfl := List.mem_singleton.mp (Multiset.mem_coe.mp hx)
    exact ⟨h.failed hlate, nofun, nofun⟩
  · exact h.late x hx hlate

/-- Every call made after an error was returned stops. -/
theorem Ends.run [DecidableEq ω] (hK : L.Keeps allowed J) (hL : L.Ends J spent stops) {value : σ}
    (h : J .fresh value []) {c : Config (LockedShared σ ω ρ) (Call ω)}
    (hr : L.program.RunIn (answered allowed) (init value) c) : Ended L spent stops c := by
  have hinv : L.program.Preserves (answered allowed)
      fun c => (∃ phase, Turn J c phase) ∧ Ended L spent stops c :=
    { thread := fun hok hc hs => by
        obtain ⟨⟨phase, ht⟩, he⟩ := hc
        exact ⟨hK.thread hok ht (step_move hs), hL.thread ht he (step_move hs)⟩
      env := fun _ hc hs => by
        obtain ⟨⟨phase, ht⟩, he⟩ := hc
        cases hs
        exact ⟨⟨phase, ht.called⟩, Ends.called he⟩ }
  refine (hinv.run ⟨⟨.fresh, .init h⟩, ?_⟩ hr).2
  exact ⟨by simp [init, hasFailed], by simp [init], by simp [init]⟩

theorem returned_eq [DecidableEq ω] {ok : Config (LockedShared σ ω ρ) (Call ω) → _ → Prop}
    {value : σ} {c : Config (LockedShared σ ω ρ) (Call ω)}
    (hr : L.program.RunIn ok (init value) c) :
    c.shared.returned.map Prod.snd = c.shared.delivered.map L.result := by
  have hinv : L.program.Preserves ok fun c =>
      c.shared.returned.map Prod.snd = c.shared.delivered.map L.result :=
    { thread := fun _ hc hs => by
        cases step_move hs <;> first | exact hc | simp [hc]
      env := fun _ hc hs => by
        cases hs
        exact hc }
  exact hinv.run rfl hr

/-- Calls under way are driven on: none is made and none is dropped. -/
def driven (allowed : σ → CallChoice ε → Prop) (c : Config (LockedShared σ ω ρ) (Call ω))
    (l : Label (Call ω) (CallChoice ε) Unit) : Prop :=
  answered allowed c l ∧ ∃ p choice, l = .thread p choice ∧ choice ≠ .drop

theorem step_go (hp : p.pc ≠ .awaiting) (hlocked : p.pc = .waiting → s.locked = false) :
    ∃ r, L.step s p .go = some r := by
  obtain ⟨late, pc⟩ := p
  cases pc with
  | called =>
    simp only [step]
    split <;> exact ⟨_, rfl⟩
  | fast =>
    simp only [step]
    split <;> exact ⟨_, rfl⟩
  | waiting => exact ⟨_, if_neg (by simp [hlocked rfl])⟩
  | entered => exact ⟨_, rfl⟩
  | awaiting => exact absurd rfl hp
  | deliver outcome => exact ⟨_, rfl⟩

/-- Calls under way never wait for each other for good. -/
theorem Turn.progress [DecidableEq ω] {c : Config (LockedShared σ ω ρ) (Call ω)}
    (h : Turn J c phase) (hreply : ∀ v, ∃ e, allowed v (.reply e)) (hc : c.threads ≠ 0) :
    ∃ d, L.program.StepIn (driven allowed) c d := by
  have hstep : ∀ p ∈ c.threads, ∀ choice r, choice ≠ .drop →
      (p.pc = .awaiting → allowed c.shared.value choice) → L.step c.shared p choice = some r →
      ∃ d, L.program.StepIn (driven allowed) c d := by
    intro p hp choice r hchoice hok hr
    refine ⟨⟨r.1, (r.2 : Multiset (Call ω)) + c.threads.erase p⟩, .thread p choice,
      ⟨hok, p, choice, rfl, hchoice⟩, ?_⟩
    simp only [Program.next, if_pos hp, program, hr, Option.map_some]
  -- The holder of the lock, if there is one, otherwise any call.
  obtain ⟨p, hp, hpc⟩ : ∃ p ∈ c.threads, p.pc = .waiting → c.shared.locked = false := by
    by_cases hlocked : c.shared.locked = true
    · have hpos : 0 < c.threads.countP (·.pc.holds) := by
        rw [h.holders, hlocked]
        decide
      obtain ⟨p, hp, hholds⟩ := Multiset.countP_pos.mp hpos
      exact ⟨p, hp, fun hpc => by simp [hpc] at hholds⟩
    · obtain ⟨p, hp⟩ := Multiset.exists_mem_of_ne_zero hc
      exact ⟨p, hp, fun _ => by simpa using hlocked⟩
  by_cases hawaiting : p.pc = .awaiting
  · obtain ⟨e, he⟩ := hreply c.shared.value
    have hr : L.step c.shared p (.reply e) =
        some (endSection c.shared p.late (L.resume c.shared.value e)) := by
      simp only [step, hawaiting]
    exact hstep p hp (.reply e) _ (by simp) (fun _ => he) hr
  · obtain ⟨r, hr⟩ := step_go (L := L) hawaiting hpc
    exact hstep p hp .go r (by simp) (fun hpc => absurd hpc hawaiting) hr

/-- A bound on the sections that end by awaiting a further reply. -/
structure Bounded (L : LockedCode σ ε ω ρ) (allowed : σ → CallChoice ε → Prop)
    (size : Nat → σ → Prop) : Prop where
  fast : ∀ {n v}, size n v → size n (L.fast v).1
  enter : ∀ {n v}, size n v → size n (L.enter v).1
  resume : ∀ {n v e}, size n v → allowed v (.reply e) →
    ∃ m, size m (L.resume v e).1 ∧ m ≤ n ∧ ((L.resume v e).2 = none → m < n)
  deliver : ∀ {n v o}, size n v → size n (L.deliver v o)

/-- A bound on the steps the calls have before them, without further replies. -/
def work (T : Multiset (Call ω)) : Nat := (T.map (·.pc.work)).sum

@[simp] theorem work_cons (p : Call ω) (T : Multiset (Call ω)) :
    work (p ::ₘ T) = p.pc.work + work T := by
  simp [work]

variable {size : Nat → σ → Prop}

theorem Bounded.thread (hL : L.Bounded allowed size) {n : Nat} {choice : CallChoice ε}
    {s' : LockedShared σ ω ρ} {q : List (Call ω)} (hsize : size n s.value)
    (hok : p.pc = .awaiting → allowed s.value choice) (hm : L.Move s p choice s' q) :
    ∃ m, size m s'.value ∧ m + work ((q : Multiset (Call ω)) + T) < n + work (p ::ₘ T) := by
  cases hm with
  | contended _ | tries _ | locks _ | dropsWaiting | dropsAwaiting =>
    exact ⟨n, hsize, by simp [CallPc.work]⟩
  | fast _ | slow _ => exact ⟨n, hL.fast hsize, by simp [CallPc.work]⟩
  | enters _ | awaits _ => exact ⟨n, hL.enter hsize, by simp [CallPc.work]⟩
  | resumes _ =>
    obtain ⟨m, hm, hle, -⟩ := hL.resume hsize (hok rfl)
    refine ⟨m, hm, ?_⟩
    simp only [Multiset.coe_singleton, Multiset.singleton_add, work_cons, CallPc.work]
    omega
  | awaitsMore ho =>
    obtain ⟨m, hm, -, hlt⟩ := hL.resume hsize (hok rfl)
    have hlt := hlt ho
    refine ⟨m, hm, ?_⟩
    simp only [Multiset.coe_singleton, Multiset.singleton_add, work_cons, CallPc.work]
    omega
  | delivers => exact ⟨n, hL.deliver hsize, by simp [CallPc.work]⟩

/-- Calls under way that are driven on take a bounded number of steps. -/
theorem Bounded.chain [DecidableEq ω] (hL : L.Bounded allowed size) {n : Nat}
    {c : Config (LockedShared σ ω ρ) (Call ω)} (hsize : size n c.shared.value)
    {ds : List (Config (LockedShared σ ω ρ) (Call ω))}
    (h : List.IsChain (L.program.StepIn (driven allowed)) (c :: ds)) :
    ds.length ≤ n + work c.threads := by
  induction ds generalizing c n with
  | nil => exact Nat.zero_le _
  | cons d ds ih =>
    rw [List.isChain_cons_cons] at h
    obtain ⟨⟨l, ⟨hok, p, choice, rfl, -⟩, hn⟩, hds⟩ := h
    rcases Program.next_cases hn with ⟨_, _, T, s, q, hl, hc, hs, rfl⟩ | ⟨_, _, _, hl, -⟩
    · cases hl
      obtain ⟨m, hm, hlt⟩ := hL.thread (T := T) hsize hok (step_move hs)
      have hle := ih hm hds
      rw [hc, List.length_cons]
      exact Nat.lt_of_le_of_lt hle hlt
    · cases hl

/-- However the calls under way are driven on, all of them return after a bounded
number of steps. -/
structure Completes [DecidableEq ω] (L : LockedCode σ ε ω ρ) (allowed : σ → CallChoice ε → Prop)
    (c : Config (LockedShared σ ω ρ) (Call ω)) : Prop where
  bounded : ∃ bound, ∀ ds, List.IsChain (L.program.StepIn (driven allowed)) (c :: ds) →
    ds.length ≤ bound
  progress : ∀ d, L.program.RunIn (driven allowed) c d → d.threads ≠ 0 →
    ∃ d', L.program.StepIn (driven allowed) d d'

theorem Bounded.completes [DecidableEq ω] (hL : L.Bounded allowed size) (hK : L.Keeps allowed J)
    (hreply : ∀ v, ∃ e, allowed v (.reply e)) {c : Config (LockedShared σ ω ρ) (Call ω)}
    (ht : Turn J c phase) {n : Nat} (hsize : size n c.shared.value) : L.Completes allowed c where
  bounded := ⟨n + work c.threads, fun _ hds => hL.chain hsize hds⟩
  progress d hd hne := by
    have hrun : L.program.RunIn (answered allowed) c d :=
      Relation.ReflTransGen.mono (fun _ _ ⟨l, hl, hn⟩ => ⟨l, hl.1, hn⟩) c d hd
    obtain ⟨phase, htd⟩ := hK.preserves.run ⟨phase, ht⟩ hrun
    exact htd.progress hreply hne

end LockedCode

end ScyllaDriver
