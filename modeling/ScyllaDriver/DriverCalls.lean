import ScyllaDriver.DriverFiring
import ScyllaDriver.DriverShutdown
import ScyllaDriver.FollowedCalls

/-! Calls of the methods of a `DriverFuture` that is started before it is awaited. Its lock is
then held for conversions only, and a call comes to its end while whoever made it waits. -/

namespace ScyllaDriver

/-- No `__next__` finds the future driven by asyncio: it is started first. -/
def StartedFirst (c : Config DriverShared DriverPc) (l : Label DriverPc Choice DriverEvent) :
    Prop :=
  ∀ e, l = .thread (.call .next) e → ∀ co, c.shared.state ≠ .pendingAsyncio co

section Moves

variable {s s' : DriverShared} {p : DriverPc} {q : List DriverPc} {T : Multiset DriverPc}
  {st : FutureState}

/-- The thread polls the future, with the lock held. -/
def DriverPc.Polling (p : DriverPc) : Prop := ∃ co, p.inside = some (.pendingAsyncio co)

theorem DriverPc.not_polling_of_inside (h : p.inside = none) : ¬ p.Polling := by
  rintro ⟨co, hco⟩
  cases h.symm.trans hco

theorem not_polling_suspend (value : Except PyErr (Option AioFuture)) :
    ∀ r ∈ suspend value, ¬ r.Polling :=
  fun _ hr => DriverPc.not_polling_of_inside (lockFree_suspend _ hr)

theorem DriverMove.not_polling (hm : DriverMove s p s' q)
    (hnext : p = .call .next → ∀ co, s.state ≠ .pendingAsyncio co) (hp : ¬ p.Polling) :
    ∀ r ∈ q, ¬ r.Polling := by
  have single {r : DriverPc} (hr : r.inside = none) : ∀ x ∈ [r], ¬ x.Polling := by
    simpa using DriverPc.not_polling_of_inside hr
  cases hm with
  | skip hl h => cases h <;> simp [DriverPc.Polling, DriverPc.inside]
  | readUnconverted => simp [DriverPc.Polling, DriverPc.inside]
  | nextAsyncio hl hs => exact absurd hs (hnext rfl _)
  | reset | pollPending | pollReady | pollPanicked | park | store => exact absurd ⟨_, rfl⟩ hp
  | yieldAsyncio => exact not_polling_suspend _
  | resolveFinished =>
    refine single ?_
    split <;> rfl
  | _ => simp [DriverPc.Polling, DriverPc.inside]

end Moves

theorem never_polling {s₀ : DriverShared} (hnew : s₀.IsNew) {c : Config DriverShared DriverPc}
    (hr : driverProgram.RunIn StartedFirst ⟨s₀, 0⟩ c) :
    ∃ st, Coherent st c ∧ ∀ p ∈ c.threads, ¬ p.Polling := by
  refine driver_invariant StartedFirst (I := fun _ c => ∀ p ∈ c.threads, ¬ p.Polling) ?_ ?_
    (hnew.coherent (by simp)) (by simp) hr
  · intro s s' p q T e st hok hc h hs hm r hr
    rcases Multiset.mem_add.mp hr with hr | hr
    · refine hm.not_polling (fun hp => hok e ?_) (h p (Multiset.mem_cons_self p T)) r hr
      rw [hp]
    · exact h r (Multiset.mem_cons_of_mem hr)
  · intro s s' k q T st hok hc h ha r hr
    rcases Multiset.mem_add.mp hr with hr | hr
    · refine DriverPc.not_polling_of_inside ?_
      cases ha <;> simp_all [DriverPc.inside]
    · exact h r hr

/-- The future is started before it is awaited, and the runtime is not shut down. -/
def Ordinary (c : Config DriverShared DriverPc) (l : Label DriverPc Choice DriverEvent) : Prop :=
  StartedFirst c l ∧ NoShutdown c l

/-- What holds of a future in ordinary runs. -/
structure Calm (st : FutureState) (c : Config DriverShared DriverPc) : Prop where
  coherent : Coherent st c
  kept : driverWaiting.Kept (∃ rr, st = .ready rr) c
  reporting : Reporting st c
  unpolled : ∀ p ∈ c.threads, ¬ p.Polling

theorem Coherent.unique {st st' : FutureState} {c : Config DriverShared DriverPc}
    (h : Coherent st c) (h' : Coherent st' c) : st = st' :=
  h.locking.unique h'.locking

theorem calm_of_run {s₀ : DriverShared} (hnew : s₀.IsNew) {c : Config DriverShared DriverPc}
    (hr : driverProgram.RunIn Ordinary ⟨s₀, 0⟩ c) : ∃ st, Calm st c := by
  have hstarted : driverProgram.RunIn StartedFirst ⟨s₀, 0⟩ c :=
    Relation.ReflTransGen.mono (fun _ _ ⟨l, hok, hn⟩ => ⟨l, hok.1, hn⟩) _ _ hr
  have hup : driverProgram.RunIn NoShutdown ⟨s₀, 0⟩ c :=
    Relation.ReflTransGen.mono (fun _ _ ⟨l, hok, hn⟩ => ⟨l, hok.2, hn⟩) _ _ hr
  obtain ⟨st, hc, hpoll⟩ := never_polling hnew hstarted
  obtain ⟨st', hc', hkept⟩ := driver_waiters hnew (NoShutdown.kept hnew hup)
  obtain ⟨st'', hc'', hrep, -⟩ := driver_reporting hnew (NoShutdown.kept hnew hup)
  obtain rfl := hc.unique hc'
  obtain rfl := hc.unique hc''
  exact ⟨st, hc, hkept, hrep, hpoll⟩

/-- A future that is `Ready` stays so. -/
theorem ready_of_run {ok : Config DriverShared DriverPc → Label DriverPc Choice DriverEvent → Prop}
    {rr : ReadyResult} {c d : Config DriverShared DriverPc} (hc : Coherent (.ready rr) c)
    (hr : driverProgram.RunIn ok c d) : ∃ rr', Coherent (.ready rr') d := by
  obtain ⟨st, hd, rr', rfl⟩ := driver_invariant ok (I := fun st _ => ∃ rr, st = .ready rr)
    (fun {s s' p q T e st} _ hc h _ hm => by
      obtain ⟨rr, rfl⟩ := h
      rcases hm.life hc.locking.stance with hs | hs
      · exact ⟨rr, hs⟩
      · generalize s'.seen q (.ready rr) = st' at hs
        cases hs
        exact ⟨_, rfl⟩)
    (fun _ _ h _ => h) hc ⟨rr, rfl⟩ hr
  exact ⟨rr', hd⟩

/-- Who runs the user code that makes a call: a thread, or the tokio task that polls the Rust
future and with it the row builders. -/
inductive Caller where
  | thread (p : DriverPc)
  | task

namespace Caller

def still : Caller → Multiset DriverPc
  | .thread p => {p}
  | .task => 0

/-- The task that waits for a call does not end. -/
def Waits (l : Label DriverPc Choice DriverEvent) : Caller → Prop
  | .thread _ => True
  | .task => (∀ out, l ≠ .env (.taskFinishes out)) ∧ (∀ e, l ≠ .env (.taskPanics e)) ∧
    ∀ obj, l ≠ .env (.taskDropped obj)

/-- The caller has no part in making the future `Ready` or in telling so. -/
def Apart : Caller → Prop
  | .thread p => ¬ p.OwesNotify ∧ ∀ o, p ≠ .resolve o
  | .task => False

/-- A thread that waits for a call does not hold the lock. -/
def Unlocked (caller : Caller) : Prop := ∀ p ∈ caller.still, p.inside = none

end Caller

/-- What may happen while the caller waits. -/
def Meanwhile (caller : Caller) (c : Config DriverShared DriverPc)
    (l : Label DriverPc Choice DriverEvent) : Prop :=
  Ordinary c l ∧ caller.Waits l

/-- A blocked thread goes on after it was notified. -/
def Awoken (caller : Caller) (c : Config DriverShared DriverPc)
    (l : Label DriverPc Choice DriverEvent) : Prop :=
  Meanwhile caller c l ∧ ∀ t since e, l = .thread (.blocked t since) e → since < c.shared.epoch

/-- The stages of a call other than `__next__`. -/
def DriverPc.IsCall : DriverPc → Prop
  | .call entry => entry ≠ .next
  | .waitForReady _ | .blocked _ _ | .readReady | .convert _ _ | .run _ => True
  | _ => False

/-- The call waits, or may come to wait, for the future. -/
def DriverPc.MayWait (st : FutureState) : DriverPc → Prop
  | .call (.result _) => ∀ rr, st ≠ .ready rr
  | .waitForReady _ | .blocked _ _ => True
  | _ => False

section Calls

variable {caller : Caller} {s s' : DriverShared} {p r : DriverPc} {q : List DriverPc}
  {T : Multiset DriverPc} {st : FutureState} {e : Choice}

/-- A call that waits is not one that the future waits for. -/
structure Served (caller : Caller) (st : FutureState) (x : Followed DriverShared DriverPc) :
    Prop where
  coherent : Coherent st (x.config caller.still)
  isCall : x.pc.IsCall
  apart : x.pc.MayWait st → caller.Apart

theorem DriverMove.call_stays (hm : DriverMove s p s' q) (hv : Stance s p st) (hp : p.Agrees st)
    (hcall : p.IsCall) : ∀ r ∈ q, r.IsCall ∧ (r.MayWait (s'.seen q st) → p.MayWait st) := by
  cases hm with
  | skip hl h =>
    cases h with
    | resultTokio hs =>
      have hst := (hv.state_eq hl).symm.trans hs
      simp [DriverPc.IsCall, DriverPc.MayWait, hst]
    | nextTokio => exact absurd rfl hcall
    | _ => simp [DriverPc.IsCall, DriverPc.MayWait]
  | resultAsyncio hl hs =>
    have hst := (hv.state_eq hl).symm.trans hs
    simp [DriverPc.IsCall, DriverPc.MayWait, hst]
  | nextAsyncio => exact absurd rfl hcall
  | waitUnreachable hl hs | wakeUnreachable hl hs =>
    exact absurd ((hv.state_eq hl).symm.trans hs) (hp _)
  | reset | pollPending | pollReady | pollPanicked | park | store | yieldAsyncio
  | resolveFinished | resolveDropped | blocking | closureDropped | fireNone | fireUnreachable
  | resumeNone | resumeDone | throwIn => exact hcall.elim
  | _ => simp [DriverPc.IsCall, DriverPc.MayWait]

/-- Others may make the future `Ready`, never the reverse. -/
theorem DriverPc.MayWait.of_life {st' : FutureState} (h : p.MayWait st')
    (hlife : st' = st ∨ st.Step st') : p.MayWait st := by
  cases p with
  | call entry =>
    cases entry with
    | result t =>
      rintro rr rfl
      rcases hlife with rfl | hstep
      · exact h rr rfl
      · cases hstep
        exact h _ rfl
    | _ => exact h
  | _ => exact h

theorem Served.follow {x y : Followed DriverShared DriverPc} (hx : Served caller st x)
    (h : driverProgram.Follow (Meanwhile caller) caller.still x y) : ∃ st', Served caller st' y := by
  induction h with
  | refl => exact ⟨st, hx⟩
  | @tail y z _ hstep ih =>
    obtain ⟨st, hy⟩ := ih
    cases hstep with
    | @own s p T e s' p' hok hs =>
      have hm := driverStep_move hy.coherent.locking.clean hs
      have hv := hy.coherent.locking.stance
      have hagree := hy.coherent.threads p (Multiset.mem_cons_self _ _)
      have hstays := hm.call_stays hv hagree hy.isCall p' (by simp)
      exact ⟨_, hy.coherent.move hm, hstays.1, fun hwait => hy.apart (hstays.2 hwait)⟩
    | @other s p r T e s' q hok hs =>
      have hc := hy.coherent
      rw [Followed.config_cons] at hc
      have hm := driverStep_move hc.locking.clean hs
      refine ⟨_, Followed.config_add .. ▸ hc.move hm, hy.isCall, fun hwait => hy.apart ?_⟩
      exact hwait.of_life (hm.life hc.locking.stance)
    | @env s p T k s' q hok hs =>
      have hc := hy.coherent.arrive (driverEnv_arrival hs)
      exact ⟨st, Followed.config_add .. ▸ hc, hy.isCall, hy.apart⟩

/-- What a call still does once it has read the state. -/
def Act.cost : Act → Nat
  | .wake | .wakeByRef => 2
  | _ => 1

theorem act_cost (s : DriverShared) (a : Act) : ((s.act a).2.map Act.cost).sum < a.cost := by
  have hwake : ((s.act .wake).2.map Act.cost).sum < 2 := by
    simp only [DriverShared.act]
    split
    · rename_i slot _
      cases slot.takeParked.2 <;> simp [Act.cost]
    · simp
  cases a with
  | wake | wakeByRef => exact hwake
  | _ => simp [DriverShared.act, Act.cost]

theorem awoken_thread {c : Config DriverShared DriverPc} (hcall : p ≠ .call .next)
    (hblocked : ∀ t since, p ≠ .blocked t since) : Awoken caller c (.thread p e) := by
  refine ⟨⟨⟨fun e' he => ?_, nofun⟩, ?_⟩, fun t since e' he => ?_⟩
  · cases he
    exact absurd rfl hcall
  · cases caller with
    | thread p => trivial
    | task => exact ⟨nofun, nofun, nofun⟩
  · cases he
    exact absurd rfl (hblocked t since)

/-- What the calls of `caller` do when they return. -/
abbrev CallReturns (caller : Caller) (x : Followed DriverShared DriverPc) : Prop :=
  driverProgram.CanReturn (Awoken caller) caller.still x

theorem returns_run (acts : List Act) : CallReturns caller ⟨s, .run acts, T⟩ := by
  induction hcost : (acts.map Act.cost).sum using Nat.strong_induction_on generalizing s acts with
  | _ n ih =>
    cases acts with
    | nil => exact .now (e := .go) (awoken_thread nofun nofun) rfl
    | cons a acts =>
      have hlt := act_cost s a
      simp only [List.map_cons, List.sum_cons] at hcost
      refine .own (e := .go) (awoken_thread nofun nofun) rfl (ih _ ?_ _ rfl)
      simp only [List.map_append, List.sum_append]
      omega

theorem returns_convert (reader : Reader) (resolved : ResolvedResult) :
    CallReturns caller ⟨s, .convert reader resolved, T⟩ :=
  .own (e := .converted (.ok 0)) (awoken_thread nofun nofun) rfl (returns_run _)

theorem driverStep_reader {reader : Reader} {rr : ReadyResult} (hl : s.locked = false)
    (hs : s.state = .ready rr) (hp : p.reader = some reader) :
    driverStep s p .go = some (s.getOrConvert reader rr) := by
  cases p with
  | call entry =>
    cases entry <;> cases hp <;>
      simp [driverStep, hl, hs, DriverShared.enter, DriverShared.registerCallback,
        DriverShared.blockUntilReady, DriverShared.pollCoroutine, DriverShared.readCancelled,
        DriverShared.readRepr]
  | readReady =>
    cases hp
    simp [driverStep, hl, hs, DriverShared.readReady]
  | fireAndNotify cbs n =>
    cases cbs <;> cases hp
    simp [driverStep, hl, hs, DriverShared.fireAndNotify]
  | _ => cases hp

theorem returns_reader {reader : Reader} {rr : ReadyResult} (hl : s.locked = false)
    (hs : s.state = .ready rr) (hp : p.reader = some reader) (hnext : p ≠ .call .next) :
    CallReturns caller ⟨s, p, T⟩ := by
  have hstep := driverStep_reader hl hs hp
  have hok {c} : Awoken caller c (.thread p .go) :=
    awoken_thread hnext (by rintro t since rfl; cases hp)
  cases rr with
  | converted r => exact .own hok hstep (returns_run _)
  | unconverted resolved => exact .own hok hstep (returns_convert reader resolved)

end Calls

/-- A call in an ordinary run of a new future, whose caller does not hold the lock. -/
structure Reached (caller : Caller) (x : Followed DriverShared DriverPc) : Prop where
  run : ∃ s₀, DriverShared.IsNew s₀ ∧
    driverProgram.RunIn Ordinary ⟨s₀, 0⟩ (x.config caller.still)
  unlocked : caller.Unlocked

section Waiting

variable {caller : Caller} {x y : Followed DriverShared DriverPc}

theorem Reached.calm (h : Reached caller x) : ∃ st, Calm st (x.config caller.still) := by
  obtain ⟨s₀, hnew, hr⟩ := h.run
  exact calm_of_run hnew hr

theorem Reached.follow (h : Reached caller x)
    (hf : driverProgram.Follow (Awoken caller) caller.still x y) : Reached caller y := by
  obtain ⟨s₀, hnew, hr⟩ := h.run
  refine ⟨⟨s₀, hnew, hr.trans ?_⟩, h.unlocked⟩
  exact (hf.mono fun _ _ hok => hok.1.1).runIn

/-- Somebody else may be converting; that ends, and nothing else is touched. -/
theorem Reached.release (h : Reached caller x) (hpc : x.pc.inside = none) :
    ∃ y, driverProgram.Follow (Awoken caller) caller.still x y ∧ y.pc = x.pc ∧
      y.shared.locked = false ∧ y.shared.epoch = x.shared.epoch ∧
      ∀ r ∈ x.others, r.inside = none → r ∈ y.others := by
  obtain ⟨s, p, T⟩ := x
  cases hl : s.locked with
  | false => exact ⟨_, .refl, rfl, hl, rfl, fun r hr _ => hr⟩
  | true =>
    obtain ⟨st, hcalm⟩ := h.calm
    have hlocking := hcalm.coherent.locking
    rcases hlocking.cons_cases with ⟨-, -, hi, -⟩ | ⟨hfree, -⟩ | ⟨-, -, r, U, hU, -, hi, -⟩
    · cases hpc.symm.trans hi
    · cases hl.symm.trans hfree
    · -- The holder is no caller, and it does not poll.
      have hmem : r ∈ T + caller.still := hU ▸ Multiset.mem_cons_self r U
      have hr : r ∈ T := (Multiset.mem_add.mp hmem).resolve_right fun hstill => by
        cases (h.unlocked r hstill).symm.trans hi
      have hpoll := hcalm.unpolled r (Multiset.mem_cons_of_mem hmem)
      cases r with
      | convert reader resolved =>
        refine ⟨_, .step_other (e := .converted (.ok 0)) hr (awoken_thread nofun nofun) rfl, rfl,
          rfl, rfl, fun z hz hnone => ?_⟩
        refine Multiset.mem_add.mpr (.inr ((Multiset.mem_erase_of_ne ?_).mpr hz))
        rintro rfl
        cases hnone
      | reset | poll | park | store => exact absurd ⟨_, rfl⟩ hpoll
      | _ => cases hi

/-- With the lock free, the state is the one its users see. -/
theorem Reached.ready_state {rr : ReadyResult} (h : Coherent (.ready rr) (x.config caller.still))
    (hf : driverProgram.Follow (Awoken caller) caller.still x y) (hl : y.shared.locked = false) :
    ∃ rr', y.shared.state = .ready rr' := by
  obtain ⟨rr', hc⟩ := ready_of_run h hf.runIn
  exact ⟨rr', hc.locking.state_eq hl⟩

theorem Reached.returns_readReady (h : Reached caller x) (hx : x.pc = .readReady) :
    CallReturns caller x := by
  obtain ⟨st, hcalm⟩ := h.calm
  obtain ⟨rr, rfl⟩ : ∃ rr, st = .ready rr := by
    have hagree := hcalm.coherent.threads x.pc (Multiset.mem_cons_self _ _)
    rwa [hx] at hagree
  obtain ⟨⟨s, p, T⟩, hf, hpc, hl, -⟩ := h.release (by rw [hx]; rfl)
  obtain ⟨rr', hs⟩ := Reached.ready_state hcalm.coherent hf hl
  obtain rfl : p = .readReady := hpc.trans hx
  exact .of_follow hf (returns_reader hl hs rfl nofun)

/-- A thread that was notified of a future that is `Ready` returns. -/
theorem Reached.returns_notified (h : Reached caller x) {t : Bool} {since : Nat}
    (hx : x.pc = .blocked t since) {rr : ReadyResult}
    (hready : Coherent (.ready rr) (x.config caller.still)) (hsince : since < x.shared.epoch) :
    CallReturns caller x := by
  obtain ⟨⟨s, p, T⟩, hf, hpc, hl, hepoch, -⟩ := h.release (by rw [hx]; rfl)
  obtain ⟨rr', hs⟩ := Reached.ready_state hready hf hl
  obtain rfl : p = .blocked t since := hpc.trans hx
  replace hl : s.locked = false := hl
  replace hs : s.state = .ready rr' := hs
  have hok : Awoken caller (Followed.config caller.still ⟨s, .blocked t since, T⟩)
      (.thread (.blocked t since) .go) := by
    refine ⟨⟨⟨nofun, nofun⟩, ?_⟩, fun t' since' e he => ?_⟩
    · cases caller with
      | thread p => trivial
      | task => exact ⟨nofun, nofun, nofun⟩
    · cases he
      exact hsince.trans_eq hepoch.symm
  have hstep : driverStep s (.blocked t since) .go =
      some ({ s with waiters := s.waiters - 1 }, [.readReady]) := by
    simp [driverStep, hl, DriverShared.wakeUp, hs]
  have hwoken := hf.tail (.own hok hstep)
  exact .of_follow hwoken ((h.follow hwoken).returns_readReady rfl)

section Notify

variable (caller) (s : DriverShared) (p : DriverPc) {T : Multiset DriverPc}

theorem notified_run {acts : List Act} (hr : .run acts ∈ T) {n : Nat} (hn : 0 < n)
    (hmem : .notify n ∈ acts) :
    ∃ y, driverProgram.Follow (Awoken caller) caller.still ⟨s, p, T⟩ y ∧ y.pc = p ∧
      s.epoch < y.shared.epoch := by
  induction hcost : (acts.map Act.cost).sum using Nat.strong_induction_on
    generalizing s acts T with
  | _ m ih =>
    obtain ⟨a, rest, rfl⟩ := List.exists_cons_of_ne_nil (List.ne_nil_of_mem hmem)
    have hstep : driverProgram.Follow (Awoken caller) caller.still ⟨s, p, T⟩
        ⟨(s.act a).1, p, .run ((s.act a).2 ++ rest) ::ₘ T.erase _⟩ :=
      .step_to (e := .go) hr (awoken_thread nofun nofun) rfl
    rcases List.mem_cons.mp hmem with rfl | hmem
    · exact ⟨_, hstep, rfl, by simp [DriverShared.act, hn]⟩
    · have hlt := act_cost s a
      simp only [List.map_cons, List.sum_cons] at hcost
      have hless : (((s.act a).2 ++ rest).map Act.cost).sum < m := by
        simp only [List.map_append, List.sum_append]
        omega
      obtain ⟨y, hf, hpc, hepoch⟩ := ih _ hless (s.act a).1 (Multiset.mem_cons_self _ _)
        (List.mem_append_right _ hmem) rfl
      exact ⟨y, hstep.trans hf, hpc, (act_epoch s a).trans_lt hepoch⟩

theorem notified_convert {cbs : List CallbackKind} {n : Nat} {resolved : ResolvedResult}
    (hr : .convert (.fire cbs n) resolved ∈ T) (hn : 0 < n) :
    ∃ y, driverProgram.Follow (Awoken caller) caller.still ⟨s, p, T⟩ y ∧ y.pc = p ∧
      s.epoch < y.shared.epoch := by
  have hstep : driverProgram.Follow (Awoken caller) caller.still ⟨s, p, T⟩ _ :=
    .step_to (e := .converted (.ok 0)) hr (awoken_thread nofun nofun) rfl
  have hmem : .notify n ∈ (Reader.fire cbs n).acts (resolved.intoPyResult (.ok 0)) := by
    simp [Reader.acts]
  obtain ⟨y, hf, hpc, hepoch⟩ := notified_run caller
    (s.finishConvert (.fire cbs n) resolved (.ok 0)).1 p (Multiset.mem_cons_self _ _) hn hmem
  exact ⟨y, hstep.trans hf, hpc, hepoch⟩

end Notify

theorem Reached.notified_fire (h : Reached caller x) (hpc : x.pc.inside = none)
    {cbs : List CallbackKind} {n : Nat} (hr : .fireAndNotify cbs n ∈ x.others) (hn : 0 < n) :
    ∃ y, driverProgram.Follow (Awoken caller) caller.still x y ∧ y.pc = x.pc ∧
      x.shared.epoch < y.shared.epoch := by
  cases cbs with
  | nil =>
    have hstep : driverProgram.Follow (Awoken caller) caller.still x _ :=
      .step_to (e := .go) hr (awoken_thread nofun nofun) rfl
    have hmem : .notify n ∈ [Act.wake, .notify n] := by simp
    obtain ⟨y, hf, hy⟩ := notified_run caller x.shared x.pc (Multiset.mem_cons_self _ _) hn hmem
    exact ⟨y, hstep.trans hf, hy⟩
  | cons cb cbs =>
    obtain ⟨st, hcalm⟩ := h.calm
    obtain ⟨rr, rfl⟩ : ∃ rr, st = .ready rr :=
      hcalm.coherent.threads _ (Multiset.mem_cons_of_mem (Multiset.mem_add.mpr (.inl hr)))
    obtain ⟨⟨s, p, T⟩, hf, hp, hl, hepoch, hkeep⟩ := h.release hpc
    obtain ⟨rr', hs⟩ := Reached.ready_state hcalm.coherent hf hl
    have hfire := driverStep_reader (p := .fireAndNotify (cb :: cbs) n) hl hs rfl
    cases rr' with
    | converted r =>
      have hstep : driverProgram.Follow (Awoken caller) caller.still ⟨s, p, T⟩ _ :=
        .step_to (e := .go) (hkeep _ hr rfl) (awoken_thread nofun nofun) hfire
      have hmem : .notify n ∈ (Reader.fire (cb :: cbs) n).acts r := by simp [Reader.acts]
      obtain ⟨y, hf', hpc', hepoch'⟩ := notified_run caller
        (s.deliver (.fire (cb :: cbs) n) r).1 p (Multiset.mem_cons_self _ _) hn hmem
      exact ⟨y, hf.trans (hstep.trans hf'), hpc'.trans hp, hepoch.symm.trans_lt hepoch'⟩
    | unconverted resolved =>
      have hstep : driverProgram.Follow (Awoken caller) caller.still ⟨s, p, T⟩ _ :=
        .step_to (e := .go) (hkeep _ hr rfl) (awoken_thread nofun nofun) hfire
      obtain ⟨y, hf', hpc', hepoch'⟩ := notified_convert caller
        (s.getOrConvert (.fire (cb :: cbs) n) (.unconverted resolved)).1 p
        (Multiset.mem_cons_self _ _) hn
      exact ⟨y, hf.trans (hstep.trans hf'), hpc'.trans hp, hepoch.symm.trans_lt hepoch'⟩

/-- Whoever owes a `notify` comes to it. -/
theorem Reached.notified (h : Reached caller x) (hpc : x.pc.inside = none) {r : DriverPc}
    (hr : r ∈ x.others) (howes : r.OwesNotify) :
    ∃ y, driverProgram.Follow (Awoken caller) caller.still x y ∧ y.pc = x.pc ∧
      x.shared.epoch < y.shared.epoch := by
  cases r with
  | run acts =>
    obtain ⟨n, hn, hmem⟩ := howes
    exact notified_run caller x.shared x.pc hr hn hmem
  | convert reader resolved =>
    cases reader with
    | fire cbs n => exact notified_convert caller x.shared x.pc hr howes
    | _ => exact howes.elim
  | fireAndNotify cbs n => exact h.notified_fire hpc hr howes
  | blocking cbs n =>
    have hstep : driverProgram.Follow (Awoken caller) caller.still x _ :=
      .step_to (e := .go) hr (awoken_thread nofun nofun) rfl
    obtain ⟨y, hf, hy⟩ := (h.follow hstep).notified_fire hpc (Multiset.mem_cons_self _ _) howes
    exact ⟨y, hstep.trans hf, hy⟩
  | _ => exact howes.elim

/-- The thread that runs `on_done` makes the future `Ready`. -/
theorem Reached.resolved (h : Reached caller x) {o : TaskOutcome} {cbs : List CallbackKind}
    (ho : .resolve o ∈ x.others) (hl : x.shared.locked = false)
    (hs : x.shared.state = .pendingTokio cbs) :
    ∃ y rr, driverProgram.Follow (Awoken caller) caller.still x y ∧ y.pc = x.pc ∧
      Coherent (.ready rr) (y.config caller.still) := by
  have hstep : driverStep x.shared (.resolve o) .go = some (x.shared.resolveOnTokio o) := by
    simp [driverStep, hl]
  obtain ⟨rr, hrr⟩ : ∃ rr, (x.shared.resolveOnTokio o).1.state = .ready rr := by
    cases o <;> simp [DriverShared.resolveOnTokio, hs]
  have hfree : (x.shared.resolveOnTokio o).1.locked = false := by
    cases o <;> simp [DriverShared.resolveOnTokio, hs, hl]
  have hdone : driverProgram.Follow (Awoken caller) caller.still x _ :=
    .step_other (e := .go) ho (awoken_thread (by simp) (by simp)) hstep
  obtain ⟨st, hcalm⟩ := (h.follow hdone).calm
  obtain rfl : .ready rr = st := hrr.symm.trans (hcalm.coherent.locking.state_eq hfree)
  exact ⟨_, rr, hdone, rfl, hcalm.coherent⟩

/-- A future on tokio becomes `Ready`, unless its own task is the caller. -/
theorem Reached.becomes_ready (h : Reached caller x) (hapart : caller.Apart) {t : Bool}
    {since : Nat} (hx : x.pc = .blocked t since) :
    ∃ y rr, driverProgram.Follow (Awoken caller) caller.still x y ∧ y.pc = x.pc ∧
      Coherent (.ready rr) (y.config caller.still) := by
  obtain ⟨⟨s, p, T⟩, hf, hp, hl, -⟩ := h.release (by rw [hx]; rfl)
  replace hl : s.locked = false := hl
  obtain rfl : p = .blocked t since := hp.trans hx
  have hy := h.follow hf
  obtain ⟨st, hcalm⟩ := hy.calm
  have hstate : s.state = st := hcalm.coherent.locking.state_eq hl
  have hagree := hcalm.coherent.threads _ (Multiset.mem_cons_self _ _)
  cases st with
  | ready rr => exact ⟨_, rr, hf, hp, hcalm.coherent⟩
  | pendingAsyncio co => exact absurd rfl (hagree co)
  | panicked => exact absurd rfl hcalm.coherent.ne_panicked
  | pendingTokio cbs =>
    obtain ⟨p, rfl⟩ : ∃ p, caller = .thread p := by
      cases caller with
      | thread p => exact ⟨p, rfl⟩
      | task => exact hapart.elim
    rcases hcalm.reporting ⟨cbs, rfl⟩ with ⟨future, aborted, htask⟩ | ⟨o, ho⟩
    · -- The task is still running, and ends with some output.
      have hok : Awoken (.thread p) (Followed.config {p} ⟨s, .blocked t since, T⟩)
          (.env (.taskFinishes 0)) := ⟨⟨⟨nofun, nofun⟩, trivial⟩, nofun⟩
      have hfinish : driverEnv s (.taskFinishes 0) = some ({ s with task := .over },
          [.resolve (.finished (.stashed (future.pollStash (some 0)).1))]) := by
        simp only [driverEnv]
        rw [show s.task = .running future aborted from htask]
      have hover : driverProgram.Follow (Awoken (.thread p)) {p} ⟨s, .blocked t since, T⟩ _ :=
        .step_env hok hfinish
      obtain ⟨y, rr, hf', hpc, hready⟩ := (hy.follow hover).resolved
        (Multiset.mem_add.mpr (.inl (List.mem_singleton.mpr rfl))) hl hstate
      exact ⟨y, rr, hf.trans (hover.trans hf'), hpc.trans hx.symm, hready⟩
    · have hmem : .resolve o ∈ T := by
        rcases Multiset.mem_cons.mp ho with ho | ho
        · cases ho
        · refine (Multiset.mem_add.mp ho).resolve_right fun hstill => ?_
          exact hapart.2 o (Multiset.mem_singleton.mp hstill).symm
      obtain ⟨y, rr, hf', hpc, hready⟩ := hy.resolved hmem hl hstate
      exact ⟨y, rr, hf.trans hf', hpc.trans hx.symm, hready⟩

theorem Reached.returns_blocked (h : Reached caller x) (hapart : caller.Apart) {t : Bool}
    {since : Nat} (hx : x.pc = .blocked t since) : CallReturns caller x := by
  obtain ⟨y, rr, hf, hpc, hready⟩ := h.becomes_ready hapart hx
  have hy := h.follow hf
  have hblocked : y.pc = .blocked t since := hpc.trans hx
  refine .of_follow hf ?_
  obtain ⟨st, hcalm⟩ := hy.calm
  obtain rfl := hready.unique hcalm.coherent
  rcases hcalm.kept.notified ⟨rr, rfl⟩ y.pc (Multiset.mem_cons_self _ _) since
    (by rw [hblocked]; rfl) with hlt | ⟨r, hr, howes⟩
  · exact hy.returns_notified hblocked hready hlt
  · have hmem : r ∈ y.others := by
      rcases Multiset.mem_cons.mp hr with rfl | hr
      · rw [hblocked] at howes
        exact howes.elim
      · refine (Multiset.mem_add.mp hr).resolve_right fun hstill => ?_
        cases caller with
        | thread p =>
          rw [Multiset.mem_singleton.mp hstill] at howes
          exact hapart.1 howes
        | task => exact Multiset.notMem_zero _ hstill
    obtain ⟨z, hz, hpc', hepoch⟩ := hy.notified (by rw [hblocked]; rfl) hmem howes
    obtain ⟨rr', hready'⟩ := ready_of_run hready hz.runIn
    have hle : since ≤ y.shared.epoch :=
      hcalm.kept.since y.pc (Multiset.mem_cons_self _ _) since (by rw [hblocked]; rfl)
    exact .of_follow hz ((hy.follow hz).returns_notified (hpc'.trans hblocked) hready'
      (hle.trans_lt hepoch))

theorem Reached.returns_waitForReady (h : Reached caller x) (hapart : caller.Apart) {t : Bool}
    (hx : x.pc = .waitForReady t) : CallReturns caller x := by
  obtain ⟨⟨s, p, T⟩, hf, hp, hl, -⟩ := h.release (by rw [hx]; rfl)
  replace hl : s.locked = false := hl
  obtain rfl : p = .waitForReady t := hp.trans hx
  refine .of_follow hf ?_
  obtain ⟨st, hcalm⟩ := (h.follow hf).calm
  have hstate : s.state = st := hcalm.coherent.locking.state_eq hl
  have hagree := hcalm.coherent.threads _ (Multiset.mem_cons_self _ _)
  have hstep : driverStep s (.waitForReady t) .go = some (s.waitWhile t) := by
    simp [driverStep, hl]
  have hok : Awoken caller (Followed.config caller.still ⟨s, .waitForReady t, T⟩)
      (.thread (.waitForReady t) .go) := awoken_thread (by simp) (by simp)
  cases st with
  | ready rr =>
    simp only [DriverShared.waitWhile, hstate] at hstep
    have hown := Relation.ReflTransGen.single (Program.FollowStep.own (P := driverProgram) hok hstep)
    exact .of_follow hown (((h.follow hf).follow hown).returns_readReady rfl)
  | pendingTokio cbs =>
    simp only [DriverShared.waitWhile, hstate] at hstep
    have hown := Relation.ReflTransGen.single (Program.FollowStep.own (P := driverProgram) hok hstep)
    exact .of_follow hown (((h.follow hf).follow hown).returns_blocked hapart rfl)
  | pendingAsyncio co => exact absurd rfl (hagree co)
  | panicked => exact absurd rfl hcalm.coherent.ne_panicked

/-- A call ends at once, or goes on with what it read, or waits for a future that is not
`Ready`. -/
theorem DriverMove.of_call {s s' : DriverShared} {q : List DriverPc} {entry : Entry}
    (hm : DriverMove s (.call entry) s' q) (hnext : entry ≠ .next) :
    q = [] ∨ ∃ r, q = [r] ∧
      ((∃ acts, r = .run acts) ∨ (∃ reader resolved, r = .convert reader resolved) ∨
        ∃ t, entry = .result t ∧ r = .waitForReady t ∧ ∀ rr, s.state ≠ .ready rr) := by
  cases hm with
  | skip _ hskip =>
    cases hskip with
    | resultTokio hs => exact .inr ⟨_, rfl, .inr (.inr ⟨_, rfl, rfl, by simp [hs]⟩)⟩
    | nextTokio => exact absurd rfl hnext
    | _ => exact .inl rfl
  | readConverted => exact .inr ⟨_, rfl, .inl ⟨_, rfl⟩⟩
  | readUnconverted => exact .inr ⟨_, rfl, .inr (.inl ⟨_, _, rfl⟩)⟩
  | resultAsyncio _ hs => exact .inr ⟨_, rfl, .inr (.inr ⟨_, rfl, rfl, by simp [hs]⟩)⟩
  | nextAsyncio => exact absurd rfl hnext
  | throwTokio | closeAsyncio | closeTokio => exact .inr ⟨_, rfl, .inl ⟨_, rfl⟩⟩
  | _ => exact .inl rfl

theorem Reached.returns_call (h : Reached caller x) {entry : Entry} (hx : x.pc = .call entry)
    (hnext : entry ≠ .next) {st : FutureState} (hcoherent : Coherent st (x.config caller.still))
    (hapart : x.pc.MayWait st → caller.Apart) : CallReturns caller x := by
  obtain ⟨⟨s, p, T⟩, hf, hp, hl, -⟩ := h.release (by rw [hx]; rfl)
  replace hl : s.locked = false := hl
  obtain rfl : p = .call entry := hp.trans hx
  refine .of_follow hf ?_
  have hok : Awoken caller (Followed.config caller.still ⟨s, .call entry, T⟩)
      (.thread (.call entry) .go) := awoken_thread (by simpa using hnext) nofun
  obtain ⟨s', q, hstep⟩ : ∃ s' q, driverStep s (.call entry) .go = some (s', q) :=
    ⟨_, _, if_neg (by simp [hl])⟩
  obtain ⟨st', hcalm⟩ := (h.follow hf).calm
  have hone := (driverStep_move hcalm.coherent.locking.clean hstep).of_call hnext
  rcases hone with rfl | ⟨r, rfl, hr⟩
  · exact .now hok hstep
  · rcases hr with ⟨acts, rfl⟩ | ⟨reader, resolved, rfl⟩ | ⟨t, rfl, rfl, hpending⟩
    · exact .own hok hstep (returns_run acts)
    · exact .own hok hstep (returns_convert reader resolved)
    · -- The future was not ready when the call was made.
      have hwait : caller.Apart := by
        refine hapart ?_
        rw [hx]
        rintro rr rfl
        obtain ⟨rr', hs⟩ := Reached.ready_state hcoherent hf hl
        exact hpending rr' hs
      have hown := Relation.ReflTransGen.single (Program.FollowStep.own (P := driverProgram) hok hstep)
      exact .of_follow hown (((h.follow hf).follow hown).returns_waitForReady hwait rfl)

/-- Every call returns, at whatever stage it is. -/
theorem Reached.returns {st : FutureState} (h : Reached caller x) (hx : Served caller st x) :
    CallReturns caller x := by
  obtain ⟨s, p, T⟩ := x
  have hcall := hx.isCall
  cases p with
  | call entry => exact h.returns_call rfl hcall hx.coherent hx.apart
  | waitForReady t => exact h.returns_waitForReady (hx.apart trivial) rfl
  | blocked t since => exact h.returns_blocked (hx.apart trivial) rfl
  | readReady => exact h.returns_readReady rfl
  | convert reader resolved => exact returns_convert reader resolved
  | run acts => exact returns_run acts
  | _ => exact hcall.elim

end Waiting

end ScyllaDriver
