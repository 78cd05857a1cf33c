import ScyllaDriver.DriverOutcome
import ScyllaDriver.Waiting

/-! The threads blocked in `result()` are counted, and whoever makes the future
`Ready` notifies them after releasing the lock. -/

namespace ScyllaDriver

def DriverPc.since : DriverPc → Option Nat
  | .blocked _ since => some since
  | _ => none

/-- The thread is between a transition to `Ready` and its `notify`, which will
not be skipped. -/
def DriverPc.OwesNotify : DriverPc → Prop
  | .blocking _ waiters | .fireAndNotify _ waiters | .convert (.fire _ waiters) _ => 0 < waiters
  | .run acts => ∃ waiters, 0 < waiters ∧ .notify waiters ∈ acts
  | _ => False

def driverWaiting : Waiting DriverShared DriverPc :=
  ⟨DriverShared.waiters, DriverShared.epoch, DriverPc.since, DriverPc.OwesNotify⟩

/-- How a step touches the count of blocked threads. -/
inductive WaitEffect (s : DriverShared) (p : DriverPc) (s' : DriverShared) (q : List DriverPc) :
    Prop where
  | apart (hp : p.since = none) (hq : ∀ r ∈ q, r.since = none) (hw : s'.waiters = s.waiters)
      (he : s.epoch ≤ s'.epoch)
  | begins {t cbs} (hl : s.locked = false) (hs : s.state = .pendingTokio cbs)
      (hp : p = .waitForReady t) (hs' : s' = { s with waiters := s.waiters + 1 })
      (hq : q = [.blocked t s.epoch])
  | again {t since cbs} (hl : s.locked = false) (hs : s.state = .pendingTokio cbs)
      (hp : p = .blocked t since) (hs' : s' = s) (hq : q = [.blocked t s.epoch])
  | leaves {t since} (hl : s.locked = false) (hp : p = .blocked t since)
      (hs' : ∃ reports, s' = { s with waiters := s.waiters - 1, reports := reports })
      (hq : ∀ r ∈ q, r.since = none)

theorem since_suspend (value : Except PyErr (Option AioFuture)) :
    ∀ r ∈ suspend value, r.since = none := by
  cases value <;> simp [suspend, DriverPc.since]

theorem DriverPc.since_of_reader {p : DriverPc} {reader : Reader} (h : p.reader = some reader) :
    p.since = none := by
  cases p <;> first | rfl | cases h

theorem act_epoch (s : DriverShared) (a : Act) : s.epoch ≤ (s.act a).1.epoch := by
  cases a with
  | wake | wakeByRef => cases hs : s.waker <;> simp [DriverShared.act, hs]
  | notify n =>
    simp only [DriverShared.act]
    split <;> omega
  | _ => exact le_rfl

theorem DriverMove.waitEffect {s s' : DriverShared} {p : DriverPc} {q : List DriverPc}
    {st : FutureState} (h : DriverMove s p s' q) (hv : Stance s p st) (hp : p.Agrees st) :
    WaitEffect s p s' q := by
  have single {r : DriverPc} (hr : r.since = none) : ∀ x ∈ [r], x.since = none := by
    simpa using hr
  cases h with
  | skip hl h => cases h <;> exact .apart rfl (by simp [DriverPc.since]) rfl le_rfl
  | readConverted hl hr => exact .apart (DriverPc.since_of_reader hr) (single rfl) rfl le_rfl
  | readUnconverted hl hr => exact .apart (DriverPc.since_of_reader hr) (single rfl) rfl le_rfl
  | wait hl hs => exact .begins hl hs rfl rfl rfl
  | waitAgain hl hs => exact .again hl hs rfl rfl rfl
  | waitTimeout hl hs => exact .leaves hl rfl ⟨_, rfl⟩ (by simp)
  | waitDone hl hs => exact .leaves hl rfl ⟨_, rfl⟩ (single rfl)
  | waitUnreachable hl hs | wakeUnreachable hl hs => exact absurd (hv.state_eq hl ▸ hs) (hp _)
  | park fail => exact .apart rfl (single rfl) rfl le_rfl
  | yieldAsyncio fail => exact .apart rfl (since_suspend _) rfl le_rfl
  | store => exact .apart rfl (since_suspend _) rfl le_rfl
  | @resolveFinished resolved cbs =>
    refine .apart rfl (single ?_) rfl le_rfl
    split <;> rfl
  | act => exact .apart rfl (single rfl) (by rw [act_frame]) (act_epoch _ _)
  | _ => exact .apart rfl (by simp [DriverPc.since]) rfl le_rfl

theorem Reader.owes_acts {reader : Reader} {r : PyResult} {p : DriverPc}
    (hp : p.reader = some reader) (ho : p.OwesNotify) :
    (DriverPc.run (reader.acts r)).OwesNotify := by
  cases p with
  | fireAndNotify cbs n =>
    cases cbs <;> cases hp
    exact ⟨n, ho, by simp [Reader.acts]⟩
  | _ => simp_all [DriverPc.reader, DriverPc.OwesNotify]

theorem DriverMove.owed {s s' : DriverShared} {p : DriverPc} {q : List DriverPc}
    {st : FutureState} (h : DriverMove s p s' q) (hv : Stance s p st) (hp : p.Agrees st)
    (hrun : RunsClosure p q) (ho : p.OwesNotify) :
    s.epoch < s'.epoch ∨ ∃ r ∈ q, r.OwesNotify := by
  cases h with
  | skip hl h => cases h <;> exact absurd ho id
  | readConverted hl hr hs => exact .inr ⟨_, List.mem_singleton_self _, Reader.owes_acts hr ho⟩
  | @readUnconverted p reader resolved hl hr hs =>
    refine .inr ⟨_, List.mem_singleton_self _, ?_⟩
    cases p with
    | fireAndNotify cbs n => cases cbs <;> cases hr; exact ho
    | _ => simp_all [DriverPc.reader, DriverPc.OwesNotify]
  | @convert reader resolved r conversion hr =>
    refine .inr ⟨_, List.mem_singleton_self _, ?_⟩
    cases reader with
    | fire cbs n => exact ⟨n, ho, by simp [Reader.acts]⟩
    | _ => exact absurd ho id
  | blocking => exact .inr ⟨_, List.mem_singleton_self _, ho⟩
  | closureDropped hs => exact absurd rfl (hrun _ _ rfl)
  | @fireNone n => exact .inr ⟨_, List.mem_singleton_self _, n, ho, by simp⟩
  | fireUnreachable hl hs =>
    obtain ⟨rr, rfl⟩ := hp
    simp [hv.state_eq hl, FutureState.isTerminal] at hs
  | @act a acts =>
    obtain ⟨n, hn, hm⟩ := ho
    rcases List.mem_cons.mp hm with rfl | hm
    · left
      simp [DriverShared.act, hn]
    · exact .inr ⟨_, List.mem_singleton_self _, n, hn, List.mem_append_right _ hm⟩
  | finish =>
    obtain ⟨n, -, hm⟩ := ho
    cases hm
  | _ => exact absurd ho id

theorem Finisher.owes {cbs : List CallbackKind} {waiters : Nat} {r : DriverPc}
    (h : Finisher cbs waiters r) (hw : 0 < waiters) : r.OwesNotify := by
  cases h with
  | threw | closed => exact ⟨waiters, hw, by simp⟩
  | blocking | fireAndNotify => exact hw

theorem DriverMove.settle_owed {s s' : DriverShared} {p : DriverPc} {q : List DriverPc}
    {st : FutureState} (h : DriverMove s p s' q) (hv : Stance s p st)
    (hasync : ∀ co, st = .pendingAsyncio co → s.waiters = 0) (hw : s'.waiters = s.waiters)
    (hset : ∃ rr, s'.seen q st = .ready rr) :
    (∃ rr, st = .ready rr) ∨ s'.waiters = 0 ∨ ∃ r ∈ q, r.OwesNotify := by
  obtain ⟨rr, hrr⟩ := hset
  have hlived := h.lived hv
  rw [hrr] at hlived
  cases hlived with
  | stays | converts => exact .inl ⟨_, rfl⟩
  | finishes hq hf =>
    rcases Nat.eq_zero_or_pos s.waiters with hz | hz
    · exact .inr (.inl (hw.trans hz))
    · exact .inr (.inr ⟨_, by simp [hq], hf.owes hz⟩)
  | polled | threw | closed => exact .inr (.inl (hw.trans (hasync _ rfl)))

theorem DriverMove.respects {s s' : DriverShared} {p : DriverPc} {q : List DriverPc}
    {st : FutureState} (h : DriverMove s p s' q) (hv : Stance s p st) (hp : p.Agrees st)
    (hasync : ∀ co, st = .pendingAsyncio co → s.waiters = 0)
    (hrun : RunsClosure p q) :
    driverWaiting.Respects (∃ rr, st = .ready rr) (∃ rr, s'.seen q st = .ready rr) s p s' q := by
  cases h.waitEffect hv hp with
  | apart hps hqs hw he =>
    exact .apart hps hqs hw he (h.owed hv hp hrun) (h.settle_owed hv hasync hw)
  | begins hl hs hp hs' hq =>
    subst hp hs' hq
    exact .begin rfl rfl rfl rfl id (by simp [DriverShared.seen, hl, hs])
  | again hl hs hp hs' hq =>
    subst hp hs' hq
    exact .again rfl rfl id (by simp [DriverShared.seen, hl, hs])
  | leaves hl hp hs' hq =>
    obtain ⟨reports, rfl⟩ := hs'
    subst hp
    refine .leave rfl hq rfl rfl id fun hset => ?_
    simpa [DriverShared.seen, hl, hv.state_eq hl] using hset

/-- Nobody waits for a future that was not handed to tokio. -/
theorem Coherent.blocked_asyncio {st : FutureState} {c : Config DriverShared DriverPc}
    {co : StashingFuture} (h : Coherent st c) (hst : st = .pendingAsyncio co) :
    driverWaiting.blocked c.threads = 0 := by
  refine Waiting.blocked_eq_zero fun p hp => ?_
  have hagree := h.threads p hp
  cases p with
  | blocked t since => exact absurd hst (hagree co)
  | _ => rfl

/-- A run in which tokio runs every closure given to `spawn_blocking`, so that a
transition always goes on to its `notify`. -/
def ClosuresRun (_ : Config DriverShared DriverPc) (l : Label DriverPc Choice DriverEvent) :
    Prop :=
  ∀ p, l ≠ .thread p .closureDropped

theorem ClosuresRun.kept {c d : Config DriverShared DriverPc}
    (hr : driverProgram.RunIn ClosuresRun c d) : driverProgram.RunIn ClosuresKept c d :=
  Relation.ReflTransGen.mono (fun _ _ ⟨l, hok, hn⟩ => ⟨l, fun _ _ => hok _, hn⟩) c d hr

theorem driver_waiters {s₀ : DriverShared} (hnew : s₀.IsNew) {c : Config DriverShared DriverPc}
    (hr : driverProgram.RunIn ClosuresKept ⟨s₀, 0⟩ c) :
    ∃ st, Coherent st c ∧ driverWaiting.Kept (∃ rr, st = .ready rr) c := by
  refine driver_invariant ClosuresKept
    (I := fun st c => driverWaiting.Kept (∃ rr, st = .ready rr) c) ?_ ?_
    (hnew.coherent (by simp)) ?_ hr
  · intro s s' p q T e st hok hc hk hs hm
    refine hk.step (hm.respects hc.locking.stance (hc.threads p (Multiset.mem_cons_self p T))
      (fun co hst => ?_) (hok.runsClosure hs))
    exact hk.waiters.trans (Coherent.blocked_asyncio hc hst)
  · intro s s' k q T st hok hc hk ha
    have hframe : s'.waiters = s.waiters ∧ s'.epoch = s.epoch ∧ ∀ r ∈ q, r.since = none := by
      cases ha <;> exact ⟨rfl, rfl, by simp [DriverPc.since]⟩
    exact hk.arrive hframe.1 hframe.2.1 hframe.2.2 .inl
  · refine .init ?_ (by simp)
    cases hnew <;> rfl

end ScyllaDriver
