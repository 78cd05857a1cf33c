import ScyllaDriver.BatcherDelivery
import ScyllaDriver.DriverOutcome

/-! What the threads of a `DriverFuture` do to its waker: who fills the slot,
who empties it, and where a future taken out of it goes. -/

namespace ScyllaDriver

/-- What `yield_asyncio_future` comes to. -/
inductive Yielded (s s' : DriverShared) : Except PyErr (Option AioFuture) → Prop where
  | woken (hs : s.waker = some .woken) (hw : s'.waker = some .idle) (hh : s'.handed = s.handed) :
      Yielded s s' (.ok none)
  | again {f} (hs : s.waker = some (.parked f)) (hf : s.batcher.shared.status f = .pending)
      (hw : s'.waker = some (.parked f)) (hh : s'.handed = s.handed ++ [f]) :
      Yielded s s' (.ok (some f))
  | fresh {f} (hs : ∀ g, s.waker = some (.parked g) → s.batcher.shared.status g = .finished)
      (hne : s.waker ≠ some .woken) (hf : f = s.nextFuture ∧ s'.nextFuture = f + 1)
      (hw : s'.waker = some (.parked f))
      (hh : s'.handed = s.handed ++ [f]) : Yielded s s' (.ok (some f))
  | failed {e} (hw : s'.waker = some (s.waker.getD .idle)) (hh : s'.handed = s.handed) :
      Yielded s s' (.error e)

theorem park_yielded {s : DriverShared} {fail : Option PyErr}
    (hs : ∀ g, s.waker = some (.parked g) → s.batcher.shared.status g = .finished)
    (hne : s.waker ≠ some .woken)
    (he : (s.waker.getD .idle).yieldAsyncioFuture s.batcher.shared.status
        (match fail with | some e => .error e | none => .ok s.nextFuture) =
      WakerSlot.yieldAsyncioFuture.park (s.waker.getD .idle)
        (match fail with | some e => .error e | none => .ok s.nextFuture)) :
    Yielded s (s.yieldAsyncioFuture fail).1 (s.yieldAsyncioFuture fail).2 := by
  cases fail with
  | some e =>
    simp only [DriverShared.yieldAsyncioFuture, he]
    exact .failed rfl (List.append_nil _)
  | none =>
    simp only [DriverShared.yieldAsyncioFuture, he]
    exact .fresh hs hne ⟨rfl, rfl⟩ rfl rfl

theorem yieldAsyncioFuture_yielded (s : DriverShared) (fail : Option PyErr) :
    Yielded s (s.yieldAsyncioFuture fail).1 (s.yieldAsyncioFuture fail).2 := by
  cases hw : s.waker with
  | none => exact park_yielded (by simp [hw]) (by simp [hw]) (by rw [hw]; rfl)
  | some slot =>
    cases slot with
    | idle => exact park_yielded (by simp [hw]) (by simp [hw]) (by rw [hw]; rfl)
    | woken =>
      simp only [DriverShared.yieldAsyncioFuture, hw, Option.getD_some,
        WakerSlot.yieldAsyncioFuture]
      exact .woken hw rfl (List.append_nil _)
    | parked f =>
      cases hf : s.batcher.shared.status f with
      | pending =>
        simp only [DriverShared.yieldAsyncioFuture, hw, Option.getD_some,
          WakerSlot.yieldAsyncioFuture, yieldFuture, hf]
        exact .again hw hf rfl rfl
      | cancelled =>
        simp only [DriverShared.yieldAsyncioFuture, hw, Option.getD_some,
          WakerSlot.yieldAsyncioFuture, yieldFuture, hf]
        exact .failed (by simp [hw]) (List.append_nil _)
      | finished =>
        refine park_yielded ?_ (by simp [hw]) ?_
        · intro g hg
          rw [hw] at hg
          cases hg
          exact hf
        · simp [hw, WakerSlot.yieldAsyncioFuture, yieldFuture, hf]

theorem Yielded.report {s s' : DriverShared} {value : Except PyErr (Option AioFuture)}
    {x : Report} (h : Yielded s s' value) : Yielded s (s'.report x) value := by
  cases h with
  | woken hs hw hh => exact .woken hs hw hh
  | again hs hf hw hh => exact .again hs hf hw hh
  | fresh hs hne hf hw hh => exact .fresh hs hne hf hw hh
  | failed hw hh => exact .failed hw hh

/-- What a step does to the slot. -/
inductive WakerEffect (s : DriverShared) (p : DriverPc) (s' : DriverShared)
    (q : List DriverPc) : Prop where
  | keep (hw : s'.waker = s.waker) (hh : s'.handed = s.handed)
  | make (hs : s.waker = none) (hw : s'.waker = some .idle) (hh : s'.handed = s.handed)
  | reset {co} (hp : p = .reset co) (hw : s'.waker = some .idle) (hh : s'.handed = s.handed)
  | park {co value} (hp : p = .park co) (hq : q = [.store co value]) (hy : Yielded s s' value)
  | yield {value} (hp : p = .yieldAsyncio) (hq : q = suspend value) (hy : Yielded s s' value)
  | wake {a acts slot} (hp : p = .run (a :: acts)) (hs : s.waker = some slot)
      (hw : s'.waker = some slot.takeParked.1) (hh : s'.handed = s.handed)
      (hq : q = [.run (slot.takeParked.2.toList.map .push ++ acts)])

theorem DriverShared.started_waker {s : DriverShared} {co : StashingFuture}
    {cbs : List CallbackKind} {p : DriverPc} {q : List DriverPc} :
    WakerEffect s p (s.started co cbs) q := by
  cases hw : s.waker with
  | none => exact .make hw (by simp [started, hw]) rfl
  | some slot => exact .keep (by simp [started, hw]) rfl

theorem DriverMove.wakerEffect {s s' : DriverShared} {p : DriverPc} {q : List DriverPc}
    (h : DriverMove s p s' q) : WakerEffect s p s' q := by
  cases h with
  | start | registerAsyncio | resultAsyncio => exact DriverShared.started_waker
  | reset => exact .reset rfl rfl rfl
  | park fail => exact .park rfl rfl (yieldAsyncioFuture_yielded s fail)
  | yieldAsyncio fail => exact .yield rfl rfl (yieldAsyncioFuture_yielded s fail).report
  | @act a acts =>
    cases a with
    | wake | wakeByRef =>
      cases hs : s.waker with
      | none => exact .keep (by simp [DriverShared.act, hs]) (by simp [DriverShared.act, hs])
      | some slot =>
        refine .wake rfl hs ?_ ?_ ?_ <;> simp [DriverShared.act, hs]
    | _ => exact .keep rfl rfl
  | _ => exact .keep rfl rfl

theorem DriverMove.batcher {s s' : DriverShared} {p : DriverPc} {q : List DriverPc}
    (h : DriverMove s p s' q) :
    s'.batcher = s.batcher ∨
    ∃ f acts, p = .run (.push f :: acts) ∧ q = [.run acts] ∧
      s'.batcher = ⟨s.batcher.shared, .push f ::ₘ s.batcher.threads⟩ := by
  cases h with
  | @act a acts =>
    cases a with
    | push f => exact .inr ⟨f, acts, rfl, rfl, rfl⟩
    | wake | wakeByRef => simp only [DriverShared.act]; split <;> exact .inl rfl
    | _ => exact .inl rfl
  | _ => exact .inl rfl

theorem DriverMove.status {s s' : DriverShared} {p : DriverPc} {q : List DriverPc}
    (h : DriverMove s p s' q) : s'.batcher.shared = s.batcher.shared := by
  rcases h.batcher with hb | ⟨f, acts, -, -, hb⟩ <;> rw [hb]

/-- The future was taken out of the slot, and is being pushed to the batcher
or is there already. -/
def InTransit (c : Config DriverShared DriverPc) (f : AioFuture) : Prop :=
  (∃ acts, .run acts ∈ c.threads ∧ .push f ∈ acts) ∨ Batcher.Holds c.shared.batcher f

theorem pushing_move {s s' : DriverShared} {p : DriverPc} {q : List DriverPc}
    {T : Multiset DriverPc} {f : AioFuture}
    (h : ∃ acts, .run acts ∈ p ::ₘ T ∧ .push f ∈ acts) (hm : DriverMove s p s' q) :
    (∃ acts, .run acts ∈ (q : Multiset DriverPc) + T ∧ .push f ∈ acts) ∨
      .push f ∈ s'.batcher.threads := by
  obtain ⟨acts, hr, hf⟩ := h
  rcases Multiset.mem_cons.mp hr with rfl | hr
  · cases hm with
    | skip hl h => cases h
    | readConverted hl hp => cases hp
    | readUnconverted hl hp => cases hp
    | finish => cases hf
    | @act a acts =>
      rcases List.mem_cons.mp hf with rfl | hf
      · exact .inr (Multiset.mem_cons_self _ _)
      · exact .inl ⟨(s.act a).2 ++ acts, by simp, List.mem_append_right _ hf⟩
  · exact .inl ⟨acts, Multiset.mem_add.mpr (.inr hr), hf⟩

theorem InTransit.move {s s' : DriverShared} {p : DriverPc} {q : List DriverPc}
    {T : Multiset DriverPc} {f : AioFuture} (h : InTransit ⟨s, p ::ₘ T⟩ f)
    (hm : DriverMove s p s' q) : InTransit ⟨s', (q : Multiset DriverPc) + T⟩ f := by
  rcases h with h | h
  · exact (pushing_move h hm).imp_right .inl
  · rcases hm.batcher with hb | ⟨g, acts, -, -, hb⟩
    · exact .inr (by rwa [hb])
    · rw [InTransit, hb]
      exact .inr (h.imp_left Multiset.mem_cons_of_mem)

/-- The thread made the future `Ready`, or goes on for the one that did, and
has not called `wake` yet. -/
def DriverPc.wakes : DriverPc → Prop
  | .blocking _ _ | .fireAndNotify _ _ | .convert (.fire _ _) _ => True
  | .run acts => .wake ∈ acts
  | _ => False

def WakePending (c : Config DriverShared DriverPc) : Prop := ∃ p ∈ c.threads, p.wakes

theorem WakerSlot.takeParked_not_parked (slot : WakerSlot) (f : AioFuture) :
    slot.takeParked.1 ≠ .parked f := by
  cases slot <;> simp [WakerSlot.takeParked]

theorem DriverMove.wake_waker {s s' : DriverShared} {acts : List Act} {q : List DriverPc}
    (h : DriverMove s (.run (.wake :: acts)) s' q) :
    s'.waker = s.waker.map fun slot => slot.takeParked.1 := by
  cases h with
  | skip hl h => cases h
  | readConverted hl hp => cases hp
  | readUnconverted hl hp => cases hp
  | act => cases hs : s.waker <;> simp [DriverShared.act, hs]

theorem Reader.wakes_acts {reader : Reader} {r : PyResult} {p : DriverPc}
    (hp : p.reader = some reader) (hw : p.wakes) : (DriverPc.run (reader.acts r)).wakes := by
  cases p with
  | fireAndNotify cbs n =>
    cases cbs <;> cases hp
    simp [DriverPc.wakes, Reader.acts]
  | _ => simp_all [DriverPc.reader, DriverPc.wakes]

theorem DriverMove.wakes {s s' : DriverShared} {p : DriverPc} {q : List DriverPc}
    {st : FutureState} (h : DriverMove s p s' q) (hv : Stance s p st) (hp : p.Agrees st)
    (hrun : RunsClosure p q) (hw : p.wakes) :
    (∃ p' ∈ q, p'.wakes) ∨ ∃ acts, p = .run (.wake :: acts) := by
  cases h with
  | skip hl h => cases h <;> exact absurd hw id
  | readConverted hl hr hs => exact .inl ⟨_, List.mem_singleton_self _, Reader.wakes_acts hr hw⟩
  | @readUnconverted p reader resolved hl hr hs =>
    refine .inl ⟨_, List.mem_singleton_self _, ?_⟩
    cases p with
    | fireAndNotify cbs n => cases cbs <;> cases hr; trivial
    | _ => simp_all [DriverPc.reader, DriverPc.wakes]
  | @convert reader resolved r conversion hr =>
    refine .inl ⟨_, List.mem_singleton_self _, ?_⟩
    cases reader with
    | fire cbs n => simp [DriverPc.wakes, Reader.acts]
    | _ => exact absurd hw id
  | blocking => exact .inl ⟨_, List.mem_singleton_self _, trivial⟩
  | closureDropped hs => exact absurd rfl (hrun _ _ rfl)
  | fireNone => exact .inl ⟨_, List.mem_singleton_self _, by simp [DriverPc.wakes]⟩
  | fireUnreachable hl hs =>
    obtain ⟨rr, rfl⟩ := hp
    simp [hv.state_eq hl, FutureState.isTerminal] at hs
  | @act a acts =>
    rcases List.mem_cons.mp hw with rfl | hw
    · exact .inr ⟨acts, rfl⟩
    · exact .inl ⟨_, List.mem_singleton_self _, List.mem_append_right _ hw⟩
  | finish => cases hw
  | _ => exact absurd hw id

theorem Finisher.wakes {cbs : List CallbackKind} {waiters : Nat} {r : DriverPc}
    (h : Finisher cbs waiters r) : r.wakes := by
  cases h <;> simp [DriverPc.wakes]

/-- Who makes a future `Ready` goes on to wake, unless there is no waker to
wake or the future is driven by the awaiting task itself. -/
theorem DriverMove.settles {s s' : DriverShared} {p : DriverPc} {q : List DriverPc}
    {st : FutureState} {rr : ReadyResult} (h : DriverMove s p s' q) (hv : Stance s p st)
    (hst : ∀ rr, st ≠ .ready rr) (hr : s'.seen q st = .ready rr) :
    s'.waker = s.waker ∧ ((∃ p' ∈ q, p'.wakes) ∨ s.waker = none ∨ (∃ co, p = .poll co) ∨
      ∃ exc co, p = .call (.throw exc) ∧ s.state = .pendingAsyncio co) := by
  have hlived := h.lived hv
  rw [hr] at hlived
  cases hlived with
  | stays => exact absurd rfl (hst rr)
  | finishes hq hf hw => exact ⟨hw, .inl ⟨_, by simp [hq], hf.wakes⟩⟩
  | polled hp hw => exact ⟨hw, .inr (.inr (.inl ⟨_, hp⟩))⟩
  | threw hp hs hw => exact ⟨hw, .inr (.inr (.inr ⟨_, _, hp, hs⟩))⟩
  | closed hq hw =>
    refine ⟨hw, ?_⟩
    cases hs : s.waker with
    | none => exact .inr (.inl rfl)
    | some slot =>
      rw [hs] at hq
      exact .inl ⟨_, by simp [hq]; rfl, by simp [DriverPc.wakes]⟩
  | converts => exact absurd rfl (hst _)

end ScyllaDriver
