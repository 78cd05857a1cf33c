import Mathlib.Algebra.Ring.Nat
import ScyllaDriver.DriverOutcome

/-! The callbacks of a `DriverFuture` fire exactly once. A census places every
registered callback: with the thread that registers or fires it, on the list
of `PendingTokio`, or among those already invoked. -/

namespace ScyllaDriver

def Act.callback : Act → Option CallbackKind
  | .invoke cb _ => some cb
  | _ => none

def Reader.registering : Reader → List CallbackKind
  | .register cb => [cb]
  | _ => []

def Reader.firing : Reader → List CallbackKind
  | .fire cbs _ => cbs
  | _ => []

/-- The callback a thread is registering. -/
def DriverPc.registering : DriverPc → List CallbackKind
  | .call (.register cb) => [cb]
  | .convert reader _ => reader.registering
  | _ => []

/-- The callbacks a thread took to fire them. -/
def DriverPc.firing : DriverPc → List CallbackKind
  | .fireAndNotify cbs _ | .blocking cbs _ => cbs
  | .convert reader _ => reader.firing
  | .run acts => acts.filterMap Act.callback
  | _ => []

def DriverPc.pending (p : DriverPc) : List CallbackKind := p.registering ++ p.firing

def FutureState.callbacks : FutureState → List CallbackKind
  | .pendingTokio cbs => cbs
  | _ => []

@[simp]
theorem Act.callback_invoke (cb : CallbackKind) (r : PyResult) :
    (Act.invoke cb r).callback = some cb := rfl

@[simp]
theorem Act.callback_wake : Act.wake.callback = none := rfl

@[simp]
theorem Act.callback_notify (waiters : Nat) : (Act.notify waiters).callback = none := rfl

@[simp]
theorem Act.callback_comp_invoke (r : PyResult) : Act.callback ∘ (Act.invoke · r) = some := rfl

theorem filterMap_callback_act (s : DriverShared) (a : Act) :
    (s.act a).2.filterMap Act.callback = [] := by
  refine List.filterMap_eq_nil_iff.mpr fun b hb => ?_
  obtain ⟨f, rfl⟩ := act_todo hb
  rfl

theorem act_invoked {s : DriverShared} {a : Act} (h : a.callback = none) :
    (s.act a).1.invoked = s.invoked := by
  cases a with
  | invoke cb r => cases h
  | wake | wakeByRef => simp only [DriverShared.act]; split <;> rfl
  | _ => rfl

theorem DriverPc.reader_callbacks {p : DriverPc} {reader : Reader} (h : p.reader = some reader) :
    p.registering = reader.registering ∧ p.firing = reader.firing := by
  cases p with
  | call entry => cases entry <;> cases h <;> exact ⟨rfl, rfl⟩
  | readReady => cases h; exact ⟨rfl, rfl⟩
  | fireAndNotify cbs n => cases cbs <;> cases h; exact ⟨rfl, rfl⟩
  | _ => cases h

theorem DriverPc.pending_reader {p : DriverPc} {reader : Reader} (h : p.reader = some reader) :
    p.pending = reader.registering ++ reader.firing := by
  rw [DriverPc.pending, (DriverPc.reader_callbacks h).1, (DriverPc.reader_callbacks h).2]

theorem DriverPc.pending_convert {reader : Reader} {resolved : ResolvedResult} :
    (DriverPc.convert reader resolved).pending = reader.registering ++ reader.firing := rfl

theorem pending_suspend {value : Except PyErr (Option AioFuture)} :
    (suspend value).flatMap DriverPc.pending = [] := by
  cases value <;> rfl

theorem DriverPc.pending_acts {reader : Reader} {r : PyResult} :
    (DriverPc.run (reader.acts r)).pending = reader.registering ++ reader.firing := by
  cases reader <;>
    simp [DriverPc.pending, DriverPc.registering, DriverPc.firing, Reader.acts,
      Reader.registering, Reader.firing, List.filterMap_cons]

/-- How often `cb` is found with the threads `q`, on the list of the state and
in the history. -/
def placed (cb : CallbackKind) (q : List DriverPc) (st : FutureState) (s : DriverShared) : Nat :=
  (q.map (·.pending.count cb)).sum + st.callbacks.count cb + (s.invoked.map Prod.fst).count cb

theorem placed_of_perm {cb : CallbackKind} {p : DriverPc} {q : List DriverPc} {st st' : FutureState}
    {s s' : DriverShared}
    (hq : (q.flatMap DriverPc.pending ++ st'.callbacks).Perm (p.pending ++ st.callbacks))
    (hi : s'.invoked = s.invoked) : placed cb q st' s' = placed cb [p] st s := by
  have hc := hq.count_eq cb
  simp only [List.count_append, List.count_flatMap, Function.comp_def] at hc
  simp [placed, hi, hc]

theorem DriverMove.placed_eq {s s' : DriverShared} {p : DriverPc} {q : List DriverPc}
    {st : FutureState} (h : DriverMove s p s' q) (hv : Stance s p st) (hp : p.Agrees st)
    (hrun : RunsClosure p q) (cb : CallbackKind) :
    placed cb q (s'.seen q st) s' = placed cb [p] st s := by
  have hst := fun hl => hv.state_eq hl
  cases h with
  | skip hl h =>
    refine placed_of_perm ?_ rfl
    cases h <;> simp [DriverShared.seen, hl, hst hl, DriverPc.pending, DriverPc.registering,
      DriverPc.firing]
  | readConverted hl hr hs =>
    refine placed_of_perm ?_ rfl
    simp [DriverShared.seen, hl, hst hl, DriverPc.pending_acts, DriverPc.pending_reader hr]
  | readUnconverted hl hr hs =>
    refine placed_of_perm ?_ rfl
    simp [DriverShared.seen, ← hst hl, hs, DriverPc.pending_convert, DriverPc.pending_reader hr,
      DriverPc.inside]
  | start hl hs | registerAsyncio hl hs | registerTokio hl hs | resultAsyncio hl hs
  | throwAsyncio hl hs | throwTokio hl hs | closeTokio hl hs | resolveDropped hl hs
  | wait hl hs | waitTimeout hl hs | waitAgain hl hs | waitDone hl hs =>
    refine placed_of_perm ?_ rfl
    simp [DriverShared.seen, hl, ← hst hl, hs, DriverPc.pending, DriverPc.registering,
      DriverPc.firing, DriverShared.started, FutureState.callbacks, List.filterMap_cons]
  | nextAsyncio hl hs =>
    refine placed_of_perm ?_ rfl
    simp [DriverShared.seen, ← hst hl, hs, DriverPc.inside, DriverPc.pending,
      DriverPc.registering, DriverPc.firing]
  | closeAsyncio hl hs =>
    refine placed_of_perm ?_ rfl
    split <;> simp [DriverShared.seen, hl, ← hst hl, hs, DriverPc.pending, DriverPc.registering,
      DriverPc.firing, FutureState.callbacks]
  | resolveFinished hl hs =>
    refine placed_of_perm ?_ rfl
    split <;> simp_all [DriverShared.seen, ← hst hl, DriverPc.pending, DriverPc.registering,
      DriverPc.firing, FutureState.callbacks]
  | waitUnreachable hl hs | wakeUnreachable hl hs =>
    exact absurd (hst hl).symm (hs ▸ hp _)
  | fireUnreachable hl hs | readReadyPending hl hs =>
    obtain ⟨rr, rfl⟩ := hp
    simp [hst hl, FutureState.isTerminal] at hs
  | closureDropped hs => exact absurd rfl (hrun _ _ rfl)
  | reset | pollPending | pollReady | park | pollPanicked =>
    obtain ⟨rfl, hl, _⟩ := hv.inside_eq rfl
    refine placed_of_perm ?_ rfl
    simp [DriverShared.seen, hl, DriverPc.inside, DriverPc.pending, DriverPc.registering,
      DriverPc.firing, Reader.registering, Reader.firing, FutureState.callbacks,
      DriverShared.yieldAsyncioFuture]
  | store =>
    obtain ⟨rfl, hl, _⟩ := hv.inside_eq rfl
    refine placed_of_perm ?_ rfl
    rw [pending_suspend]
    rfl
  | convert hr =>
    obtain ⟨rfl, hl, _⟩ := hv.inside_eq rfl
    refine placed_of_perm ?_ rfl
    simp [DriverShared.seen, DriverPc.pending_acts, DriverPc.pending_convert,
      FutureState.callbacks]
  | yieldAsyncio fail =>
    refine placed_of_perm ?_ rfl
    rw [seen_yield hv, pending_suspend]
    rfl
  | blocking | fireNone | finish | resumeNone | resumeDone | throwIn =>
    refine placed_of_perm ?_ rfl
    rw [seen_apart hv rfl rfl (by simp [LockFree, DriverPc.inside])]
    simp [DriverPc.pending, DriverPc.registering, DriverPc.firing, List.filterMap_cons]
  | @act a acts =>
    rw [seen_act hv]
    cases hcb : a.callback with
    | none =>
      refine placed_of_perm ?_ (act_invoked hcb)
      simp [DriverPc.pending, DriverPc.registering, DriverPc.firing, filterMap_callback_act, hcb]
    | some cb' =>
      obtain ⟨r, rfl⟩ : ∃ r, a = .invoke cb' r := by
        cases a <;> cases hcb
        exact ⟨_, rfl⟩
      simp only [placed, DriverShared.act, DriverPc.pending, DriverPc.registering,
        DriverPc.firing, List.nil_append, List.map_cons, List.map_nil, List.map_append,
        List.sum_cons, List.sum_nil, List.count_append, List.filterMap_cons,
        Act.callback_invoke, List.count_cons, List.count_nil]
      omega

/-- Every registered callback is placed somewhere, as often as it was registered. -/
def Census (st : FutureState) (c : Config DriverShared DriverPc) : Prop :=
  ∀ cb, c.shared.registered.count cb =
    (c.threads.map (·.pending.count cb)).sum + st.callbacks.count cb +
      (c.shared.invoked.map Prod.fst).count cb

theorem Census.move {s s' : DriverShared} {p : DriverPc} {q : List DriverPc}
    {T : Multiset DriverPc} {st : FutureState} (h : Census st ⟨s, p ::ₘ T⟩)
    (hc : Coherent st ⟨s, p ::ₘ T⟩) (hrun : RunsClosure p q) (hm : DriverMove s p s' q) :
    Census (s'.seen q st) ⟨s', (q : Multiset DriverPc) + T⟩ := by
  intro cb
  have hreg : s'.registered = s.registered := by
    cases hm with
    | act => rw [act_frame]
    | _ => rfl
  have hplaced := hm.placed_eq hc.locking.stance (hc.threads p (Multiset.mem_cons_self p T)) hrun cb
  have hcb := h cb
  simp only [placed, List.map_cons, List.map_nil, List.sum_cons, List.sum_nil] at hplaced
  simp only [Multiset.map_cons, Multiset.sum_cons] at hcb
  simp only [hreg, Multiset.map_add, Multiset.sum_add, Multiset.map_coe, Multiset.sum_coe]
  omega

theorem DriverArrival.registered {s s' : DriverShared} {k : DriverEvent} {q : List DriverPc}
    (h : DriverArrival s k s' q) (cb : CallbackKind) :
    s'.registered.count cb = s.registered.count cb + (q.map (·.pending.count cb)).sum := by
  cases h with
  | register hid hself => simp [DriverPc.pending, DriverPc.registering, DriverPc.firing]
  | @call m entry hentry hm =>
    cases entry with
    | register cb' => exact absurd rfl (hentry cb')
    | _ => rfl
  | _ => rfl

theorem Census.arrive {s s' : DriverShared} {k : DriverEvent} {q : List DriverPc}
    {T : Multiset DriverPc} {st : FutureState} (h : Census st ⟨s, T⟩)
    (ha : DriverArrival s k s' q) : Census st ⟨s', (q : Multiset DriverPc) + T⟩ := by
  intro cb
  have hinv : s'.invoked = s.invoked := by cases ha <;> rfl
  have hreg := ha.registered cb
  have hcb := h cb
  simp only [hinv, Multiset.map_add, Multiset.sum_add, Multiset.map_coe, Multiset.sum_coe] at hcb ⊢
  omega

end ScyllaDriver
