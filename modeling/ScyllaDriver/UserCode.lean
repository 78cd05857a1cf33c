import ScyllaDriver.DriverCalls
import ScyllaDriver.ResponseCalls

/-! User Python code and the state lock of the future it is run for. A thread that holds
the lock while it runs user code cannot be called back: the mutex is not reentrant. -/

namespace ScyllaDriver

inductive UserCode where
  | prepare
  | rowBuilder
  | rowClass
  | callback
  | loopMethod
  deriving DecidableEq, Repr

/-- What the Rust future of a `DriverFuture` may call: the row builders a poll of it runs, with
the methods of the future that they call, and the row factory that the conversion of its output
runs. -/
structure InnerCode where
  polls : List UserCode
  pollCalls : List Method
  converts : Output → List UserCode

/-- `yield_asyncio_future` asks the event loop for a future, unless it was woken or is
still parked. -/
def DriverShared.parkCode (s : DriverShared) : List UserCode :=
  match s.waker.getD .idle with
  | .woken => []
  | .parked future => if s.batcher.shared.status future = .pending then [] else [.loopMethod]
  | .idle => [.loopMethod]

/-- The user code that the next step of a thread may call. -/
def DriverPc.userCode (code : InnerCode) (s : DriverShared) : DriverPc → List UserCode
  | .poll _ => code.polls
  | .convert _ (.stashed ⟨some out⟩) => code.converts out
  | .park _ | .yieldAsyncio => s.parkCode
  | .run (.invoke cb r :: _) => if (cb.invoke r).isSome then [.callback] else []
  | _ => []

/-- The user code that the next step of a thread of a `ResponseFuture` may call. -/
def ResponsePc.userCode : ResponsePc → List UserCode
  | .buildRows (.toBuild _) _ => [.prepare, .rowBuilder, .rowClass]
  | .invoke _ _ | .fire _ (_ :: _) _ | .fireDropped (_ :: _) _ => [.callback]
  | _ => []

/-- The caller runs user code that may call the method: any thread any method, the tokio task
those that its row builders call. -/
def Caller.Calls (code : InnerCode) (c : Config DriverShared DriverPc) (method : Method) :
    Caller → Prop
  | .thread p => p ∈ c.threads ∧ p.userCode code c.shared ≠ []
  | .task => code.polls ≠ [] ∧ (∃ future aborted, c.shared.task = .running future aborted) ∧
    method ∈ code.pollCalls

theorem DriverPc.inside_of_userCode {code : InnerCode} (hconv : ∀ out, code.converts out = [])
    {s : DriverShared} {p : DriverPc} (hp : ¬ p.Polling) (hu : p.userCode code s ≠ []) :
    p.inside = none := by
  cases p with
  | reset | poll | park | store => exact absurd ⟨_, rfl⟩ hp
  | convert reader resolved =>
    refine absurd ?_ hu
    unfold DriverPc.userCode
    split <;> simp_all
  | _ => rfl

/-- User code that still has to be followed by a `notify` is a callback, and the future is
`Ready`. -/
theorem DriverPc.ready_of_owes {code : InnerCode} {s : DriverShared} {p : DriverPc}
    {st : FutureState} (hin : p.inside = none) (hu : p.userCode code s ≠ []) (hagree : p.Agrees st)
    (howes : p.OwesNotify) : ∃ rr, st = .ready rr := by
  cases p with
  | run acts =>
    cases acts with
    | nil => exact absurd rfl hu
    | cons a acts =>
      cases a with
      | invoke cb r => exact ⟨_, hagree cb r List.mem_cons_self⟩
      | _ => exact absurd rfl hu
  | fireAndNotify | blocking => exact hagree
  | convert => cases hin
  | _ => exact howes.elim

section Calls

variable {code : InnerCode} {c : Config DriverShared DriverPc} {caller : Caller}
  {method : Method} {s : DriverShared} {entry : Entry}

theorem Caller.Calls.config (h : caller.Calls code c method)
    (hmethod : c.shared.call method = (s, [.call entry])) :
    driverProgram.next c (.env (.call method)) =
      some (Followed.config caller.still ⟨s, .call entry, c.threads - caller.still⟩) := by
  have hstill : caller.still ≤ c.threads := by
    cases caller with
    | thread p => exact Multiset.singleton_le.mpr h.1
    | task => exact Multiset.zero_le _
  have henv : driverProgram.env c.shared (.call method) = some (s, [.call entry]) :=
    congrArg some hmethod
  simp only [Program.next, henv, Option.map_some, Followed.config, tsub_add_cancel_of_le hstill]
  rfl

theorem call_entry (hmethod : c.shared.call method = (s, [.call entry])) :
    (method ≠ .next → entry ≠ .next) ∧
      ((∀ t, method ≠ .result t) → ∀ t, entry ≠ .result t) := by
  cases method <;> cases hmethod <;> simp

/-- The call that user code makes is followed from where it begins. -/
theorem Caller.Calls.served (hconv : ∀ out, code.converts out = [])
    (hresult : ∀ t, .result t ∉ code.pollCalls) {st : FutureState} (hcalm : Calm st c)
    (h : caller.Calls code c method) (hnext : method ≠ .next)
    (hmethod : c.shared.call method = (s, [.call entry])) :
    Served caller st ⟨s, .call entry, c.threads - caller.still⟩ := by
  refine ⟨?_, (call_entry hmethod).1 hnext, fun hwait => ?_⟩
  · have hn := h.config hmethod
    rcases Program.next_cases hn with ⟨_, _, _, _, _, he, _⟩ | ⟨k, s', q, he, hs, hd⟩
    · cases he
    · cases he
      have hcall : driverEnv c.shared (.call method) = some (s', q) := hs
      rw [hd]
      exact hcalm.coherent.arrive (driverEnv_arrival hcall)
  · cases caller with
    | thread p =>
      have hin := DriverPc.inside_of_userCode hconv (hcalm.unpolled p h.1) h.2
      refine ⟨fun howes => ?_, ?_⟩
      · obtain ⟨rr, rfl⟩ := DriverPc.ready_of_owes hin h.2 (hcalm.coherent.threads p h.1) howes
        cases entry with
        | result t => exact hwait rr rfl
        | _ => exact hwait
      · rintro o rfl
        exact h.2 rfl
    | task =>
      have hne : ∀ t, method ≠ .result t := by
        rintro t rfl
        exact hresult t h.2.2
      cases entry with
      | result t => exact (call_entry hmethod).2 hne t rfl
      | _ => exact hwait

theorem Caller.Calls.unlocked (hconv : ∀ out, code.converts out = []) {st : FutureState}
    (hcalm : Calm st c) (h : caller.Calls code c method) : caller.Unlocked := by
  cases caller with
  | thread p =>
    intro r hr
    obtain rfl := Multiset.mem_singleton.mp hr
    exact DriverPc.inside_of_userCode hconv (hcalm.unpolled r h.1) h.2
  | task => exact fun r hr => absurd hr (Multiset.notMem_zero r)

end Calls

theorem ResponsePc.outside_of_userCode {p : ResponsePc} (h : p.userCode ≠ []) :
    p.isCritical = false ∧ p.isRequest = false ∧ ¬ p.OwesNotify := by
  cases p with
  | buildRows | invoke | fire | fireDropped => exact ⟨rfl, rfl, id⟩
  | _ => exact absurd rfl h

/-- While a thread holds the lock and does not go on, a call that waits for the lock waits. -/
theorem held_lock_blocks {st : FutureState} {c d : Config DriverShared DriverPc} {p : DriverPc}
    {entry : Entry} (hc : Coherent st c) (hi : p.inside.isSome = true) (hp : p ∈ c.threads)
    (hcall : .call entry ∈ c.threads)
    (hr : driverProgram.RunIn (fun _ l => ∀ e, l ≠ .thread p e) c d) :
    p ∈ d.threads ∧ .call entry ∈ d.threads := by
  refine (driver_invariant _ (I := fun _ c => p ∈ c.threads ∧ .call entry ∈ c.threads) ?_ ?_ hc
    ⟨hp, hcall⟩ hr).choose_spec.2
  · rintro s s' r q T e st hok hc ⟨hp, hcall⟩ hs -
    have hlocked : s.locked = true := by
      obtain ⟨st', hst'⟩ := Option.isSome_iff_exists.mp hi
      exact hc.locking.inside_locked hp hst'
    have hrest {x : DriverPc} (hx : x ∈ r ::ₘ T) (hne : x ≠ r) :
        x ∈ (q : Multiset DriverPc) + T :=
      Multiset.mem_add.mpr (.inr ((Multiset.mem_cons.mp hx).resolve_left hne))
    refine ⟨hrest hp ?_, hrest hcall ?_⟩
    · rintro rfl
      exact hok e rfl
    · rintro rfl
      simp [driverStep, hlocked] at hs
  · rintro s s' k q T st - - ⟨hp, hcall⟩ -
    exact ⟨Multiset.mem_add.mpr (.inr hp), Multiset.mem_add.mpr (.inr hcall)⟩

end ScyllaDriver
