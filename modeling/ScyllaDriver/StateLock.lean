import ScyllaDriver.Waiting

/-! `StateLock`: a state behind a mutex with a condvar for the threads that
block until it changes. A critical section is one step; a wait releases the
lock and takes it again, and may end for no reason. -/

namespace ScyllaDriver

structure StateLock (S : Type*) where
  state : S
  waiters : Nat
  /-- Calls of `Condvar::notify_all` so far. -/
  epoch : Nat

namespace StateLock

inductive Pc where
  | waitWhile (timeout : Bool)
  | blocked (timeout : Bool) (since : Nat)
  /-- Returned from `wait_while`. -/
  | returned (timedOut : Bool)
  | notify (waiters : Nat)
  deriving DecidableEq, Repr

inductive Event (S : Type*) where
  | waitWhile (timeout : Bool)
  /-- The state changes, the waiters are read under the same lock and notified
  after it is released. -/
  | transition (next : S)
  /-- The state changes and nobody is told. -/
  | update (next : S)

variable {S : Type*}

def new (state : S) : StateLock S := ⟨state, 0, 0⟩

def notify (s : StateLock S) (waiters : Nat) : StateLock S :=
  { s with epoch := if 0 < waiters then s.epoch + 1 else s.epoch }

/-- `wait_while` up to the first wait. -/
def waitWhile (pending : S → Bool) (s : StateLock S) (timeout : Bool) : StateLock S × List Pc :=
  if pending s.state then ({ s with waiters := s.waiters + 1 }, [.blocked timeout s.epoch])
  else (s, [.returned false])

/-- A wait that ended; `elapsed` tells whether it took too long. -/
def wakeUp (pending : S → Bool) (s : StateLock S) (timeout elapsed : Bool) :
    StateLock S × List Pc :=
  if pending s.state then
    if timeout && elapsed then ({ s with waiters := s.waiters - 1 }, [.returned true])
    else (s, [.blocked timeout s.epoch])
  else ({ s with waiters := s.waiters - 1 }, [.returned false])

def step (pending : S → Bool) (s : StateLock S) : Pc → Bool → Option (StateLock S × List Pc)
  | .waitWhile timeout, _ => some (s.waitWhile pending timeout)
  | .blocked timeout _, elapsed => some (s.wakeUp pending timeout elapsed)
  | .notify waiters, _ => some (s.notify waiters, [])
  | .returned _, _ => none

def env (pending : S → Bool) (s : StateLock S) : Event S → Option (StateLock S × List Pc)
  | .waitWhile timeout => some (s, [.waitWhile timeout])
  | .transition next => some ({ s with state := next }, [.notify s.waiters])
  | .update next =>
    if pending s.state && !pending next then none else some ({ s with state := next }, [])

def program (pending : S → Bool) : Program (StateLock S) Pc Bool (Event S) :=
  ⟨step pending, env pending⟩

def Pc.since : Pc → Option Nat
  | .blocked _ since => some since
  | _ => none

def Pc.Owes : Pc → Prop
  | .notify waiters => 0 < waiters
  | _ => False

def waiting : Waiting (StateLock S) Pc := ⟨waiters, epoch, Pc.since, Pc.Owes⟩

theorem step_respects {pending : S → Bool} {s s' : StateLock S} {p : Pc} {elapsed : Bool}
    {q : List Pc} (h : step pending s p elapsed = some (s', q)) :
    waiting.Respects (pending s.state = false) (pending s'.state = false) s p s' q := by
  cases p with
  | waitWhile timeout =>
    simp only [step, waitWhile] at h
    split at h
    · rename_i hp
      cases h
      exact .begin rfl rfl rfl rfl id (by simp [hp])
    · cases h
      exact .apart rfl (by simp [waiting, Pc.since]) rfl le_rfl False.elim .inl
  | blocked timeout since =>
    simp only [step, wakeUp] at h
    split at h
    · rename_i hp
      split at h
      · cases h
        exact .leave rfl (by simp [waiting, Pc.since]) rfl rfl id id
      · cases h
        exact .again rfl rfl id (by simp [hp])
    · cases h
      exact .leave rfl (by simp [waiting, Pc.since]) rfl rfl id id
  | returned timedOut => cases h
  | notify n =>
    cases h
    have hle : s.epoch ≤ (s.notify n).epoch := by
      simp only [notify]
      split <;> omega
    refine .apart rfl (by simp) rfl hle (fun ho => .inl ?_) .inl
    have hn : 0 < n := ho
    simp [waiting, notify, hn]

theorem preserves_kept (pending : S → Bool) :
    (program pending).Preserves (fun _ _ => True)
      fun c => waiting.Kept (pending c.shared.state = false) c := by
  constructor
  · intro s T p elapsed s' q _ h hs
    exact h.step (step_respects hs)
  · intro s T k s' q _ h hs
    cases k with
    | waitWhile timeout =>
      cases hs
      exact h.arrive rfl rfl (by simp [waiting, Pc.since]) .inl
    | transition next =>
      cases hs
      refine h.arrive rfl rfl (by simp [waiting, Pc.since]) fun _ => .inr ?_
      rcases Nat.eq_zero_or_pos s.waiters with hz | hz
      · exact .inl hz
      · exact .inr ⟨_, List.mem_singleton_self _, hz⟩
    | update next =>
      simp only [program, env] at hs
      split at hs
      · cases hs
      · rename_i hp
        cases hs
        refine h.arrive rfl rfl (by simp) fun hn => .inl ?_
        simpa [hn] using hp

theorem kept_of_run {pending : S → Bool} {state : S} {c : Config (StateLock S) Pc}
    (hr : (program pending).Run ⟨.new state, 0⟩ c) :
    waiting.Kept (pending c.shared.state = false) c :=
  (preserves_kept pending).run (Waiting.Kept.init rfl (by simp)) hr

end StateLock

end ScyllaDriver
