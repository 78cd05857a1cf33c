import ScyllaDriver.Interleaving

/-! The completion batcher of one event loop. Pushers are threads; the loop
thread is the one component that drains, so its position is part of the
shared state and its steps are events. -/

namespace ScyllaDriver

/-- Identity of an `asyncio.Future`. -/
abbrev AioFuture := Nat

inductive AioStatus where
  | pending
  | finished
  | cancelled
  deriving DecidableEq, Repr

namespace Batcher

inductive NotifierKind where
  | callSoon
  | pipe
  deriving DecidableEq, Repr

/-- Where the loop thread is in `Batcher::drain`. -/
inductive Drain where
  | idle
  | acknowledge
  | take
  | release (ready : List AioFuture)
  deriving DecidableEq, Repr

/-- The futures a running drain has taken and not released yet. -/
def Drain.ready : Drain → List AioFuture
  | .release ready => ready
  | _ => []

structure Shared where
  queue : List AioFuture
  armed : Bool
  kind : NotifierKind
  /-- Bytes written to the socket pair and not read yet. -/
  bytes : Nat
  /-- Calls of `drain` that `call_soon_threadsafe` scheduled. -/
  scheduled : Nat
  loopOpen : Bool
  drain : Drain
  status : AioFuture → AioStatus
  /-- Every future ever queued, in order. -/
  pushed : List AioFuture
  /-- What each drain took, in order. -/
  taken : List (List AioFuture)
  /-- The futures `release_waiter` was called on, in order. -/
  released : List AioFuture

/-- A thread inside `Batcher::push`. -/
inductive Pc where
  | push (future : AioFuture)
  | notify
  | scheduleDrainCallSoon
  | discard
  deriving DecidableEq, Repr

/-- The answer of a system call on the socket pair. -/
inductive Io where
  | ok (n : Nat)
  | wouldBlock
  | interrupted
  | error
  deriving DecidableEq, Repr

/-- `Batcher::push` under the lock; the second component is `first_of_batch`. -/
def Shared.enqueue (s : Shared) (future : AioFuture) : Shared × Bool :=
  ({ s with queue := s.queue ++ [future], armed := true, pushed := s.pushed ++ [future] },
    !s.armed)

/-- One `write` of `Notifier::notify`. A full socket buffer is not empty,
whatever its capacity. -/
def Shared.write (s : Shared) : Io → Option (Shared × List Pc)
  | .ok _ => some ({ s with bytes := s.bytes + 1 }, [])
  | .wouldBlock => if s.bytes = 0 then none else some (s, [])
  | .interrupted => some (s, [.notify])
  | .error => some (s, [.scheduleDrainCallSoon])

def step (s : Shared) : Pc → Io → Option (Shared × List Pc)
  | .push future, _ =>
    let (s, firstOfBatch) := s.enqueue future
    some (s, if firstOfBatch then [.notify] else [])
  | .notify, io =>
    match s.kind with
    | .pipe => s.write io
    | .callSoon => some (s, [.scheduleDrainCallSoon])
  -- `call_soon_threadsafe` raises exactly when the loop is closed or gone.
  | .scheduleDrainCallSoon, _ =>
    if s.loopOpen then some ({ s with scheduled := s.scheduled + 1 }, [])
    else some (s, [.discard])
  | .discard, _ => some ({ s with queue := [], armed := false }, [])

/-- Why the loop calls `drain`. -/
inductive Wakeup where
  | readable
  | callback
  | spurious
  deriving DecidableEq, Repr

inductive Event where
  | push (future : AioFuture)
  | startDrain (why : Wakeup)
  | read (io : Io)
  | takeQueue
  | releaseWaiter
  | cancelFuture (future : AioFuture)
  | closeLoop
  deriving DecidableEq, Repr

def Shared.startDrain (s : Shared) : Wakeup → Option Shared
  | .readable => if s.bytes = 0 then none else some { s with drain := .acknowledge }
  | .callback =>
    if s.scheduled = 0 then none
    else some { s with scheduled := s.scheduled - 1, drain := .acknowledge }
  | .spurious => some { s with drain := .acknowledge }

/-- One `read` of `NotifierKind::acknowledge`, at most 64 bytes. The read end
never sees the end of the stream, as the batcher keeps its write end open. -/
def Shared.read (s : Shared) : Io → Option Shared
  | .ok n =>
    if 0 < n ∧ n ≤ 64 ∧ n ≤ s.bytes then some { s with bytes := s.bytes - n } else none
  | .wouldBlock => if s.bytes = 0 then some { s with drain := .take } else none
  | .interrupted => some s
  | .error => some { s with drain := .take }

/-- `Batcher::drain` under the lock. -/
def Shared.takeQueue (s : Shared) : Shared :=
  { s with armed := false, queue := [], drain := .release s.queue,
           taken := s.taken ++ [s.queue] }

def releaseWaiter (status : AioFuture → AioStatus) (future : AioFuture) :
    AioFuture → AioStatus :=
  if status future = .pending then Function.update status future .finished else status

def env (s : Shared) : Event → Option (Shared × List Pc)
  | .push future => some (s, [.push future])
  | .startDrain why =>
    if s.loopOpen ∧ s.drain = .idle then (s.startDrain why).map (·, []) else none
  | .read io =>
    if s.drain = .acknowledge then
      match s.kind with
      | .pipe => (s.read io).map (·, [])
      | .callSoon => some ({ s with drain := .take }, [])
    else none
  | .takeQueue => if s.drain = .take then some (s.takeQueue, []) else none
  | .releaseWaiter =>
    match s.drain with
    | .release [] => some ({ s with drain := .idle }, [])
    | .release (future :: ready) =>
      some ({ s with drain := .release ready, status := releaseWaiter s.status future,
                     released := s.released ++ [future] }, [])
    | _ => none
  | .cancelFuture future =>
    if s.status future = .pending then
      some ({ s with status := Function.update s.status future .cancelled }, [])
    else none
  | .closeLoop => some ({ s with loopOpen := false }, [])

def program : Program Shared Pc Io Event := ⟨step, env⟩

/-- A new batcher. Bytes and calls left over from earlier may be around. -/
def init (kind : NotifierKind) (bytes scheduled : Nat) : Config Shared Pc :=
  ⟨{ queue := [], armed := false, kind := kind, bytes := bytes, scheduled := scheduled,
     loopOpen := true, drain := .idle, status := fun _ => .pending,
     pushed := [], taken := [], released := [] }, 0⟩

/-- Everything a pusher can do in one step. -/
inductive Move (s : Shared) : Pc → Shared → List Pc → Prop where
  | push {f} : Move s (.push f) (s.enqueue f).1 (if s.armed then [] else [.notify])
  | wrote : Move s .notify { s with bytes := s.bytes + 1 } []
  | pipeFull (h : 0 < s.bytes) : Move s .notify s []
  | interrupted : Move s .notify s [.notify]
  | fallBack : Move s .notify s [.scheduleDrainCallSoon]
  | scheduled (h : s.loopOpen = true) :
      Move s .scheduleDrainCallSoon { s with scheduled := s.scheduled + 1 } []
  | loopGone (h : s.loopOpen = false) : Move s .scheduleDrainCallSoon s [.discard]
  | discard : Move s .discard { s with queue := [], armed := false } []

/-- Everything the loop thread can do in one step, and what happens to it. -/
inductive LoopMove (s : Shared) : Event → Shared → List Pc → Prop where
  | push {f} : LoopMove s (.push f) s [.push f]
  | startDrain {why n} (ho : s.loopOpen = true) (hd : s.drain = .idle) :
      LoopMove s (.startDrain why) { s with scheduled := n, drain := .acknowledge } []
  | read {io n d} (hd : s.drain = .acknowledge) (hd' : d = .acknowledge ∨ d = .take) :
      LoopMove s (.read io) { s with bytes := n, drain := d } []
  | takeQueue (hd : s.drain = .take) : LoopMove s .takeQueue s.takeQueue []
  | release {f ready} (hd : s.drain = .release (f :: ready)) :
      LoopMove s .releaseWaiter
        { s with drain := .release ready, status := Batcher.releaseWaiter s.status f,
                 released := s.released ++ [f] } []
  | released (hd : s.drain = .release []) :
      LoopMove s .releaseWaiter { s with drain := .idle } []
  | cancelFuture {f} (h : s.status f = .pending) :
      LoopMove s (.cancelFuture f)
        { s with status := Function.update s.status f .cancelled } []
  | closeLoop : LoopMove s .closeLoop { s with loopOpen := false } []

theorem step_move {s s' : Shared} {p : Pc} {io : Io} {q : List Pc}
    (h : step s p io = some (s', q)) : Move s p s' q := by
  cases p with
  | push f =>
    cases h
    cases ha : s.armed <;> simpa [Shared.enqueue, ha] using Move.push (s := s) (f := f)
  | notify =>
    simp only [step] at h
    split at h
    · cases io with
      | ok n => cases h; exact .wrote
      | wouldBlock =>
        simp only [Shared.write] at h
        split at h <;> cases h
        rename_i hb; exact .pipeFull (Nat.pos_of_ne_zero hb)
      | interrupted => cases h; exact .interrupted
      | error => cases h; exact .fallBack
    · cases h; exact .fallBack
  | scheduleDrainCallSoon =>
    simp only [step] at h
    split at h <;> cases h
    · rename_i ho; exact .scheduled ho
    · rename_i ho; exact .loopGone (by simpa using ho)
  | discard => cases h; exact .discard

theorem startDrain_eq {s s' : Shared} {why : Wakeup} (h : s.startDrain why = some s') :
    ∃ n, s' = { s with scheduled := n, drain := .acknowledge } := by
  cases why with
  | readable => simp only [Shared.startDrain] at h; split at h <;> cases h; exact ⟨_, rfl⟩
  | callback => simp only [Shared.startDrain] at h; split at h <;> cases h; exact ⟨_, rfl⟩
  | spurious => cases h; exact ⟨_, rfl⟩

theorem read_eq {s s' : Shared} {io : Io} (h : s.read io = some s')
    (hd : s.drain = .acknowledge) :
    ∃ n d, s' = { s with bytes := n, drain := d } ∧ (d = .acknowledge ∨ d = .take) := by
  cases io with
  | ok n =>
    simp only [Shared.read] at h
    split at h <;> cases h
    exact ⟨_, _, rfl, .inl hd⟩
  | wouldBlock =>
    simp only [Shared.read] at h
    split at h <;> cases h
    exact ⟨_, _, rfl, .inr rfl⟩
  | interrupted => cases h; exact ⟨_, _, rfl, .inl hd⟩
  | error => cases h; exact ⟨_, _, rfl, .inr rfl⟩

theorem env_move {s s' : Shared} {k : Event} {q : List Pc} (h : env s k = some (s', q)) :
    LoopMove s k s' q := by
  cases k with
  | push f => cases h; exact .push
  | startDrain why =>
    simp only [env] at h
    split at h
    · rename_i hd
      obtain ⟨s₁, h₁, he⟩ := Option.map_eq_some_iff.mp h
      cases he
      obtain ⟨n, rfl⟩ := startDrain_eq h₁
      exact .startDrain hd.1 hd.2
    · cases h
  | read io =>
    simp only [env] at h
    split at h
    · rename_i hd
      split at h
      · obtain ⟨s₁, h₁, he⟩ := Option.map_eq_some_iff.mp h
        cases he
        obtain ⟨n, d, rfl, hd'⟩ := read_eq h₁ hd
        exact .read hd hd'
      · cases h
        exact .read hd (.inr rfl)
    · cases h
  | takeQueue =>
    simp only [env] at h
    split at h <;> cases h
    rename_i hd; exact .takeQueue hd
  | releaseWaiter =>
    simp only [env] at h
    split at h <;> cases h
    · rename_i hd; exact .released hd
    · rename_i hd; exact .release hd
  | cancelFuture f =>
    simp only [env] at h
    split at h <;> cases h
    rename_i hf; exact .cancelFuture hf
  | closeLoop => cases h; exact .closeLoop

end Batcher

end ScyllaDriver
