import ScyllaDriver.Interleaving

/-! Calls that take turns on a value guarded by an asynchronous lock. A call may
try the lock first and otherwise waits for it; under the lock it may await a reply.
It can be dropped wherever it awaits. What calls do to the value is sequential, so an
invariant of the sequential code holds in every interleaving. -/

namespace ScyllaDriver

/-- The code of a call on a value `σ` under its lock, with outcome `ω`.
`fast` runs if the lock is free when the call is made, `none` sending the call to
wait for it; `enter` runs once a waiting call got the lock and `resume` when a reply
arrives, `none` meaning that the call awaits a reply, still holding the lock. After
the lock is released, `deliver` hands out the outcome as `result`. -/
structure LockedCode (σ ε ω ρ : Type*) where
  fast : σ → σ × Option ω
  enter : σ → σ × Option ω
  resume : σ → ε → σ × Option ω
  deliver : σ → ω → σ
  result : ω → ρ
  /-- Whether a result is an error. -/
  fails : ρ → Bool

inductive CallPc (ω : Type*) where
  | called
  | fast
  | waiting
  | entered
  | awaiting
  | deliver (outcome : ω)
  deriving DecidableEq

/-- A call; `late` if it was made after a call had returned an error. -/
structure Call (ω : Type*) where
  late : Bool
  pc : CallPc ω
  deriving DecidableEq

structure LockedShared (σ ω ρ : Type*) where
  value : σ
  locked : Bool
  /-- The outcomes, in the order calls got them under the lock. -/
  taken : List ω
  delivered : List ω
  /-- What calls returned, each with whether it was late. -/
  returned : List (Bool × ρ)

inductive CallChoice (ε : Type*) where
  | go
  | reply (reply : ε)
  | drop

variable {σ ε ω ρ : Type*}

/-- The lock is released with the outcome, if there is one. -/
def LockedShared.release (s : LockedShared σ ω ρ) (value : σ) (outcome : Option ω) :
    LockedShared σ ω ρ :=
  { s with value := value, locked := false, taken := s.taken ++ outcome.toList }

namespace LockedCode

variable (L : LockedCode σ ε ω ρ)

/-- The end of a section that either has its outcome or awaits a reply. -/
def endSection (s : LockedShared σ ω ρ) (late : Bool) (r : σ × Option ω) :
    LockedShared σ ω ρ × List (Call ω) :=
  match r.2 with
  | some outcome => (s.release r.1 (some outcome), [⟨late, .deliver outcome⟩])
  | none => ({ s with value := r.1 }, [⟨late, .awaiting⟩])

def step (s : LockedShared σ ω ρ) (p : Call ω) (choice : CallChoice ε) :
    Option (LockedShared σ ω ρ × List (Call ω)) :=
  match p.pc, choice with
  | .called, .go =>
    if s.locked then some (s, [⟨p.late, .waiting⟩])
    else some ({ s with locked := true }, [⟨p.late, .fast⟩])
  | .fast, .go =>
    match L.fast s.value with
    | (value, some outcome) => some (s.release value (some outcome), [⟨p.late, .deliver outcome⟩])
    | (value, none) => some (s.release value none, [⟨p.late, .waiting⟩])
  | .waiting, .go =>
    if s.locked then none else some ({ s with locked := true }, [⟨p.late, .entered⟩])
  | .waiting, .drop => some (s, [])
  | .entered, .go => some (endSection s p.late (L.enter s.value))
  | .awaiting, .reply reply => some (endSection s p.late (L.resume s.value reply))
  | .awaiting, .drop => some ({ s with locked := false }, [])
  | .deliver outcome, .go =>
    some ({ s with
      value := L.deliver s.value outcome
      delivered := s.delivered ++ [outcome]
      returned := s.returned ++ [(p.late, L.result outcome)] }, [])
  | _, _ => none

def hasFailed (s : LockedShared σ ω ρ) : Bool := s.returned.any fun r => L.fails r.2

def program : Program (LockedShared σ ω ρ) (Call ω) (CallChoice ε) Unit where
  step := L.step
  env s _ := some (s, [⟨L.hasFailed s, .called⟩])

/-- A value that no call has been made on. -/
def init (value : σ) : Config (LockedShared σ ω ρ) (Call ω) := ⟨⟨value, false, [], [], []⟩, 0⟩

/-- Everything a call can do in one step. -/
inductive Move (s : LockedShared σ ω ρ) :
    Call ω → CallChoice ε → LockedShared σ ω ρ → List (Call ω) → Prop
  | contended {late} (h : s.locked = true) : Move s ⟨late, .called⟩ .go s [⟨late, .waiting⟩]
  | tries {late} (h : s.locked = false) :
      Move s ⟨late, .called⟩ .go { s with locked := true } [⟨late, .fast⟩]
  | fast {late outcome} (h : (L.fast s.value).2 = some outcome) :
      Move s ⟨late, .fast⟩ .go (s.release (L.fast s.value).1 (some outcome))
        [⟨late, .deliver outcome⟩]
  | slow {late} (h : (L.fast s.value).2 = none) :
      Move s ⟨late, .fast⟩ .go (s.release (L.fast s.value).1 none) [⟨late, .waiting⟩]
  | locks {late} (h : s.locked = false) :
      Move s ⟨late, .waiting⟩ .go { s with locked := true } [⟨late, .entered⟩]
  | dropsWaiting {late} : Move s ⟨late, .waiting⟩ .drop s []
  | enters {late outcome} (h : (L.enter s.value).2 = some outcome) :
      Move s ⟨late, .entered⟩ .go (s.release (L.enter s.value).1 (some outcome))
        [⟨late, .deliver outcome⟩]
  | awaits {late} (h : (L.enter s.value).2 = none) :
      Move s ⟨late, .entered⟩ .go { s with value := (L.enter s.value).1 } [⟨late, .awaiting⟩]
  | resumes {late reply outcome} (h : (L.resume s.value reply).2 = some outcome) :
      Move s ⟨late, .awaiting⟩ (.reply reply)
        (s.release (L.resume s.value reply).1 (some outcome)) [⟨late, .deliver outcome⟩]
  | awaitsMore {late reply} (h : (L.resume s.value reply).2 = none) :
      Move s ⟨late, .awaiting⟩ (.reply reply) { s with value := (L.resume s.value reply).1 }
        [⟨late, .awaiting⟩]
  | dropsAwaiting {late} : Move s ⟨late, .awaiting⟩ .drop { s with locked := false } []
  | delivers {late outcome} : Move s ⟨late, .deliver outcome⟩ .go
      { s with
        value := L.deliver s.value outcome
        delivered := s.delivered ++ [outcome]
        returned := s.returned ++ [(late, L.result outcome)] } []

variable {L}

theorem step_move {s s' : LockedShared σ ω ρ} {p : Call ω} {choice : CallChoice ε}
    {q : List (Call ω)} (h : L.step s p choice = some (s', q)) : L.Move s p choice s' q := by
  obtain ⟨late, pc⟩ := p
  simp only [step] at h
  split at h
  · split at h <;> rename_i hl <;> cases h
    · exact .contended hl
    · exact .tries (by simpa using hl)
  · split at h <;> rename_i hf <;> cases h
    · have hmove : L.Move s ⟨late, .fast⟩ .go _ _ := .fast (congrArg Prod.snd hf)
      rwa [hf] at hmove
    · have hmove : L.Move s ⟨late, .fast⟩ .go _ _ := .slow (congrArg Prod.snd hf)
      rwa [hf] at hmove
  · split at h <;> rename_i hl <;> cases h
    exact .locks (by simpa using hl)
  · cases h
    exact .dropsWaiting
  · simp only [endSection] at h
    split at h <;> rename_i ho <;> cases h
    · exact .enters ho
    · exact .awaits ho
  · simp only [endSection] at h
    split at h <;> rename_i ho <;> cases h
    · exact .resumes ho
    · exact .awaitsMore ho
  · cases h
    exact .dropsAwaiting
  · cases h
    exact .delivers
  · cases h

end LockedCode

def CallPc.holds : CallPc ω → Bool
  | .fast | .entered | .awaiting => true
  | .called | .waiting | .deliver _ => false

@[simp] theorem CallPc.holds_called : (called : CallPc ω).holds = false := rfl
@[simp] theorem CallPc.holds_fast : (fast : CallPc ω).holds = true := rfl
@[simp] theorem CallPc.holds_waiting : (waiting : CallPc ω).holds = false := rfl
@[simp] theorem CallPc.holds_entered : (entered : CallPc ω).holds = true := rfl
@[simp] theorem CallPc.holds_awaiting : (awaiting : CallPc ω).holds = true := rfl
@[simp] theorem CallPc.holds_deliver (o : ω) : (deliver o).holds = false := rfl

/-- The outcome a call has and has not handed out yet. -/
def Call.outcome (p : Call ω) : Option ω :=
  match p.pc with
  | .deliver outcome => some outcome
  | _ => none

theorem Call.outcome_of_holds (p : Call ω) (h : p.pc.holds = true) : p.outcome = none := by
  obtain ⟨late, pc⟩ := p
  cases pc <;> first | rfl | cases h

end ScyllaDriver
