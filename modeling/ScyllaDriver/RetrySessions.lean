import ScyllaDriver.Callbacks
import ScyllaDriver.Interleaving
import ScyllaDriver.SessionConfig

/-! Retry sessions. Requests and Python code share the built-in sessions, each under a lock of
its own; a session written in Python is asked through conversions and may itself ask built-in
ones. -/

namespace ScyllaDriver

namespace RetrySessions

inductive PyConsistency where
  | any | one | two | three | quorum | all | localQuorum | eachQuorum | localOne | serial
  | localSerial
  deriving DecidableEq, Repr

def PyConsistency.toConsistency : PyConsistency → Consistency
  | .any => .any
  | .one => .one
  | .two => .two
  | .three => .three
  | .quorum => .quorum
  | .all => .all
  | .localQuorum => .localQuorum
  | .eachQuorum => .eachQuorum
  | .localOne => .localOne
  | .serial => .serial
  | .localSerial => .localSerial

def PyConsistency.ofConsistency : Consistency → PyConsistency
  | .any => .any
  | .one => .one
  | .two => .two
  | .three => .three
  | .quorum => .quorum
  | .all => .all
  | .localQuorum => .localQuorum
  | .eachQuorum => .eachQuorum
  | .localOne => .localOne
  | .serial => .serial
  | .localSerial => .localSerial

@[simp]
theorem PyConsistency.toConsistency_ofConsistency (c : Consistency) :
    (ofConsistency c).toConsistency = c := by
  cases c <;> rfl

@[simp]
theorem PyConsistency.ofConsistency_toConsistency (c : PyConsistency) :
    ofConsistency c.toConsistency = c := by
  cases c <;> rfl

inductive RetryDecision where
  | retrySameTarget (consistency : Option Consistency)
  | retryNextTarget (consistency : Option Consistency)
  | dontRetry
  | ignoreWriteError
  deriving DecidableEq, Repr

inductive PyRetryDecision where
  | retrySameTarget (consistency : Option PyConsistency)
  | retryNextTarget (consistency : Option PyConsistency)
  | dontRetry
  | ignoreWriteError
  deriving DecidableEq, Repr

def PyRetryDecision.toRetryDecision : PyRetryDecision → RetryDecision
  | .retrySameTarget c => .retrySameTarget (c.map PyConsistency.toConsistency)
  | .retryNextTarget c => .retryNextTarget (c.map PyConsistency.toConsistency)
  | .dontRetry => .dontRetry
  | .ignoreWriteError => .ignoreWriteError

def PyRetryDecision.ofRetryDecision : RetryDecision → PyRetryDecision
  | .retrySameTarget c => .retrySameTarget (c.map PyConsistency.ofConsistency)
  | .retryNextTarget c => .retryNextTarget (c.map PyConsistency.ofConsistency)
  | .dontRetry => .dontRetry
  | .ignoreWriteError => .ignoreWriteError

@[simp]
theorem PyRetryDecision.toRetryDecision_ofRetryDecision (d : RetryDecision) :
    (ofRetryDecision d).toRetryDecision = d := by
  cases d with
  | retrySameTarget c => cases c <;> simp [ofRetryDecision, toRetryDecision]
  | retryNextTarget c => cases c <;> simp [ofRetryDecision, toRetryDecision]
  | dontRetry => rfl
  | ignoreWriteError => rfl

@[simp]
theorem PyRetryDecision.ofRetryDecision_toRetryDecision (d : PyRetryDecision) :
    ofRetryDecision d.toRetryDecision = d := by
  cases d with
  | retrySameTarget c => cases c <;> simp [ofRetryDecision, toRetryDecision]
  | retryNextTarget c => cases c <;> simp [ofRetryDecision, toRetryDecision]
  | dontRetry => rfl
  | ignoreWriteError => rfl

/-- `E` are the errors of the Rust driver. -/
structure RequestInfo (E : Type) where
  error : E
  isIdempotent : Bool
  consistency : Consistency
  deriving DecidableEq, Repr

/-- `P` are the errors as Python sees them; the Rust error is kept beside. -/
structure PyRequestInfo (E P : Type) where
  error : P
  isIdempotent : Bool
  consistency : PyConsistency
  rustError : E
  deriving DecidableEq, Repr

section Conversions

variable {E P : Type} (view : E → P)

def PyRequestInfo.ofRequestInfo (info : RequestInfo E) : PyRequestInfo E P where
  error := view info.error
  isIdempotent := info.isIdempotent
  consistency := .ofConsistency info.consistency
  rustError := info.error

def PyRequestInfo.toRequestInfo (info : PyRequestInfo E P) : RequestInfo E where
  error := info.rustError
  isIdempotent := info.isIdempotent
  consistency := info.consistency.toConsistency

@[simp]
theorem PyRequestInfo.toRequestInfo_ofRequestInfo (info : RequestInfo E) :
    (ofRequestInfo view info).toRequestInfo = info := by
  simp [ofRequestInfo, toRequestInfo]

end Conversions

/-- A retry session of the Rust driver. -/
structure Machine (σ E : Type) where
  init : σ
  decide : σ → RequestInfo E → RetryDecision × σ
  reset : σ → σ

inductive Kind where
  | default
  | downgradingConsistency
  deriving DecidableEq, Repr

/-- What `decide_should_retry` of a Python session returns. -/
inductive PyReply where
  | decision (decision : PyRetryDecision)
  | other
  deriving DecidableEq

/-- What Python code does next; `K` are the places in the code. -/
inductive PyAction (E P K : Type) where
  | reply (result : Except PyErr PyReply)
  | decide (cell : Nat) (info : PyRequestInfo E P) (next : PyRetryDecision → K)
  | reset (cell : Nat) (next : K)
  /-- Code that asks no built-in session; it may go on in any of these ways. -/
  | compute (next : Nat → K)

/-- The Python code of the program, and where the methods of its sessions start. -/
structure Python (E P K : Type) where
  action : K → PyAction E P K
  decideShouldRetry : Nat → PyRequestInfo E P → K
  reset : Nat → K

/-- What `new_session` of a Python policy returns. -/
inductive PySession where
  | builtin (cell : Nat)
  | fallthrough
  | other (object : Nat)

inductive Session where
  /-- A session of the Rust driver, alone or shared with Python. -/
  | shared (cell : Nat)
  | fallthrough
  | custom (object : Nat)
  deriving DecidableEq, Repr

inductive Entry (E : Type) where
  | decided (info : RequestInfo E) (decision : RetryDecision)
  | reset
  deriving DecidableEq, Repr

structure Shared (σ E : Type) where
  kind : Nat → Kind
  cells : Nat → σ
  /-- The calls on each cell, in the order they got its lock. -/
  log : Nat → List (Entry E)
  next : Nat
  sessions : List Session

inductive Pc (E K : Type) where
  | calling (session : Session) (info : RequestInfo E)
  | python (object : Nat) (info : RequestInfo E) (code : K)
  /-- The request has its decision; `answer` is what a session in Python has returned for it. -/
  | decided (session : Session) (info : RequestInfo E) (answer : Option (Except PyErr PyReply))
    (decision : RetryDecision)
  | resetting (session : Session)
  | script (code : K)
  | finished
  deriving DecidableEq

inductive Event (E K : Type) where
  /-- Python makes a built-in session. -/
  | construct (kind : Kind)
  | newSession (result : Except PyErr PySession)
  | decide (session : Session) (info : RequestInfo E)
  | reset (session : Session)
  /-- Python code that no request waits for. -/
  | script (code : K)

section Code

variable {σ E P K : Type} (machine : Kind → Machine σ E) (view : E → P) (python : Python E P K)
  (s : Shared σ E)

def Shared.construct (kind : Kind) : Shared σ E :=
  { s with
    kind := Function.update s.kind s.next kind
    cells := Function.update s.cells s.next (machine kind).init
    log := Function.update s.log s.next []
    next := s.next + 1 }

/-- `new_session` of a Python policy; a failure gives a default session. -/
def Shared.newSession : Except PyErr PySession → Shared σ E
  | .ok (.builtin cell) => { s with sessions := .shared cell :: s.sessions }
  | .ok .fallthrough => { s with sessions := .fallthrough :: s.sessions }
  | .ok (.other object) => { s with sessions := .custom object :: s.sessions }
  | .error _ => { s.construct machine .default with sessions := .shared s.next :: s.sessions }

def Shared.machineOf (cell : Nat) : Machine σ E := machine (s.kind cell)

/-- `decide_should_retry` of the session in a cell, under its lock. -/
def Shared.decide (cell : Nat) (info : RequestInfo E) : RetryDecision × Shared σ E :=
  let (decision, state) := (s.machineOf machine cell).decide (s.cells cell) info
  (decision, { s with
    cells := Function.update s.cells cell state
    log := Function.update s.log cell (s.log cell ++ [.decided info decision]) })

def Shared.reset (cell : Nat) : Shared σ E :=
  { s with
    cells := Function.update s.cells cell ((s.machineOf machine cell).reset (s.cells cell))
    log := Function.update s.log cell (s.log cell ++ [.reset]) }

/-- The end of `decide_should_retry` of a session in Python; an exception, and a result that
`cast` refuses, are logged. -/
def decisionOf : Except PyErr PyReply → RetryDecision
  | .ok (.decision decision) => decision.toRetryDecision
  | .ok .other => .dontRetry
  | .error _ => .dontRetry

/-- One action of Python code: what it replies, or the code that follows. -/
def runPython (code : K) (choice : Nat) : Option (Shared σ E × (K ⊕ Except PyErr PyReply)) :=
  match python.action code with
  | .reply result => some (s, .inr result)
  | .decide cell info next =>
    if cell < s.next then
      let (decision, s) := s.decide machine cell info.toRequestInfo
      some (s, .inl (next (.ofRetryDecision decision)))
    else none
  | .reset cell next => if cell < s.next then some (s.reset machine cell, .inl next) else none
  | .compute next => some (s, .inl (next choice))

def step : Pc E K → Nat → Option (Shared σ E × List (Pc E K))
  | .calling (.shared cell) info, _ =>
    if cell < s.next then
      let (decision, s) := s.decide machine cell info
      some (s, [.decided (.shared cell) info none decision])
    else none
  | .calling .fallthrough info, _ => some (s, [.decided .fallthrough info none .dontRetry])
  | .calling (.custom object) info, _ =>
    some (s, [.python object info (python.decideShouldRetry object (.ofRequestInfo view info))])
  | .python object info code, choice =>
    (runPython machine python s code choice).map fun
      | (s, .inl code) => (s, [.python object info code])
      | (s, .inr result) => (s, [.decided (.custom object) info (some result) (decisionOf result)])
  | .resetting (.shared cell), _ =>
    if cell < s.next then some (s.reset machine cell, [.finished]) else none
  | .resetting .fallthrough, _ => some (s, [.finished])
  | .resetting (.custom object), _ => some (s, [.script (python.reset object)])
  | .script code, choice =>
    (runPython machine python s code choice).map fun
      | (s, .inl code) => (s, [.script code])
      | (s, .inr _) => (s, [.finished])
  | _, _ => none

def env : Event E K → Option (Shared σ E × List (Pc E K))
  | .construct kind => some (s.construct machine kind, [])
  | .newSession result => some (s.newSession machine result, [])
  | .decide session info =>
    if session ∈ s.sessions then some (s, [.calling session info]) else none
  | .reset session => if session ∈ s.sessions then some (s, [.resetting session]) else none
  | .script code => some (s, [.script code])

def program : Program (Shared σ E) (Pc E K) Nat (Event E K) :=
  ⟨step machine view python, env machine⟩

/-- No session yet. -/
def start : Config (Shared σ E) (Pc E K) :=
  ⟨⟨fun _ => .default, fun _ => (machine .default).init, fun _ => [], 0, []⟩, 0⟩

end Code

/-- The calls of a log have got the decisions of one session that they were made on one after
another; it is left in the given state. -/
inductive Machine.History {σ E : Type} (m : Machine σ E) : List (Entry E) → σ → Prop
  | new : m.History [] m.init
  | decided {log state} (h : m.History log state) (info : RequestInfo E) :
    m.History (log ++ [.decided info (m.decide state info).1]) (m.decide state info).2
  | reset {log state} (h : m.History log state) : m.History (log ++ [.reset]) (m.reset state)

/-- The code that some code may come to, whatever the built-in sessions decide meanwhile. -/
inductive Python.Reaches {E P K : Type} (python : Python E P K) (first : K) : K → Prop
  | refl : python.Reaches first first
  | decide {code cell info next} (h : python.Reaches first code)
    (haction : python.action code = .decide cell info next) (decision : PyRetryDecision) :
    python.Reaches first (next decision)
  | reset {code cell next} (h : python.Reaches first code)
    (haction : python.action code = .reset cell next) : python.Reaches first next
  | compute {code next} (h : python.Reaches first code)
    (haction : python.action code = .compute next) (choice : Nat) :
    python.Reaches first (next choice)

/-- `decide_should_retry` of a session in Python may return this for a request. -/
def Python.Replies {E P K : Type} (python : Python E P K) (object : Nat)
    (info : PyRequestInfo E P) (result : Except PyErr PyReply) : Prop :=
  ∃ code, python.Reaches (python.decideShouldRetry object info) code ∧
    python.action code = .reply result

/-- A Python session that only passes on what a built-in session decides. -/
def Python.Forwards {E P K : Type} (python : Python E P K) (object cell : Nat) : Prop :=
  ∀ info, ∃ next, python.action (python.decideShouldRetry object info) = .decide cell info next ∧
    ∀ d, python.action (next d) = .reply (.ok (.decision d))

variable {σ E P K : Type} {machine : Kind → Machine σ E} {view : E → P} {python : Python E P K}
  {s s' : Shared σ E} {p : Pc E K} {q : List (Pc E K)} {T : Multiset (Pc E K)} {cell : Nat}
  {info : RequestInfo E} {decision : RetryDecision}

def Shared.Histories (machine : Kind → Machine σ E) (s : Shared σ E) : Prop :=
  ∀ cell, (s.machineOf machine cell).History (s.log cell) (s.cells cell)

def Shared.Logged (s : Shared σ E) (cell : Nat) (info : RequestInfo E)
    (decision : RetryDecision) : Prop :=
  cell < s.next ∧ .decided info decision ∈ s.log cell

/-- What is in a log stays there. -/
def Shared.Extends (s s' : Shared σ E) : Prop :=
  ∀ cell info decision, s.Logged cell info decision → s'.Logged cell info decision

theorem Shared.Extends.refl : s.Extends s := fun _ _ _ h => h

theorem Shared.Histories.construct (h : s.Histories machine) (kind : Kind) :
    (s.construct machine kind).Histories machine := by
  intro cell
  by_cases hc : cell = s.next
  · subst hc
    simpa [Shared.construct, machineOf] using Machine.History.new
  · simpa [Shared.construct, machineOf, Function.update_of_ne hc] using h cell

theorem Shared.extends_construct (machine : Kind → Machine σ E) (kind : Kind) :
    s.Extends (s.construct machine kind) := by
  rintro cell info decision ⟨hlt, hmem⟩
  have hc : cell ≠ s.next := by omega
  exact ⟨by simp only [Shared.construct]; omega, by simpa [Shared.construct, hc] using hmem⟩

theorem Shared.Histories.decide (h : s.Histories machine) (cell : Nat) (info : RequestInfo E) :
    (s.decide machine cell info).2.Histories machine := by
  intro cell'
  by_cases hc : cell' = cell
  · subst hc
    simpa [Shared.decide, machineOf] using (h cell').decided info
  · simpa [Shared.decide, machineOf, Function.update_of_ne hc] using h cell'

theorem Shared.extends_decide (cell : Nat) (info : RequestInfo E) :
    s.Extends (s.decide machine cell info).2 := by
  rintro cell' info' decision ⟨hlt, hmem⟩
  refine ⟨hlt, ?_⟩
  by_cases hc : cell' = cell
  · subst hc
    simpa [Shared.decide] using .inl hmem
  · simpa [Shared.decide, Function.update_of_ne hc] using hmem

theorem Shared.logged_decide (hcell : cell < s.next) (info : RequestInfo E) :
    (s.decide machine cell info).2.Logged cell info (s.decide machine cell info).1 :=
  ⟨hcell, by simp [Shared.decide]⟩

theorem Shared.Histories.reset (h : s.Histories machine) (cell : Nat) :
    (s.reset machine cell).Histories machine := by
  intro cell'
  by_cases hc : cell' = cell
  · subst hc
    simpa [Shared.reset, machineOf] using (h cell').reset
  · simpa [Shared.reset, machineOf, Function.update_of_ne hc] using h cell'

theorem Shared.extends_reset (cell : Nat) : s.Extends (s.reset machine cell) := by
  rintro cell' info' decision ⟨hlt, hmem⟩
  refine ⟨hlt, ?_⟩
  by_cases hc : cell' = cell
  · subst hc
    simpa [Shared.reset] using hmem
  · simpa [Shared.reset, Function.update_of_ne hc] using hmem

/-- What a thread knows of the logs. -/
def Pc.Knows (python : Python E P K) (view : E → P) (s : Shared σ E) : Pc E K → Prop
  | .decided (.shared cell) info _ decision => s.Logged cell info decision
  | .decided .fallthrough _ _ decision => decision = .dontRetry
  | .decided (.custom object) info answer decision =>
    (∃ result, answer = some result ∧ python.Replies object (.ofRequestInfo view info) result ∧
      decision = decisionOf result) ∧
      ∀ cell, python.Forwards object cell → s.Logged cell info decision
  | .python object info code =>
    python.Reaches (python.decideShouldRetry object (.ofRequestInfo view info)) code ∧
      ∀ cell, python.Forwards object cell →
        (∃ next, python.action code = .decide cell (.ofRequestInfo view info) next ∧
          ∀ d, python.action (next d) = .reply (.ok (.decision d))) ∨
        ∃ decision, python.action code = .reply (.ok (.decision (.ofRetryDecision decision))) ∧
          s.Logged cell info decision
  | _ => True

theorem Pc.Knows.mono (h : p.Knows python view s) (hext : s.Extends s') :
    p.Knows python view s' := by
  cases p with
  | decided session info answer decision =>
    cases session with
    | shared cell => exact hext _ _ _ h
    | fallthrough => exact h
    | custom object => exact ⟨h.1, fun cell hf => hext _ _ _ (h.2 cell hf)⟩
  | python object info code =>
    refine ⟨h.1, fun cell hf => ?_⟩
    rcases h.2 cell hf with hnext | ⟨decision, hreply, hlogged⟩
    · exact .inl hnext
    · exact .inr ⟨decision, hreply, hext _ _ _ hlogged⟩
  | _ => trivial

theorem decisionOf_decision {result : Except PyErr PyReply} (d : PyRetryDecision)
    (h : result = .ok (.decision d)) : d = .ofRetryDecision (decisionOf result) := by
  subst h
  exact (PyRetryDecision.ofRetryDecision_toRetryDecision d).symm

theorem decisionOf_other {result : Except PyErr PyReply} (h : ∀ d, result ≠ .ok (.decision d)) :
    decisionOf result = .dontRetry := by
  match result with
  | .ok (.decision d) => exact absurd rfl (h d)
  | .ok .other | .error _ => rfl

/-- What a step does to the logs. -/
structure Keeps (machine : Kind → Machine σ E) (s s' : Shared σ E) : Prop where
  histories : s.Histories machine → s'.Histories machine
  extended : s.Extends s'

theorem Keeps.refl : Keeps machine s s := ⟨id, .refl⟩

theorem Keeps.decide (cell : Nat) (info : RequestInfo E) :
    Keeps machine s (s.decide machine cell info).2 :=
  ⟨fun h => h.decide cell info, Shared.extends_decide cell info⟩

theorem Keeps.reset (cell : Nat) : Keeps machine s (s.reset machine cell) :=
  ⟨fun h => h.reset cell, Shared.extends_reset cell⟩

theorem runPython_keeps {code : K} {choice : Nat} {result : K ⊕ Except PyErr PyReply}
    (h : runPython machine python s code choice = some (s', result)) : Keeps machine s s' := by
  unfold runPython at h
  split at h
  · cases h
    exact .refl
  · split at h
    · cases h
      exact .decide _ _
    · cases h
  · split at h
    · cases h
      exact .reset _
    · cases h
  · cases h
    exact .refl

theorem runPython_reply {code : K} {choice : Nat} {result : Except PyErr PyReply}
    (h : runPython machine python s code choice = some (s', .inr result)) :
    s' = s ∧ python.action code = .reply result := by
  unfold runPython at h
  split at h
  · rename_i hreply
    cases h
    exact ⟨rfl, hreply⟩
  · split at h <;> cases h
  · split at h <;> cases h
  · cases h

theorem runPython_reaches {code first code' : K} {choice : Nat}
    (hfirst : python.Reaches first code)
    (h : runPython machine python s code choice = some (s', .inl code')) :
    python.Reaches first code' := by
  unfold runPython at h
  split at h
  · cases h
  · rename_i haction
    split at h
    · cases h
      exact hfirst.decide haction _
    · cases h
  · rename_i haction
    split at h
    · cases h
      exact hfirst.reset haction
    · cases h
  · rename_i haction
    cases h
    exact hfirst.compute haction choice

theorem runPython_decide {code : K} {choice : Nat} {info : PyRequestInfo E P}
    {next : PyRetryDecision → K} {result : K ⊕ Except PyErr PyReply}
    (haction : python.action code = .decide cell info next)
    (h : runPython machine python s code choice = some (s', result)) :
    ∃ decision, result = .inl (next (.ofRetryDecision decision)) ∧
      s'.Logged cell info.toRequestInfo decision := by
  unfold runPython at h
  rw [haction] at h
  simp only at h
  split at h
  · rename_i hcell
    cases h
    exact ⟨_, rfl, Shared.logged_decide hcell _⟩
  · cases h

/-- The code of a forwarding session asks the built-in session and returns its decision. -/
theorem python_knows {object choice : Nat} {code : K} {result : K ⊕ Except PyErr PyReply}
    (hp : (Pc.python object info code).Knows python view s)
    (h : runPython machine python s code choice = some (s', result)) :
    match result with
    | .inl code => (Pc.python object info code).Knows python view s'
    | .inr reply =>
      (Pc.decided (.custom object) info (some reply) (decisionOf reply)).Knows python view s' := by
  cases result with
  | inl code' =>
    refine ⟨runPython_reaches hp.1 h, fun cell hf => ?_⟩
    rcases hp.2 cell hf with ⟨next, haction, hreplies⟩ | ⟨decision, haction, -⟩
    · obtain ⟨decision, hcode, hlogged⟩ := runPython_decide haction h
      cases hcode
      rw [PyRequestInfo.toRequestInfo_ofRequestInfo] at hlogged
      exact .inr ⟨decision, hreplies _, hlogged⟩
    · simp [runPython, haction] at h
  | inr reply =>
    obtain ⟨rfl, hreply⟩ := runPython_reply h
    refine ⟨⟨reply, rfl, ⟨code, hp.1, hreply⟩, rfl⟩, fun cell hf => ?_⟩
    rcases hp.2 cell hf with ⟨next, haction, -⟩ | ⟨decision, haction, hlogged⟩
    · simp [haction] at hreply
    · obtain rfl : reply = .ok (.decision (.ofRetryDecision decision)) := by
        simpa [haction] using hreply.symm
      simpa [decisionOf] using hlogged

/-- The step of a thread keeps the logs, and the thread knows what it should afterwards. -/
theorem step_keeps {choice : Nat} (hp : p.Knows python view s)
    (h : step machine view python s p choice = some (s', q)) :
    Keeps machine s s' ∧ ∀ p' ∈ q, p'.Knows python view s' := by
  cases p with
  | calling session info =>
    cases session with
    | shared cell =>
      simp only [step] at h
      split at h
      · rename_i hcell
        cases h
        exact ⟨.decide cell info, by simpa [Pc.Knows] using Shared.logged_decide hcell info⟩
      · cases h
    | fallthrough =>
      cases h
      exact ⟨.refl, by simp [Pc.Knows]⟩
    | custom object =>
      cases h
      refine ⟨.refl, fun p' hp' => ?_⟩
      obtain rfl := List.mem_singleton.mp hp'
      exact ⟨.refl, fun cell hf => .inl (hf _)⟩
  | python object info code =>
    obtain ⟨⟨s₁, result⟩, hrun, heq⟩ := Option.map_eq_some_iff.mp h
    have hknows := python_knows hp hrun
    cases result with
    | inl code' =>
      cases heq
      exact ⟨runPython_keeps hrun, by simpa using hknows⟩
    | inr reply =>
      cases heq
      exact ⟨runPython_keeps hrun, by simpa using hknows⟩
  | resetting session =>
    cases session with
    | shared cell =>
      simp only [step] at h
      split at h
      · cases h
        exact ⟨.reset cell, by simp [Pc.Knows]⟩
      · cases h
    | fallthrough =>
      cases h
      exact ⟨.refl, by simp [Pc.Knows]⟩
    | custom object =>
      cases h
      exact ⟨.refl, by simp [Pc.Knows]⟩
  | script code =>
    obtain ⟨⟨s₁, result⟩, hrun, heq⟩ := Option.map_eq_some_iff.mp h
    cases result with
    | inl code' =>
      cases heq
      exact ⟨runPython_keeps hrun, by simp [Pc.Knows]⟩
    | inr reply =>
      cases heq
      exact ⟨runPython_keeps hrun, by simp [Pc.Knows]⟩
  | decided session info answer decision => cases h
  | finished => cases h

theorem env_keeps {k : Event E K} (h : env machine s k = some (s', q)) :
    Keeps machine s s' ∧ ∀ p' ∈ q, p'.Knows python view s' := by
  have hconstruct (kind : Kind) (sessions : List Session) : Keeps machine s
      { s.construct machine kind with sessions := sessions } :=
    ⟨fun h => h.construct kind, Shared.extends_construct machine kind⟩
  cases k with
  | construct kind =>
    cases h
    exact ⟨hconstruct kind _, by simp⟩
  | newSession result =>
    cases h
    refine ⟨?_, by simp⟩
    match result with
    | .ok (.builtin cell) | .ok .fallthrough | .ok (.other object) => exact ⟨id, .refl⟩
    | .error err => exact hconstruct .default _
  | decide session info | reset session =>
    simp only [env] at h
    split at h
    · cases h
      exact ⟨.refl, by simp [Pc.Knows]⟩
    · cases h
  | script code =>
    cases h
    exact ⟨.refl, by simp [Pc.Knows]⟩

structure Linear (machine : Kind → Machine σ E) (view : E → P) (python : Python E P K)
    (c : Config (Shared σ E) (Pc E K)) : Prop where
  histories : c.shared.Histories machine
  knows : ∀ p ∈ c.threads, p.Knows python view c.shared

theorem Linear.next (h : Linear machine view python ⟨s, T⟩)
    (hs : Keeps machine s s' ∧ ∀ p' ∈ q, p'.Knows python view s') :
    Linear machine view python ⟨s', (q : Multiset (Pc E K)) + T⟩ := by
  refine ⟨hs.1.histories h.histories, fun p hp => ?_⟩
  rcases Multiset.mem_add.mp hp with hnew | hold
  · exact hs.2 p hnew
  · exact (h.knows p hold).mono hs.1.extended

theorem linear_preserves :
    (program machine view python).Preserves (fun _ _ => True) (Linear machine view python) where
  thread _ h hs :=
    Linear.next ⟨h.histories, fun t ht => h.knows t (Multiset.mem_cons_of_mem ht)⟩
      (step_keeps (h.knows _ (Multiset.mem_cons_self _ _)) hs)
  env _ h hs := h.next (env_keeps hs)

variable [DecidableEq E] [DecidableEq K]

/-- A session that retries once. -/
def onceMachine : Machine Bool Unit :=
  ⟨false, fun used _ => (if used then .dontRetry else .retryNextTarget none, true), fun _ => false⟩

/-- Sessions in Python: one asks the first built-in session and returns its decision, the others
ask it and raise. -/
def askers : Python Unit Unit (Nat × (PyRequestInfo Unit Unit ⊕ PyRetryDecision)) where
  action
    | (object, .inl info) => .decide 0 info fun decision => (object, .inr decision)
    | (object, .inr decision) =>
      .reply (if object = 5 then .ok (.decision decision) else .error panickedErr)
  decideShouldRetry object info := (object, .inl info)
  reset object := (object, .inr .dontRetry)

end RetrySessions

end ScyllaDriver
