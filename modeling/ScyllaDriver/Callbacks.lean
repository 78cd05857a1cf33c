import Mathlib.Data.Multiset.Basic

/-! Python results as the futures see them, and the callbacks registered on a
`DriverFuture` or on a legacy `ResponseFuture`. A Python object is its identity. -/

namespace ScyllaDriver

abbrev PyObj := Nat

inductive ErrClass where
  | runtimeError
  | timeoutError
  | futureCancelledError
  | scyllaError
  | queryExhausted
  | internalDriverError
  | rowFactoryError
  | rowIterationError
  | typeError
  | keyError
  | other
  deriving DecidableEq, Repr

/-- An exception instance. -/
structure PyErr where
  cls : ErrClass
  message : String
  obj : PyObj
  deriving DecidableEq, Repr

abbrev PyResult := Except PyErr PyObj

/-- `err.is_instance_of::<FutureCancelledError>` on an error result. -/
def isCancelled : PyResult → Bool
  | .error e => e.cls = .futureCancelledError
  | .ok _ => false

/-- The instance is made afresh at every use; no run that does not panic shows one. -/
def panickedErr : PyErr :=
  ⟨.runtimeError, "internal driver error: a panic left this future unusable; " ++
    "this is a bug in the scylla driver, please report it", 0⟩

def droppedErr (obj : PyObj) : PyErr :=
  ⟨.futureCancelledError, "future was dropped before completing, likely because the " ++
    "driver runtime shut down", obj⟩

def closedErr (obj : PyObj) : PyErr := ⟨.runtimeError, "future was closed", obj⟩

def cancelErr (obj : PyObj) : PyErr := ⟨.futureCancelledError, "future was cancelled", obj⟩

/-- A callable with the registration it came from, as one callable may be
registered several times. -/
structure Callback where
  callable : PyObj
  registration : Nat
  deriving DecidableEq, Repr

inductive CallbackKind where
  | success (callback : Callback)
  | error (callback : Callback)
  | done (callback : Callback) (future : PyObj)
  deriving DecidableEq, Repr

def CallbackKind.callback : CallbackKind → Callback
  | .success cb | .error cb | .done cb _ => cb

/-- The argument `CallbackKind::invoke` calls the callable with, `none` if the
variant does not match the outcome. What the callable raises is swallowed. -/
def CallbackKind.invoke : CallbackKind → PyResult → Option PyObj
  | .success _, .ok value => some value
  | .error _, .error e => some e.obj
  | .done _ future, _ => some future
  | _, _ => none

/-- A legacy callback, with the registration it came from. -/
structure LegacyCallback where
  callable : PyObj
  args : List PyObj
  kwargs : Option PyObj
  registration : Nat
  deriving DecidableEq, Repr

structure PyCall where
  callable : PyObj
  args : List PyObj
  kwargs : Option PyObj
  deriving DecidableEq, Repr

/-- The call `LegacyCallback::invoke` makes. What it raises is swallowed. -/
def LegacyCallback.invoke (callback : LegacyCallback) (value : PyObj) : PyCall :=
  ⟨callback.callable, value :: callback.args, callback.kwargs⟩

/-- Which list a legacy callback goes on, and which outcome it fires for. -/
inductive Delivery where
  | callbacks
  | errbacks
  deriving DecidableEq, Repr

def Delivery.of {α : Type*} : Except PyErr α → Delivery
  | .ok _ => .callbacks
  | .error _ => .errbacks

/-- The lists are shared copy-on-write through an `Arc`, so a copy never sees a
change made to another: a value. -/
structure Callbacks where
  callbacks : List LegacyCallback
  errbacks : List LegacyCallback
  deriving DecidableEq, Repr

namespace Callbacks

def empty : Callbacks := ⟨[], []⟩

def list (cbs : Callbacks) : Delivery → List LegacyCallback
  | .callbacks => cbs.callbacks
  | .errbacks => cbs.errbacks

def isEmptyFor (cbs : Callbacks) (delivery : Delivery) : Bool := (cbs.list delivery).isEmpty

def push (cbs : Callbacks) (delivery : Delivery) (callback : LegacyCallback) : Callbacks :=
  match delivery with
  | .callbacks => { cbs with callbacks := cbs.callbacks ++ [callback] }
  | .errbacks => { cbs with errbacks := cbs.errbacks ++ [callback] }

/-- An outcome not known yet can still go either way. -/
def canFire (cbs : Callbacks) : Option Delivery → Bool
  | some delivery => !cbs.isEmptyFor delivery
  | none => !cbs.isEmptyFor .callbacks || !cbs.isEmptyFor .errbacks

/-- The callbacks to fire for a page settled with `outcome`. -/
def forOutcome (cbs : Callbacks) (outcome : Option Delivery) : Option Callbacks :=
  if cbs.canFire outcome then some cbs else none

@[simp]
theorem list_empty (delivery : Delivery) : empty.list delivery = [] := by
  cases delivery <;> rfl

theorem list_push (cbs : Callbacks) (delivery delivery' : Delivery) (callback : LegacyCallback) :
    (cbs.push delivery callback).list delivery' =
      cbs.list delivery' ++ if delivery = delivery' then [callback] else [] := by
  cases delivery <;> cases delivery' <;> simp [push, list]

theorem forOutcome_eq_some {cbs unfired : Callbacks} {outcome : Option Delivery}
    (h : cbs.forOutcome outcome = some unfired) : unfired = cbs := by
  simp only [forOutcome] at h
  split at h
  · exact (Option.some.inj h).symm
  · cases h

theorem forOutcome_eq_none {cbs : Callbacks} {outcome : Option Delivery} {delivery : Delivery}
    (h : cbs.forOutcome outcome = none) (hd : ∀ d, outcome = some d → d = delivery) :
    cbs.list delivery = [] := by
  cases outcome with
  | some d =>
    obtain rfl := hd d rfl
    simpa [forOutcome, canFire, isEmptyFor] using h
  | none =>
    have hboth : cbs.callbacks = [] ∧ cbs.errbacks = [] := by
      simpa [forOutcome, canFire, isEmptyFor, list] using h
    cases delivery
    · exact hboth.1
    · exact hboth.2

end Callbacks

end ScyllaDriver
