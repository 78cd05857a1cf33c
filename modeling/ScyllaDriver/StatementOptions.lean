import ScyllaDriver.SessionConfig

/-! The configuration that `Statement`, `PreparedStatement` and `Batch` share: what the Rust
driver has of it, and the flags for what it cannot tell apart. -/

namespace ScyllaDriver

inductive MaybeUnset (α : Type) where
  | unset
  | set (value : α)
  deriving DecidableEq, Repr

def MaybeUnset.toOption {α : Type} : MaybeUnset α → Option α
  | .set value => some value
  | .unset => none

/-- `Duration::MAX`, which stands for no timeout. -/
def Duration.max : Duration := (2 ^ 64 - 1) * 10 ^ 9 + 999999999

/-- What the Rust driver knows of a statement. -/
structure StatementConfig where
  consistency : Option Consistency
  serialConsistency : MaybeUnset (Option SerialConsistency)
  requestTimeout : Option Duration
  tracing : Bool
  isIdempotent : Bool
  executionProfileHandle : Option ExecutionProfile
  /-- A policy is known by the Python object it was extracted from. -/
  loadBalancingPolicy : Option Nat
  retryPolicy : Option Nat
  deriving DecidableEq, Repr

/-- What Python sees of a statement's policies, profile and row factory. -/
structure PyStatementSettings (F : Type) where
  executionProfile : Option (PyExecutionProfile F)
  loadBalancingPolicy : Option Nat
  retryPolicy : Option Nat
  rowFactory : Option F

/-- The statement's own row factory, else the one of its execution profile. -/
def PyStatementSettings.askedRowFactory {F : Type} (settings : PyStatementSettings F) : Option F :=
  settings.rowFactory.or (settings.executionProfile.bind PyExecutionProfile.rowFactory)

/-- A batch has no page size and never sets one. -/
structure StatementOptions (F : Type) where
  inner : StatementConfig
  pageSize : Int
  isSerialConsistencySet : Bool
  isPageSizeSet : Bool
  settings : PyStatementSettings F

inductive DriverStatementConfigError where
  | invalidRequestTimeout
  | nonPositivePageSize (value : Int)
  deriving DecidableEq, Repr

/-- The setters of a statement. The seconds of a timeout are those that Python gives, or what
`Duration::try_from_secs_f64` makes of them. -/
inductive Setting (F : Type) (S : Type := Option Duration) where
  | executionProfile (profile : Option (PyExecutionProfile F))
  | loadBalancingPolicy (policy : Option Nat)
  | retryPolicy (policy : Option Nat)
  | rowFactory (factory : Option F)
  | consistency (c : MaybeUnset Consistency)
  | serialConsistency (sc : MaybeUnset (Option SerialConsistency))
  | requestTimeout (secs : MaybeUnset (Option S))
  | isIdempotent (isIdempotent : Bool)
  | tracing (tracing : Bool)
  | pageSize (size : Int)

namespace StatementOptions

variable {F : Type} {driverPageSize : Int}

def new (driverPageSize : Int) : StatementOptions F where
  inner := ⟨none, .unset, none, false, false, none, none, none⟩
  pageSize := driverPageSize
  isSerialConsistencySet := false
  isPageSizeSet := false
  settings := ⟨none, none, none, none⟩

def setExecutionProfile (options : StatementOptions F) (profile : Option (PyExecutionProfile F)) :
    StatementOptions F :=
  { options with
    inner := { options.inner with executionProfileHandle := profile.map PyExecutionProfile.inner }
    settings := { options.settings with executionProfile := profile } }

def setLoadBalancingPolicy (options : StatementOptions F) (policy : Option Nat) :
    StatementOptions F :=
  { options with
    inner := { options.inner with loadBalancingPolicy := policy }
    settings := { options.settings with loadBalancingPolicy := policy } }

def setRetryPolicy (options : StatementOptions F) (policy : Option Nat) : StatementOptions F :=
  { options with
    inner := { options.inner with retryPolicy := policy }
    settings := { options.settings with retryPolicy := policy } }

def setSerialConsistency (options : StatementOptions F) :
    MaybeUnset (Option SerialConsistency) → StatementOptions F
  | .set sc =>
    { options with inner := { options.inner with serialConsistency := .set sc },
                   isSerialConsistencySet := true }
  | .unset =>
    { options with inner := { options.inner with serialConsistency := .unset },
                   isSerialConsistencySet := false }

def setConsistency (options : StatementOptions F) : MaybeUnset Consistency → StatementOptions F
  | .set c => { options with inner := { options.inner with consistency := some c } }
  | .unset => { options with inner := { options.inner with consistency := none } }

def setRequestTimeout (options : StatementOptions F) :
    MaybeUnset (Option (Option Duration)) → Except DriverStatementConfigError (StatementOptions F)
  | .unset => .ok { options with inner := { options.inner with requestTimeout := none } }
  | .set none =>
    .ok { options with inner := { options.inner with requestTimeout := some Duration.max } }
  | .set (some (some duration)) =>
    .ok { options with inner := { options.inner with requestTimeout := some duration } }
  | .set (some none) => .error .invalidRequestTimeout

def checkPageSize (pageSize : Int) : Except DriverStatementConfigError Int :=
  if pageSize ≤ 0 then .error (.nonPositivePageSize pageSize) else .ok pageSize

def setPageSize (options : StatementOptions F) (pageSize : Int) :
    Except DriverStatementConfigError (StatementOptions F) :=
  (checkPageSize pageSize).map fun pageSize =>
    { options with pageSize := pageSize, isPageSizeSet := true }

def set (options : StatementOptions F) :
    Setting F → Except DriverStatementConfigError (StatementOptions F)
  | .executionProfile profile => .ok (options.setExecutionProfile profile)
  | .loadBalancingPolicy policy => .ok (options.setLoadBalancingPolicy policy)
  | .retryPolicy policy => .ok (options.setRetryPolicy policy)
  | .rowFactory factory =>
    .ok { options with settings := { options.settings with rowFactory := factory } }
  | .consistency c => .ok (options.setConsistency c)
  | .serialConsistency sc => .ok (options.setSerialConsistency sc)
  | .requestTimeout secs => options.setRequestTimeout secs
  | .isIdempotent isIdempotent =>
    .ok { options with inner := { options.inner with isIdempotent := isIdempotent } }
  | .tracing tracing => .ok { options with inner := { options.inner with tracing := tracing } }
  | .pageSize size => options.setPageSize size

/-- The flags say what was set, and the profile and the policies are those Python sees. -/
structure Valid (driverPageSize : Int) (options : StatementOptions F) : Prop where
  serial : options.isSerialConsistencySet = true ↔ options.inner.serialConsistency ≠ .unset
  page : options.isPageSizeSet = false → options.pageSize = driverPageSize
  profile : options.inner.executionProfileHandle =
    options.settings.executionProfile.map PyExecutionProfile.inner
  loadBalancing : options.inner.loadBalancingPolicy = options.settings.loadBalancingPolicy
  retry : options.inner.retryPolicy = options.settings.retryPolicy

theorem valid_new : Valid driverPageSize (new driverPageSize : StatementOptions F) :=
  ⟨by simp [new], fun _ => rfl, rfl, rfl, rfl⟩

theorem Valid.set {options options' : StatementOptions F} (h : Valid driverPageSize options)
    {setting : Setting F} (hset : options.set setting = .ok options') :
    Valid driverPageSize options' := by
  cases setting with
  | executionProfile profile => cases hset; exact { h with profile := rfl }
  | loadBalancingPolicy policy => cases hset; exact { h with loadBalancing := rfl }
  | retryPolicy policy => cases hset; exact { h with retry := rfl }
  | rowFactory factory | isIdempotent isIdempotent | tracing tracing =>
    cases hset
    exact ⟨h.serial, h.page, h.profile, h.loadBalancing, h.retry⟩
  | consistency c =>
    cases hset
    cases c <;> exact ⟨h.serial, h.page, h.profile, h.loadBalancing, h.retry⟩
  | serialConsistency sc =>
    cases hset
    cases sc <;>
      exact ⟨by simp [setSerialConsistency], h.page, h.profile, h.loadBalancing, h.retry⟩
  | requestTimeout secs =>
    simp only [StatementOptions.set, setRequestTimeout] at hset
    split at hset <;> cases hset <;>
      exact ⟨h.serial, h.page, h.profile, h.loadBalancing, h.retry⟩
  | pageSize size =>
    obtain ⟨size', _, rfl⟩ : ∃ size', checkPageSize size = .ok size' ∧
        { options with pageSize := size', isPageSizeSet := true } = options' := by
      simp only [StatementOptions.set, setPageSize] at hset
      cases hcheck : checkPageSize size with
      | error error => simp [hcheck, Except.map] at hset
      | ok size' => exact ⟨size', rfl, by simpa [hcheck, Except.map] using hset⟩
    exact ⟨h.serial, nofun, h.profile, h.loadBalancing, h.retry⟩

end StatementOptions

/-- The configuration of a Python object. -/
abbrev PyStatementOptions (F : Type) (driverPageSize : Int) :=
  { options : StatementOptions F // options.Valid driverPageSize }

def PyStatementOptions.set {F : Type} {driverPageSize : Int}
    (options : PyStatementOptions F driverPageSize) (setting : Setting F) :
    Except DriverStatementConfigError (PyStatementOptions F driverPageSize) :=
  match hset : options.1.set setting with
  | .ok options' => .ok ⟨options', options.2.set hset⟩
  | .error error => .error error

end ScyllaDriver
