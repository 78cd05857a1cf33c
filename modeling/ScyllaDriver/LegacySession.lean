import Mathlib.Logic.Relation
import ScyllaDriver.StatementOptions

/-! `LegacySession`: the session defaults, and how a request is configured from them, from its
statement and from the arguments of `execute_async`. -/

namespace ScyllaDriver

namespace Legacy

variable {F V : Type} {driverPageSize : Int}

inductive PyError where
  | valueError (message : String)
  | typeError (message : String)
  | notImplementedError (message : String)
  | attributeError
  | scyllaError (message : String)
  | statementConfigError (error : DriverStatementConfigError)
  | serializationFailed
  | pagingStateMustBeNoneForUnpagedExecution
  deriving DecidableEq, Repr

/-- The `timeout` argument, and the session's default of it. -/
inductive RequestTimeout where
  | default
  | never
  | after (duration : Duration)
  deriving DecidableEq, Repr

def RequestTimeout.duration : RequestTimeout → Option Duration
  | .default => none
  | .never => some Duration.max
  | .after duration => some duration

inductive FetchSize where
  | driver
  | rows (size : Int)
  | unpaged
  deriving DecidableEq, Repr

structure LegacyDefaults (F : Type) where
  rowFactory : Option F
  timeout : RequestTimeout
  consistency : Option Consistency
  serialConsistency : Option (Option SerialConsistency)

def LegacyDefaults.default : LegacyDefaults F := ⟨none, .default, none, none⟩

inductive ConfigMode (F : Type) where
  | uncommitted
  | legacy (defaults : LegacyDefaults F)
  | profiles

def ConfigMode.legacyDefaults : ConfigMode F → Option (LegacyDefaults F)
  | .legacy defaults => some defaults
  | .uncommitted => none
  | .profiles => none

/-- `legacy_defaults_mut`: `set` is what the caller does to the defaults. -/
def ConfigMode.modify (mode : ConfigMode F) (name : String)
    (set : LegacyDefaults F → LegacyDefaults F) : Except PyError (ConfigMode F) :=
  match mode with
  | .legacy defaults => .ok (.legacy (set defaults))
  | .uncommitted => .ok (.legacy (set .default))
  | .profiles => .error (.valueError ("Cannot set Session." ++ name ++
      " while using Configuration Profiles. Set this in a profile instead."))

structure SessionSettings (F : Type) where
  fetchSize : FetchSize
  mode : ConfigMode F

def SessionSettings.new (usesProfiles : Bool) : SessionSettings F :=
  ⟨.driver, if usesProfiles then .profiles else .uncommitted⟩

/-- A `Statement`, a `PreparedStatement` or a string, with what the session needs of it. -/
structure ExecutableStatement (F : Type) where
  prepared : Bool
  config : StatementConfig
  pageSize : Int
  rowFactory : Option F
  isPageSizeSet : Bool
  isSerialConsistencySet : Bool

inductive LegacyQuery (F : Type) where
  | batch (options : StatementOptions F)
  | statement (executable : ExecutableStatement F)

/-- What `execute_async` is called with. -/
inductive PyQuery (F : Type) (driverPageSize : Int) where
  | batch (options : PyStatementOptions F driverPageSize)
  | prepared (options : PyStatementOptions F driverPageSize)
  | statement (options : PyStatementOptions F driverPageSize)
  | text

def ExecutableStatement.ofOptions (prepared : Bool) (options : StatementOptions F) :
    ExecutableStatement F where
  prepared := prepared
  config := options.inner
  pageSize := options.pageSize
  rowFactory := options.settings.askedRowFactory
  isPageSizeSet := options.isPageSizeSet
  isSerialConsistencySet := options.isSerialConsistencySet

def LegacyQuery.extract : PyQuery F driverPageSize → LegacyQuery F
  | .batch options => .batch options.1
  | .prepared options => .statement (.ofOptions true options.1)
  | .statement options => .statement (.ofOptions false options.1)
  | .text => .statement (.ofOptions false (.new driverPageSize))

/-- The settings of the object itself; a string has none. -/
def PyQuery.own : PyQuery F driverPageSize → PyStatementOptions F driverPageSize
  | .batch options => options
  | .prepared options => options
  | .statement options => options
  | .text => ⟨.new driverPageSize, StatementOptions.valid_new⟩

/-- The setters of the object. A string has none, and a batch no page size. -/
def PyQuery.set : PyQuery F driverPageSize → Setting F →
    Except PyError (PyQuery F driverPageSize)
  | .batch _, .pageSize _ => .error .attributeError
  | .batch options, setting => ((options.set setting).map .batch).mapError .statementConfigError
  | .prepared options, setting =>
    ((options.set setting).map .prepared).mapError .statementConfigError
  | .statement options, setting =>
    ((options.set setting).map .statement).mapError .statementConfigError
  | .text, _ => .error .attributeError

namespace LegacyQuery

def config : LegacyQuery F → StatementConfig
  | .batch options => options.inner
  | .statement executable => executable.config

def mapConfig (set : StatementConfig → StatementConfig) : LegacyQuery F → LegacyQuery F
  | .batch options => .batch { options with inner := set options.inner }
  | .statement executable => .statement { executable with config := set executable.config }

def setRequestTimeout (query : LegacyQuery F) (timeout : Duration) : LegacyQuery F :=
  query.mapConfig fun config => { config with requestTimeout := some timeout }

def setTracing (query : LegacyQuery F) (tracing : Bool) : LegacyQuery F :=
  query.mapConfig fun config => { config with tracing := tracing }

def setExecutionProfileHandle (query : LegacyQuery F) (handle : ExecutionProfile) :
    LegacyQuery F :=
  query.mapConfig fun config => { config with executionProfileHandle := some handle }

def setTarget (query : LegacyQuery F) (target : Nat) : LegacyQuery F :=
  query.mapConfig fun config => { config with loadBalancingPolicy := some target }

def setConsistency (query : LegacyQuery F) (consistency : Consistency) : LegacyQuery F :=
  query.mapConfig fun config => { config with consistency := some consistency }

def setSerialConsistency (query : LegacyQuery F) (serial : Option SerialConsistency) :
    LegacyQuery F :=
  match query with
  | .batch options =>
    .batch { options with inner := { options.inner with serialConsistency := .set serial },
                          isSerialConsistencySet := true }
  | .statement executable =>
    .statement { executable with
      config := { executable.config with serialConsistency := .set serial },
      isSerialConsistencySet := true }

def isSerialConsistencySet : LegacyQuery F → Bool
  | .batch options => options.isSerialConsistencySet
  | .statement executable => executable.isSerialConsistencySet

def isPageSizeSet : LegacyQuery F → Bool
  | .batch _ => false
  | .statement executable => executable.isPageSizeSet

def applyDefaultPageSize (query : LegacyQuery F) (size : Int) : LegacyQuery F :=
  match query with
  | .statement executable =>
    if executable.isPageSizeSet then query else .statement { executable with pageSize := size }
  | .batch _ => query

def askedRowFactory : LegacyQuery F → Option F
  | .batch options => options.settings.askedRowFactory
  | .statement executable => executable.rowFactory

end LegacyQuery

namespace LegacyDefaults

def applyTimeout (defaults : LegacyDefaults F) (query : LegacyQuery F) : LegacyQuery F :=
  match defaults.timeout.duration, query.config.requestTimeout with
  | some duration, none => query.setRequestTimeout duration
  | _, _ => query

def applyConsistency (defaults : LegacyDefaults F) (query : LegacyQuery F) : LegacyQuery F :=
  match defaults.consistency, query.config.consistency with
  | some consistency, none => query.setConsistency consistency
  | _, _ => query

def applySerialConsistency (defaults : LegacyDefaults F) (query : LegacyQuery F) :
    LegacyQuery F :=
  match defaults.serialConsistency, query.isSerialConsistencySet with
  | some serial, false => query.setSerialConsistency serial
  | _, _ => query

/-- Sets each default that the query does not set itself. -/
def applyDefaults (defaults : LegacyDefaults F) (query : LegacyQuery F) : LegacyQuery F :=
  defaults.applySerialConsistency (defaults.applyConsistency (defaults.applyTimeout query))

end LegacyDefaults

/-- The configured query, the row factory and whether the request pages. -/
def SessionSettings.configureRequest (settings : SessionSettings F) (query : LegacyQuery F)
    (profile : Option (PyExecutionProfile F)) :
    Except PyError (LegacyQuery F × Option F × Bool) := do
  let (query, factory) ← match settings.mode, profile with
    | .legacy _, some _ => .error (.valueError
        "Cannot specify execution_profile while using legacy parameters.")
    | .legacy defaults, none => .ok (defaults.applyDefaults query, defaults.rowFactory)
    | _, some profile => .ok (query.setExecutionProfileHandle profile.inner, profile.rowFactory)
    | _, none => .ok (query, none)
  match settings.fetchSize with
  | .driver => return (query, factory, true)
  | .rows size => return (query.applyDefaultPageSize size, factory, true)
  | .unpaged => return (query, factory, query.isPageSizeSet)

structure SessionCore (F V : Type) where
  /-- The default execution profile of the session. -/
  defaultProfile : ExecutionProfile
  defaultRowFactory : Option F
  namedTuple : F
  /-- Whether the values of a prepared statement serialize. -/
  serializes : V → Bool
  noValues : V

def SessionCore.chooseRowFactory (core : SessionCore F V) (explicit statement : Option F) : F :=
  ((explicit.or statement).or core.defaultRowFactory).getD core.namedTuple

/-- The execution profile of the request: its own, else the session's. -/
def SessionCore.profile (core : SessionCore F V) (config : StatementConfig) : ExecutionProfile :=
  config.executionProfileHandle.getD core.defaultProfile

def SessionCore.effectiveTimeout (core : SessionCore F V) (query : LegacyQuery F) :
    Option Duration :=
  (query.config.requestTimeout.or (core.profile query.config).requestTimeout).filter
    fun timeout => timeout ≠ Duration.max

/-- The arguments of `execute_async`; a query is named by the number of its object. -/
structure Arguments (F V : Type) where
  query : Nat
  parameters : Option V
  trace : Option Bool
  customPayload : Bool
  timeout : RequestTimeout
  executionProfile : Option (PyExecutionProfile F)
  pagingState : Option Nat
  host : Option Nat
  executeAs : Bool

/-- A request as it goes to the Rust driver, with the query that the future keeps. -/
structure Sent (F : Type) where
  query : LegacyQuery F
  kept : LegacyQuery F
  rowFactory : F
  paged : Bool
  timeoutSecs : Option Duration

def errorIfPresent (name : String) (present : Bool) : Except PyError Unit :=
  if present then .error (.notImplementedError (name ++ " is not supported by this driver"))
  else .ok ()

def rejectIfShutdown (isShutdown : Bool) : Except PyError Unit :=
  if isShutdown then .error (.scyllaError "the session has been shut down") else .ok ()

/-- The checks of the batch and of the statement branch. -/
def SessionCore.checkRequest (core : SessionCore F V) (args : Arguments F V) (paged : Bool) :
    LegacyQuery F → Except PyError Unit
  | .batch _ =>
    if args.parameters.isSome then .error (.typeError
      "parameters cannot be passed with a Batch; bind values per statement")
    else if args.pagingState.isSome then .error (.typeError "a Batch cannot be paged")
    else .ok ()
  | .statement executable =>
    if !paged && args.pagingState.isSome then .error .pagingStateMustBeNoneForUnpagedExecution
    else if executable.prepared && !core.serializes (args.parameters.getD core.noValues) then
      .error .serializationFailed
    else .ok ()

/-- The arguments that go on the copy before and after the settings of the session. -/
def withTimeout (query : LegacyQuery F) (timeout : RequestTimeout) : LegacyQuery F :=
  match timeout.duration with
  | some duration => query.setRequestTimeout duration
  | none => query

def withTraceAndTarget (query : LegacyQuery F) (trace : Option Bool) (host : Option Nat) :
    LegacyQuery F :=
  let query := match trace with
    | some trace => query.setTracing trace
    | none => query
  match host with
  | some target => query.setTarget target
  | none => query

def SessionCore.executeAsync (core : SessionCore F V) (settings : SessionSettings F)
    (isShutdown : Bool) (query : LegacyQuery F) (args : Arguments F V) :
    Except PyError (Sent F) := do
  errorIfPresent "custom_payload" args.customPayload
  errorIfPresent "execute_as" args.executeAs
  rejectIfShutdown isShutdown
  let (executable, rowFactory, paged) ←
    settings.configureRequest (withTimeout query args.timeout) args.executionProfile
  let executable := withTraceAndTarget executable args.trace args.host
  let timeoutSecs := core.effectiveTimeout executable
  core.checkRequest args paged executable
  return ⟨executable, query, core.chooseRowFactory rowFactory executable.askedRowFactory, paged,
    timeoutSecs⟩

/-- A session with the statements and batches of the program. -/
structure World (F : Type) (driverPageSize : Int) where
  settings : SessionSettings F
  isShutdown : Bool
  objects : Nat → PyQuery F driverPageSize

inductive Op (F V : Type) where
  | setRowFactory (rowFactory : Option F)
  | setDefaultFetchSize (fetchSize : Option Int)
  | setDefaultTimeout (timeout : RequestTimeout)
  | setDefaultConsistencyLevel (consistency : MaybeUnset Consistency)
  | setDefaultSerialConsistencyLevel (serial : MaybeUnset (Option SerialConsistency))
  | set (object : Nat) (setting : Setting F)
  | shutdown
  | executeAsync (args : Arguments F V)

def fetchSizeOf : Option Int → Except PyError FetchSize
  | none => .ok .unpaged
  | some size => if 0 < size then .ok (.rows size)
    else .error (.valueError "default_fetch_size must be positive or None")

namespace World

variable (core : SessionCore F V)

def modifyDefaults (w : World F driverPageSize) (name : String)
    (set : LegacyDefaults F → LegacyDefaults F) :
    World F driverPageSize × Except PyError (Option (Sent F)) :=
  match w.settings.mode.modify name set with
  | .ok mode => ({ w with settings := { w.settings with mode := mode } }, .ok none)
  | .error error => (w, .error error)

def step (w : World F driverPageSize) :
    Op F V → World F driverPageSize × Except PyError (Option (Sent F))
  | .setRowFactory rowFactory =>
    w.modifyDefaults "row_factory" fun defaults => { defaults with rowFactory := rowFactory }
  | .setDefaultFetchSize fetchSize => match fetchSizeOf fetchSize with
    | .ok fetchSize => ({ w with settings := { w.settings with fetchSize := fetchSize } }, .ok none)
    | .error error => (w, .error error)
  | .setDefaultTimeout timeout =>
    w.modifyDefaults "default_timeout" fun defaults => { defaults with timeout := timeout }
  | .setDefaultConsistencyLevel consistency =>
    w.modifyDefaults "default_consistency_level" fun defaults =>
      { defaults with consistency := consistency.toOption }
  | .setDefaultSerialConsistencyLevel serial =>
    w.modifyDefaults "default_serial_consistency_level" fun defaults =>
      { defaults with serialConsistency := serial.toOption }
  | .set object setting => match (w.objects object).set setting with
    | .ok query => ({ w with objects := Function.update w.objects object query }, .ok none)
    | .error error => (w, .error error)
  | .shutdown => ({ w with isShutdown := true }, .ok none)
  | .executeAsync args =>
    (w, (core.executeAsync w.settings w.isShutdown (.extract (w.objects args.query)) args).map some)

/-- The worlds that a new session reaches. -/
def Reachable (usesProfiles : Bool) (w : World F driverPageSize) : Prop :=
  ∃ objects, Relation.ReflTransGen
    (fun w w' : World F driverPageSize => ∃ op, w' = (w.step core op).1)
    ⟨.new usesProfiles, false, objects⟩ w

end World

end Legacy

end ScyllaDriver
