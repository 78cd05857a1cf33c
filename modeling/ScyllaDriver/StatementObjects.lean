import ScyllaDriver.LegacySession

/-! The statements, prepared statements and batches of a program, and the requests made with
them. To Python an object is what was set on it; the Rust driver has that in another form, with
flags for what the form cannot tell apart, and copies of it go into prepared statements, batches
and requests. -/

namespace ScyllaDriver

namespace StatementObjects

open Legacy (SessionCore)

/-- `try_from_secs_f64` and `as_secs_f64` of `Duration`. -/
structure Seconds (S : Type) where
  tryFromSecs : S → Option Duration
  asSecs : Duration → S

inductive BatchType where
  | logged
  | unlogged
  | counter
  deriving DecidableEq, Repr

/-- What a batch keeps of a statement. -/
structure BatchStatement where
  prepared : Bool
  text : String
  config : StatementConfig
  deriving DecidableEq, Repr

/-- As many values as statements. -/
structure BatchState (F V : Type) (driverPageSize : Int) where
  batchType : BatchType
  options : PyStatementOptions F driverPageSize
  statements : List BatchStatement
  values : List V
  balanced : statements.length = values.length

inductive Object (F V : Type) (driverPageSize : Int) where
  | statement (text : String) (options : PyStatementOptions F driverPageSize)
  | prepared (text : String) (options : PyStatementOptions F driverPageSize)
  | batch (state : BatchState F V driverPageSize)

/-- What stands for a statement in a call. -/
inductive Item where
  | text (text : String)
  | object (object : Nat)

structure Overrides (F : Type) where
  factory : Option F
  target : Option Nat
  trace : Option Bool

inductive Error where
  | config (error : DriverStatementConfigError)
  | batchConfig (error : DriverStatementConfigError)
  | invalidStatementType
  | cannotPreparePreparedStatement
  | rustDriverPrepareError
  | pagingStateMustBeNoneForUnpagedExecution
  | serializationFailed
  | attributeError
  deriving DecidableEq, Repr

/-- A request as it goes to the Rust driver. -/
inductive Request (F V : Type) where
  | statement (statement : BatchStatement) (pageSize : Option Int) (values : V) (rowFactory : F)
  | batch (batchType : BatchType) (config : StatementConfig) (statements : List BatchStatement)
      (values : List V) (rowFactory : F)

structure World (F V : Type) (driverPageSize : Int) where
  objects : List (Object F V driverPageSize)
  requests : List (Request F V)

inductive Event (F V S : Type) where
  | newStatement (text : String)
  | newBatch (batchType : BatchType)
  | copy (object : Nat)
  | prepare (item : Item) (answered : Bool)
  | set (object : Nat) (setting : Setting F S)
  | addAll (batch : Nat) (items : List (Item × Option V))
  | execute (item : Item) (values : Option V) (paged : Bool) (pagingState : Option Nat)
      (overrides : Overrides F)
  | batch (batch : Nat) (overrides : Overrides F)

/-- What the getters of an object return. -/
structure Getters (F S : Type) where
  executionProfile : Option (PyExecutionProfile F)
  loadBalancingPolicy : Option Nat
  retryPolicy : Option Nat
  rowFactory : Option F
  consistency : MaybeUnset Consistency
  serialConsistency : MaybeUnset (Option SerialConsistency)
  requestTimeout : MaybeUnset (Option S)
  isIdempotent : Bool
  tracing : Bool

section Code

variable {F V S : Type} {driverPageSize : Int}

def newOptions : PyStatementOptions F driverPageSize := ⟨.new driverPageSize, StatementOptions.valid_new⟩

/-- The setters convert the seconds first. -/
def convertSecs (seconds : Seconds S) : Setting F S → Setting F
  | .executionProfile profile => .executionProfile profile
  | .loadBalancingPolicy policy => .loadBalancingPolicy policy
  | .retryPolicy policy => .retryPolicy policy
  | .rowFactory factory => .rowFactory factory
  | .consistency c => .consistency c
  | .serialConsistency sc => .serialConsistency sc
  | .requestTimeout .unset => .requestTimeout .unset
  | .requestTimeout (.set none) => .requestTimeout (.set none)
  | .requestTimeout (.set (some secs)) => .requestTimeout (.set (some (seconds.tryFromSecs secs)))
  | .isIdempotent isIdempotent => .isIdempotent isIdempotent
  | .tracing tracing => .tracing tracing
  | .pageSize size => .pageSize size

def consistency (options : StatementOptions F) : MaybeUnset Consistency :=
  match options.inner.consistency with
  | some c => .set c
  | none => .unset

def serialConsistency (options : StatementOptions F) : MaybeUnset (Option SerialConsistency) :=
  if options.isSerialConsistencySet then .set (options.inner.serialConsistency.toOption.bind id)
  else .unset

def requestTimeout (seconds : Seconds S) (options : StatementOptions F) : MaybeUnset (Option S) :=
  match options.inner.requestTimeout with
  | none => .unset
  | some timeout => if timeout = Duration.max then .set none else .set (some (seconds.asSecs timeout))

def getters (seconds : Seconds S) (options : StatementOptions F) : Getters F S where
  executionProfile := options.settings.executionProfile
  loadBalancingPolicy := options.settings.loadBalancingPolicy
  retryPolicy := options.settings.retryPolicy
  rowFactory := options.settings.rowFactory
  consistency := consistency options
  serialConsistency := serialConsistency options
  requestTimeout := requestTimeout seconds options
  isIdempotent := options.inner.isIdempotent
  tracing := options.inner.tracing

/-- `set_target` and `set_tracing` on the statement of a request. -/
def Overrides.apply (overrides : Overrides F) (config : StatementConfig) : StatementConfig :=
  { config with
    loadBalancingPolicy := overrides.target.or config.loadBalancingPolicy
    tracing := overrides.trace.getD config.tracing }

def BatchState.append (state : BatchState F V driverPageSize) (statement : BatchStatement)
    (values : V) : BatchState F V driverPageSize :=
  { state with
    statements := state.statements ++ [statement]
    values := state.values ++ [values]
    balanced := by simp [state.balanced] }

/-- The configuration setters. A batch has no page size. -/
def Object.set : Object F V driverPageSize → Setting F → Except Error (Object F V driverPageSize)
  | .statement text options, setting =>
    ((PyStatementOptions.set options setting).map (.statement text)).mapError .config
  | .prepared text options, setting =>
    ((PyStatementOptions.set options setting).map (.prepared text)).mapError .config
  | .batch _, .pageSize _ => .error .attributeError
  | .batch state, setting =>
    ((PyStatementOptions.set state.options setting).map fun options =>
      .batch { state with options := options }).mapError .batchConfig

/-- `ExecutableStatement::extract`, with the text of the statement. -/
def World.executable (w : World F V driverPageSize) :
    Item → Except Error (String × Legacy.ExecutableStatement F)
  | .text text => .ok (text, .ofOptions false (.new driverPageSize))
  | .object i =>
    match w.objects[i]? with
    | some (.prepared text options) => .ok (text, .ofOptions true options.1)
    | some (.statement text options) => .ok (text, .ofOptions false options.1)
    | some (.batch _) => .error .invalidStatementType
    | none => .error .invalidStatementType

/-- `PreparableStatement::extract`. -/
def World.preparable (w : World F V driverPageSize) :
    Item → Except Error (String × PyStatementOptions F driverPageSize)
  | .text text => .ok (text, newOptions)
  | .object i =>
    match w.objects[i]? with
    | some (.prepared _ _) => .error .cannotPreparePreparedStatement
    | some (.statement text options) => .ok (text, options)
    | some (.batch _) => .error .invalidStatementType
    | none => .error .invalidStatementType

def toBatchStatement (statement : String × Legacy.ExecutableStatement F) : BatchStatement :=
  ⟨statement.2.prepared, statement.1, statement.2.config⟩

variable (core : SessionCore F V) (seconds : Seconds S)

/-- `SessionCore::execute`, up to the future that sends the request. -/
def execute (statement : String × Legacy.ExecutableStatement F) (values : Option V) (paged : Bool)
    (pagingState : Option Nat) (overrides : Overrides F) : Except Error (Request F V) :=
  let values := values.getD core.noValues
  let rowFactory := core.chooseRowFactory overrides.factory statement.2.rowFactory
  if !paged && pagingState.isSome then .error .pagingStateMustBeNoneForUnpagedExecution
  else if statement.2.prepared && !core.serializes values then .error .serializationFailed
  else .ok (.statement
    { toBatchStatement statement with config := overrides.apply statement.2.config }
    (if paged then some statement.2.pageSize else none) values rowFactory)

/-- An argument of `add` or `add_all`. -/
def World.extractItem (w : World F V driverPageSize) (item : Item × Option V) :
    Except Error ((String × Legacy.ExecutableStatement F) × Option V) := do
  return (← w.executable item.1, item.2)

def World.addAll (w : World F V driverPageSize) (i : Nat) (items : List (Item × Option V)) :
    Except Error (World F V driverPageSize) := do
  -- The items are extracted before the batch is locked.
  let items ← items.mapM w.extractItem
  match w.objects[i]? with
  | some (.batch state) =>
    let state := items.foldl
      (fun state item => state.append (toBatchStatement item.1) (item.2.getD core.noValues)) state
    return { w with objects := w.objects.set i (.batch state) }
  | _ => .error .attributeError

def World.step (w : World F V driverPageSize) : Event F V S → Except Error (World F V driverPageSize)
  | .newStatement text => .ok { w with objects := w.objects ++ [.statement text newOptions] }
  | .newBatch batchType =>
    .ok { w with objects := w.objects ++ [.batch ⟨batchType, newOptions, [], [], rfl⟩] }
  | .copy i =>
    match w.objects[i]? with
    | some object => .ok { w with objects := w.objects ++ [object] }
    | none => .error .attributeError
  | .prepare item answered => do
    let (text, options) ← w.preparable item
    if answered then .ok { w with objects := w.objects ++ [.prepared text options] }
    else .error .rustDriverPrepareError
  | .set i setting =>
    match w.objects[i]? with
    | some object => do
      let object ← object.set (convertSecs seconds setting)
      return { w with objects := w.objects.set i object }
    | none => .error .attributeError
  | .addAll i items => w.addAll core i items
  | .execute item values paged pagingState overrides => do
    let statement ← w.executable item
    let request ← execute core statement values paged pagingState overrides
    return { w with requests := w.requests ++ [request] }
  | .batch i overrides =>
    match w.objects[i]? with
    | some (.batch state) =>
      .ok { w with requests := w.requests ++ [.batch state.batchType
        (overrides.apply state.options.1.inner) state.statements state.values
        (core.chooseRowFactory overrides.factory state.options.1.settings.askedRowFactory)] }
    | _ => .error .attributeError

/-- A call that fails changes nothing. -/
def World.run (w : World F V driverPageSize) (events : List (Event F V S)) :
    World F V driverPageSize :=
  events.foldl (fun w event => (w.step core seconds event).toOption.getD w) w

end Code

/-- What was set on an object and before that on the one it was copied or prepared from, the
last setting first. -/
abbrev Log (F S : Type) := List (Setting F S)

namespace Log

variable {F S α : Type}

/-- The last of the settings that `pick` takes. -/
def last (pick : Setting F S → Option α) (log : Log F S) : Option α := log.findSome? pick

def executionProfile (log : Log F S) : Option (PyExecutionProfile F) :=
  (log.last fun | .executionProfile profile => some profile | _ => none).getD none

def loadBalancingPolicy (log : Log F S) : Option Nat :=
  (log.last fun | .loadBalancingPolicy policy => some policy | _ => none).getD none

def retryPolicy (log : Log F S) : Option Nat :=
  (log.last fun | .retryPolicy policy => some policy | _ => none).getD none

def rowFactory (log : Log F S) : Option F :=
  (log.last fun | .rowFactory factory => some factory | _ => none).getD none

def consistency (log : Log F S) : MaybeUnset Consistency :=
  (log.last fun | .consistency c => some c | _ => none).getD .unset

def serialConsistency (log : Log F S) : MaybeUnset (Option SerialConsistency) :=
  (log.last fun | .serialConsistency sc => some sc | _ => none).getD .unset

def requestTimeout (log : Log F S) : MaybeUnset (Option S) :=
  (log.last fun | .requestTimeout secs => some secs | _ => none).getD .unset

def isIdempotent (log : Log F S) : Bool :=
  (log.last fun | .isIdempotent isIdempotent => some isIdempotent | _ => none).getD false

def tracing (log : Log F S) : Bool :=
  (log.last fun | .tracing tracing => some tracing | _ => none).getD false

def pageSize (log : Log F S) : Option Int :=
  log.last fun | .pageSize size => some size | _ => none

/-- What the Rust driver has for a timeout. -/
def duration (seconds : Seconds S) : MaybeUnset (Option S) → Option Duration
  | .unset => none
  | .set none => some Duration.max
  | .set (some secs) => seconds.tryFromSecs secs

/-- Seconds as they are read back: rounded as a `Duration` is, whose greatest value stands for
no timeout. -/
def readBack (seconds : Seconds S) : MaybeUnset (Option S) → MaybeUnset (Option S)
  | .set (some secs) =>
    .set (((seconds.tryFromSecs secs).filter (· ≠ Duration.max)).map seconds.asSecs)
  | secs => secs

def shown (seconds : Seconds S) (log : Log F S) : Getters F S where
  executionProfile := log.executionProfile
  loadBalancingPolicy := log.loadBalancingPolicy
  retryPolicy := log.retryPolicy
  rowFactory := log.rowFactory
  consistency := log.consistency
  serialConsistency := log.serialConsistency
  requestTimeout := readBack seconds log.requestTimeout
  isIdempotent := log.isIdempotent
  tracing := log.tracing

end Log

/-- A statement as it was when it was executed or added to a batch. -/
structure Source (F S : Type) where
  prepared : Bool
  text : String
  log : Log F S

inductive Kind (F V S : Type) where
  | statement (text : String)
  | prepared (text : String)
  | batch (batchType : BatchType) (entries : List (Source F S × V))

structure Entry (F V S : Type) where
  kind : Kind F V S
  log : Log F S

/-- What a program has done so far, and the requests that this amounts to. -/
structure History (F V S : Type) where
  objects : List (Entry F V S)
  requests : List (Request F V)

section Specification

variable {F V S : Type} (driverPageSize : Int) (core : SessionCore F V) (seconds : Seconds S)

/-- The configuration that a request has from its statement or batch, unless the call says
otherwise. -/
def Log.config (log : Log F S) : StatementConfig where
  consistency := log.consistency.toOption
  serialConsistency := log.serialConsistency
  requestTimeout := duration seconds log.requestTimeout
  tracing := log.tracing
  isIdempotent := log.isIdempotent
  executionProfileHandle := log.executionProfile.map PyExecutionProfile.inner
  loadBalancingPolicy := log.loadBalancingPolicy
  retryPolicy := log.retryPolicy

/-- The rows of a request are made by the factory of the call, of the statement, of its profile,
of the session or by the built-in one, the first there is. -/
def Log.effectiveFactory (log : Log F S) (explicit : Option F) : F :=
  match explicit, log.rowFactory, log.executionProfile.bind PyExecutionProfile.rowFactory,
    core.defaultRowFactory with
  | some factory, _, _, _ => factory
  | none, some factory, _, _ => factory
  | none, none, some factory, _ => factory
  | none, none, none, some factory => factory
  | none, none, none, none => core.namedTuple

def Source.batchStatement (source : Source F S) : BatchStatement :=
  ⟨source.prepared, source.text, source.log.config seconds⟩

/-- The request of `execute`. -/
def Source.request (source : Source F S) (values : Option V) (paged : Bool)
    (overrides : Overrides F) : Request F V :=
  .statement
    { prepared := source.prepared
      text := source.text
      config :=
        { source.log.config seconds with
          loadBalancingPolicy :=
            match overrides.target with
            | some target => some target
            | none => source.log.loadBalancingPolicy
          tracing :=
            match overrides.trace with
            | some trace => trace
            | none => source.log.tracing } }
    (if paged then some (source.log.pageSize.getD driverPageSize) else none)
    (values.getD core.noValues) (source.log.effectiveFactory core overrides.factory)

/-- The request of `batch`, with each statement as it was when it was added. -/
def batchRequest (batchType : BatchType) (entries : List (Source F S × V)) (log : Log F S)
    (overrides : Overrides F) : Request F V :=
  .batch batchType
    { log.config seconds with
      loadBalancingPolicy :=
        match overrides.target with
        | some target => some target
        | none => log.loadBalancingPolicy
      tracing :=
        match overrides.trace with
        | some trace => trace
        | none => log.tracing }
    (entries.map fun entry => entry.1.batchStatement seconds) (entries.map Prod.snd)
    (log.effectiveFactory core overrides.factory)

/-- A page size is positive, and a timeout one that a `Duration` has. -/
def accepted : Setting F S → Bool
  | .pageSize size => decide (0 < size)
  | .requestTimeout (.set (some secs)) => (seconds.tryFromSecs secs).isSome
  | _ => true

def Kind.accepts : Kind F V S → Setting F S → Bool
  | .batch _ _, .pageSize _ => false
  | _, setting => accepted seconds setting

def History.source (h : History F V S) : Item → Option (Source F S)
  | .text text => some ⟨false, text, []⟩
  | .object i =>
    match h.objects[i]? with
    | some ⟨.statement text, log⟩ => some ⟨false, text, log⟩
    | some ⟨.prepared text, log⟩ => some ⟨true, text, log⟩
    | _ => none

/-- A statement as it is added to a batch, with its values. -/
def History.added (h : History F V S) (item : Item × Option V) : Option (Source F S × V) :=
  (h.source item.1).map fun source => (source, item.2.getD core.noValues)

def History.step (h : History F V S) : Event F V S → History F V S
  | .newStatement text => { h with objects := h.objects ++ [⟨.statement text, []⟩] }
  | .newBatch batchType => { h with objects := h.objects ++ [⟨.batch batchType [], []⟩] }
  | .copy i => { h with objects := h.objects ++ h.objects[i]?.toList }
  | .prepare item answered =>
    match h.source item, answered with
    | some ⟨false, text, log⟩, true => { h with objects := h.objects ++ [⟨.prepared text, log⟩] }
    | _, _ => h
  | .set i setting =>
    match h.objects[i]? with
    | some ⟨kind, log⟩ =>
      if kind.accepts seconds setting then
        { h with objects := h.objects.set i ⟨kind, setting :: log⟩ }
      else h
    | none => h
  | .addAll i items =>
    match items.mapM (h.added core), h.objects[i]? with
    | some more, some ⟨.batch batchType entries, log⟩ =>
      { h with objects := h.objects.set i ⟨.batch batchType (entries ++ more), log⟩ }
    | _, _ => h
  | .execute item values paged pagingState overrides =>
    match h.source item with
    | some source =>
      if (paged = true ∨ pagingState = none) ∧
          (source.prepared = true → core.serializes (values.getD core.noValues) = true) then
        { h with
          requests := h.requests ++ [source.request driverPageSize core seconds values paged
            overrides] }
      else h
    | none => h
  | .batch i overrides =>
    match h.objects[i]? with
    | some ⟨.batch batchType entries, log⟩ =>
      { h with requests := h.requests ++ [batchRequest core seconds batchType entries log overrides] }
    | _ => h

def History.run (h : History F V S) (events : List (Event F V S)) : History F V S :=
  events.foldl (History.step driverPageSize core seconds) h

end Specification

section Refinement

variable {F V S : Type} {driverPageSize : Int} {core : SessionCore F V} {seconds : Seconds S}

/-- The options of an object hold what was set last. -/
structure Reads (driverPageSize : Int) (seconds : Seconds S) (options : StatementOptions F)
    (log : Log F S) : Prop where
  executionProfile : options.settings.executionProfile = log.executionProfile
  loadBalancingPolicy : options.settings.loadBalancingPolicy = log.loadBalancingPolicy
  retryPolicy : options.settings.retryPolicy = log.retryPolicy
  rowFactory : options.settings.rowFactory = log.rowFactory
  consistency : options.inner.consistency = log.consistency.toOption
  serialConsistency : options.inner.serialConsistency = log.serialConsistency
  requestTimeout : options.inner.requestTimeout = Log.duration seconds log.requestTimeout
  timeoutAccepted : accepted seconds (.requestTimeout log.requestTimeout : Setting F S) = true
  isIdempotent : options.inner.isIdempotent = log.isIdempotent
  tracing : options.inner.tracing = log.tracing
  pageSize : options.pageSize = log.pageSize.getD driverPageSize

theorem Reads.new : Reads driverPageSize seconds (.new driverPageSize) ([] : Log F S) :=
  ⟨rfl, rfl, rfl, rfl, rfl, rfl, rfl, rfl, rfl, rfl, rfl⟩

variable {options options' : StatementOptions F} {log : Log F S} {setting : Setting F S}

/-- A setter that returns has written its own setting, and had to accept it. -/
theorem Reads.set (h : Reads driverPageSize seconds options log)
    (hset : options.set (convertSecs seconds setting) = .ok options') :
    accepted seconds setting = true ∧ Reads driverPageSize seconds options' (setting :: log) := by
  obtain ⟨hprofile, hpolicy, hretry, hfactory, hconsistency, hserial, htimeout, haccepted,
    hidempotent, htracing, hpage⟩ := h
  cases setting with
  | executionProfile profile =>
    cases hset
    exact ⟨rfl, rfl, hpolicy, hretry, hfactory, hconsistency, hserial, htimeout, haccepted,
      hidempotent, htracing, hpage⟩
  | loadBalancingPolicy policy =>
    cases hset
    exact ⟨rfl, hprofile, rfl, hretry, hfactory, hconsistency, hserial, htimeout, haccepted,
      hidempotent, htracing, hpage⟩
  | retryPolicy policy =>
    cases hset
    exact ⟨rfl, hprofile, hpolicy, rfl, hfactory, hconsistency, hserial, htimeout, haccepted,
      hidempotent, htracing, hpage⟩
  | rowFactory factory =>
    cases hset
    exact ⟨rfl, hprofile, hpolicy, hretry, rfl, hconsistency, hserial, htimeout, haccepted,
      hidempotent, htracing, hpage⟩
  | consistency c =>
    cases hset
    cases c <;> exact ⟨rfl, hprofile, hpolicy, hretry, hfactory, rfl, hserial, htimeout, haccepted,
      hidempotent, htracing, hpage⟩
  | serialConsistency sc =>
    cases hset
    cases sc <;> exact ⟨rfl, hprofile, hpolicy, hretry, hfactory, hconsistency, rfl, htimeout,
      haccepted, hidempotent, htracing, hpage⟩
  | isIdempotent isIdempotent =>
    cases hset
    exact ⟨rfl, hprofile, hpolicy, hretry, hfactory, hconsistency, hserial, htimeout, haccepted,
      rfl, htracing, hpage⟩
  | tracing tracing =>
    cases hset
    exact ⟨rfl, hprofile, hpolicy, hretry, hfactory, hconsistency, hserial, htimeout, haccepted,
      hidempotent, rfl, hpage⟩
  | requestTimeout secs =>
    match secs with
    | .unset =>
      cases hset
      exact ⟨rfl, hprofile, hpolicy, hretry, hfactory, hconsistency, hserial, rfl, rfl, hidempotent,
        htracing, hpage⟩
    | .set none =>
      cases hset
      exact ⟨rfl, hprofile, hpolicy, hretry, hfactory, hconsistency, hserial, rfl, rfl, hidempotent,
        htracing, hpage⟩
    | .set (some secs) =>
      cases hsecs : seconds.tryFromSecs secs with
      | none =>
        simp [convertSecs, hsecs, StatementOptions.set, StatementOptions.setRequestTimeout] at hset
      | some duration =>
        have hvalid : accepted seconds (.requestTimeout (.set (some secs)) : Setting F S) = true := by
          simp [accepted, hsecs]
        rw [convertSecs, hsecs] at hset
        cases hset
        exact ⟨hvalid, hprofile, hpolicy, hretry, hfactory, hconsistency, hserial, hsecs.symm,
          hvalid, hidempotent, htracing, hpage⟩
  | pageSize size =>
    by_cases hsize : size ≤ 0
    · simp [convertSecs, StatementOptions.set, StatementOptions.setPageSize,
        StatementOptions.checkPageSize, hsize, Except.map] at hset
    · have hvalid : accepted seconds (.pageSize size : Setting F S) = true := by
        simpa [accepted] using hsize
      simp only [convertSecs, StatementOptions.set, StatementOptions.setPageSize,
        StatementOptions.checkPageSize, if_neg hsize, Except.map, Except.ok.injEq] at hset
      subst hset
      exact ⟨hvalid, hprofile, hpolicy, hretry, hfactory, hconsistency, hserial, htimeout, haccepted,
        hidempotent, htracing, rfl⟩

/-- Nothing else is refused than a timeout or a page size that is none. -/
theorem not_accepted_of_error {e : DriverStatementConfigError}
    (h : options.set (convertSecs seconds setting) = .error e) : accepted seconds setting = false := by
  cases setting with
  | requestTimeout secs =>
    match secs with
    | .unset => cases h
    | .set none => cases h
    | .set (some secs) =>
      cases hsecs : seconds.tryFromSecs secs with
      | none => simp [accepted, hsecs]
      | some duration =>
        rw [convertSecs, hsecs] at h
        cases h
  | pageSize size =>
    by_cases hsize : size ≤ 0
    · simpa [accepted] using hsize
    · simp [convertSecs, StatementOptions.set, StatementOptions.setPageSize,
        StatementOptions.checkPageSize, hsize, Except.map] at h
  | _ => cases h

/-- What the getters return is what was set. -/
theorem Reads.getters_eq (h : Reads driverPageSize seconds options log)
    (hvalid : options.Valid driverPageSize) : getters seconds options = log.shown seconds := by
  have hconsistency : StatementObjects.consistency options = log.consistency := by
    unfold StatementObjects.consistency
    rw [h.consistency]
    cases log.consistency <;> rfl
  have hserial : StatementObjects.serialConsistency options = log.serialConsistency := by
    have hflag := hvalid.serial
    unfold StatementObjects.serialConsistency
    rw [h.serialConsistency] at hflag ⊢
    cases hset : log.serialConsistency with
    | unset => simp [hset] at hflag; simp [hflag]
    | set sc => simp [hset] at hflag; simp [hflag, MaybeUnset.toOption]
  have htimeout : StatementObjects.requestTimeout seconds options =
      Log.readBack seconds log.requestTimeout := by
    have haccepted := h.timeoutAccepted
    unfold StatementObjects.requestTimeout
    rw [h.requestTimeout]
    match hsecs : log.requestTimeout with
    | .unset => rfl
    | .set none => simp [Log.duration, Log.readBack]
    | .set (some secs) =>
      rw [hsecs] at haccepted
      obtain ⟨duration, hduration⟩ := Option.isSome_iff_exists.mp haccepted
      simp only [Log.duration, Log.readBack, hduration]
      by_cases hmax : duration = Duration.max <;> simp [hmax, Option.filter]
  simp only [getters, Log.shown, h.executionProfile, h.loadBalancingPolicy, h.retryPolicy,
    h.rowFactory, hconsistency, hserial, htimeout, h.isIdempotent, h.tracing]

/-- So is what the Rust driver is told. -/
theorem Reads.config_eq (h : Reads driverPageSize seconds options log)
    (hvalid : options.Valid driverPageSize) : options.inner = log.config seconds := by
  have hinner : options.inner = ⟨options.inner.consistency, options.inner.serialConsistency,
    options.inner.requestTimeout, options.inner.tracing, options.inner.isIdempotent,
    options.inner.executionProfileHandle, options.inner.loadBalancingPolicy,
    options.inner.retryPolicy⟩ := rfl
  rw [hinner, hvalid.profile, hvalid.loadBalancing, hvalid.retry, h.executionProfile,
    h.loadBalancingPolicy, h.retryPolicy, h.consistency, h.serialConsistency, h.requestTimeout,
    h.isIdempotent, h.tracing]
  rfl

theorem Reads.chooseRowFactory (h : Reads driverPageSize seconds options log)
    (explicit : Option F) :
    core.chooseRowFactory explicit options.settings.askedRowFactory =
      log.effectiveFactory core explicit := by
  unfold SessionCore.chooseRowFactory PyStatementSettings.askedRowFactory Log.effectiveFactory
  rw [h.rowFactory, h.executionProfile]
  cases explicit <;> cases log.rowFactory <;>
    cases log.executionProfile.bind PyExecutionProfile.rowFactory <;>
    cases core.defaultRowFactory <;> rfl

/-- A statement that was extracted from what the program calls it by. -/
structure Extracted (driverPageSize : Int) (core : SessionCore F V) (seconds : Seconds S)
    (statement : String × Legacy.ExecutableStatement F) (source : Source F S) : Prop where
  text : statement.1 = source.text
  prepared : statement.2.prepared = source.prepared
  config : statement.2.config = source.log.config seconds
  pageSize : statement.2.pageSize = source.log.pageSize.getD driverPageSize
  factory : ∀ explicit, core.chooseRowFactory explicit statement.2.rowFactory =
    source.log.effectiveFactory core explicit

theorem Reads.extracted (h : Reads driverPageSize seconds options log)
    (hvalid : options.Valid driverPageSize) (prepared : Bool) (text : String) :
    Extracted driverPageSize core seconds (text, .ofOptions prepared options)
      ⟨prepared, text, log⟩ :=
  ⟨rfl, rfl, h.config_eq hvalid, h.pageSize, fun explicit => h.chooseRowFactory explicit⟩

theorem Extracted.batchStatement {statement : String × Legacy.ExecutableStatement F}
    {source : Source F S} (h : Extracted driverPageSize core seconds statement source) :
    toBatchStatement statement = source.batchStatement seconds := by
  simp only [toBatchStatement, Source.batchStatement, h.text, h.prepared, h.config]

/-- The call's own target and tracing come before those of the statement. -/
theorem apply_config (overrides : Overrides F) (log : Log F S) :
    overrides.apply (log.config seconds) =
      { log.config seconds with
        loadBalancingPolicy :=
          match overrides.target with
          | some target => some target
          | none => log.loadBalancingPolicy
        tracing :=
          match overrides.trace with
          | some trace => trace
          | none => log.tracing } := by
  obtain ⟨factory, target, trace⟩ := overrides
  cases target <;> cases trace <;> rfl

theorem Extracted.execute {statement : String × Legacy.ExecutableStatement F}
    {source : Source F S} (h : Extracted driverPageSize core seconds statement source)
    (values : Option V) (paged : Bool) (pagingState : Option Nat) (overrides : Overrides F) :
    (StatementObjects.execute core statement values paged pagingState overrides).toOption =
      if (paged = true ∨ pagingState = none) ∧
          (source.prepared = true → core.serializes (values.getD core.noValues) = true) then
        some (source.request driverPageSize core seconds values paged overrides)
      else none := by
  have hrequest : Request.statement
      { toBatchStatement statement with config := overrides.apply statement.2.config }
      (if paged then some statement.2.pageSize else none) (values.getD core.noValues)
      (core.chooseRowFactory overrides.factory statement.2.rowFactory) =
        source.request driverPageSize core seconds values paged overrides := by
    rw [h.batchStatement, h.config, h.pageSize, h.factory, apply_config]
    rfl
  have hexecute : StatementObjects.execute core statement values paged pagingState overrides =
      if !paged && pagingState.isSome then .error .pagingStateMustBeNoneForUnpagedExecution
      else if source.prepared && !core.serializes (values.getD core.noValues) then
        .error .serializationFailed
      else .ok (source.request driverPageSize core seconds values paged overrides) := by
    rw [← hrequest, ← h.prepared]
    rfl
  rw [hexecute]
  cases paged <;> cases pagingState <;> cases source.prepared <;>
    cases core.serializes (values.getD core.noValues) <;> rfl

/-- An object, and what the program has done to it. -/
inductive Matches (seconds : Seconds S) : Object F V driverPageSize → Entry F V S → Prop
  | statement {text options log} (h : Reads driverPageSize seconds options.1 log) :
    Matches seconds (.statement text options) ⟨.statement text, log⟩
  | prepared {text options log} (h : Reads driverPageSize seconds options.1 log) :
    Matches seconds (.prepared text options) ⟨.prepared text, log⟩
  | batch {state entries log} (h : Reads driverPageSize seconds state.options.1 log)
    (hstatements : state.statements = entries.map fun entry => entry.1.batchStatement seconds)
    (hvalues : state.values = entries.map Prod.snd) :
    Matches seconds (.batch state) ⟨.batch state.batchType entries, log⟩

/-- The world is what the history amounts to. -/
structure Follows (seconds : Seconds S) (w : World F V driverPageSize) (h : History F V S) :
    Prop where
  objects : List.Forall₂ (Matches seconds) w.objects h.objects
  requests : w.requests = h.requests

variable {w : World F V driverPageSize} {h : History F V S}

theorem forall₂_getElem? {α β : Type} {R : α → β → Prop} {l : List α} {l' : List β}
    (h : List.Forall₂ R l l') (i : Nat) :
    (l[i]? = none ∧ l'[i]? = none) ∨ ∃ a b, l[i]? = some a ∧ l'[i]? = some b ∧ R a b := by
  induction h generalizing i with
  | nil => exact .inl ⟨rfl, rfl⟩
  | cons hab _ ih =>
    cases i with
    | zero => exact .inr ⟨_, _, rfl, rfl, hab⟩
    | succ i => simpa using ih i

theorem forall₂_set {α β : Type} {R : α → β → Prop} {l : List α} {l' : List β} {a : α} {b : β}
    (h : List.Forall₂ R l l') (i : Nat) (hab : R a b) : List.Forall₂ R (l.set i a) (l'.set i b) := by
  induction h generalizing i with
  | nil => exact .nil
  | cons hcd hrest ih =>
    cases i with
    | zero => exact .cons hab hrest
    | succ i => exact .cons hcd (ih i)

theorem pySet_cases (options : PyStatementOptions F driverPageSize) (setting : Setting F) :
    (∃ options', PyStatementOptions.set options setting = .ok options' ∧
        options.1.set setting = .ok options'.1) ∨
      ∃ e, PyStatementOptions.set options setting = .error e ∧ options.1.set setting = .error e := by
  unfold PyStatementOptions.set
  split
  · rename_i options' hset
    exact .inl ⟨_, rfl, hset⟩
  · rename_i e hset
    exact .inr ⟨e, rfl, hset⟩

/-- An object has a setting afterwards if it accepts it. -/
theorem Matches.set {object : Object F V driverPageSize} {kind : Kind F V S}
    (hm : Matches seconds object ⟨kind, log⟩) (setting : Setting F S) :
    (∃ object', object.set (convertSecs seconds setting) = .ok object' ∧
        kind.accepts seconds setting = true ∧ Matches seconds object' ⟨kind, setting :: log⟩) ∨
      ∃ e, object.set (convertSecs seconds setting) = .error e ∧
        kind.accepts seconds setting = false := by
  cases hm with
  | statement h =>
    rename_i text options
    rcases pySet_cases options (convertSecs seconds setting) with ⟨options', hpy, hset⟩ | ⟨e, hpy, hset⟩
    · exact .inl ⟨.statement text options', by simp [Object.set, hpy, Except.map, Except.mapError],
        (h.set hset).1, .statement (h.set hset).2⟩
    · exact .inr ⟨.config e, by simp [Object.set, hpy, Except.map, Except.mapError],
        not_accepted_of_error hset⟩
  | prepared h =>
    rename_i text options
    rcases pySet_cases options (convertSecs seconds setting) with ⟨options', hpy, hset⟩ | ⟨e, hpy, hset⟩
    · exact .inl ⟨.prepared text options', by simp [Object.set, hpy, Except.map, Except.mapError],
        (h.set hset).1, .prepared (h.set hset).2⟩
    · exact .inr ⟨.config e, by simp [Object.set, hpy, Except.map, Except.mapError],
        not_accepted_of_error hset⟩
  | batch h hstatements hvalues =>
    rename_i state entries
    by_cases hpage : ∃ size, setting = .pageSize size
    · obtain ⟨size, rfl⟩ := hpage
      exact .inr ⟨.attributeError, rfl, rfl⟩
    · have haccepts : (Kind.batch state.batchType entries : Kind F V S).accepts seconds setting =
          accepted seconds setting := by
        cases setting with
        | pageSize size => exact absurd ⟨size, rfl⟩ hpage
        | _ => rfl
      have hobject : (Object.batch state).set (convertSecs seconds setting) =
          ((PyStatementOptions.set state.options (convertSecs seconds setting)).map fun options =>
            Object.batch { state with options := options }).mapError .batchConfig := by
        cases setting with
        | pageSize size => exact absurd ⟨size, rfl⟩ hpage
        | requestTimeout secs =>
          match secs with
          | .unset => rfl
          | .set none => rfl
          | .set (some secs) => rfl
        | _ => rfl
      rw [haccepts, hobject]
      rcases pySet_cases state.options (convertSecs seconds setting) with
        ⟨options', hpy, hset⟩ | ⟨e, hpy, hset⟩
      · exact .inl ⟨.batch { state with options := options' },
          by simp [hpy, Except.map, Except.mapError], (h.set hset).1,
          .batch (h.set hset).2 hstatements hvalues⟩
      · exact .inr ⟨.batchConfig e, by simp [hpy, Except.map, Except.mapError],
          not_accepted_of_error hset⟩

theorem Follows.executable (hf : Follows seconds w h) (core : SessionCore F V) (item : Item) :
    (∃ statement source, w.executable item = .ok statement ∧ h.source item = some source ∧
        Extracted driverPageSize core seconds statement source) ∨
      ∃ e, w.executable item = .error e ∧ h.source item = none := by
  cases item with
  | text text =>
    exact .inl ⟨_, _, rfl, rfl, Reads.new.extracted StatementOptions.valid_new false text⟩
  | object i =>
    simp only [World.executable, History.source]
    rcases forall₂_getElem? hf.objects i with ⟨hw, hh⟩ | ⟨object, entry, hw, hh, hm⟩
    · rw [hw, hh]
      exact .inr ⟨_, rfl, rfl⟩
    · rw [hw, hh]
      cases hm with
      | statement hreads =>
        exact .inl ⟨_, _, rfl, rfl, hreads.extracted (Subtype.property _) false _⟩
      | prepared hreads =>
        exact .inl ⟨_, _, rfl, rfl, hreads.extracted (Subtype.property _) true _⟩
      | batch => exact .inr ⟨_, rfl, rfl⟩

theorem Follows.preparable (hf : Follows seconds w h) (item : Item) :
    (∃ text options log, w.preparable item = .ok (text, options) ∧
        h.source item = some ⟨false, text, log⟩ ∧ Reads driverPageSize seconds options.1 log) ∨
      ∃ e, w.preparable item = .error e ∧ ∀ text log, h.source item ≠ some ⟨false, text, log⟩ := by
  cases item with
  | text text => exact .inl ⟨text, newOptions, [], rfl, rfl, Reads.new⟩
  | object i =>
    simp only [World.preparable, History.source]
    rcases forall₂_getElem? hf.objects i with ⟨hw, hh⟩ | ⟨object, entry, hw, hh, hm⟩
    · rw [hw, hh]
      exact .inr ⟨_, rfl, nofun⟩
    · rw [hw, hh]
      cases hm with
      | statement hreads => exact .inl ⟨_, _, _, rfl, rfl, hreads⟩
      | prepared => exact .inr ⟨_, rfl, by simp⟩
      | batch => exact .inr ⟨_, rfl, nofun⟩

/-- The statements that a batch is given are all extracted, or one of them is none. -/
theorem Follows.items (hf : Follows seconds w h) (core : SessionCore F V)
    (items : List (Item × Option V)) :
    (∃ statements entries, items.mapM w.extractItem = .ok statements ∧
        items.mapM (h.added core) = some entries ∧
        statements.map (fun item => toBatchStatement item.1) =
          entries.map (fun entry => entry.1.batchStatement seconds) ∧
        statements.map (fun item => item.2.getD core.noValues) = entries.map Prod.snd) ∨
      ∃ e, items.mapM w.extractItem = .error e ∧ items.mapM (h.added core) = none := by
  induction items with
  | nil => exact .inl ⟨[], [], rfl, rfl, rfl, rfl⟩
  | cons item items ih =>
    simp only [List.mapM_cons]
    rcases hf.executable core item.1 with ⟨statement, source, hw, hh, hextracted⟩ | ⟨e, hw, hh⟩
    · have hitem : w.extractItem item = .ok (statement, item.2) := by
        rw [World.extractItem, hw]
        rfl
      have hadded : h.added core item = some (source, item.2.getD core.noValues) := by
        rw [History.added, hh]
        rfl
      rw [hitem, hadded]
      rcases ih with ⟨statements, entries, hws, hhs, hstatements, hvalues⟩ | ⟨e, hws, hhs⟩
      · rw [hws, hhs]
        refine .inl ⟨_, _, rfl, rfl, ?_, ?_⟩
        · simp [hstatements, hextracted.batchStatement]
        · simp [hvalues]
      · rw [hws, hhs]
        exact .inr ⟨e, rfl, rfl⟩
    · have hitem : w.extractItem item = .error e := by
        rw [World.extractItem, hw]
        rfl
      have hadded : h.added core item = none := by
        rw [History.added, hh]
        rfl
      rw [hitem, hadded]
      exact .inr ⟨e, rfl, rfl⟩

theorem foldl_append (noValues : V)
    (items : List ((String × Legacy.ExecutableStatement F) × Option V))
    (state : BatchState F V driverPageSize) :
    let state' := items.foldl
      (fun state item => state.append (toBatchStatement item.1) (item.2.getD noValues)) state
    state'.batchType = state.batchType ∧ state'.options = state.options ∧
      state'.statements = state.statements ++ items.map (fun item => toBatchStatement item.1) ∧
      state'.values = state.values ++ items.map (fun item => item.2.getD noValues) := by
  induction items generalizing state with
  | nil => simp
  | cons item items ih =>
    obtain ⟨htype, hoptions, hstatements, hvalues⟩ :=
      ih (state.append (toBatchStatement item.1) (item.2.getD noValues))
    simp only [List.foldl_cons, List.map_cons]
    refine ⟨htype, hoptions, hstatements.trans ?_, hvalues.trans ?_⟩
    · simp [BatchState.append]
    · simp [BatchState.append]

theorem Follows.concat {object : Object F V driverPageSize} {entry : Entry F V S}
    (hf : Follows seconds w h) (hm : Matches seconds object entry) :
    Follows seconds { w with objects := w.objects ++ [object] }
      { h with objects := h.objects ++ [entry] } :=
  ⟨List.rel_append hf.objects (.cons hm .nil), hf.requests⟩

theorem Follows.replace {object : Object F V driverPageSize} {entry : Entry F V S}
    (hf : Follows seconds w h) (i : Nat) (hm : Matches seconds object entry) :
    Follows seconds { w with objects := w.objects.set i object }
      { h with objects := h.objects.set i entry } :=
  ⟨forall₂_set hf.objects i hm, hf.requests⟩

theorem Follows.request (hf : Follows seconds w h) (request : Request F V) :
    Follows seconds { w with requests := w.requests ++ [request] }
      { h with requests := h.requests ++ [request] } :=
  ⟨hf.objects, by rw [hf.requests]⟩

theorem Follows.set (hf : Follows seconds w h) (core : SessionCore F V) (i : Nat)
    (setting : Setting F S) :
    Follows seconds ((w.step core seconds (.set i setting)).toOption.getD w)
      (h.step driverPageSize core seconds (.set i setting)) := by
  simp only [World.step, History.step]
  rcases forall₂_getElem? hf.objects i with ⟨hw, hh⟩ | ⟨object, ⟨kind, log⟩, hw, hh, hm⟩
  · rw [hw, hh]
    exact hf
  · rw [hw, hh]
    rcases hm.set setting with ⟨object', hset, haccepts, hm'⟩ | ⟨e, hset, haccepts⟩
    · simp only [hset, haccepts, if_true]
      exact hf.replace i hm'
    · simp only [hset, haccepts, Bool.false_eq_true, if_false]
      exact hf

theorem Follows.addAll (hf : Follows seconds w h) (core : SessionCore F V) (i : Nat)
    (items : List (Item × Option V)) :
    Follows seconds ((w.step core seconds (.addAll i items)).toOption.getD w)
      (h.step driverPageSize core seconds (.addAll i items)) := by
  simp only [World.step, World.addAll, History.step]
  rcases hf.items core items with ⟨statements, entries, hws, hhs, hstatements, hvalues⟩ | ⟨e, hws, hhs⟩
  · rw [hws, hhs]
    rcases forall₂_getElem? hf.objects i with ⟨hw, hh⟩ | ⟨object, entry, hw, hh, hm⟩
    · simp only [bind, Except.bind, hw, hh]
      exact hf
    · simp only [bind, Except.bind, hw, hh]
      cases hm with
      | statement => exact hf
      | prepared => exact hf
      | batch hreads hold hvals =>
        rename_i state old log
        obtain ⟨htype, hoptions, hnew, hnewValues⟩ := foldl_append core.noValues statements state
        refine hf.replace i (htype ▸ .batch (hoptions ▸ hreads) (hnew.trans ?_) (hnewValues.trans ?_))
        · rw [hold, hstatements, List.map_append]
        · rw [hvals, hvalues, List.map_append]
  · rw [hws, hhs]
    exact hf

theorem Follows.execute (hf : Follows seconds w h) (core : SessionCore F V) (item : Item)
    (values : Option V) (paged : Bool) (pagingState : Option Nat) (overrides : Overrides F) :
    Follows seconds
      ((w.step core seconds (.execute item values paged pagingState overrides)).toOption.getD w)
      (h.step driverPageSize core seconds (.execute item values paged pagingState overrides)) := by
  simp only [World.step, History.step]
  rcases hf.executable core item with ⟨statement, source, hw, hh, hextracted⟩ | ⟨e, hw, hh⟩
  · have hexecute := hextracted.execute values paged pagingState overrides
    simp only [hw, hh, bind, Except.bind]
    split at hexecute
    · rename_i hcondition
      rw [if_pos hcondition]
      cases hmade : StatementObjects.execute core statement values paged pagingState overrides with
      | error e => simp [hmade, Except.toOption] at hexecute
      | ok request =>
        obtain rfl : request = _ := by simpa [hmade, Except.toOption] using hexecute
        exact hf.request _
    · rename_i hcondition
      rw [if_neg hcondition]
      cases hmade : StatementObjects.execute core statement values paged pagingState overrides with
      | error e => exact hf
      | ok request => simp [hmade, Except.toOption] at hexecute
  · rw [hw, hh]
    exact hf

theorem Follows.batch (hf : Follows seconds w h) (core : SessionCore F V) (i : Nat)
    (overrides : Overrides F) :
    Follows seconds ((w.step core seconds (.batch i overrides)).toOption.getD w)
      (h.step driverPageSize core seconds (.batch i overrides)) := by
  simp only [World.step, History.step]
  rcases forall₂_getElem? hf.objects i with ⟨hw, hh⟩ | ⟨object, entry, hw, hh, hm⟩
  · rw [hw, hh]
    exact hf
  · rw [hw, hh]
    cases hm with
    | statement => exact hf
    | prepared => exact hf
    | batch hreads hstatements hvalues =>
      rename_i state entries log
      have hrequest : Request.batch state.batchType (overrides.apply state.options.1.inner)
          state.statements state.values
          (core.chooseRowFactory overrides.factory state.options.1.settings.askedRowFactory) =
            batchRequest core seconds state.batchType entries log overrides := by
        rw [hreads.config_eq state.options.2, hreads.chooseRowFactory, hstatements, hvalues,
          apply_config]
        rfl
      simp only [hrequest]
      exact hf.request _

theorem Follows.step (hf : Follows seconds w h) (core : SessionCore F V) (event : Event F V S) :
    Follows seconds ((w.step core seconds event).toOption.getD w)
      (h.step driverPageSize core seconds event) := by
  cases event with
  | newStatement text => exact hf.concat (.statement Reads.new)
  | newBatch batchType =>
    have hempty : Matches seconds
        (.batch ⟨batchType, newOptions, [], [], rfl⟩ : Object F V driverPageSize)
        ⟨.batch batchType [], []⟩ := .batch Reads.new rfl rfl
    exact hf.concat hempty
  | copy i =>
    simp only [World.step, History.step]
    rcases forall₂_getElem? hf.objects i with ⟨hw, hh⟩ | ⟨object, entry, hw, hh, hm⟩
    · rw [hw, hh, Option.toList_none, List.append_nil]
      exact hf
    · rw [hw, hh]
      exact hf.concat hm
  | prepare item answered =>
    simp only [World.step, History.step]
    rcases hf.preparable item with ⟨text, options, log, hw, hh, hreads⟩ | ⟨e, hw, hh⟩
    · rw [hw, hh]
      cases answered with
      | true => exact hf.concat (.prepared hreads)
      | false => exact hf
    · rw [hw]
      cases hsource : h.source item with
      | none => exact hf
      | some source =>
        obtain ⟨prepared, text, log⟩ := source
        cases prepared with
        | true => exact hf
        | false => exact absurd hsource (hh text log)
  | set i setting => exact hf.set core i setting
  | addAll i items => exact hf.addAll core i items
  | execute item values paged pagingState overrides =>
    exact hf.execute core item values paged pagingState overrides
  | batch i overrides => exact hf.batch core i overrides

theorem Follows.run (hf : Follows seconds w h) (core : SessionCore F V)
    (events : List (Event F V S)) :
    Follows seconds (w.run core seconds events) (h.run driverPageSize core seconds events) := by
  induction events generalizing w h with
  | nil => exact hf
  | cons event events ih => exact ih (hf.step core event)

/-- What Python and the Rust driver see of an object: its getters return what was set last on it
or on the one it was copied or prepared from, and a batch has each statement as it was when it
was added, with its own values. -/
def Shows (seconds : Seconds S) (object : Object F V driverPageSize) (entry : Entry F V S) : Prop :=
  match object, entry with
  | .statement text options, ⟨.statement text', log⟩ => text = text' ∧
    getters seconds options.1 = log.shown seconds ∧
    options.1.pageSize = log.pageSize.getD driverPageSize
  | .prepared text options, ⟨.prepared text', log⟩ => text = text' ∧
    getters seconds options.1 = log.shown seconds ∧
    options.1.pageSize = log.pageSize.getD driverPageSize
  | .batch state, ⟨.batch batchType entries, log⟩ => state.batchType = batchType ∧
    getters seconds state.options.1 = log.shown seconds ∧
    state.statements = entries.map (fun entry => entry.1.batchStatement seconds) ∧
    state.values = entries.map Prod.snd
  | _, _ => False

theorem Matches.shows {object : Object F V driverPageSize} {entry : Entry F V S}
    (hm : Matches seconds object entry) : Shows seconds object entry := by
  cases hm with
  | statement h => exact ⟨rfl, h.getters_eq (Subtype.property _), h.pageSize⟩
  | prepared h => exact ⟨rfl, h.getters_eq (Subtype.property _), h.pageSize⟩
  | batch h hstatements hvalues =>
    exact ⟨rfl, h.getters_eq (Subtype.property _), hstatements, hvalues⟩

end Refinement

end StatementObjects

end ScyllaDriver
