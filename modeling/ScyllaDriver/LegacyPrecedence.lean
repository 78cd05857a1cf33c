import ScyllaDriver.LegacySession

/-! Whose setting a request of a legacy session gets: the statement's own, else the session
default, else that of the execution profile or the driver. -/

namespace ScyllaDriver

namespace Legacy

open Framing

variable {F V : Type} {driverPageSize : Int}

/-- Outside legacy mode no default is set. -/
def SessionSettings.defaults (settings : SessionSettings F) : LegacyDefaults F :=
  settings.mode.legacyDefaults.getD .default

def SessionSettings.defaultPageSize (settings : SessionSettings F) (driverPageSize : Int) :
    Option Int :=
  match settings.fetchSize with
  | .driver => some driverPageSize
  | .rows size => some size
  | .unpaged => none

/-- What the Rust driver makes of the request. -/
def Sent.consistency (core : SessionCore F V) (sent : Sent F) : Consistency :=
  sent.query.config.consistency.getD (core.profile sent.query.config).consistency

def Sent.serialConsistency (core : SessionCore F V) (sent : Sent F) : Option SerialConsistency :=
  sent.query.config.serialConsistency.toOption.getD
    (core.profile sent.query.config).serialConsistency

def LegacyQuery.pageSize (paged : Bool) : LegacyQuery F → Option Int
  | .batch _ => none
  | .statement executable => if paged then some executable.pageSize else none

/-- The page size of the object itself, if it has one. A batch never pages. -/
def PyQuery.pageSize (fallback : Option Int) : PyQuery F driverPageSize → Option Int
  | .batch _ => none
  | .prepared options => if options.1.isPageSizeSet then some options.1.pageSize else fallback
  | .statement options => if options.1.isPageSizeSet then some options.1.pageSize else fallback
  | .text => fallback

/-- Each setting is the first one that is set. -/
structure Obeys (core : SessionCore F V) (settings : SessionSettings F) (args : Arguments F V)
    (object : PyQuery F driverPageSize) (sent : Sent F) : Prop where
  timeout : sent.timeoutSecs =
    (args.timeout.duration.or (object.own.1.inner.requestTimeout.or
      (settings.defaults.timeout.duration.or
        (core.profile object.own.1.inner).requestTimeout))).filter fun d => d ≠ Duration.max
  consistency : sent.consistency core =
    (object.own.1.inner.consistency.or settings.defaults.consistency).getD
      (core.profile object.own.1.inner).consistency
  serialConsistency : sent.serialConsistency core =
    (object.own.1.inner.serialConsistency.toOption.or settings.defaults.serialConsistency).getD
      (core.profile object.own.1.inner).serialConsistency
  pageSize : sent.query.pageSize sent.paged =
    object.pageSize (settings.defaultPageSize driverPageSize)
  rowFactory : sent.rowFactory =
    (object.own.1.settings.rowFactory.or (settings.defaults.rowFactory.or
      ((object.own.1.settings.executionProfile.bind PyExecutionProfile.rowFactory).or
        core.defaultRowFactory))).getD core.namedTuple

section Requests

variable {query : LegacyQuery F}

theorem mapConfig_congr {set set' : StatementConfig → StatementConfig}
    (h : set query.config = set' query.config) : query.mapConfig set = query.mapConfig set' := by
  cases query with
  | batch options =>
    have hconfig : set options.inner = set' options.inner := h
    simp only [LegacyQuery.mapConfig, hconfig]
  | statement executable =>
    have hconfig : set executable.config = set' executable.config := h
    simp only [LegacyQuery.mapConfig, hconfig]

theorem mapConfig_eq_self {set : StatementConfig → StatementConfig}
    (h : set query.config = query.config) : query.mapConfig set = query := by
  have hid : query.mapConfig (fun config => config) = query := by cases query <;> rfl
  exact (mapConfig_congr h).trans hid

theorem mapConfig_mapConfig (set set' : StatementConfig → StatementConfig) :
    (query.mapConfig set).mapConfig set' = query.mapConfig fun config => set' (set config) := by
  cases query <;> rfl

theorem config_mapConfig (set : StatementConfig → StatementConfig) :
    (query.mapConfig set).config = set query.config := by
  cases query <;> rfl

theorem askedRowFactory_mapConfig (set : StatementConfig → StatementConfig) :
    (query.mapConfig set).askedRowFactory = query.askedRowFactory := by
  cases query <;> rfl

theorem pageSize_mapConfig (set : StatementConfig → StatementConfig) (paged : Bool) :
    (query.mapConfig set).pageSize paged = query.pageSize paged := by
  cases query <;> rfl

theorem withTimeout_eq (timeout : RequestTimeout) : withTimeout query timeout =
    query.mapConfig fun config =>
      { config with requestTimeout := timeout.duration.or config.requestTimeout } := by
  unfold withTimeout
  cases timeout.duration with
  | none => exact (mapConfig_eq_self rfl).symm
  | some duration => rfl

theorem withTraceAndTarget_eq (trace : Option Bool) (host : Option Nat) :
    withTraceAndTarget query trace host = query.mapConfig fun config =>
      { config with tracing := trace.getD config.tracing
                    loadBalancingPolicy := host.or config.loadBalancingPolicy } := by
  have hself : query.mapConfig (fun config => config) = query := mapConfig_eq_self rfl
  cases trace <;> cases host <;>
    simp [withTraceAndTarget, LegacyQuery.setTracing, LegacyQuery.setTarget, mapConfig_mapConfig,
      hself]

/-- A default for a setting that the query may have itself. -/
theorem mapConfig_or {α : Type} (own : StatementConfig → Option α)
    (put : Option α → StatementConfig → StatementConfig)
    (hput : ∀ config, put (own config) config = config) (default : Option α) :
    query.mapConfig (fun config => put ((own config).or default) config) =
      if (own query.config).isNone && default.isSome then query.mapConfig (put default)
      else query := by
  cases hown : own query.config with
  | some set =>
    have hself : put ((own query.config).or default) query.config = query.config := by
      rw [hown, Option.some_or, ← hown, hput]
    exact @mapConfig_eq_self F query (fun config => put ((own config).or default) config) hself
  | none =>
    have hdefault : query.mapConfig (fun config => put ((own config).or default) config) =
        query.mapConfig (put default) := mapConfig_congr (by rw [hown, Option.none_or])
    cases default with
    | some value => exact hdefault
    | none => exact hdefault.trans (mapConfig_eq_self (by rw [← hown, hput]))

theorem applyTimeout_eq (defaults : LegacyDefaults F) : defaults.applyTimeout query =
    query.mapConfig fun config =>
      { config with requestTimeout := config.requestTimeout.or defaults.timeout.duration } := by
  refine Eq.trans ?_ (mapConfig_or (fun config => config.requestTimeout)
    (fun timeout config => { config with requestTimeout := timeout }) (fun _ => rfl)
    defaults.timeout.duration).symm
  unfold LegacyDefaults.applyTimeout
  cases defaults.timeout.duration <;> cases query.config.requestTimeout <;> rfl

theorem applyConsistency_eq (defaults : LegacyDefaults F) : defaults.applyConsistency query =
    query.mapConfig fun config =>
      { config with consistency := config.consistency.or defaults.consistency } := by
  refine Eq.trans ?_ (mapConfig_or (fun config => config.consistency)
    (fun consistency config => { config with consistency := consistency }) (fun _ => rfl)
    defaults.consistency).symm
  unfold LegacyDefaults.applyConsistency
  cases defaults.consistency <;> cases query.config.consistency <;> rfl

/-- What the configuration of the query says of the request. -/
structure Configured (query : LegacyQuery F) (timeout : Option Duration)
    (consistency : Option Consistency) (serial : Option (Option SerialConsistency))
    (query' : LegacyQuery F) : Prop where
  timeout : query'.config.requestTimeout = timeout
  consistency : query'.config.consistency = consistency
  serial : query'.config.serialConsistency.toOption = serial
  profile : query'.config.executionProfileHandle = query.config.executionProfileHandle
  rowFactory : query'.askedRowFactory = query.askedRowFactory
  isPageSizeSet : query'.isPageSizeSet = query.isPageSizeSet
  pageSize : ∀ paged, query'.pageSize paged = query.pageSize paged

/-- The flag of the serial consistency is right. -/
def Flagged (query : LegacyQuery F) : Prop :=
  query.isSerialConsistencySet = true ↔ query.config.serialConsistency ≠ .unset

theorem Configured.mapConfig {set : StatementConfig → StatementConfig}
    (hprofile : (set query.config).executionProfileHandle = query.config.executionProfileHandle) :
    Configured query (set query.config).requestTimeout (set query.config).consistency
      (set query.config).serialConsistency.toOption (query.mapConfig set) := by
  cases query <;> exact ⟨rfl, rfl, rfl, hprofile, rfl, rfl, fun _ => rfl⟩

theorem applySerialConsistency_cases (defaults : LegacyDefaults F) (hflagged : Flagged query) :
    ∃ serial, query.config.serialConsistency.toOption.or defaults.serialConsistency =
        serial.toOption ∧
      (defaults.applySerialConsistency query = query ∧ query.config.serialConsistency = serial ∨
        ∃ sc, serial = .set sc ∧
          defaults.applySerialConsistency query = query.setSerialConsistency sc) := by
  unfold LegacyDefaults.applySerialConsistency
  cases hset : query.isSerialConsistencySet with
  | true =>
    cases hserial : query.config.serialConsistency with
    | unset => exact absurd hserial (hflagged.mp hset)
    | set sc => exact ⟨.set sc, rfl, .inl ⟨by cases defaults.serialConsistency <;> rfl, rfl⟩⟩
  | false =>
    have hunset : query.config.serialConsistency = .unset := by
      by_contra hne
      rw [hflagged.mpr hne] at hset
      cases hset
    cases defaults.serialConsistency with
    | none => exact ⟨.unset, by rw [hunset]; rfl, .inl ⟨rfl, hunset⟩⟩
    | some sc => exact ⟨.set sc, by rw [hunset]; rfl, .inr ⟨sc, rfl, rfl⟩⟩

theorem Configured.applySerialConsistency {query' : LegacyQuery F} {timeout : Option Duration}
    {consistency : Option Consistency} {serial : Option (Option SerialConsistency)}
    (defaults : LegacyDefaults F) (h : Configured query timeout consistency serial query')
    (hflagged : Flagged query') :
    Configured query timeout consistency (serial.or defaults.serialConsistency)
      (defaults.applySerialConsistency query') := by
  obtain ⟨serial', hserial, hcases⟩ := applySerialConsistency_cases defaults hflagged
  rw [h.serial] at hserial
  rcases hcases with ⟨heq, hsame⟩ | ⟨sc, rfl, heq⟩
  · rw [heq]
    exact { h with serial := by rw [hsame, hserial] }
  · rw [heq, hserial]
    cases query' <;>
      exact ⟨h.timeout, h.consistency, rfl, h.profile, h.rowFactory, h.isPageSizeSet, h.pageSize⟩

/-- The whole of `configure_request` without a profile, up to the paging. -/
theorem configured_applyDefaults (defaults : LegacyDefaults F) (timeout : RequestTimeout)
    (hflagged : Flagged query) :
    Configured query
      ((timeout.duration.or query.config.requestTimeout).or defaults.timeout.duration)
      (query.config.consistency.or defaults.consistency)
      (query.config.serialConsistency.toOption.or defaults.serialConsistency)
      (defaults.applyDefaults (withTimeout query timeout)) := by
  rw [LegacyDefaults.applyDefaults, applyConsistency_eq, applyTimeout_eq, withTimeout_eq,
    mapConfig_mapConfig, mapConfig_mapConfig]
  have hmap := @Configured.mapConfig F query (fun config =>
    { config with
      requestTimeout := (timeout.duration.or config.requestTimeout).or defaults.timeout.duration
      consistency := config.consistency.or defaults.consistency }) rfl
  refine hmap.applySerialConsistency defaults ?_
  cases query <;> exact hflagged

/-- How the request pages, for a query with the page size of its object. -/
def SessionSettings.page (settings : SessionSettings F) (query : LegacyQuery F) :
    LegacyQuery F × Bool :=
  match settings.fetchSize with
  | .driver => (query, true)
  | .rows size => (query.applyDefaultPageSize size, true)
  | .unpaged => (query, query.isPageSizeSet)

theorem configureRequest_none (settings : SessionSettings F) (query : LegacyQuery F) :
    settings.configureRequest query none =
      .ok ((settings.page (settings.defaults.applyDefaults query)).1, settings.defaults.rowFactory,
        (settings.page (settings.defaults.applyDefaults query)).2) := by
  obtain ⟨fetchSize, mode⟩ := settings
  cases mode <;> cases fetchSize <;> rfl

theorem configureRequest_legacy {settings : SessionSettings F} {defaults : LegacyDefaults F}
    (hmode : settings.mode = .legacy defaults) (query : LegacyQuery F)
    (profile : PyExecutionProfile F) :
    settings.configureRequest query (some profile) = .error (.valueError
      "Cannot specify execution_profile while using legacy parameters.") := by
  simp only [SessionSettings.configureRequest, hmode]
  rfl

theorem executeAsync_eq_ok {core : SessionCore F V} {settings : SessionSettings F}
    {isShutdown : Bool} {args : Arguments F V} {sent : Sent F}
    (h : core.executeAsync settings isShutdown query args = .ok sent) :
    ∃ executable rowFactory paged,
      settings.configureRequest (withTimeout query args.timeout) args.executionProfile =
        .ok (executable, rowFactory, paged) ∧
      sent = ⟨withTraceAndTarget executable args.trace args.host, query,
        core.chooseRowFactory rowFactory
          (withTraceAndTarget executable args.trace args.host).askedRowFactory, paged,
        core.effectiveTimeout (withTraceAndTarget executable args.trace args.host)⟩ := by
  obtain ⟨_, _, h⟩ := bind_eq_ok_iff.mp h
  obtain ⟨_, _, h⟩ := bind_eq_ok_iff.mp h
  obtain ⟨_, _, h⟩ := bind_eq_ok_iff.mp h
  obtain ⟨⟨executable, rowFactory, paged⟩, hconfigure, h⟩ := bind_eq_ok_iff.mp h
  obtain ⟨_, _, h⟩ := bind_eq_ok_iff.mp h
  cases h
  exact ⟨executable, rowFactory, paged, hconfigure, rfl⟩

theorem pageSize_extract (object : PyQuery F driverPageSize) (fallback : Option Int) :
    object.pageSize fallback = match LegacyQuery.extract object with
      | .batch _ => none
      | .statement executable =>
        if executable.isPageSizeSet then some executable.pageSize else fallback := by
  cases object <;> rfl

theorem pageSize_of_extract {object : PyQuery F driverPageSize} {executable : ExecutableStatement F}
    (h : LegacyQuery.extract object = .statement executable)
    (hpage : executable.isPageSizeSet = false) : executable.pageSize = driverPageSize := by
  cases object with
  | batch options => cases h
  | prepared options | statement options =>
    cases h
    exact options.2.page hpage
  | text =>
    cases h
    rfl

theorem pageSize_page {settings : SessionSettings F} {object : PyQuery F driverPageSize}
    {query' : LegacyQuery F} {timeout : Option Duration} {consistency : Option Consistency}
    {serial : Option (Option SerialConsistency)}
    (h : Configured (.extract object) timeout consistency serial query') :
    (settings.page query').1.pageSize (settings.page query').2 =
      object.pageSize (settings.defaultPageSize driverPageSize) := by
  have hset := h.isPageSizeSet
  have hsize := h.pageSize true
  rw [pageSize_extract]
  cases hextract : LegacyQuery.extract object with
  | batch options =>
    rw [hextract] at hsize
    cases query' with
    | batch options' => cases hfetch : settings.fetchSize <;> simp [SessionSettings.page, hfetch,
        LegacyQuery.applyDefaultPageSize, LegacyQuery.pageSize]
    | statement executable' => cases hsize
  | statement executable =>
    have hdriver := pageSize_of_extract hextract
    rw [hextract] at hset hsize
    cases query' with
    | batch options' => cases hsize
    | statement executable' =>
      have hset' : executable'.isPageSizeSet = executable.isPageSizeSet := hset
      have hsize' : executable'.pageSize = executable.pageSize := Option.some.inj hsize
      cases hpage : executable.isPageSizeSet <;> cases hfetch : settings.fetchSize <;>
        simp_all [SessionSettings.page, SessionSettings.defaultPageSize, LegacyQuery.pageSize,
          LegacyQuery.applyDefaultPageSize, LegacyQuery.isPageSizeSet]

theorem config_page (settings : SessionSettings F) (query : LegacyQuery F) :
    (settings.page query).1.config = query.config ∧
      (settings.page query).1.askedRowFactory = query.askedRowFactory := by
  unfold SessionSettings.page
  cases settings.fetchSize with
  | driver | unpaged => exact ⟨rfl, rfl⟩
  | rows size =>
    cases query with
    | batch options => exact ⟨rfl, rfl⟩
    | statement executable =>
      simp only [LegacyQuery.applyDefaultPageSize]
      split <;> exact ⟨rfl, rfl⟩

theorem flagged_extract (object : PyQuery F driverPageSize) :
    Flagged (LegacyQuery.extract object) := by
  cases object with
  | batch options | prepared options | statement options => exact options.2.serial
  | text => exact (@StatementOptions.valid_new F driverPageSize).serial

theorem config_extract (object : PyQuery F driverPageSize) :
    (LegacyQuery.extract object).config = object.own.1.inner := by
  cases object <;> rfl

theorem askedRowFactory_extract (object : PyQuery F driverPageSize) :
    (LegacyQuery.extract object).askedRowFactory = object.own.1.settings.askedRowFactory := by
  cases object <;> rfl

end Requests

section Sending

variable {core : SessionCore F V} {settings : SessionSettings F} {isShutdown : Bool}
  {args : Arguments F V} {object : PyQuery F driverPageSize} {sent : Sent F}

/-- The session default does not meet a row factory of the statement's own. -/
def FactoriesAgree (settings : SessionSettings F) (object : PyQuery F driverPageSize) : Prop :=
  ∀ own default, object.own.1.settings.rowFactory = some own →
    settings.defaults.rowFactory = some default → own = default

theorem chooseRowFactory_eq_iff (core : SessionCore F V) (settings : PyStatementSettings F)
    (default : Option F) :
    core.chooseRowFactory default settings.askedRowFactory =
        (settings.rowFactory.or (default.or
          ((settings.executionProfile.bind PyExecutionProfile.rowFactory).or
            core.defaultRowFactory))).getD core.namedTuple ↔
      ∀ own default', settings.rowFactory = some own → default = some default' →
        own = default' := by
  unfold SessionCore.chooseRowFactory PyStatementSettings.askedRowFactory
  cases settings.rowFactory with
  | none => simp [Option.or_assoc]
  | some own =>
    cases default with
    | none => simp
    | some default => simp [eq_comm]

theorem executeAsync_obeys_iff (hprofile : args.executionProfile = none)
    (h : core.executeAsync settings isShutdown (.extract object) args = .ok sent) :
    Obeys core settings args object sent ↔ FactoriesAgree settings object := by
  obtain ⟨executable, rowFactory, paged, hconfigure, rfl⟩ := executeAsync_eq_ok h
  rw [hprofile, configureRequest_none] at hconfigure
  obtain ⟨rfl, rfl, rfl⟩ : _ ∧ _ ∧ _ := by simpa only [Except.ok.injEq, Prod.mk.injEq] using hconfigure
  have hc := configured_applyDefaults settings.defaults args.timeout (flagged_extract object)
  obtain ⟨hconfig, hasked⟩ := config_page settings
    (settings.defaults.applyDefaults (withTimeout (.extract object) args.timeout))
  rw [config_extract] at hc
  have hown : core.profile (withTraceAndTarget
      (settings.page (settings.defaults.applyDefaults
        (withTimeout (.extract object) args.timeout))).1 args.trace args.host).config =
      core.profile object.own.1.inner := by
    simp only [SessionCore.profile, withTraceAndTarget_eq, config_mapConfig, hconfig, hc.profile,
      config_extract]
  constructor
  · intro hobeys
    have hfactory := hobeys.rowFactory
    simp only [withTraceAndTarget_eq, askedRowFactory_mapConfig, hasked, hc.rowFactory,
      askedRowFactory_extract] at hfactory
    exact (chooseRowFactory_eq_iff core object.own.1.settings settings.defaults.rowFactory).mp hfactory
  · intro hagree
    refine ⟨?_, ?_, ?_, ?_, ?_⟩
    · simp only [SessionCore.effectiveTimeout, hown]
      simp only [withTraceAndTarget_eq, config_mapConfig, hconfig, hc.timeout, Option.or_assoc]
    · simp only [Sent.consistency, hown]
      simp only [withTraceAndTarget_eq, config_mapConfig, hconfig, hc.consistency]
    · simp only [Sent.serialConsistency, hown]
      simp only [withTraceAndTarget_eq, config_mapConfig, hconfig, hc.serial]
    · simp only [withTraceAndTarget_eq, pageSize_mapConfig]
      exact pageSize_page (configured_applyDefaults _ _ (flagged_extract object))
    · simp only [withTraceAndTarget_eq, askedRowFactory_mapConfig, hasked, hc.rowFactory,
        askedRowFactory_extract]
      exact (chooseRowFactory_eq_iff core object.own.1.settings settings.defaults.rowFactory).mpr hagree

end Sending

section Worlds

variable {core : SessionCore F V} {w : World F driverPageSize}

theorem modifyDefaults_error {name : String} {set : LegacyDefaults F → LegacyDefaults F}
    {error : PyError} (h : (w.modifyDefaults name set).2 = .error error) :
    (w.modifyDefaults name set).1 = w := by
  unfold World.modifyDefaults at h ⊢
  cases hmode : w.settings.mode.modify name set with
  | ok mode =>
    rw [hmode] at h
    cases h
  | error error => rfl

theorem step_error {op : Op F V} {error : PyError} (h : (w.step core op).2 = .error error) :
    (w.step core op).1 = w := by
  cases op with
  | setRowFactory rowFactory | setDefaultTimeout timeout | setDefaultConsistencyLevel consistency
  | setDefaultSerialConsistencyLevel serial => exact modifyDefaults_error h
  | setDefaultFetchSize fetchSize =>
    simp only [World.step] at h ⊢
    split at h
    · cases h
    · rfl
  | set object setting =>
    simp only [World.step] at h ⊢
    split at h
    · cases h
    · rfl
  | shutdown => cases h
  | executeAsync args => rfl

theorem modifyDefaults_mode {name : String} {set : LegacyDefaults F → LegacyDefaults F} :
    (w.modifyDefaults name set).1.settings.mode = .profiles ↔ w.settings.mode = .profiles := by
  unfold World.modifyDefaults
  cases hmode : w.settings.mode <;> simp [ConfigMode.modify, hmode]

theorem step_mode (op : Op F V) :
    (w.step core op).1.settings.mode = .profiles ↔ w.settings.mode = .profiles := by
  cases op with
  | setRowFactory rowFactory | setDefaultTimeout timeout | setDefaultConsistencyLevel consistency
  | setDefaultSerialConsistencyLevel serial => exact modifyDefaults_mode
  | setDefaultFetchSize fetchSize | set object setting =>
    simp only [World.step]
    split <;> rfl
  | shutdown | executeAsync args => rfl

/-- Whether the session uses profiles is decided when it is built. -/
theorem mode_of_reachable {usesProfiles : Bool} (hr : w.Reachable core usesProfiles) :
    w.settings.mode = .profiles ↔ usesProfiles = true := by
  obtain ⟨objects, hr⟩ := hr
  induction hr with
  | refl => cases usesProfiles <;> simp [SessionSettings.new]
  | tail _ hstep ih =>
    obtain ⟨op, rfl⟩ := hstep
    exact (step_mode op).trans ih

theorem step_executeAsync_legacy {defaults : LegacyDefaults F}
    (hmode : w.settings.mode = .legacy defaults) {args : Arguments F V}
    {profile : PyExecutionProfile F} (hprofile : args.executionProfile = some profile) :
    ∃ error, (w.step core (.executeAsync args)).2 = .error error := by
  cases hexecute : core.executeAsync w.settings w.isShutdown (.extract (w.objects args.query)) args with
  | error error => exact ⟨error, by simp only [World.step, hexecute]; rfl⟩
  | ok sent =>
    obtain ⟨_, _, _, hconfigure, _⟩ := executeAsync_eq_ok hexecute
    rw [hprofile, configureRequest_legacy hmode] at hconfigure
    cases hconfigure

/-- One operation on a session that was built with or without profiles. -/
structure Lawful (core : SessionCore F V) (usesProfiles : Bool) (w : World F driverPageSize)
    (op : Op F V) : Prop where
  /-- What is refused changes nothing. -/
  refused : ∀ error, (w.step core op).2 = .error error → (w.step core op).1 = w
  /-- Session defaults and profiles exclude each other. -/
  exclusive : w.settings.mode = .profiles ↔ usesProfiles = true
  profile : ∀ args profile defaults, op = .executeAsync args →
    args.executionProfile = some profile → w.settings.mode = .legacy defaults →
    ∃ error, (w.step core op).2 = .error error
  /-- Neither the settings nor the statement is changed by a request. -/
  unchanged : ∀ args, op = .executeAsync args → (w.step core op).1 = w
  obeys : ∀ args sent, op = .executeAsync args → args.executionProfile = none →
    (w.step core op).2 = .ok (some sent) → Obeys core w.settings args (w.objects args.query) sent

theorem legacy_lawful_iff {usesProfiles : Bool} (hr : w.Reachable core usesProfiles)
    (op : Op F V) :
    Lawful core usesProfiles w op ↔
      ∀ args sent, op = .executeAsync args → args.executionProfile = none →
        (w.step core op).2 = .ok (some sent) → FactoriesAgree w.settings (w.objects args.query) := by
  have hobeys : ∀ args sent, op = .executeAsync args → args.executionProfile = none →
      (w.step core op).2 = .ok (some sent) →
      (Obeys core w.settings args (w.objects args.query) sent ↔
        FactoriesAgree w.settings (w.objects args.query)) := by
    rintro args sent rfl hprofile hsent
    cases hexecute : core.executeAsync w.settings w.isShutdown
        (.extract (w.objects args.query)) args with
    | error error =>
      simp only [World.step, hexecute] at hsent
      cases hsent
    | ok sent' =>
      simp only [World.step, hexecute] at hsent
      cases hsent
      exact executeAsync_obeys_iff hprofile hexecute
  constructor
  · intro h args sent hop hprofile hsent
    exact (hobeys args sent hop hprofile hsent).mp (h.obeys args sent hop hprofile hsent)
  · intro hagree
    refine ⟨fun error => step_error, mode_of_reachable hr, ?_, ?_, ?_⟩
    · rintro args profile defaults rfl hprofile hmode
      exact step_executeAsync_legacy hmode hprofile
    · rintro args rfl
      rfl
    · intro args sent hop hprofile hsent
      exact (hobeys args sent hop hprofile hsent).mpr (hagree args sent hop hprofile hsent)

end Worlds

def plainCore : SessionCore Nat Unit :=
  ⟨⟨some 30000000000, .localQuorum, some .localSerial⟩, none, 0, fun _ => true, ()⟩

/-- One `Statement` without settings. -/
def plainObjects : Nat → PyQuery Nat 5000 :=
  fun _ => .statement ⟨.new 5000, StatementOptions.valid_new⟩

def plainArguments : Arguments Nat Unit :=
  ⟨0, none, none, false, .default, none, none, none, false⟩

def plainWorld (ops : List (Op Nat Unit)) : World Nat 5000 :=
  ops.foldl (fun w op => (w.step plainCore op).1) ⟨.new false, false, plainObjects⟩

theorem reachable_plainWorld (ops : List (Op Nat Unit)) :
    (plainWorld ops).Reachable plainCore false := by
  refine ⟨plainObjects, ?_⟩
  induction ops using List.reverseRecOn with
  | nil => exact .refl
  | append_singleton ops op ih =>
    refine ih.tail ⟨op, ?_⟩
    rw [plainWorld, List.foldl_append]
    rfl

/-- The statement sets its consistency, the session a timeout and a row factory. -/
theorem legacy_lawful_iff_defaults : ∃ (w : World Nat 5000) (sent : Sent Nat),
    w.Reachable plainCore false ∧
    (w.step plainCore (.executeAsync plainArguments)).2 = .ok (some sent) ∧
    (sent.timeoutSecs = some 10 ∧ sent.consistency plainCore = .one ∧ sent.rowFactory = 7) ∧
    Lawful plainCore false w (.executeAsync plainArguments) := by
  have hreachable := reachable_plainWorld
    [.setRowFactory (some 7), .setDefaultTimeout (.after 10), .set 0 (.consistency (.set .one))]
  refine ⟨_, _, hreachable, rfl, ⟨rfl, rfl, rfl⟩, (legacy_lawful_iff hreachable _).mpr ?_⟩
  intro args sent hop _ _ own default hown
  cases hop
  cases hown

/-- The statement has a row factory of its own, and the rows are built by the session's. -/
theorem session_row_factory_overrides : ∃ (w : World Nat 5000) (sent : Sent Nat),
    w.Reachable plainCore false ∧ (w.objects 0).own.1.settings.rowFactory = some 1 ∧
    (w.step plainCore (.executeAsync plainArguments)).2 = .ok (some sent) ∧ sent.rowFactory = 7 ∧
    ¬ Lawful plainCore false w (.executeAsync plainArguments) := by
  have hreachable := reachable_plainWorld [.setRowFactory (some 7), .set 0 (.rowFactory (some 1))]
  refine ⟨_, _, hreachable, rfl, rfl, rfl, fun hlawful => ?_⟩
  have hfactory := (hlawful.obeys plainArguments _ rfl rfl rfl).rowFactory
  exact absurd hfactory (by decide)

end Legacy

end ScyllaDriver
