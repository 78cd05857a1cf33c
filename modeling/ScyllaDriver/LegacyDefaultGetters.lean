import ScyllaDriver.LegacyPrecedence

/-! What a legacy session says its defaults are, and what a request is sent with that leaves
the choice to the session. The getters and the requests find the defaults on different ways. -/

namespace ScyllaDriver

namespace Legacy

variable {F V : Type} {driverPageSize : Int}

section Getters

variable (core : SessionCore F V) (settings : SessionSettings F)

/-- `legacy_default`. -/
def SessionSettings.legacyDefault {α : Type} (get : LegacyDefaults F → α) : Option α :=
  settings.mode.legacyDefaults.map get

/-- The getter `default_fetch_size`; a fresh statement has the page size of the driver. -/
def SessionSettings.getDefaultFetchSize (driverPageSize : Int) : Option Int :=
  match settings.fetchSize with
  | .driver => some (StatementOptions.new driverPageSize : StatementOptions F).pageSize
  | .rows size => some size
  | .unpaged => none

/-- The getter `default_timeout`. -/
def SessionSettings.getDefaultTimeout : Option Duration :=
  match (settings.legacyDefault LegacyDefaults.timeout).getD .default with
  | .default => core.defaultProfile.requestTimeout
  | .never => none
  | .after duration => some duration

/-- The getter `default_consistency_level`. -/
def SessionSettings.getDefaultConsistencyLevel : Consistency :=
  (settings.legacyDefault LegacyDefaults.consistency).join.getD core.defaultProfile.consistency

/-- The getter `default_serial_consistency_level`. -/
def SessionSettings.getDefaultSerialConsistencyLevel : Option SerialConsistency :=
  (settings.legacyDefault LegacyDefaults.serialConsistency).join.getD
    core.defaultProfile.serialConsistency

end Getters

/-- A statement or a string that leaves everything to the session. -/
structure PyQuery.Plain (object : PyQuery F driverPageSize) : Prop where
  timeout : object.own.1.inner.requestTimeout = none
  consistency : object.own.1.inner.consistency = none
  serial : object.own.1.inner.serialConsistency = .unset
  profile : object.own.1.inner.executionProfileHandle = none
  pageSize : ∀ fallback, object.pageSize fallback = fallback
  rowFactory : object.own.1.settings.rowFactory = none

section Agreement

variable {core : SessionCore F V} {settings : SessionSettings F}

theorem getDefaultTimeout_eq : (settings.getDefaultTimeout core).filter (fun d => d ≠ Duration.max) =
    (settings.defaults.timeout.duration.or core.defaultProfile.requestTimeout).filter
      fun d => d ≠ Duration.max := by
  unfold SessionSettings.getDefaultTimeout SessionSettings.legacyDefault SessionSettings.defaults
  cases settings.mode.legacyDefaults with
  | none => rfl
  | some defaults =>
    cases htimeout : defaults.timeout <;>
      simp [htimeout, RequestTimeout.duration, Option.filter]

theorem getDefaultConsistencyLevel_eq : settings.getDefaultConsistencyLevel core =
    settings.defaults.consistency.getD core.defaultProfile.consistency := by
  unfold SessionSettings.getDefaultConsistencyLevel SessionSettings.legacyDefault
    SessionSettings.defaults
  cases settings.mode.legacyDefaults <;> rfl

theorem getDefaultSerialConsistencyLevel_eq : settings.getDefaultSerialConsistencyLevel core =
    settings.defaults.serialConsistency.getD core.defaultProfile.serialConsistency := by
  unfold SessionSettings.getDefaultSerialConsistencyLevel SessionSettings.legacyDefault
    SessionSettings.defaults
  cases settings.mode.legacyDefaults <;> rfl

theorem getDefaultFetchSize_eq :
    settings.getDefaultFetchSize driverPageSize = settings.defaultPageSize driverPageSize := by
  unfold SessionSettings.getDefaultFetchSize SessionSettings.defaultPageSize
  cases settings.fetchSize <;> rfl

variable {w : World F driverPageSize} {args : Arguments F V} {sent : Sent F}

/-- Whatever was set before, a request that leaves everything to the session is sent with what
the getters of the session say at that time; the longest timeout stands for none. -/
theorem default_getters_tell_requests (hplain : (w.objects args.query).Plain)
    (htimeout : args.timeout = .default) (hprofile : args.executionProfile = none)
    (hsent : (w.step core (.executeAsync args)).2 = .ok (some sent)) :
    sent.timeoutSecs = (w.settings.getDefaultTimeout core).filter (fun d => d ≠ Duration.max) ∧
      sent.consistency core = w.settings.getDefaultConsistencyLevel core ∧
      sent.serialConsistency core = w.settings.getDefaultSerialConsistencyLevel core ∧
      sent.query.pageSize sent.paged = w.settings.getDefaultFetchSize driverPageSize := by
  obtain ⟨sent', hexecute, hsome⟩ : ∃ sent', core.executeAsync w.settings w.isShutdown
      (.extract (w.objects args.query)) args = .ok sent' ∧ sent' = sent := by
    simp only [World.step] at hsent
    cases hexecute : core.executeAsync w.settings w.isShutdown
        (.extract (w.objects args.query)) args with
    | error error => simp [hexecute, Except.map] at hsent
    | ok sent' => exact ⟨sent', rfl, by simpa [hexecute, Except.map] using hsent⟩
  subst hsome
  have hagree : FactoriesAgree w.settings (w.objects args.query) := fun own default hown => by
    rw [hplain.rowFactory] at hown
    cases hown
  have hobeys := (executeAsync_obeys_iff hprofile hexecute).mpr hagree
  have hcore : core.profile (w.objects args.query).own.1.inner = core.defaultProfile := by
    simp [SessionCore.profile, hplain.profile]
  refine ⟨?_, ?_, ?_, ?_⟩
  · rw [hobeys.timeout, htimeout, hplain.timeout, hcore, getDefaultTimeout_eq]
    rfl
  · rw [hobeys.consistency, hplain.consistency, hcore, getDefaultConsistencyLevel_eq]
    rfl
  · rw [hobeys.serialConsistency, hplain.serial, hcore, getDefaultSerialConsistencyLevel_eq]
    rfl
  · rw [hobeys.pageSize, hplain.pageSize, getDefaultFetchSize_eq]

/-- The session has no timeout, a serial consistency and pages of ten rows. -/
theorem default_getters_tell_requests_set : ∃ (w : World Nat 5000) (sent : Sent Nat),
    (w.objects 0).Plain ∧ (w.step plainCore (.executeAsync plainArguments)).2 = .ok (some sent) ∧
      sent.timeoutSecs = none ∧ sent.serialConsistency plainCore = none ∧
      sent.query.pageSize sent.paged = some 10 := by
  let w := plainWorld [.setDefaultTimeout .never, .setDefaultSerialConsistencyLevel (.set none),
    .setDefaultFetchSize (some 10)]
  have hplain : (w.objects 0).Plain := ⟨rfl, rfl, rfl, rfl, fun _ => rfl, rfl⟩
  have hsent : (w.step plainCore (.executeAsync plainArguments)).2 = .ok (some _) := rfl
  obtain ⟨htimeout, -, hserial, hpage⟩ := default_getters_tell_requests hplain rfl rfl hsent
  exact ⟨w, _, hplain, hsent, htimeout, hserial, hpage⟩

end Agreement

end Legacy

end ScyllaDriver
