import Mathlib.Logic.Relation
import ScyllaDriver.SessionConfig

/-! `SessionBuilder`. Eight settings are stored twice, in the `SessionConfig` that `connect`
uses and in a field that Python reads. -/

namespace ScyllaDriver

namespace SessionBuilder

variable {X : X509} {F : Type}

structure PySessionBuilderConfig (X : X509) (F : Type) where
  config : SessionConfig X
  executionProfile : PyExecutionProfile F
  contactPoints : List ParsedAddress
  hostFilter : Option PyObject
  authenticator : Option PyObject
  addressTranslator : Option PyObject
  timestampGenerator : Option PyObject
  shardAwareLocalPortRange : Nat × Nat
  tlsContext : Option PyTlsConfig
  isExecutionProfileSet : Bool

/-- `config` is what `SessionConfig::new` returns. -/
def PySessionBuilderConfig.new (config : SessionConfig X) : PySessionBuilderConfig X F where
  config := config
  executionProfile := ⟨config.defaultExecutionProfile, none⟩
  contactPoints := []
  hostFilter := none
  authenticator := none
  addressTranslator := none
  timestampGenerator := none
  shardAwareLocalPortRange := (49152, 65535)
  tlsContext := none
  isExecutionProfileSet := false

/-- `noMemory` is the failure of `Py::new`. -/
inductive CallError where
  | config (error : DriverSessionConfigError)
  | noMemory
  deriving DecidableEq, Repr

/-- A method call with its arguments. An argument that cannot be extracted is refused before the
method runs. -/
inductive Call (X : X509) (F : Type) where
  | contactPoints (points : List ParsedAddress)
  | executionProfile (profile : PyExecutionProfile F)
  | user (username password : String)
  | authenticatorProvider (object : PyObject)
  | addressTranslator (object : PyObject)
  | timestampGenerator (object : PyObject)
  | hostFilter (object : PyObject)
  | shardAwareLocalPortRange (range : Nat × Nat)
  | tlsContext (context : Option (SslConfigInner X)) (builder : SslConnectorBuilder X)
      (memory : Bool)
  | options (set : Options → Options)
  | refused (error : CallError)
  | getConfig (memory : Bool)
  | connect

namespace Call

variable {X : X509} {F : Type}

def localIpAddress (ip : Option IpAddr) : Call X F :=
  .options fun options => { options with localIpAddress := ip }

def compression (compression : Option Compression) : Call X F :=
  .options fun options => { options with compression := compression }

def schemaAgreementInterval (timeout : Duration) : Call X F :=
  .options fun options => { options with schemaAgreementInterval := timeout }

def tracingInfoFetchAttempts (attempts : Nat) : Call X F :=
  .options fun options => { options with tracingInfoFetchAttempts := attempts }

def tracingInfoFetchInterval (interval : Duration) : Call X F :=
  .options fun options => { options with tracingInfoFetchInterval := interval }

def tracingInfoFetchConsistency (consistency : Consistency) : Call X F :=
  .options fun options => { options with tracingInfoFetchConsistency := consistency }

def tcpNodelay (nodelay : Bool) : Call X F :=
  .options fun options => { options with tcpNodelay := nodelay }

def tcpKeepaliveInterval (interval : Option Duration) : Call X F :=
  .options fun options => { options with tcpKeepaliveInterval := interval }

def useKeyspace (keyspaceName : String) (caseSensitive : Bool) : Call X F :=
  .options fun options =>
    { options with usedKeyspace := some keyspaceName, keyspaceCaseSensitive := caseSensitive }

def connectionTimeout (timeout : Duration) : Call X F :=
  .options fun options => { options with connectTimeout := timeout }

def poolSize (size : PoolSize) : Call X F :=
  .options fun options => { options with connectionPoolSize := size }

def disallowShardAwarePort (disallow : Bool) : Call X F :=
  .options fun options => { options with disallowShardAwarePort := disallow }

def keyspacesToFetch (keyspaces : List String) : Call X F :=
  .options fun options => { options with keyspacesToFetch := keyspaces }

def fetchSchemaMetadata (fetch : Bool) : Call X F :=
  .options fun options => { options with fetchSchemaMetadata := fetch }

def metadataRequestServersideTimeout (timeout : Duration) : Call X F :=
  .options fun options => { options with metadataRequestServersideTimeout := some timeout }

def keepaliveInterval (interval : Option Duration) : Call X F :=
  .options fun options => { options with keepaliveInterval := interval }

def keepaliveTimeout (timeout : Option Duration) : Call X F :=
  .options fun options => { options with keepaliveTimeout := timeout }

def schemaAgreementTimeout (timeout : Duration) : Call X F :=
  .options fun options => { options with schemaAgreementTimeout := timeout }

def autoAwaitSchemaAgreement (enabled : Bool) : Call X F :=
  .options fun options => { options with schemaAgreementAutomaticWaiting := enabled }

def hostnameResolutionTimeout (duration : Option Duration) : Call X F :=
  .options fun options => { options with hostnameResolutionTimeout := duration }

def refreshMetadataOnAutoSchemaAgreement (refreshMetadata : Bool) : Call X F :=
  .options fun options => { options with refreshMetadataOnAutoSchemaAgreement := refreshMetadata }

/-- Without a delay the old one stays, switched off. -/
def writeCoalescing (delay : Option WriteCoalescingDelay) : Call X F :=
  .options fun options => match delay with
    | some delay => { options with writeCoalescingDelay := delay, enableWriteCoalescing := true }
    | none => { options with enableWriteCoalescing := false }

def customIdentity (identity : SelfIdentity) : Call X F :=
  .options fun options => { options with identity := identity }

end Call

namespace PySessionBuilderConfig

variable (accepts : Nat → Nat → Bool)

def knownNode : ParsedAddress → KnownNode
  | .resolved addr => .address addr
  | .unresolved host => .hostname host

/-- `ContactPoints::add_known_nodes`. -/
def addKnownNodes (points : List ParsedAddress) (config : SessionConfig X) : SessionConfig X :=
  points.foldl (fun config point => config.addKnownNode (knownNode point)) config

/-- One call; an error leaves what the method had written until then. -/
def call (inner : PySessionBuilderConfig X F) :
    Call X F → PySessionBuilderConfig X F × Except CallError Unit
  | .contactPoints points =>
    ({ inner with config := addKnownNodes points inner.config,
                  contactPoints := inner.contactPoints ++ points }, .ok ())
  | .executionProfile profile =>
    ({ inner with executionProfile := profile,
                  config := { inner.config with defaultExecutionProfile := profile.inner },
                  isExecutionProfileSet := true }, .ok ())
  | .user username password =>
    ({ inner with config :=
        { inner.config with authenticator := some (.plainText username password) } }, .ok ())
  | .authenticatorProvider object => match PyAuthenticatorProvider.extract object with
    | .ok authenticator =>
      ({ inner with authenticator := some object,
                    config := { inner.config with authenticator := some authenticator } }, .ok ())
    | .error error => (inner, .error (.config error))
  | .addressTranslator object => match PyAddressTranslator.extract object with
    | .ok translator =>
      ({ inner with addressTranslator := some object,
                    config := { inner.config with addressTranslator := some translator } }, .ok ())
    | .error error => (inner, .error (.config error))
  | .timestampGenerator object => match PyTimestampGenerator.extract object with
    | .ok generator =>
      ({ inner with timestampGenerator := some object,
                    config := { inner.config with timestampGenerator := some generator } }, .ok ())
    | .error error => (inner, .error (.config error))
  | .hostFilter object => match PyHostFilter.extract object with
    | .ok hostFilter =>
      ({ inner with hostFilter := some object,
                    config := { inner.config with hostFilter := some hostFilter } }, .ok ())
    | .error error => (inner, .error (.config error))
  | .shardAwareLocalPortRange portRange =>
    let inner := { inner with shardAwareLocalPortRange := portRange }
    match ShardAwarePortRange.new accepts portRange with
    | some range =>
      ({ inner with config := { inner.config with shardAwareLocalPortRange := range } }, .ok ())
    | none => (inner, .error (.config .invalidPortRange))
  | .tlsContext (some context) builder memory => match context.buildWithSnapshot builder with
    | .error error => (inner, .error (.config (.invalidTlsConfig error)))
    | .ok (context, snapshot) =>
      let inner := { inner with config := { inner.config with tlsContext := some context } }
      if memory then ({ inner with tlsContext := some snapshot }, .ok ())
      else (inner, .error .noMemory)
  | .tlsContext none _ _ =>
    ({ inner with config := { inner.config with tlsContext := none }, tlsContext := none }, .ok ())
  | .options set =>
    ({ inner with config := { inner.config with options := set inner.config.options } }, .ok ())
  | .refused error => (inner, .error error)
  | .getConfig memory => (inner, if memory then .ok () else .error .noMemory)
  | .connect => (inner, .ok ())

/-- `get_config` returns a copy. -/
def getConfig (inner : PySessionBuilderConfig X F) : PySessionBuilderConfig X F := inner

def connectParams (inner : PySessionBuilderConfig X F) : SessionConfig X × Option F :=
  (inner.config, inner.executionProfile.rowFactory)

end PySessionBuilderConfig

/-- The object is the one that the policy was made of. -/
def DescribesPolicy (extract : PyObject → Except DriverSessionConfigError Adapter) :
    Option PyObject → Option Adapter → Prop
  | some object, some adapter => extract object = .ok adapter
  | none, none => True
  | _, _ => False

/-- A provider for its own adapter, and nothing for a user and password. -/
def DescribesAuthenticator : Option PyObject → Option Authenticator → Prop
  | some object, some (.custom provider) =>
    PyAuthenticatorProvider.extract object = .ok (.custom provider)
  | none, some (.plainText _ _) => True
  | none, none => True
  | _, _ => False

def DescribesTls : Option PyTlsConfig → Option (SslContext X) → Prop
  | some config, some context => config.Describes context
  | none, none => True
  | _, _ => False

/-- What Python is shown is what the driver uses. -/
structure Describes (shown : PySessionBuilderConfig X F) (config : SessionConfig X) : Prop where
  authenticator : DescribesAuthenticator shown.authenticator config.authenticator
  hostFilter : DescribesPolicy PyHostFilter.extract shown.hostFilter config.hostFilter
  addressTranslator :
    DescribesPolicy PyAddressTranslator.extract shown.addressTranslator config.addressTranslator
  timestampGenerator :
    DescribesPolicy PyTimestampGenerator.extract shown.timestampGenerator config.timestampGenerator
  executionProfile : shown.executionProfile.inner = config.defaultExecutionProfile
  contactPoints : shown.contactPoints.map PySessionBuilderConfig.knownNode = config.knownNodes
  shardAwareLocalPortRange : shown.shardAwareLocalPortRange = config.shardAwareLocalPortRange
  tlsContext : DescribesTls shown.tlsContext config.tlsContext

/-- The calls that keep both sides together. -/
def Careful (accepts : Nat → Nat → Bool) (inner : PySessionBuilderConfig X F) : Call X F → Prop
  | .user _ _ => inner.authenticator = none
  | .shardAwareLocalPortRange portRange => accepts portRange.1 portRange.2 = true
  | .tlsContext (some context) _ memory =>
    (PyVerifyMode.ofSsl context.verifyMode).toSsl = context.verifyMode ∧ memory = true
  | _ => True

section Calls

variable {accepts : Nat → Nat → Bool} {inner : PySessionBuilderConfig X F}

theorem knownNodes_addKnownNodes (points : List ParsedAddress) (config : SessionConfig X) :
    PySessionBuilderConfig.addKnownNodes points config =
      { config with knownNodes := config.knownNodes ++ points.map PySessionBuilderConfig.knownNode } := by
  induction points generalizing config with
  | nil => simp [PySessionBuilderConfig.addKnownNodes]
  | cons point points ih =>
    have hcons : PySessionBuilderConfig.addKnownNodes (point :: points) config =
        PySessionBuilderConfig.addKnownNodes points
          (config.addKnownNode (PySessionBuilderConfig.knownNode point)) := rfl
    rw [hcons, ih]
    simp [SessionConfig.addKnownNode]

theorem extract_custom {object : PyObject} {authenticator : Authenticator}
    (h : PyAuthenticatorProvider.extract object = .ok authenticator) :
    authenticator = .custom object := by
  simp only [PyAuthenticatorProvider.extract] at h
  split at h <;> cases h
  rfl

theorem Describes.call (h : Describes inner inner.config) {call : Call X F}
    (hcareful : Careful accepts inner call) :
    Describes (inner.call accepts call).1 (inner.call accepts call).1.config := by
  cases call with
  | contactPoints points =>
    have hpoints : (inner.contactPoints ++ points).map PySessionBuilderConfig.knownNode =
        (PySessionBuilderConfig.addKnownNodes points inner.config).knownNodes := by
      rw [knownNodes_addKnownNodes, List.map_append, h.contactPoints]
    refine ⟨?_, ?_, ?_, ?_, ?_, hpoints, ?_, ?_⟩ <;>
      simp only [PySessionBuilderConfig.call, knownNodes_addKnownNodes]
    exacts [h.authenticator, h.hostFilter, h.addressTranslator, h.timestampGenerator,
      h.executionProfile, h.shardAwareLocalPortRange, h.tlsContext]
  | executionProfile profile => exact { h with executionProfile := rfl }
  | user username password =>
    have hnone : inner.authenticator = none := hcareful
    have hauthenticator : DescribesAuthenticator inner.authenticator
        (some (.plainText username password)) := by
      rw [hnone]
      trivial
    exact { h with authenticator := hauthenticator }
  | authenticatorProvider object =>
    simp only [PySessionBuilderConfig.call]
    split
    · rename_i authenticator hextract
      obtain rfl := extract_custom hextract
      exact { h with authenticator := hextract }
    · exact h
  | addressTranslator object =>
    simp only [PySessionBuilderConfig.call]
    split
    · rename_i translator hextract
      exact { h with addressTranslator := hextract }
    · exact h
  | timestampGenerator object =>
    simp only [PySessionBuilderConfig.call]
    split
    · rename_i generator hextract
      exact { h with timestampGenerator := hextract }
    · exact h
  | hostFilter object =>
    simp only [PySessionBuilderConfig.call]
    split
    · rename_i hostFilter hextract
      exact { h with hostFilter := hextract }
    · exact h
  | shardAwareLocalPortRange portRange =>
    have haccepts : accepts portRange.1 portRange.2 = true := hcareful
    simp only [PySessionBuilderConfig.call, ShardAwarePortRange.new, haccepts, if_true]
    exact { h with shardAwareLocalPortRange := rfl }
  | tlsContext context builder memory =>
    cases context with
    | none => exact { h with tlsContext := trivial }
    | some context =>
      obtain ⟨hmode, rfl⟩ := hcareful
      simp only [PySessionBuilderConfig.call]
      split
      · exact h
      · rename_i built snapshot hbuild
        obtain ⟨rfl, rfl⟩ := context.buildWithSnapshot_eq_ok hbuild
        exact { h with tlsContext := context.snapshot_describes_iff.mpr hmode }
  | options set | refused error | getConfig memory | connect => exact { h with }

/-- A call that raises is refused before anything is written. -/
theorem call_error {call : Call X F} (hcareful : Careful accepts inner call) {error : CallError}
    (herror : (inner.call accepts call).2 = .error error) : (inner.call accepts call).1 = inner := by
  cases call with
  | contactPoints points | executionProfile profile | user username password | options set
  | connect => cases herror
  | authenticatorProvider object | addressTranslator object | timestampGenerator object
  | hostFilter object =>
    simp only [PySessionBuilderConfig.call] at herror ⊢
    split at herror
    · cases herror
    · rfl
  | shardAwareLocalPortRange portRange =>
    have haccepts : accepts portRange.1 portRange.2 = true := hcareful
    simp [PySessionBuilderConfig.call, ShardAwarePortRange.new, haccepts] at herror
  | tlsContext context builder memory =>
    cases context with
    | none => cases herror
    | some context =>
      obtain ⟨hmode, rfl⟩ := hcareful
      simp only [PySessionBuilderConfig.call] at herror ⊢
      split at herror
      · rfl
      · cases herror
  | refused error => rfl
  | getConfig memory => rfl

end Calls

/-- The states after any sequence of careful calls. -/
def Reachable (accepts : Nat → Nat → Bool) (config : SessionConfig X) :
    PySessionBuilderConfig X F → Prop :=
  Relation.ReflTransGen
    (fun inner next => ∃ call, Careful accepts inner call ∧ next = (inner.call accepts call).1)
    (.new config)

theorem describes_new {config : SessionConfig X} (hfresh : config.Fresh) :
    Describes (PySessionBuilderConfig.new config : PySessionBuilderConfig X F) config := by
  refine ⟨?_, ?_, ?_, ?_, rfl, hfresh.knownNodes.symm, hfresh.shardAwareLocalPortRange.symm, ?_⟩
  · rw [hfresh.authenticator]
    trivial
  · rw [hfresh.hostFilter]
    trivial
  · rw [hfresh.addressTranslator]
    trivial
  · rw [hfresh.timestampGenerator]
    trivial
  · rw [hfresh.tlsContext]
    trivial

theorem builder_shows_config {accepts : Nat → Nat → Bool} {config : SessionConfig X}
    (hfresh : config.Fresh) {inner : PySessionBuilderConfig X F}
    (hreachable : Reachable accepts config inner) :
    Describes inner.getConfig inner.connectParams.1 ∧
      ∀ call, Careful accepts inner call → ∀ error, (inner.call accepts call).2 = .error error →
        (inner.call accepts call).1 = inner := by
  refine ⟨?_, fun call hcareful error => call_error hcareful⟩
  have hdescribes : Describes inner inner.config := by
    induction hreachable with
    | refl => exact describes_new hfresh
    | tail _ hstep ih =>
      obtain ⟨call, hcareful, rfl⟩ := hstep
      exact ih.call hcareful
  exact hdescribes

def noCerts : X509 := ⟨Nat, fun _ => .ok [], fun _ => .error "no certificate"⟩

/-- A builder of contexts that never fails. -/
def openssl : SslConnectorBuilder noCerts :=
  ⟨.ok (), fun _ _ => .ok (), fun _ => .ok (), fun _ => .ok (), fun _ => .ok ()⟩

def freshConfig : SessionConfig noCerts where
  knownNodes := []
  defaultExecutionProfile := ⟨some 30000000000, .localQuorum, some .localSerial⟩
  authenticator := none
  addressTranslator := none
  timestampGenerator := none
  hostFilter := none
  shardAwareLocalPortRange := (49152, 65535)
  tlsContext := none
  options :=
    { localIpAddress := none
      compression := none
      schemaAgreementInterval := 200000000
      tracingInfoFetchAttempts := 10
      tracingInfoFetchInterval := 3000000
      tracingInfoFetchConsistency := .one
      tcpNodelay := true
      tcpKeepaliveInterval := none
      usedKeyspace := none
      keyspaceCaseSensitive := false
      connectTimeout := 5000000000
      connectionPoolSize := .perShard 1
      disallowShardAwarePort := false
      keyspacesToFetch := []
      fetchSchemaMetadata := true
      metadataRequestServersideTimeout := some 2000000000
      keepaliveInterval := some 30000000000
      keepaliveTimeout := some 30000000000
      schemaAgreementTimeout := 60000000000
      schemaAgreementAutomaticWaiting := true
      hostnameResolutionTimeout := some 5000000000
      refreshMetadataOnAutoSchemaAgreement := true
      writeCoalescingDelay := .smallNondeterministic
      enableWriteCoalescing := true
      identity := ⟨none, none, none, none, none⟩ }

def provider : PyObject := ⟨1, some .authenticatorProvider, "SimpleProvider", []⟩

def acceptsPorts (start stop : Nat) : Bool := 1024 ≤ start && start ≤ stop

/-- A provider takes the place of a user, the ports are valid, and no certificate is verified; an
object that is no host filter is then refused. -/
theorem builder_shows_config_provider : ∃ inner : PySessionBuilderConfig noCerts Nat,
    (inner.authenticator = some provider ∧ inner.config.authenticator = some (.custom provider) ∧
      inner.shardAwareLocalPortRange = (1024, 2000) ∧ inner.tlsContext.isSome = true) ∧
    Describes inner.getConfig inner.connectParams.1 ∧
    (inner.call acceptsPorts (.hostFilter provider)).2 =
      .error (.config (.invalidHostFilter "SimpleProvider")) ∧
    (inner.call acceptsPorts (.hostFilter provider)).1 = inner := by
  have hfresh : freshConfig.Fresh := ⟨rfl, rfl, rfl, rfl, rfl, rfl, rfl⟩
  have huser : Reachable (F := Nat) acceptsPorts freshConfig _ :=
    .single ⟨.user "cassandra" "cassandra", rfl, rfl⟩
  have hprovider := huser.tail ⟨.authenticatorProvider provider, trivial, rfl⟩
  have hports := hprovider.tail ⟨.shardAwareLocalPortRange (1024, 2000), rfl, rfl⟩
  have htls := hports.tail
    ⟨.tlsContext (some (SslConfigInner.new.setVerifyMode .none)) openssl true,
      ⟨by decide, rfl⟩, rfl⟩
  obtain ⟨hdescribes, hraises⟩ := builder_shows_config hfresh htls
  exact ⟨_, ⟨rfl, rfl, rfl, rfl⟩, hdescribes, rfl, hraises _ trivial _ rfl⟩

/-- After a user the provider set before is still shown; ports that are refused are shown all the
same; a context that verifies certificates is shown as one that does not. -/
theorem builder_shows_other_config :
    let new : PySessionBuilderConfig noCerts Nat := .new freshConfig
    let user := ((new.call acceptsPorts (.authenticatorProvider provider)).1.call acceptsPorts
      (.user "cassandra" "cassandra")).1
    let ports := new.call acceptsPorts (.shardAwareLocalPortRange (80, 2000))
    let tls := (new.call acceptsPorts (.tlsContext (some .new) openssl true)).1
    ¬ Describes user.getConfig user.connectParams.1 ∧
      (ports.2 = .error (.config .invalidPortRange) ∧ ports.1 ≠ new ∧
        ¬ Describes ports.1.getConfig ports.1.connectParams.1) ∧
      ¬ Describes tls.getConfig tls.connectParams.1 := by
  refine ⟨fun h => h.authenticator, ⟨rfl, fun h => ?_, fun h => ?_⟩, fun h => ?_⟩
  · exact absurd (congrArg PySessionBuilderConfig.shardAwareLocalPortRange h) (by decide)
  · exact absurd h.shardAwareLocalPortRange (by decide)
  · exact absurd h.tlsContext.verifyMode (by decide)

end SessionBuilder

end ScyllaDriver
