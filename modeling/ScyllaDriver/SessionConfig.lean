import ScyllaDriver.CqlTypes
import ScyllaDriver.TlsContext

/-! The settings of a session: `SessionConfig` of the Rust driver, and the policies that
Python objects provide for it. -/

namespace ScyllaDriver

/-- In nanoseconds. -/
abbrev Duration := Nat

inductive Consistency where
  | any | one | two | three | quorum | all | localQuorum | eachQuorum | localOne | serial
  | localSerial
  deriving DecidableEq, Repr

inductive SerialConsistency where
  | serial
  | localSerial
  deriving DecidableEq, Repr

inductive Compression where
  | lz4
  | snappy
  deriving DecidableEq, Repr

inductive PoolSize where
  | perHost (connections : Nat)
  | perShard (connections : Nat)
  deriving DecidableEq, Repr

inductive WriteCoalescingDelay where
  | smallNondeterministic
  | milliseconds (delay : Nat)
  deriving DecidableEq, Repr

structure SelfIdentity where
  customDriverName : Option String
  customDriverVersion : Option String
  applicationName : Option String
  applicationVersion : Option String
  clientId : Option String
  deriving DecidableEq, Repr

structure ExecutionProfile where
  requestTimeout : Option Duration
  consistency : Consistency
  serialConsistency : Option SerialConsistency
  deriving DecidableEq, Repr

/-- `ExecutionProfile` as Python has it; `F` are the row factories. -/
structure PyExecutionProfile (F : Type) where
  inner : ExecutionProfile
  rowFactory : Option F

structure SocketAddr where
  ip : IpAddr
  port : Nat
  deriving DecidableEq, Repr

inductive ParsedAddress where
  | resolved (addr : SocketAddr)
  | unresolved (host : String)
  deriving DecidableEq, Repr

inductive KnownNode where
  | hostname (host : String)
  | address (addr : SocketAddr)
  deriving DecidableEq, Repr

/-- The classes of the driver that stand for a policy. -/
inductive PolicyClass where
  | authenticatorProvider
  | dictAddressTranslator
  | monotonicTimestampGenerator
  | simpleTimestampGenerator
  | allowListHostFilter
  | acceptAllHostFilter
  | dcHostFilter
  deriving DecidableEq, Repr

structure PyObject where
  id : Nat
  /-- The class of the driver that the object is an instance of, if any. -/
  cls : Option PolicyClass
  typeName : String
  attributes : List String
  deriving DecidableEq, Repr

inductive AddressParseError where
  | invalidType (typeName : String)
  | iterationFailed
  | invalidItem (index : Nat)
  deriving DecidableEq, Repr

inductive DriverSessionConfigError where
  | invalidPortRange
  | zeroDurationNotAllowed
  | invalidAddress (source : AddressParseError)
  | invalidAddressTranslator (typeName : String)
  | invalidAuthenticatorProvider (typeName : String)
  | invalidTimestampGenerator (typeName : String)
  | invalidHostFilter (typeName : String)
  | invalidTlsConfig (source : TlsConfigError)
  deriving DecidableEq, Repr

inductive Authenticator where
  | plainText (username password : String)
  | custom (provider : PyObject)
  deriving DecidableEq, Repr

/-- A policy of the Rust driver: the one inside a built-in object, or a wrapper of the object. -/
inductive Adapter where
  | builtin (object : PyObject)
  | custom (object : PyObject)
  deriving DecidableEq, Repr

def PyAuthenticatorProvider.extract (obj : PyObject) :
    Except DriverSessionConfigError Authenticator :=
  if obj.cls = some .authenticatorProvider then .ok (.custom obj)
  else .error (.invalidAuthenticatorProvider obj.typeName)

/-- A built-in class is taken as it is; anything else has to have the method. -/
def extractPolicy (builtins : List PolicyClass) (method : String)
    (error : String → DriverSessionConfigError) (obj : PyObject) :
    Except DriverSessionConfigError Adapter :=
  if builtins.any fun cls => obj.cls = some cls then .ok (.builtin obj)
  else if method ∈ obj.attributes then .ok (.custom obj)
  else .error (error obj.typeName)

def PyAddressTranslator.extract : PyObject → Except DriverSessionConfigError Adapter :=
  extractPolicy [.dictAddressTranslator] "translate" .invalidAddressTranslator

def PyTimestampGenerator.extract : PyObject → Except DriverSessionConfigError Adapter :=
  extractPolicy [.monotonicTimestampGenerator, .simpleTimestampGenerator] "next_timestamp"
    .invalidTimestampGenerator

def PyHostFilter.extract : PyObject → Except DriverSessionConfigError Adapter :=
  extractPolicy [.allowListHostFilter, .acceptAllHostFilter, .dcHostFilter] "accept"
    .invalidHostFilter

/-- `accepts` is the check of the Rust driver. -/
def ShardAwarePortRange.new (accepts : Nat → Nat → Bool) (range : Nat × Nat) :
    Option (Nat × Nat) :=
  if accepts range.1 range.2 then some range else none

/-- The settings that are stored for the Rust driver alone. -/
structure Options where
  localIpAddress : Option IpAddr
  compression : Option Compression
  schemaAgreementInterval : Duration
  tracingInfoFetchAttempts : Nat
  tracingInfoFetchInterval : Duration
  tracingInfoFetchConsistency : Consistency
  tcpNodelay : Bool
  tcpKeepaliveInterval : Option Duration
  usedKeyspace : Option String
  keyspaceCaseSensitive : Bool
  connectTimeout : Duration
  connectionPoolSize : PoolSize
  disallowShardAwarePort : Bool
  keyspacesToFetch : List String
  fetchSchemaMetadata : Bool
  metadataRequestServersideTimeout : Option Duration
  keepaliveInterval : Option Duration
  keepaliveTimeout : Option Duration
  schemaAgreementTimeout : Duration
  schemaAgreementAutomaticWaiting : Bool
  hostnameResolutionTimeout : Option Duration
  refreshMetadataOnAutoSchemaAgreement : Bool
  writeCoalescingDelay : WriteCoalescingDelay
  enableWriteCoalescing : Bool
  identity : SelfIdentity
  deriving DecidableEq, Repr

structure SessionConfig (X : X509) where
  knownNodes : List KnownNode
  defaultExecutionProfile : ExecutionProfile
  authenticator : Option Authenticator
  addressTranslator : Option Adapter
  timestampGenerator : Option Adapter
  hostFilter : Option Adapter
  shardAwareLocalPortRange : Nat × Nat
  tlsContext : Option (SslContext X)
  options : Options

def SessionConfig.addKnownNode {X : X509} (config : SessionConfig X) (node : KnownNode) :
    SessionConfig X :=
  { config with knownNodes := config.knownNodes ++ [node] }

/-- What `SessionConfig::new` of the Rust driver sets. -/
structure SessionConfig.Fresh {X : X509} (config : SessionConfig X) : Prop where
  knownNodes : config.knownNodes = []
  authenticator : config.authenticator = none
  addressTranslator : config.addressTranslator = none
  timestampGenerator : config.timestampGenerator = none
  hostFilter : config.hostFilter = none
  shardAwareLocalPortRange : config.shardAwareLocalPortRange = (49152, 65535)
  tlsContext : config.tlsContext = none

end ScyllaDriver
