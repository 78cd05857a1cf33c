import Mathlib.Logic.Basic

/-! `scylla.tls`: a `TlsContext` collects what OpenSSL is to load, and `build_with_snapshot`
builds the OpenSSL context together with the `TlsConfig` that Python sees of it. -/

namespace ScyllaDriver

/-- A Python object with the Rust value that was extracted from it. -/
structure WithOriginalPyObject {Obj T ε : Type} (extract : Obj → Except ε T) where
  original : Obj
  extracted : T
  of_extract : extract original = .ok extracted

inductive PyVerifyMode where
  | none
  | required
  deriving DecidableEq, Repr

/-- OpenSSL's `SSL_VERIFY` bits. -/
abbrev SslVerifyMode := BitVec 32

namespace SslVerifyMode

def none : SslVerifyMode := 0

def peer : SslVerifyMode := 1

def failIfNoPeerCert : SslVerifyMode := 2

def contains (mode other : SslVerifyMode) : Bool := mode &&& other = other

end SslVerifyMode

def PyVerifyMode.toSsl : PyVerifyMode → SslVerifyMode
  | .none => SslVerifyMode.none
  | .required => SslVerifyMode.peer

def PyVerifyMode.ofSsl (mode : SslVerifyMode) : PyVerifyMode :=
  if SslVerifyMode.contains mode SslVerifyMode.failIfNoPeerCert then .required else .none

/-- `CERT_REQUIRED` sets another bit than the one it is recognised by. -/
theorem PyVerifyMode.ofSsl_toSsl (mode : PyVerifyMode) : PyVerifyMode.ofSsl mode.toSsl = .none := by
  cases mode <;> decide

abbrev Path := String

/-- The `cadata` argument. -/
inductive CaSource where
  | pem (text : String)
  | der (bytes : List UInt8)
  | other
  deriving DecidableEq, Repr

inductive TlsConfigError where
  | contextCreationFailed (cause : String)
  | caLocationsLoadFailed (caFile caPath : Option Path) (cause : String)
  | noCaLocationsSpecified
  | caDataLoadFailed (cause : String)
  | certFileLoadFailed (path : Path) (cause : String)
  | keyFileLoadFailed (path : Path) (cause : String)
  deriving DecidableEq, Repr

/-- How OpenSSL reads certificates. -/
structure X509 where
  Cert : Type
  stackFromPem : String → Except String (List Cert)
  fromDer : List UInt8 → Except String Cert

/-- What OpenSSL answers while a context is built; the files are those of that moment. -/
structure SslConnectorBuilder (X : X509) where
  builder : Except String Unit
  loadVerifyLocations : Option Path → Option Path → Except String Unit
  addCert : X.Cert → Except String Unit
  setCertificateChainFile : Path → Except String Unit
  setPrivateKeyFile : Path → Except String Unit

def CaData.extract (X : X509) : CaSource → Except TlsConfigError (List X.Cert)
  | .pem text => (X.stackFromPem text).mapError .caDataLoadFailed
  | .der bytes => ((X.fromDer bytes).map fun certificate => [certificate]).mapError .caDataLoadFailed
  | .other => .error (.caDataLoadFailed "cadata must be a PEM string or DER bytes")

structure SslConfigInner (X : X509) where
  caFile : Option Path
  caPath : Option Path
  caData : Option (WithOriginalPyObject (CaData.extract X))
  certFile : Option Path
  keyFile : Option Path
  verifyMode : SslVerifyMode

structure PyTlsConfig where
  caFile : Option Path
  caPath : Option Path
  caData : Option CaSource
  certFile : Option Path
  keyFile : Option Path
  verifyMode : PyVerifyMode
  deriving DecidableEq, Repr

/-- What an OpenSSL context has loaded. -/
structure SslContext (X : X509) where
  caFile : Option Path
  caPath : Option Path
  certificates : List X.Cert
  certificateChainFile : Option Path
  privateKeyFile : Option Path
  verify : SslVerifyMode

namespace SslConfigInner

variable {X : X509}

def new : SslConfigInner X := ⟨none, none, none, none, none, SslVerifyMode.peer⟩

def loadVerifyLocations (inner : SslConfigInner X) (caFile caPath : Option Path)
    (caData : Option (WithOriginalPyObject (CaData.extract X))) :
    Except TlsConfigError (SslConfigInner X) :=
  if caFile.isNone && caPath.isNone && caData.isNone then .error .noCaLocationsSpecified
  else .ok { inner with caFile := caFile, caPath := caPath, caData := caData }

def loadCertChain (inner : SslConfigInner X) (certFile : Path) (keyFile : Option Path) :
    SslConfigInner X :=
  { inner with certFile := some certFile, keyFile := keyFile }

def setVerifyMode (inner : SslConfigInner X) (mode : PyVerifyMode) : SslConfigInner X :=
  { inner with verifyMode := mode.toSsl }

def getVerifyMode (inner : SslConfigInner X) : PyVerifyMode := .ofSsl inner.verifyMode

def loadCaLocations (inner : SslConfigInner X) (builder : SslConnectorBuilder X) :
    Except TlsConfigError Unit :=
  if inner.caFile.isNone && inner.caPath.isNone then .ok ()
  else (builder.loadVerifyLocations inner.caFile inner.caPath).mapError
    (.caLocationsLoadFailed inner.caFile inner.caPath)

def addCerts (builder : SslConnectorBuilder X) : List X.Cert → Except TlsConfigError Unit
  | [] => .ok ()
  | certificate :: certificates => do
    (builder.addCert certificate).mapError .caDataLoadFailed
    addCerts builder certificates

def certificates (inner : SslConfigInner X) : List X.Cert :=
  (inner.caData.map (·.extracted)).getD []

/-- Without a key file OpenSSL reads the key from the certificate file. -/
def keyPath (inner : SslConfigInner X) (certFile : Path) : Path := inner.keyFile.getD certFile

def loadChain (inner : SslConfigInner X) (builder : SslConnectorBuilder X) :
    Option Path → Except TlsConfigError Unit
  | none => .ok ()
  | some certFile => do
    (builder.setCertificateChainFile certFile).mapError (.certFileLoadFailed certFile)
    (builder.setPrivateKeyFile (inner.keyPath certFile)).mapError
      (.keyFileLoadFailed (inner.keyPath certFile))

def snapshot (inner : SslConfigInner X) : PyTlsConfig where
  caFile := inner.caFile
  caPath := inner.caPath
  caData := inner.caData.map (·.original)
  certFile := inner.certFile
  keyFile := inner.keyFile
  verifyMode := .ofSsl inner.verifyMode

def context (inner : SslConfigInner X) : SslContext X where
  caFile := inner.caFile
  caPath := inner.caPath
  certificates := inner.certificates
  certificateChainFile := inner.certFile
  privateKeyFile := inner.certFile.map inner.keyPath
  verify := inner.verifyMode

def buildWithSnapshot (inner : SslConfigInner X) (builder : SslConnectorBuilder X) :
    Except TlsConfigError (SslContext X × PyTlsConfig) := do
  builder.builder.mapError .contextCreationFailed
  inner.loadCaLocations builder
  addCerts builder inner.certificates
  inner.loadChain builder inner.certFile
  return (inner.context, inner.snapshot)

end SslConfigInner

/-- The snapshot says what the context has loaded. -/
structure PyTlsConfig.Describes {X : X509} (config : PyTlsConfig) (context : SslContext X) :
    Prop where
  caFile : config.caFile = context.caFile
  caPath : config.caPath = context.caPath
  caData : (config.caData = none ∧ context.certificates = []) ∨
    ∃ source, config.caData = some source ∧ CaData.extract X source = .ok context.certificates
  certFile : config.certFile = context.certificateChainFile
  keyFile : context.privateKeyFile = config.certFile.map config.keyFile.getD
  verifyMode : config.verifyMode.toSsl = context.verify

namespace SslConfigInner

variable {X : X509} (inner : SslConfigInner X)

/-- All but the verify mode is always as the snapshot says. -/
theorem snapshot_describes_iff :
    inner.snapshot.Describes inner.context ↔
      (PyVerifyMode.ofSsl inner.verifyMode).toSsl = inner.verifyMode := by
  constructor
  · exact fun h => h.verifyMode
  · intro hmode
    refine ⟨rfl, rfl, ?_, rfl, rfl, hmode⟩
    cases hdata : inner.caData with
    | none => exact .inl ⟨by simp [snapshot, hdata], by simp [context, certificates, hdata]⟩
    | some data =>
      refine .inr ⟨data.original, by simp [snapshot, hdata], ?_⟩
      simpa [context, certificates, hdata] using data.of_extract

theorem buildWithSnapshot_eq_ok {builder : SslConnectorBuilder X} {context : SslContext X}
    {config : PyTlsConfig} (h : inner.buildWithSnapshot builder = .ok (context, config)) :
    context = inner.context ∧ config = inner.snapshot := by
  simp only [buildWithSnapshot, bind, Except.bind, pure, Except.pure] at h
  split at h
  · cases h
  split at h
  · cases h
  split at h
  · cases h
  split at h
  · cases h
  · cases h
    exact ⟨rfl, rfl⟩

end SslConfigInner

end ScyllaDriver
