import ScyllaDriver.SessionBuilder

/-! A `TlsContext` over a sequence of calls, its hand-over to a `SessionBuilder`, and what
the builder reports of it while the context goes on changing. -/

namespace ScyllaDriver

namespace TlsContext

open SessionBuilder

/-- A method call on a `TlsContext`. -/
inductive Call where
  | loadVerifyLocations (caFile caPath : Option Path) (caData : Option CaSource)
  | loadCertChain (certFile : Path) (keyFile : Option Path)
  | setVerifyMode (mode : PyVerifyMode)
  deriving DecidableEq, Repr

section Code

variable {X : X509} {F : Type}

/-- The `cadata` argument is extracted before the method runs. -/
def extractCaData (X : X509) :
    Option CaSource → Except TlsConfigError (Option (WithOriginalPyObject (CaData.extract X)))
  | none => .ok none
  | some source =>
    match h : CaData.extract X source with
    | .ok certificates => .ok (some ⟨source, certificates, h⟩)
    | .error e => .error e

/-- A call that raises leaves the context as it was. -/
def call (context : SslConfigInner X) : Call → Except TlsConfigError (SslConfigInner X)
  | .loadVerifyLocations caFile caPath caData => do
    let caData ← extractCaData X caData
    context.loadVerifyLocations caFile caPath caData
  | .loadCertChain certFile keyFile => .ok (context.loadCertChain certFile keyFile)
  | .setVerifyMode mode => .ok (context.setVerifyMode mode)

def calls (context : SslConfigInner X) (cs : List Call) : SslConfigInner X :=
  cs.foldl (fun context c => (call context c).toOption.getD context) context

/-- A context, and a builder that it may be handed to. -/
structure Objects (X : X509) (F : Type) where
  context : SslConfigInner X
  builder : PySessionBuilderConfig X F

variable (accepts : Nat → Nat → Bool)

/-- `builder.tls_context(context)`. -/
def Objects.handOver (objects : Objects X F) (openssl : SslConnectorBuilder X) (memory : Bool) :
    Objects X F × Except CallError Unit :=
  let (builder, result) :=
    objects.builder.call accepts (.tlsContext (some objects.context) openssl memory)
  ({ objects with builder := builder }, result)

def Objects.change (objects : Objects X F) (cs : List Call) : Objects X F :=
  { objects with context := calls objects.context cs }

end Code

section Specification

/-- The value that the last of the calls gave, for those that give one. -/
def lastGiven {α : Type} (given : Call → Option α) (initial : α) (cs : List Call) : α :=
  (cs.reverse.findSome? given).getD initial

/-- The CA file, path and data of a call that is accepted. -/
def Call.locations (X : X509) : Call → Option (Option Path × Option Path × Option CaSource)
  | .loadVerifyLocations caFile caPath caData =>
    if (extractCaData X caData).toOption.isSome ∧ ¬ (caFile = none ∧ caPath = none ∧ caData = none)
    then some (caFile, caPath, caData) else none
  | _ => none

def Call.chain : Call → Option (Option Path × Option Path)
  | .loadCertChain certFile keyFile => some (some certFile, keyFile)
  | _ => none

def Call.mode : Call → Option PyVerifyMode
  | .setVerifyMode mode => some mode
  | _ => none

def lastLocations (X : X509) (cs : List Call) : Option Path × Option Path × Option CaSource :=
  lastGiven (Call.locations X) (none, none, none) cs

def lastChain (cs : List Call) : Option Path × Option Path := lastGiven Call.chain (none, none) cs

def lastMode (cs : List Call) : PyVerifyMode := lastGiven Call.mode .required cs

variable {X : X509} {F : Type}

/-- The builder reports the locations, the certificate and the key of the last of the calls
before the hand-over. -/
structure Keeps (before : List Call) (shown : PyTlsConfig) : Prop where
  locations : (shown.caFile, shown.caPath, shown.caData) = lastLocations X before
  chain : (shown.certFile, shown.keyFile) = lastChain before

/-- What holds of a context and of the builder it was handed to after the calls `before`,
once the calls `later` were made as well. -/
structure Faithful (before later : List Call) (objects : Objects X F) : Prop where
  reported : ∃ shown built, objects.builder.getConfig.tlsContext = some shown ∧
    objects.builder.connectParams.1.tlsContext = some built ∧
    Keeps (X := X) before shown ∧ shown.verifyMode.toSsl = built.verify
  readsBack : objects.context.getVerifyMode = lastMode (before ++ later)

end Specification

section Proofs

variable {X : X509} {F : Type}

theorem lastGiven_concat {α : Type} (given : Call → Option α) (initial : α) (cs : List Call)
    (c : Call) : lastGiven given initial (cs ++ [c]) = (given c).getD (lastGiven given initial cs) := by
  unfold lastGiven
  rw [List.reverse_append, List.reverse_singleton, List.singleton_append, List.findSome?_cons]
  cases given c with
  | none => rfl
  | some a => rfl

theorem calls_concat (context : SslConfigInner X) (cs : List Call) (c : Call) :
    calls context (cs ++ [c]) =
      (call (calls context cs) c).toOption.getD (calls context cs) := by
  simp [calls]

theorem calls_append (context : SslConfigInner X) (cs ds : List Call) :
    calls context (cs ++ ds) = calls (calls context cs) ds := by
  simp [calls]

/-- The context holds what the last calls gave. -/
structure Holds (cs : List Call) (context : SslConfigInner X) : Prop where
  locations :
    (context.caFile, context.caPath, context.caData.map (·.original)) = lastLocations X cs
  chain : (context.certFile, context.keyFile) = lastChain cs
  mode : context.verifyMode = (lastMode cs).toSsl

theorem extractCaData_original {source : Option CaSource}
    {data : Option (WithOriginalPyObject (CaData.extract X))}
    (h : extractCaData X source = .ok data) : data.map (·.original) = source := by
  unfold extractCaData at h
  split at h
  · cases h
    rfl
  · split at h
    · cases h
      rfl
    · cases h

/-- What one call gives takes the place of what the context held. -/
theorem Holds.concat {cs : List Call} {context context' : SslConfigInner X} (h : Holds cs context)
    (c : Call)
    (hl : (context'.caFile, context'.caPath, context'.caData.map (·.original)) =
      (c.locations X).getD (context.caFile, context.caPath, context.caData.map (·.original)))
    (hc : (context'.certFile, context'.keyFile) =
      c.chain.getD (context.certFile, context.keyFile))
    (hm : context'.verifyMode = (c.mode.map PyVerifyMode.toSsl).getD context.verifyMode) :
    Holds (cs ++ [c]) context' := by
  refine ⟨?_, ?_, ?_⟩
  · rw [hl, h.locations, lastLocations, lastLocations, lastGiven_concat]
  · rw [hc, h.chain, lastChain, lastChain, lastGiven_concat]
  · rw [hm, h.mode, lastMode, lastMode, lastGiven_concat]
    cases c.mode with
    | none => rfl
    | some mode => rfl

/-- Either the locations are taken over, or the call raises. -/
theorem call_loadVerifyLocations (context : SslConfigInner X) (caFile caPath : Option Path)
    (caData : Option CaSource) :
    (∃ data, data.map (·.original) = caData ∧
      call context (.loadVerifyLocations caFile caPath caData) =
        .ok { context with caFile := caFile, caPath := caPath, caData := data } ∧
      (Call.loadVerifyLocations caFile caPath caData).locations X =
        some (caFile, caPath, caData)) ∨
    ((call context (.loadVerifyLocations caFile caPath caData)).toOption = none ∧
      (Call.loadVerifyLocations caFile caPath caData).locations X = none) := by
  cases hd : extractCaData X caData with
  | error e =>
    right
    simp [call, hd, bind, Except.bind, Call.locations, Except.toOption]
  | ok data =>
    have horig := extractCaData_original hd
    have hcall : call context (.loadVerifyLocations caFile caPath caData) =
        context.loadVerifyLocations caFile caPath data := by
      simp [call, hd, bind, Except.bind]
    by_cases hnone : caFile = none ∧ caPath = none ∧ caData = none
    · right
      obtain ⟨rfl, rfl, rfl⟩ := hnone
      cases hd
      exact ⟨rfl, rfl⟩
    · left
      have hsome : ¬ (caFile.isNone && caPath.isNone && data.isNone) = true := by
        intro hall
        apply hnone
        rw [← horig]
        simpa [and_assoc] using hall
      refine ⟨data, horig, ?_, ?_⟩
      · rw [hcall, SslConfigInner.loadVerifyLocations, if_neg hsome]
      · simp [Call.locations, hd, Except.toOption, hnone]

theorem Holds.call {cs : List Call} {context : SslConfigInner X} (h : Holds cs context) (c : Call) :
    Holds (cs ++ [c]) ((call context c).toOption.getD context) := by
  cases c with
  | loadVerifyLocations caFile caPath caData =>
    rcases call_loadVerifyLocations context caFile caPath caData with
      ⟨data, horig, hcall, hgiven⟩ | ⟨hcall, hgiven⟩
    · rw [hcall]
      apply h.concat
      · rw [hgiven, ← horig]
        rfl
      · rfl
      · rfl
    · rw [hcall]
      apply h.concat
      · rw [hgiven]
        rfl
      · rfl
      · rfl
  | loadCertChain certFile keyFile => exact h.concat _ rfl rfl rfl
  | setVerifyMode mode => exact h.concat _ rfl rfl rfl

theorem holds_calls (cs : List Call) : Holds cs (calls (X := X) .new cs) := by
  induction cs using List.reverseRecOn with
  | nil => exact ⟨rfl, rfl, rfl⟩
  | append_singleton cs c ih =>
    rw [calls_concat]
    exact ih.call c

theorem Holds.getVerifyMode_eq_iff {cs : List Call} {context : SslConfigInner X}
    (h : Holds cs context) : context.getVerifyMode = lastMode cs ↔ lastMode cs = .none := by
  rw [SslConfigInner.getVerifyMode, h.mode, PyVerifyMode.ofSsl_toSsl]
  exact eq_comm

theorem Holds.keeps {cs : List Call} {context : SslConfigInner X} (h : Holds cs context) :
    Keeps (X := X) cs context.snapshot :=
  ⟨h.locations, h.chain⟩

theorem Holds.snapshot_mode_iff {cs : List Call} {context : SslConfigInner X}
    (h : Holds cs context) :
    context.snapshot.verifyMode.toSsl = context.context.verify ↔ lastMode cs = .none := by
  change (PyVerifyMode.ofSsl context.verifyMode).toSsl = context.verifyMode ↔ _
  rw [h.mode, PyVerifyMode.ofSsl_toSsl]
  cases lastMode cs <;> decide

variable {accepts : Nat → Nat → Bool}

theorem handOver_eq_ok {objects : Objects X F} {openssl : SslConnectorBuilder X} {memory : Bool}
    (h : (objects.handOver accepts openssl memory).2 = .ok ()) :
    (objects.handOver accepts openssl memory).1.context = objects.context ∧
      (objects.handOver accepts openssl memory).1.builder.tlsContext =
        some objects.context.snapshot ∧
      (objects.handOver accepts openssl memory).1.builder.config.tlsContext =
        some objects.context.context := by
  simp only [Objects.handOver, PySessionBuilderConfig.call] at h ⊢
  cases hb : objects.context.buildWithSnapshot openssl with
  | error e => simp [hb] at h
  | ok result =>
    obtain ⟨built, shown⟩ := result
    obtain ⟨rfl, rfl⟩ := objects.context.buildWithSnapshot_eq_ok hb
    cases memory with
    | false => simp [hb] at h
    | true => simp

/-- What is reported after the hand-over is fixed by the calls before it. -/
theorem reported_of_handOver {before : List Call} (later : List Call)
    {builder : PySessionBuilderConfig X F} {openssl : SslConnectorBuilder X} {memory : Bool}
    (hok : (Objects.handOver accepts ⟨calls .new before, builder⟩ openssl memory).2 = .ok ()) :
    let handed := (Objects.handOver accepts ⟨calls .new before, builder⟩ openssl memory).1
    (handed.change later).builder.getConfig.tlsContext =
        some (calls (X := X) .new before).snapshot ∧
      (handed.change later).builder.connectParams.1.tlsContext =
        some (calls .new before).context ∧
      Keeps (X := X) before (calls (X := X) .new before).snapshot ∧
      (handed.change later).context = calls .new (before ++ later) := by
  obtain ⟨hcontext, hshown, hbuilt⟩ := handOver_eq_ok hok
  refine ⟨hshown, hbuilt, (holds_calls before).keeps, ?_⟩
  rw [calls_append]
  exact congrArg (calls · later) hcontext

/-- The locations, the certificate and the key are always those of the last calls; the
modes are right if the last one assigned was `CERT_NONE`, at the hand-over and now. -/
theorem tls_faithful_iff (before later : List Call) (builder : PySessionBuilderConfig X F)
    (openssl : SslConnectorBuilder X) (memory : Bool)
    (hok : (Objects.handOver accepts ⟨calls .new before, builder⟩ openssl memory).2 = .ok ()) :
    Faithful before later
        ((Objects.handOver accepts ⟨calls .new before, builder⟩ openssl memory).1.change later) ↔
      lastMode before = .none ∧ lastMode (before ++ later) = .none := by
  obtain ⟨hshown, hbuilt, hkeeps, hcontext⟩ := reported_of_handOver later hok
  have hmode := (holds_calls (X := X) before).snapshot_mode_iff
  have hnow := (holds_calls (X := X) (before ++ later)).getVerifyMode_eq_iff
  rw [← hcontext] at hnow
  constructor
  · rintro ⟨⟨shown, built, hs, hb, -, hm⟩, hr⟩
    rw [hshown] at hs
    rw [hbuilt] at hb
    cases hs
    cases hb
    exact ⟨hmode.mp hm, hnow.mp hr⟩
  · rintro ⟨hbefore, hlater⟩
    exact ⟨⟨_, _, hshown, hbuilt, hkeeps, hmode.mpr hbefore⟩, hnow.mpr hlater⟩

end Proofs

/-- A context without verification, changed again after the hand-over. -/
theorem tls_faithful_unverified :
    let before := [Call.loadVerifyLocations (some "ca.pem") none none, .setVerifyMode .none]
    let later := [Call.loadVerifyLocations none (some "certs") none, .loadCertChain "cert.pem" none]
    Faithful before later ((Objects.handOver acceptsPorts
      ⟨calls .new before, (.new freshConfig : PySessionBuilderConfig noCerts Nat)⟩ openssl true).1.change
        later) :=
  (tls_faithful_iff _ _ _ _ _ rfl).mpr ⟨rfl, rfl⟩

/-- A new context, for which nothing was assigned, reads and is reported as `CERT_NONE`,
while OpenSSL verifies the peer; so is one that `CERT_REQUIRED` was assigned to. -/
theorem tls_required_shown_as_none :
    let handed (before : List Call) := (Objects.handOver acceptsPorts
      ⟨calls .new before, (.new freshConfig : PySessionBuilderConfig noCerts Nat)⟩ openssl true).1
    ∀ before ∈ [[], [Call.setVerifyMode .required]],
      (handed before).context.getVerifyMode = .none ∧ lastMode before = .required ∧
        (handed before).builder.getConfig.tlsContext.map (·.verifyMode) = some .none ∧
        (handed before).builder.connectParams.1.tlsContext.map (·.verify) = some SslVerifyMode.peer ∧
        ¬ Faithful before [] (handed before) := by
  intro handed before hmem
  have hbefore : before = [] ∨ before = [.setVerifyMode .required] := by simpa using hmem
  rcases hbefore with rfl | rfl
  · refine ⟨by decide, rfl, rfl, rfl, fun h => ?_⟩
    exact absurd h.readsBack (by decide)
  · refine ⟨by decide, rfl, rfl, rfl, fun h => ?_⟩
    exact absurd h.readsBack (by decide)

end TlsContext

end ScyllaDriver
