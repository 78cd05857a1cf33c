import Mathlib.Logic.Relation
import ScyllaDriver.RetrySessions

/-! How a failed request is raised in Python, and how a retry policy has seen it before. Class
and attributes of the exception say which error the database sent for the last attempt, with all
it said; an error it sent while a statement was prepared or a keyspace selected is only text. -/

namespace ScyllaDriver

namespace RequestErrors

open RetrySessions (PyConsistency)

/-- The exception classes of `scylla.errors` that a request can raise, and their bases. -/
inductive Class where
  | exception | valueError | timeoutError | scyllaError
  | badQuery | valuesTooLongForKey | tooManyStatementsInBatch | partitionKeyExtractionFailed
  | pagingStateNotAllowed
  | executionError | operationTimedOut | noHostAvailable | metadataError | schemaAgreementError
  | connectionPoolError | connectionPoolBroken | connectionPoolInitializing
  | nodeDisabledByHostFilter
  | prepareError | repreparedIdChanged | repreparedIdMissingInBatch
  | requestFailedError | brokenConnection | connectionBusy | nonfinishedPagingState
  | protocolError | responseParseError | requestSerializationError | unexpectedResponse
  | databaseError | unavailable | readTimeout | writeTimeout | readFailure | writeFailure
  | functionFailure | overloaded | isBootstrapping | truncateError | rateLimitReached
  | cqlSyntaxError | invalidRequest | unauthorized | serverConfigError | alreadyExists
  | authenticationFailed | serverError | serverProtocolError | unprepared | unknownDatabaseError
  | serializationError | internalDriverError | rowFactoryError
  | useKeyspaceError | badKeyspaceNameError | requestError | keyspaceNameMismatchError
  | requestTimeoutError | runtimeTaskJoinFailedError
  deriving DecidableEq, Repr

def Class.bases : Class → List Class
  | .exception => []
  | .valueError | .timeoutError | .scyllaError => [.exception]
  | .badQuery => [.scyllaError, .valueError]
  | .valuesTooLongForKey | .tooManyStatementsInBatch | .partitionKeyExtractionFailed
  | .pagingStateNotAllowed => [.badQuery]
  | .executionError => [.scyllaError]
  | .operationTimedOut => [.executionError, .timeoutError]
  | .noHostAvailable | .metadataError | .schemaAgreementError | .connectionPoolError
  | .prepareError | .requestFailedError => [.executionError]
  | .connectionPoolBroken | .connectionPoolInitializing | .nodeDisabledByHostFilter =>
    [.connectionPoolError]
  | .repreparedIdChanged | .repreparedIdMissingInBatch => [.prepareError]
  | .brokenConnection | .connectionBusy | .nonfinishedPagingState | .protocolError
  | .databaseError => [.requestFailedError]
  | .responseParseError | .requestSerializationError | .unexpectedResponse => [.protocolError]
  | .unavailable | .readTimeout | .writeTimeout | .readFailure | .writeFailure
  | .functionFailure | .overloaded | .isBootstrapping | .truncateError | .rateLimitReached
  | .cqlSyntaxError | .invalidRequest | .unauthorized | .serverConfigError | .alreadyExists
  | .authenticationFailed | .serverError | .serverProtocolError | .unprepared
  | .unknownDatabaseError => [.databaseError]
  | .serializationError | .internalDriverError | .rowFactoryError | .useKeyspaceError =>
    [.scyllaError]
  | .badKeyspaceNameError | .requestError | .keyspaceNameMismatchError | .requestTimeoutError
  | .runtimeTaskJoinFailedError => [.useKeyspaceError]

def Class.ancestors : Nat → Class → List Class
  | 0, c => [c]
  | n + 1, c => c :: c.bases.flatMap (ancestors n)

/-- All classes that an instance of `c` is an instance of. -/
def Class.mro (c : Class) : List Class := c.ancestors 5

/-- `except c` catches an instance of `d`. -/
def Class.catches (c d : Class) : Bool := d.mro.contains c

inductive WriteType where
  | simple | batch | unloggedBatch | counter | batchLog | cas | view | cdc
  | other (value : String)
  deriving DecidableEq, Repr

inductive PyWriteType where
  | simple | batch | unloggedBatch | counter | batchLog | cas | view | cdc
  | other (value : String)
  deriving DecidableEq, Repr

def PyWriteType.ofWriteType : WriteType → PyWriteType
  | .simple => .simple
  | .batch => .batch
  | .unloggedBatch => .unloggedBatch
  | .counter => .counter
  | .batchLog => .batchLog
  | .cas => .cas
  | .view => .view
  | .cdc => .cdc
  | .other value => .other value

def PyWriteType.toWriteType : PyWriteType → WriteType
  | .simple => .simple
  | .batch => .batch
  | .unloggedBatch => .unloggedBatch
  | .counter => .counter
  | .batchLog => .batchLog
  | .cas => .cas
  | .view => .view
  | .cdc => .cdc
  | .other value => .other value

inductive OperationType where
  | read | write | other (code : UInt8)
  deriving DecidableEq, Repr

inductive PyOperationType where
  | read | write | other (code : UInt8)
  deriving DecidableEq, Repr

def PyOperationType.ofOperationType : OperationType → PyOperationType
  | .read => .read
  | .write => .write
  | .other code => .other code

def PyOperationType.toOperationType : PyOperationType → OperationType
  | .read => .read
  | .write => .write
  | .other code => .other code

inductive CqlResponseKind where
  | error | ready | authenticate | supported | result | event | authChallenge | authSuccess
  deriving DecidableEq, Repr

inductive PyCqlResponseKind where
  | error | ready | authenticate | supported | result | event | authChallenge | authSuccess
  deriving DecidableEq, Repr

def PyCqlResponseKind.ofCqlResponseKind : CqlResponseKind → PyCqlResponseKind
  | .error => .error
  | .ready => .ready
  | .authenticate => .authenticate
  | .supported => .supported
  | .result => .result
  | .event => .event
  | .authChallenge => .authChallenge
  | .authSuccess => .authSuccess

/-- What the database answered instead of a result. -/
inductive DbError where
  | syntaxError
  | invalid
  | alreadyExists (keyspace table : String)
  | functionFailure (keyspace function : String) (argTypes : List String)
  | authenticationError
  | unauthorized
  | configError
  | unavailable (consistency : Consistency) (required alive : Int)
  | overloaded
  | isBootstrapping
  | truncateError
  | readTimeout (consistency : Consistency) (received required : Int) (dataPresent : Bool)
  | writeTimeout (consistency : Consistency) (received required : Int) (writeType : WriteType)
  | readFailure (consistency : Consistency) (received required numfailures : Int)
    (dataPresent : Bool)
  | writeFailure (consistency : Consistency) (received required numfailures : Int)
    (writeType : WriteType)
  | unprepared (statementId : List UInt8)
  | serverError
  | protocolError
  | rateLimitReached (opType : OperationType) (rejectedByCoordinator : Bool)
  | other (code : Int)
  deriving DecidableEq, Repr

/-- Why an attempt failed; an error of the driver's own is its text. -/
inductive RequestAttemptError where
  | serializationError (text : String)
  | cqlRequestSerialization (text : String)
  | unableToAllocStreamId
  | brokenConnectionError (text : String)
  | bodyExtensionsParseError (text : String)
  | cqlResultParseError (text : String)
  | cqlErrorParseError (text : String)
  | dbError (error : DbError) (reason : String)
  | unexpectedResponse (kind : CqlResponseKind)
  | repreparedIdChanged (statement : String) (expectedId repreparedId : List UInt8)
  | repreparedIdMissingInBatch
  | nonfinishedPagingState
  deriving DecidableEq, Repr

inductive BadQuery where
  | partitionKeyExtraction
  | serializationError (text : String)
  | valuesTooLongForKey (length maxLength : Nat)
  | tooManyQueriesInBatchStatement (count : Nat)
  deriving DecidableEq, Repr

inductive ConnectionPoolError where
  | broken (text : String)
  | initializing
  | nodeDisabledByHostFilter
  deriving DecidableEq, Repr

inductive RustPrepareError where
  | connectionPoolError (error : ConnectionPoolError)
  | allAttemptsFailed (firstAttempt : RequestAttemptError)
  | preparedStatementIdsMismatch
  deriving DecidableEq, Repr

inductive RustUseKeyspaceError where
  | badKeyspaceName (text : String)
  | requestError (error : RequestAttemptError)
  | keyspaceNameMismatch (expected result : String)
  | requestTimeout (nanoseconds : Nat)
  deriving DecidableEq, Repr

/-- The driver does not look into `S` and `M`, errors of schema agreement and of metadata. -/
inductive ExecutionError (S M : Type) where
  | badQuery (error : BadQuery)
  | emptyPlan
  | prepareError (error : RustPrepareError)
  | connectionPoolError (error : ConnectionPoolError)
  | lastAttemptError (error : RequestAttemptError)
  | requestTimeout (nanoseconds : Nat)
  | useKeyspaceError (error : RustUseKeyspaceError)
  | schemaAgreementError (error : S)
  | metadataError (error : M)
  deriving DecidableEq, Repr

/-- The texts of the Rust driver's errors. -/
structure Display (S M : Type) where
  executionError : ExecutionError S M → String
  prepareError : RustPrepareError → String
  useKeyspaceError : RustUseKeyspaceError → String

/-- `ToPyAttr`: the value of an attribute. -/
inductive Attr where
  | bool (value : Bool)
  | int (value : Int)
  | str (value : String)
  | list (value : List String)
  | bytes (value : List UInt8)
  | timedelta (nanoseconds : Nat)
  | consistency (value : PyConsistency)
  | writeType (value : PyWriteType)
  | operationType (value : PyOperationType)
  | responseKind (value : PyCqlResponseKind)
  deriving DecidableEq, Repr

/-- An exception; its cause, if it has one, is any other. -/
structure PyErr (Exc : Type) where
  type : Class
  message : String
  attrs : List (String × Attr)
  cause : Option Exc
  deriving DecidableEq, Repr

section Raising

variable {S M Exc : Type}

def PyErr.new (type : Class) (message : String) : PyErr Exc := ⟨type, message, [], none⟩

def PyErr.setattr (err : PyErr Exc) (name : String) (value : Attr) : PyErr Exc :=
  { err with attrs := (name, value) :: err.attrs }

def PyErr.getattr (err : PyErr Exc) (name : String) : Option Attr := err.attrs.lookup name

/-- An attribute that cannot be set is left out; `sets` says which can. -/
def withAttrs (sets : String → Bool) (err : PyErr Exc) (attrs : List (String × Attr)) :
    PyErr Exc :=
  attrs.foldl (fun err a => if sets a.1 then err.setattr a.1 a.2 else err) err

def withCause (err : PyErr Exc) (cause : Exc) : PyErr Exc := { err with cause := some cause }

variable (sets : String → Bool)

/-- `py_err!` -/
def pyErr (type : Class) (message : String) (attrs : List (String × Attr)) : PyErr Exc :=
  withAttrs sets (.new type message) attrs

def Attr.ofConsistency (consistency : Consistency) : Attr :=
  .consistency (.ofConsistency consistency)

def Attr.ofWriteType (writeType : WriteType) : Attr := .writeType (.ofWriteType writeType)

def dbErrorToPyerr (error : DbError) (reason message : String) : PyErr Exc :=
  let err := match error with
    | .syntaxError => pyErr sets .cqlSyntaxError message []
    | .invalid => pyErr sets .invalidRequest message []
    | .alreadyExists keyspace table => pyErr sets .alreadyExists message
      [("keyspace", .str keyspace), ("table", .str table)]
    | .functionFailure keyspace function argTypes => pyErr sets .functionFailure message
      [("keyspace", .str keyspace), ("function", .str function), ("arg_types", .list argTypes)]
    | .authenticationError => pyErr sets .authenticationFailed message []
    | .unauthorized => pyErr sets .unauthorized message []
    | .configError => pyErr sets .serverConfigError message []
    | .unavailable consistency required alive => pyErr sets .unavailable message
      [("consistency", .ofConsistency consistency), ("required", .int required),
        ("alive", .int alive)]
    | .overloaded => pyErr sets .overloaded message []
    | .isBootstrapping => pyErr sets .isBootstrapping message []
    | .truncateError => pyErr sets .truncateError message []
    | .readTimeout consistency received required dataPresent => pyErr sets .readTimeout message
      [("consistency", .ofConsistency consistency), ("received", .int received),
        ("required", .int required), ("data_present", .bool dataPresent)]
    | .writeTimeout consistency received required writeType => pyErr sets .writeTimeout message
      [("consistency", .ofConsistency consistency), ("received", .int received),
        ("required", .int required), ("write_type", .ofWriteType writeType)]
    | .readFailure consistency received required numfailures dataPresent =>
      pyErr sets .readFailure message
        [("consistency", .ofConsistency consistency), ("received", .int received),
          ("required", .int required), ("numfailures", .int numfailures),
          ("data_present", .bool dataPresent)]
    | .writeFailure consistency received required numfailures writeType =>
      pyErr sets .writeFailure message
        [("consistency", .ofConsistency consistency), ("received", .int received),
          ("required", .int required), ("numfailures", .int numfailures),
          ("write_type", .ofWriteType writeType)]
    | .unprepared statementId => pyErr sets .unprepared message
      [("statement_id", .bytes statementId)]
    | .serverError => pyErr sets .serverError message []
    | .protocolError => pyErr sets .serverProtocolError message []
    | .rateLimitReached opType rejectedByCoordinator => pyErr sets .rateLimitReached message
      [("op_type", .operationType (.ofOperationType opType)),
        ("rejected_by_coordinator", .bool rejectedByCoordinator)]
    | .other code => pyErr sets .unknownDatabaseError message [("code", .int code)]
  withAttrs sets err [("reason", .str reason)]

def requestAttemptErrorToPyerr (err : RequestAttemptError) (message : String) : PyErr Exc :=
  match err with
  | .serializationError _ => pyErr sets .serializationError message []
  | .cqlRequestSerialization _ => pyErr sets .requestSerializationError message []
  | .unableToAllocStreamId => pyErr sets .connectionBusy message []
  | .brokenConnectionError _ => pyErr sets .brokenConnection message []
  | .bodyExtensionsParseError _ | .cqlResultParseError _ | .cqlErrorParseError _ =>
    pyErr sets .responseParseError message []
  | .dbError error reason => dbErrorToPyerr sets error reason message
  | .unexpectedResponse kind => pyErr sets .unexpectedResponse message
    [("response_kind", .responseKind (.ofCqlResponseKind kind))]
  | .repreparedIdChanged statement expectedId repreparedId =>
    pyErr sets .repreparedIdChanged message
      [("statement", .str statement), ("expected_id", .bytes expectedId),
        ("reprepared_id", .bytes repreparedId)]
  | .repreparedIdMissingInBatch => pyErr sets .repreparedIdMissingInBatch message []
  | .nonfinishedPagingState => pyErr sets .nonfinishedPagingState message []

def connectionPoolErrorToPyerr (err : ConnectionPoolError) (message : String) : PyErr Exc :=
  match err with
  | .broken _ => pyErr sets .connectionPoolBroken message []
  | .initializing => pyErr sets .connectionPoolInitializing message []
  | .nodeDisabledByHostFilter => pyErr sets .nodeDisabledByHostFilter message []

def badQueryToPyerr (err : BadQuery) (message : String) : PyErr Exc :=
  match err with
  | .partitionKeyExtraction => pyErr sets .partitionKeyExtractionFailed message []
  | .serializationError _ => pyErr sets .serializationError message []
  | .valuesTooLongForKey length maxLength => pyErr sets .valuesTooLongForKey message
    [("length", .int length), ("max_length", .int maxLength)]
  | .tooManyQueriesInBatchStatement count => pyErr sets .tooManyStatementsInBatch message
    [("count", .int count)]

variable (texts : Display S M)

/-- `PyErr::from(DriverPrepareError)`: the class is the same for every cause. -/
def prepareErrorToPyerr (err : RustPrepareError) : PyErr Exc :=
  .new .prepareError ("Failed to prepare statement: " ++ texts.prepareError err)

/-- `PyErr::from(DriverUseKeyspaceError)` -/
def useKeyspaceErrorToPyerr (err : RustUseKeyspaceError) : PyErr Exc :=
  let message := texts.useKeyspaceError err
  match err with
  | .badKeyspaceName _ => .new .badKeyspaceNameError message
  | .requestError _ => .new .requestError message
  | .keyspaceNameMismatch _ _ => .new .keyspaceNameMismatchError message
  | .requestTimeout _ => .new .requestTimeoutError message

def executionErrorToPyerr (err : ExecutionError S M) (message : String) : PyErr Exc :=
  match err with
  | .badQuery error => badQueryToPyerr sets error message
  | .emptyPlan => pyErr sets .noHostAvailable message []
  | .prepareError error => prepareErrorToPyerr texts error
  | .connectionPoolError error => connectionPoolErrorToPyerr sets error message
  | .lastAttemptError error => requestAttemptErrorToPyerr sets error message
  | .requestTimeout timeout => pyErr sets .operationTimedOut message
    [("timeout", .timedelta timeout)]
  | .useKeyspaceError error => useKeyspaceErrorToPyerr texts error
  | .schemaAgreementError _ => pyErr sets .schemaAgreementError message []
  | .metadataError _ => pyErr sets .metadataError message []

inductive DriverExecuteError (S M Exc : Type) where
  | pagingStateMustBeNoneForUnpagedExecution
  | rustDriverExecutionError (source : ExecutionError S M)
  | serializationFailed (text : String)
  | runtimeTaskJoinFailed (text : String)
  | rowFactoryFailed (source : Exc)

def DriverExecuteError.display : DriverExecuteError S M Exc → String
  | .pagingStateMustBeNoneForUnpagedExecution => "Paging state must be None for unpaged execution"
  | .rustDriverExecutionError source =>
    "Failed to execute statement: " ++ texts.executionError source
  | .serializationFailed text => "Failed to serialize values: " ++ text
  | .runtimeTaskJoinFailed text => "runtime error while executing query: " ++ text
  | .rowFactoryFailed _ => "Failed to prepare the row factory for the result metadata"

def DriverExecuteError.toPyErr (e : DriverExecuteError S M Exc) : PyErr Exc :=
  let message := e.display texts
  match e with
  | .pagingStateMustBeNoneForUnpagedExecution => pyErr sets .pagingStateNotAllowed message []
  | .rustDriverExecutionError source => executionErrorToPyerr sets texts source message
  | .serializationFailed _ => pyErr sets .serializationError message []
  | .runtimeTaskJoinFailed _ => pyErr sets .internalDriverError message []
  | .rowFactoryFailed source => withCause (pyErr sets .rowFactoryError message []) source

end Raising

/-- A database error as a retry policy sees it. -/
inductive PyDbError where
  | syntaxError
  | invalid
  | alreadyExists (keyspace table : String)
  | functionFailure (keyspace function : String) (argTypes : List String)
  | authenticationError
  | unauthorized
  | configError
  | unavailable (consistency : PyConsistency) (required alive : Int)
  | overloaded
  | isBootstrapping
  | truncateError
  | readTimeout (consistency : PyConsistency) (received required : Int) (dataPresent : Bool)
  | writeTimeout (consistency : PyConsistency) (received required : Int) (writeType : PyWriteType)
  | readFailure (consistency : PyConsistency) (received required numfailures : Int)
    (dataPresent : Bool)
  | writeFailure (consistency : PyConsistency) (received required numfailures : Int)
    (writeType : PyWriteType)
  | unprepared (statementId : List UInt8)
  | serverError
  | protocolError
  | rateLimitReached (opType : PyOperationType) (rejectedByCoordinator : Bool)
  | other (code : Int)
  deriving DecidableEq, Repr

def PyDbError.ofDbError : DbError → PyDbError
  | .syntaxError => .syntaxError
  | .invalid => .invalid
  | .alreadyExists keyspace table => .alreadyExists keyspace table
  | .functionFailure keyspace function argTypes => .functionFailure keyspace function argTypes
  | .authenticationError => .authenticationError
  | .unauthorized => .unauthorized
  | .configError => .configError
  | .unavailable consistency required alive =>
    .unavailable (.ofConsistency consistency) required alive
  | .overloaded => .overloaded
  | .isBootstrapping => .isBootstrapping
  | .truncateError => .truncateError
  | .readTimeout consistency received required dataPresent =>
    .readTimeout (.ofConsistency consistency) received required dataPresent
  | .writeTimeout consistency received required writeType =>
    .writeTimeout (.ofConsistency consistency) received required (.ofWriteType writeType)
  | .readFailure consistency received required numfailures dataPresent =>
    .readFailure (.ofConsistency consistency) received required numfailures dataPresent
  | .writeFailure consistency received required numfailures writeType =>
    .writeFailure (.ofConsistency consistency) received required numfailures
      (.ofWriteType writeType)
  | .unprepared statementId => .unprepared statementId
  | .serverError => .serverError
  | .protocolError => .protocolError
  | .rateLimitReached opType rejectedByCoordinator =>
    .rateLimitReached (.ofOperationType opType) rejectedByCoordinator
  | .other code => .other code

/-- A failed attempt as a retry policy sees it. -/
inductive PyRequestAttemptError where
  | serializationError
  | cqlRequestSerialization
  | unableToAllocStreamId
  | brokenConnectionError
  | bodyExtensionsParseError
  | cqlResultParseError
  | cqlErrorParseError
  | dbError (error : PyDbError) (message : String)
  | unexpectedResponse (kind : PyCqlResponseKind)
  | repreparedIdChanged (statement : String) (expectedId repreparedId : List UInt8)
  | repreparedIdMissingInBatch
  | nonfinishedPagingState
  deriving DecidableEq, Repr

def PyRequestAttemptError.ofRequestAttemptError : RequestAttemptError → PyRequestAttemptError
  | .serializationError _ => .serializationError
  | .cqlRequestSerialization _ => .cqlRequestSerialization
  | .unableToAllocStreamId => .unableToAllocStreamId
  | .brokenConnectionError _ => .brokenConnectionError
  | .bodyExtensionsParseError _ => .bodyExtensionsParseError
  | .cqlResultParseError _ => .cqlResultParseError
  | .cqlErrorParseError _ => .cqlErrorParseError
  | .dbError error message => .dbError (.ofDbError error) message
  | .unexpectedResponse kind => .unexpectedResponse (.ofCqlResponseKind kind)
  | .repreparedIdChanged statement expectedId repreparedId =>
    .repreparedIdChanged statement expectedId repreparedId
  | .repreparedIdMissingInBatch => .repreparedIdMissingInBatch
  | .nonfinishedPagingState => .nonfinishedPagingState

section Reading

variable {S M Exc : Type} (err : PyErr Exc)

def Attr.bool? : Attr → Option Bool
  | .bool value => some value
  | _ => none

def Attr.int? : Attr → Option Int
  | .int value => some value
  | _ => none

def Attr.str? : Attr → Option String
  | .str value => some value
  | _ => none

def Attr.list? : Attr → Option (List String)
  | .list value => some value
  | _ => none

def Attr.bytes? : Attr → Option (List UInt8)
  | .bytes value => some value
  | _ => none

def Attr.consistency? : Attr → Option PyConsistency
  | .consistency value => some value
  | _ => none

def Attr.writeType? : Attr → Option PyWriteType
  | .writeType value => some value
  | _ => none

def Attr.operationType? : Attr → Option PyOperationType
  | .operationType value => some value
  | _ => none

def Attr.responseKind? : Attr → Option PyCqlResponseKind
  | .responseKind value => some value
  | _ => none

def PyErr.read {α : Type} (kind : Attr → Option α) (name : String) : Option α :=
  (err.getattr name).bind kind

/-- The database error that Python code can read off an exception. -/
def PyErr.dbError? : Option PyDbError :=
  match err.type with
  | .cqlSyntaxError => some .syntaxError
  | .invalidRequest => some .invalid
  | .alreadyExists => do
    return .alreadyExists (← err.read Attr.str? "keyspace") (← err.read Attr.str? "table")
  | .functionFailure => do
    return .functionFailure (← err.read Attr.str? "keyspace") (← err.read Attr.str? "function")
      (← err.read Attr.list? "arg_types")
  | .authenticationFailed => some .authenticationError
  | .unauthorized => some .unauthorized
  | .serverConfigError => some .configError
  | .unavailable => do
    return .unavailable (← err.read Attr.consistency? "consistency")
      (← err.read Attr.int? "required") (← err.read Attr.int? "alive")
  | .overloaded => some .overloaded
  | .isBootstrapping => some .isBootstrapping
  | .truncateError => some .truncateError
  | .readTimeout => do
    return .readTimeout (← err.read Attr.consistency? "consistency")
      (← err.read Attr.int? "received") (← err.read Attr.int? "required")
      (← err.read Attr.bool? "data_present")
  | .writeTimeout => do
    return .writeTimeout (← err.read Attr.consistency? "consistency")
      (← err.read Attr.int? "received") (← err.read Attr.int? "required")
      (← err.read Attr.writeType? "write_type")
  | .readFailure => do
    return .readFailure (← err.read Attr.consistency? "consistency")
      (← err.read Attr.int? "received") (← err.read Attr.int? "required")
      (← err.read Attr.int? "numfailures") (← err.read Attr.bool? "data_present")
  | .writeFailure => do
    return .writeFailure (← err.read Attr.consistency? "consistency")
      (← err.read Attr.int? "received") (← err.read Attr.int? "required")
      (← err.read Attr.int? "numfailures") (← err.read Attr.writeType? "write_type")
  | .unprepared => return .unprepared (← err.read Attr.bytes? "statement_id")
  | .serverError => some .serverError
  | .serverProtocolError => some .protocolError
  | .rateLimitReached => do
    return .rateLimitReached (← err.read Attr.operationType? "op_type")
      (← err.read Attr.bool? "rejected_by_coordinator")
  | .unknownDatabaseError => return .other (← err.read Attr.int? "code")
  | _ => none

/-- The failed attempt that Python code can read off an exception. A `SerializationError` may
come from elsewhere, and a `ResponseParseError` does not say what could not be parsed. -/
def PyErr.attemptError? : Option PyRequestAttemptError :=
  match err.type with
  | .requestSerializationError => some .cqlRequestSerialization
  | .connectionBusy => some .unableToAllocStreamId
  | .brokenConnection => some .brokenConnectionError
  | .unexpectedResponse => do
    return .unexpectedResponse (← err.read Attr.responseKind? "response_kind")
  | .repreparedIdChanged => do
    return .repreparedIdChanged (← err.read Attr.str? "statement")
      (← err.read Attr.bytes? "expected_id") (← err.read Attr.bytes? "reprepared_id")
  | .repreparedIdMissingInBatch => some .repreparedIdMissingInBatch
  | .nonfinishedPagingState => some .nonfinishedPagingState
  | _ => return .dbError (← err.dbError?) (← err.read Attr.str? "reason")

/-- The attempts that an exception tells apart from all else. -/
def ExecutionError.attempt? : ExecutionError S M → Option PyRequestAttemptError
  | .lastAttemptError (.serializationError _) => none
  | .lastAttemptError (.bodyExtensionsParseError _) => none
  | .lastAttemptError (.cqlResultParseError _) => none
  | .lastAttemptError (.cqlErrorParseError _) => none
  | .lastAttemptError error => some (.ofRequestAttemptError error)
  | _ => none

def DriverExecuteError.attempt? : DriverExecuteError S M Exc → Option PyRequestAttemptError
  | .rustDriverExecutionError source => source.attempt?
  | _ => none

/-- What the request was doing when the database sent an error. -/
inductive Doing where
  | attempting | preparing | selectingKeyspace

inductive DriverExecuteError.Sent : Doing → RequestAttemptError → DriverExecuteError S M Exc → Prop
  | attempting {error} : Sent .attempting error (.rustDriverExecutionError (.lastAttemptError error))
  | preparing {error} : Sent .preparing error
    (.rustDriverExecutionError (.prepareError (.allAttemptsFailed error)))
  | selectingKeyspace {error} : Sent .selectingKeyspace error
    (.rustDriverExecutionError (.useKeyspaceError (.requestError error)))

/-- The classes that tell the failures of `execute` apart. -/
def families : List Class :=
  [.badQuery, .executionError, .serializationError, .useKeyspaceError, .internalDriverError,
    .rowFactoryError]

end Reading

/-- `issubclass` -/
def Class.IsA : Class → Class → Prop := Relation.ReflTransGen fun a b => b ∈ a.bases

/-- The ancestors are all that the bases lead to. -/
theorem Class.mro_closed (c : Class) : ∀ a ∈ c.mro, ∀ b ∈ a.bases, b ∈ c.mro := by
  cases c <;> decide

theorem Class.ancestors_sound {n : Nat} {c d : Class} (h : d ∈ c.ancestors n) : c.IsA d := by
  induction n generalizing c with
  | zero =>
    rw [List.mem_singleton.mp h]
    exact .refl
  | succ n ih =>
    rcases List.mem_cons.mp h with rfl | h
    · exact .refl
    · obtain ⟨b, hb, hd⟩ := List.mem_flatMap.mp h
      exact .head hb (ih hd)

theorem Class.mem_mro_iff {c d : Class} : d ∈ c.mro ↔ c.IsA d := by
  refine ⟨ancestors_sound, fun h => ?_⟩
  induction h with
  | refl => exact List.mem_cons_self
  | tail _ hb ih => exact c.mro_closed _ ih _ hb

theorem Class.catches_iff {c d : Class} : c.catches d = true ↔ d.IsA c :=
  List.contains_iff_mem.trans mem_mro_iff

section Attributes

variable {Exc α β : Type} {a b : Option α} {err err' : PyErr Exc} {sets : String → Bool}

/-- Whatever `a` gives, `b` gives. -/
def Within (a b : Option α) : Prop := ∀ value, a = some value → b = some value

theorem Within.refl (a : Option α) : Within a a := fun _ h => h

theorem Within.bind (h : Within a b) {f g : α → Option β} (hf : ∀ value, Within (f value) (g value)) :
    Within (a.bind f) (b.bind g) := by
  intro value hvalue
  obtain ⟨x, hx, hfx⟩ := Option.bind_eq_some_iff.mp hvalue
  exact Option.bind_eq_some_iff.mpr ⟨x, h x hx, hf x value hfx⟩

/-- An exception that lacks attributes of another. -/
structure PyErr.Below (err err' : PyErr Exc) : Prop where
  type : err.type = err'.type
  getattr : ∀ name, Within (err.getattr name) (err'.getattr name)

theorem PyErr.Below.read (h : err.Below err') (kind : Attr → Option α) (name : String) :
    Within (err.read kind name) (err'.read kind name) :=
  (h.getattr name).bind fun _ => .refl _

theorem PyErr.Below.dbError? (h : err.Below err') : Within err.dbError? err'.dbError? := by
  unfold PyErr.dbError?
  rw [h.type]
  cases err'.type <;>
    repeat' first | exact .refl _ | refine .bind (h.read _ _) fun _ => ?_

theorem PyErr.Below.attemptError? (h : err.Below err') :
    Within err.attemptError? err'.attemptError? := by
  unfold PyErr.attemptError?
  rw [h.type]
  cases err'.type <;>
    repeat' first | exact .refl _ | refine .bind (h.read _ _) fun _ => ?_ |
      refine .bind h.dbError? fun _ => ?_

theorem withAttrs_sublist (h : err.attrs.Sublist err'.attrs) (attrs : List (String × Attr)) :
    (withAttrs sets err attrs).attrs.Sublist (withAttrs (fun _ => true) err' attrs).attrs := by
  induction attrs generalizing err err' with
  | nil => exact h
  | cons attr attrs ih =>
    refine ih ?_
    by_cases hset : sets attr.1 = true
    · simpa [hset, PyErr.setattr] using h
    · simpa [hset, PyErr.setattr] using h.cons attr

theorem withAttrs_type (attrs : List (String × Attr)) :
    (withAttrs sets err attrs).type = err.type := by
  induction attrs generalizing err with
  | nil => rfl
  | cons attr attrs ih =>
    have hfirst : (if sets attr.1 then err.setattr attr.1 attr.2 else err).type = err.type := by
      split <;> rfl
    exact ih.trans hfirst

theorem withAttrs_attrs (err : PyErr Exc) (attrs : List (String × Attr)) :
    (withAttrs (fun _ => true) err attrs).attrs = attrs.reverse ++ err.attrs := by
  induction attrs generalizing err with
  | nil => rfl
  | cons attr attrs ih =>
    refine (ih (err.setattr attr.1 attr.2)).trans ?_
    simp [PyErr.setattr]

theorem lookup_of_mem {l : List (String × Attr)} (hnodup : (l.map Prod.fst).Nodup) {name : String}
    {value : Attr} (h : (name, value) ∈ l) : l.lookup name = some value := by
  obtain ⟨l₁, l₂, rfl⟩ := List.append_of_mem h
  refine List.lookup_eq_some_iff.mpr ⟨l₁, l₂, rfl, fun p hp => ?_⟩
  rw [List.map_append, List.map_cons] at hnodup
  have hne : name ≠ p.1 := fun heq => by
    have hdisjoint := List.disjoint_of_nodup_append hnodup
    exact hdisjoint (List.mem_map_of_mem hp) (heq ▸ List.mem_cons_self)
  simpa using hne

theorem PyErr.below_of_sublist (htype : err.type = err'.type)
    (hattrs : err.attrs.Sublist err'.attrs) (hnodup : (err'.attrs.map Prod.fst).Nodup) :
    err.Below err' := by
  refine ⟨htype, fun name value h => ?_⟩
  obtain ⟨l₁, l₂, hl, -⟩ := List.lookup_eq_some_iff.mp h
  have hmem : (name, value) ∈ err.attrs := by rw [hl]; simp
  exact lookup_of_mem hnodup (hattrs.subset hmem)

end Attributes

section Raised

variable {S M Exc : Type} (sets : String → Bool) (message : String) (texts : Display S M)

theorem pyErr_type (type : Class) (attrs : List (String × Attr)) :
    (pyErr sets type message attrs : PyErr Exc).type = type :=
  withAttrs_type attrs

/-- Attributes that could not be set make no difference to the others. -/
theorem pyErr_below {type : Class} {attrs : List (String × Attr)}
    (hnodup : (attrs.map Prod.fst).Nodup) : (pyErr sets type message attrs : PyErr Exc).Below
      (pyErr (fun _ => true) type message attrs) := by
  refine PyErr.below_of_sublist ?_ (withAttrs_sublist (.refl _) attrs) ?_
  · rw [pyErr_type, pyErr_type]
  · rw [pyErr, withAttrs_attrs, List.map_append, List.map_reverse]
    simpa [PyErr.new] using hnodup

theorem withAttrs_pyErr (type : Class) (attrs more : List (String × Attr)) :
    withAttrs sets (pyErr sets type message attrs : PyErr Exc) more =
      pyErr sets type message (attrs ++ more) := by
  simp only [pyErr, withAttrs, List.foldl_append]

theorem dbErrorToPyerr_below (error : DbError) (reason : String) :
    (dbErrorToPyerr sets error reason message : PyErr Exc).Below
      (dbErrorToPyerr (fun _ => true) error reason message) := by
  cases error <;> simp only [dbErrorToPyerr, withAttrs_pyErr] <;>
    exact pyErr_below sets message (by simp)

theorem executionErrorToPyerr_below (error : ExecutionError S M) :
    (executionErrorToPyerr sets texts error message : PyErr Exc).Below
      (executionErrorToPyerr (fun _ => true) texts error message) := by
  cases error with
  | lastAttemptError error =>
    cases error with
    | dbError error reason => exact dbErrorToPyerr_below sets message error reason
    | _ => exact pyErr_below sets message (by simp)
  | badQuery error | connectionPoolError error =>
    cases error <;> exact pyErr_below sets message (by simp)
  | prepareError error | useKeyspaceError error => exact ⟨rfl, fun _ => .refl _⟩
  | _ => exact pyErr_below sets message (by simp)

/-- With all its attributes set, an exception says what the retry policy has seen. -/
theorem executionErrorToPyerr_attemptError? (error : ExecutionError S M) :
    (executionErrorToPyerr (fun _ => true) texts error message : PyErr Exc).attemptError? =
      error.attempt? := by
  cases error with
  | lastAttemptError error =>
    cases error with
    | dbError error reason => cases error <;> rfl
    | _ => rfl
  | badQuery error | connectionPoolError error | useKeyspaceError error => cases error <;> rfl
  | _ => rfl

variable {sets texts}

theorem toPyErr_below (e : DriverExecuteError S M Exc) :
    (e.toPyErr sets texts).Below (e.toPyErr (fun _ => true) texts) := by
  cases e with
  | rustDriverExecutionError source => exact executionErrorToPyerr_below sets _ texts source
  | _ => exact ⟨rfl, fun _ => .refl _⟩

theorem toPyErr_attemptError? (e : DriverExecuteError S M Exc) :
    (e.toPyErr (fun _ => true) texts).attemptError? = e.attempt? := by
  cases e with
  | rustDriverExecutionError source => exact executionErrorToPyerr_attemptError? _ texts source
  | _ => rfl

theorem databaseError_catches_iff (e : DriverExecuteError S M Exc) :
    Class.databaseError.catches (e.toPyErr (fun _ => true) texts).type = true ↔
      ∃ error reason, e.Sent .attempting (.dbError error reason) := by
  constructor
  · intro h
    cases e with
    | rustDriverExecutionError source =>
      cases source with
      | lastAttemptError error =>
        cases error with
        | dbError error reason => exact ⟨error, reason, .attempting⟩
        | _ => exact absurd h Bool.false_ne_true
      | badQuery error | connectionPoolError error | useKeyspaceError error =>
        cases error <;> exact absurd h Bool.false_ne_true
      | _ => exact absurd h Bool.false_ne_true
    | _ => exact absurd h Bool.false_ne_true
  · rintro ⟨error, reason, ⟨⟩⟩
    cases error <;> rfl

theorem existsUnique_of_filter {α : Type} {l : List α} {p : α → Bool} {a : α}
    (h : l.filter p = [a]) : ∃! x, x ∈ l ∧ p x = true := by
  have hmem (x : α) : x ∈ l ∧ p x = true ↔ x = a := by
    rw [← List.mem_filter, h, List.mem_singleton]
  exact ⟨a, (hmem a).mpr rfl, fun x hx => (hmem x).mp hx⟩

theorem toPyErr_family (e : DriverExecuteError S M Exc) :
    ∃ family, families.filter (·.catches (e.toPyErr (fun _ => true) texts).type) = [family] := by
  cases e with
  | rustDriverExecutionError source =>
    cases source with
    | lastAttemptError error =>
      cases error with
      | dbError error reason => cases error <;> exact ⟨_, rfl⟩
      | _ => exact ⟨_, rfl⟩
    | badQuery error | connectionPoolError error | useKeyspaceError error =>
      cases error <;> exact ⟨_, rfl⟩
    | _ => exact ⟨_, rfl⟩
  | _ => exact ⟨_, rfl⟩

@[simp]
theorem ofConsistency_inj {a b : Consistency} :
    PyConsistency.ofConsistency a = .ofConsistency b ↔ a = b :=
  (Function.LeftInverse.injective PyConsistency.toConsistency_ofConsistency).eq_iff

@[simp]
theorem ofWriteType_inj {a b : WriteType} : PyWriteType.ofWriteType a = .ofWriteType b ↔ a = b :=
  (Function.LeftInverse.injective (g := PyWriteType.toWriteType) fun w => by cases w <;> rfl).eq_iff

@[simp]
theorem ofOperationType_inj {a b : OperationType} :
    PyOperationType.ofOperationType a = .ofOperationType b ↔ a = b :=
  (Function.LeftInverse.injective (g := PyOperationType.toOperationType)
    fun o => by cases o <;> rfl).eq_iff

/-- The retry policy has seen all that the database said. -/
theorem ofDbError_injective : Function.Injective PyDbError.ofDbError := by
  intro a b h
  cases a <;> cases b <;> simp_all [PyDbError.ofDbError]

end Raised

end RequestErrors

end ScyllaDriver
