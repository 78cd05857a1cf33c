import ScyllaDriver.CqlTypes

/-! Native values in both directions: the Python object to the Rust value that is
encoded, and the decoded Rust value to the Python object. The codecs themselves are
those of the Rust driver. -/

namespace ScyllaDriver

open Framing

inductive TypeExpected where
  | list | tuple | vector | set | map | udt
  deriving DecidableEq, Repr

inductive ParameterReference where
  | index (index : Nat)
  | name (name : String)
  deriving DecidableEq, Repr

/-- The kinds of `BuiltinTypeCheckError` that are raised for a value. -/
inductive TypeCheckErrorKind where
  | mismatchedType (expected : List NativeType)
  | wrongElementCount (rustTypeElCount cqlTypeElCount : Nat)
  | valueMissingForUdtField (fieldName : String)

mutual

inductive SerializationErrorKind where
  | unsupportedType (cql : String)
  | typeMismatch (expected : TypeExpected)
  | valueOverflow
  | mixedSignDuration
  | pythonInteropFailed (source : PyErr)
  | scyllaSerializeFailed (source : SerializationError)

/-- A `SerializationError` of the Rust driver; `driver` wraps a `DriverSerializationError`. -/
inductive SerializationError where
  | driver (kind : SerializationErrorKind) (location : Option ParameterReference)
  | typeCheck (got : ColumnType) (kind : TypeCheckErrorKind)
  | builtin (got : ColumnType) (kind : BuiltinErrorKind)

inductive BuiltinErrorKind where
  | sizeOverflow
  | valueRefused (reason : String)
  | tooManyElements
  | elementSerializationFailed (err : SerializationError)
  | keySerializationFailed (err : SerializationError)
  | valueSerializationFailed (err : SerializationError)
  | invalidNumberOfElements (actual expected : Nat)

end

abbrev SerResult (α : Type) := Except SerializationError α

inductive InnerSegment where
  | sequenceIndex (index : Nat)
  | mapIndex (index : Nat)
  | tupleIndex (index : Nat)
  | udtField (field : String)
  | vectorIndex (index : Nat)
  deriving DecidableEq, Repr

structure DeserializationErrorLocation where
  columnName : Option String := none
  columnIndex : Option Nat := none
  inner : List InnerSegment := []
  deriving DecidableEq, Repr

mutual

inductive DeserializationErrorKind where
  | unsupportedType (cql : String)
  | scyllaDecodeFailed (source : DecodeError)
  | pythonConversionFailed (source : ConversionError)

/-- The exception behind a failed conversion: one that Python raised, or the one a
`DriverDeserializationError` becomes. -/
inductive ConversionError where
  | raised (err : PyErr)
  | deserialization (kind : DeserializationErrorKind) (location : DeserializationErrorLocation)

end

structure DriverDeserializationError where
  kind : DeserializationErrorKind
  location : DeserializationErrorLocation := {}

namespace DriverDeserializationError

def scyllaDecodeFailed (source : DecodeError) : DriverDeserializationError :=
  ⟨.scyllaDecodeFailed source, {}⟩

def pythonConversionFailed (source : PyErr) : DriverDeserializationError :=
  ⟨.pythonConversionFailed (.raised source), {}⟩

/-- The error of a tuple element, raised as an exception by `PyTuple::new`. -/
def ofTupleElement (err : DriverDeserializationError) : DriverDeserializationError :=
  ⟨.pythonConversionFailed (.deserialization err.kind err.location), {}⟩

def pushInner (err : DriverDeserializationError) (segment : InnerSegment) :
    DriverDeserializationError :=
  { err with location := { err.location with inner := err.location.inner ++ [segment] } }

def atColumnName (err : DriverDeserializationError) (name : String) :
    DriverDeserializationError :=
  { err with location := { err.location with columnName := some name } }

def atColumnIndex (err : DriverDeserializationError) (index : Nat) :
    DriverDeserializationError :=
  { err with location := { err.location with columnIndex := some index } }

end DriverDeserializationError

abbrev DeserResult (α : Type) := Except DriverDeserializationError α

variable {P : Interop} (R : Runtime P)

/-- `map_type_to_expected`: the native types an object of the named class serializes as. -/
def mapTypeToExpected : String → Option (List NativeType)
  | "int" => some [.tinyInt, .smallInt, .int, .bigInt, .counter, .varint]
  | "float" => some [.double, .float]
  | "bool" => some [.boolean]
  | "str" => some [.ascii, .text]
  | "bytes" => some [.blob]
  | "Decimal" => some [.decimal]
  | "CqlDuration" | "relativedelta" => some [.duration]
  | "CqlDate" | "date" => some [.date]
  | "datetime" => some [.date, .timestamp]
  | "CqlTimestamp" => some [.timestamp]
  | "IPv4Address" | "IPv6Address" => some [.inet]
  | "CqlTime" | "time" => some [.time]
  | "UUID" => some [.uuid, .timeuuid]
  | _ => none

def mismatchedTypeError (value : PyVal P) (typ : NativeType) : SerializationError :=
  match mapTypeToExpected value.typeName with
  | some expected => .typeCheck (.native typ) (.mismatchedType expected)
  | none => .driver (.unsupportedType value.typeName) none

/-- `n` in the range of a signed integer of `width` bits. -/
def inRange (width : Nat) (n : Int) : Bool := -2 ^ (width - 1) ≤ n && n < 2 ^ (width - 1)

def checkedInt (width : Nat) (n : Int) : Option Int := if inRange width n then some n else none

/-- The cast to `PyInt`, of which `bool` is a subclass. -/
def Scalar.asInt : Scalar P → Option Int
  | .int value => some value
  | .bool value => some (if value then 1 else 0)
  | _ => none

def serializeInt (width : Nat) (typ : NativeType) (value : Scalar P) : SerResult (BitVec width) :=
  match value.asInt with
  | none => .error (mismatchedTypeError (.scalar value) typ)
  | some n => if inRange width n then .ok (.ofInt width n) else .error (.driver .valueOverflow none)

inductive RelativedeltaError where
  | notRelativedelta
  | overflow
  | mixedSign
  deriving DecidableEq, Repr

def hasUniformSign (months days nanoseconds : Int) : Bool :=
  (months ≥ 0 && days ≥ 0 && nanoseconds ≥ 0) || (months ≤ 0 && days ≤ 0 && nanoseconds ≤ 0)

/-- A `TimeDelta` of chrono in nanoseconds; it holds at most `i64::MAX` milliseconds. -/
def timeDelta (nanoseconds : Int) : Option Int :=
  if nanoseconds.natAbs ≤ (2 ^ 63 - 1) * 10 ^ 6 then some nanoseconds else none

namespace Relativedelta

/-- Each attribute is read as an `i64`. -/
def extract (delta : Relativedelta) : Except RelativedeltaError Relativedelta :=
  if inRange 64 delta.years && inRange 64 delta.months && inRange 64 delta.days &&
      inRange 64 delta.hours && inRange 64 delta.minutes && inRange 64 delta.seconds &&
      inRange 64 delta.microseconds then .ok delta
  else .error .notRelativedelta

def totalMonths (delta : Relativedelta) : Option Int := do
  let months ← checkedInt 64 (delta.years * 12)
  let months ← checkedInt 64 (months + delta.months)
  checkedInt 32 months

def totalNanoseconds (delta : Relativedelta) : Option Int := do
  let parts := [timeDelta (delta.hours * (3600 * 10 ^ 9)), timeDelta (delta.minutes * (60 * 10 ^ 9)),
    timeDelta (delta.seconds * 10 ^ 9), some (delta.microseconds * 10 ^ 3)]
  let sum ← parts.foldlM (fun sum part => do timeDelta (sum + (← part))) 0
  checkedInt 64 sum

end Relativedelta

/-- `TryFrom<Relativedelta> for PyCqlDuration`. -/
def CqlDuration.tryFrom (delta : Relativedelta) : Except RelativedeltaError CqlDuration :=
  match delta.totalMonths, checkedInt 32 delta.days, delta.totalNanoseconds with
  | some months, some days, some nanoseconds =>
    if hasUniformSign months days nanoseconds then
      .ok ⟨.ofInt 32 months, .ofInt 32 days, .ofInt 64 nanoseconds⟩
    else .error .mixedSign
  | _, _, _ => .error .overflow

def relativedeltaError (value : Scalar P) : RelativedeltaError → SerializationError
  | .notRelativedelta => mismatchedTypeError (.scalar value) .duration
  | .overflow => .driver .valueOverflow none
  | .mixedSign => .driver .mixedSignDuration none

/-- CQL stores a date as an unsigned day count with 1970-01-01 at 2^31. -/
def cqlDateEpoch : BitVec 32 := 1 <<< 31

/-- The Rust value that `serialize_natives` encodes for a Python object. -/
def extractScalar (typ : NativeType) (value : Scalar P) : SerResult (RustValue P typ) :=
  let orMismatched {α : Type} (extracted : Option α) : SerResult α :=
    extracted.elim (.error (mismatchedTypeError (.scalar value) typ)) .ok
  match typ with
  | .tinyInt => serializeInt 8 .tinyInt value
  | .smallInt => serializeInt 16 .smallInt value
  | .int => serializeInt 32 .int value
  | .bigInt => serializeInt 64 .bigInt value
  | .counter => serializeInt 64 .counter value
  | .varint => orMismatched value.asInt
  | .float => orMismatched ((R.extractF64 value).map R.narrow)
  | .double => orMismatched (R.extractF64 value)
  | .decimal => orMismatched (R.extractBigDecimal value)
  | .boolean => orMismatched <| match value with
    | .bool value => some value
    | _ => none
  | .ascii | .text => orMismatched <| match value with
    | .str value => some value
    | _ => none
  | .blob => orMismatched <| match value with
    | .bytes value => some value
    | _ => none
  | .date => orMismatched <| match value with
    | .cqlDate days => some (days + cqlDateEpoch)
    | value => R.extractNaiveDate value
  | .duration => match value with
    | .cqlDuration duration => .ok duration
    | .relativedelta delta =>
      (delta.extract >>= CqlDuration.tryFrom).mapError (relativedeltaError value)
    | value => .error (mismatchedTypeError (.scalar value) .duration)
  | .time => orMismatched <| match value with
    | .cqlTime nanoseconds => some nanoseconds
    | value => R.extractNaiveTime value
  | .timestamp => orMismatched <| match value with
    | .cqlTimestamp milliseconds => some milliseconds
    | .datetime value => R.awareDatetimeToUtc value
    | _ => none
  | .inet => orMismatched <| match value with
    | .ipv4Address value => some (.v4 value)
    | .ipv6Address value => some (.v6 value)
    | _ => none
  | .timeuuid | .uuid => orMismatched <| match value with
    | .uuid value => some value
    | _ => none

/-- The size check of `CellWriter`: a cell states its length as an `i32`. -/
def finish (typ : ColumnType) (content : Bytes) : SerResult Bytes :=
  if content.length ≤ maxLength then .ok content else .error (.builtin typ .sizeOverflow)

def serializeNatives (typ : NativeType) : PyVal P → SerResult Bytes
  | .scalar value => do
    let rustValue ← extractScalar R typ value
    let content ← (R.encode typ rustValue).mapError
      (fun reason => .builtin (.native typ) (.valueRefused reason))
    finish (.native typ) content
  | value => .error (mismatchedTypeError value typ)

/-- The Python object made from a decoded Rust value. -/
def toPython : (typ : NativeType) → RustValue P typ → Except PyErr (Scalar P)
  | .tinyInt, value => .ok (.int (BitVec.toInt (n := 8) value))
  | .smallInt, value => .ok (.int (BitVec.toInt (n := 16) value))
  | .int, value => .ok (.int (BitVec.toInt (n := 32) value))
  | .bigInt, value => .ok (.int (BitVec.toInt (n := 64) value))
  | .counter, value => .ok (.int (BitVec.toInt (n := 64) value))
  | .varint, value => .ok (.int value)
  | .float, value => .ok (.float (R.widen value))
  | .double, value => .ok (.float value)
  | .decimal, value => (R.decimalToPython value).map .decimal
  | .boolean, value => .ok (.bool value)
  | .ascii, value => .ok (.str value)
  | .text, value => .ok (.str value)
  | .blob, value => .ok (.bytes value)
  | .date, value => .ok (.cqlDate (BitVec.sub value cqlDateEpoch))
  | .duration, value => .ok (.cqlDuration value)
  | .time, value => .ok (.cqlTime value)
  | .timestamp, value => .ok (.cqlTimestamp value)
  | .inet, .v4 value => .ok (.ipv4Address value)
  | .inet, .v6 value => .ok (.ipv6Address value)
  | .timeuuid, value => .ok (.uuid value)
  | .uuid, value => .ok (.uuid value)

/-- A blob is taken as it is, every other content through the codec of its type. -/
def deserNative (typ : NativeType) (content : Bytes) : DeserResult (Scalar P) :=
  if typ = .blob then .ok (.bytes content)
  else do
    let rustValue ← (R.decode typ content).mapError .scyllaDecodeFailed
    (toPython R typ rustValue).mapError .pythonConversionFailed

/-- What the codecs write they read back. `length_encode` is about the types whose vector
elements carry no length, `decimalToPython_encode` about giving a written decimal to Python. Of
the vector elements only those with some content are known to be read as they were written. -/
structure Runtime.ReadsWritten : Prop where
  decode_encode : ∀ typ value content, R.encode typ value = .ok content →
    R.decode typ content = .ok value
  encode_blob : ∀ value : Bytes, R.encode .blob value = .ok value
  encode_ne_nil : ∀ typ value, typ.canBeEmpty = false → R.encode typ value ≠ .ok []
  length_encode : ∀ typ value content size, R.encode typ value = .ok content →
    R.typeSizeForVector (.native typ) = some size → content.length = size
  typeSize_canBeEmpty : ∀ typ, typ.canBeEmpty = true → R.typeSizeForVector (.native typ) = none
  typeSize_vector : ∀ elt dimensions size, R.typeSizeForVector (.vector elt dimensions) = some size →
    ∃ eltSize, R.typeSizeForVector elt = some eltSize ∧ size = eltSize * dimensions
  typeSize_cases : ∀ typ size, R.typeSizeForVector typ = some size →
    (∃ native, typ = .native native) ∨ ∃ elt dimensions, typ = .vector elt dimensions
  vint_ne_nil : ∀ n, R.vint n ≠ []
  vectorElement_sized : ∀ size content, R.vectorElement (some size) (some content) = content
  vectorElement_unsized : ∀ content,
    R.vectorElement none (some content) = R.vint content.length ++ content
  readVectorElement_vectorElement : ∀ size content rest, content ≠ [] →
    (∀ n, size = some n → content.length = n) →
    R.readVectorElement size (R.vectorElement size (some content) ++ rest) = some (some content, rest)
  decimalToPython_encode : ∀ value content, R.encode .decimal value = .ok content →
    ∃ object, R.decimalToPython value = .ok object

/-- The reader of vector elements also keeps those without content, which only a type whose
elements carry their length has. -/
def Runtime.KeepsEmpty : Prop :=
  ∀ rest, R.readVectorElement none (R.vectorElement none (some []) ++ rest) = some (some [], rest)

/-- The codecs also write what they read, the conversions to Python undo those from it, and
`==` and the hash tables are CPython's. -/
structure Runtime.Lawful : Prop extends R.ReadsWritten where
  eq_comm : ∀ a b, R.eq a b = R.eq b a
  eq_str : ∀ a b, R.eq (.str a) (.str b) = decide (a = b)
  place_perm : ∀ items item, (R.place items item).Perm (item :: items)
  encode_decode : ∀ typ value content, R.decode typ content = .ok value →
    ∃ written, R.encode typ value = .ok written
  narrow_widen : ∀ value, R.narrow (R.widen value) = value
  extractF64_float : ∀ value, R.extractF64 (.float value) = some value
  extractBigDecimal_decimal : ∀ value object, R.decimalToPython value = .ok object →
    R.extractBigDecimal (.decimal object) = some value

variable {R}

theorem mapError_eq_ok_iff {ε ε' α : Type} {x : Except ε α} {f : ε → ε'} {a : α} :
    x.mapError f = .ok a ↔ x = .ok a := by
  cases x <;> simp [Except.mapError]

theorem mapError_eq_error_iff {ε ε' α : Type} {x : Except ε α} {f : ε → ε'} {err : ε'} :
    x.mapError f = .error err ↔ ∃ source, x = .error source ∧ err = f source := by
  cases x <;> simp [Except.mapError, eq_comm]

theorem finish_eq_ok_iff {typ : ColumnType} {content written : Bytes} :
    finish typ content = .ok written ↔ content.length ≤ maxLength ∧ written = content := by
  by_cases hfits : content.length ≤ maxLength <;> simp [finish, hfits, eq_comm]

theorem serializeInt_toInt (P : Interop) {width : Nat} (typ : NativeType) (value : BitVec width) :
    serializeInt width typ (.int value.toInt : Scalar P) = .ok value := by
  have hlow := BitVec.le_toInt value
  have hhigh := BitVec.toInt_lt (x := value)
  simp [serializeInt, Scalar.asInt, inRange, hlow, hhigh]

theorem extractScalar_toPython (hR : R.Lawful) {typ : NativeType} {value : RustValue P typ}
    {object : Scalar P} (h : toPython R typ value = .ok object) :
    extractScalar R typ object = .ok value := by
  cases typ with
  | inet => cases value <;> cases h <;> rfl
  | decimal =>
    simp only [toPython] at h
    cases hdecimal : R.decimalToPython value with
    | error err => simp [hdecimal, Except.map] at h
    | ok decimal =>
      obtain rfl : Scalar.decimal decimal = object := by simpa [hdecimal, Except.map] using h
      change (R.extractBigDecimal (.decimal decimal)).elim _ Except.ok = _
      rw [hR.extractBigDecimal_decimal value decimal hdecimal]
      rfl
  | float =>
    obtain rfl := Except.ok.inj h
    change ((R.extractF64 (.float (R.widen value))).map R.narrow).elim _ Except.ok = _
    rw [hR.extractF64_float, Option.map_some, hR.narrow_widen]
    rfl
  | double =>
    obtain rfl := Except.ok.inj h
    change (R.extractF64 (.float value)).elim _ Except.ok = _
    rw [hR.extractF64_float]
    rfl
  | date =>
    obtain rfl := Except.ok.inj h
    change Except.ok ((BitVec.sub value cqlDateEpoch) + cqlDateEpoch) = _
    exact congrArg _ (BitVec.sub_add_cancel value cqlDateEpoch)
  | tinyInt =>
    obtain rfl := Except.ok.inj h
    exact serializeInt_toInt P .tinyInt value
  | smallInt =>
    obtain rfl := Except.ok.inj h
    exact serializeInt_toInt P .smallInt value
  | int =>
    obtain rfl := Except.ok.inj h
    exact serializeInt_toInt P .int value
  | bigInt =>
    obtain rfl := Except.ok.inj h
    exact serializeInt_toInt P .bigInt value
  | counter =>
    obtain rfl := Except.ok.inj h
    exact serializeInt_toInt P .counter value
  | _ =>
    cases h
    rfl

theorem serializeNatives_eq_ok_iff {typ : NativeType} {value : PyVal P} {content : Bytes} :
    serializeNatives R typ value = .ok content ↔ ∃ object rustValue, value = .scalar object ∧
      extractScalar R typ object = .ok rustValue ∧ R.encode typ rustValue = .ok content ∧
      content.length ≤ maxLength := by
  cases value with
  | scalar object =>
    simp only [serializeNatives, bind_eq_ok_iff, mapError_eq_ok_iff, finish_eq_ok_iff]
    constructor
    · rintro ⟨rustValue, hextract, written, hencode, hfits, rfl⟩
      exact ⟨object, rustValue, rfl, hextract, hencode, hfits⟩
    · rintro ⟨_, rustValue, ⟨⟩, hextract, hencode, hfits⟩
      exact ⟨rustValue, hextract, content, hencode, hfits, rfl⟩
  | _ => simp [serializeNatives]

theorem deserNative_encode (hR : R.ReadsWritten) {typ : NativeType} {value : RustValue P typ}
    {content : Bytes} (h : R.encode typ value = .ok content) :
    ∃ object, toPython R typ value = .ok object ∧ deserNative R typ content = .ok object := by
  by_cases hblob : typ = .blob
  · subst hblob
    obtain rfl : value = content := Except.ok.inj ((hR.encode_blob value).symm.trans h)
    exact ⟨.bytes value, rfl, by simp [deserNative]⟩
  · obtain ⟨object, hobject⟩ : ∃ object, toPython R typ value = .ok object := by
      cases typ with
      | decimal =>
        obtain ⟨decimal, hdecimal⟩ := hR.decimalToPython_encode value content h
        exact ⟨.decimal decimal, by simp [toPython, hdecimal, Except.map]⟩
      | inet => cases value <;> exact ⟨_, rfl⟩
      | _ => exact ⟨_, rfl⟩
    refine ⟨object, hobject, ?_⟩
    rw [deserNative, if_neg hblob]
    refine bind_eq_ok_iff.mpr ⟨value, ?_, ?_⟩
    · exact mapError_eq_ok_iff.mpr (hR.decode_encode typ value content h)
    · exact mapError_eq_ok_iff.mpr hobject

theorem extractScalar_deserNative (hR : R.Lawful) {typ : NativeType} {content : Bytes}
    {object : Scalar P} (h : deserNative R typ content = .ok object) :
    ∃ rustValue written, extractScalar R typ object = .ok rustValue ∧
      toPython R typ rustValue = .ok object ∧ R.encode typ rustValue = .ok written := by
  by_cases hblob : typ = .blob
  · subst hblob
    obtain rfl : Scalar.bytes content = object := by simpa [deserNative] using h
    exact ⟨content, content, rfl, rfl, hR.encode_blob content⟩
  · rw [deserNative, if_neg hblob] at h
    obtain ⟨rustValue, hdecode, hobject⟩ := bind_eq_ok_iff.mp h
    rw [mapError_eq_ok_iff] at hdecode hobject
    obtain ⟨written, hwritten⟩ := hR.encode_decode typ rustValue content hdecode
    exact ⟨rustValue, written, extractScalar_toPython hR hobject, hobject, hwritten⟩

end ScyllaDriver
