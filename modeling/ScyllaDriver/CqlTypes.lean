import ScyllaDriver.Callbacks
import ScyllaDriver.Framing

/-! The column types and the Python objects that are converted to and from their
cells. What pyo3, chrono and the Rust driver supply is kept apart in `Interop` and
`Runtime`; CPython's `set` and `dict` are lists in their iteration order. -/

namespace ScyllaDriver

open Framing

inductive NativeType where
  | ascii | boolean | blob | counter | date | decimal | double | duration | float | int | bigInt
  | text | timestamp | inet | smallInt | tinyInt | time | timeuuid | uuid | varint
  deriving DecidableEq, Repr

/-- The types whose empty cell is an ordinary value. -/
def NativeType.canBeEmpty (typ : NativeType) : Bool :=
  typ = .ascii || typ = .blob || typ = .text

inductive ColumnType where
  | native (typ : NativeType)
  | list (frozen : Bool) (elt : ColumnType)
  | set (frozen : Bool) (elt : ColumnType)
  | map (frozen : Bool) (key value : ColumnType)
  | vector (elt : ColumnType) (dimensions : Nat)
  | userDefinedType (frozen : Bool) (keyspace name : String) (fieldTypes : List (String × ColumnType))
  | tuple (elts : List ColumnType)

namespace ColumnType

@[elab_as_elim, induction_eliminator]
theorem induct {motive : ColumnType → Prop} (native : ∀ typ, motive (.native typ))
    (list : ∀ frozen elt, motive elt → motive (.list frozen elt))
    (set : ∀ frozen elt, motive elt → motive (.set frozen elt))
    (map : ∀ frozen key value, motive key → motive value → motive (.map frozen key value))
    (vector : ∀ elt dimensions, motive elt → motive (.vector elt dimensions))
    (userDefinedType : ∀ frozen keyspace name fieldTypes, (∀ field ∈ fieldTypes, motive field.2) →
      motive (.userDefinedType frozen keyspace name fieldTypes))
    (tuple : ∀ elts, (∀ elt ∈ elts, motive elt) → motive (.tuple elts)) :
    ∀ typ, motive typ := by
  intro typ
  refine @ColumnType.rec motive (fun fields => ∀ field ∈ fields, motive field.2)
    (fun elts => ∀ elt ∈ elts, motive elt) (fun field => motive field.2)
    native list set map vector userDefinedType tuple (by simp) ?_ (by simp) ?_ ?_ typ
  · intro field fields hfield hfields
    exact List.forall_mem_cons.mpr ⟨hfield, hfields⟩
  · intro elt elts helt helts
    exact List.forall_mem_cons.mpr ⟨helt, helts⟩
  · intro name elt helt
    exact helt

/-- `p` at the type and at every type it is built from. -/
inductive Everywhere (p : ColumnType → Prop) : ColumnType → Prop
  | native {typ} (here : p (.native typ)) : Everywhere p (.native typ)
  | list {frozen elt} (here : p (.list frozen elt)) (inner : Everywhere p elt) :
    Everywhere p (.list frozen elt)
  | set {frozen elt} (here : p (.set frozen elt)) (inner : Everywhere p elt) :
    Everywhere p (.set frozen elt)
  | map {frozen key value} (here : p (.map frozen key value)) (keys : Everywhere p key)
    (values : Everywhere p value) : Everywhere p (.map frozen key value)
  | vector {elt dimensions} (here : p (.vector elt dimensions)) (inner : Everywhere p elt) :
    Everywhere p (.vector elt dimensions)
  | userDefinedType {frozen keyspace name fieldTypes}
    (here : p (.userDefinedType frozen keyspace name fieldTypes))
    (fields : ∀ field ∈ fieldTypes, Everywhere p field.2) :
    Everywhere p (.userDefinedType frozen keyspace name fieldTypes)
  | tuple {elts} (here : p (.tuple elts)) (inner : ∀ elt ∈ elts, Everywhere p elt) :
    Everywhere p (.tuple elts)

end ColumnType

structure ColumnSpec where
  name : String
  typ : ColumnType

/-- The types of Python's libraries and of the Rust crates behind them. -/
structure Interop where
  F32 : Type
  F64 : Type
  BigDecimal : Type
  Decimal : Type
  Date : Type
  Time : Type
  DateTime : Type

/-- The relative fields of a `dateutil.relativedelta.relativedelta`, as Python ints. -/
structure Relativedelta where
  years : Int
  months : Int
  days : Int
  hours : Int
  minutes : Int
  seconds : Int
  microseconds : Int
  deriving DecidableEq, Repr

/-- `CqlDuration` of the Rust driver, and `PyCqlDuration` with the same fields. -/
structure CqlDuration where
  months : BitVec 32
  days : BitVec 32
  nanoseconds : BitVec 64
  deriving DecidableEq, Repr

inductive Scalar (P : Interop) where
  | bool (value : Bool)
  | int (value : Int)
  | float (value : P.F64)
  | str (value : String)
  | bytes (value : Bytes)
  | decimal (value : P.Decimal)
  | uuid (value : BitVec 128)
  | ipv4Address (value : BitVec 32)
  | ipv6Address (value : BitVec 128)
  | cqlDate (days : BitVec 32)
  | cqlTime (nanoseconds : BitVec 64)
  | cqlTimestamp (milliseconds : BitVec 64)
  | cqlDuration (duration : CqlDuration)
  | date (value : P.Date)
  | time (value : P.Time)
  | datetime (value : P.DateTime)
  | relativedelta (delta : Relativedelta)
  | other (typeName : String)

/-- A Python object with what it holds. `mapping` is a `Mapping` that is not a dict. -/
inductive PyVal (P : Interop) where
  | none
  | cqlEmpty
  | scalar (value : Scalar P)
  | list (items : List (PyVal P))
  | tuple (items : List (PyVal P))
  | set (items : List (PyVal P))
  | dict (items : List (PyVal P × PyVal P))
  | mapping (items : List (PyVal P × PyVal P))

/-- `type(value).__name__`. -/
def Scalar.typeName {P : Interop} : Scalar P → String
  | .bool _ => "bool"
  | .int _ => "int"
  | .float _ => "float"
  | .str _ => "str"
  | .bytes _ => "bytes"
  | .decimal _ => "Decimal"
  | .uuid _ => "UUID"
  | .ipv4Address _ => "IPv4Address"
  | .ipv6Address _ => "IPv6Address"
  | .cqlDate _ => "CqlDate"
  | .cqlTime _ => "CqlTime"
  | .cqlTimestamp _ => "CqlTimestamp"
  | .cqlDuration _ => "CqlDuration"
  | .date _ => "date"
  | .time _ => "time"
  | .datetime _ => "datetime"
  | .relativedelta _ => "relativedelta"
  | .other typeName => typeName

def PyVal.typeName {P : Interop} : PyVal P → String
  | .none => "NoneType"
  | .cqlEmpty => "CqlEmpty"
  | .scalar value => value.typeName
  | .list _ => "list"
  | .tuple _ => "tuple"
  | .set _ => "set"
  | .dict _ => "dict"
  | .mapping _ => "Mapping"

inductive IpAddr where
  | v4 (address : BitVec 32)
  | v6 (address : BitVec 128)
  deriving DecidableEq, Repr

/-- The Rust value that a cell of each native type holds. -/
abbrev RustValue (P : Interop) : NativeType → Type
  | .ascii | .text => String
  | .boolean => Bool
  | .blob => Bytes
  | .tinyInt => BitVec 8
  | .smallInt => BitVec 16
  | .int | .date => BitVec 32
  | .bigInt | .counter | .time | .timestamp => BitVec 64
  | .varint => Int
  | .float => P.F32
  | .double => P.F64
  | .decimal => P.BigDecimal
  | .duration => CqlDuration
  | .inet => IpAddr
  | .timeuuid | .uuid => BitVec 128

/-- An error of the Rust driver while it reads a cell. -/
inductive DecodeError where
  | tooFewBytes
  | invalidValue (typ : NativeType) (reason : String)
  deriving DecidableEq, Repr

/-- What the driver calls and does not define: CPython's `==` on hashable objects and the
place its hash tables give to a new element, the native codecs and vector framing of the
Rust driver, and the conversions of pyo3 and chrono. -/
structure Runtime (P : Interop) where
  eq : Scalar P → Scalar P → Bool
  place : List (PyVal P) → PyVal P → List (PyVal P)
  encode : (typ : NativeType) → RustValue P typ → Except String Bytes
  decode : (typ : NativeType) → Bytes → Except DecodeError (RustValue P typ)
  /-- The size of every vector element of the type, where it is one and the same. -/
  typeSizeForVector : ColumnType → Option Nat
  vint : Nat → Bytes
  /-- What the writers of vector elements append for an element with the cell. -/
  vectorElement : Option Nat → Cell → Bytes
  /-- `VectorIterator` takes the next element off the content. -/
  readVectorElement : Option Nat → Bytes → Option (Cell × Bytes)
  widen : P.F32 → P.F64
  narrow : P.F64 → P.F32
  extractF64 : Scalar P → Option P.F64
  extractBigDecimal : Scalar P → Option P.BigDecimal
  decimalToPython : P.BigDecimal → Except PyErr P.Decimal
  extractNaiveDate : Scalar P → Option (BitVec 32)
  extractNaiveTime : Scalar P → Option (BitVec 64)
  awareDatetimeToUtc : P.DateTime → Option (BitVec 64)

end ScyllaDriver
