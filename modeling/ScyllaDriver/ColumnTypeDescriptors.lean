import Mathlib.Data.List.Nodup
import ScyllaDriver.CqlTypes
import ScyllaDriver.Fallible

/-! The descriptors Python is given for column types. Each variant of the driver's enums has a
class of its own, whose attributes are the parts of the type. -/

namespace ScyllaDriver

open Fallible

/-- The enums a column type is made of. None of them is exhaustive. -/
inductive DriverEnum where
  | columnType
  | nativeType
  | collectionType (frozen : Bool)
  deriving DecidableEq, Repr

/-- `ColumnType` as the users of the driver have to match on it: `unlisted` stands for the
variants that another version of the driver may have. -/
inductive OpenColumnType where
  | native (typ : NativeType)
  | list (frozen : Bool) (elt : OpenColumnType)
  | set (frozen : Bool) (elt : OpenColumnType)
  | map (frozen : Bool) (key value : OpenColumnType)
  | vector (elt : OpenColumnType) (dimensions : Nat)
  | userDefinedType (frozen : Bool) (keyspace name : String)
      (fieldTypes : List (String × OpenColumnType))
  | tuple (elts : List OpenColumnType)
  | unlisted (within : DriverEnum) (variant : Nat)

mutual

def ColumnType.toOpen : ColumnType → OpenColumnType
  | .native typ => .native typ
  | .list frozen elt => .list frozen elt.toOpen
  | .set frozen elt => .set frozen elt.toOpen
  | .map frozen key value => .map frozen key.toOpen value.toOpen
  | .vector elt dimensions => .vector elt.toOpen dimensions
  | .userDefinedType frozen keyspace name fieldTypes =>
    .userDefinedType frozen keyspace name (ColumnType.fieldsToOpen fieldTypes)
  | .tuple elts => .tuple (ColumnType.eltsToOpen elts)

def ColumnType.fieldsToOpen : List (String × ColumnType) → List (String × OpenColumnType)
  | [] => []
  | (name, typ) :: fields => (name, typ.toOpen) :: ColumnType.fieldsToOpen fields

def ColumnType.eltsToOpen : List ColumnType → List OpenColumnType
  | [] => []
  | elt :: elts => elt.toOpen :: ColumnType.eltsToOpen elts

end

inductive PyCqlNativeType where
  | ascii | boolean | blob | counter | date | decimal | double | duration | float | int | bigInt
  | text | timestamp | inet | smallInt | tinyInt | time | timeuuid | uuid | varint
  deriving DecidableEq, Repr

/-- The names given to `native_type_class!`. -/
def PyCqlNativeType.pyName : PyCqlNativeType → String
  | .ascii => "CqlAsciiType"
  | .boolean => "CqlBooleanType"
  | .blob => "CqlBlobType"
  | .counter => "CqlCounterType"
  | .date => "CqlDateType"
  | .decimal => "CqlDecimalType"
  | .double => "CqlDoubleType"
  | .duration => "CqlDurationType"
  | .float => "CqlFloatType"
  | .int => "CqlIntType"
  | .bigInt => "CqlBigIntType"
  | .text => "CqlTextType"
  | .timestamp => "CqlTimestampType"
  | .inet => "CqlInetType"
  | .smallInt => "CqlSmallIntType"
  | .tinyInt => "CqlTinyIntType"
  | .time => "CqlTimeType"
  | .timeuuid => "CqlTimeuuidType"
  | .uuid => "CqlUuidType"
  | .varint => "CqlVarintType"

inductive PyClass where
  | native (cls : PyCqlNativeType)
  | map | set | list | tuple | vector | userDefinedType
  deriving DecidableEq, Repr

/-- The `__name__` of the class. -/
def PyClass.name : PyClass → String
  | .native cls => cls.pyName
  | .map => "CqlMapType"
  | .set => "CqlSetType"
  | .list => "CqlListType"
  | .tuple => "CqlTupleType"
  | .vector => "CqlVectorType"
  | .userDefinedType => "CqlUserDefinedType"

/-- A descriptor with the descriptors it refers to. The classes are frozen, so it stays what it
was made as. -/
inductive PyCqlColumnType where
  | native (cls : PyCqlNativeType)
  | map (frozen : Bool) (keyType valueType : PyCqlColumnType)
  | set (frozen : Bool) (columnType : PyCqlColumnType)
  | list (frozen : Bool) (columnType : PyCqlColumnType)
  | tuple (elementTypes : List PyCqlColumnType)
  | vector (typ : PyCqlColumnType) (dimensions : Nat)
  | userDefinedType (name : String) (frozen : Bool) (keyspace : String)
      (fieldTypes : List (String × PyCqlColumnType))

def unreachableMessage : String :=
  "internal error: entered unreachable code: clippy testifies that the match is exhaustive"

def extractNativeType : NativeType → PyCqlNativeType
  | .ascii => .ascii
  | .bigInt => .bigInt
  | .blob => .blob
  | .boolean => .boolean
  | .counter => .counter
  | .date => .date
  | .decimal => .decimal
  | .double => .double
  | .duration => .duration
  | .float => .float
  | .inet => .inet
  | .int => .int
  | .smallInt => .smallInt
  | .text => .text
  | .time => .time
  | .timestamp => .timestamp
  | .timeuuid => .timeuuid
  | .tinyInt => .tinyInt
  | .uuid => .uuid
  | .varint => .varint

section Code

-- What the interpreter raises instead of the object or the list that is asked for.
variable (raises : Nat → Option PyErr)

def pyNew (object : PyCqlColumnType) : RunM PyErr PyCqlColumnType := RunM.request raises object

mutual

def extractColumnType : OpenColumnType → RunM PyErr PyCqlColumnType
  | .native typ => pyNew raises (.native (extractNativeType typ))
  | .list frozen elt => do
    let columnType ← extractColumnType elt
    pyNew raises (.list frozen columnType)
  | .set frozen elt => do
    let columnType ← extractColumnType elt
    pyNew raises (.set frozen columnType)
  | .map frozen key value => do
    let keyType ← extractColumnType key
    let valueType ← extractColumnType value
    pyNew raises (.map frozen keyType valueType)
  | .tuple elts => do
    let elementTypes ← extractElementTypes elts
    pyNew raises (.tuple elementTypes)
  | .vector elt dimensions => do
    let elementType ← extractColumnType elt
    pyNew raises (.vector elementType dimensions)
  | .userDefinedType frozen keyspace name fieldTypes => do
    let fields ← extractFieldTypes fieldTypes
    pyNew raises (.userDefinedType name frozen keyspace fields)
  | .unlisted _ _ => RunM.panicWith unreachableMessage

def extractElementTypes : List OpenColumnType → RunM PyErr (List PyCqlColumnType)
  | [] => return []
  | elt :: elts => do
    let elementType ← extractColumnType elt
    let elementTypes ← extractElementTypes elts
    return elementType :: elementTypes

def extractFieldTypes :
    List (String × OpenColumnType) → RunM PyErr (List (String × PyCqlColumnType))
  | [] => return []
  | (fieldName, typ) :: fields => do
    let fieldType ← extractColumnType typ
    let fieldTypes ← extractFieldTypes fields
    return (fieldName, fieldType) :: fieldTypes

end

/-- The exceptions of `column_type_list`; a `QueryMetadataError` has the one behind it as its
cause. -/
inductive MetadataException where
  | queryMetadataError (message : String) (cause : PyErr)
  | raised (err : PyErr)
  deriving DecidableEq, Repr

def columnTypeExtractionFailed (source : PyErr) : MetadataException :=
  .queryMetadataError "Failed to extract column type from metadata" source

def appendType (types : List PyCqlColumnType) (cqlType : PyCqlColumnType) :
    RunM PyErr (List PyCqlColumnType) :=
  RunM.request raises (types ++ [cqlType])

/-- `specs` are the types of the column specifications. -/
def columnTypeList (specs : List OpenColumnType) :
    RunM MetadataException (List PyCqlColumnType) :=
  specs.foldlM (fun types typ => do
    let cqlType ← RunM.mapErr columnTypeExtractionFailed (extractColumnType raises typ)
    RunM.mapErr .raised (appendType raises types cqlType)) []

end Code

def PyCqlNativeType.toNative : PyCqlNativeType → NativeType
  | .ascii => .ascii
  | .boolean => .boolean
  | .blob => .blob
  | .counter => .counter
  | .date => .date
  | .decimal => .decimal
  | .double => .double
  | .duration => .duration
  | .float => .float
  | .int => .int
  | .bigInt => .bigInt
  | .text => .text
  | .timestamp => .timestamp
  | .inet => .inet
  | .smallInt => .smallInt
  | .tinyInt => .tinyInt
  | .time => .time
  | .timeuuid => .timeuuid
  | .uuid => .uuid
  | .varint => .varint

theorem PyCqlNativeType.toNative_extract (typ : NativeType) :
    (extractNativeType typ).toNative = typ := by
  cases typ <;> rfl

def PyClass.all : List PyClass :=
  [.native .ascii, .native .boolean, .native .blob, .native .counter, .native .date,
    .native .decimal, .native .double, .native .duration, .native .float, .native .int,
    .native .bigInt, .native .text, .native .timestamp, .native .inet, .native .smallInt,
    .native .tinyInt, .native .time, .native .timeuuid, .native .uuid, .native .varint,
    .map, .set, .list, .tuple, .vector, .userDefinedType]

theorem PyClass.mem_all (cls : PyClass) : cls ∈ PyClass.all := by
  cases cls with
  | native typ => cases typ <;> decide
  | _ => decide

theorem PyClass.nodup_names : (PyClass.all.map PyClass.name).Nodup := by
  decide +kernel

theorem PyClass.name_injective : Function.Injective PyClass.name := by
  intro cls cls' h
  exact List.inj_on_of_nodup_map PyClass.nodup_names cls.mem_all cls'.mem_all h

namespace PyCqlColumnType

mutual

/-- The column type that a descriptor describes. -/
def rebuild : PyCqlColumnType → ColumnType
  | .native cls => .native cls.toNative
  | .map frozen keyType valueType => .map frozen keyType.rebuild valueType.rebuild
  | .set frozen columnType => .set frozen columnType.rebuild
  | .list frozen columnType => .list frozen columnType.rebuild
  | .tuple elementTypes => .tuple (rebuildElements elementTypes)
  | .vector typ dimensions => .vector typ.rebuild dimensions
  | .userDefinedType name frozen keyspace fieldTypes =>
    .userDefinedType frozen keyspace name (rebuildFields fieldTypes)

def rebuildElements : List PyCqlColumnType → List ColumnType
  | [] => []
  | elementType :: elementTypes => elementType.rebuild :: rebuildElements elementTypes

def rebuildFields : List (String × PyCqlColumnType) → List (String × ColumnType)
  | [] => []
  | (name, fieldType) :: fieldTypes => (name, fieldType.rebuild) :: rebuildFields fieldTypes

end

def cls : PyCqlColumnType → PyClass
  | .native cls => .native cls
  | .map _ _ _ => .map
  | .set _ _ => .set
  | .list _ _ => .list
  | .tuple _ => .tuple
  | .vector _ _ => .vector
  | .userDefinedType _ _ _ _ => .userDefinedType

inductive Attribute where
  | bool (value : Bool)
  | int (value : Nat)
  | str (value : String)
  | descriptor (value : PyCqlColumnType)
  | descriptors (items : List PyCqlColumnType)
  | fields (items : List (String × PyCqlColumnType))

/-- The attributes of the class, those of `PyCqlCollectionType` first. -/
def attributes : PyCqlColumnType → List (String × Attribute)
  | .native _ => []
  | .map frozen keyType valueType =>
    [("frozen", .bool frozen), ("key_type", .descriptor keyType),
      ("value_type", .descriptor valueType)]
  | .set frozen columnType => [("frozen", .bool frozen), ("column_type", .descriptor columnType)]
  | .list frozen columnType => [("frozen", .bool frozen), ("column_type", .descriptor columnType)]
  | .tuple elementTypes => [("element_types", .descriptors elementTypes)]
  | .vector typ dimensions => [("typ", .descriptor typ), ("dimensions", .int dimensions)]
  | .userDefinedType name frozen keyspace fieldTypes =>
    [("name", .str name), ("frozen", .bool frozen), ("keyspace", .str keyspace),
      ("field_types", .fields fieldTypes)]

def Attribute.Alike (E : PyCqlColumnType → PyCqlColumnType → Prop) : Attribute → Attribute → Prop
  | .bool value, .bool value' => value = value'
  | .int value, .int value' => value = value'
  | .str value, .str value' => value = value'
  | .descriptor value, .descriptor value' => E value value'
  | .descriptors items, .descriptors items' => List.Forall₂ E items items'
  | .fields items, .fields items' =>
    List.Forall₂ (fun item item' => item.1 = item'.1 ∧ E item.2 item'.2) items items'
  | _, _ => False

/-- A comparison of descriptors by what Python sees of them: two that are equal have classes of
the same name, and equal attributes under the same names. -/
structure StructuralEquality (E : PyCqlColumnType → PyCqlColumnType → Prop) : Prop where
  className : ∀ {d d'}, E d d' → d.cls.name = d'.cls.name
  attributes : ∀ {d d'}, E d d' →
    List.Forall₂ (fun a a' => a.1 = a'.1 ∧ a.2.Alike E a'.2) d.attributes d'.attributes

variable {E : PyCqlColumnType → PyCqlColumnType → Prop}

/-- Descriptors of one class, with equal values and with parts that are related. -/
inductive Matches (E : PyCqlColumnType → PyCqlColumnType → Prop) :
    PyCqlColumnType → PyCqlColumnType → Prop
  | native (cls : PyCqlNativeType) : Matches E (.native cls) (.native cls)
  | map {frozen key key' value value'} (hkey : E key key') (hvalue : E value value') :
    Matches E (.map frozen key value) (.map frozen key' value')
  | set {frozen elt elt'} (helt : E elt elt') : Matches E (.set frozen elt) (.set frozen elt')
  | list {frozen elt elt'} (helt : E elt elt') : Matches E (.list frozen elt) (.list frozen elt')
  | tuple {elts elts'} (helts : List.Forall₂ E elts elts') : Matches E (.tuple elts) (.tuple elts')
  | vector {elt elt' dimensions} (helt : E elt elt') :
    Matches E (.vector elt dimensions) (.vector elt' dimensions)
  | userDefinedType {name frozen keyspace fields fields'}
    (hfields : List.Forall₂ (fun field field' => field.1 = field'.1 ∧ E field.2 field'.2)
      fields fields') :
    Matches E (.userDefinedType name frozen keyspace fields)
      (.userDefinedType name frozen keyspace fields')

theorem StructuralEquality.matches (hE : StructuralEquality E) {d d' : PyCqlColumnType}
    (h : E d d') : Matches E d d' := by
  have hcls : d.cls = d'.cls := PyClass.name_injective (hE.className h)
  have hattrs := hE.attributes h
  cases d with
  | native cls =>
    cases d' with
    | native cls' =>
      obtain rfl : cls = cls' := PyClass.native.inj hcls
      exact .native cls
    | _ => cases hcls
  | map frozen key value =>
    cases d' with
    | map frozen' key' value' =>
      simp only [PyCqlColumnType.attributes, List.forall₂_cons, Attribute.Alike] at hattrs
      obtain ⟨⟨-, rfl⟩, ⟨-, hkey⟩, ⟨-, hvalue⟩, -⟩ := hattrs
      exact .map hkey hvalue
    | _ => cases hcls
  | set frozen elt =>
    cases d' with
    | set frozen' elt' =>
      simp only [PyCqlColumnType.attributes, List.forall₂_cons, Attribute.Alike] at hattrs
      obtain ⟨⟨-, rfl⟩, ⟨-, helt⟩, -⟩ := hattrs
      exact .set helt
    | _ => cases hcls
  | list frozen elt =>
    cases d' with
    | list frozen' elt' =>
      simp only [PyCqlColumnType.attributes, List.forall₂_cons, Attribute.Alike] at hattrs
      obtain ⟨⟨-, rfl⟩, ⟨-, helt⟩, -⟩ := hattrs
      exact .list helt
    | _ => cases hcls
  | tuple elts =>
    cases d' with
    | tuple elts' =>
      simp only [PyCqlColumnType.attributes, List.forall₂_cons, Attribute.Alike] at hattrs
      obtain ⟨⟨-, helts⟩, -⟩ := hattrs
      exact .tuple helts
    | _ => cases hcls
  | vector elt dimensions =>
    cases d' with
    | vector elt' dimensions' =>
      simp only [PyCqlColumnType.attributes, List.forall₂_cons, Attribute.Alike] at hattrs
      obtain ⟨⟨-, helt⟩, ⟨-, rfl⟩, -⟩ := hattrs
      exact .vector helt
    | _ => cases hcls
  | userDefinedType name frozen keyspace fields =>
    cases d' with
    | userDefinedType name' frozen' keyspace' fields' =>
      simp only [PyCqlColumnType.attributes, List.forall₂_cons, Attribute.Alike] at hattrs
      obtain ⟨⟨-, rfl⟩, ⟨-, rfl⟩, ⟨-, rfl⟩, ⟨-, hfields⟩, -⟩ := hattrs
      exact .userDefinedType hfields
    | _ => cases hcls

mutual

/-- By recursion on the first descriptor, whose class the second one shares. -/
theorem StructuralEquality.eq (hE : StructuralEquality E) (d : PyCqlColumnType)
    {d' : PyCqlColumnType} (h : E d d') : d = d' := by
  match d, hE.matches h with
  | _, .native cls => rfl
  | .map _ key value, .map hkey hvalue => rw [hE.eq key hkey, hE.eq value hvalue]
  | .set _ elt, .set helt => rw [hE.eq elt helt]
  | .list _ elt, .list helt => rw [hE.eq elt helt]
  | .tuple elts, .tuple helts => rw [hE.elements_eq elts helts]
  | .vector elt _, .vector helt => rw [hE.eq elt helt]
  | .userDefinedType _ _ _ fields, .userDefinedType hfields => rw [hE.fields_eq fields hfields]

theorem StructuralEquality.elements_eq (hE : StructuralEquality E) (elts : List PyCqlColumnType)
    {elts' : List PyCqlColumnType} (h : List.Forall₂ E elts elts') : elts = elts' := by
  match elts, h with
  | [], .nil => rfl
  | elt :: elts, .cons helt helts => rw [hE.eq elt helt, hE.elements_eq elts helts]

theorem StructuralEquality.fields_eq (hE : StructuralEquality E)
    (fields : List (String × PyCqlColumnType)) {fields' : List (String × PyCqlColumnType)}
    (h : List.Forall₂ (fun field field' => field.1 = field'.1 ∧ E field.2 field'.2)
      fields fields') : fields = fields' := by
  match fields, h with
  | [], .nil => rfl
  | (name, typ) :: fields, .cons hfield hfields =>
    rw [hE.fields_eq fields hfields]
    exact congrArg (· :: _) (Prod.ext hfield.1 (hE.eq typ hfield.2))

end

theorem structuralEquality_eq : StructuralEquality (· = ·) := by
  refine ⟨fun h => by rw [h], ?_⟩
  rintro d _ rfl
  refine List.forall₂_same.mpr fun named _ => ⟨rfl, ?_⟩
  cases named.2 with
  | descriptors items => exact List.forall₂_same.mpr fun _ _ => rfl
  | fields items => exact List.forall₂_same.mpr fun _ _ => ⟨rfl, rfl⟩
  | _ => rfl

end PyCqlColumnType

end ScyllaDriver
