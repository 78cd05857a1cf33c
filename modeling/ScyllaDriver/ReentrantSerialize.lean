import ScyllaDriver.Reentrancy
import ScyllaDriver.Serialize

/-! Serialization where converting an element runs Python code, which may change the containers
that are being serialized. Objects are references into a world that only this code changes. -/

namespace ScyllaDriver.ReentrantSerialize

open Framing Reentrancy

abbrev Ref := Nat

/-- What the serializer sees of an object; the items of a tuple never change. -/
inductive PyObject where
  | none
  | list (items : List Ref)
  | tuple (items : List Ref)
  | set
  | dict
  | other

/-- The Python code that the serializer calls. -/
structure PyCode (W : Type) where
  object : W → Ref → PyObject
  /-- Everything `serialize_natives` does with an object. -/
  convert : NativeType → Ref → W → SerResult Bytes × W
  isMapping : Ref → W → Bool × W
  /-- `PyMapping.items()`: a list of its own, each item a pair unless that cannot be taken apart. -/
  items : Ref → W → Except PyErr (List (Except PyErr (Ref × Ref))) × W
  getItem : Ref → String → W → Except PyErr (Option Ref) × W
  setLen : Ref → W → Nat
  /-- The slots a set iterator goes through, each with what it finds there when it arrives. A set
  that changed its size ends the iteration with an exception. -/
  setIter : Ref → W → List (W → Except PyErr (Option Ref))

def PyCode.listItems {W : Type} (code : PyCode W) (w : W) (list : Ref) : List Ref :=
  match code.object w list with
  | .list items => items
  | _ => []

variable {P : Interop} (R : Runtime P) {W : Type} (code : PyCode W)

/-- The codecs of the Rust driver write as many bytes as the type has, where it has one size. -/
def PyCode.Sized : Prop := ∀ typ value w content size,
  (code.convert typ value w).1 = .ok content → R.typeSizeForVector (.native typ) = some size →
    content.length = size

/-- What is held are the lists being iterated; `element` is the vector element that is about to
be written, at the points noted for it. -/
structure Held where
  lists : List Ref
  element : Option Ref

abbrev Held.iterating (lists : List Ref) : Held := ⟨lists, .none⟩

abbrev SerM (W : Type) := CallM Held W SerializationError

def refuse {α : Type} (err : SerializationError) : SerM W α := CallM.lift (.error err)

def orInteropFailed {α : Type} (x : Except PyErr α) : SerM W α :=
  CallM.lift (x.mapError fun err => .driver (.pythonInteropFailed err) .none)

/-- A list iterator: it stops at the length the list had when it was made, or where the list
ends by now. -/
def iterateList {α : Type} (list : Ref) (each : Ref → SerM W α) : Nat → Nat → SerM W (List α)
  | 0, _ => pure []
  | remaining + 1, i => do
    match (code.listItems (← CallM.world) list)[i]? with
    | .none => return []
    | some item =>
      let a ← each item
      let rest ← iterateList list each remaining (i + 1)
      return a :: rest

/-- A set iterator: what is found in the slots, as it is reached. -/
def iterateSet {α : Type} (each : Ref → SerM W α) :
    List (W → Except PyErr (Option Ref)) → SerM W (List α)
  | [] => pure []
  | slot :: slots => do
    match ← orInteropFailed (slot (← CallM.world)) with
    | .none => iterateSet each slots
    | some item =>
      let a ← each item
      let rest ← iterateSet each slots
      return a :: rest

/-- `serialize_sequence`, with the elements that the iterator gives. -/
def serializeSequence (typ : ColumnType) (count : Nat) (elements : SerM W (List Cell)) :
    SerM W Bytes := do
  if maxLength < count then refuse (.builtin typ .tooManyElements)
  else
    let cells ← elements
    CallM.lift (finish typ (toBeInt 4 count ++ cells.flatMap writeCell))

/-- `PyMapWrapper::serialize`. -/
def serializeMap (typ : ColumnType) (active : List Ref) (key value : Ref → SerM W Cell)
    (map : Ref) : SerM W Bytes := do
  let items ← orInteropFailed (← CallM.foreign (.iterating active) (code.items map))
  if maxLength < items.length then refuse (.builtin typ .tooManyElements)
  else
    let cells ← items.mapM fun pair => do
      let pair ← orInteropFailed pair
      let keyCell ← CallM.mapError (fun err => .builtin typ (.keySerializationFailed err))
        (key pair.1)
      let valueCell ← CallM.mapError (fun err => .builtin typ (.valueSerializationFailed err))
        (value pair.2)
      return (keyCell, valueCell)
    CallM.lift (finish typ (toBeInt 4 items.length ++
      cells.flatMap fun cell => writeCell cell.1 ++ writeCell cell.2))

def serializeVector (typ : ColumnType) (dimensions count : Nat) (elements : SerM W (List Bytes)) :
    SerM W Bytes := do
  if count ≠ dimensions then refuse (.builtin typ (.invalidNumberOfElements count dimensions))
  else
    let parts ← elements
    CallM.lift (finish typ parts.flatten)

/-- An element of a list, a set or a vector. -/
def serializeElement (typ : ColumnType) (element : Ref → SerM W Cell) (item : Ref) : SerM W Cell :=
  CallM.mapError (fun err => .builtin typ (.elementSerializationFailed err)) (element item)

def serializeVectorElement (typ : ColumnType) (size : Option Nat) (active : List Ref)
    (element : Ref → SerM W Cell) (item : Ref) : SerM W Bytes := do
  CallM.note ⟨active, some item⟩
  let cell ← serializeElement typ element item
  return R.vectorElement size cell

/-- `PyAnyWrapper::serialize`. -/
def orNull (content : Ref → SerM W Bytes) (value : Ref) : SerM W Cell := do
  match code.object (← CallM.world) value with
  | .none => return .none
  | _ => return some (← content value)

mutual

/-- The dispatcher; `active` are the lists around the value that are being iterated. -/
def serializeArbitraryValue : ColumnType → List Ref → Ref → SerM W Bytes
  | .native typ, active, value => do
    CallM.lift (← CallM.foreign (.iterating active) (code.convert typ value))
  | .list frozen elt, active, value => do
    match code.object (← CallM.world) value with
    | .list items =>
      serializeSequence (.list frozen elt) items.length
        (iterateList code value (serializeElement (.list frozen elt)
          (orNull code (serializeArbitraryValue elt (value :: active)))) items.length 0)
    | _ => refuse (.driver (.typeMismatch .list) .none)
  | .map frozen key val, active, value => do
    if ← CallM.foreign (.iterating active) (code.isMapping value) then
      serializeMap code (.map frozen key val) active
        (orNull code (serializeArbitraryValue key active))
        (orNull code (serializeArbitraryValue val active)) value
    else refuse (.driver (.typeMismatch .map) .none)
  | .set frozen elt, active, value => do
    let w ← CallM.world
    match code.object w value with
    | .set =>
      serializeSequence (.set frozen elt) (code.setLen value w)
        (iterateSet (serializeElement (.set frozen elt)
          (orNull code (serializeArbitraryValue elt active))) (code.setIter value w))
    | _ => refuse (.driver (.typeMismatch .set) .none)
  | .vector elt dimensions, active, value => do
    match code.object (← CallM.world) value with
    | .list items =>
      serializeVector (.vector elt dimensions) dimensions items.length
        (iterateList code value (serializeVectorElement R (.vector elt dimensions)
          (R.typeSizeForVector elt) (value :: active)
          (orNull code (serializeArbitraryValue elt (value :: active)))) items.length 0)
    | .tuple items =>
      serializeVector (.vector elt dimensions) dimensions items.length
        (items.mapM (serializeVectorElement R (.vector elt dimensions) (R.typeSizeForVector elt)
          active (orNull code (serializeArbitraryValue elt active))))
    | _ => refuse (.driver (.typeMismatch .vector) .none)
  | .userDefinedType frozen keyspace name fieldTypes, active, value => do
    match code.object (← CallM.world) value with
    | .dict =>
      let contents ← serializeUdtFields (.userDefinedType frozen keyspace name fieldTypes) active
        value fieldTypes
      CallM.lift (finish (.userDefinedType frozen keyspace name fieldTypes)
        (contents.flatMap fun content => writeCell (some content)))
    | _ => refuse (.driver (.typeMismatch .udt) .none)
  | .tuple elts, active, value => do
    match code.object (← CallM.world) value with
    | .tuple items =>
      if elts.length < items.length then
        refuse (.typeCheck (.tuple elts) (.wrongElementCount items.length elts.length))
      else
        let contents ← serializeTupleElements active elts items
        CallM.lift (finish (.tuple elts) (contents.flatMap fun content => writeCell (some content)))
    | _ => refuse (.driver (.typeMismatch .tuple) .none)
termination_by structural typ => typ

def serializeUdtFields (typ : ColumnType) (active : List Ref) (dict : Ref) :
    List (String × ColumnType) → SerM W (List Bytes)
  | [] => pure []
  | (fieldName, fieldType) :: fieldTypes => do
    match ← orInteropFailed
      (← CallM.foreign (.iterating active) (code.getItem dict fieldName)) with
    | .none => refuse (.typeCheck typ (.valueMissingForUdtField fieldName))
    | some item =>
      let content ← serializeArbitraryValue fieldType active item
      let rest ← serializeUdtFields typ active dict fieldTypes
      return content :: rest
termination_by structural fieldTypes => fieldTypes

def serializeTupleElements (active : List Ref) : List ColumnType → List Ref → SerM W (List Bytes)
  | [], _ => pure []
  | elt :: elts, items => match items with
    | [] => pure []
    | item :: items => do
      let content ← serializeArbitraryValue elt active item
      let rest ← serializeTupleElements active elts items
      return content :: rest
termination_by structural elts => elts

end

def serialize (typ : ColumnType) (active : List Ref) : Ref → SerM W Cell :=
  orNull code (serializeArbitraryValue R code typ active)

mutual

/-- The count in front of every list and map in the cell is the number of elements that follow
it, and every vector has as many elements as its type says. The cells of a type with one size
have that size. -/
def WellFormed : ColumnType → Cell → Prop
  | .native typ, cell => ∀ content size, cell = some content →
      R.typeSizeForVector (.native typ) = some size → content.length = size
  | .list _ elt, cell => ∀ content, cell = some content → ∃ cells : List Cell,
      content = toBeInt 4 cells.length ++ cells.flatMap writeCell ∧ cells.length ≤ maxLength ∧
      ∀ cell ∈ cells, WellFormed elt cell
  | .map _ key val, cell => ∀ content, cell = some content → ∃ cells : List (Cell × Cell),
      content = toBeInt 4 cells.length ++
        cells.flatMap (fun cell => writeCell cell.1 ++ writeCell cell.2) ∧
      cells.length ≤ maxLength ∧ ∀ cell ∈ cells, WellFormed key cell.1 ∧ WellFormed val cell.2
  -- Nothing is said of the count of a set.
  | .set _ elt, cell => ∀ content, cell = some content → ∃ count, ∃ cells : List Cell,
      content = toBeInt 4 count ++ cells.flatMap writeCell ∧ ∀ cell ∈ cells, WellFormed elt cell
  | .vector elt dimensions, cell => ∀ content, cell = some content → ∃ contents : List Bytes,
      contents.length = dimensions ∧
      content = contents.flatMap (fun content =>
        R.vectorElement (R.typeSizeForVector elt) (some content)) ∧
      ∀ content ∈ contents, WellFormed elt (some content)
  | .userDefinedType _ _ _ fieldTypes, cell => ∀ content, cell = some content →
      ∃ contents : List Bytes, content = contents.flatMap (fun content => writeCell (some content)) ∧
        WellFormedFields fieldTypes contents
  | .tuple elts, cell => ∀ content, cell = some content →
      ∃ contents : List Bytes, content = contents.flatMap (fun content => writeCell (some content)) ∧
        WellFormedElements elts contents
termination_by structural typ => typ

def WellFormedFields : List (String × ColumnType) → List Bytes → Prop
  | [], contents => contents = []
  | field :: fieldTypes, contents => ∃ content rest, contents = content :: rest ∧
      WellFormed field.2 (some content) ∧ WellFormedFields fieldTypes rest
termination_by structural fieldTypes => fieldTypes

/-- A tuple may have fewer elements than its type. -/
def WellFormedElements : List ColumnType → List Bytes → Prop
  | [], contents => contents = []
  | elt :: elts, contents => contents = [] ∨ ∃ content rest, contents = content :: rest ∧
      WellFormed elt (some content) ∧ WellFormedElements elts rest
termination_by structural elts => elts

end

end ScyllaDriver.ReentrantSerialize
