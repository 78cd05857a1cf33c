import ScyllaDriver.PyContainers

/-! Python objects to cells. A cell writer is modelled by the content it ends with,
null being `none`; every sub-writer of a builder puts the length in front of its cell. -/

namespace ScyllaDriver

open Framing

variable {P : Interop} (R : Runtime P)

def typeMismatch {α : Type} (expected : TypeExpected) : SerResult α :=
  .error (.driver (.typeMismatch expected) none)

/-- `PyListWrapper::new`: the items of a list. -/
def pyListWrapper : PyVal P → SerResult (List (PyVal P))
  | .list items => .ok items
  | _ => typeMismatch .list

def pySetWrapper : PyVal P → SerResult (List (PyVal P))
  | .set items => .ok items
  | _ => typeMismatch .set

/-- `PyMapWrapper::new` with `items()` of the mapping. -/
def pyMapWrapper : PyVal P → SerResult (List (PyVal P × PyVal P))
  | .dict items => .ok items
  | .mapping items => .ok items
  | _ => typeMismatch .map

def pyVectorWrapper : PyVal P → SerResult (List (PyVal P))
  | .list items => .ok items
  | .tuple items => .ok items
  | _ => typeMismatch .vector

def pyUdtWrapper : PyVal P → SerResult (List (PyVal P × PyVal P))
  | .dict items => .ok items
  | _ => typeMismatch .udt

def pyTupleWrapper : PyVal P → SerResult (List (PyVal P))
  | .tuple items => .ok items
  | _ => typeMismatch .tuple

/-- The cell of a value whose content `content` writes, `None` being null. -/
def orNull (content : PyVal P → SerResult Bytes) : PyVal P → SerResult Cell
  | .none => .ok none
  | value => (content value).map some

/-- `serialize_sequence`, for the elements of a list or of a set. -/
def serializeSequence (typ : ColumnType) (element : PyVal P → SerResult Cell)
    (items : List (PyVal P)) : SerResult Bytes :=
  if maxLength < items.length then .error (.builtin typ .tooManyElements)
  else do
    let elements ← concatM (fun item => do
      let cell ← (element item).mapError (fun err => .builtin typ (.elementSerializationFailed err))
      return writeCell cell) items
    finish typ (toBeInt 4 items.length ++ elements)

/-- `PyMapWrapper::serialize`. -/
def serializeMap (typ : ColumnType) (key value : PyVal P → SerResult Cell)
    (items : List (PyVal P × PyVal P)) : SerResult Bytes :=
  if maxLength < items.length then .error (.builtin typ .tooManyElements)
  else do
    let elements ← concatM (fun pair => do
      let keyCell ← (key pair.1).mapError (fun err => .builtin typ (.keySerializationFailed err))
      let valueCell ← (value pair.2).mapError
        (fun err => .builtin typ (.valueSerializationFailed err))
      return writeCell keyCell ++ writeCell valueCell) items
    finish typ (toBeInt 4 items.length ++ elements)

def serializeVector (typ : ColumnType) (size : Option Nat) (element : PyVal P → SerResult Cell)
    (dimensions : Nat) (items : List (PyVal P)) : SerResult Bytes :=
  if items.length ≠ dimensions then
    .error (.builtin typ (.invalidNumberOfElements items.length dimensions))
  else do
    let elements ← concatM (fun item => do
      let cell ← (element item).mapError (fun err => .builtin typ (.elementSerializationFailed err))
      return R.vectorElement size cell) items
    finish typ elements

mutual

/-- The dispatcher. Elements of lists, sets, maps and vectors go through `serialize`; the
fields of a UDT and the elements of a tuple come straight back here. -/
def serializeArbitraryValue : ColumnType → PyVal P → SerResult Bytes
  | .native typ, value => serializeNatives R typ value
  | .list frozen elt, value => do
    let items ← pyListWrapper value
    serializeSequence (.list frozen elt) (orNull (serializeArbitraryValue elt)) items
  | .map frozen key val, value => do
    let items ← pyMapWrapper value
    serializeMap (.map frozen key val) (orNull (serializeArbitraryValue key))
      (orNull (serializeArbitraryValue val)) items
  | .set frozen elt, value => do
    let items ← pySetWrapper value
    serializeSequence (.set frozen elt) (orNull (serializeArbitraryValue elt)) items
  | .vector elt dimensions, value => do
    let items ← pyVectorWrapper value
    serializeVector R (.vector elt dimensions) (R.typeSizeForVector elt)
      (orNull (serializeArbitraryValue elt)) dimensions items
  | .userDefinedType frozen keyspace name fieldTypes, value => do
    let items ← pyUdtWrapper value
    let fields ← serializeUdtFields (.userDefinedType frozen keyspace name fieldTypes) items fieldTypes
    finish (.userDefinedType frozen keyspace name fieldTypes) fields
  | .tuple elts, value => do
    let items ← pyTupleWrapper value
    if elts.length < items.length then
      .error (.typeCheck (.tuple elts) (.wrongElementCount items.length elts.length))
    else
      let elements ← serializeTupleElements elts items
      finish (.tuple elts) elements
termination_by structural typ => typ

/-- The loop of `PyUdtWrapper::serialize` over the fields of the type. -/
def serializeUdtFields (typ : ColumnType) (items : List (PyVal P × PyVal P)) :
    List (String × ColumnType) → SerResult Bytes
  | [] => .ok []
  | (fieldName, fieldType) :: fieldTypes =>
    match pyDictGet R items (.scalar (.str fieldName)) with
    | none => .error (.typeCheck typ (.valueMissingForUdtField fieldName))
    | some item => do
      let content ← serializeArbitraryValue fieldType item
      let rest ← serializeUdtFields typ items fieldTypes
      return writeCell (some content) ++ rest
termination_by structural fieldTypes => fieldTypes

/-- The loop of `PyTupleWrapper::serialize`, which ends with the shorter side. -/
def serializeTupleElements : List ColumnType → List (PyVal P) → SerResult Bytes
  | [], _ => .ok []
  | elt :: elts, items => match items with
    | [] => .ok []
    | item :: items => do
      let content ← serializeArbitraryValue elt item
      let rest ← serializeTupleElements elts items
      return writeCell (some content) ++ rest
termination_by structural elts => elts

end

/-- `PyAnyWrapper::serialize`. -/
def serialize (typ : ColumnType) : PyVal P → SerResult Cell :=
  orNull (serializeArbitraryValue R typ)

variable {R}

theorem serializeArbitraryValue_list_iff {frozen : Bool} {elt : ColumnType} {value : PyVal P}
    {content : Bytes} :
    serializeArbitraryValue R (.list frozen elt) value = .ok content ↔ ∃ items,
      value = .list items ∧ serializeSequence (.list frozen elt) (serialize R elt) items =
        .ok content := by
  rw [serializeArbitraryValue, bind_eq_ok_iff]
  cases value <;> simp [pyListWrapper, typeMismatch, serialize]

example (frozen : Bool) (elt : ColumnType) :
    serializeArbitraryValue R (.list frozen elt) (.tuple []) = typeMismatch .list := by
  rw [serializeArbitraryValue]
  rfl

theorem orNull_eq_ok_iff {content : PyVal P → SerResult Bytes} {value : PyVal P} {cell : Cell} :
    orNull content value = .ok cell ↔ (value = .none ∧ cell = none) ∨
      (value ≠ .none ∧ ∃ bytes, cell = some bytes ∧ content value = .ok bytes) := by
  cases value with
  | none => simp [orNull, eq_comm]
  | _ =>
    simp only [orNull, reduceCtorEq, false_and, ne_eq, not_false_eq_true, true_and, false_or]
    cases content _ <;> simp [Except.map, eq_comm]

/-- A builder that writes `start`, then the items one after the other, and is finished. -/
theorem concatM_finish_eq_ok_iff {α γ : Type} {write : α → SerResult Bytes} {r : α → γ → Prop}
    {f : γ → Bytes} (h : ∀ item part, write item = .ok part ↔ ∃ c, r item c ∧ f c = part)
    {typ : ColumnType} {start content : Bytes} {items : List α} :
    (do let elements ← concatM write items
        finish typ (start ++ elements)) = .ok content ↔
      ∃ cs, List.Forall₂ r items cs ∧ content = start ++ cs.flatMap f ∧
        content.length ≤ maxLength := by
  have hparts {bytes : Bytes} := @concatM_eq_ok_iff_flatMap _ _ _ write r f
    (fun item part => by simpa [eq_comm] using h item part) items bytes
  simp only [bind_eq_ok_iff, finish_eq_ok_iff]
  constructor
  · rintro ⟨elements, helements, hfits, rfl⟩
    obtain ⟨cs, hcs, rfl⟩ := hparts.mp helements
    exact ⟨cs, hcs, rfl, hfits⟩
  · rintro ⟨cs, hcs, rfl, hfits⟩
    exact ⟨_, hparts.mpr ⟨cs, hcs, rfl⟩, hfits, rfl⟩

/-- What `serialize_sequence` writes: the count, then the cell of each element. -/
theorem serializeSequence_eq_ok_iff {typ : ColumnType} {element : PyVal P → SerResult Cell}
    {items : List (PyVal P)} {content : Bytes} :
    serializeSequence typ element items = .ok content ↔ items.length ≤ maxLength ∧
      ∃ cells, List.Forall₂ (fun item cell => element item = .ok cell) items cells ∧
        content = toBeInt 4 items.length ++ cells.flatMap writeCell ∧
        content.length ≤ maxLength := by
  by_cases hcount : items.length ≤ maxLength
  · rw [serializeSequence, if_neg (by omega), and_iff_right hcount]
    apply concatM_finish_eq_ok_iff
    simp [bind_eq_ok_iff, mapError_eq_ok_iff, pure, Except.pure]
  · simp [serializeSequence, hcount, show maxLength < items.length by omega]

theorem serializeMap_eq_ok_iff {typ : ColumnType} {key value : PyVal P → SerResult Cell}
    {items : List (PyVal P × PyVal P)} {content : Bytes} :
    serializeMap typ key value items = .ok content ↔ items.length ≤ maxLength ∧
      ∃ cells : List (Cell × Cell), List.Forall₂ (fun pair cell => key pair.1 = .ok cell.1 ∧
          value pair.2 = .ok cell.2) items cells ∧
        content = toBeInt 4 items.length ++
          cells.flatMap (fun cell => writeCell cell.1 ++ writeCell cell.2) ∧
        content.length ≤ maxLength := by
  by_cases hcount : items.length ≤ maxLength
  · rw [serializeMap, if_neg (by omega), and_iff_right hcount]
    apply concatM_finish_eq_ok_iff
    simp [bind_eq_ok_iff, mapError_eq_ok_iff, pure, Except.pure, and_assoc]
  · simp [serializeMap, hcount, show maxLength < items.length by omega]

theorem serializeVector_eq_ok_iff {typ : ColumnType} {size : Option Nat}
    {element : PyVal P → SerResult Cell} {dimensions : Nat} {items : List (PyVal P)}
    {content : Bytes} :
    serializeVector R typ size element dimensions items = .ok content ↔
      items.length = dimensions ∧ ∃ cells,
        List.Forall₂ (fun item cell => element item = .ok cell) items cells ∧
        content = cells.flatMap (R.vectorElement size) ∧ content.length ≤ maxLength := by
  by_cases hcount : items.length = dimensions
  · rw [serializeVector, if_neg (by simpa using hcount), and_iff_right hcount]
    apply @concatM_finish_eq_ok_iff _ _ _ _ _ _ _ []
    simp [bind_eq_ok_iff, mapError_eq_ok_iff, pure, Except.pure]
  · simp [serializeVector, hcount]

theorem serializeTupleElements_eq_ok_iff {elts : List ColumnType} {items : List (PyVal P)}
    {bytes : Bytes} :
    serializeTupleElements R elts items = .ok bytes ↔ ∃ contents : List Bytes,
      List.Forall₂ (fun pair content => serializeArbitraryValue R pair.1 pair.2 = .ok content)
        (elts.zip items) contents ∧
      bytes = contents.flatMap (fun content => writeCell (some content)) := by
  induction elts generalizing items bytes with
  | nil => simp [serializeTupleElements, eq_comm]
  | cons elt elts ih =>
    cases items with
    | nil => simp [serializeTupleElements, eq_comm]
    | cons item items =>
      simp only [serializeTupleElements, bind_eq_ok_iff, ih, List.zip_cons_cons,
        List.forall₂_cons_left_iff]
      constructor
      · rintro ⟨content, hcontent, _, ⟨contents, hcontents, rfl⟩, hbytes⟩
        exact ⟨content :: contents, ⟨content, contents, hcontent, hcontents, rfl⟩,
          by simpa [pure, Except.pure, eq_comm] using hbytes⟩
      · rintro ⟨_, ⟨content, contents, hcontent, hcontents, rfl⟩, rfl⟩
        exact ⟨content, hcontent, _, ⟨contents, hcontents, rfl⟩, by simp [pure, Except.pure]⟩

theorem serializeUdtFields_eq_ok_iff {typ : ColumnType} {items : List (PyVal P × PyVal P)}
    {fieldTypes : List (String × ColumnType)} {bytes : Bytes} :
    serializeUdtFields R typ items fieldTypes = .ok bytes ↔ ∃ contents : List Bytes,
      List.Forall₂ (fun field content => ∃ item,
        pyDictGet R items (.scalar (.str field.1)) = some item ∧
        serializeArbitraryValue R field.2 item = .ok content) fieldTypes contents ∧
      bytes = contents.flatMap (fun content => writeCell (some content)) := by
  induction fieldTypes generalizing bytes with
  | nil => simp [serializeUdtFields, eq_comm]
  | cons field fieldTypes ih =>
    obtain ⟨fieldName, fieldType⟩ := field
    rw [serializeUdtFields]
    cases hitem : pyDictGet R items (.scalar (.str fieldName)) with
    | none => simp [List.forall₂_cons_left_iff, hitem]
    | some item =>
      simp only [bind_eq_ok_iff, ih, List.forall₂_cons_left_iff, hitem, Option.some.injEq,
        exists_eq_left']
      constructor
      · rintro ⟨content, hcontent, _, ⟨contents, hcontents, rfl⟩, hbytes⟩
        exact ⟨content :: contents, ⟨content, contents, hcontent, hcontents, rfl⟩,
          by simpa [pure, Except.pure, eq_comm] using hbytes⟩
      · rintro ⟨_, ⟨content, contents, hcontent, hcontents, rfl⟩, rfl⟩
        exact ⟨content, hcontent, _, ⟨contents, hcontents, rfl⟩, by simp [pure, Except.pure]⟩

theorem serializeArbitraryValue_set_iff {frozen : Bool} {elt : ColumnType} {value : PyVal P}
    {content : Bytes} :
    serializeArbitraryValue R (.set frozen elt) value = .ok content ↔ ∃ items,
      value = .set items ∧ serializeSequence (.set frozen elt) (serialize R elt) items =
        .ok content := by
  rw [serializeArbitraryValue, bind_eq_ok_iff]
  cases value <;> simp [pySetWrapper, typeMismatch, serialize]

theorem serializeArbitraryValue_map_iff {frozen : Bool} {key val : ColumnType} {value : PyVal P}
    {content : Bytes} :
    serializeArbitraryValue R (.map frozen key val) value = .ok content ↔ ∃ items,
      (value = .dict items ∨ value = .mapping items) ∧
      serializeMap (.map frozen key val) (serialize R key) (serialize R val) items =
        .ok content := by
  rw [serializeArbitraryValue, bind_eq_ok_iff]
  cases value <;> simp [pyMapWrapper, typeMismatch, serialize]

theorem serializeArbitraryValue_vector_iff {elt : ColumnType} {dimensions : Nat}
    {value : PyVal P} {content : Bytes} :
    serializeArbitraryValue R (.vector elt dimensions) value = .ok content ↔ ∃ items,
      (value = .list items ∨ value = .tuple items) ∧
      serializeVector R (.vector elt dimensions) (R.typeSizeForVector elt) (serialize R elt)
        dimensions items = .ok content := by
  rw [serializeArbitraryValue, bind_eq_ok_iff]
  cases value <;> simp [pyVectorWrapper, typeMismatch, serialize]

theorem serializeArbitraryValue_udt_iff {frozen : Bool} {keyspace name : String}
    {fieldTypes : List (String × ColumnType)} {value : PyVal P} {content : Bytes} :
    serializeArbitraryValue R (.userDefinedType frozen keyspace name fieldTypes) value =
      .ok content ↔ ∃ items, value = .dict items ∧
      serializeUdtFields R (.userDefinedType frozen keyspace name fieldTypes) items fieldTypes =
        .ok content ∧ content.length ≤ maxLength := by
  rw [serializeArbitraryValue, bind_eq_ok_iff]
  cases value with
  | dict items =>
    simp only [pyUdtWrapper, Except.ok.injEq, exists_eq_left', bind_eq_ok_iff, finish_eq_ok_iff,
      PyVal.dict.injEq]
    constructor
    · rintro ⟨fields, hfields, hfits, rfl⟩
      exact ⟨hfields, hfits⟩
    · rintro ⟨hfields, hfits⟩
      exact ⟨content, hfields, hfits, rfl⟩
  | _ => simp [pyUdtWrapper, typeMismatch]

theorem serializeArbitraryValue_tuple_iff {elts : List ColumnType} {value : PyVal P}
    {content : Bytes} :
    serializeArbitraryValue R (.tuple elts) value = .ok content ↔ ∃ items,
      value = .tuple items ∧ items.length ≤ elts.length ∧
      serializeTupleElements R elts items = .ok content ∧ content.length ≤ maxLength := by
  rw [serializeArbitraryValue, bind_eq_ok_iff]
  cases value with
  | tuple items =>
    by_cases hcount : elts.length < items.length
    · simp [pyTupleWrapper, hcount, show ¬ items.length ≤ elts.length by omega]
    · simp only [pyTupleWrapper, Except.ok.injEq, exists_eq_left', hcount, if_false,
        bind_eq_ok_iff, finish_eq_ok_iff, PyVal.tuple.injEq]
      constructor
      · rintro ⟨elements, helements, hfits, rfl⟩
        exact ⟨by omega, helements, hfits⟩
      · rintro ⟨_, helements, hfits⟩
        exact ⟨content, helements, hfits, rfl⟩
  | _ => simp [pyTupleWrapper, typeMismatch]

/-- `None` has no content: only `serialize` knows it, as the null cell. -/
theorem serializeArbitraryValue_none (typ : ColumnType) (content : Bytes) :
    serializeArbitraryValue R typ (.none : PyVal P) ≠ .ok content := by
  intro h
  cases typ <;> cases h

end ScyllaDriver
