import Mathlib.Algebra.Order.BigOperators.Group.List
import ScyllaDriver.ReadValues

/-! When what was read can be written back. `None` is written as null by `serialize`
alone, which the fields of UDTs and the elements of tuples do not go through. In a vector it
is written, but the framing of the Rust driver has no null to read it back from. -/

namespace ScyllaDriver

open Framing

variable {P : Interop} (R : Runtime P)

/-- `None` is nowhere directly an element of a tuple or a field of a UDT. -/
structure NoNullField (typ : ColumnType) (value : PyVal P) : Prop where
  tuple : ∀ elts items, Part R typ value (.tuple elts) (.tuple items) → PyVal.none ∉ items
  userDefinedType : ∀ frozen keyspace name fieldTypes items,
    Part R typ value (.userDefinedType frozen keyspace name fieldTypes) (.dict items) →
    ∀ field ∈ fieldTypes, pyDictGet R items (.scalar (.str field.1)) ≠ some .none

def nativeSize (typ : NativeType) (object : Scalar P) : Nat :=
  match extractScalar R typ object with
  | .error _ => 0
  | .ok rustValue => match R.encode typ rustValue with
    | .error _ => 0
    | .ok content => content.length

/-- The bytes of a vector element whose content has the given length. -/
def vectorElementSize (size : Option Nat) (item : PyVal P) (length : Nat) : Nat :=
  match item, size with
  | .none, size => (R.vectorElement size none).length
  | _, some _ => length
  | _, none => (R.vint length).length + length

mutual

/-- The number of bytes that the content of a value takes. -/
def encodedSize : ColumnType → PyVal P → Nat
  | .native typ, value => match value with
    | .scalar object => nativeSize R typ object
    | _ => 0
  | .list _ elt, value => match value with
    | .list items => 4 + (items.map (fun item => 4 + encodedSize elt item)).sum
    | _ => 0
  | .set _ elt, value => match value with
    | .set items => 4 + (items.map (fun item => 4 + encodedSize elt item)).sum
    | _ => 0
  | .map _ key val, value => match pyMapWrapper value with
    | .ok items =>
      4 + (items.map (fun pair => 4 + encodedSize key pair.1 + (4 + encodedSize val pair.2))).sum
    | .error _ => 0
  | .vector elt _, value => match pyVectorWrapper value with
    | .ok items =>
      (items.map (fun item =>
        vectorElementSize R (R.typeSizeForVector elt) item (encodedSize elt item))).sum
    | .error _ => 0
  | .userDefinedType _ _ _ fieldTypes, value => match value with
    | .dict items => encodedFieldsSize items fieldTypes
    | _ => 0
  | .tuple elts, value => match value with
    | .tuple items => encodedElementsSize elts items
    | _ => 0
termination_by structural typ => typ

def encodedFieldsSize (items : List (PyVal P × PyVal P)) : List (String × ColumnType) → Nat
  | [] => 0
  | (fieldName, fieldType) :: fieldTypes =>
    match pyDictGet R items (.scalar (.str fieldName)) with
    | none => encodedFieldsSize items fieldTypes
    | some item => 4 + encodedSize fieldType item + encodedFieldsSize items fieldTypes
termination_by structural fieldTypes => fieldTypes

def encodedElementsSize : List ColumnType → List (PyVal P) → Nat
  | [], _ => 0
  | elt :: elts, items => match items with
    | [] => 0
    | item :: items => 4 + encodedSize elt item + encodedElementsSize elts items
termination_by structural elts => elts

end

variable {R}

theorem NoNullField.of_part {typ typ' : ColumnType} {value value' : PyVal P}
    (h : NoNullField R typ value)
    (hpart : ∀ typ'' value'', Part R typ' value' typ'' value'' → Part R typ value typ'' value'') :
    NoNullField R typ' value' :=
  ⟨fun elts items htuple => h.tuple elts items (hpart _ _ htuple),
    fun frozen keyspace name fieldTypes items hudt =>
      h.userDefinedType frozen keyspace name fieldTypes items (hpart _ _ hudt)⟩

@[simp]
theorem encodedSize_none (typ : ColumnType) : encodedSize R typ .none = 0 := by
  cases typ <;> simp [encodedSize, pyMapWrapper, pyVectorWrapper, typeMismatch]

theorem vectorElementSize_of_ne {size : Option Nat} {item : PyVal P} (hitem : item ≠ .none)
    (length : Nat) : vectorElementSize R size item length =
      size.elim ((R.vint length).length + length) (fun _ => length) := by
  cases item with
  | none => exact absurd rfl hitem
  | _ => cases size <;> rfl

theorem length_vectorElement (hR : R.ReadsWritten) {elt : ColumnType} (size : Option Nat)
    {item : PyVal P} {cell : Cell} (h : serialize R elt item = .ok cell) :
    (R.vectorElement size cell).length =
      vectorElementSize R size item (cell.getD []).length := by
  cases cell with
  | none =>
    rw [serialize_eq_none_iff.mp h]
    rfl
  | some content =>
    have hitem : item ≠ .none := by
      rintro rfl
      cases h
    rw [vectorElementSize_of_ne hitem]
    cases size with
    | none => simp [hR.vectorElement_unsized]
    | some n => simp [hR.vectorElement_sized]

theorem encodedElementsSize_eq (elts : List ColumnType) (items : List (PyVal P)) :
    encodedElementsSize R elts items =
      ((elts.zip items).map (fun pair => 4 + encodedSize R pair.1 pair.2)).sum := by
  induction elts generalizing items with
  | nil => simp [encodedElementsSize]
  | cons elt elts ih => cases items <;> simp [encodedElementsSize, ih]

theorem length_getD_of_content {typ : ColumnType} {value : PyVal P} {cell : Cell}
    (hcontent : ∀ content, serializeArbitraryValue R typ value = .ok content →
      content.length = encodedSize R typ value)
    (h : serialize R typ value = .ok cell) : (cell.getD []).length = encodedSize R typ value := by
  cases cell with
  | none =>
    obtain rfl := serialize_eq_none_iff.mp h
    simp
  | some content => exact hcontent content (serialize_eq_some_iff.mp h)

section Sizes

variable {elt : ColumnType} {items : List (PyVal P)}

theorem length_sequence {cells : List Cell}
    (hcells : List.Forall₂ (fun item cell => serialize R elt item = .ok cell) items cells)
    (helts : ∀ item ∈ items, ∀ cell, serialize R elt item = .ok cell →
      (cell.getD []).length = encodedSize R elt item) :
    (toBeInt 4 items.length ++ cells.flatMap writeCell).length =
      4 + (items.map (fun item => 4 + encodedSize R elt item)).sum := by
  rw [List.length_append, length_toBeInt, length_flatMap_forall₂ hcells]
  intro item hitem cell hcell
  rw [length_writeCell, helts item hitem cell hcell]

theorem length_pairs {key val : ColumnType} {pairs : List (PyVal P × PyVal P)}
    {cells : List (Cell × Cell)}
    (hcells : List.Forall₂ (fun pair cell => serialize R key pair.1 = .ok cell.1 ∧
      serialize R val pair.2 = .ok cell.2) pairs cells)
    (hkeys : ∀ pair ∈ pairs, ∀ cell, serialize R key pair.1 = .ok cell →
      (cell.getD []).length = encodedSize R key pair.1)
    (hvals : ∀ pair ∈ pairs, ∀ cell, serialize R val pair.2 = .ok cell →
      (cell.getD []).length = encodedSize R val pair.2) :
    (toBeInt 4 pairs.length ++
        cells.flatMap (fun cell => writeCell cell.1 ++ writeCell cell.2)).length =
      4 + (pairs.map (fun pair => 4 + encodedSize R key pair.1 +
        (4 + encodedSize R val pair.2))).sum := by
  rw [List.length_append, length_toBeInt, length_flatMap_forall₂ hcells]
  intro pair hpair cell hcell
  rw [List.length_append, length_writeCell, length_writeCell, hkeys pair hpair _ hcell.1,
    hvals pair hpair _ hcell.2]

theorem length_vector (hR : R.ReadsWritten) {size : Option Nat} {cells : List Cell}
    (hcells : List.Forall₂ (fun item cell => serialize R elt item = .ok cell) items cells)
    (helts : ∀ item ∈ items, ∀ cell, serialize R elt item = .ok cell →
      (cell.getD []).length = encodedSize R elt item) :
    (cells.flatMap (R.vectorElement size)).length =
      (items.map (fun item => vectorElementSize R size item (encodedSize R elt item))).sum := by
  rw [length_flatMap_forall₂ hcells]
  intro item hitem cell hcell
  rw [length_vectorElement hR size hcell, helts item hitem cell hcell]

theorem length_tuple {elts : List ColumnType} {contents : List Bytes}
    (hcontents : List.Forall₂ (fun pair content =>
      serializeArbitraryValue R pair.1 pair.2 = .ok content) (elts.zip items) contents)
    (helts : ∀ pair ∈ elts.zip items, ∀ content,
      serializeArbitraryValue R pair.1 pair.2 = .ok content →
      content.length = encodedSize R pair.1 pair.2) :
    (contents.flatMap (fun content => writeCell (some content))).length =
      encodedElementsSize R elts items := by
  rw [length_flatMap_forall₂ hcontents, encodedElementsSize_eq]
  intro pair hpair content hcontent
  rw [length_writeCell, ← helts pair hpair content hcontent]
  rfl

theorem length_fields {fieldTypes : List (String × ColumnType)} {pairs : List (PyVal P × PyVal P)}
    {contents : List Bytes}
    (hcontents : List.Forall₂ (fun field content => ∃ item,
      pyDictGet R pairs (.scalar (.str field.1)) = some item ∧
      serializeArbitraryValue R field.2 item = .ok content) fieldTypes contents)
    (hfields : ∀ field ∈ fieldTypes, ∀ item content,
      serializeArbitraryValue R field.2 item = .ok content →
      content.length = encodedSize R field.2 item) :
    (contents.flatMap (fun content => writeCell (some content))).length =
      encodedFieldsSize R pairs fieldTypes := by
  induction hcontents with
  | nil => simp [encodedFieldsSize]
  | cons hcontent _ ih =>
    obtain ⟨item, hitem, hcontent⟩ := hcontent
    rw [List.forall_mem_cons] at hfields
    have hlength := hfields.1 item _ hcontent
    simp only [encodedFieldsSize, hitem, List.flatMap_cons, List.length_append, length_writeCell,
      ih hfields.2, Option.getD_some, hlength]

end Sizes

theorem length_content (hR : R.ReadsWritten) {typ : ColumnType} {value : PyVal P} {content : Bytes}
    (h : serializeArbitraryValue R typ value = .ok content) :
    content.length = encodedSize R typ value := by
  induction typ generalizing value content with
  | native typ =>
    obtain ⟨object, rustValue, rfl, hextract, hencode, _⟩ := serializeNatives_eq_ok_iff.mp h
    simp [encodedSize, nativeSize, hextract, hencode]
  | list frozen elt ih =>
    obtain ⟨items, rfl, hitems⟩ := serializeArbitraryValue_list_iff.mp h
    obtain ⟨_, cells, hcells, rfl, _⟩ := serializeSequence_eq_ok_iff.mp hitems
    rw [length_sequence hcells fun item _ cell => length_getD_of_content fun content => ih]
    simp [encodedSize]
  | set frozen elt ih =>
    obtain ⟨items, rfl, hitems⟩ := serializeArbitraryValue_set_iff.mp h
    obtain ⟨_, cells, hcells, rfl, _⟩ := serializeSequence_eq_ok_iff.mp hitems
    rw [length_sequence hcells fun item _ cell => length_getD_of_content fun content => ih]
    simp [encodedSize]
  | map frozen key val ihkey ihval =>
    obtain ⟨items, hvalue, hitems⟩ := serializeArbitraryValue_map_iff.mp h
    obtain ⟨_, cells, hcells, rfl, _⟩ := serializeMap_eq_ok_iff.mp hitems
    rw [length_pairs hcells (fun pair _ cell => length_getD_of_content fun content => ihkey)
      (fun pair _ cell => length_getD_of_content fun content => ihval)]
    simp [encodedSize, pyMapWrapper_eq_ok_iff.mpr hvalue]
  | vector elt dimensions ih =>
    obtain ⟨items, hvalue, hitems⟩ := serializeArbitraryValue_vector_iff.mp h
    obtain ⟨_, cells, hcells, rfl, _⟩ := serializeVector_eq_ok_iff.mp hitems
    rw [length_vector hR hcells fun item _ cell => length_getD_of_content fun content => ih]
    simp [encodedSize, pyVectorWrapper_eq_ok_iff.mpr hvalue]
  | userDefinedType frozen keyspace name fieldTypes ih =>
    obtain ⟨pairs, rfl, hfields, _⟩ := serializeArbitraryValue_udt_iff.mp h
    obtain ⟨contents, hcontents, rfl⟩ := serializeUdtFields_eq_ok_iff.mp hfields
    rw [length_fields hcontents fun field hfield item content => ih field hfield]
    simp [encodedSize]
  | tuple elts ih =>
    obtain ⟨items, rfl, _, helements, _⟩ := serializeArbitraryValue_tuple_iff.mp h
    obtain ⟨contents, hcontents, rfl⟩ := serializeTupleElements_eq_ok_iff.mp helements
    rw [length_tuple hcontents fun pair hpair content => ih pair.1 (List.of_mem_zip hpair).1]
    simp [encodedSize]

theorem length_getD (hR : R.ReadsWritten) {typ : ColumnType} {value : PyVal P} {cell : Cell}
    (h : serialize R typ value = .ok cell) : (cell.getD []).length = encodedSize R typ value :=
  length_getD_of_content (fun _ => length_content hR) h

theorem exists_content {typ : ColumnType} {value : PyVal P} {cell : Cell} (hvalue : value ≠ .none)
    (h : serialize R typ value = .ok cell) :
    ∃ content, serializeArbitraryValue R typ value = .ok content := by
  rcases orNull_eq_ok_iff.mp h with ⟨hnone, _⟩ | ⟨_, content, _, hcontent⟩
  · exact absurd hnone hvalue
  · exact ⟨content, hcontent⟩

theorem size_le_of_mem {α : Type} (f : α → Nat) {items : List α} {item : α} (hitem : item ∈ items) :
    f item ≤ (items.map f).sum :=
  List.le_sum_of_mem (List.mem_map_of_mem hitem)

theorem length_le_of_sum {α : Type} (f : α → Nat) (items : List α) (hf : ∀ item, 1 ≤ f item) :
    items.length ≤ (items.map f).sum := by
  have h := List.length_le_sum_of_one_le (items.map f) (by simpa using fun item _ => hf item)
  simpa using h

theorem le_vectorElementSize (elt : ColumnType) (size : Option Nat) (item : PyVal P) :
    encodedSize R elt item ≤ vectorElementSize R size item (encodedSize R elt item) := by
  by_cases hitem : item = .none
  · simp [hitem]
  · rw [vectorElementSize_of_ne hitem]
    cases size <;> simp

section Writing

variable (hR : R.ReadsWritten) {items : List (PyVal P)}

include hR

theorem serializeSequence_of_sizes (typ elt : ColumnType)
    (helts : ∀ item ∈ items, encodedSize R elt item ≤ maxLength →
      ∃ cell, serialize R elt item = .ok cell)
    (hsize : 4 + (items.map (fun item => 4 + encodedSize R elt item)).sum ≤ maxLength) :
    ∃ content, serializeSequence typ (serialize R elt) items = .ok content := by
  have hcount := length_le_of_sum (fun item => 4 + encodedSize R elt item) items (by intro; omega)
  obtain ⟨cells, hcells⟩ := exists_forall₂ fun item hitem => helts item hitem (by
    have hitem' := size_le_of_mem (fun item => 4 + encodedSize R elt item) hitem
    omega)
  refine ⟨_, serializeSequence_eq_ok_iff.mpr ⟨by omega, cells, hcells, rfl, ?_⟩⟩
  rw [length_sequence hcells fun item _ cell => length_getD hR]
  exact hsize

theorem serializeMap_of_sizes (typ key val : ColumnType) {pairs : List (PyVal P × PyVal P)}
    (hkeys : ∀ pair ∈ pairs, encodedSize R key pair.1 ≤ maxLength →
      ∃ cell, serialize R key pair.1 = .ok cell)
    (hvals : ∀ pair ∈ pairs, encodedSize R val pair.2 ≤ maxLength →
      ∃ cell, serialize R val pair.2 = .ok cell)
    (hsize : 4 + (pairs.map (fun pair => 4 + encodedSize R key pair.1 +
      (4 + encodedSize R val pair.2))).sum ≤ maxLength) :
    ∃ content, serializeMap typ (serialize R key) (serialize R val) pairs = .ok content := by
  have hcount := length_le_of_sum
    (fun pair => 4 + encodedSize R key pair.1 + (4 + encodedSize R val pair.2)) pairs (by intro; omega)
  have hpairs : ∀ pair ∈ pairs, ∃ cell : Cell × Cell, serialize R key pair.1 = .ok cell.1 ∧
      serialize R val pair.2 = .ok cell.2 := by
    intro pair hpair
    have hpair' := size_le_of_mem
      (fun pair => 4 + encodedSize R key pair.1 + (4 + encodedSize R val pair.2)) hpair
    obtain ⟨keyCell, hkeyCell⟩ := hkeys pair hpair (by omega)
    obtain ⟨valCell, hvalCell⟩ := hvals pair hpair (by omega)
    exact ⟨(keyCell, valCell), hkeyCell, hvalCell⟩
  obtain ⟨cells, hcells⟩ := exists_forall₂ hpairs
  refine ⟨_, serializeMap_eq_ok_iff.mpr ⟨by omega, cells, hcells, rfl, ?_⟩⟩
  rw [length_pairs hcells (fun pair _ cell => length_getD hR) (fun pair _ cell => length_getD hR)]
  exact hsize

theorem serializeVector_of_sizes (typ elt : ColumnType) (size : Option Nat)
    (helts : ∀ item ∈ items, encodedSize R elt item ≤ maxLength →
      ∃ cell, serialize R elt item = .ok cell)
    (hsize : (items.map (fun item => vectorElementSize R size item (encodedSize R elt item))).sum ≤
      maxLength) :
    ∃ content, serializeVector R typ size (serialize R elt) items.length items = .ok content := by
  obtain ⟨cells, hcells⟩ := exists_forall₂ fun item hitem => helts item hitem (by
    have hitem' := size_le_of_mem
      (fun item => vectorElementSize R size item (encodedSize R elt item)) hitem
    have hle := @le_vectorElementSize P R elt size item
    omega)
  refine ⟨_, serializeVector_eq_ok_iff.mpr ⟨rfl, cells, hcells, rfl, ?_⟩⟩
  rw [length_vector hR hcells fun item _ cell => length_getD hR]
  exact hsize

theorem serializeTupleElements_of_sizes (elts : List ColumnType)
    (helts : ∀ pair ∈ elts.zip items, encodedSize R pair.1 pair.2 ≤ maxLength →
      ∃ cell, serialize R pair.1 pair.2 = .ok cell) (hnone : PyVal.none ∉ items)
    (hsize : encodedElementsSize R elts items ≤ maxLength) :
    ∃ content, serializeTupleElements R elts items = .ok content ∧ content.length ≤ maxLength := by
  have hcontents : ∀ pair ∈ elts.zip items,
      ∃ content, serializeArbitraryValue R pair.1 pair.2 = .ok content := by
    intro pair hpair
    have hpair' := size_le_of_mem (fun pair => 4 + encodedSize R pair.1 pair.2) hpair
    rw [← encodedElementsSize_eq] at hpair'
    obtain ⟨cell, hcell⟩ := helts pair hpair (by omega)
    exact exists_content (fun hnone' => hnone (hnone' ▸ (List.of_mem_zip hpair).2)) hcell
  obtain ⟨contents, hcontents⟩ := exists_forall₂ hcontents
  refine ⟨_, serializeTupleElements_eq_ok_iff.mpr ⟨contents, hcontents, rfl⟩, ?_⟩
  rw [length_tuple hcontents fun pair _ content => length_content hR]
  exact hsize

omit hR in
theorem le_encodedFieldsSize {pairs : List (PyVal P × PyVal P)}
    {fieldTypes : List (String × ColumnType)} {field : String × ColumnType} {item : PyVal P}
    (hfield : field ∈ fieldTypes)
    (hitem : pyDictGet R pairs (.scalar (.str field.1)) = some item) :
    encodedSize R field.2 item ≤ encodedFieldsSize R pairs fieldTypes := by
  induction fieldTypes with
  | nil => cases hfield
  | cons other fieldTypes ih =>
    rw [encodedFieldsSize]
    rcases List.mem_cons.mp hfield with rfl | hfield
    · rw [hitem]
      dsimp only
      omega
    · have hrest := ih hfield
      split <;> omega

theorem serializeUdtFields_of_sizes (typ : ColumnType) {pairs : List (PyVal P × PyVal P)}
    {fieldTypes : List (String × ColumnType)}
    (hfields : ∀ field ∈ fieldTypes, ∃ item,
      pyDictGet R pairs (.scalar (.str field.1)) = some item ∧ item ≠ .none ∧
      (encodedSize R field.2 item ≤ maxLength → ∃ cell, serialize R field.2 item = .ok cell))
    (hsize : encodedFieldsSize R pairs fieldTypes ≤ maxLength) :
    ∃ content, serializeUdtFields R typ pairs fieldTypes = .ok content ∧
      content.length ≤ maxLength := by
  have hcontents : ∀ field ∈ fieldTypes, ∃ content item,
      pyDictGet R pairs (.scalar (.str field.1)) = some item ∧
      serializeArbitraryValue R field.2 item = .ok content := by
    intro field hfield
    obtain ⟨item, hitem, hnone, hcell⟩ := hfields field hfield
    obtain ⟨cell, hcell⟩ := hcell ((le_encodedFieldsSize hfield hitem).trans hsize)
    obtain ⟨content, hcontent⟩ := exists_content hnone hcell
    exact ⟨content, item, hitem, hcontent⟩
  obtain ⟨contents, hcontents⟩ := exists_forall₂ hcontents
  refine ⟨_, serializeUdtFields_eq_ok_iff.mpr ⟨contents, hcontents, rfl⟩, ?_⟩
  rw [length_fields hcontents fun field _ item content => length_content hR]
  exact hsize

end Writing

/-- What was read is written when it holds no `None` in a tuple or a UDT and fits a cell. -/
theorem serialize_of_readValue (hR : R.Lawful) {typ : ColumnType} {value : PyVal P}
    (hlegal : typ.Everywhere Legal) (h : ReadValue R typ value) (hnull : NoNullField R typ value)
    (hsize : encodedSize R typ value ≤ maxLength) : ∃ cell, serialize R typ value = .ok cell := by
  have hwrap {typ : ColumnType} {value : PyVal P} {content : Bytes}
      (h : serializeArbitraryValue R typ value = .ok content) :
      ∃ cell, serialize R typ value = .ok cell := ⟨some content, serialize_eq_some_iff.mpr h⟩
  induction h with
  | nullNative | nullVector | nullUdt | nullTuple => exact ⟨none, rfl⟩
  | @native typ content object h =>
    obtain ⟨rustValue, written, hextract, _, hencode⟩ := extractScalar_deserNative hR h
    have hlength : written.length ≤ maxLength := by
      simpa [encodedSize, nativeSize, hextract, hencode] using hsize
    have hcontent : serializeArbitraryValue R (.native typ) (.scalar object) = .ok written :=
      serializeNatives_eq_ok_iff.mpr ⟨object, rustValue, rfl, hextract, hencode, hlength⟩
    exact hwrap hcontent
  | @list frozen elt items _ ih =>
    cases hlegal with
    | list _ helt =>
      simp only [encodedSize] at hsize
      obtain ⟨content, hcontent⟩ := serializeSequence_of_sizes hR.toReadsWritten (.list frozen elt) elt
        (fun item hitem => ih item hitem helt (hnull.of_part fun _ _ => .list rfl hitem)) hsize
      exact hwrap (serializeArbitraryValue_list_iff.mpr ⟨items, rfl, hcontent⟩)
  | @set frozen elt items _ _ _ ih =>
    cases hlegal with
    | set _ helt =>
      simp only [encodedSize] at hsize
      obtain ⟨content, hcontent⟩ := serializeSequence_of_sizes hR.toReadsWritten (.set frozen elt) elt
        (fun item hitem => ih item hitem helt (hnull.of_part fun _ _ => .set rfl hitem)) hsize
      exact hwrap (serializeArbitraryValue_set_iff.mpr ⟨items, rfl, hcontent⟩)
  | @map frozen key val items _ _ _ _ ihkey ihval =>
    cases hlegal with
    | map _ hkey hval =>
      simp only [encodedSize, pyMapWrapper] at hsize
      obtain ⟨content, hcontent⟩ := serializeMap_of_sizes hR.toReadsWritten (.map frozen key val) key val
        (fun pair hpair => ihkey pair hpair hkey (hnull.of_part fun _ _ => .mapKey rfl hpair))
        (fun pair hpair => ihval pair hpair hval (hnull.of_part fun _ _ => .mapValue rfl hpair)) hsize
      exact hwrap (serializeArbitraryValue_map_iff.mpr ⟨items, .inl rfl, hcontent⟩)
  | @vector elt dimensions items hlength _ ih =>
    cases hlegal with
    | vector _ helt =>
      subst hlength
      simp only [encodedSize, pyVectorWrapper] at hsize
      obtain ⟨content, hcontent⟩ := serializeVector_of_sizes hR.toReadsWritten
        (.vector elt items.length) elt _
        (fun item hitem => ih item hitem helt (hnull.of_part fun _ _ => .vector rfl hitem)) hsize
      exact hwrap (serializeArbitraryValue_vector_iff.mpr ⟨items, .inl rfl, hcontent⟩)
  | @userDefinedType frozen keyspace name fieldTypes values hlength _ ih =>
    cases hlegal with
    | userDefinedType hnames helts =>
      simp only [encodedSize] at hsize
      obtain ⟨content, hcontent, hfits⟩ := serializeUdtFields_of_sizes hR.toReadsWritten
        (.userDefinedType frozen keyspace name fieldTypes) (fun field hfield => by
          obtain ⟨item, hpair⟩ := exists_mem_zip_of_mem hlength.symm hfield
          have hitem := pyDictGet_fieldPairs hR hnames.2 hpair
          refine ⟨item, hitem, ?_, ?_⟩
          · rintro rfl
            exact hnull.userDefinedType _ _ _ _ _ (.refl _ _) field hfield hitem
          · exact ih _ hpair (helts _ hfield)
              (hnull.of_part fun _ _ => .userDefinedType rfl hfield hitem)) hsize
      exact hwrap (serializeArbitraryValue_udt_iff.mpr ⟨_, rfl, hcontent, hfits⟩)
  | @tuple elts items hlength _ ih =>
    cases hlegal with
    | tuple _ helts =>
      simp only [encodedSize] at hsize
      obtain ⟨content, hcontent, hfits⟩ := serializeTupleElements_of_sizes hR.toReadsWritten elts
        (fun pair hpair => ih pair hpair (helts _ (List.of_mem_zip hpair).1)
          (hnull.of_part fun _ _ => .tuple rfl hpair))
        (hnull.tuple elts items (.refl _ _)) hsize
      exact hwrap (serializeArbitraryValue_tuple_iff.mpr ⟨items, rfl, hlength.le, hcontent, hfits⟩)

/-- No part of a value that is written is a tuple or a UDT with a `None` directly in it. -/
theorem noNullField_of_serialize {typ : ColumnType} {value : PyVal P} {cell : Cell}
    (h : serialize R typ value = .ok cell) : NoNullField R typ value := by
  constructor
  · intro elts items hpart hnone
    obtain ⟨cell', hcell'⟩ := hpart.serialize h
    obtain ⟨content, hcontent⟩ := exists_content (by simp) hcell'
    obtain ⟨_, ⟨⟩, hlength, helements, _⟩ := serializeArbitraryValue_tuple_iff.mp hcontent
    obtain ⟨contents, hcontents, _⟩ := serializeTupleElements_eq_ok_iff.mp helements
    obtain ⟨elt, helt⟩ : ∃ elt, (elt, PyVal.none) ∈ elts.zip items := by
      obtain ⟨i, hi, hget⟩ := List.mem_iff_getElem.mp hnone
      refine ⟨elts[i], List.mem_iff_getElem.mpr ⟨i, by simp; omega, ?_⟩⟩
      simp [hget]
    obtain ⟨content', _, hcontent'⟩ := exists_of_mem_left hcontents helt
    exact serializeArbitraryValue_none elt content' hcontent'
  · intro frozen keyspace name fieldTypes items hpart field hfield hnone
    obtain ⟨cell', hcell'⟩ := hpart.serialize h
    obtain ⟨content, hcontent⟩ := exists_content (by simp) hcell'
    obtain ⟨_, ⟨⟩, hfields, _⟩ := serializeArbitraryValue_udt_iff.mp hcontent
    obtain ⟨contents, hcontents, _⟩ := serializeUdtFields_eq_ok_iff.mp hfields
    obtain ⟨content', _, item, hitem, hcontent'⟩ := exists_of_mem_left hcontents hfield
    obtain rfl := Option.some.inj (hnone.symm.trans hitem)
    exact serializeArbitraryValue_none field.2 content' hcontent'

theorem part_of_tuple_null_list {typ' : ColumnType} {value' : PyVal wireInterop}
    (hpart : Part wireRuntime (.tuple [.native .int, .list false (.native .int)])
      (.tuple [.scalar (.int 5), .list []]) typ' value') :
    (.tuple [.native .int, .list false (.native .int)] = typ' ∧
        .tuple [.scalar (.int 5), .list []] = value') ∨
      .native .int = typ' ∨ .list false (.native .int) = typ' := by
  cases hpart with
  | refl => exact .inl ⟨rfl, rfl⟩
  | tuple hitems hpair hpart =>
    cases hitems
    simp only [List.zip_cons_cons, List.zip_nil_left, List.mem_cons, Prod.mk.injEq,
      List.not_mem_nil, or_false] at hpair
    obtain ⟨rfl, rfl⟩ | ⟨rfl, rfl⟩ := hpair
    · cases hpart
      exact .inr (.inl rfl)
    · cases hpart with
      | refl => exact .inr (.inr rfl)
      | list hitems hitem => cases hitems; cases hitem

theorem noNullField_tuple_null_list : NoNullField wireRuntime
    (.tuple [.native .int, .list false (.native .int)])
    (.tuple [.scalar (.int 5), .list []]) := by
  constructor
  · intro elts items hpart
    rcases part_of_tuple_null_list hpart with ⟨_, hvalue⟩ | htyp | htyp
    · cases hvalue
      simp
    · cases htyp
    · cases htyp
  · intro frozen keyspace name fieldTypes items hpart
    rcases part_of_tuple_null_list hpart with ⟨htyp, _⟩ | htyp | htyp <;> cases htyp

theorem keptElements_tuple_null_list : KeptElements wireRuntime
    (.tuple [.native .int, .list false (.native .int)])
    (.tuple [.scalar (.int 5), .list []]) := by
  constructor
  · intro elt dimensions object items hpart
    rcases part_of_tuple_null_list hpart with ⟨htyp, _⟩ | htyp | htyp <;> cases htyp
  · intro elt dimensions object items hpart
    rcases part_of_tuple_null_list hpart with ⟨htyp, _⟩ | htyp | htyp <;> cases htyp

theorem not_holds_cqlEmpty_none : ¬ Holds .cqlEmpty (.none : PyVal P) := by
  intro h
  cases h with
  | key hitems => cases hitems
  | value hitems => cases hitems

theorem not_holds_cqlEmpty_scalar (object : Scalar P) :
    ¬ Holds .cqlEmpty (.scalar object : PyVal P) := by
  intro h
  cases h with
  | key hitems => cases hitems
  | value hitems => cases hitems

theorem not_holds_cqlEmpty_list {items : List (PyVal P)}
    (h : ∀ item ∈ items, ¬ Holds .cqlEmpty item) : ¬ Holds .cqlEmpty (.list items) := by
  intro hholds
  cases hholds with
  | list hitem hinner => exact h _ hitem hinner
  | key hitems => cases hitems
  | value hitems => cases hitems

theorem not_holds_cqlEmpty_tuple {items : List (PyVal P)}
    (h : ∀ item ∈ items, ¬ Holds .cqlEmpty item) : ¬ Holds .cqlEmpty (.tuple items) := by
  intro hholds
  cases hholds with
  | tuple hitem hinner => exact h _ hitem hinner
  | key hitems => cases hitems
  | value hitems => cases hitems

end ScyllaDriver
