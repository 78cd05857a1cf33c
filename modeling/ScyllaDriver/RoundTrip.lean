import ScyllaDriver.ValueParts
import ScyllaDriver.WireRuntime

/-! What is written is read back as its canonical value, by induction over the type. -/

namespace ScyllaDriver

open Framing

variable {P : Interop} (R : Runtime P)

/-- The object that the codec of a native type reads back. -/
def canonNative (typ : NativeType) (object : Scalar P) : Scalar P :=
  match extractScalar R typ object with
  | .error _ => object
  | .ok rustValue => match toPython R typ rustValue with
    | .error _ => object
    | .ok object => object

mutual

def canon : ColumnType → PyVal P → PyVal P
  | .native typ, value => match value with
    | .scalar object => .scalar (canonNative R typ object)
    | value => value
  | .list _ elt, value => match value with
    | .none => .list []
    | .list items => .list (items.map (canon elt))
    | value => value
  | .set _ elt, value => match value with
    | .none => .set []
    | .set items => .set (pySet R (items.map (canon elt)))
    | value => value
  | .map _ key val, value => match value with
    | .none => .dict []
    | .dict items => .dict (pyDict R (items.map (fun pair => (canon key pair.1, canon val pair.2))))
    | .mapping items =>
      .dict (pyDict R (items.map (fun pair => (canon key pair.1, canon val pair.2))))
    | value => value
  | .vector elt _, value => match value with
    | .list items => .list (items.map (canon elt))
    | .tuple items => .list (items.map (canon elt))
    | value => value
  | .userDefinedType _ _ _ fieldTypes, value => match value with
    | .dict items => .dict (pyDict R (canonFields items fieldTypes))
    | value => value
  | .tuple elts, value => match value with
    | .tuple items => .tuple (canonElements elts items)
    | value => value
termination_by structural typ => typ

/-- The fields of the type alone, each with the canonical value of its key. -/
def canonFields (items : List (PyVal P × PyVal P)) :
    List (String × ColumnType) → List (PyVal P × PyVal P)
  | [] => []
  | (fieldName, fieldType) :: fieldTypes =>
    match pyDictGet R items (.scalar (.str fieldName)) with
    | none => canonFields items fieldTypes
    | some item => (.scalar (.str fieldName), canon fieldType item) :: canonFields items fieldTypes
termination_by structural fieldTypes => fieldTypes

def canonElements : List ColumnType → List (PyVal P) → List (PyVal P)
  | [], _ => []
  | elt :: elts, items => match items with
    | [] => []
    | item :: items => canon elt item :: canonElements elts items
termination_by structural elts => elts

end

/-- The elements of sets and the keys of maps are read as hashable objects. -/
structure HashableKeys (typ : ColumnType) (value : PyVal P) : Prop where
  set : ∀ frozen elt items, Part R typ value (.set frozen elt) (.set items) →
    ∀ item ∈ items, (canon R elt item).hashable = true
  map : ∀ frozen key val object items, Part R typ value (.map frozen key val) object →
    pyMapWrapper object = .ok items → ∀ pair ∈ items, (canon R key pair.1).hashable = true

/-- What keeps a value that is written from being read as something else. -/
structure ReadAsWritten (typ : ColumnType) (value : PyVal P) : Prop where
  full : FullTuples R typ value
  kept : KeptElements R typ value
  keys : HashableKeys R typ value

variable {R}

theorem HashableKeys.of_part {typ typ' : ColumnType} {value value' : PyVal P}
    (h : HashableKeys R typ value)
    (hpart : ∀ typ'' value'', Part R typ' value' typ'' value'' → Part R typ value typ'' value'') :
    HashableKeys R typ' value' :=
  ⟨fun frozen elt items hset => h.set frozen elt items (hpart _ _ hset),
    fun frozen key val object items hmap => h.map frozen key val object items (hpart _ _ hmap)⟩

theorem ReadAsWritten.of_part {typ typ' : ColumnType} {value value' : PyVal P}
    (h : ReadAsWritten R typ value)
    (hpart : ∀ typ'' value'', Part R typ' value' typ'' value'' → Part R typ value typ'' value'') :
    ReadAsWritten R typ' value' :=
  ⟨h.full.of_part hpart, h.kept.of_part hpart, h.keys.of_part hpart⟩

theorem deser_null (C : Containers P) (typ : ColumnType) :
    deserCqlPyValue R C typ none = .ok (canon R typ .none) := by
  cases typ with
  | native typ =>
    by_cases hempty : typ.canBeEmpty = true <;> simp [deserCqlPyValue, hempty, orEmpty, canon]
  | _ => simp [deserCqlPyValue, orEmpty, canon]

theorem deser_of_content {C : Containers P} {typ : ColumnType} {value : PyVal P} {cell : Cell}
    (hcontent : ∀ content, serializeArbitraryValue R typ value = .ok content →
      deserCqlPyValue R C typ (some content) = .ok (canon R typ value))
    (h : serialize R typ value = .ok cell) :
    deserCqlPyValue R C typ cell = .ok (canon R typ value) := by
  cases cell with
  | none =>
    obtain rfl := serialize_eq_none_iff.mp h
    exact deser_null C typ
  | some content => exact hcontent content (serialize_eq_some_iff.mp h)

theorem canonElements_eq (elts : List ColumnType) (items : List (PyVal P)) :
    canonElements R elts items = (elts.zip items).map (fun pair => canon R pair.1 pair.2) := by
  induction elts generalizing items with
  | nil => simp [canonElements]
  | cons elt elts ih => cases items <;> simp [canonElements, ih]

section Contents

variable {C : Containers P} {elt : ColumnType} {items : List (PyVal P)} {content : Bytes}

theorem deserializeSequence_content {typ : ColumnType}
    {builder : List (PyVal P) → PyVal P → Except PyErr (List (PyVal P))} {final : List (PyVal P)}
    (h : serializeSequence typ (serialize R elt) items = .ok content)
    (helt : ∀ item ∈ items, ∀ cell, serialize R elt item = .ok cell →
      deserCqlPyValue R C elt cell = .ok (canon R elt item))
    (hfinal : (items.map (canon R elt)).foldlM builder [] = .ok final) :
    deserializeSequence (deserCqlPyValue R C elt) builder content = .ok final := by
  obtain ⟨hcount, cells, hcells, rfl, _⟩ := serializeSequence_eq_ok_iff.mp h
  refine deserializeSequence_eq_ok_iff.mpr ⟨cells.flatMap writeCell, cells, ?_, ?_, _,
    forall₂_map_of_mem hcells helt, hfinal⟩
  · rw [readCount_length hcount, hcells.length_eq]
  · refine reads_flatMap fun cell hcell rest => ?_
    obtain ⟨item, _, hitem⟩ := exists_of_mem_right hcells hcell
    exact readCell_writeCell (fits_of_serialize hitem) rest

theorem readPair_writeCell {cell : Cell × Cell} (hkey : cell.1.Fits) (hvalue : cell.2.Fits)
    (rest : Bytes) :
    readPair (writeCell cell.1 ++ writeCell cell.2 ++ rest) = some (cell, rest) := by
  simp [readPair, readCell_writeCell hkey, readCell_writeCell hvalue]

theorem deserializeMap_content {typ key val : ColumnType} {pairs final : List (PyVal P × PyVal P)}
    (h : serializeMap typ (serialize R key) (serialize R val) pairs = .ok content)
    (hkey : ∀ pair ∈ pairs, ∀ cell, serialize R key pair.1 = .ok cell →
      deserCqlPyValue R C key cell = .ok (canon R key pair.1))
    (hval : ∀ pair ∈ pairs, ∀ cell, serialize R val pair.2 = .ok cell →
      deserCqlPyValue R C val cell = .ok (canon R val pair.2))
    (hfinal : (pairs.map (fun pair => (canon R key pair.1, canon R val pair.2))).foldlM
      C.setItem [] = .ok final) :
    deserializeMap C (deserCqlPyValue R C key) (deserCqlPyValue R C val) content = .ok final := by
  obtain ⟨hcount, cells, hcells, rfl, _⟩ := serializeMap_eq_ok_iff.mp h
  refine deserializeMap_eq_ok_iff.mpr
    ⟨cells.flatMap (fun cell => writeCell cell.1 ++ writeCell cell.2), cells, ?_, ?_, _,
      forall₂_map_of_mem hcells ?_, hfinal⟩
  · rw [readCount_length hcount, hcells.length_eq]
  · refine reads_flatMap fun cell hcell rest => ?_
    obtain ⟨pair, _, hpair⟩ := exists_of_mem_right hcells hcell
    exact readPair_writeCell (fits_of_serialize hpair.1) (fits_of_serialize hpair.2) rest
  · intro pair hpair cell hcell
    exact ⟨hkey pair hpair cell.1 hcell.1, hval pair hpair cell.2 hcell.2⟩

/-- An element without content stands only where the elements carry their length. -/
theorem readVectorElement_kept (hR : R.ReadsWritten) {size : Option Nat} {content : Bytes}
    (hsize : ∀ n, size = some n → content.length = n) (hsome : size.isSome → content ≠ [])
    (hempty : content = [] → R.KeepsEmpty) (rest : Bytes) :
    R.readVectorElement size (R.vectorElement size (some content) ++ rest) =
      some (some content, rest) := by
  by_cases hne : content = []
  · subst hne
    cases size with
    | none => exact hempty rfl rest
    | some n => exact absurd rfl (hsome rfl)
  · exact hR.readVectorElement_vectorElement size content rest hne hsize

theorem deserializeVector_content {typ : ColumnType} {dimensions : Nat}
    (h : serializeVector R typ (R.typeSizeForVector elt) (serialize R elt) dimensions items =
      .ok content)
    (hread : ∀ item ∈ items, ∀ cell, serialize R elt item = .ok cell → ∀ rest,
      R.readVectorElement (R.typeSizeForVector elt)
        (R.vectorElement (R.typeSizeForVector elt) cell ++ rest) = some (cell, rest))
    (helt : ∀ item ∈ items, ∀ cell, serialize R elt item = .ok cell →
      deserCqlPyValue R C elt cell = .ok (canon R elt item)) :
    deserializeVector R (R.typeSizeForVector elt) (deserCqlPyValue R C elt) dimensions content =
      .ok (items.map (canon R elt)) := by
  obtain ⟨hcount, cells, hcells, rfl, _⟩ := serializeVector_eq_ok_iff.mp h
  refine deserializeItems_eq_ok_iff.mpr ⟨cells, ?_, ?_, _, forall₂_map_of_mem hcells helt, ?_⟩
  · rw [← hcells.length_eq, hcount]
  · refine reads_flatMap fun cell hcell rest => ?_
    obtain ⟨item, hitem, hserialize⟩ := exists_of_mem_right hcells hcell
    exact hread item hitem cell hserialize rest
  · exact foldlM_listAppend.mpr rfl

theorem deserTupleElements_content {elts : List ColumnType}
    (h : serializeTupleElements R elts items = .ok content) (hfull : items.length = elts.length)
    (helts : ∀ pair ∈ elts.zip items, ∀ content,
      serializeArbitraryValue R pair.1 pair.2 = .ok content →
      deserCqlPyValue R C pair.1 (some content) = .ok (canon R pair.1 pair.2)) (i : Nat) :
    deserTupleElements R C elts i content = .ok (canonElements R elts items) := by
  obtain ⟨contents, hcontents, rfl⟩ := serializeTupleElements_eq_ok_iff.mp h
  refine deserTupleElements_eq_ok_iff.mpr ⟨contents.map some, ?_, ?_, ?_⟩
  · have hlength := hcontents.length_eq
    rw [List.length_zip] at hlength
    simp only [List.length_map]
    omega
  · rw [← List.flatMap_map]
    refine reads_flatMap fun cell hcell rest => ?_
    obtain ⟨content, hcontent, rfl⟩ := List.mem_map.mp hcell
    obtain ⟨pair, _, hpair⟩ := exists_of_mem_right hcontents hcontent
    exact readCell_writeCell (fits_some.mpr (length_content_le hpair)) rest
  · clear h
    induction elts generalizing items contents with
    | nil => simp [canonElements]
    | cons elt elts ih =>
      cases items with
      | nil => simp at hfull
      | cons item items =>
        rw [List.zip_cons_cons] at hcontents helts
        rw [List.forall_mem_cons] at helts
        cases hcontents with
        | cons hcontent hcontents =>
          exact .cons (helts.1 _ hcontent) (ih (by simpa using hfull) helts.2 _ hcontents)

theorem readUdtField_writeCell {cell : Cell} (h : cell.Fits) (rest : Bytes) :
    readUdtField (writeCell cell ++ rest) = some (cell, rest) := by
  rw [← readCell_writeCell h rest]
  cases hbytes : writeCell cell ++ rest with
  | nil => simp [writeCell_ne_nil] at hbytes
  | cons byte bytes => rfl

theorem deserUdtFields_content {typ : ColumnType} {fieldTypes : List (String × ColumnType)}
    {pairs final : List (PyVal P × PyVal P)}
    (h : serializeUdtFields R typ pairs fieldTypes = .ok content)
    (hfields : ∀ field ∈ fieldTypes, ∀ item content,
      pyDictGet R pairs (.scalar (.str field.1)) = some item →
      serializeArbitraryValue R field.2 item = .ok content →
      deserCqlPyValue R C field.2 (some content) = .ok (canon R field.2 item))
    (hfinal : (canonFields R pairs fieldTypes).foldlM C.setItem [] = .ok final) :
    deserUdtFields R C fieldTypes content [] = .ok final := by
  obtain ⟨contents, hcontents, rfl⟩ := serializeUdtFields_eq_ok_iff.mp h
  have hvalues : ∃ values, List.Forall₂
      (fun pair value => deserCqlPyValue R C pair.1.2 pair.2 = .ok value)
      (fieldTypes.zip (contents.map some)) values ∧
      fieldPairs fieldTypes values = canonFields R pairs fieldTypes := by
    clear h hfinal
    induction fieldTypes generalizing contents with
    | nil => exact ⟨[], by simp, rfl⟩
    | cons field fieldTypes ih =>
      rw [List.forall_mem_cons] at hfields
      cases hcontents with
      | cons hcontent hcontents =>
        obtain ⟨item, hitem, hcontent⟩ := hcontent
        obtain ⟨values, hvalues, hpairs⟩ := ih hfields.2 _ hcontents
        refine ⟨canon R field.2 item :: values, ?_, ?_⟩
        · exact .cons (hfields.1 item _ hitem hcontent) hvalues
        · simp only [canonFields, hitem, ← hpairs]
          rfl
  obtain ⟨values, hvalues, hpairs⟩ := hvalues
  refine deserUdtFields_eq_ok_iff.mpr ⟨contents.map some, ?_, ?_, values, hvalues, ?_⟩
  · rw [List.length_map, hcontents.length_eq]
  · rw [← List.flatMap_map]
    refine reads_flatMap fun cell hcell rest => ?_
    obtain ⟨content, hcontent, rfl⟩ := List.mem_map.mp hcell
    obtain ⟨field, _, item, _, hitem⟩ := exists_of_mem_right hcontents hcontent
    exact readUdtField_writeCell (fits_some.mpr (length_content_le hitem)) rest
  · rw [hpairs, hfinal]

end Contents

theorem hashable_of_mem_canonFields {pairs : List (PyVal P × PyVal P)}
    {fieldTypes : List (String × ColumnType)} :
    ∀ pair ∈ canonFields R pairs fieldTypes, pair.1.hashable = true := by
  induction fieldTypes with
  | nil => simp [canonFields]
  | cons field fieldTypes ih =>
    rw [canonFields]
    split
    · exact ih
    · exact List.forall_mem_cons.mpr ⟨rfl, ih⟩

theorem deser_some_of_ne_nil {C : Containers P} {typ : ColumnType} {null value : PyVal P}
    {read : Bytes → DeserResult (PyVal P)} {content : Bytes}
    (htyp : deserCqlPyValue R C typ = orEmpty null read) (hcontent : content ≠ [])
    (hread : read content = .ok value) : deserCqlPyValue R C typ (some content) = .ok value := by
  rw [htyp]
  exact orEmpty_eq_ok_iff.mpr (.inr (.inr ⟨content, hcontent, rfl, hread⟩))

theorem deserNative_canon (hR : R.ReadsWritten) {typ : NativeType} {value : PyVal P} {content : Bytes}
    (h : serializeNatives R typ value = .ok content) :
    ∃ object, deserNative R typ content = .ok object ∧ canon R (.native typ) value = .scalar object := by
  obtain ⟨object, rustValue, rfl, hextract, hencode, _⟩ := serializeNatives_eq_ok_iff.mp h
  obtain ⟨object', hpython, hdeser⟩ := deserNative_encode hR hencode
  exact ⟨object', hdeser, by simp [canon, canonNative, hextract, hpython]⟩

/-- The reader of a vector takes off it what was written for an element. -/
theorem readVectorElement_of_readAsWritten (hR : R.ReadsWritten) {elt : ColumnType} {item : PyVal P}
    {cell : Cell} (helt : elt.Everywhere Sized) (hwritten : ReadAsWritten R elt item)
    (hnone : item ≠ .none) (hempty : serialize R elt item = .ok (some []) → R.KeepsEmpty)
    (h : serialize R elt item = .ok cell) (rest : Bytes) :
    R.readVectorElement (R.typeSizeForVector elt)
      (R.vectorElement (R.typeSizeForVector elt) cell ++ rest) = some (cell, rest) := by
  cases cell with
  | none => exact absurd (serialize_eq_none_iff.mp h) hnone
  | some content =>
    have hcontent := serialize_eq_some_iff.mp h
    refine readVectorElement_kept hR ?_ ?_ (fun hnil => hempty (hnil ▸ h)) rest
    · intro n hn
      exact length_of_typeSize hR hn hwritten.kept hcontent
    · intro hsome
      refine content_ne_nil hR helt hwritten.full hwritten.kept hcontent ?_
      rintro native rfl
      by_contra hnative
      have hsize := hR.typeSize_canBeEmpty native (by simpa using hnative)
      simp [hsize] at hsome

/-- By induction over the type. What is known of the parts of the value passes to its elements,
each of which is a part of it. -/
theorem deser_content (hR : R.ReadsWritten) {typ : ColumnType} {value : PyVal P} {content : Bytes}
    (hsized : typ.Everywhere Sized) (hwritten : ReadAsWritten R typ value)
    (h : serializeArbitraryValue R typ value = .ok content) :
    deserCqlPyValue R (cpython R) typ (some content) = .ok (canon R typ value) := by
  induction typ generalizing value content with
  | native typ =>
    obtain ⟨object, hdeser, hcanon⟩ := deserNative_canon hR h
    rw [hcanon, deserCqlPyValue]
    by_cases hempty : typ.canBeEmpty = true
    · simp [hempty, hdeser, Except.map]
    · have hne : content ≠ [] := by
        refine content_ne_nil hR hsized hwritten.full hwritten.kept h ?_
        rintro native ⟨⟩
        simpa using hempty
      rw [if_neg hempty]
      exact orEmpty_eq_ok_iff.mpr (.inr (.inr ⟨content, hne, rfl, by simp [hdeser, Except.map]⟩))
  | list frozen elt ih =>
    have hne := content_ne_nil hR hsized hwritten.full hwritten.kept h (by simp)
    obtain ⟨items, rfl, hitems⟩ := serializeArbitraryValue_list_iff.mp h
    cases hsized with
    | list _ helt =>
      refine deser_some_of_ne_nil rfl hne (bind_eq_ok_iff.mpr ⟨items.map (canon R elt), ?_, rfl⟩)
      refine deserializeSequence_content hitems (fun item hitem cell => ?_)
        (foldlM_listAppend.mpr rfl)
      exact deser_of_content fun content => ih helt (hwritten.of_part fun _ _ => .list rfl hitem)
  | set frozen elt ih =>
    have hne := content_ne_nil hR hsized hwritten.full hwritten.kept h (by simp)
    obtain ⟨items, rfl, hitems⟩ := serializeArbitraryValue_set_iff.mp h
    cases hsized with
    | set _ helt =>
      refine deser_some_of_ne_nil rfl hne
        (bind_eq_ok_iff.mpr ⟨pySet R (items.map (canon R elt)), ?_, rfl⟩)
      refine deserializeSequence_content hitems (fun item hitem cell => ?_)
        (foldlM_pySetAdd.mpr ⟨?_, rfl⟩)
      · exact deser_of_content fun content => ih helt (hwritten.of_part fun _ _ => .set rfl hitem)
      · simpa using hwritten.keys.set frozen elt items (.refl _ _)
  | map frozen key val ihkey ihval =>
    have hne := content_ne_nil hR hsized hwritten.full hwritten.kept h (by simp)
    obtain ⟨items, hvalue, hitems⟩ := serializeArbitraryValue_map_iff.mp h
    have hwrapper := pyMapWrapper_eq_ok_iff.mpr hvalue
    have hcanon : canon R (.map frozen key val) value =
        .dict (pyDict R (items.map (fun pair => (canon R key pair.1, canon R val pair.2)))) := by
      rcases hvalue with rfl | rfl <;> simp [canon]
    cases hsized with
    | map _ hkey hval =>
      rw [hcanon]
      refine deser_some_of_ne_nil rfl hne (bind_eq_ok_iff.mpr ⟨_, ?_, rfl⟩)
      refine deserializeMap_content hitems (fun pair hpair cell => ?_) (fun pair hpair cell => ?_)
        (foldlM_pyDictSetItem.mpr ⟨?_, rfl⟩)
      · exact deser_of_content fun content =>
          ihkey hkey (hwritten.of_part fun _ _ => .mapKey hwrapper hpair)
      · exact deser_of_content fun content =>
          ihval hval (hwritten.of_part fun _ _ => .mapValue hwrapper hpair)
      · intro pair hpair
        obtain ⟨source, hsource, rfl⟩ := List.mem_map.mp hpair
        exact hwritten.keys.map frozen key val value items (.refl _ _) hwrapper source hsource
  | vector elt dimensions ih =>
    have hne := content_ne_nil hR hsized hwritten.full hwritten.kept h (by simp)
    obtain ⟨items, hvalue, hitems⟩ := serializeArbitraryValue_vector_iff.mp h
    have hwrapper := pyVectorWrapper_eq_ok_iff.mpr hvalue
    have hcanon : canon R (.vector elt dimensions) value = .list (items.map (canon R elt)) := by
      rcases hvalue with rfl | rfl <;> simp [canon]
    cases hsized with
    | vector _ helt =>
      rw [hcanon]
      refine deser_some_of_ne_nil rfl hne (bind_eq_ok_iff.mpr ⟨_, ?_, rfl⟩)
      have hinner {item} (hitem : item ∈ items) : ReadAsWritten R elt item :=
        hwritten.of_part fun _ _ => .vector hwrapper hitem
      refine deserializeVector_content hitems (fun item hitem cell hserialize => ?_)
        fun item hitem cell => deser_of_content fun content => ih helt (hinner hitem)
      exact readVectorElement_of_readAsWritten hR helt (hinner hitem)
        (fun hnone => hwritten.kept.notNone _ _ _ _ (.refl _ _) hwrapper (hnone ▸ hitem))
        (hwritten.kept.notEmpty _ _ _ _ (.refl _ _) hwrapper item hitem) hserialize
  | userDefinedType frozen keyspace name fieldTypes ih =>
    have hne := content_ne_nil hR hsized hwritten.full hwritten.kept h (by simp)
    obtain ⟨pairs, rfl, hfields, _⟩ := serializeArbitraryValue_udt_iff.mp h
    cases hsized with
    | userDefinedType _ helts =>
      refine deser_some_of_ne_nil rfl hne
        (bind_eq_ok_iff.mpr ⟨pyDict R (canonFields R pairs fieldTypes), ?_, rfl⟩)
      refine deserUdtFields_content hfields (fun field hfield item content hitem => ?_)
        (foldlM_pyDictSetItem.mpr ⟨hashable_of_mem_canonFields, rfl⟩)
      exact ih field hfield (helts field hfield)
        (hwritten.of_part fun _ _ => .userDefinedType rfl hfield hitem)
  | tuple elts ih =>
    have hne := content_ne_nil hR hsized hwritten.full hwritten.kept h (by simp)
    obtain ⟨items, rfl, _, helements, _⟩ := serializeArbitraryValue_tuple_iff.mp h
    cases hsized with
    | tuple _ helts =>
      refine deser_some_of_ne_nil rfl hne
        (bind_eq_ok_iff.mpr ⟨canonElements R elts items, ?_, rfl⟩)
      refine mapError_eq_ok_iff.mpr (deserTupleElements_content helements
        (hwritten.full elts items (.refl _ _)) (fun pair hpair content => ?_) 0)
      have helt := (List.of_mem_zip hpair).1
      exact ih pair.1 helt (helts pair.1 helt) (hwritten.of_part fun _ _ => .tuple rfl hpair)

theorem deser_serialize (hR : R.ReadsWritten) {typ : ColumnType} {value : PyVal P} {cell : Cell}
    (hsized : typ.Everywhere Sized) (hwritten : ReadAsWritten R typ value)
    (h : serialize R typ value = .ok cell) :
    deserCqlPyValue R (cpython R) typ cell = .ok (canon R typ value) :=
  deser_of_content (fun _ => deser_content hR hsized hwritten) h

/-- A native type or a tuple. -/
def KeyPart : ColumnType → Prop
  | .native _ => True
  | .tuple _ => True
  | _ => False

/-- No set element type and no map key type contains a list, set, map, vector or UDT. -/
def PlainKeys : ColumnType → Prop
  | .set _ elt => elt.Everywhere KeyPart
  | .map _ key _ => key.Everywhere KeyPart
  | _ => True

theorem hashable_canon {typ : ColumnType} {value : PyVal P} {cell : Cell}
    (htyp : typ.Everywhere KeyPart) (h : serialize R typ value = .ok cell) :
    (canon R typ value).hashable = true := by
  induction typ generalizing value cell with
  | native typ =>
    rcases orNull_eq_ok_iff.mp h with ⟨rfl, _⟩ | ⟨_, content, _, hcontent⟩
    · rfl
    · obtain ⟨object, _, rfl, _⟩ := serializeNatives_eq_ok_iff.mp hcontent
      rfl
  | tuple elts ih =>
    rcases orNull_eq_ok_iff.mp h with ⟨rfl, _⟩ | ⟨_, content, _, hcontent⟩
    · rfl
    · obtain ⟨items, rfl, _, helements, _⟩ := serializeArbitraryValue_tuple_iff.mp hcontent
      obtain ⟨contents, hcontents, _⟩ := serializeTupleElements_eq_ok_iff.mp helements
      cases htyp with
      | tuple _ helts =>
        simp only [canon, PyVal.hashable_tuple, canonElements_eq, List.forall_mem_map]
        intro pair hpair
        have helt := (List.of_mem_zip hpair).1
        obtain ⟨_, _, hcontent⟩ := exists_of_mem_left hcontents hpair
        exact ih pair.1 helt (helts pair.1 helt) (serialize_eq_some_iff.mpr hcontent)
  | list _ _ | set _ _ | map _ _ _ | vector _ _ | userDefinedType _ _ _ _ =>
    cases htyp
    contradiction

theorem hashableKeys_of_plainKeys {typ : ColumnType} {value : PyVal P} {cell : Cell}
    (hkeys : typ.Everywhere PlainKeys) (h : serialize R typ value = .ok cell) :
    HashableKeys R typ value := by
  constructor
  · intro frozen elt items hpart item hitem
    cases hpart.everywhere hkeys with
    | set hplain _ =>
      obtain ⟨cell', hcell'⟩ := hpart.serialize h
      obtain ⟨cell'', hcell''⟩ := (Part.set rfl hitem (.refl _ _)).serialize hcell'
      exact hashable_canon hplain hcell''
  · intro frozen key val object items hpart hitems pair hpair
    cases hpart.everywhere hkeys with
    | map hplain _ _ =>
      obtain ⟨cell', hcell'⟩ := hpart.serialize h
      obtain ⟨cell'', hcell''⟩ := (Part.mapKey hitems hpair (.refl _ _)).serialize hcell'
      exact hashable_canon hplain hcell''

/-- The parts of a tuple of a list and a vector of ints: itself, the list, the vector, ints. -/
theorem parts_of_list_and_vector {typ' : ColumnType} {first second value' : PyVal wireInterop}
    (hpart : Part wireRuntime (.tuple [.list false (.native .int), .vector (.native .int) 2])
      (.tuple [first, second]) typ' value') :
    (.tuple [.list false (.native .int), .vector (.native .int) 2] = typ' ∧
        .tuple [first, second] = value') ∨
      (∃ frozen elt, .list frozen elt = typ') ∨ .native .int = typ' ∨
      (.vector (.native .int) 2 = typ' ∧ second = value') := by
  cases hpart with
  | refl => exact .inl ⟨rfl, rfl⟩
  | tuple hitems hpair hpart =>
    cases hitems
    simp only [List.zip_cons_cons, List.zip_nil_left, List.mem_cons, Prod.mk.injEq,
      List.not_mem_nil, or_false] at hpair
    obtain ⟨rfl, rfl⟩ | ⟨rfl, rfl⟩ := hpair
    · cases hpart with
      | refl => exact .inr (.inl ⟨_, _, rfl⟩)
      | list _ _ hpart =>
        cases hpart
        exact .inr (.inr (.inl rfl))
    · cases hpart with
      | refl => exact .inr (.inr (.inr ⟨rfl, rfl⟩))
      | vector _ _ hpart =>
        cases hpart
        exact .inr (.inr (.inl rfl))

end ScyllaDriver
