import ScyllaDriver.Deserialize

/-! The parts of a value that are met while it is written, and what is known of the
content: it fits a cell, has the size its type states, and is empty only for text and
blobs, so that the reader's rule for empty cells never meets another value. The last two
need vectors without `None`. -/

namespace ScyllaDriver

open Framing

variable {P : Interop} (R : Runtime P)

/-- A value that is met, with its type, while a value is written. -/
inductive Part : ColumnType → PyVal P → ColumnType → PyVal P → Prop
  | refl (typ : ColumnType) (value : PyVal P) : Part typ value typ value
  | list {frozen elt value items item typ' value'} (hitems : pyListWrapper value = .ok items)
    (hitem : item ∈ items) (h : Part elt item typ' value') :
    Part (.list frozen elt) value typ' value'
  | set {frozen elt value items item typ' value'} (hitems : pySetWrapper value = .ok items)
    (hitem : item ∈ items) (h : Part elt item typ' value') :
    Part (.set frozen elt) value typ' value'
  | mapKey {frozen key val value items pair typ' value'} (hitems : pyMapWrapper value = .ok items)
    (hpair : pair ∈ items) (h : Part key pair.1 typ' value') :
    Part (.map frozen key val) value typ' value'
  | mapValue {frozen key val value items pair typ' value'}
    (hitems : pyMapWrapper value = .ok items) (hpair : pair ∈ items)
    (h : Part val pair.2 typ' value') : Part (.map frozen key val) value typ' value'
  | vector {elt dimensions value items item typ' value'}
    (hitems : pyVectorWrapper value = .ok items) (hitem : item ∈ items)
    (h : Part elt item typ' value') : Part (.vector elt dimensions) value typ' value'
  | userDefinedType {frozen keyspace name fieldTypes value items field item typ' value'}
    (hitems : pyUdtWrapper value = .ok items) (hfield : field ∈ fieldTypes)
    (hitem : pyDictGet R items (.scalar (.str field.1)) = some item)
    (h : Part field.2 item typ' value') :
    Part (.userDefinedType frozen keyspace name fieldTypes) value typ' value'
  | tuple {elts value items elt item typ' value'} (hitems : pyTupleWrapper value = .ok items)
    (hpair : (elt, item) ∈ elts.zip items) (h : Part elt item typ' value') :
    Part (.tuple elts) value typ' value'

/-- Each tuple given for a CQL tuple has the full number of elements. -/
def FullTuples (typ : ColumnType) (value : PyVal P) : Prop :=
  ∀ elts items, Part R typ value (.tuple elts) (.tuple items) → items.length = elts.length

/-- The elements of vectors are such as are read the way they are written: no `None`, which is
written like an element with some content, and none without content unless the reader keeps it. -/
structure KeptElements (typ : ColumnType) (value : PyVal P) : Prop where
  notNone : ∀ elt dimensions object items, Part R typ value (.vector elt dimensions) object →
    pyVectorWrapper object = .ok items → PyVal.none ∉ items
  notEmpty : ∀ elt dimensions object items, Part R typ value (.vector elt dimensions) object →
    pyVectorWrapper object = .ok items →
    ∀ item ∈ items, serialize R elt item = .ok (some []) → R.KeepsEmpty

/-- At least one field per UDT and tuple, and a positive vector dimension. -/
def Sized : ColumnType → Prop
  | .vector _ dimensions => 0 < dimensions
  | .userDefinedType _ _ _ fieldTypes => fieldTypes ≠ []
  | .tuple elts => elts ≠ []
  | _ => True

variable {R}

theorem FullTuples.of_part {typ typ' : ColumnType} {value value' : PyVal P}
    (h : FullTuples R typ value)
    (hpart : ∀ typ'' value'', Part R typ' value' typ'' value'' → Part R typ value typ'' value'') :
    FullTuples R typ' value' :=
  fun elts items htuple => h elts items (hpart _ _ htuple)

theorem KeptElements.of_part {typ typ' : ColumnType} {value value' : PyVal P}
    (h : KeptElements R typ value)
    (hpart : ∀ typ'' value'', Part R typ' value' typ'' value'' → Part R typ value typ'' value'') :
    KeptElements R typ' value' :=
  ⟨fun elt dimensions object items hvector =>
      h.notNone elt dimensions object items (hpart _ _ hvector),
    fun elt dimensions object items hvector =>
      h.notEmpty elt dimensions object items (hpart _ _ hvector)⟩

theorem pyVectorWrapper_eq_ok_iff {value : PyVal P} {items : List (PyVal P)} :
    pyVectorWrapper value = .ok items ↔ value = .list items ∨ value = .tuple items := by
  cases value <;> simp [pyVectorWrapper, typeMismatch]

theorem pyMapWrapper_eq_ok_iff {value : PyVal P} {items : List (PyVal P × PyVal P)} :
    pyMapWrapper value = .ok items ↔ value = .dict items ∨ value = .mapping items := by
  cases value <;> simp [pyMapWrapper, typeMismatch]

theorem serialize_eq_some_iff {typ : ColumnType} {value : PyVal P} {content : Bytes} :
    serialize R typ value = .ok (some content) ↔
      serializeArbitraryValue R typ value = .ok content := by
  rw [serialize, orNull_eq_ok_iff]
  constructor
  · rintro (⟨_, hnone⟩ | ⟨_, bytes, hbytes, hcontent⟩)
    · cases hnone
    · cases hbytes
      exact hcontent
  · intro h
    refine .inr ⟨?_, content, rfl, h⟩
    rintro rfl
    exact serializeArbitraryValue_none typ content h

theorem serialize_eq_none_iff {typ : ColumnType} {value : PyVal P} :
    serialize R typ value = .ok none ↔ value = .none := by
  simp [serialize, orNull_eq_ok_iff]

theorem length_content_le {typ : ColumnType} {value : PyVal P} {content : Bytes}
    (h : serializeArbitraryValue R typ value = .ok content) : content.length ≤ maxLength := by
  cases typ with
  | native typ =>
    obtain ⟨_, _, _, _, _, hfits⟩ := serializeNatives_eq_ok_iff.mp h
    exact hfits
  | list frozen elt =>
    obtain ⟨_, _, hitems⟩ := serializeArbitraryValue_list_iff.mp h
    obtain ⟨_, _, _, _, hfits⟩ := serializeSequence_eq_ok_iff.mp hitems
    exact hfits
  | set frozen elt =>
    obtain ⟨_, _, hitems⟩ := serializeArbitraryValue_set_iff.mp h
    obtain ⟨_, _, _, _, hfits⟩ := serializeSequence_eq_ok_iff.mp hitems
    exact hfits
  | map frozen key val =>
    obtain ⟨_, _, hitems⟩ := serializeArbitraryValue_map_iff.mp h
    obtain ⟨_, _, _, _, hfits⟩ := serializeMap_eq_ok_iff.mp hitems
    exact hfits
  | vector elt dimensions =>
    obtain ⟨_, _, hitems⟩ := serializeArbitraryValue_vector_iff.mp h
    obtain ⟨_, _, _, _, hfits⟩ := serializeVector_eq_ok_iff.mp hitems
    exact hfits
  | userDefinedType frozen keyspace name fieldTypes =>
    obtain ⟨_, _, _, hfits⟩ := serializeArbitraryValue_udt_iff.mp h
    exact hfits
  | tuple elts =>
    obtain ⟨_, _, _, _, hfits⟩ := serializeArbitraryValue_tuple_iff.mp h
    exact hfits

theorem fits_of_serialize {typ : ColumnType} {value : PyVal P} {cell : Cell}
    (h : serialize R typ value = .ok cell) : cell.Fits := by
  cases cell with
  | none => exact fits_none
  | some content => exact fits_some.mpr (length_content_le (serialize_eq_some_iff.mp h))

/-- Each element of a vector without `None` has a content. -/
theorem exists_content_of_mem {elt : ColumnType} {items : List (PyVal P)} {cells : List Cell}
    (hcells : List.Forall₂ (fun item cell => serialize R elt item = .ok cell) items cells)
    (hnone : PyVal.none ∉ items) {cell : Cell} (hcell : cell ∈ cells) :
    ∃ item ∈ items, ∃ content, cell = some content ∧
      serializeArbitraryValue R elt item = .ok content := by
  obtain ⟨item, hitem, hserialize⟩ := exists_of_mem_right hcells hcell
  cases cell with
  | none => exact absurd (serialize_eq_none_iff.mp hserialize ▸ hitem) hnone
  | some content => exact ⟨item, hitem, content, rfl, serialize_eq_some_iff.mp hserialize⟩

/-- The contents of a type of one size all have it. -/
theorem length_of_typeSize (hR : R.ReadsWritten) {typ : ColumnType} {value : PyVal P} {content : Bytes}
    {size : Nat} (hsize : R.typeSizeForVector typ = some size) (hkept : KeptElements R typ value)
    (h : serializeArbitraryValue R typ value = .ok content) : content.length = size := by
  induction typ generalizing value content size with
  | native typ =>
    obtain ⟨object, rustValue, _, _, hencode, _⟩ := serializeNatives_eq_ok_iff.mp h
    exact hR.length_encode typ rustValue content size hencode hsize
  | vector elt dimensions ih =>
    obtain ⟨eltSize, helt, rfl⟩ := hR.typeSize_vector elt dimensions size hsize
    obtain ⟨items, hvalue, hitems⟩ := serializeArbitraryValue_vector_iff.mp h
    obtain ⟨hcount, cells, hcells, rfl, _⟩ := serializeVector_eq_ok_iff.mp hitems
    have hwrapper := pyVectorWrapper_eq_ok_iff.mpr hvalue
    have hnone := hkept.notNone elt dimensions value items (.refl _ _) hwrapper
    have hlengths : ∀ cell ∈ cells,
        (R.vectorElement (R.typeSizeForVector elt) cell).length = eltSize := by
      intro cell hcell
      obtain ⟨item, hitem, content, rfl, hcontent⟩ := exists_content_of_mem hcells hnone hcell
      rw [helt, hR.vectorElement_sized]
      exact ih helt (hkept.of_part fun _ _ => .vector hwrapper hitem) hcontent
    rw [length_flatMap_of_length hlengths, ← hcells.length_eq, hcount, Nat.mul_comm]
  | _ => simpa using hR.typeSize_cases _ size hsize

theorem count_ne_nil (count : Int) (rest : Bytes) : toBeInt 4 count ++ rest ≠ [] := by
  intro h
  have hlength := congrArg List.length h
  simp at hlength

theorem vectorElement_ne_nil (hR : R.ReadsWritten) {size : Option Nat} {content : Bytes}
    (h : size.isSome → content ≠ []) : R.vectorElement size (some content) ≠ [] := by
  cases size with
  | none => simp [hR.vectorElement_unsized, hR.vint_ne_nil]
  | some size =>
    rw [hR.vectorElement_sized]
    exact h rfl

theorem flatMap_ne_nil {α : Type} {f : α → Bytes} {items : List α} (hitems : items ≠ [])
    (h : ∀ item ∈ items, f item ≠ []) : items.flatMap f ≠ [] := by
  cases items with
  | nil => exact absurd rfl hitems
  | cons item items => simp [h item List.mem_cons_self]

/-- Only a text or a blob is ever written as an empty cell, so that the reader's rule for empty
cells never meets another value. -/
theorem content_ne_nil (hR : R.ReadsWritten) {typ : ColumnType} {value : PyVal P} {content : Bytes}
    (hsized : typ.Everywhere Sized) (hfull : FullTuples R typ value)
    (hkept : KeptElements R typ value) (h : serializeArbitraryValue R typ value = .ok content)
    (htyp : ∀ native, typ = .native native → native.canBeEmpty = false) : content ≠ [] := by
  induction typ generalizing value content with
  | native typ =>
    obtain ⟨_, rustValue, _, _, hencode, _⟩ := serializeNatives_eq_ok_iff.mp h
    rintro rfl
    exact hR.encode_ne_nil typ rustValue (htyp typ rfl) hencode
  | list frozen elt =>
    obtain ⟨_, _, hitems⟩ := serializeArbitraryValue_list_iff.mp h
    obtain ⟨_, _, _, rfl, _⟩ := serializeSequence_eq_ok_iff.mp hitems
    exact count_ne_nil _ _
  | set frozen elt =>
    obtain ⟨_, _, hitems⟩ := serializeArbitraryValue_set_iff.mp h
    obtain ⟨_, _, _, rfl, _⟩ := serializeSequence_eq_ok_iff.mp hitems
    exact count_ne_nil _ _
  | map frozen key val =>
    obtain ⟨_, _, hitems⟩ := serializeArbitraryValue_map_iff.mp h
    obtain ⟨_, _, _, rfl, _⟩ := serializeMap_eq_ok_iff.mp hitems
    exact count_ne_nil _ _
  | vector elt dimensions ih =>
    obtain ⟨items, hvalue, hitems⟩ := serializeArbitraryValue_vector_iff.mp h
    obtain ⟨hcount, cells, hcells, rfl, _⟩ := serializeVector_eq_ok_iff.mp hitems
    have hwrapper := pyVectorWrapper_eq_ok_iff.mpr hvalue
    have hnone := hkept.notNone elt dimensions value items (.refl _ _) hwrapper
    cases hsized with
    | vector hpos helt =>
      have hcells_ne : cells ≠ [] := by
        rintro rfl
        have hzero := hcells.length_eq
        simp only [Sized] at hpos
        simp only [List.length_nil] at hzero
        omega
      refine flatMap_ne_nil hcells_ne fun cell hcell => ?_
      obtain ⟨item, hitem, content, rfl, hcontent⟩ := exists_content_of_mem hcells hnone hcell
      refine vectorElement_ne_nil hR fun hsome => ?_
      refine ih helt (hfull.of_part fun _ _ => .vector hwrapper hitem)
        (hkept.of_part fun _ _ => .vector hwrapper hitem) hcontent ?_
      rintro native rfl
      by_contra hempty
      have hsize := hR.typeSize_canBeEmpty native (by simpa using hempty)
      simp [hsize] at hsome
  | userDefinedType frozen keyspace name fieldTypes =>
    obtain ⟨items, _, hfields, _⟩ := serializeArbitraryValue_udt_iff.mp h
    obtain ⟨contents, hcontents, rfl⟩ := serializeUdtFields_eq_ok_iff.mp hfields
    cases hsized with
    | userDefinedType hne _ =>
      refine flatMap_ne_nil ?_ fun content _ => writeCell_ne_nil _
      rintro rfl
      exact hne (List.length_eq_zero_iff.mp hcontents.length_eq)
  | tuple elts =>
    obtain ⟨items, rfl, _, helements, _⟩ := serializeArbitraryValue_tuple_iff.mp h
    obtain ⟨contents, hcontents, rfl⟩ := serializeTupleElements_eq_ok_iff.mp helements
    have hcount := hfull elts items (.refl _ _)
    cases hsized with
    | tuple hne _ =>
      refine flatMap_ne_nil ?_ fun content _ => writeCell_ne_nil _
      rintro rfl
      have hzero := hcontents.length_eq
      simp only [List.length_zip, hcount, min_self, List.length_nil] at hzero
      exact hne (List.length_eq_zero_iff.mp hzero)

theorem Part.everywhere {p : ColumnType → Prop} {typ typ' : ColumnType} {value value' : PyVal P}
    (h : Part R typ value typ' value') (hp : typ.Everywhere p) : typ'.Everywhere p := by
  induction h with
  | refl => exact hp
  | list _ _ _ ih =>
    cases hp with
    | list _ helt => exact ih helt
  | set _ _ _ ih =>
    cases hp with
    | set _ helt => exact ih helt
  | mapKey _ _ _ ih =>
    cases hp with
    | map _ hkey _ => exact ih hkey
  | mapValue _ _ _ ih =>
    cases hp with
    | map _ _ hval => exact ih hval
  | vector _ _ _ ih =>
    cases hp with
    | vector _ helt => exact ih helt
  | userDefinedType _ hfield _ _ ih =>
    cases hp with
    | userDefinedType _ hfields => exact ih (hfields _ hfield)
  | tuple _ hpair _ ih =>
    cases hp with
    | tuple _ helts => exact ih (helts _ (List.of_mem_zip hpair).1)

/-- A value is written only if all its parts are. -/
theorem Part.serialize {typ typ' : ColumnType} {value value' : PyVal P} {cell : Cell}
    (h : Part R typ value typ' value') (hcell : serialize R typ value = .ok cell) :
    ∃ cell', serialize R typ' value' = .ok cell' := by
  have hcontent {typ value} {cell : Cell} (hvalue : value ≠ .none)
      (hcell : ScyllaDriver.serialize R typ value = .ok cell) :
      ∃ content, serializeArbitraryValue R typ value = .ok content := by
    rcases orNull_eq_ok_iff.mp hcell with ⟨hnone, _⟩ | ⟨_, content, _, hcontent⟩
    · exact absurd hnone hvalue
    · exact ⟨content, hcontent⟩
  induction h generalizing cell with
  | refl => exact ⟨cell, hcell⟩
  | list hitems hitem _ ih =>
    obtain ⟨content, hcontent⟩ := hcontent (by rintro rfl; cases hitems) hcell
    obtain ⟨items, rfl, hsequence⟩ := serializeArbitraryValue_list_iff.mp hcontent
    obtain rfl := Except.ok.inj hitems
    obtain ⟨_, cells, hcells, _⟩ := serializeSequence_eq_ok_iff.mp hsequence
    obtain ⟨_, _, hcell⟩ := exists_of_mem_left hcells hitem
    exact ih hcell
  | set hitems hitem _ ih =>
    obtain ⟨content, hcontent⟩ := hcontent (by rintro rfl; cases hitems) hcell
    obtain ⟨items, rfl, hsequence⟩ := serializeArbitraryValue_set_iff.mp hcontent
    obtain rfl := Except.ok.inj hitems
    obtain ⟨_, cells, hcells, _⟩ := serializeSequence_eq_ok_iff.mp hsequence
    obtain ⟨_, _, hcell⟩ := exists_of_mem_left hcells hitem
    exact ih hcell
  | mapKey hitems hpair _ ih =>
    obtain ⟨content, hcontent⟩ := hcontent (by rintro rfl; cases hitems) hcell
    obtain ⟨items, hvalue, hmap⟩ := serializeArbitraryValue_map_iff.mp hcontent
    obtain rfl := Except.ok.inj (hitems.symm.trans (pyMapWrapper_eq_ok_iff.mpr hvalue))
    obtain ⟨_, cells, hcells, _⟩ := serializeMap_eq_ok_iff.mp hmap
    obtain ⟨_, _, hcell, _⟩ := exists_of_mem_left hcells hpair
    exact ih hcell
  | mapValue hitems hpair _ ih =>
    obtain ⟨content, hcontent⟩ := hcontent (by rintro rfl; cases hitems) hcell
    obtain ⟨items, hvalue, hmap⟩ := serializeArbitraryValue_map_iff.mp hcontent
    obtain rfl := Except.ok.inj (hitems.symm.trans (pyMapWrapper_eq_ok_iff.mpr hvalue))
    obtain ⟨_, cells, hcells, _⟩ := serializeMap_eq_ok_iff.mp hmap
    obtain ⟨_, _, _, hcell⟩ := exists_of_mem_left hcells hpair
    exact ih hcell
  | vector hitems hitem _ ih =>
    obtain ⟨content, hcontent⟩ := hcontent (by rintro rfl; cases hitems) hcell
    obtain ⟨items, hvalue, hvector⟩ := serializeArbitraryValue_vector_iff.mp hcontent
    obtain rfl := Except.ok.inj (hitems.symm.trans (pyVectorWrapper_eq_ok_iff.mpr hvalue))
    obtain ⟨_, contents, hcontents, _⟩ := serializeVector_eq_ok_iff.mp hvector
    obtain ⟨_, _, hcell⟩ := exists_of_mem_left hcontents hitem
    exact ih hcell
  | userDefinedType hitems hfield hitem _ ih =>
    obtain ⟨content, hcontent⟩ := hcontent (by rintro rfl; cases hitems) hcell
    obtain ⟨items, rfl, hfields, _⟩ := serializeArbitraryValue_udt_iff.mp hcontent
    obtain rfl := Except.ok.inj hitems
    obtain ⟨contents, hcontents, _⟩ := serializeUdtFields_eq_ok_iff.mp hfields
    obtain ⟨_, _, item, hitem', hcontent⟩ := exists_of_mem_left hcontents hfield
    obtain rfl := Option.some.inj (hitem.symm.trans hitem')
    exact ih (serialize_eq_some_iff.mpr hcontent)
  | tuple hitems hpair _ ih =>
    obtain ⟨content, hcontent⟩ := hcontent (by rintro rfl; cases hitems) hcell
    obtain ⟨items, rfl, _, helements, _⟩ := serializeArbitraryValue_tuple_iff.mp hcontent
    obtain rfl := Except.ok.inj hitems
    obtain ⟨contents, hcontents, _⟩ := serializeTupleElements_eq_ok_iff.mp helements
    obtain ⟨_, _, hcontent⟩ := exists_of_mem_left hcontents hpair
    exact ih (serialize_eq_some_iff.mpr hcontent)

end ScyllaDriver
