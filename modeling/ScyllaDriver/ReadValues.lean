import ScyllaDriver.RoundTrip

/-! The values that reading a cell can give, and that each of them is its own canonical
value. A set is the same whatever the order of its hash table. -/

namespace ScyllaDriver

open Framing

variable {P : Interop} (R : Runtime P)

/-- `inner` is the value itself or anywhere in it. -/
inductive Holds (inner : PyVal P) : PyVal P → Prop
  | self : Holds inner inner
  | list {items item} (hitem : item ∈ items) (h : Holds inner item) : Holds inner (.list items)
  | tuple {items item} (hitem : item ∈ items) (h : Holds inner item) : Holds inner (.tuple items)
  | set {items item} (hitem : item ∈ items) (h : Holds inner item) : Holds inner (.set items)
  | key {value items pair} (hitems : pyMapWrapper value = .ok items) (hpair : pair ∈ items)
    (h : Holds inner pair.1) : Holds inner value
  | value {value items pair} (hitems : pyMapWrapper value = .ok items) (hpair : pair ∈ items)
    (h : Holds inner pair.2) : Holds inner value

/-- Equal as Python values. -/
inductive Same : PyVal P → PyVal P → Prop
  | none : Same .none .none
  | cqlEmpty : Same .cqlEmpty .cqlEmpty
  | scalar (value : Scalar P) : Same (.scalar value) (.scalar value)
  | list {items items'} (h : List.Forall₂ Same items items') : Same (.list items) (.list items')
  | tuple {items items'} (h : List.Forall₂ Same items items') : Same (.tuple items) (.tuple items')
  | set {items items'} (h : items.Perm items') : Same (.set items) (.set items')
  | dict {items items'} (hkeys : items.map Prod.fst = items'.map Prod.fst)
    (hvalues : List.Forall₂ Same (items.map Prod.snd) (items'.map Prod.snd)) :
    Same (.dict items) (.dict items')

/-- What a cell of the type can be read as, `CqlEmpty` apart. -/
inductive ReadValue : ColumnType → PyVal P → Prop
  | nullNative {typ} : ReadValue (.native typ) .none
  | native {typ content object} (h : deserNative R typ content = .ok object) :
    ReadValue (.native typ) (.scalar object)
  | list {frozen elt items} (helts : ∀ item ∈ items, ReadValue elt item) :
    ReadValue (.list frozen elt) (.list items)
  | set {frozen elt items} (helts : ∀ item ∈ items, ReadValue elt item)
    (hhash : ∀ item ∈ items, item.hashable = true) (hdistinct : Distinct R items) :
    ReadValue (.set frozen elt) (.set items)
  | map {frozen key val items} (hkeys : ∀ pair ∈ items, ReadValue key pair.1)
    (hvals : ∀ pair ∈ items, ReadValue val pair.2)
    (hhash : ∀ pair ∈ items, pair.1.hashable = true) (hdistinct : Distinct R (items.map Prod.fst)) :
    ReadValue (.map frozen key val) (.dict items)
  | nullVector {elt dimensions} : ReadValue (.vector elt dimensions) .none
  | vector {elt dimensions items} (hlength : items.length = dimensions)
    (helts : ∀ item ∈ items, ReadValue elt item) :
    ReadValue (.vector elt dimensions) (.list items)
  | nullUdt {frozen keyspace name fieldTypes} :
    ReadValue (.userDefinedType frozen keyspace name fieldTypes) .none
  | userDefinedType {frozen keyspace name fieldTypes values}
    (hlength : values.length = fieldTypes.length)
    (hfields : ∀ pair ∈ fieldTypes.zip values, ReadValue pair.1.2 pair.2) :
    ReadValue (.userDefinedType frozen keyspace name fieldTypes) (.dict (fieldPairs fieldTypes values))
  | nullTuple {elts} : ReadValue (.tuple elts) .none
  | tuple {elts items} (hlength : items.length = elts.length)
    (helts : ∀ pair ∈ elts.zip items, ReadValue pair.1 pair.2) :
    ReadValue (.tuple elts) (.tuple items)

/-- The types CQL allows: besides `Sized`, the fields of a UDT have different names. -/
def Legal : ColumnType → Prop
  | .vector _ dimensions => 0 < dimensions
  | .userDefinedType _ _ _ fieldTypes => fieldTypes ≠ [] ∧ (fieldTypes.map Prod.fst).Nodup
  | .tuple elts => elts ≠ []
  | _ => True

variable {R}

theorem ColumnType.Everywhere.imp {p q : ColumnType → Prop} {typ : ColumnType}
    (h : typ.Everywhere p) (himp : ∀ typ, p typ → q typ) : typ.Everywhere q := by
  induction h with
  | native here => exact .native (himp _ here)
  | list here _ ih => exact .list (himp _ here) ih
  | set here _ ih => exact .set (himp _ here) ih
  | map here _ _ ihkey ihval => exact .map (himp _ here) ihkey ihval
  | vector here _ ih => exact .vector (himp _ here) ih
  | userDefinedType here _ ih => exact .userDefinedType (himp _ here) ih
  | tuple here _ ih => exact .tuple (himp _ here) ih

theorem sized_of_legal {typ : ColumnType} (h : Legal typ) : Sized typ := by
  cases typ with
  | userDefinedType _ _ _ _ => exact h.1
  | _ => exact h

theorem pyDictGet_fieldPairs (hR : R.Lawful) {fieldTypes : List (String × ColumnType)}
    {values : List (PyVal P)} (hnames : (fieldTypes.map Prod.fst).Nodup)
    {field : String × ColumnType} {value : PyVal P} (h : (field, value) ∈ fieldTypes.zip values) :
    pyDictGet R (fieldPairs fieldTypes values) (.scalar (.str field.1)) = some value := by
  induction fieldTypes generalizing values with
  | nil => simp at h
  | cons other fieldTypes ih =>
    cases values with
    | nil => simp at h
    | cons value' values =>
      simp only [List.map_cons, List.nodup_cons] at hnames
      rw [List.zip_cons_cons, List.mem_cons] at h
      rcases h with heq | h
      · cases heq
        simp [pyDictGet, fieldPairs, PyVal.pyEq, hR.eq_str]
      · have hne : other.1 ≠ field.1 := by
          intro heq
          exact hnames.1 (heq ▸ List.mem_map_of_mem (List.of_mem_zip h).1)
        have hrest := ih hnames.2 h
        simpa [pyDictGet, fieldPairs, PyVal.pyEq, hR.eq_str, hne] using hrest

theorem distinct_fieldPairs (hR : R.Lawful) {fieldTypes : List (String × ColumnType)}
    {values : List (PyVal P)} (hnames : (fieldTypes.map Prod.fst).Nodup) :
    Distinct R ((fieldPairs fieldTypes values).map Prod.fst) := by
  induction fieldTypes generalizing values with
  | nil => simp [fieldPairs, Distinct]
  | cons field fieldTypes ih =>
    cases values with
    | nil => simp [fieldPairs, Distinct]
    | cons value values =>
      simp only [List.map_cons, List.nodup_cons] at hnames
      refine List.pairwise_cons.mpr ⟨?_, ih hnames.2⟩
      intro key hkey
      obtain ⟨pair, hpair, rfl⟩ := List.mem_map.mp hkey
      obtain ⟨source, hsource, rfl⟩ := List.mem_map.mp hpair
      have hne : field.1 ≠ source.1.1 := by
        intro heq
        exact hnames.1 (heq ▸ List.mem_map_of_mem (List.of_mem_zip hsource).1)
      simpa [PyVal.pyEq, hR.eq_str] using hne

theorem ReadValue.part (hR : R.Lawful) {typ typ' : ColumnType} {value value' : PyVal P}
    (hlegal : typ.Everywhere Legal) (h : ReadValue R typ value) (hpart : Part R typ value typ' value') :
    ReadValue R typ' value' := by
  induction hpart with
  | refl => exact h
  | list hitems hitem _ ih =>
    cases h with
    | list helts =>
      cases hitems
      cases hlegal with
      | list _ helt => exact ih helt (helts _ hitem)
  | set hitems hitem _ ih =>
    cases h with
    | set helts _ _ =>
      cases hitems
      cases hlegal with
      | set _ helt => exact ih helt (helts _ hitem)
  | mapKey hitems hpair _ ih =>
    cases h with
    | map hkeys _ _ _ =>
      cases hitems
      cases hlegal with
      | map _ hkey _ => exact ih hkey (hkeys _ hpair)
  | mapValue hitems hpair _ ih =>
    cases h with
    | map _ hvals _ _ =>
      cases hitems
      cases hlegal with
      | map _ _ hval => exact ih hval (hvals _ hpair)
  | vector hitems hitem _ ih =>
    cases h with
    | nullVector => cases hitems
    | vector _ helts =>
      cases hitems
      cases hlegal with
      | vector _ helt => exact ih helt (helts _ hitem)
  | userDefinedType hitems hfield hitem _ ih =>
    cases h with
    | nullUdt => cases hitems
    | userDefinedType hlength hfields =>
      cases hitems
      cases hlegal with
      | userDefinedType hnames helts =>
        obtain ⟨value, hvalue⟩ : ∃ value, (_, value) ∈ List.zip _ _ :=
          exists_mem_zip_of_mem hlength.symm hfield
        have hget := pyDictGet_fieldPairs hR hnames.2 hvalue
        obtain rfl := Option.some.inj (hget.symm.trans hitem)
        exact ih (helts _ hfield) (hfields _ hvalue)
  | tuple hitems hpair _ ih =>
    cases h with
    | nullTuple => cases hitems
    | tuple _ helts =>
      cases hitems
      cases hlegal with
      | tuple _ hlegals => exact ih (hlegals _ (List.of_mem_zip hpair).1) (helts _ hpair)

theorem orEmpty_cases {null value : PyVal P} {read : Bytes → DeserResult (PyVal P)} {cell : Cell}
    (h : orEmpty null read cell = .ok value) (hempty : ¬ Holds .cqlEmpty value) :
    (cell = none ∧ value = null) ∨ ∃ content, cell = some content ∧ read content = .ok value := by
  rcases orEmpty_eq_ok_iff.mp h with hnull | ⟨_, rfl⟩ | ⟨content, _, hcell, hread⟩
  · exact .inl hnull
  · exact absurd .self hempty
  · exact .inr ⟨content, hcell, hread⟩

theorem readValue_native {typ : NativeType} {cell : Cell} {value : PyVal P} {C : Containers P}
    (h : deserCqlPyValue R C (.native typ) cell = .ok value) (hempty : ¬ Holds .cqlEmpty value) :
    ReadValue R (.native typ) value := by
  have hcases : (cell = none ∧ value = .none) ∨
      ∃ content, cell = some content ∧ (deserNative R typ content).map .scalar = .ok value := by
    unfold deserCqlPyValue at h
    split at h
    · cases cell with
      | none => exact .inl ⟨rfl, (Except.ok.inj h).symm⟩
      | some content => exact .inr ⟨content, rfl, h⟩
    · exact orEmpty_cases h hempty
  rcases hcases with ⟨rfl, rfl⟩ | ⟨content, rfl, hread⟩
  · exact .nullNative
  · cases hobject : deserNative R typ content with
    | error err => simp [hobject, Except.map] at hread
    | ok object =>
      obtain rfl : PyVal.scalar object = value := by simpa [hobject, Except.map] using hread
      exact .native hobject

/-- The elements of a set that was read: some of those of the cell, hashable and different. -/
theorem foldlM_add_cases (hR : R.Lawful) {values items : List (PyVal P)}
    (h : values.foldlM (cpython R).add [] = .ok items) :
    (∀ item ∈ items, item ∈ values ∧ item.hashable = true) ∧ Distinct R items := by
  obtain ⟨hhash, rfl⟩ := foldlM_pySetAdd.mp h
  have hnil : Distinct R [] := List.Pairwise.nil
  obtain ⟨hdistinct, hmem⟩ := @foldl_pySetInsert P R hR values [] hnil
  refine ⟨fun item hitem => ?_, hdistinct⟩
  have hin := (hmem item hitem).resolve_left (by simp)
  exact ⟨hin, hhash item hin⟩

theorem foldlM_setItem_cases {pairs items : List (PyVal P × PyVal P)}
    (h : pairs.foldlM (cpython R).setItem [] = .ok items) :
    (∀ item ∈ items, (∃ pair ∈ pairs, pair.1 = item.1) ∧ (∃ pair ∈ pairs, pair.2 = item.2) ∧
      item.1.hashable = true) ∧ Distinct R (items.map Prod.fst) := by
  obtain ⟨hhash, rfl⟩ := foldlM_pyDictSetItem.mp h
  have hnil : Distinct R (([] : List (PyVal P × PyVal P)).map Prod.fst) := List.Pairwise.nil
  obtain ⟨hdistinct, hkeys, hvalues⟩ := @foldl_pyDictAssign P R pairs [] hnil
  refine ⟨fun item hitem => ?_, hdistinct⟩
  have hkey := (hkeys _ (List.mem_map_of_mem hitem)).resolve_left (by simp)
  have hvalue := (hvalues _ (List.mem_map_of_mem hitem)).resolve_left (by simp)
  obtain ⟨pair, hpair, heq⟩ := List.mem_map.mp hkey
  exact ⟨⟨pair, hpair, heq⟩, List.mem_map.mp hvalue, heq ▸ hhash pair hpair⟩

/-- By induction over the type; `CqlEmpty` is kept out at every level. -/
theorem readValue_of_deser (hR : R.Lawful) {typ : ColumnType} {cell : Cell} {value : PyVal P}
    (hlegal : typ.Everywhere Legal) (h : deserCqlPyValue R (cpython R) typ cell = .ok value)
    (hempty : ¬ Holds .cqlEmpty value) :
    ReadValue R typ value := by
  induction typ generalizing cell value with
  | native typ => exact readValue_native h hempty
  | list frozen elt ih =>
    cases hlegal with
    | list _ helt =>
    rcases orEmpty_cases h hempty with ⟨rfl, rfl⟩ | ⟨content, rfl, hread⟩
    · exact .list (by simp)
    · obtain ⟨items, hitems, hvalue⟩ := bind_eq_ok_iff.mp hread
      obtain rfl := Except.ok.inj hvalue
      obtain ⟨_, cells, _, _, values, hvalues, hfold⟩ := deserializeSequence_eq_ok_iff.mp hitems
      obtain rfl : items = values := by simpa using foldlM_listAppend.mp hfold
      refine .list fun item hitem => ?_
      obtain ⟨cell, _, hcell⟩ := exists_of_mem_right hvalues hitem
      exact ih helt hcell fun hin => hempty (.list hitem hin)
  | set frozen elt ih =>
    cases hlegal with
    | set _ helt =>
    rcases orEmpty_cases h hempty with ⟨rfl, rfl⟩ | ⟨content, rfl, hread⟩
    · exact .set (by simp) (by simp) .nil
    · obtain ⟨items, hitems, hvalue⟩ := bind_eq_ok_iff.mp hread
      obtain rfl := Except.ok.inj hvalue
      obtain ⟨_, cells, _, _, values, hvalues, hfold⟩ := deserializeSequence_eq_ok_iff.mp hitems
      obtain ⟨hmem, hdistinct⟩ := foldlM_add_cases hR hfold
      refine .set (fun item hitem => ?_) (fun item hitem => (hmem item hitem).2) hdistinct
      obtain ⟨cell, _, hcell⟩ := exists_of_mem_right hvalues (hmem item hitem).1
      exact ih helt hcell fun hin => hempty (.set hitem hin)
  | map frozen key val ihkey ihval =>
    cases hlegal with
    | map _ hkey hval =>
    rcases orEmpty_cases h hempty with ⟨rfl, rfl⟩ | ⟨content, rfl, hread⟩
    · exact .map (by simp) (by simp) (by simp) .nil
    · obtain ⟨items, hitems, hvalue⟩ := bind_eq_ok_iff.mp hread
      obtain rfl := Except.ok.inj hvalue
      obtain ⟨_, cells, _, _, pairs, hpairs, hfold⟩ := deserializeMap_eq_ok_iff.mp hitems
      obtain ⟨hmem, hdistinct⟩ := foldlM_setItem_cases hfold
      refine .map (fun pair hpair => ?_) (fun pair hpair => ?_)
        (fun pair hpair => (hmem pair hpair).2.2) hdistinct
      · obtain ⟨source, hsource, heq⟩ := (hmem pair hpair).1
        obtain ⟨cell, _, hcell, _⟩ := exists_of_mem_right hpairs hsource
        rw [heq] at hcell
        exact ihkey hkey hcell fun hin => hempty (.key rfl hpair hin)
      · obtain ⟨source, hsource, heq⟩ := (hmem pair hpair).2.1
        obtain ⟨cell, _, _, hcell⟩ := exists_of_mem_right hpairs hsource
        rw [heq] at hcell
        exact ihval hval hcell fun hin => hempty (.value rfl hpair hin)
  | vector elt dimensions ih =>
    cases hlegal with
    | vector _ helt =>
    rcases orEmpty_cases h hempty with ⟨rfl, rfl⟩ | ⟨content, rfl, hread⟩
    · exact .nullVector
    · obtain ⟨items, hitems, hvalue⟩ := bind_eq_ok_iff.mp hread
      obtain rfl := Except.ok.inj hvalue
      obtain ⟨raws, hcount, _, values, hvalues, hfold⟩ := deserializeItems_eq_ok_iff.mp hitems
      obtain rfl : items = values := by simpa using foldlM_listAppend.mp hfold
      refine .vector (hvalues.length_eq.symm.trans hcount) fun item hitem => ?_
      obtain ⟨raw, _, hraw⟩ := exists_of_mem_right hvalues hitem
      exact ih helt hraw fun hin => hempty (.list hitem hin)
  | userDefinedType frozen keyspace name fieldTypes ih =>
    cases hlegal with
    | userDefinedType hnames helts =>
    rcases orEmpty_cases h hempty with ⟨rfl, rfl⟩ | ⟨content, rfl, hread⟩
    · exact .nullUdt
    · obtain ⟨items, hitems, hvalue⟩ := bind_eq_ok_iff.mp hread
      obtain rfl := Except.ok.inj hvalue
      obtain ⟨cells, hlength, _, values, hvalues, hfold⟩ := deserUdtFields_eq_ok_iff.mp hitems
      obtain rfl : items = fieldPairs fieldTypes values :=
        (foldlM_pyDictSetItem.mp hfold).2.trans (pyDict_eq_self (distinct_fieldPairs hR hnames.2))
      have hlengths : values.length = fieldTypes.length := by
        have hzip := hvalues.length_eq
        simp only [List.length_zip] at hzip
        omega
      refine .userDefinedType hlengths fun pair hpair => ?_
      have hcell := (forall₂_zip_left hlength.symm hvalues) pair hpair
      obtain ⟨cell, hcell⟩ := hcell
      have hfield := (List.of_mem_zip hpair).1
      refine ih pair.1 hfield (helts _ hfield) hcell fun hin => hempty ?_
      exact .value rfl (List.mem_map_of_mem hpair) hin
  | tuple elts ih =>
    cases hlegal with
    | tuple _ helts =>
    rcases orEmpty_cases h hempty with ⟨rfl, rfl⟩ | ⟨content, rfl, hread⟩
    · exact .nullTuple
    · obtain ⟨items, hitems, hvalue⟩ := bind_eq_ok_iff.mp hread
      obtain rfl := Except.ok.inj hvalue
      obtain ⟨cells, hlength, _, hvalues⟩ :=
        deserTupleElements_eq_ok_iff.mp (mapError_eq_ok_iff.mp hitems)
      have hlengths : items.length = elts.length := by
        have hzip := hvalues.length_eq
        simp only [List.length_zip] at hzip
        omega
      refine .tuple hlengths fun pair hpair => ?_
      obtain ⟨cell, hcell⟩ := (forall₂_zip_left hlength.symm hvalues) pair hpair
      have helt := (List.of_mem_zip hpair).1
      exact ih pair.1 helt (helts _ helt) hcell fun hin =>
        hempty (.tuple (List.of_mem_zip hpair).2 hin)

theorem canonNative_of_deserNative (hR : R.Lawful) {typ : NativeType} {content : Bytes}
    {object : Scalar P} (h : deserNative R typ content = .ok object) :
    canonNative R typ object = object := by
  obtain ⟨rustValue, _, hextract, hpython, _⟩ := extractScalar_deserNative hR h
  simp [canonNative, hextract, hpython]

theorem canonElements_eq_self {elts : List ColumnType} {items : List (PyVal P)}
    (hlength : items.length = elts.length)
    (h : ∀ pair ∈ elts.zip items, canon R pair.1 pair.2 = pair.2) :
    canonElements R elts items = items := by
  rw [canonElements_eq, List.map_congr_left h]
  exact List.map_snd_zip (by omega)

theorem canonFields_eq {items : List (PyVal P × PyVal P)} {fieldTypes : List (String × ColumnType)}
    {values : List (PyVal P)} (hlength : values.length = fieldTypes.length)
    (h : ∀ pair ∈ fieldTypes.zip values,
      pyDictGet R items (.scalar (.str pair.1.1)) = some pair.2) :
    canonFields R items fieldTypes = (fieldTypes.zip values).map
      (fun pair => (.scalar (.str pair.1.1), canon R pair.1.2 pair.2)) := by
  induction fieldTypes generalizing values with
  | nil => simp [canonFields]
  | cons field fieldTypes ih =>
    cases values with
    | nil => simp at hlength
    | cons value values =>
      rw [List.zip_cons_cons, List.forall_mem_cons] at h
      simp only [canonFields, h.1, List.zip_cons_cons, List.map_cons]
      rw [ih (by simpa using hlength) h.2]

/-- What was read as an element of a set or a key of a dict is canonical as it is. -/
theorem canon_of_hashable (hR : R.Lawful) {typ : ColumnType} {value : PyVal P}
    (h : ReadValue R typ value) (hhash : value.hashable = true) : canon R typ value = value := by
  induction h with
  | native h => simp [canon, canonNative_of_deserNative hR h]
  | nullNative | nullVector | nullUdt | nullTuple => simp [canon]
  | tuple hlength _ ih =>
    rw [PyVal.hashable_tuple] at hhash
    simp only [canon]
    rw [canonElements_eq_self hlength fun pair hpair =>
      ih pair hpair (hhash _ (List.of_mem_zip hpair).2)]
  | list _ | set _ _ _ | map _ _ _ _ | vector _ _ | userDefinedType _ _ => cases hhash

theorem map_canon_eq_self (hR : R.Lawful) {elt : ColumnType} {items : List (PyVal P)}
    (helts : ∀ item ∈ items, ReadValue R elt item)
    (hhash : ∀ item ∈ items, item.hashable = true) : items.map (canon R elt) = items := by
  rw [List.map_congr_left fun item hitem => canon_of_hashable hR (helts item hitem) (hhash item hitem)]
  exact List.map_id' items

theorem forall₂_map_left_self {items : List (PyVal P)} {f : PyVal P → PyVal P}
    (h : ∀ item ∈ items, Same (f item) item) : List.Forall₂ Same (items.map f) items := by
  rw [List.forall₂_map_left_iff, List.forall₂_same]
  exact h

theorem canon_same (hR : R.Lawful) {typ : ColumnType} {value : PyVal P}
    (hlegal : typ.Everywhere Legal) (h : ReadValue R typ value) : Same (canon R typ value) value := by
  induction h with
  | nullNative | nullVector | nullUdt | nullTuple =>
    simp only [canon]
    exact .none
  | native h =>
    simp only [canon, canonNative_of_deserNative hR h]
    exact .scalar _
  | list _ ih =>
    cases hlegal with
    | list _ helt =>
      simp only [canon]
      exact .list (forall₂_map_left_self fun item hitem => ih item hitem helt)
  | set helts hhash hdistinct _ =>
    simp only [canon]
    rw [map_canon_eq_self hR helts hhash]
    exact .set (pySet_perm hR hdistinct)
  | @map frozen key val items hkeys hvals hhash hdistinct _ ih =>
    cases hlegal with
    | map _ _ hval =>
      have hfst : (items.map (fun pair => (canon R key pair.1, canon R val pair.2))).map Prod.fst =
          items.map Prod.fst := by
        rw [List.map_map]
        exact List.map_congr_left fun pair hpair =>
          canon_of_hashable hR (hkeys pair hpair) (hhash pair hpair)
      simp only [canon]
      rw [pyDict_eq_self (hfst ▸ hdistinct)]
      refine .dict hfst ?_
      rw [List.map_map, List.forall₂_map_left_iff, List.forall₂_map_right_iff, List.forall₂_same]
      exact fun pair hpair => ih pair hpair hval
  | vector _ _ ih =>
    cases hlegal with
    | vector _ helt =>
      simp only [canon]
      exact .list (forall₂_map_left_self fun item hitem => ih item hitem helt)
  | @userDefinedType frozen keyspace name fieldTypes values hlength _ ih =>
    cases hlegal with
    | userDefinedType hnames helts =>
      have hfields := canonFields_eq hlength fun pair hpair =>
        pyDictGet_fieldPairs hR hnames.2 hpair
      have hfst : (canonFields R (fieldPairs fieldTypes values) fieldTypes).map Prod.fst =
          (fieldPairs fieldTypes values).map Prod.fst := by
        rw [hfields, fieldPairs, List.map_map, List.map_map]
        rfl
      simp only [canon]
      rw [pyDict_eq_self (hfst ▸ distinct_fieldPairs hR hnames.2)]
      refine .dict hfst ?_
      rw [hfields, fieldPairs, List.map_map, List.map_map, List.forall₂_map_left_iff,
        List.forall₂_map_right_iff, List.forall₂_same]
      exact fun pair hpair => ih pair hpair (helts _ (List.of_mem_zip hpair).1)
  | @tuple elts items hlength _ ih =>
    cases hlegal with
    | tuple _ helts =>
      simp only [canon, canonElements_eq]
      refine .tuple ?_
      have hsnd : (elts.zip items).map Prod.snd = items := List.map_snd_zip (by omega)
      nth_rewrite 2 [← hsnd]
      rw [List.forall₂_map_left_iff, List.forall₂_map_right_iff, List.forall₂_same]
      exact fun pair hpair => ih pair hpair (helts _ (List.of_mem_zip hpair).1)

theorem fullTuples_of_readValue (hR : R.Lawful) {typ : ColumnType} {value : PyVal P}
    (hlegal : typ.Everywhere Legal) (h : ReadValue R typ value) : FullTuples R typ value := by
  intro elts items hpart
  cases h.part hR hlegal hpart with
  | tuple hlength _ => exact hlength

theorem hashableKeys_of_readValue (hR : R.Lawful) {typ : ColumnType} {value : PyVal P}
    (hlegal : typ.Everywhere Legal) (h : ReadValue R typ value) : HashableKeys R typ value := by
  constructor
  · intro frozen elt items hpart item hitem
    cases h.part hR hlegal hpart with
    | set helts hhash _ =>
      rw [canon_of_hashable hR (helts item hitem) (hhash item hitem)]
      exact hhash item hitem
  · intro frozen key val object items hpart hitems pair hpair
    cases h.part hR hlegal hpart with
    | map hkeys _ hhash _ =>
      cases hitems
      rw [canon_of_hashable hR (hkeys pair hpair) (hhash pair hpair)]
      exact hhash pair hpair

end ScyllaDriver
