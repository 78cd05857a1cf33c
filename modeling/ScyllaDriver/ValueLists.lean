import Mathlib.Data.List.Dedup
import Mathlib.Data.List.Perm.Subperm
import ScyllaDriver.ReadValues

/-! The values of one statement as a row of cells. A `PyValueList` only refers to the
Python container; what the container holds is looked up when the row is written. -/

namespace ScyllaDriver

open Framing

/-- The kinds of `BuiltinTypeCheckError` that are raised for a row. -/
inductive RowTypeCheckKind where
  | wrongColumnCount (rustCols cqlCols : Nat)
  | valueMissingForColumn (name : String)
  deriving DecidableEq, Repr

inductive RowError where
  | typeCheck (rustName : String) (kind : RowTypeCheckKind)
  | driver (kind : SerializationErrorKind) (location : Option ParameterReference)

abbrev RowResult (α : Type) := Except RowError α

abbrev SerializedRow := List Cell

inductive PyValueList (Obj : Type) where
  | sequence (object : Obj)
  | mapping (object : Obj)
  | empty

variable {P : Interop} (R : Runtime P) {Obj : Type}

/-- What an object that is passed as the values answers. A list or a tuple has its own size
besides `len()`, which a subclass may define; an iterator may raise at every item. -/
inductive RowObject (P : Interop) where
  | none
  | sequence (size : Nat) (len : Except PyErr Nat)
    (iter : Except PyErr (List (Except PyErr (PyVal P))))
  | mapping (len : Except PyErr Nat) (getItem : String → Except PyErr (PyVal P))
  | other (typeName : Except PyErr String)

/-- The class of the object and whether it is empty decide how its values are passed. A mapping
whose `len()` raises is not taken for an empty one. -/
def PyValueList.extract (object : Obj) : RowObject P → Except PyErr (PyValueList Obj)
  | .none => .ok .empty
  | .sequence size _ _ => .ok (if size = 0 then .empty else .sequence object)
  | .mapping len _ => .ok (match len with
    | .ok 0 => .empty
    | _ => .mapping object)
  | .other typeName => do
    let pythonTypeName ← typeName
    .error ⟨.typeError, "Invalid row type: got " ++ pythonTypeName ++
      ", expected Python tuple, list or Mapping (e.g. dict)", 0⟩

def interopFailed (err : PyErr) : RowError := .driver (.pythonInteropFailed err) none

def lengthEqualityCheck (rustName : String) (valListLen colsLen : Nat) : RowResult Unit :=
  if valListLen ≠ colsLen then
    .error (.typeCheck rustName (.wrongColumnCount valListLen colsLen))
  else .ok ()

def sequenceName : String := "pyo3::types::sequence::PySequence"

def mappingName : String := "pyo3::types::mapping::PyMapping"

def serializeElement (location : ParameterReference) (column : ColumnSpec) (value : PyVal P) :
    RowResult Cell :=
  (serialize R column.typ value).mapError
    (fun err => .driver (.scyllaSerializeFailed err) (some location))

/-- The columns with what the iterator gives, until either side ends. -/
def serializeColumns :
    Nat → List ColumnSpec → List (Except PyErr (PyVal P)) → RowResult SerializedRow
  | _, [], _ => .ok []
  | _, _ :: _, [] => .ok []
  | index, column :: columns, value :: values => do
    let value ← value.mapError interopFailed
    let cell ← serializeElement R (.index index) column value
    let row ← serializeColumns (index + 1) columns values
    return cell :: row

def serializeRowSequence (columns : List ColumnSpec) (len : Except PyErr Nat)
    (iter : Except PyErr (List (Except PyErr (PyVal P)))) : RowResult SerializedRow := do
  let len ← len.mapError interopFailed
  lengthEqualityCheck sequenceName len columns.length
  let values ← iter.mapError interopFailed
  serializeColumns R 0 columns values

/-- Only a `KeyError` of `__getitem__` says that the column has no value. -/
def getItemFailed (column : ColumnSpec) (err : PyErr) : RowError :=
  if err.cls = .keyError then .typeCheck mappingName (.valueMissingForColumn column.name)
  else interopFailed err

def serializeNamedColumns (getItem : String → Except PyErr (PyVal P)) :
    List ColumnSpec → RowResult SerializedRow
  | [] => .ok []
  | column :: columns => do
    let value ← (getItem column.name).mapError (getItemFailed column)
    let cell ← serializeElement R (.name column.name) column value
    let row ← serializeNamedColumns getItem columns
    return cell :: row

def serializeRowMapping (columns : List ColumnSpec) (len : Except PyErr Nat)
    (getItem : String → Except PyErr (PyVal P)) : RowResult SerializedRow := do
  let len ← len.mapError interopFailed
  lengthEqualityCheck mappingName len columns.length
  serializeNamedColumns R getItem columns

def RowObject.len : RowObject P → Except PyErr Nat
  | .sequence _ len _ => len
  | .mapping len _ => len
  | _ => .ok 0

/-- An object that was extracted as a sequence stays one. -/
def RowObject.iter : RowObject P → Except PyErr (List (Except PyErr (PyVal P)))
  | .sequence _ _ iter => iter
  | _ => .ok []

def keyErr (name : String) : PyErr := ⟨.keyError, name, 0⟩

def RowObject.getItem : RowObject P → String → Except PyErr (PyVal P)
  | .mapping _ getItem => getItem
  | _ => fun name => .error (keyErr name)

/-- `contents` gives what an object answers at the moment. -/
def PyValueList.serialize (contents : Obj → RowObject P) (columns : List ColumnSpec) :
    PyValueList Obj → RowResult SerializedRow
  | .sequence object => serializeRowSequence R columns (contents object).len (contents object).iter
  | .mapping object => serializeRowMapping R columns (contents object).len (contents object).getItem
  | .empty =>
    if columns.isEmpty then .ok []
    else .error (.typeCheck "None or empty collection" (.wrongColumnCount 0 columns.length))

/-- The answers of the built-in containers. -/
def rowObject : PyVal P → RowObject P
  | .none => .none
  | .list items => .sequence items.length (.ok items.length) (.ok (items.map .ok))
  | .tuple items => .sequence items.length (.ok items.length) (.ok (items.map .ok))
  | .dict items => .mapping (.ok items.length) fun name =>
    (pyDictGet R items (.scalar (.str name))).elim (.error (keyErr name)) .ok
  | .mapping items => .mapping (.ok items.length) fun name =>
    (pyDictGet R items (.scalar (.str name))).elim (.error (keyErr name)) .ok
  | value => .other (.ok value.typeName)

/-- The row for a Python object that is passed as the values. -/
def serializeValues (columns : List ColumnSpec) (values : PyVal P) :
    Except PyErr (RowResult SerializedRow) :=
  (PyValueList.extract values (rowObject R values)).map
    (PyValueList.serialize R (rowObject R) columns)

/-- A dict with the given string keys. -/
def stringDict (entries : List (String × PyVal P)) : PyVal P :=
  .dict (entries.map (fun entry => (.scalar (.str entry.1), entry.2)))

/-- The value the dict has for every column, `None` where it has none. -/
def columnValues (columns : List ColumnSpec) (entries : List (String × PyVal P)) : List (PyVal P) :=
  columns.map (fun column => (entries.lookup column.name).getD .none)

variable {R}

theorem lengthEqualityCheck_eq_ok_iff {rustName : String} {valListLen colsLen : Nat} {u : Unit} :
    lengthEqualityCheck rustName valListLen colsLen = .ok u ↔ valListLen = colsLen := by
  by_cases h : valListLen = colsLen <;> simp [lengthEqualityCheck, h]

theorem serializeElement_eq_ok_iff {location : ParameterReference} {column : ColumnSpec}
    {value : PyVal P} {cell : Cell} :
    serializeElement R location column value = .ok cell ↔
      serialize R column.typ value = .ok cell :=
  mapError_eq_ok_iff

theorem serializeColumns_eq_ok_iff {index : Nat} {columns : List ColumnSpec}
    {values : List (PyVal P)} {row : SerializedRow} (hlength : values.length = columns.length) :
    serializeColumns R index columns (values.map .ok) = .ok row ↔
      List.Forall₂ (fun pair cell => serialize R pair.1.typ pair.2 = .ok cell)
        (columns.zip values) row := by
  induction columns generalizing index values row with
  | nil =>
    simp only [serializeColumns, List.zip_nil_left, List.forall₂_nil_left_iff, Except.ok.injEq]
    exact eq_comm
  | cons column columns ih =>
    cases values with
    | nil => simp at hlength
    | cons value values =>
      have hrest := @ih (index + 1) values
      simp only [List.map_cons, serializeColumns, bind_eq_ok_iff, mapError_eq_ok_iff,
        serializeElement_eq_ok_iff, List.zip_cons_cons, List.forall₂_cons_left_iff,
        hrest (by simpa using hlength), pure, Except.pure, Except.ok.injEq, exists_eq_left']
      constructor
      · rintro ⟨cell, hcell, row', hrow, rfl⟩
        exact ⟨cell, row', hcell, hrow, rfl⟩
      · rintro ⟨cell, row', hcell, hrow, rfl⟩
        exact ⟨cell, hcell, row', hrow, rfl⟩

theorem serializeRowSequence_eq_ok_iff {columns : List ColumnSpec} {values : List (PyVal P)}
    {row : SerializedRow} :
    serializeRowSequence R columns (.ok values.length) (.ok (values.map .ok)) = .ok row ↔
      values.length = columns.length ∧
      List.Forall₂ (fun pair cell => serialize R pair.1.typ pair.2 = .ok cell)
        (columns.zip values) row := by
  simp only [serializeRowSequence, bind_eq_ok_iff, mapError_eq_ok_iff, Except.ok.injEq,
    exists_eq_left', lengthEqualityCheck_eq_ok_iff]
  constructor
  · rintro ⟨_, hlength, hrow⟩
    exact ⟨hlength, (serializeColumns_eq_ok_iff hlength).mp hrow⟩
  · rintro ⟨hlength, hrow⟩
    exact ⟨(), hlength, (serializeColumns_eq_ok_iff hlength).mpr hrow⟩

theorem serializeNamedColumns_eq_ok_iff {getItem : String → Except PyErr (PyVal P)}
    {columns : List ColumnSpec} {row : SerializedRow} :
    serializeNamedColumns R getItem columns = .ok row ↔
      List.Forall₂ (fun column cell => ∃ value, getItem column.name = .ok value ∧
        serialize R column.typ value = .ok cell) columns row := by
  induction columns generalizing row with
  | nil =>
    simp only [serializeNamedColumns, List.forall₂_nil_left_iff, Except.ok.injEq]
    exact eq_comm
  | cons column columns ih =>
    simp only [serializeNamedColumns, List.forall₂_cons_left_iff, bind_eq_ok_iff,
      mapError_eq_ok_iff, serializeElement_eq_ok_iff, ih, pure, Except.pure, Except.ok.injEq]
    constructor
    · rintro ⟨value, hvalue, cell, hcell, row', hrow, rfl⟩
      exact ⟨cell, row', ⟨value, hvalue, hcell⟩, hrow, rfl⟩
    · rintro ⟨cell, row', ⟨value, hvalue, hcell⟩, hrow, rfl⟩
      exact ⟨value, hvalue, cell, hcell, row', hrow, rfl⟩

theorem elim_eq_ok_iff {found : Option (PyVal P)} {err : PyErr} {value : PyVal P} :
    found.elim (.error err) .ok = Except.ok value ↔ found = some value := by
  cases found <;> simp

theorem serializeRowMapping_eq_ok_iff {columns : List ColumnSpec}
    {items : List (PyVal P × PyVal P)} {row : SerializedRow} :
    serializeRowMapping R columns (.ok items.length) (rowObject R (.dict items)).getItem = .ok row ↔
      items.length = columns.length ∧
      List.Forall₂ (fun column cell => ∃ value,
        pyDictGet R items (.scalar (.str column.name)) = some value ∧
        serialize R column.typ value = .ok cell) columns row := by
  simp only [serializeRowMapping, bind_eq_ok_iff, mapError_eq_ok_iff, Except.ok.injEq,
    exists_eq_left', lengthEqualityCheck_eq_ok_iff, serializeNamedColumns_eq_ok_iff, rowObject,
    RowObject.getItem, elim_eq_ok_iff]
  constructor
  · rintro ⟨_, hlength, hrow⟩
    exact ⟨hlength, hrow⟩
  · rintro ⟨hlength, hrow⟩
    exact ⟨(), hlength, hrow⟩

theorem pyDictGet_entries (hR : R.Lawful) (entries : List (String × PyVal P)) (name : String) :
    pyDictGet R (entries.map (fun entry => (.scalar (.str entry.1), entry.2)))
      (.scalar (.str name)) = entries.lookup name := by
  induction entries with
  | nil => rfl
  | cons entry entries ih =>
    by_cases h : entry.1 = name
    · subst h
      rw [List.lookup_cons_self]
      simp [pyDictGet, PyVal.pyEq, hR.eq_str]
    · have hne : (name == entry.1) = false := by simpa using fun heq => h heq.symm
      rw [List.lookup_cons, hne, ← ih]
      simp [pyDictGet, PyVal.pyEq, hR.eq_str, h]

theorem lookup_eq_some_of_mem {entries : List (String × PyVal P)} {name : String}
    (h : name ∈ entries.map Prod.fst) : ∃ value, entries.lookup name = some value := by
  cases hlookup : entries.lookup name with
  | some value => exact ⟨value, rfl⟩
  | none =>
    obtain ⟨entry, hentry, rfl⟩ := List.mem_map.mp h
    have hnone := List.lookup_eq_none_iff.mp hlookup entry hentry
    simp at hnone

theorem mem_of_lookup_eq_some {entries : List (String × PyVal P)} {name : String} {value : PyVal P}
    (h : entries.lookup name = some value) : (name, value) ∈ entries := by
  obtain ⟨before, after, heq, _⟩ := List.lookup_eq_some_iff.mp h
  simp [heq]

/-- With as many keys as columns, and every column found, the row is that of the values in the
order of the columns. -/
theorem serializeValues_stringDict (hR : R.Lawful) (columns : List ColumnSpec)
    (entries : List (String × PyVal P)) (row : SerializedRow) :
    serializeValues R columns (stringDict entries) = .ok (.ok row) ↔
      entries.length = columns.length ∧
      List.Forall₂ (fun column cell => ∃ value, entries.lookup column.name = some value ∧
        serialize R column.typ value = .ok cell) columns row := by
  cases entries with
  | nil =>
    cases columns with
    | nil => simp [serializeValues, stringDict, rowObject, PyValueList.extract,
        PyValueList.serialize, Except.map, eq_comm]
    | cons column columns => simp [serializeValues, stringDict, rowObject, PyValueList.extract,
        PyValueList.serialize, Except.map]
  | cons entry entries =>
    have hmapping : serializeValues R columns (stringDict (entry :: entries)) =
        .ok (serializeRowMapping R columns
          (.ok ((entry :: entries).map fun entry => (PyVal.scalar (.str entry.1), entry.2)).length)
          (rowObject R (stringDict (entry :: entries))).getItem) := rfl
    rw [hmapping, Except.ok.injEq, stringDict, serializeRowMapping_eq_ok_iff]
    simp only [pyDictGet_entries hR, List.length_map]

theorem serializeValues_list (columns : List ColumnSpec) (values : List (PyVal P))
    (row : SerializedRow) :
    serializeValues R columns (.list values) = .ok (.ok row) ↔ values.length = columns.length ∧
      List.Forall₂ (fun pair cell => serialize R pair.1.typ pair.2 = .ok cell)
        (columns.zip values) row := by
  cases values with
  | nil =>
    cases columns with
    | nil => simp [serializeValues, rowObject, PyValueList.extract, PyValueList.serialize, Except.map,
        eq_comm]
    | cons column columns => simp [serializeValues, rowObject, PyValueList.extract,
        PyValueList.serialize, Except.map]
  | cons value values =>
    have hsequence : serializeValues R columns (.list (value :: values)) =
        .ok (serializeRowSequence R columns (.ok (value :: values).length)
          (.ok ((value :: values).map .ok))) := rfl
    rw [hsequence, Except.ok.injEq, serializeRowSequence_eq_ok_iff]

/-- A dict with string keys is accepted when its keys are the names of the columns and every
value can be written, and then gives the row of the list of its values. -/
def BindsLikeSequence (R : Runtime P) (columns : List ColumnSpec) : Prop :=
  ∀ entries : List (String × PyVal P), (entries.map Prod.fst).Nodup →
    ((∃ row, serializeValues R columns (stringDict entries) = .ok (.ok row)) ↔
      (∀ name, name ∈ entries.map Prod.fst ↔ name ∈ columns.map ColumnSpec.name) ∧
      ∀ column ∈ columns, ∃ value cell, entries.lookup column.name = some value ∧
        serialize R column.typ value = .ok cell) ∧
    ∀ row, serializeValues R columns (stringDict entries) = .ok (.ok row) →
      row.length = columns.length ∧
      serializeValues R columns (.list (columnValues columns entries)) = .ok (.ok row)

theorem serializeValues_columnValues {columns : List ColumnSpec} {entries : List (String × PyVal P)}
    {row : SerializedRow} (h : List.Forall₂ (fun column cell => ∃ value,
      entries.lookup column.name = some value ∧ serialize R column.typ value = .ok cell)
      columns row) :
    serializeValues R columns (.list (columnValues columns entries)) = .ok (.ok row) := by
  refine (serializeValues_list _ _ _).mpr ⟨by simp [columnValues], ?_⟩
  induction h with
  | nil => exact .nil
  | cons hcell _ ih =>
    obtain ⟨value, hvalue, hcell⟩ := hcell
    refine .cons ?_ ih
    simpa [hvalue] using hcell

/-- As many different keys as there are different columns, and every column among the keys:
then the keys are the columns. -/
theorem keys_eq_names_iff {keys names : List String} (hkeys : keys.Nodup) (hnames : names.Nodup)
    (hsub : ∀ name ∈ names, name ∈ keys) :
    keys.length = names.length ↔ ∀ name, name ∈ keys ↔ name ∈ names := by
  have hsubperm : names.Subperm keys := List.subperm_of_subset hnames hsub
  constructor
  · intro hlength name
    exact (hsubperm.perm_of_length_le (by omega)).mem_iff.symm
  · intro hmem
    exact ((List.perm_ext_iff_of_nodup hkeys hnames).mpr hmem).length_eq

/-- Mappings bind like sequences exactly when no column name repeats. -/
theorem bindsLikeSequence_iff (hR : R.Lawful) (columns : List ColumnSpec) :
    BindsLikeSequence R columns ↔ (columns.map ColumnSpec.name).Nodup := by
  constructor
  · intro h
    -- `None` for every name is a dict that must be accepted, so it has as many keys as columns.
    let names := columns.map ColumnSpec.name
    let entries : List (String × PyVal P) := names.dedup.map (fun name => (name, .none))
    have hkeys : entries.map Prod.fst = names.dedup := by
      simp [entries, Function.comp_def]
    obtain ⟨haccepted, _⟩ := h entries (hkeys ▸ names.nodup_dedup)
    obtain ⟨row, hrow⟩ := haccepted.mpr (by
      rw [hkeys]
      refine ⟨fun name => List.mem_dedup, fun column hcolumn => ?_⟩
      have hmem : column.name ∈ entries.map Prod.fst := by
        rw [hkeys, List.mem_dedup]
        exact List.mem_map_of_mem hcolumn
      obtain ⟨value, hvalue⟩ := lookup_eq_some_of_mem hmem
      have hnone : value = .none := by
        obtain ⟨_, _, heq⟩ := List.mem_map.mp (mem_of_lookup_eq_some hvalue)
        exact (Prod.ext_iff.mp heq).2.symm
      exact ⟨value, none, hvalue, by rw [hnone]; rfl⟩)
    have hlength := ((serializeValues_stringDict hR _ _ _).mp hrow).1
    have hdedup : names.dedup.length = names.length := by
      simpa [entries, names] using hlength
    rw [← List.dedup_eq_self]
    exact (List.dedup_sublist names).eq_of_length hdedup
  · intro hnames entries hkeys
    simp only [serializeValues_stringDict hR]
    refine ⟨?_, ?_⟩
    · constructor
      · rintro ⟨row, hlength, hrow⟩
        have hfound : ∀ column ∈ columns, ∃ value cell,
            entries.lookup column.name = some value ∧ serialize R column.typ value = .ok cell := by
          intro column hcolumn
          obtain ⟨cell, _, value, hvalue, hcell⟩ := exists_of_mem_left hrow hcolumn
          exact ⟨value, cell, hvalue, hcell⟩
        refine ⟨(keys_eq_names_iff hkeys hnames ?_).mp (by simpa using hlength), hfound⟩
        rw [List.forall_mem_map]
        intro column hcolumn
        obtain ⟨value, _, hvalue, _⟩ := hfound column hcolumn
        exact List.mem_map_of_mem (mem_of_lookup_eq_some hvalue)
      · rintro ⟨hmem, hfound⟩
        have hlength := (keys_eq_names_iff hkeys hnames fun name => (hmem name).mpr).mpr hmem
        obtain ⟨row, hrow⟩ := @exists_forall₂ _ _ (fun column cell => ∃ value,
          entries.lookup column.name = some value ∧ serialize R column.typ value = .ok cell) columns
          (by
            intro column hcolumn
            obtain ⟨value, cell, hcell⟩ := hfound column hcolumn
            exact ⟨cell, value, hcell⟩)
        exact ⟨row, by simpa using hlength, hrow⟩
    · rintro row ⟨_, hrow⟩
      exact ⟨hrow.length_eq.symm, serializeValues_columnValues hrow⟩

theorem bindsLikeSequence_iff_two_columns : BindsLikeSequence wireRuntime
    [⟨"id", .native .int⟩, ⟨"tags", .set false (.native .text)⟩] :=
  (bindsLikeSequence_iff wireRuntime_lawful _).mpr (by decide)

/-- A marker that is used twice: its one key is refused, and a key that no column uses makes the
count right. -/
theorem repeated_marker_not_bound :
    let columns : List ColumnSpec := [⟨"x", .native .int⟩, ⟨"x", .native .int⟩]
    let value : PyVal wireInterop := .scalar (.int 5)
    serializeValues wireRuntime columns (stringDict [("x", value)]) =
      .ok (.error (.typeCheck mappingName (.wrongColumnCount 1 2))) ∧
    serializeValues wireRuntime columns (.list (columnValues columns [("x", value)])) =
      .ok (.ok [some [0, 0, 0, 5], some [0, 0, 0, 5]]) ∧
    serializeValues wireRuntime columns (stringDict [("x", value), ("y", value)]) =
      .ok (.ok [some [0, 0, 0, 5], some [0, 0, 0, 5]]) :=
  ⟨rfl, rfl, rfl⟩

end ScyllaDriver
