import ScyllaDriver.BoundValues
import ScyllaDriver.FirstFailures

/-! Which parameter an `execute` that cannot write its values complains about. The columns are
written one after another and the first failure ends the row, so the error is that of the
first parameter which cannot be written, under its position or its name. -/

namespace ScyllaDriver.ParameterErrors

open Framing

variable {P : Interop} (R : Runtime P) {Obj : Type}

/-- The value is there and can be written. -/
def Writable (column : ColumnSpec) (value : Option (Except PyErr (PyVal P))) : Prop :=
  ∃ found cell, value = some (.ok found) ∧ serialize R column.typ found = .ok cell

/-- The object whose `len()` is compared with the number of columns, and the class that the
comparison reports. -/
def counted : PyValueList Obj → Option (Obj × String)
  | .sequence object => some (object, sequenceName)
  | .mapping object => some (object, mappingName)
  | .empty => none

/-- What is wrong with the values of a statement. The number of values is compared with that of
the columns before any of them is written, and an error that Python raises has no place. -/
inductive FirstFault (contents : Obj → RowObject P) (columns : List ColumnSpec) :
    PyValueList Obj → RowError → Prop
  | noValues (h : columns ≠ []) : FirstFault contents columns .empty
      (.typeCheck "None or empty collection" (.wrongColumnCount 0 columns.length))
  | lenRaises {values : PyValueList Obj} {object : Obj} {rustName : String} {err : PyErr}
      (hcounted : counted values = some (object, rustName))
      (hlen : (contents object).len = .error err) :
      FirstFault contents columns values (interopFailed err)
  | count {values : PyValueList Obj} {object : Obj} {rustName : String} {len : Nat}
      (hcounted : counted values = some (object, rustName))
      (hlen : (contents object).len = .ok len) (hne : len ≠ columns.length) :
      FirstFault contents columns values
        (.typeCheck rustName (.wrongColumnCount len columns.length))
  | iterRaises {object : Obj} {err : PyErr}
      (hcount : (contents object).len = .ok columns.length)
      (hiter : (contents object).iter = .error err) :
      FirstFault contents columns (.sequence object) (interopFailed err)
  | nextRaises {object : Obj} {values : List (Except PyErr (PyVal P))} {i : Nat}
      {column : ColumnSpec} {err : PyErr}
      (hcount : (contents object).len = .ok columns.length)
      (hiter : (contents object).iter = .ok values)
      (hcolumn : columns[i]? = some column) (hvalue : values[i]? = some (.error err))
      (hbefore : ∀ j < i, ∀ earlier, columns[j]? = some earlier → Writable R earlier values[j]?) :
      FirstFault contents columns (.sequence object) (interopFailed err)
  | index {object : Obj} {values : List (Except PyErr (PyVal P))} {i : Nat}
      {column : ColumnSpec} {value : PyVal P} {err : SerializationError}
      (hcount : (contents object).len = .ok columns.length)
      (hiter : (contents object).iter = .ok values)
      (hcolumn : columns[i]? = some column) (hvalue : values[i]? = some (.ok value))
      (herr : serialize R column.typ value = .error err)
      (hbefore : ∀ j < i, ∀ earlier, columns[j]? = some earlier → Writable R earlier values[j]?) :
      FirstFault contents columns (.sequence object)
        (.driver (.scyllaSerializeFailed err) (some (.index i)))
  | missing {object : Obj} {i : Nat} {column : ColumnSpec} {err : PyErr}
      (hcount : (contents object).len = .ok columns.length)
      (hcolumn : columns[i]? = some column)
      (hvalue : (contents object).getItem column.name = .error err) (hkey : err.cls = .keyError)
      (hbefore : ∀ j < i, ∀ earlier, columns[j]? = some earlier →
        Writable R earlier (some ((contents object).getItem earlier.name))) :
      FirstFault contents columns (.mapping object)
        (.typeCheck mappingName (.valueMissingForColumn column.name))
  | getItemRaises {object : Obj} {i : Nat} {column : ColumnSpec} {err : PyErr}
      (hcount : (contents object).len = .ok columns.length)
      (hcolumn : columns[i]? = some column)
      (hvalue : (contents object).getItem column.name = .error err) (hkey : err.cls ≠ .keyError)
      (hbefore : ∀ j < i, ∀ earlier, columns[j]? = some earlier →
        Writable R earlier (some ((contents object).getItem earlier.name))) :
      FirstFault contents columns (.mapping object) (interopFailed err)
  | name {object : Obj} {i : Nat} {column : ColumnSpec} {value : PyVal P}
      {err : SerializationError}
      (hcount : (contents object).len = .ok columns.length)
      (hcolumn : columns[i]? = some column)
      (hvalue : (contents object).getItem column.name = .ok value)
      (herr : serialize R column.typ value = .error err)
      (hbefore : ∀ j < i, ∀ earlier, columns[j]? = some earlier →
        Writable R earlier (some ((contents object).getItem earlier.name))) :
      FirstFault contents columns (.mapping object)
        (.driver (.scyllaSerializeFailed err) (some (.name column.name)))

/-- The cell for one column of a mapping. -/
def namedCell (getItem : String → Except PyErr (PyVal P)) (column : ColumnSpec) :
    RowResult Cell := do
  let value ← (getItem column.name).mapError (getItemFailed column)
  serializeElement R (.name column.name) column value

/-- The cell for one column of a sequence, with the position of both. -/
def indexedCell (entry : (ColumnSpec × Except PyErr (PyVal P)) × Nat) : RowResult Cell := do
  let value ← entry.1.2.mapError interopFailed
  serializeElement R (.index entry.2) entry.1.1 value

variable {R}

theorem serializeColumns_eq_mapM (index : Nat) (columns : List ColumnSpec)
    (values : List (Except PyErr (PyVal P))) :
    serializeColumns R index columns values =
      ((columns.zip values).zipIdx index).mapM (indexedCell R) := by
  induction columns generalizing index values with
  | nil => rfl
  | cons column columns ih =>
    cases values with
    | nil => rfl
    | cons value values =>
      rw [serializeColumns, List.zip_cons_cons, List.zipIdx_cons, List.mapM_cons, indexedCell,
        bind_assoc, ← ih]

theorem serializeNamedColumns_eq_mapM (getItem : String → Except PyErr (PyVal P))
    (columns : List ColumnSpec) :
    serializeNamedColumns R getItem columns = columns.mapM (namedCell R getItem) := by
  induction columns with
  | nil => rfl
  | cons column columns ih =>
    rw [serializeNamedColumns, List.mapM_cons, namedCell, bind_assoc, ← ih]

theorem serializeElement_eq_error_iff {location : ParameterReference} {column : ColumnSpec}
    {value : PyVal P} {e : RowError} :
    serializeElement R location column value = .error e ↔
      ∃ err, serialize R column.typ value = .error err ∧
        e = .driver (.scyllaSerializeFailed err) (some location) :=
  mapError_eq_error_iff

theorem namedCell_eq_ok_iff {getItem : String → Except PyErr (PyVal P)} {column : ColumnSpec} :
    (∃ cell, namedCell R getItem column = .ok cell) ↔
      Writable R column (some (getItem column.name)) := by
  simp only [namedCell, bind_eq_ok_iff, mapError_eq_ok_iff, serializeElement_eq_ok_iff, Writable,
    Option.some.injEq]
  exact exists_comm.trans (by simp)

theorem indexedCell_eq_ok_iff {column : ColumnSpec} {value : Except PyErr (PyVal P)} {i : Nat} :
    (∃ cell, indexedCell R ((column, value), i) = .ok cell) ↔ Writable R column (some value) := by
  simp only [indexedCell, bind_eq_ok_iff, mapError_eq_ok_iff, serializeElement_eq_ok_iff, Writable,
    Option.some.injEq]
  exact exists_comm.trans (by simp)

theorem namedCell_eq_error_iff {getItem : String → Except PyErr (PyVal P)} {column : ColumnSpec}
    {e : RowError} :
    namedCell R getItem column = .error e ↔
      (∃ err, getItem column.name = .error err ∧ e = getItemFailed column err) ∨
      ∃ value err, getItem column.name = .ok value ∧ serialize R column.typ value = .error err ∧
        e = .driver (.scyllaSerializeFailed err) (some (.name column.name)) := by
  simp only [namedCell, bind_eq_error_iff, mapError_eq_error_iff, mapError_eq_ok_iff,
    serializeElement_eq_error_iff, exists_and_left]

theorem indexedCell_eq_error_iff {column : ColumnSpec} {value : Except PyErr (PyVal P)} {i : Nat}
    {e : RowError} :
    indexedCell R ((column, value), i) = .error e ↔
      (∃ err, value = .error err ∧ e = interopFailed err) ∨
      ∃ found err, value = .ok found ∧ serialize R column.typ found = .error err ∧
        e = .driver (.scyllaSerializeFailed err) (some (.index i)) := by
  simp only [indexedCell, bind_eq_error_iff, mapError_eq_error_iff, mapError_eq_ok_iff,
    serializeElement_eq_error_iff, exists_and_left]

variable {contents : Obj → RowObject P} {columns : List ColumnSpec}

theorem serializeColumns_eq_error_iff {values : List (Except PyErr (PyVal P))} {e : RowError} :
    serializeColumns R 0 columns values = .error e ↔
      ∃ (i : Nat) (column : ColumnSpec) (value : Except PyErr (PyVal P)),
        columns[i]? = some column ∧ values[i]? = some value ∧
        indexedCell R ((column, value), i) = .error e ∧
        ∀ j < i, ∀ earlier, columns[j]? = some earlier → Writable R earlier values[j]? := by
  rw [serializeColumns_eq_mapM, FirstFailures.mapM_eq_error_iff]
  simp only [List.getElem?_zipIdx, Nat.zero_add, Option.map_eq_some_iff, List.getElem?_zip_eq_some]
  constructor
  · rintro ⟨i, _, ⟨⟨column, value⟩, ⟨hcolumn, hvalue⟩, rfl⟩, hcell, hbefore⟩
    refine ⟨i, column, value, hcolumn, hvalue, hcell, fun j hj earlier hearlier => ?_⟩
    -- The iterator got as far as `i`, so it has given a value for the earlier column.
    obtain ⟨hlt, -⟩ := List.getElem?_eq_some_iff.mp hvalue
    obtain ⟨found, hfound⟩ : ∃ found, values[j]? = some found :=
      ⟨_, List.getElem?_eq_getElem (hj.trans hlt)⟩
    rw [hfound]
    exact indexedCell_eq_ok_iff.mp (hbefore j hj _ ⟨(earlier, found), ⟨hearlier, hfound⟩, rfl⟩)
  · rintro ⟨i, column, value, hcolumn, hvalue, hcell, hbefore⟩
    refine ⟨i, ((column, value), i), ⟨(column, value), ⟨hcolumn, hvalue⟩, rfl⟩, hcell, ?_⟩
    rintro j hj _ ⟨⟨earlier, found⟩, ⟨hearlier, hfound⟩, rfl⟩
    have hwritable := hbefore j hj earlier hearlier
    rw [hfound] at hwritable
    exact indexedCell_eq_ok_iff.mpr hwritable

theorem serializeNamedColumns_eq_error_iff {getItem : String → Except PyErr (PyVal P)}
    {e : RowError} :
    serializeNamedColumns R getItem columns = .error e ↔
      ∃ (i : Nat) (column : ColumnSpec),
        columns[i]? = some column ∧ namedCell R getItem column = .error e ∧
        ∀ j < i, ∀ earlier, columns[j]? = some earlier →
          Writable R earlier (some (getItem earlier.name)) := by
  rw [serializeNamedColumns_eq_mapM, FirstFailures.mapM_eq_error_iff]
  simp only [namedCell_eq_ok_iff]

/-- The checks both kinds of values start with. -/
theorem lenCheck_eq_error_iff {len : Except PyErr Nat} {rustName : String} {e : RowError}
    {rest : RowResult SerializedRow} :
    (do
      let len ← len.mapError interopFailed
      lengthEqualityCheck rustName len columns.length
      rest) = .error e ↔
      (∃ err, len = .error err ∧ e = interopFailed err) ∨
      (∃ n, len = .ok n ∧ n ≠ columns.length ∧
        e = .typeCheck rustName (.wrongColumnCount n columns.length)) ∨
      (len = .ok columns.length ∧ rest = .error e) := by
  cases len with
  | error err => simp [bind, Except.bind, Except.mapError, eq_comm]
  | ok n =>
    by_cases hn : n = columns.length
    · simp [bind, Except.bind, Except.mapError, lengthEqualityCheck, hn]
    · simp [bind, Except.bind, Except.mapError, lengthEqualityCheck, hn, eq_comm]

theorem serializeRowSequence_eq_error_iff {object : Obj} {e : RowError} :
    serializeRowSequence R columns (contents object).len (contents object).iter = .error e ↔
      FirstFault R contents columns (.sequence object) e := by
  rw [serializeRowSequence, lenCheck_eq_error_iff, bind_eq_error_iff]
  simp only [mapError_eq_error_iff, mapError_eq_ok_iff, serializeColumns_eq_error_iff,
    indexedCell_eq_error_iff]
  constructor
  · rintro (⟨err, hlen, rfl⟩ | ⟨len, hlen, hne, rfl⟩ | ⟨hcount, ⟨err, hiter, rfl⟩ |
      ⟨values, hiter, i, column, value, hcolumn, hvalue, hcell, hbefore⟩⟩)
    · exact .lenRaises rfl hlen
    · exact .count rfl hlen hne
    · exact .iterRaises hcount hiter
    · rcases hcell with ⟨err, rfl, rfl⟩ | ⟨found, err, rfl, herr, rfl⟩
      · exact .nextRaises hcount hiter hcolumn hvalue hbefore
      · exact .index hcount hiter hcolumn hvalue herr hbefore
  · intro h
    cases h with
    | lenRaises hcounted hlen =>
      cases hcounted
      exact .inl ⟨_, hlen, rfl⟩
    | count hcounted hlen hne =>
      cases hcounted
      exact .inr (.inl ⟨_, hlen, hne, rfl⟩)
    | iterRaises hcount hiter => exact .inr (.inr ⟨hcount, .inl ⟨_, hiter, rfl⟩⟩)
    | nextRaises hcount hiter hcolumn hvalue hbefore =>
      exact .inr (.inr ⟨hcount, .inr ⟨_, hiter, _, _, _, hcolumn, hvalue, .inl ⟨_, rfl, rfl⟩,
        hbefore⟩⟩)
    | index hcount hiter hcolumn hvalue herr hbefore =>
      exact .inr (.inr ⟨hcount, .inr ⟨_, hiter, _, _, _, hcolumn, hvalue,
        .inr ⟨_, _, rfl, herr, rfl⟩, hbefore⟩⟩)

theorem serializeRowMapping_eq_error_iff {object : Obj} {e : RowError} :
    serializeRowMapping R columns (contents object).len (contents object).getItem = .error e ↔
      FirstFault R contents columns (.mapping object) e := by
  rw [serializeRowMapping, lenCheck_eq_error_iff, serializeNamedColumns_eq_error_iff]
  simp only [namedCell_eq_error_iff]
  constructor
  · rintro (⟨err, hlen, rfl⟩ | ⟨len, hlen, hne, rfl⟩ | ⟨hcount, i, column, hcolumn, hcell, hbefore⟩)
    · exact .lenRaises rfl hlen
    · exact .count rfl hlen hne
    · rcases hcell with ⟨err, hvalue, rfl⟩ | ⟨value, err, hvalue, herr, rfl⟩
      · by_cases hkey : err.cls = .keyError
        · rw [getItemFailed, if_pos hkey]
          exact .missing hcount hcolumn hvalue hkey hbefore
        · rw [getItemFailed, if_neg hkey]
          exact .getItemRaises hcount hcolumn hvalue hkey hbefore
      · exact .name hcount hcolumn hvalue herr hbefore
  · intro h
    cases h with
    | lenRaises hcounted hlen =>
      cases hcounted
      exact .inl ⟨_, hlen, rfl⟩
    | count hcounted hlen hne =>
      cases hcounted
      exact .inr (.inl ⟨_, hlen, hne, rfl⟩)
    | missing hcount hcolumn hvalue hkey hbefore =>
      exact .inr (.inr ⟨hcount, _, _, hcolumn, .inl ⟨_, hvalue, (if_pos hkey).symm⟩, hbefore⟩)
    | getItemRaises hcount hcolumn hvalue hkey hbefore =>
      exact .inr (.inr ⟨hcount, _, _, hcolumn, .inl ⟨_, hvalue, (if_neg hkey).symm⟩, hbefore⟩)
    | name hcount hcolumn hvalue herr hbefore =>
      exact .inr (.inr ⟨hcount, _, _, hcolumn, .inr ⟨_, _, hvalue, herr, rfl⟩, hbefore⟩)

/-- A row is refused for its first fault and for nothing else. -/
theorem serialize_eq_error_iff {values : PyValueList Obj} {e : RowError} :
    values.serialize R contents columns = .error e ↔ FirstFault R contents columns values e := by
  cases values with
  | sequence object => exact serializeRowSequence_eq_error_iff
  | mapping object => exact serializeRowMapping_eq_error_iff
  | empty =>
    constructor
    · intro h
      rw [PyValueList.serialize] at h
      split at h
      · cases h
      · rename_i hcolumns
        cases h
        exact .noValues (by simpa using hcolumns)
    · intro h
      cases h with
      | noValues hcolumns => exact if_neg (by simpa using hcolumns)
      | lenRaises hcounted _ => cases hcounted
      | count hcounted _ _ => cases hcounted

variable {F : Foreign}

theorem bindPrepared_eq_error_iff {contents : Nat → RowObject P} {values : PyValueList Nat}
    {e : RowError} (request : BoundStatement → Request F) :
    (do
      let bound ← (BoundStatement.new R contents values (.prepared columns)).mapError
        CallError.serializationFailed
      return request bound) = .error (.serializationFailed e) ↔
      FirstFault R contents columns values e := by
  rw [← serialize_eq_error_iff, BoundStatement.new]
  cases values.serialize R contents columns <;>
    simp [bind, Except.bind, Except.mapError, pure, Except.pure]

theorem extractValues_error_ne {contents : Nat → RowObject P} {object : Option Nat} {err : CallError}
    {e : RowError} (h : extractValues contents object = .error err) :
    err ≠ .serializationFailed e := by
  cases object with
  | none => cases h
  | some object =>
    obtain ⟨source, -, rfl⟩ := mapError_eq_error_iff.mp h
    nofun

end ScyllaDriver.ParameterErrors
