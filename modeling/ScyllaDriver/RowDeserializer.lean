import ScyllaDriver.Deserialize

/-! The columns of one row, deserialized one after the other. An error of a cell is given the
column's name and index; the first error is the one the row fails with. -/

namespace ScyllaDriver

open Framing

variable {P : Interop} (R : Runtime P) (C : Containers P)

/-- `ColumnDeserializer::next`, on what the column iterator of the Rust driver yields. -/
def deserializeColumn (spec : ColumnSpec) (index : Nat) :
    Except DecodeError Cell → DeserResult (PyVal P)
  | .error err => .error (.scyllaDecodeFailed err)
  | .ok cell => (deserCqlPyValue R C spec.typ cell).mapError
      (fun err => (err.atColumnName spec.name).atColumnIndex index)

/-- The values of a row, in column order. -/
def deserializedColumns (specs : List ColumnSpec) (cells : List (Except DecodeError Cell)) :
    List (DeserResult (PyVal P)) :=
  (specs.zip cells).zipIdx.map fun column => deserializeColumn R C column.1.1 column.2 column.1.2

/-- The error of the first value that has one. -/
def firstError {ε α : Type} : List (Except ε α) → Option ε
  | [] => none
  | .error err :: _ => some err
  | .ok _ :: values => firstError values

theorem firstError_of_getElem? {ε α : Type} {values : List (Except ε α)} {index : Nat} {err : ε}
    (h : values[index]? = some (.error err))
    (hbefore : ∀ j < index, ∃ value, values[j]? = some (.ok value)) :
    firstError values = some err := by
  induction values generalizing index with
  | nil => simp at h
  | cons value values ih =>
    cases index with
    | zero =>
      obtain rfl : value = .error err := by simpa using h
      rfl
    | succ index =>
      obtain ⟨first, hfirst⟩ := hbefore 0 (by omega)
      obtain rfl : value = .ok first := by simpa using hfirst
      refine ih h ?_
      intro j hj
      exact hbefore (j + 1) (by omega)

theorem deserializedColumns_getElem? {specs : List ColumnSpec} {cells : List (Except DecodeError Cell)}
    {index : Nat} {spec : ColumnSpec} {cell : Except DecodeError Cell}
    (hspec : specs[index]? = some spec) (hcell : cells[index]? = some cell) :
    (deserializedColumns R C specs cells)[index]? = some (deserializeColumn R C spec index cell) := by
  have hzip : (specs.zip cells)[index]? = some (spec, cell) :=
    List.getElem?_zip_eq_some.mpr ⟨hspec, hcell⟩
  simp [deserializedColumns, hzip]

end ScyllaDriver
