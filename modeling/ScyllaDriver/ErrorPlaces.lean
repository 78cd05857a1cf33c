import ScyllaDriver.FailurePaths
import ScyllaDriver.RowDeserializer
import ScyllaDriver.WireRuntime

/-! What the error of a row says of the place where decoding failed. -/

namespace ScyllaDriver

open Framing

variable {P : Interop} {R : Runtime P} {C : Containers P}

section Reported

variable {path : InnerPath} {kind : DeserializationErrorKind}

/-- Without tuples the segments arrive in the order in which they were added, from the
failing value outwards. -/
theorem reported_of_no_tuple (h : ∀ segment ∈ path, segment.isTuple = false) :
    reported path kind = ⟨kind, { inner := path.reverse }⟩ := by
  induction path with
  | nil => rfl
  | cons segment path ih =>
    rw [List.forall_mem_cons] at h
    simp only [reported, h.1, Bool.false_eq_true, if_false, ih h.2, List.reverse_cons]
    rfl

/-- A tuple loses its own segment and those inside it. -/
theorem reported_length_of_tuple (h : ∃ segment ∈ path, segment.isTuple = true) :
    (reported path kind).location.inner.length < path.length := by
  induction path with
  | nil => simp at h
  | cons segment path ih =>
    by_cases htuple : segment.isTuple = true
    · simp [reported, htuple, DriverDeserializationError.ofTupleElement]
    · have hrest : ∃ segment ∈ path, segment.isTuple = true := by simpa [htuple] using h
      have hlength := ih hrest
      simp only [reported, htuple, Bool.false_eq_true, if_false,
        DriverDeserializationError.pushInner, List.length_append, List.length_cons, List.length_nil]
      omega

theorem reported_eq_iff :
    (reported path kind).kind = kind ∧ (reported path kind).location.inner = path ↔
      (∀ segment ∈ path, segment.isTuple = false) ∧ path.reverse = path := by
  by_cases htuple : ∃ segment ∈ path, segment.isTuple = true
  · constructor
    · rintro ⟨-, hinner⟩
      have hlength : (reported path kind).location.inner.length < path.length :=
        reported_length_of_tuple htuple
      rw [hinner] at hlength
      omega
    · rintro ⟨hnone, -⟩
      obtain ⟨segment, hmem, hsegment⟩ := htuple
      rw [hnone segment hmem] at hsegment
      cases hsegment
  · have hnone : ∀ segment ∈ path, segment.isTuple = false := by simpa using htuple
    rw [reported_of_no_tuple hnone]
    exact ⟨fun h => ⟨hnone, h.2⟩, fun h => ⟨rfl, h.2⟩⟩

end Reported

/-- The error of a row whose first failing column fails at one inner value. It names the column,
and it names the place in the column exactly when the path to the value has no tuple and reads
the same in both directions. -/
theorem error_names_place_iff {specs : List ColumnSpec} {cells : List (Except DecodeError Cell)}
    {index : Nat} {spec : ColumnSpec} {cell : Cell} {path : InnerPath} {kind : DeserializationErrorKind}
    (hspec : specs[index]? = some spec) (hcell : cells[index]? = some (.ok cell))
    (hbefore : ∀ j < index, ∃ value, (deserializedColumns R C specs cells)[j]? = some (.ok value))
    (hfails : Fails R C spec.typ cell path kind) :
    ∃ err, firstError (deserializedColumns R C specs cells) = some err ∧
      err.location.columnName = some spec.name ∧ err.location.columnIndex = some index ∧
      (err.kind = kind ∧ err.location.inner = path ↔
        (∀ segment ∈ path, segment.isTuple = false) ∧ path.reverse = path) := by
  have hdeser : deserCqlPyValue R C spec.typ cell = .error (reported path kind) :=
    (located spec.typ cell _).mpr ⟨path, kind, hfails, rfl⟩
  have hvalue : (deserializedColumns R C specs cells)[index]? = some (.error
      (((reported path kind).atColumnName spec.name).atColumnIndex index)) := by
    rw [deserializedColumns_getElem? R C hspec hcell, deserializeColumn, hdeser]
    rfl
  exact ⟨_, firstError_of_getElem? hvalue hbefore, rfl, rfl, reported_eq_iff⟩

def badInt : DeserializationErrorKind := .scyllaDecodeFailed (.invalidValue .int "")

set_option maxRecDepth 2000 in
/-- A list with one element, an int of one byte. -/
theorem error_names_place_in_list :
    let spec : ColumnSpec := ⟨"v", .list false (.native .int)⟩
    let cell : Cell := some [0, 0, 0, 1, 0, 0, 0, 1, 7]
    Fails wireRuntime (cpython wireRuntime) spec.typ cell [.sequenceIndex 0] badInt ∧
      ∃ err, firstError (deserializedColumns wireRuntime (cpython wireRuntime) [spec] [.ok cell]) = some err ∧
        err.location.columnName = some "v" ∧ err.location.columnIndex = some 0 ∧
        err.kind = badInt ∧ err.location.inner = [.sequenceIndex 0] := by
  intro spec cell
  have hfails : Fails wireRuntime (cpython wireRuntime) spec.typ cell [.sequenceIndex 0] badInt :=
    ⟨_, rfl, by simp, .inr ⟨1, [0, 0, 0, 1, 7], .sequenceIndex 0, [], rfl, rfl,
      .element rfl ⟨[7], rfl, .inr (by simp), rfl, rfl⟩⟩⟩
  have hspec : [spec][0]? = some spec := rfl
  have hcell : ([.ok cell] : List (Except DecodeError Cell))[0]? = some (.ok cell) := rfl
  obtain ⟨err, hfirst, hname, hindex, hplace⟩ :=
    error_names_place_iff hspec hcell (by simp) hfails
  obtain ⟨hkind, hinner⟩ := hplace.mpr ⟨by simp [InnerSegment.isTuple], rfl⟩
  exact ⟨hfails, err, hfirst, hname, hindex, hkind, hinner⟩

set_option maxRecDepth 2000 in
/-- The int of one byte in the second of two lists, and in a tuple. -/
theorem error_misnames_place :
    let lists : ColumnSpec := ⟨"v", .list false (.list true (.native .int))⟩
    let listsCell : Cell := some [0, 0, 0, 2, 0, 0, 0, 4, 0, 0, 0, 0, 0, 0, 0, 9, 0, 0, 0, 1, 0, 0, 0, 1, 7]
    let tuple : ColumnSpec := ⟨"t", .tuple [.native .int]⟩
    let tupleCell : Cell := some [0, 0, 0, 1, 7]
    Fails wireRuntime (cpython wireRuntime) lists.typ listsCell
        [.sequenceIndex 1, .sequenceIndex 0] badInt ∧
      firstError (deserializedColumns wireRuntime (cpython wireRuntime) [lists] [.ok listsCell]) =
        some ⟨badInt, ⟨some "v", some 0, [.sequenceIndex 0, .sequenceIndex 1]⟩⟩ ∧
      Fails wireRuntime (cpython wireRuntime) tuple.typ tupleCell [.tupleIndex 0] badInt ∧
      firstError (deserializedColumns wireRuntime (cpython wireRuntime) [tuple] [.ok tupleCell]) =
        some ⟨.pythonConversionFailed (.deserialization badInt ⟨none, none, [.tupleIndex 0]⟩),
          ⟨some "t", some 0, []⟩⟩ := by
  intro lists listsCell tuple tupleCell
  have hinner : Fails wireRuntime (cpython wireRuntime) (.list true (.native .int))
      (some [0, 0, 0, 1, 0, 0, 0, 1, 7]) [.sequenceIndex 0] badInt :=
    ⟨_, rfl, by simp, .inr ⟨1, [0, 0, 0, 1, 7], .sequenceIndex 0, [], rfl, rfl,
      .element rfl ⟨[7], rfl, .inr (by simp), rfl, rfl⟩⟩⟩
  refine ⟨⟨_, rfl, by simp, .inr ⟨2, _, .sequenceIndex 1, _, rfl, rfl, ?_⟩⟩, rfl,
    ⟨_, .tupleIndex 0, [], rfl, by simp, rfl, .element rfl ⟨[7], rfl, .inr (by simp), rfl, rfl⟩⟩, rfl⟩
  exact .later rfl rfl rfl (.element rfl hinner)

end ScyllaDriver
