import ScyllaDriver.Paging
import ScyllaDriver.RowDeserializer
import ScyllaDriver.WireRuntime

/-! The row factories and how each of them builds a row out of its columns. The columns are
taken into a tuple or into a dict, and the two pass an error on differently. -/

namespace ScyllaDriver.RowFactories

open Framing

/-- A Python exception: one that Python code raised, the one that a deserialization error
becomes, or a `RowIterationError` with its cause. -/
inductive Exception where
  | raised (err : PyErr)
  | deserialization (err : DriverDeserializationError)
  | rowIterationError (message : String) (cause : Exception)

inductive DriverRowIterationError where
  | deserialization (source : DriverDeserializationError)
  | failedToFetchNextPage (source : DriverExecuteError)
  | pythonError (source : Exception)

def DriverRowIterationError.toPyErr : DriverRowIterationError → Exception
  | .deserialization source => .deserialization source
  | .failedToFetchNextPage source =>
    .rowIterationError "Row iteration error: failed to fetch next page of results"
      (.raised source.toPyErr)
  | .pythonError source =>
    .rowIterationError "Row iteration error: a Python error occurred during processing of a row"
      source

inductive ExceptionClass where
  | unsupportedTypeDeserializationError
  | decodeFailedError
  | pyConversionFailedError
  | rowIterationError
  | other (cls : ErrClass)
  deriving DecidableEq, Repr

def InnerSegment.toString : InnerSegment → String
  | .sequenceIndex index => "sequence[" ++ ToString.toString index ++ "]"
  | .mapIndex index => "map[" ++ ToString.toString index ++ "]"
  | .tupleIndex index => "tuple[" ++ ToString.toString index ++ "]"
  | .udtField field => "udt." ++ field
  | .vectorIndex index => "vector[" ++ ToString.toString index ++ "]"

/-- The class of an exception and the attributes of `attach_location_attrs`. -/
structure Shown where
  cls : ExceptionClass
  columnName : Option String
  columnIndex : Option Nat
  innerPath : Option (List String)
  deriving DecidableEq, Repr

def shownDeserialization (err : DriverDeserializationError) : Shown where
  cls := match err.kind with
    | .unsupportedType _ => .unsupportedTypeDeserializationError
    | .scyllaDecodeFailed _ => .decodeFailedError
    | .pythonConversionFailed _ => .pyConversionFailedError
  columnName := err.location.columnName
  columnIndex := err.location.columnIndex
  innerPath := if err.location.inner.isEmpty then none
    else some (err.location.inner.map InnerSegment.toString)

def Exception.shown : Exception → Shown
  | .raised err => ⟨.other err.cls, none, none, none⟩
  | .deserialization err => shownDeserialization err
  | .rowIterationError _ _ => ⟨.rowIterationError, none, none, none⟩

/-- What Python makes of the objects it is given. -/
structure Python (V Obj : Type) where
  namedtupleClass : List String → Except PyErr Obj
  /-- `tuple.__new__(cls, fields)`. -/
  tupleNew : Obj → List V → Except PyErr Obj
  tuple : List V → Obj
  dict : List (String × V) → Obj
  prepare : Obj → List ColumnSpec → Except PyErr Obj
  isCallable : Obj → Bool
  typeName : Obj → String
  call : Obj → List V → Except PyErr Obj
  callKwargs : Obj → List (String × V) → Except PyErr Obj

variable {V Obj : Type} (py : Python V Obj)

inductive PyRowFactory (Obj : Type) where
  | namedTuple
  | dict
  | tuple
  | ofClass (cls : Obj)
  /-- A user `RowFactory`, whose `prepare` is called once the columns are known. -/
  | deferred (factory : Obj)
  /-- A callable used directly as the row builder. -/
  | builder (build : Obj)

inductive RowBuilder (Obj : Type) where
  | namedTuple (cls : Obj)
  | dict (names : List String)
  | tuple
  | ofClass (cls : Obj) (names : List String)
  | custom (build : Obj)

def uncallableBuilder (typeName : String) : PyErr :=
  ⟨.rowFactoryError, "'prepare' returned an invalid row builder '" ++ typeName ++
    "': expected a callable taking the row values", 0⟩

def RowBuilder.resolve (specs : List ColumnSpec) : PyRowFactory Obj → Except PyErr (RowBuilder Obj)
  | .namedTuple => (py.namedtupleClass (specs.map (·.name))).map .namedTuple
  | .dict => .ok (.dict (specs.map (·.name)))
  | .tuple => .ok .tuple
  | .ofClass cls => .ok (.ofClass cls (specs.map (·.name)))
  | .deferred factory => do
    let builder ← py.prepare factory specs
    if py.isCallable builder then .ok (.custom builder)
    else .error (uncallableBuilder (py.typeName builder))
  | .builder build => .ok (.custom build)

/-- `PyTuple::new`: the first item that cannot be converted ends it. -/
def pyTuple : List (Except Exception V) → Except Exception (List V)
  | [] => .ok []
  | item :: items => do
    let item ← item
    let items ← pyTuple items
    return item :: items

def rowValues (values : List (Except DriverRowIterationError V)) :
    Except DriverRowIterationError (List V) :=
  (pyTuple (values.map (·.mapError (·.toPyErr)))).mapError .pythonError

def setItem : List (String × V) → String → V → List (String × V)
  | [], name, value => [(name, value)]
  | item :: row, name, value =>
    if item.1 = name then (name, value) :: row else item :: setItem row name value

def namedValues : List String → List (Except DriverRowIterationError V) → List (String × V) →
    Except DriverRowIterationError (List (String × V))
  | name :: names, value :: values, row => do
    let value ← value
    namedValues names values (setItem row name value)
  | _, _, row => .ok row

/-- What `build` returns, and the user callables it has called. -/
structure Built (Obj : Type) where
  result : Except DriverRowIterationError Obj
  called : List Obj

/-- An error that a call raised. -/
def orPythonError {α : Type} (result : Except PyErr α) : Except DriverRowIterationError α :=
  result.mapError (fun err => .pythonError (.raised err))

def RowBuilder.build (values : List (Except DriverRowIterationError V)) :
    RowBuilder Obj → Built Obj
  | .namedTuple cls => ⟨do orPythonError (py.tupleNew cls (← rowValues values)), []⟩
  | .dict names => ⟨(namedValues names values []).map py.dict, []⟩
  | .tuple => ⟨(rowValues values).map py.tuple, []⟩
  | .ofClass cls names =>
    match namedValues names values [] with
    | .error err => ⟨.error err, []⟩
    | .ok kwargs => ⟨orPythonError (py.callKwargs cls kwargs), [cls]⟩
  | .custom build =>
    match rowValues values with
    | .error err => ⟨.error err, []⟩
    | .ok args => ⟨orPythonError (py.call build args), [build]⟩

/-- The factories that take the columns by name. -/
def PyRowFactory.isNamed : PyRowFactory Obj → Bool
  | .dict | .ofClass _ => true
  | _ => false

/-- The items of `ColumnDeserializer`. -/
def rowColumns {P : Interop} (R : Runtime P) (C : Containers P) (specs : List ColumnSpec)
    (cells : List (Except DecodeError Cell)) : List (Except DriverRowIterationError (PyVal P)) :=
  (deserializedColumns R C specs cells).map (·.mapError .deserialization)

section Failing

variable {values : List (Except DriverRowIterationError V)} {err : DriverRowIterationError}

theorem pyTuple_error {ε : Exception} {values : List (Except Exception V)}
    (h : firstError values = some ε) : pyTuple values = .error ε := by
  induction values with
  | nil => cases h
  | cons value values ih =>
    cases value with
    | error err =>
      cases h
      rfl
    | ok value =>
      rw [pyTuple, ih h]
      rfl

theorem firstError_mapError {ε ε' α : Type} (f : ε → ε') (values : List (Except ε α)) :
    firstError (values.map (·.mapError f)) = (firstError values).map f := by
  induction values with
  | nil => rfl
  | cons value values ih =>
    cases value with
    | error err => rfl
    | ok value => exact ih

/-- In a tuple the error has become an exception, which is then taken for one of Python's. -/
theorem rowValues_error (h : firstError values = some err) :
    rowValues values = .error (.pythonError err.toPyErr) := by
  have hitems : firstError (values.map (·.mapError (·.toPyErr))) = some err.toPyErr := by
    rw [firstError_mapError, h]
    rfl
  rw [rowValues, pyTuple_error hitems]
  rfl

theorem namedValues_error {names : List String} (hnames : values.length ≤ names.length)
    (h : firstError values = some err) (row : List (String × V)) :
    namedValues names values row = .error err := by
  induction values generalizing names row with
  | nil => cases h
  | cons value values ih =>
    cases names with
    | nil => simp at hnames
    | cons name names =>
      cases value with
      | error err' =>
        cases h
        rfl
      | ok value => exact ih (by simpa using hnames) h _

end Failing

theorem length_rowColumns {P : Interop} (R : Runtime P) (C : Containers P)
    (specs : List ColumnSpec) (cells : List (Except DecodeError Cell)) :
    (rowColumns R C specs cells).length ≤ (specs.map (·.name)).length := by
  simp only [rowColumns, deserializedColumns, List.length_map, List.length_zipIdx, List.length_zip]
  omega

theorem firstError_rowColumns {P : Interop} {R : Runtime P} {C : Containers P}
    {specs : List ColumnSpec} {cells : List (Except DecodeError Cell)}
    {err : DriverDeserializationError}
    (h : firstError (deserializedColumns R C specs cells) = some err) :
    firstError (rowColumns R C specs cells) = some (.deserialization err) := by
  rw [rowColumns, firstError_mapError, h]
  rfl

/-- What every builder gives for a row that cannot be decoded. -/
theorem build_error {builder : RowBuilder Obj} {factory : PyRowFactory Obj}
    {specs : List ColumnSpec} {values : List (Except DriverRowIterationError V)}
    {err : DriverRowIterationError} (hresolve : RowBuilder.resolve py specs factory = .ok builder)
    (hlength : values.length ≤ (specs.map (·.name)).length) (h : firstError values = some err) :
    builder.build py values =
      ⟨.error (if factory.isNamed then err else .pythonError err.toPyErr), []⟩ := by
  cases factory with
  | namedTuple =>
    obtain ⟨cls, -, rfl⟩ : ∃ cls, py.namedtupleClass (specs.map (·.name)) = .ok cls ∧
        RowBuilder.namedTuple cls = builder := by
      simp only [RowBuilder.resolve] at hresolve
      cases hcls : py.namedtupleClass (specs.map (·.name)) with
      | error err => simp [hcls, Except.map] at hresolve
      | ok cls => exact ⟨cls, rfl, by simpa [hcls, Except.map] using hresolve⟩
    simp only [RowBuilder.build, rowValues_error h]
    rfl
  | dict =>
    cases hresolve
    simp only [RowBuilder.build, namedValues_error hlength h]
    rfl
  | tuple =>
    cases hresolve
    simp only [RowBuilder.build, rowValues_error h]
    rfl
  | ofClass cls =>
    cases hresolve
    simp only [RowBuilder.build, namedValues_error hlength h]
    rfl
  | deferred user =>
    obtain ⟨prepared, -, hbuilder⟩ := bind_eq_ok_iff.mp hresolve
    split at hbuilder
    · cases hbuilder
      simp only [RowBuilder.build, rowValues_error h]
      rfl
    · cases hbuilder
  | builder build =>
    cases hresolve
    simp only [RowBuilder.build, rowValues_error h]
    rfl

/-- A row whose first undecodable column has the error `err`: no user code is called for it, and
the error is passed on as it is exactly by the factories that take the columns by name. -/
theorem build_deserialization_iff {P : Interop} {R : Runtime P} {C : Containers P}
    {py : Python (PyVal P) Obj} {factory : PyRowFactory Obj} {builder : RowBuilder Obj}
    {specs : List ColumnSpec} {cells : List (Except DecodeError Cell)}
    {err : DriverDeserializationError} (hresolve : RowBuilder.resolve py specs factory = .ok builder)
    (hfirst : firstError (deserializedColumns R C specs cells) = some err) :
    (builder.build py (rowColumns R C specs cells)).called = [] ∧
      ((builder.build py (rowColumns R C specs cells)).result = .error (.deserialization err) ↔
        factory.isNamed = true) ∧
      ∃ raised, (builder.build py (rowColumns R C specs cells)).result = .error raised ∧
        (raised.toPyErr.shown = (Exception.deserialization err).shown ↔ factory.isNamed = true) := by
  have hbuild := build_error py hresolve (length_rowColumns R C specs cells)
    (firstError_rowColumns hfirst)
  have hcls : shownDeserialization err ≠ ⟨.rowIterationError, none, none, none⟩ := by
    intro h
    have hkind := congrArg Shown.cls h
    unfold shownDeserialization at hkind
    split at hkind <;> cases hkind
  rw [hbuild]
  refine ⟨rfl, ?_, _, rfl, ?_⟩
  · cases factory.isNamed with
    | true => simp
    | false => simp
  · cases factory.isNamed with
    | true => simp [DriverRowIterationError.toPyErr]
    | false =>
      simp only [Bool.false_eq_true, if_false, iff_false]
      exact fun h => hcls h.symm

/-- What the paging code passes on: a raw row is the cells of its columns. -/
abbrev rowForeign (Obj : Type) : Foreign :=
  ⟨Unit, Unit, ColumnSpec, List (Except DecodeError Cell), Obj⟩

section Pages

variable {P : Interop} (R : Runtime P) (C : Containers P) (rowPy : Python (PyVal P) Obj)
  (object : Exception → PyErr)

/-- The error with its exception as the object that the paging code passes on. -/
def DriverRowIterationError.toPaging :
    DriverRowIterationError → ScyllaDriver.DriverRowIterationError
  | .deserialization source => .deserialization (object (.deserialization source))
  | .failedToFetchNextPage source => .failedToFetchNextPage source
  | .pythonError source => .pythonError (object source)

/-- The factory that the pages of a request are read with. -/
def PyRowFactory.toPaging (factory : PyRowFactory Obj) :
    ScyllaDriver.PyRowFactory (rowForeign Obj) where
  resolve specs := do
    let builder ← RowBuilder.resolve rowPy specs factory
    return ⟨fun cells => (builder.build rowPy (rowColumns R C specs cells)).result.mapError
      (·.toPaging object)⟩

/-- The iterator over a page, at a row that cannot be decoded. -/
theorem next_undecodable {factory : PyRowFactory Obj} {specs : List ColumnSpec}
    {builder : ScyllaDriver.RowBuilder (rowForeign Obj)} {cells : List (Except DecodeError Cell)}
    {rest : List (Except PyErr (List (Except DecodeError Cell)))}
    {err : DriverDeserializationError}
    (hresolve : (factory.toPaging R C rowPy object).resolve specs = .ok builder)
    (hfirst : firstError (deserializedColumns R C specs cells) = some err) :
    (RowsIteratorKind.rows (.ok cells :: rest) builder).next =
      (some (.error (if factory.isNamed then .deserialization (object (.deserialization err))
        else .pythonError (object (.deserialization err)))), .rows rest builder) := by
  obtain ⟨built, hbuilt, hbuilder⟩ := bind_eq_ok_iff.mp hresolve
  cases hbuilder
  have herror := build_error rowPy hbuilt (length_rowColumns R C specs cells)
    (firstError_rowColumns hfirst)
  simp only [RowsIteratorKind.next, herror]
  cases factory.isNamed <;> rfl

end Pages

/-- Objects are numbers: 0 is any row or class, 1 a callable. -/
def numbered : Python (PyVal wireInterop) Nat where
  namedtupleClass _ := .ok 0
  tupleNew _ _ := .ok 0
  tuple _ := 0
  dict _ := 0
  prepare _ _ := .ok 1
  isCallable object := object = 1
  typeName _ := "int"
  call _ _ := .ok 0
  callKwargs _ _ := .ok 0

/-- An int column with a cell of one byte. -/
def intColumn : List ColumnSpec := [⟨"v", .native .int⟩]

def oneByte : List (Except DecodeError Cell) := [.ok (some [7])]

def intError : DriverDeserializationError :=
  ⟨.scyllaDecodeFailed (.invalidValue .int ""), ⟨some "v", some 0, []⟩⟩

theorem build_deserialization_of_dict :
    RowBuilder.resolve numbered intColumn .dict = .ok (.dict ["v"]) ∧
    firstError (deserializedColumns wireRuntime (cpython wireRuntime) intColumn oneByte) =
      some intError ∧
    ((RowBuilder.dict ["v"]).build numbered
      (rowColumns wireRuntime (cpython wireRuntime) intColumn oneByte)).result =
        .error (.deserialization intError) := by
  have hresolve : RowBuilder.resolve numbered intColumn .dict = .ok (.dict ["v"]) := rfl
  have hfirst : firstError (deserializedColumns wireRuntime (cpython wireRuntime) intColumn oneByte) =
      some intError := rfl
  obtain ⟨-, hnamed, -⟩ := build_deserialization_iff hresolve hfirst
  exact ⟨hresolve, hfirst, hnamed.mpr rfl⟩

/-- The same row as a tuple raises a `RowIterationError` that names no column. -/
theorem build_python_error_of_tuple :
    RowBuilder.resolve numbered intColumn .tuple = .ok .tuple ∧
    firstError (deserializedColumns wireRuntime (cpython wireRuntime) intColumn oneByte) =
      some intError ∧
    ∃ raised, (RowBuilder.tuple.build numbered
        (rowColumns wireRuntime (cpython wireRuntime) intColumn oneByte)).result = .error raised ∧
      raised = .pythonError (.deserialization intError) ∧
      raised.toPyErr.shown = ⟨.rowIterationError, none, none, none⟩ ∧
      (Exception.deserialization intError).shown = ⟨.decodeFailedError, some "v", some 0, none⟩ :=
  ⟨rfl, rfl, _, rfl, rfl, rfl, rfl⟩

end ScyllaDriver.RowFactories
