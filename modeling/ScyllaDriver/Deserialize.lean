import ScyllaDriver.Serialize

/-! Cells to Python objects. The iterators of the Rust driver take one element after
the other off the content of a cell; an element that fails ends the reading. -/

namespace ScyllaDriver

open Framing

variable {P : Interop} (R : Runtime P) (C : Containers P)

/-- The number of elements in front of a list, a set or a map. -/
def readCount (content : Bytes) : DeserResult (Nat × Bytes) :=
  match readI32 content with
  | none => .error (.scyllaDecodeFailed .tooFewBytes)
  | some (count, rest) =>
    if count < 0 then .error (.scyllaDecodeFailed .tooFewBytes) else .ok (count.toNat, rest)

/-- One element is read, converted and put into the container; an error names its index. -/
def deserializeItems {α σ : Type} (segment : Nat → InnerSegment)
    (read : Bytes → Option (α × Bytes)) (element : α → DeserResult σ)
    (builder : List σ → σ → Except PyErr (List σ)) (count : Nat) (content : Bytes) :
    DeserResult (List σ) :=
  foldItems read
    (fun i => (DriverDeserializationError.scyllaDecodeFailed .tooFewBytes).pushInner (segment i))
    (fun i items raw => do
      let item ← (element raw).mapError (·.pushInner (segment i))
      (builder items item).mapError
        (fun err => (DriverDeserializationError.pythonConversionFailed err).pushInner (segment i)))
    count 0 content []

def listAppend {σ : Type} (items : List σ) (item : σ) : Except PyErr (List σ) := .ok (items ++ [item])

def deserializeSequence (element : Cell → DeserResult (PyVal P))
    (builder : List (PyVal P) → PyVal P → Except PyErr (List (PyVal P))) (content : Bytes) :
    DeserResult (List (PyVal P)) := do
  let (count, rest) ← readCount content
  deserializeItems .sequenceIndex readCell element builder count rest

/-- A key and the value after it. -/
def readPair (bytes : Bytes) : Option ((Cell × Cell) × Bytes) := do
  let (key, rest) ← readCell bytes
  let (value, rest) ← readCell rest
  return ((key, value), rest)

def deserializeMap (key value : Cell → DeserResult (PyVal P)) (content : Bytes) :
    DeserResult (List (PyVal P × PyVal P)) := do
  let (count, rest) ← readCount content
  deserializeItems .mapIndex readPair
    (fun raw => do return (← key raw.1, ← value raw.2)) C.setItem count rest

def deserializeVector (size : Option Nat) (element : Cell → DeserResult (PyVal P))
    (dimensions : Nat) (content : Bytes) : DeserResult (List (PyVal P)) :=
  deserializeItems .vectorIndex (R.readVectorElement size) element listAppend dimensions content

/-- `UdtIterator`: a field behind the end of the content is null. -/
def readUdtField : Bytes → Option (Cell × Bytes)
  | [] => some (none, [])
  | bytes => readCell bytes

/-- The null cell gives `null`, the empty one `CqlEmpty`. -/
def orEmpty (null : PyVal P) (read : Bytes → DeserResult (PyVal P)) :
    Cell → DeserResult (PyVal P)
  | none => .ok null
  | some [] => .ok .cqlEmpty
  | some content => read content

mutual

def deserCqlPyValue : ColumnType → Cell → DeserResult (PyVal P)
  | .native typ, cell =>
    if typ.canBeEmpty then match cell with
      | none => .ok .none
      | some content => (deserNative R typ content).map .scalar
    else orEmpty .none (fun content => (deserNative R typ content).map .scalar) cell
  | .list _ elt, cell =>
    orEmpty (.list []) (fun content => do
      let items ← deserializeSequence (deserCqlPyValue elt) listAppend content
      return .list items) cell
  | .map _ key value, cell =>
    orEmpty (.dict []) (fun content => do
      let items ← deserializeMap C (deserCqlPyValue key) (deserCqlPyValue value) content
      return .dict items) cell
  | .set _ elt, cell =>
    orEmpty (.set []) (fun content => do
      let items ← deserializeSequence (deserCqlPyValue elt) C.add content
      return .set items) cell
  | .userDefinedType _ _ _ fieldTypes, cell =>
    orEmpty .none (fun content => do
      let items ← deserUdtFields fieldTypes content []
      return .dict items) cell
  | .vector elt dimensions, cell =>
    orEmpty .none (fun content => do
      let items ← deserializeVector R (R.typeSizeForVector elt) (deserCqlPyValue elt) dimensions
        content
      return .list items) cell
  | .tuple elts, cell =>
    orEmpty .none (fun content => do
      let items ← (deserTupleElements elts 0 content).mapError .ofTupleElement
      return .tuple items) cell
termination_by structural typ => typ

def deserUdtFields : List (String × ColumnType) → Bytes → List (PyVal P × PyVal P) →
    DeserResult (List (PyVal P × PyVal P))
  | [], _, items => .ok items
  | (fieldName, fieldType) :: fieldTypes, bytes, items =>
    match readUdtField bytes with
    | none => .error ((DriverDeserializationError.scyllaDecodeFailed .tooFewBytes).pushInner
        (.udtField fieldName))
    | some (cell, rest) => do
      let value ← (deserCqlPyValue fieldType cell).mapError (·.pushInner (.udtField fieldName))
      let items ← (C.setItem items (.scalar (.str fieldName), value)).mapError
        (fun err => (DriverDeserializationError.pythonConversionFailed err).pushInner
          (.udtField fieldName))
      deserUdtFields fieldTypes rest items
termination_by structural fieldTypes => fieldTypes

/-- The elements that `PyTuple::new` takes from the iterator over the types. -/
def deserTupleElements : List ColumnType → Nat → Bytes → DeserResult (List (PyVal P))
  | [], _, _ => .ok []
  | elt :: elts, i, bytes =>
    match readCell bytes with
    | none => .error ((DriverDeserializationError.scyllaDecodeFailed .tooFewBytes).pushInner
        (.tupleIndex i))
    | some (cell, rest) => do
      let item ← (deserCqlPyValue elt cell).mapError (·.pushInner (.tupleIndex i))
      let items ← deserTupleElements elts (i + 1) rest
      return item :: items
termination_by structural elts => elts

end

variable {R C}

theorem orEmpty_eq_ok_iff {null value : PyVal P} {read : Bytes → DeserResult (PyVal P)}
    {cell : Cell} :
    orEmpty null read cell = .ok value ↔ (cell = none ∧ value = null) ∨
      (cell = some [] ∧ value = .cqlEmpty) ∨
      ∃ content, content ≠ [] ∧ cell = some content ∧ read content = .ok value := by
  match cell with
  | none => simp [orEmpty, eq_comm]
  | some [] => simp [orEmpty, eq_comm]
  | some (byte :: bytes) => simp [orEmpty]

theorem readCount_length {count : Nat} (h : count ≤ maxLength) (rest : Bytes) :
    readCount (toBeInt 4 count ++ rest) = .ok (count, rest) := by
  simp [readCount, readI32_length h]

theorem deserializeItems_eq_ok_iff {α σ : Type} {segment : Nat → InnerSegment}
    {read : Bytes → Option (α × Bytes)} {element : α → DeserResult σ}
    {builder : List σ → σ → Except PyErr (List σ)} {count : Nat} {content : Bytes}
    {items : List σ} :
    deserializeItems segment read element builder count content = .ok items ↔
      ∃ raws, raws.length = count ∧ Reads read content raws ∧
        ∃ values, List.Forall₂ (fun raw value => element raw = .ok value) raws values ∧
          values.foldlM builder [] = .ok items := by
  rw [deserializeItems, foldItems_eq_ok_iff]
  have hfold {raws : List α} := @foldIdx_eq_ok_iff _ _ _ _ _
    (fun i items raw => do
      let item ← (element raw).mapError (·.pushInner (segment i))
      (builder items item).mapError
        (fun err => (DriverDeserializationError.pythonConversionFailed err).pushInner (segment i)))
    (fun raw value => element raw = .ok value) builder
    (by simp [bind_eq_ok_iff, mapError_eq_ok_iff]) raws 0 [] items
  simp only [hfold]

theorem foldlM_listAppend {σ : Type} {items values final : List σ} :
    values.foldlM listAppend items = .ok final ↔ final = items ++ values := by
  induction values generalizing items with
  | nil => simp [pure, Except.pure, eq_comm]
  | cons value values ih => simp [List.foldlM_cons, bind_eq_ok_iff, listAppend, ih]

theorem deserializeSequence_eq_ok_iff {element : Cell → DeserResult (PyVal P)}
    {builder : List (PyVal P) → PyVal P → Except PyErr (List (PyVal P))} {content : Bytes}
    {items : List (PyVal P)} :
    deserializeSequence element builder content = .ok items ↔ ∃ rest cells,
      readCount content = .ok (cells.length, rest) ∧ Reads readCell rest cells ∧
      ∃ values, List.Forall₂ (fun cell value => element cell = .ok value) cells values ∧
        values.foldlM builder [] = .ok items := by
  simp only [deserializeSequence, bind_eq_ok_iff, deserializeItems_eq_ok_iff, Prod.exists]
  constructor
  · rintro ⟨_, rest, hcount, cells, rfl, hreads, hvalues⟩
    exact ⟨rest, cells, hcount, hreads, hvalues⟩
  · rintro ⟨rest, cells, hcount, hreads, hvalues⟩
    exact ⟨_, rest, hcount, cells, rfl, hreads, hvalues⟩

theorem deserializeMap_eq_ok_iff {key value : Cell → DeserResult (PyVal P)} {content : Bytes}
    {items : List (PyVal P × PyVal P)} :
    deserializeMap C key value content = .ok items ↔ ∃ rest cells,
      readCount content = .ok (cells.length, rest) ∧ Reads readPair rest cells ∧
      ∃ pairs, List.Forall₂ (fun cell pair => key cell.1 = .ok pair.1 ∧
          value cell.2 = .ok pair.2) cells pairs ∧
        pairs.foldlM C.setItem [] = .ok items := by
  have helement (cell : Cell × Cell) (pair : PyVal P × PyVal P) :
      (do return (← key cell.1, ← value cell.2)) = Except.ok pair ↔
        key cell.1 = .ok pair.1 ∧ value cell.2 = .ok pair.2 := by
    simp [bind_eq_ok_iff, pure, Except.pure, Prod.ext_iff]
  simp only [deserializeMap, bind_eq_ok_iff, deserializeItems_eq_ok_iff, Prod.exists, helement]
  constructor
  · rintro ⟨_, rest, hcount, cells, rfl, hreads, hvalues⟩
    exact ⟨rest, cells, hcount, hreads, hvalues⟩
  · rintro ⟨rest, cells, hcount, hreads, hvalues⟩
    exact ⟨_, rest, hcount, cells, rfl, hreads, hvalues⟩

theorem deserTupleElements_eq_ok_iff {elts : List ColumnType} {i : Nat} {bytes : Bytes}
    {items : List (PyVal P)} :
    deserTupleElements R C elts i bytes = .ok items ↔ ∃ cells, cells.length = elts.length ∧
      Reads readCell bytes cells ∧
      List.Forall₂ (fun pair item => deserCqlPyValue R C pair.1 pair.2 = .ok item)
        (elts.zip cells) items := by
  induction elts generalizing i bytes items with
  | nil =>
    simp only [deserTupleElements, List.length_nil, List.length_eq_zero_iff, exists_eq_left,
      List.zip_nil_left, List.forall₂_nil_left_iff, Reads, true_and, Except.ok.injEq]
    exact eq_comm
  | cons elt elts ih =>
    rw [deserTupleElements]
    constructor
    · intro h
      split at h
      · cases h
      · rename_i cell rest hread
        simp only [bind_eq_ok_iff, mapError_eq_ok_iff, ih] at h
        obtain ⟨item, hitem, items, ⟨cells, hlength, hreads, hitems⟩, hall⟩ := h
        obtain rfl := Except.ok.inj hall
        exact ⟨cell :: cells, by simp [hlength], ⟨rest, hread, hreads⟩, .cons hitem hitems⟩
    · rintro ⟨cells, hlength, hreads, hitems⟩
      cases cells with
      | nil => simp at hlength
      | cons cell cells =>
        obtain ⟨rest, hread, hreads⟩ := hreads
        rw [List.zip_cons_cons] at hitems
        cases hitems with
        | cons hitem hitems =>
          simp only [hread, bind_eq_ok_iff, mapError_eq_ok_iff, ih]
          exact ⟨_, hitem, _, ⟨cells, by simpa using hlength, hreads, hitems⟩, rfl⟩

/-- The keys of the dict that a UDT is read into, with their values. -/
def fieldPairs (fieldTypes : List (String × ColumnType)) (values : List (PyVal P)) :
    List (PyVal P × PyVal P) :=
  (fieldTypes.zip values).map (fun pair => (.scalar (.str pair.1.1), pair.2))

theorem deserUdtFields_eq_ok_iff {fieldTypes : List (String × ColumnType)} {bytes : Bytes}
    {items final : List (PyVal P × PyVal P)} :
    deserUdtFields R C fieldTypes bytes items = .ok final ↔ ∃ cells,
      cells.length = fieldTypes.length ∧ Reads readUdtField bytes cells ∧
      ∃ values, List.Forall₂ (fun pair value => deserCqlPyValue R C pair.1.2 pair.2 = .ok value)
          (fieldTypes.zip cells) values ∧
        (fieldPairs fieldTypes values).foldlM C.setItem items = .ok final := by
  induction fieldTypes generalizing bytes items with
  | nil =>
    simp only [deserUdtFields, List.length_nil, List.length_eq_zero_iff, exists_eq_left,
      List.zip_nil_left, List.forall₂_nil_left_iff, Reads, true_and, fieldPairs,
      List.map_nil, List.foldlM_nil, pure, Except.pure, Except.ok.injEq]
  | cons field fieldTypes ih =>
    obtain ⟨fieldName, fieldType⟩ := field
    rw [deserUdtFields]
    constructor
    · intro h
      split at h
      · cases h
      · rename_i cell rest hread
        simp only [bind_eq_ok_iff, mapError_eq_ok_iff, ih] at h
        obtain ⟨value, hvalue, items', hset, cells, hlength, hreads, values, hvalues, hall⟩ := h
        refine ⟨cell :: cells, by simp [hlength], ⟨rest, hread, hreads⟩, value :: values,
          .cons hvalue hvalues, ?_⟩
        exact bind_eq_ok_iff.mpr ⟨items', hset, hall⟩
    · rintro ⟨cells, hlength, hreads, values, hvalues, hall⟩
      cases cells with
      | nil => simp at hlength
      | cons cell cells =>
        obtain ⟨rest, hread, hreads⟩ := hreads
        rw [List.zip_cons_cons] at hvalues
        cases hvalues with
        | cons hvalue hvalues =>
          obtain ⟨items', hset, hall⟩ := bind_eq_ok_iff.mp hall
          simp only [hread, bind_eq_ok_iff, mapError_eq_ok_iff, ih]
          exact ⟨_, hvalue, items', hset, cells, by simpa using hlength, hreads, _, hvalues, hall⟩

end ScyllaDriver
