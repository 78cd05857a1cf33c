import ScyllaDriver.Deserialize

/-! Where in a cell the decoding fails: the path from the column to the first inner value that
cannot be read. Every error at the column is the error of such a value, with what the
containers on its way made of it. -/

namespace ScyllaDriver

open Framing

abbrev InnerPath := List InnerSegment

def InnerSegment.isTuple : InnerSegment → Bool
  | .tupleIndex _ => true
  | _ => false

/-- One inner value to come: its place, how it is read, and where that can fail. -/
structure Slot (α σ : Type) where
  segment : InnerSegment
  element : α → DeserResult σ
  fails : α → InnerPath → DeserializationErrorKind → Prop

section Slots

variable {α σ : Type} (read : Bytes → Option (α × Bytes))
  (builder : List σ → σ → Except PyErr (List σ))

/-- The first of the slots that cannot be read, converted or put into the container. -/
inductive FailsAmong : List (Slot α σ) → Bytes → List σ → InnerSegment → InnerPath →
    DeserializationErrorKind → Prop
  | unreadable {slot slots bytes items} (hread : read bytes = none) :
    FailsAmong (slot :: slots) bytes items slot.segment [] (.scyllaDecodeFailed .tooFewBytes)
  | element {slot slots bytes items raw rest path kind} (hread : read bytes = some (raw, rest))
      (hfails : slot.fails raw path kind) :
    FailsAmong (slot :: slots) bytes items slot.segment path kind
  | refused {slot slots bytes items raw rest item err} (hread : read bytes = some (raw, rest))
      (helement : slot.element raw = .ok item) (hbuild : builder items item = .error err) :
    FailsAmong (slot :: slots) bytes items slot.segment [] (.pythonConversionFailed (.raised err))
  | later {slot slots bytes items raw rest item items' segment path kind}
      (hread : read bytes = some (raw, rest)) (helement : slot.element raw = .ok item)
      (hbuild : builder items item = .ok items')
      (hrest : FailsAmong slots rest items' segment path kind) :
    FailsAmong (slot :: slots) bytes items segment path kind

/-- The loop that the containers share. -/
def deserSlots : List (Slot α σ) → Bytes → List σ → DeserResult (List σ)
  | [], _, items => .ok items
  | slot :: slots, bytes, items =>
    match read bytes with
    | none => .error ((DriverDeserializationError.scyllaDecodeFailed .tooFewBytes).pushInner
        slot.segment)
    | some (raw, rest) => do
      let item ← (slot.element raw).mapError (·.pushInner slot.segment)
      let items ← (builder items item).mapError (fun err =>
        (DriverDeserializationError.pythonConversionFailed err).pushInner slot.segment)
      deserSlots slots rest items

/-- The elements of a list, a set, a map or a vector. -/
def itemSlots (segment : Nat → InnerSegment) (element : α → DeserResult σ)
    (fails : α → InnerPath → DeserializationErrorKind → Prop) (start count : Nat) :
    List (Slot α σ) :=
  (List.range' start count).map fun i => ⟨segment i, element, fails⟩

end Slots

/-- An error that has come from the failing value out to the value the path starts at. The
elements of a tuple are raised as an exception. -/
def reported : InnerPath → DeserializationErrorKind → DriverDeserializationError
  | [], kind => ⟨kind, {}⟩
  | segment :: path, kind =>
    let err := (reported path kind).pushInner segment
    if segment.isTuple then err.ofTupleElement else err

variable {P : Interop} (R : Runtime P) (C : Containers P)

/-- A container whose count cannot be read, or one of its elements. -/
def CountedFails {α σ : Type} (read : Bytes → Option (α × Bytes))
    (builder : List σ → σ → Except PyErr (List σ)) (slots : Nat → List (Slot α σ)) (content : Bytes)
    (path : InnerPath) (kind : DeserializationErrorKind) : Prop :=
  (readCount content = .error (.scyllaDecodeFailed .tooFewBytes) ∧ path = [] ∧
    kind = .scyllaDecodeFailed .tooFewBytes) ∨
  ∃ count rest segment inner, readCount content = .ok (count, rest) ∧ path = segment :: inner ∧
    FailsAmong read builder (slots count) rest [] segment inner kind

mutual

/-- Decoding the cell first fails at the inner value that `path` leads to, outermost segment
first. -/
def Fails : ColumnType → Cell → InnerPath → DeserializationErrorKind → Prop
  | .native typ, cell, path, kind => ∃ content, cell = some content ∧
      (typ.canBeEmpty = true ∨ content ≠ []) ∧ path = [] ∧
      (deserNative R typ content).map PyVal.scalar = .error ⟨kind, {}⟩
  | .list _ elt, cell, path, kind => ∃ content, cell = some content ∧ content ≠ [] ∧
      CountedFails readCell listAppend
        (itemSlots .sequenceIndex (deserCqlPyValue R C elt) (Fails elt) 0) content path kind
  | .map _ key value, cell, path, kind => ∃ content, cell = some content ∧ content ≠ [] ∧
      CountedFails readPair C.setItem
        (itemSlots .mapIndex
          (fun raw => do return (← deserCqlPyValue R C key raw.1, ← deserCqlPyValue R C value raw.2))
          (fun raw path kind => Fails key raw.1 path kind ∨
            (∃ k, deserCqlPyValue R C key raw.1 = .ok k) ∧ Fails value raw.2 path kind) 0)
        content path kind
  | .set _ elt, cell, path, kind => ∃ content, cell = some content ∧ content ≠ [] ∧
      CountedFails readCell C.add
        (itemSlots .sequenceIndex (deserCqlPyValue R C elt) (Fails elt) 0) content path kind
  | .userDefinedType _ _ _ fieldTypes, cell, path, kind => ∃ content segment inner,
      cell = some content ∧ content ≠ [] ∧ path = segment :: inner ∧
      FailsAmong readUdtField C.setItem (fieldSlots fieldTypes) content [] segment inner kind
  | .vector elt dimensions, cell, path, kind => ∃ content segment inner,
      cell = some content ∧ content ≠ [] ∧ path = segment :: inner ∧
      FailsAmong (R.readVectorElement (R.typeSizeForVector elt)) listAppend
        (itemSlots .vectorIndex (deserCqlPyValue R C elt) (Fails elt) 0 dimensions) content []
        segment inner kind
  | .tuple elts, cell, path, kind => ∃ content segment inner,
      cell = some content ∧ content ≠ [] ∧ path = segment :: inner ∧
      FailsAmong readCell listAppend (tupleSlots elts 0) content [] segment inner kind
termination_by structural typ => typ

def fieldSlots : List (String × ColumnType) → List (Slot Cell (PyVal P × PyVal P))
  | [] => []
  | (fieldName, fieldType) :: fieldTypes =>
    ⟨.udtField fieldName,
      fun cell => (deserCqlPyValue R C fieldType cell).map (fun v => (.scalar (.str fieldName), v)),
      Fails fieldType⟩ :: fieldSlots fieldTypes
termination_by structural fieldTypes => fieldTypes

def tupleSlots : List ColumnType → Nat → List (Slot Cell (PyVal P))
  | [], _ => []
  | elt :: elts, i => ⟨.tupleIndex i, deserCqlPyValue R C elt, Fails elt⟩ :: tupleSlots elts (i + 1)
termination_by structural elts => elts

end

variable {R C}

section Slots

variable {α σ : Type} {read : Bytes → Option (α × Bytes)}
  {builder : List σ → σ → Except PyErr (List σ)}

/-- The errors of the slot are those of its failing values, as they arrive. -/
def Slot.Sound (slot : Slot α σ) : Prop :=
  ∀ raw err, slot.element raw = .error err ↔
    ∃ path kind, slot.fails raw path kind ∧ err = reported path kind

theorem deserSlots_eq_error_iff {slots : List (Slot α σ)} (hslots : ∀ slot ∈ slots, slot.Sound)
    {bytes : Bytes} {items : List σ} {err : DriverDeserializationError} :
    deserSlots read builder slots bytes items = .error err ↔
      ∃ segment path kind, FailsAmong read builder slots bytes items segment path kind ∧
        err = (reported path kind).pushInner segment := by
  induction slots generalizing bytes items with
  | nil =>
    constructor
    · intro h
      cases h
    · rintro ⟨segment, path, kind, hfails, -⟩
      cases hfails
  | cons slot slots ih =>
    rw [List.forall_mem_cons] at hslots
    have hrest := @ih hslots.2
    constructor
    · intro h
      rw [deserSlots] at h
      split at h
      · rename_i hread
        exact ⟨_, _, _, .unreadable hread, (Except.error.inj h).symm⟩
      · rename_i raw rest hread
        rcases bind_eq_error_iff.mp h with helement | ⟨item, helement, h⟩
        · obtain ⟨source, hsource, rfl⟩ := mapError_eq_error_iff.mp helement
          obtain ⟨path, kind, hfails, rfl⟩ := (hslots.1 raw source).mp hsource
          exact ⟨slot.segment, path, kind, .element hread hfails, rfl⟩
        · rw [mapError_eq_ok_iff] at helement
          rcases bind_eq_error_iff.mp h with hbuild | ⟨items', hbuild, h⟩
          · obtain ⟨source, hsource, rfl⟩ := mapError_eq_error_iff.mp hbuild
            exact ⟨_, _, _, .refused hread helement hsource, rfl⟩
          · rw [mapError_eq_ok_iff] at hbuild
            obtain ⟨segment, path, kind, hfails, rfl⟩ := hrest.mp h
            exact ⟨segment, path, kind, .later hread helement hbuild hfails, rfl⟩
    · rintro ⟨segment, path, kind, hfails, rfl⟩
      cases hfails with
      | unreadable hread =>
        rw [deserSlots, hread]
        rfl
      | element hread hfails =>
        rw [deserSlots, hread]
        refine bind_eq_error_iff.mpr (.inl (mapError_eq_error_iff.mpr ⟨_, ?_, rfl⟩))
        exact (hslots.1 _ _).mpr ⟨path, kind, hfails, rfl⟩
      | refused hread helement hbuild =>
        rw [deserSlots, hread]
        refine bind_eq_error_iff.mpr (.inr ⟨_, mapError_eq_ok_iff.mpr helement, ?_⟩)
        exact bind_eq_error_iff.mpr (.inl (mapError_eq_error_iff.mpr ⟨_, hbuild, rfl⟩))
      | later hread helement hbuild hfails =>
        rw [deserSlots, hread]
        refine bind_eq_error_iff.mpr (.inr ⟨_, mapError_eq_ok_iff.mpr helement, ?_⟩)
        refine bind_eq_error_iff.mpr (.inr ⟨_, mapError_eq_ok_iff.mpr hbuild, ?_⟩)
        exact hrest.mpr ⟨segment, path, kind, hfails, rfl⟩

theorem deserializeItems_eq_deserSlots (segment : Nat → InnerSegment) (element : α → DeserResult σ)
    (fails : α → InnerPath → DeserializationErrorKind → Prop) (count : Nat) (content : Bytes) :
    deserializeItems segment read element builder count content =
      deserSlots read builder (itemSlots segment element fails 0 count) content [] := by
  unfold deserializeItems itemSlots
  generalize 0 = start, ([] : List σ) = items
  induction count generalizing start content items with
  | zero => rfl
  | succ count ih =>
    rw [List.range'_succ, List.map_cons, foldItems, deserSlots]
    cases read content with
    | none => rfl
    | some raw => simp only [bind_assoc, ih]

theorem itemSlots_sound {segment : Nat → InnerSegment} {element : α → DeserResult σ}
    {fails : α → InnerPath → DeserializationErrorKind → Prop}
    (h : ∀ raw err, element raw = .error err ↔
      ∃ path kind, fails raw path kind ∧ err = reported path kind) (start count : Nat) :
    ∀ slot ∈ itemSlots segment element fails start count, slot.Sound := by
  intro slot hslot
  obtain ⟨i, -, rfl⟩ := List.mem_map.mp hslot
  exact h

theorem itemSlots_isTuple {segment : Nat → InnerSegment} {element : α → DeserResult σ}
    {fails : α → InnerPath → DeserializationErrorKind → Prop}
    (h : ∀ i, (segment i).isTuple = false) (start count : Nat) :
    ∀ s ∈ (itemSlots segment element fails start count).map Slot.segment, s.isTuple = false := by
  intro s hs
  simp only [itemSlots, List.map_map, List.mem_map, Function.comp_apply] at hs
  obtain ⟨i, -, rfl⟩ := hs
  exact h i

theorem FailsAmong.segment_mem {slots : List (Slot α σ)} {bytes : Bytes} {items : List σ}
    {segment : InnerSegment} {path : InnerPath} {kind : DeserializationErrorKind}
    (h : FailsAmong read builder slots bytes items segment path kind) :
    segment ∈ slots.map Slot.segment := by
  induction h with
  | later _ _ _ _ ih => exact List.mem_cons_of_mem _ ih
  | _ => exact List.mem_cons_self

/-- Outside a tuple the segment is only added. -/
theorem deserSlots_eq_error_iff_reported {slots : List (Slot α σ)}
    (hslots : ∀ slot ∈ slots, slot.Sound)
    (hsegments : ∀ segment ∈ slots.map Slot.segment, segment.isTuple = false)
    {bytes : Bytes} {items : List σ} {err : DriverDeserializationError} :
    deserSlots read builder slots bytes items = .error err ↔
      ∃ segment path kind, FailsAmong read builder slots bytes items segment path kind ∧
        err = reported (segment :: path) kind := by
  rw [deserSlots_eq_error_iff hslots]
  constructor
  · rintro ⟨segment, path, kind, hfails, rfl⟩
    refine ⟨segment, path, kind, hfails, ?_⟩
    simp only [reported, hsegments segment hfails.segment_mem, Bool.false_eq_true, if_false]
  · rintro ⟨segment, path, kind, hfails, rfl⟩
    refine ⟨segment, path, kind, hfails, ?_⟩
    simp only [reported, hsegments segment hfails.segment_mem, Bool.false_eq_true, if_false]

theorem readCount_error {content : Bytes} {err : DriverDeserializationError}
    (h : readCount content = .error err) : err = .scyllaDecodeFailed .tooFewBytes := by
  unfold readCount at h
  split at h
  · exact (Except.error.inj h).symm
  · split at h
    · exact (Except.error.inj h).symm
    · cases h

theorem counted_eq_error_iff {segment : Nat → InnerSegment} {element : α → DeserResult σ}
    {fails : α → InnerPath → DeserializationErrorKind → Prop}
    (h : ∀ raw err, element raw = .error err ↔
      ∃ path kind, fails raw path kind ∧ err = reported path kind)
    (hsegment : ∀ i, (segment i).isTuple = false) {content : Bytes}
    {err : DriverDeserializationError} :
    (do
      let (count, rest) ← readCount content
      deserializeItems segment read element builder count rest) = .error err ↔
      ∃ path kind, CountedFails read builder (itemSlots segment element fails 0) content path kind ∧
        err = reported path kind := by
  have hitems (count : Nat) (rest : Bytes) :
      deserializeItems segment read element builder count rest = .error err ↔
        ∃ segment' path kind, FailsAmong read builder (itemSlots segment element fails 0 count) rest []
          segment' path kind ∧ err = reported (segment' :: path) kind := by
    rw [deserializeItems_eq_deserSlots segment element fails,
      deserSlots_eq_error_iff_reported (itemSlots_sound h 0 count) (itemSlots_isTuple hsegment 0 count)]
  rw [bind_eq_error_iff]
  constructor
  · rintro (hcount | ⟨⟨count, rest⟩, hcount, hrest⟩)
    · obtain rfl := readCount_error hcount
      exact ⟨[], _, .inl ⟨hcount, rfl, rfl⟩, rfl⟩
    · obtain ⟨segment', path, kind, hfails, rfl⟩ := (hitems count rest).mp hrest
      exact ⟨segment' :: path, kind, .inr ⟨count, rest, segment', path, hcount, rfl, hfails⟩, rfl⟩
  · rintro ⟨path, kind, ⟨hcount, rfl, rfl⟩ | ⟨count, rest, segment', inner, hcount, rfl, hfails⟩, rfl⟩
    · exact .inl hcount
    · exact .inr ⟨(count, rest), hcount, (hitems count rest).mpr ⟨segment', inner, kind, hfails, rfl⟩⟩

end Slots

theorem deserTupleElements_eq_deserSlots (elts : List ColumnType) (i : Nat) (bytes : Bytes)
    (items : List (PyVal P)) :
    deserSlots readCell listAppend (tupleSlots R C elts i) bytes items =
      (deserTupleElements R C elts i bytes).map (items ++ ·) := by
  induction elts generalizing i bytes items with
  | nil => simp [tupleSlots, deserSlots, deserTupleElements, Except.map]
  | cons elt elts ih =>
    rw [tupleSlots, deserSlots, deserTupleElements]
    cases readCell bytes with
    | none => rfl
    | some raw =>
      dsimp only
      cases deserCqlPyValue R C elt raw.1 with
      | error err => rfl
      | ok item =>
        refine (ih (i + 1) raw.2 (items ++ [item])).trans ?_
        cases deserTupleElements R C elts (i + 1) raw.2 with
        | error err => rfl
        | ok items' =>
          refine congrArg Except.ok ?_
          dsimp only
          rw [List.append_assoc]
          rfl

theorem deserUdtFields_eq_deserSlots (fieldTypes : List (String × ColumnType)) (bytes : Bytes)
    (items : List (PyVal P × PyVal P)) :
    deserUdtFields R C fieldTypes bytes items =
      deserSlots readUdtField C.setItem (fieldSlots R C fieldTypes) bytes items := by
  induction fieldTypes generalizing bytes items with
  | nil => rfl
  | cons field fieldTypes ih =>
    rw [deserUdtFields, fieldSlots, deserSlots]
    cases readUdtField bytes with
    | none => rfl
    | some raw =>
      dsimp only
      cases deserCqlPyValue R C field.2 raw.1 with
      | error err => rfl
      | ok value =>
        simp only [ih]
        rfl

theorem orEmpty_eq_error_iff {null : PyVal P} {read : Bytes → DeserResult (PyVal P)} {cell : Cell}
    {err : DriverDeserializationError} :
    orEmpty null read cell = .error err ↔
      ∃ content, cell = some content ∧ content ≠ [] ∧ read content = .error err := by
  match cell with
  | none => simp [orEmpty]
  | some [] => simp [orEmpty]
  | some (byte :: bytes) => simp [orEmpty]

theorem map_eq_error_iff {ε α β : Type} {x : Except ε α} {f : α → β} {err : ε} :
    x.map f = .error err ↔ x = .error err := by
  cases x <;> simp [Except.map]

theorem deserNative_error {typ : NativeType} {content : Bytes} {err : DriverDeserializationError}
    (h : deserNative R typ content = .error err) : ∃ kind, err = ⟨kind, {}⟩ := by
  unfold deserNative at h
  split at h
  · cases h
  · rcases bind_eq_error_iff.mp h with hdecode | ⟨rustValue, -, hpython⟩
    · obtain ⟨source, -, rfl⟩ := mapError_eq_error_iff.mp hdecode
      exact ⟨_, rfl⟩
    · obtain ⟨source, -, rfl⟩ := mapError_eq_error_iff.mp hpython
      exact ⟨_, rfl⟩

/-- The errors at a type are those of its failing inner values, as they arrive there. -/
def Located (R : Runtime P) (C : Containers P) (typ : ColumnType) : Prop :=
  ∀ cell err, deserCqlPyValue R C typ cell = .error err ↔
    ∃ path kind, Fails R C typ cell path kind ∧ err = reported path kind

theorem located_native (typ : NativeType) : Located R C (.native typ) := by
  have hread (content : Bytes) (err : DriverDeserializationError) :
      (deserNative R typ content).map PyVal.scalar = .error err ↔
        ∃ kind, (deserNative R typ content).map PyVal.scalar = .error ⟨kind, {}⟩ ∧
          err = reported [] kind := by
    constructor
    · intro h
      obtain ⟨kind, rfl⟩ := deserNative_error (map_eq_error_iff.mp h)
      exact ⟨kind, h, rfl⟩
    · rintro ⟨kind, h, rfl⟩
      exact h
  intro cell err
  by_cases hempty : typ.canBeEmpty = true
  · cases cell with
    | none => simp [deserCqlPyValue, Fails, hempty]
    | some content => simp [deserCqlPyValue, Fails, hempty, hread content err]
  · have hdeser : deserCqlPyValue R C (.native typ) cell =
        orEmpty .none (fun content => (deserNative R typ content).map .scalar) cell := if_neg hempty
    rw [hdeser, orEmpty_eq_error_iff]
    simp only [Fails]
    constructor
    · rintro ⟨content, rfl, hne, h⟩
      obtain ⟨kind, h, rfl⟩ := (hread content err).mp h
      exact ⟨[], kind, ⟨content, rfl, .inr hne, rfl, h⟩, rfl⟩
    · rintro ⟨path, kind, ⟨content, rfl, hor, rfl, h⟩, rfl⟩
      exact ⟨content, rfl, hor.resolve_left hempty, h⟩

/-- A container with a count in front. -/
theorem located_counted {typ : ColumnType} {α σ : Type} {read : Bytes → Option (α × Bytes)}
    {builder : List σ → σ → Except PyErr (List σ)} {segment : Nat → InnerSegment}
    {element : α → DeserResult σ} {fails : α → InnerPath → DeserializationErrorKind → Prop}
    {null : PyVal P} {make : List σ → PyVal P}
    (hdeser : ∀ cell, deserCqlPyValue R C typ cell = orEmpty null (fun content =>
      (do
        let (count, rest) ← readCount content
        deserializeItems segment read element builder count rest).map make) cell)
    (hfails : ∀ cell path kind, Fails R C typ cell path kind ↔ ∃ content, cell = some content ∧
      content ≠ [] ∧
      CountedFails read builder (itemSlots segment element fails 0) content path kind)
    (hsegment : ∀ i, (segment i).isTuple = false)
    (h : ∀ raw err, element raw = .error err ↔
      ∃ path kind, fails raw path kind ∧ err = reported path kind) :
    Located R C typ := by
  intro cell err
  rw [hdeser, orEmpty_eq_error_iff]
  simp only [map_eq_error_iff, counted_eq_error_iff h hsegment, hfails]
  constructor
  · rintro ⟨content, rfl, hne, path, kind, hcounted, rfl⟩
    exact ⟨path, kind, ⟨content, rfl, hne, hcounted⟩, rfl⟩
  · rintro ⟨path, kind, ⟨content, rfl, hne, hcounted⟩, rfl⟩
    exact ⟨content, rfl, hne, path, kind, hcounted, rfl⟩

/-- A container with a slot for each of its parts. -/
theorem located_slots {typ : ColumnType} {α σ : Type} {read : Bytes → Option (α × Bytes)}
    {builder : List σ → σ → Except PyErr (List σ)} {slots : List (Slot α σ)} {null : PyVal P}
    {make : List σ → PyVal P}
    (hdeser : ∀ cell, deserCqlPyValue R C typ cell =
      orEmpty null (fun content => (deserSlots read builder slots content []).map make) cell)
    (hfails : ∀ cell path kind, Fails R C typ cell path kind ↔ ∃ content segment inner,
      cell = some content ∧ content ≠ [] ∧ path = segment :: inner ∧
      FailsAmong read builder slots content [] segment inner kind)
    (hsegments : ∀ segment ∈ slots.map Slot.segment, segment.isTuple = false)
    (hslots : ∀ slot ∈ slots, slot.Sound) : Located R C typ := by
  intro cell err
  rw [hdeser, orEmpty_eq_error_iff]
  simp only [map_eq_error_iff, deserSlots_eq_error_iff_reported hslots hsegments, hfails]
  constructor
  · rintro ⟨content, rfl, hne, segment, path, kind, hamong, rfl⟩
    exact ⟨segment :: path, kind, ⟨content, segment, path, rfl, hne, rfl, hamong⟩, rfl⟩
  · rintro ⟨path, kind, ⟨content, segment, inner, rfl, hne, rfl, hamong⟩, rfl⟩
    exact ⟨content, rfl, hne, segment, inner, kind, hamong, rfl⟩

theorem fieldSlots_sound {fieldTypes : List (String × ColumnType)}
    (h : ∀ field ∈ fieldTypes, Located R C field.2) :
    ∀ slot ∈ fieldSlots R C fieldTypes, slot.Sound ∧ slot.segment.isTuple = false := by
  induction fieldTypes with
  | nil => simp [fieldSlots]
  | cons field fieldTypes ih =>
    rw [List.forall_mem_cons] at h
    rw [fieldSlots, List.forall_mem_cons]
    refine ⟨⟨?_, rfl⟩, ih h.2⟩
    intro cell err
    rw [map_eq_error_iff]
    exact h.1 cell err

theorem tupleSlots_sound {elts : List ColumnType} (h : ∀ elt ∈ elts, Located R C elt) (i : Nat) :
    ∀ slot ∈ tupleSlots R C elts i, slot.Sound ∧ slot.segment.isTuple = true := by
  induction elts generalizing i with
  | nil => simp [tupleSlots]
  | cons elt elts ih =>
    rw [List.forall_mem_cons] at h
    rw [tupleSlots, List.forall_mem_cons]
    exact ⟨⟨h.1, rfl⟩, ih h.2 (i + 1)⟩

theorem located_tuple {elts : List ColumnType} (h : ∀ elt ∈ elts, Located R C elt) :
    Located R C (.tuple elts) := by
  have hslots := tupleSlots_sound h 0
  have hsound : ∀ slot ∈ tupleSlots R C elts 0, slot.Sound := fun slot hslot => (hslots slot hslot).1
  have helements (content : Bytes) (err : DriverDeserializationError) :
      deserTupleElements R C elts 0 content = .error err ↔ ∃ segment path kind,
        FailsAmong readCell listAppend (tupleSlots R C elts 0) content [] segment path kind ∧
        err = (reported path kind).pushInner segment := by
    rw [← deserSlots_eq_error_iff hsound, deserTupleElements_eq_deserSlots, map_eq_error_iff]
  have hreported {segment : InnerSegment} {path : InnerPath} {kind : DeserializationErrorKind}
      {content : Bytes} (hfails : FailsAmong readCell listAppend (tupleSlots R C elts 0) content []
        segment path kind) :
      reported (segment :: path) kind = ((reported path kind).pushInner segment).ofTupleElement := by
    obtain ⟨slot, hslot, rfl⟩ := List.mem_map.mp hfails.segment_mem
    simp only [reported, (hslots slot hslot).2, if_true]
  intro cell err
  rw [deserCqlPyValue, orEmpty_eq_error_iff]
  simp only [Fails, bind_eq_error_iff, mapError_eq_error_iff, helements]
  constructor
  · rintro ⟨content, rfl, hne, ⟨_, ⟨segment, path, kind, hfails, rfl⟩, rfl⟩ | ⟨items, -, hnot⟩⟩
    · exact ⟨segment :: path, kind, ⟨content, segment, path, rfl, hne, rfl, hfails⟩,
        (hreported hfails).symm⟩
    · cases hnot
  · rintro ⟨path, kind, ⟨content, segment, inner, rfl, hne, rfl, hfails⟩, rfl⟩
    exact ⟨content, rfl, hne, .inl ⟨_, ⟨segment, inner, kind, hfails, rfl⟩, hreported hfails⟩⟩

theorem located (typ : ColumnType) : Located R C typ := by
  induction typ with
  | native typ => exact located_native typ
  | list frozen elt ih =>
    exact located_counted (fun _ => rfl) (fun _ _ _ => Iff.rfl) (fun _ => rfl) ih
  | set frozen elt ih =>
    exact located_counted (fun _ => rfl) (fun _ _ _ => Iff.rfl) (fun _ => rfl) ih
  | map frozen key value ihkey ihvalue =>
    refine located_counted (fun _ => rfl) (fun _ _ _ => Iff.rfl) (fun _ => rfl) ?_
    intro raw err
    simp only [bind_eq_error_iff, ihkey raw.1 err, ihvalue raw.2 err]
    constructor
    · rintro (⟨path, kind, hkey, rfl⟩ | ⟨k, hk, ⟨path, kind, hvalue, rfl⟩ | ⟨v, -, hnot⟩⟩)
      · exact ⟨path, kind, .inl hkey, rfl⟩
      · exact ⟨path, kind, .inr ⟨⟨k, hk⟩, hvalue⟩, rfl⟩
      · cases hnot
    · rintro ⟨path, kind, hkey | ⟨⟨k, hk⟩, hvalue⟩, rfl⟩
      · exact .inl ⟨path, kind, hkey, rfl⟩
      · exact .inr ⟨k, hk, .inl ⟨path, kind, hvalue, rfl⟩⟩
  | vector elt dimensions ih =>
    have hdeser (cell : Cell) : deserCqlPyValue R C (.vector elt dimensions) cell =
        orEmpty .none (fun content => (deserSlots (R.readVectorElement (R.typeSizeForVector elt))
          listAppend (itemSlots .vectorIndex (deserCqlPyValue R C elt) (Fails R C elt) 0 dimensions)
          content []).map .list) cell := by
      simp only [← deserializeItems_eq_deserSlots]
      rfl
    exact located_slots hdeser (fun _ _ _ => Iff.rfl) (itemSlots_isTuple (fun _ => rfl) 0 dimensions)
      (itemSlots_sound ih 0 dimensions)
  | userDefinedType frozen keyspace name fieldTypes ih =>
    have hslots := fieldSlots_sound ih
    have hdeser (cell : Cell) :
        deserCqlPyValue R C (.userDefinedType frozen keyspace name fieldTypes) cell =
          orEmpty .none (fun content => (deserSlots readUdtField C.setItem
            (fieldSlots R C fieldTypes) content []).map .dict) cell := by
      simp only [← deserUdtFields_eq_deserSlots]
      rfl
    refine located_slots hdeser (fun _ _ _ => Iff.rfl) ?_ (fun slot hslot => (hslots slot hslot).1)
    intro segment hmem
    obtain ⟨slot, hslot, rfl⟩ := List.mem_map.mp hmem
    exact (hslots slot hslot).2
  | tuple elts ih => exact located_tuple ih

end ScyllaDriver
