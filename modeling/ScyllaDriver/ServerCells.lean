import ScyllaDriver.ReadValues

/-! Which cells of the server can be read. A cell is described by the value that it
encodes; what stands in the way is that Python hashes the elements of a set and the keys
of a dict. -/

namespace ScyllaDriver

open Framing

variable {P : Interop} (R : Runtime P)

/-- A cell of the type and the value it holds, with the elements of sets and maps as they stand
in the cell and those of vectors as the Rust driver takes them off it. A UDT may lack its last
fields, and if `short` a tuple its last elements: the database reads them as null. -/
inductive Encodes (short : Bool) : ColumnType → Cell → PyVal P → Prop
  | null (typ) : Encodes short typ none (canon R typ .none)
  | empty (typ) (htyp : ∀ native, typ = .native native → native.canBeEmpty = false) :
    Encodes short typ (some []) .cqlEmpty
  | native {typ content object} (hcontent : typ.canBeEmpty = false → content ≠ [])
    (h : deserNative R typ content = .ok object) :
    Encodes short (.native typ) (some content) (.scalar object)
  | list {frozen elt} {cells : List Cell} {items} (hcount : cells.length ≤ maxLength)
    (hfits : ∀ cell ∈ cells, cell.Fits) (hlength : cells.length = items.length)
    (helts : ∀ pair ∈ cells.zip items, Encodes short elt pair.1 pair.2) :
    Encodes short (.list frozen elt) (some (toBeInt 4 cells.length ++ cells.flatMap writeCell))
      (.list items)
  | set {frozen elt} {cells : List Cell} {items} (hcount : cells.length ≤ maxLength)
    (hfits : ∀ cell ∈ cells, Cell.Fits cell) (hdistinct : cells.Nodup)
    (hlength : cells.length = items.length)
    (helts : ∀ pair ∈ cells.zip items, Encodes short elt pair.1 pair.2) :
    Encodes short (.set frozen elt) (some (toBeInt 4 cells.length ++ cells.flatMap writeCell))
      (.set items)
  | map {frozen key val} {cells : List (Cell × Cell)} {items} (hcount : cells.length ≤ maxLength)
    (hfits : ∀ cell ∈ cells, cell.1.Fits ∧ cell.2.Fits) (hdistinct : (cells.map Prod.fst).Nodup)
    (hlength : cells.length = items.length)
    (hkeys : ∀ pair ∈ cells.zip items, Encodes short key pair.1.1 pair.2.1)
    (hvals : ∀ pair ∈ cells.zip items, Encodes short val pair.1.2 pair.2.2) :
    Encodes short (.map frozen key val) (some (toBeInt 4 cells.length ++
      cells.flatMap (fun cell => writeCell cell.1 ++ writeCell cell.2))) (.dict items)
  | vector {elt dimensions content} {cells : List Cell} {items} (hcontent : content ≠ [])
    (hreads : Reads (R.readVectorElement (R.typeSizeForVector elt)) content cells)
    (hcount : cells.length = dimensions) (hlength : cells.length = items.length)
    (helts : ∀ pair ∈ cells.zip items, Encodes short elt pair.1 pair.2) :
    Encodes short (.vector elt dimensions) (some content) (.list items)
  | userDefinedType {frozen keyspace name fieldTypes} {cells : List Cell} {missing values}
    (hcells : cells ≠ []) (hfits : ∀ cell ∈ cells, Cell.Fits cell)
    (hlength : (cells ++ List.replicate missing none).length = fieldTypes.length)
    (hvalues : values.length = fieldTypes.length)
    (hfields : ∀ pair ∈ (fieldTypes.zip (cells ++ List.replicate missing none)).zip values,
      Encodes short pair.1.1.2 pair.1.2 pair.2) :
    Encodes short (.userDefinedType frozen keyspace name fieldTypes) (some (cells.flatMap writeCell))
      (.dict (fieldPairs fieldTypes values))
  | tuple {elts} {cells : List Cell} {missing items} (hcells : cells ≠ [])
    (hfits : ∀ cell ∈ cells, Cell.Fits cell) (hshort : missing = 0 ∨ short = true)
    (hlength : (cells ++ List.replicate missing none).length = elts.length)
    (hitems : items.length = elts.length)
    (helts : ∀ pair ∈ (elts.zip (cells ++ List.replicate missing none)).zip items,
      Encodes short pair.1.1 pair.1.2 pair.2) :
    Encodes short (.tuple elts) (some (cells.flatMap writeCell)) (.tuple items)

/-- Every element of a set and every key of a dict in the value can be hashed, and Python takes
no two of one container for equal. -/
inductive Hashed : PyVal P → Prop
  | none : Hashed .none
  | cqlEmpty : Hashed .cqlEmpty
  | scalar (object : Scalar P) : Hashed (.scalar object)
  | list {items} (helts : ∀ item ∈ items, Hashed item) : Hashed (.list items)
  | tuple {items} (helts : ∀ item ∈ items, Hashed item) : Hashed (.tuple items)
  | set {items} (hhash : ∀ item ∈ items, item.hashable = true) (hdistinct : Distinct R items) :
    Hashed (.set items)
  | dict {items} (hhash : ∀ pair ∈ items, pair.1.hashable = true)
    (hdistinct : Distinct R (items.map Prod.fst)) (hvals : ∀ pair ∈ items, Hashed pair.2) :
    Hashed (.dict items)

variable {R}

section Contents

variable {C : Containers P}

theorem deserializeItems_raws {α σ : Type} {segment : Nat → InnerSegment}
    {read : Bytes → Option (α × Bytes)} {element : α → DeserResult σ}
    {builder : List σ → σ → Except PyErr (List σ)} {content : Bytes} {raws : List α}
    {items : List σ} (h : Reads read content raws) :
    deserializeItems segment read element builder raws.length content = .ok items ↔
      ∃ values, List.Forall₂ (fun raw value => element raw = .ok value) raws values ∧
        values.foldlM builder [] = .ok items := by
  rw [deserializeItems_eq_ok_iff]
  constructor
  · rintro ⟨raws', hlength, hreads, hvalues⟩
    rwa [hreads.unique h hlength] at hvalues
  · intro hvalues
    exact ⟨raws, rfl, h, hvalues⟩

theorem deserializeSequence_cells {element : Cell → DeserResult (PyVal P)}
    {builder : List (PyVal P) → PyVal P → Except PyErr (List (PyVal P))} {cells : List Cell}
    {items : List (PyVal P)} (hcount : cells.length ≤ maxLength)
    (hfits : ∀ cell ∈ cells, Cell.Fits cell) :
    deserializeSequence element builder (toBeInt 4 cells.length ++ cells.flatMap writeCell) =
        .ok items ↔
      ∃ values, List.Forall₂ (fun cell value => element cell = .ok value) cells values ∧
        values.foldlM builder [] = .ok items := by
  have hreads : Reads readCell (cells.flatMap writeCell) cells :=
    reads_flatMap fun cell hcell rest => readCell_writeCell (hfits cell hcell) rest
  rw [deserializeSequence, readCount_length hcount]
  exact deserializeItems_raws hreads

theorem deserializeMap_cells {key value : Cell → DeserResult (PyVal P)}
    {cells : List (Cell × Cell)} {items : List (PyVal P × PyVal P)}
    (hcount : cells.length ≤ maxLength) (hfits : ∀ cell ∈ cells, cell.1.Fits ∧ cell.2.Fits) :
    deserializeMap C key value (toBeInt 4 cells.length ++
        cells.flatMap (fun cell => writeCell cell.1 ++ writeCell cell.2)) = .ok items ↔
      ∃ pairs, List.Forall₂ (fun cell pair => key cell.1 = .ok pair.1 ∧ value cell.2 = .ok pair.2)
          cells pairs ∧ pairs.foldlM C.setItem [] = .ok items := by
  have hreads : Reads readPair
      (cells.flatMap (fun cell => writeCell cell.1 ++ writeCell cell.2)) cells :=
    reads_flatMap fun cell hcell rest =>
      readPair_writeCell (hfits cell hcell).1 (hfits cell hcell).2 rest
  rw [deserializeMap_eq_ok_iff, readCount_length hcount]
  constructor
  · rintro ⟨rest, cells', hcount', hreads', hpairs⟩
    obtain ⟨hlength, rfl⟩ := Prod.ext_iff.mp (Except.ok.inj hcount')
    rwa [hreads'.unique hreads hlength.symm] at hpairs
  · intro hpairs
    exact ⟨_, cells, rfl, hreads, hpairs⟩

theorem deserializeVector_cells {size : Option Nat} {element : Cell → DeserResult (PyVal P)}
    {content : Bytes} {cells : List Cell} {items : List (PyVal P)}
    (hreads : Reads (R.readVectorElement size) content cells) :
    deserializeVector R size element cells.length content = .ok items ↔
      List.Forall₂ (fun cell value => element cell = .ok value) cells items := by
  rw [deserializeVector, deserializeItems_raws hreads]
  simp [foldlM_listAppend]

theorem deserTupleElements_cells {elts : List ColumnType} {cells : List Cell} {i : Nat}
    {items : List (PyVal P)} (hfits : ∀ cell ∈ cells, Cell.Fits cell)
    (hlength : cells.length = elts.length) :
    deserTupleElements R C elts i (cells.flatMap writeCell) = .ok items ↔
      List.Forall₂ (fun pair item => deserCqlPyValue R C pair.1 pair.2 = .ok item)
        (elts.zip cells) items := by
  have hreads : Reads readCell (cells.flatMap writeCell) cells :=
    reads_flatMap fun cell hcell rest => readCell_writeCell (hfits cell hcell) rest
  rw [deserTupleElements_eq_ok_iff]
  constructor
  · rintro ⟨cells', hlength', hreads', hitems⟩
    rwa [hreads'.unique hreads (hlength'.trans hlength.symm)] at hitems
  · intro hitems
    exact ⟨cells, hlength, hreads, hitems⟩

/-- No more cells can be read than were written. -/
theorem length_le_of_reads {cells cells' : List Cell} (hfits : ∀ cell ∈ cells, Cell.Fits cell)
    (h : Reads readCell (cells.flatMap writeCell) cells') : cells'.length ≤ cells.length := by
  induction cells generalizing cells' with
  | nil =>
    cases cells' with
    | nil => simp
    | cons cell' cells' =>
      obtain ⟨rest, hread, _⟩ := h
      cases hread
  | cons cell cells ih =>
    rw [List.forall_mem_cons] at hfits
    cases cells' with
    | nil => simp
    | cons cell' cells' =>
      obtain ⟨rest, hread, hreads⟩ := h
      have hcell := readCell_writeCell hfits.1 (cells.flatMap writeCell)
      rw [List.flatMap_cons, hcell] at hread
      cases hread
      simpa using ih hfits.2 hreads

theorem reads_udtFields {cells : List Cell} (hfits : ∀ cell ∈ cells, Cell.Fits cell)
    (missing : Nat) :
    Reads readUdtField (cells.flatMap writeCell) (cells ++ List.replicate missing none) := by
  induction cells with
  | nil =>
    induction missing with
    | zero => trivial
    | succ missing ih => exact ⟨[], rfl, ih⟩
  | cons cell cells ih =>
    rw [List.forall_mem_cons] at hfits
    exact ⟨_, readUdtField_writeCell hfits.1 _, ih hfits.2⟩

theorem deserUdtFields_cells {fieldTypes : List (String × ColumnType)} {cells : List Cell}
    {missing : Nat} {final : List (PyVal P × PyVal P)} (hfits : ∀ cell ∈ cells, Cell.Fits cell)
    (hlength : (cells ++ List.replicate missing none).length = fieldTypes.length) :
    deserUdtFields R C fieldTypes (cells.flatMap writeCell) [] = .ok final ↔
      ∃ values, List.Forall₂ (fun pair value => deserCqlPyValue R C pair.1.2 pair.2 = .ok value)
          (fieldTypes.zip (cells ++ List.replicate missing none)) values ∧
        (fieldPairs fieldTypes values).foldlM C.setItem [] = .ok final := by
  rw [deserUdtFields_eq_ok_iff]
  constructor
  · rintro ⟨cells', hlength', hreads, hvalues⟩
    rwa [hreads.unique (reads_udtFields hfits missing) (hlength'.trans hlength.symm)] at hvalues
  · intro hvalues
    exact ⟨_, hlength, reads_udtFields hfits missing, hvalues⟩

end Contents

theorem flatMap_writeCell_ne_nil {cells : List Cell} (h : cells ≠ []) :
    cells.flatMap writeCell ≠ [] := by
  cases cells with
  | nil => exact absurd rfl h
  | cons cell cells => simp [writeCell_ne_nil]

theorem toBeInt_append_ne_nil (count : Nat) (rest : Bytes) : toBeInt 4 count ++ rest ≠ [] := by
  intro h
  have hlength := congrArg List.length h
  simp at hlength

theorem orEmpty_some {null : PyVal P} {read : Bytes → DeserResult (PyVal P)} {content : Bytes}
    (h : content ≠ []) : orEmpty null read (some content) = read content := by
  cases content with
  | nil => exact absurd rfl h
  | cons byte bytes => rfl

theorem deser_empty (C : Containers P) {typ : ColumnType}
    (htyp : ∀ native, typ = .native native → native.canBeEmpty = false) :
    deserCqlPyValue R C typ (some []) = .ok .cqlEmpty := by
  cases typ with
  | native typ => simp [deserCqlPyValue, htyp typ rfl, orEmpty]
  | _ => simp [deserCqlPyValue, orEmpty]

theorem deser_native_content (C : Containers P) {typ : NativeType} {content : Bytes}
    (hcontent : typ.canBeEmpty = false → content ≠ []) :
    deserCqlPyValue R C (.native typ) (some content) = (deserNative R typ content).map .scalar := by
  unfold deserCqlPyValue
  by_cases hempty : typ.canBeEmpty = true
  · simp [hempty]
  · rw [if_neg hempty, orEmpty_some (hcontent (by simpa using hempty))]

section Cells

variable {C : Containers P} {value : PyVal P}

theorem deser_list_cells {frozen : Bool} {elt : ColumnType} {cells : List Cell}
    (hcount : cells.length ≤ maxLength) (hfits : ∀ cell ∈ cells, Cell.Fits cell) :
    deserCqlPyValue R C (.list frozen elt)
        (some (toBeInt 4 cells.length ++ cells.flatMap writeCell)) = .ok value ↔
      ∃ values, List.Forall₂ (fun cell value => deserCqlPyValue R C elt cell = .ok value)
        cells values ∧ value = .list values := by
  rw [deserCqlPyValue, orEmpty_some (toBeInt_append_ne_nil _ _), bind_eq_ok_iff]
  simp only [deserializeSequence_cells hcount hfits, foldlM_listAppend, List.nil_append,
    exists_eq_right', pure, Except.pure, Except.ok.injEq]
  exact exists_congr fun values => and_congr_right fun _ => eq_comm

theorem deser_set_cells {frozen : Bool} {elt : ColumnType} {cells : List Cell}
    (hcount : cells.length ≤ maxLength) (hfits : ∀ cell ∈ cells, Cell.Fits cell) :
    deserCqlPyValue R (cpython R) (.set frozen elt)
        (some (toBeInt 4 cells.length ++ cells.flatMap writeCell)) = .ok value ↔
      ∃ values, List.Forall₂ (fun cell value => deserCqlPyValue R (cpython R) elt cell = .ok value)
        cells values ∧ (∀ item ∈ values, item.hashable = true) ∧ value = .set (pySet R values) := by
  rw [deserCqlPyValue, orEmpty_some (toBeInt_append_ne_nil _ _), bind_eq_ok_iff]
  simp only [deserializeSequence_cells hcount hfits, foldlM_pySetAdd, pure, Except.pure,
    Except.ok.injEq]
  constructor
  · rintro ⟨_, ⟨values, hvalues, hhash, rfl⟩, rfl⟩
    exact ⟨values, hvalues, hhash, rfl⟩
  · rintro ⟨values, hvalues, hhash, rfl⟩
    exact ⟨_, ⟨values, hvalues, hhash, rfl⟩, rfl⟩

theorem deser_map_cells {frozen : Bool} {key val : ColumnType} {cells : List (Cell × Cell)}
    (hcount : cells.length ≤ maxLength) (hfits : ∀ cell ∈ cells, cell.1.Fits ∧ cell.2.Fits) :
    deserCqlPyValue R (cpython R) (.map frozen key val) (some (toBeInt 4 cells.length ++
        cells.flatMap (fun cell => writeCell cell.1 ++ writeCell cell.2))) = .ok value ↔
      ∃ pairs, List.Forall₂ (fun cell pair =>
          deserCqlPyValue R (cpython R) key cell.1 = .ok pair.1 ∧
          deserCqlPyValue R (cpython R) val cell.2 = .ok pair.2) cells pairs ∧
        (∀ pair ∈ pairs, pair.1.hashable = true) ∧ value = .dict (pyDict R pairs) := by
  rw [deserCqlPyValue, orEmpty_some (toBeInt_append_ne_nil _ _), bind_eq_ok_iff]
  simp only [deserializeMap_cells hcount hfits, foldlM_pyDictSetItem, pure, Except.pure,
    Except.ok.injEq]
  constructor
  · rintro ⟨_, ⟨pairs, hpairs, hhash, rfl⟩, rfl⟩
    exact ⟨pairs, hpairs, hhash, rfl⟩
  · rintro ⟨pairs, hpairs, hhash, rfl⟩
    exact ⟨_, ⟨pairs, hpairs, hhash, rfl⟩, rfl⟩

theorem deser_vector_cells {elt : ColumnType} {content : Bytes} {cells : List Cell}
    (hcontent : content ≠ [])
    (hreads : Reads (R.readVectorElement (R.typeSizeForVector elt)) content cells) :
    deserCqlPyValue R C (.vector elt cells.length) (some content) = .ok value ↔
      ∃ values, List.Forall₂ (fun cell value => deserCqlPyValue R C elt cell = .ok value)
        cells values ∧ value = .list values := by
  rw [deserCqlPyValue, orEmpty_some hcontent, bind_eq_ok_iff]
  simp only [deserializeVector_cells hreads, pure, Except.pure, Except.ok.injEq]
  exact exists_congr fun values => and_congr_right fun _ => eq_comm

theorem deser_tuple_cells {elts : List ColumnType} {cells : List Cell} (hcells : cells ≠ [])
    (hfits : ∀ cell ∈ cells, Cell.Fits cell) (hlength : cells.length = elts.length) :
    deserCqlPyValue R C (.tuple elts) (some (cells.flatMap writeCell)) = .ok value ↔
      ∃ values, List.Forall₂ (fun pair item => deserCqlPyValue R C pair.1 pair.2 = .ok item)
        (elts.zip cells) values ∧ value = .tuple values := by
  rw [deserCqlPyValue, orEmpty_some (flatMap_writeCell_ne_nil hcells), bind_eq_ok_iff]
  simp only [mapError_eq_ok_iff, deserTupleElements_cells hfits hlength, pure, Except.pure,
    Except.ok.injEq]
  exact exists_congr fun values => and_congr_right fun _ => eq_comm

/-- The elements of a tuple are all read: a cell that lacks some is refused. -/
theorem missing_eq_zero {elts : List ColumnType} {cells : List Cell} {missing : Nat}
    (hcells : cells ≠ []) (hfits : ∀ cell ∈ cells, Cell.Fits cell)
    (hlength : (cells ++ List.replicate missing none).length = elts.length)
    (h : deserCqlPyValue R C (.tuple elts) (some (cells.flatMap writeCell)) = .ok value) :
    missing = 0 := by
  rw [deserCqlPyValue, orEmpty_some (flatMap_writeCell_ne_nil hcells), bind_eq_ok_iff] at h
  obtain ⟨items, hitems, _⟩ := h
  obtain ⟨cells', hlength', hreads, _⟩ :=
    deserTupleElements_eq_ok_iff.mp (mapError_eq_ok_iff.mp hitems)
  have hle := length_le_of_reads hfits hreads
  simp only [List.length_append, List.length_replicate] at hlength
  omega

/-- The names of the fields are different strings, so that every field is kept. -/
theorem deser_udt_cells (hR : R.Lawful) {frozen : Bool} {keyspace name : String}
    {fieldTypes : List (String × ColumnType)} {cells : List Cell} {missing : Nat}
    (hnames : (fieldTypes.map Prod.fst).Nodup) (hcells : cells ≠ [])
    (hfits : ∀ cell ∈ cells, Cell.Fits cell)
    (hlength : (cells ++ List.replicate missing none).length = fieldTypes.length) :
    deserCqlPyValue R (cpython R) (.userDefinedType frozen keyspace name fieldTypes)
        (some (cells.flatMap writeCell)) = .ok value ↔
      ∃ values, List.Forall₂
          (fun pair value => deserCqlPyValue R (cpython R) pair.1.2 pair.2 = .ok value)
          (fieldTypes.zip (cells ++ List.replicate missing none)) values ∧
        value = .dict (fieldPairs fieldTypes values) := by
  have hfold (values : List (PyVal P)) (final : List (PyVal P × PyVal P)) :
      (fieldPairs fieldTypes values).foldlM (cpython R).setItem [] = .ok final ↔
        final = fieldPairs fieldTypes values := by
    have hkeys : ∀ pair ∈ fieldPairs fieldTypes values, pair.1.hashable = true := by
      intro pair hpair
      obtain ⟨source, _, rfl⟩ := List.mem_map.mp hpair
      rfl
    have hall := pyDict_eq_self (@distinct_fieldPairs P R hR fieldTypes values hnames)
    rw [foldlM_pyDictSetItem, and_iff_right hkeys]
    exact Eq.congr_right hall
  rw [deserCqlPyValue, orEmpty_some (flatMap_writeCell_ne_nil hcells), bind_eq_ok_iff]
  simp only [deserUdtFields_cells hfits hlength, hfold, pure, Except.pure, Except.ok.injEq]
  constructor
  · rintro ⟨_, ⟨values, hvalues, rfl⟩, rfl⟩
    exact ⟨values, hvalues, rfl⟩
  · rintro ⟨values, hvalues, rfl⟩
    exact ⟨_, ⟨values, hvalues, rfl⟩, rfl⟩

end Cells

/-- Hashable objects that are known one by one. -/
theorem forall₂_values_eq {α : Type} {r q : α → PyVal P → Prop} {raws : List α}
    {items values : List (PyVal P)} (hlength : raws.length = items.length)
    (hvalues : List.Forall₂ r raws values) (hhash : ∀ value ∈ values, value.hashable = true)
    (h : ∀ pair ∈ raws.zip items, ∀ value, r pair.1 value → value.hashable = true →
      value = pair.2 ∧ q pair.1 pair.2) :
    values = items ∧ ∀ pair ∈ raws.zip items, q pair.1 pair.2 := by
  induction hvalues generalizing items with
  | nil =>
    obtain rfl := List.length_eq_zero_iff.mp hlength.symm
    simp
  | cons hvalue _ ih =>
    cases items with
    | nil => simp at hlength
    | cons item items =>
      rw [List.zip_cons_cons, List.forall_mem_cons] at h
      rw [List.forall_mem_cons] at hhash
      obtain ⟨rfl, hq⟩ := h.1 _ hvalue hhash.1
      obtain ⟨rfl, hrest⟩ := ih (by simpa using hlength) hhash.2 h.2
      rw [List.zip_cons_cons, List.forall_mem_cons]
      exact ⟨rfl, hq, hrest⟩

theorem forall₂_of_zip {α : Type} {r : α → PyVal P → Prop} {raws : List α}
    {items : List (PyVal P)} (hlength : raws.length = items.length)
    (h : ∀ pair ∈ raws.zip items, r pair.1 pair.2) : List.Forall₂ r raws items :=
  List.forall₂_iff_zip.mpr ⟨hlength, fun hmem => h _ hmem⟩

/-- A cell whose tuples are complete is read as its value where that is hashable. -/
theorem Encodes.deser_eq {typ : ColumnType} {cell : Cell} {tree : PyVal P}
    (h : Encodes R false typ cell tree) (hhash : tree.hashable = true) :
    deserCqlPyValue R (cpython R) typ cell = .ok tree := by
  -- Only the tuples need the induction hypothesis: the other containers are never hashable.
  induction h with
  | null typ => exact deser_null _ typ
  | empty typ htyp => exact deser_empty _ htyp
  | native hcontent hobject =>
    rw [deser_native_content _ hcontent, hobject]
    rfl
  | @tuple elts cells missing items hcells hfits hshort hlength hitems _ ih =>
    obtain rfl : missing = 0 := by simpa using hshort
    simp only [List.replicate_zero, List.append_nil] at hlength ih
    rw [PyVal.hashable_tuple] at hhash
    have hpairs : (elts.zip cells).length = items.length := by
      rw [List.length_zip]
      omega
    refine (deser_tuple_cells hcells hfits hlength).mpr ⟨items, forall₂_of_zip hpairs ?_, rfl⟩
    intro pair hpair
    exact ih pair hpair (hhash _ (List.of_mem_zip hpair).2)
  | list | set | map | vector | userDefinedType => cases hhash

/-- A hashable object that was read is the value of the cell, whose tuples are complete. -/
theorem Encodes.eq_of_hashable (hR : R.Lawful) {short : Bool} {typ : ColumnType} {cell : Cell}
    {tree value : PyVal P} (hlegal : typ.Everywhere Legal) (h : Encodes R short typ cell tree)
    (hread : deserCqlPyValue R (cpython R) typ cell = .ok value) (hhash : value.hashable = true) :
    value = tree ∧ Encodes R false typ cell tree := by
  induction h generalizing value with
  | null typ =>
    rw [deser_null] at hread
    exact ⟨(Except.ok.inj hread).symm, .null typ⟩
  | empty typ htyp =>
    rw [deser_empty _ htyp] at hread
    exact ⟨(Except.ok.inj hread).symm, .empty typ htyp⟩
  | native hcontent hobject =>
    rw [deser_native_content _ hcontent, hobject] at hread
    exact ⟨(Except.ok.inj hread).symm, .native hcontent hobject⟩
  | list hcount hfits _ _ _ =>
    obtain ⟨_, _, rfl⟩ := (deser_list_cells hcount hfits).mp hread
    cases hhash
  | set hcount hfits _ _ _ _ =>
    obtain ⟨_, _, _, rfl⟩ := (deser_set_cells hcount hfits).mp hread
    cases hhash
  | map hcount hfits _ _ _ _ _ _ =>
    obtain ⟨_, _, _, rfl⟩ := (deser_map_cells hcount hfits).mp hread
    cases hhash
  | vector hcontent hreads hcount _ _ _ =>
    subst hcount
    obtain ⟨_, _, rfl⟩ := (deser_vector_cells hcontent hreads).mp hread
    cases hhash
  | userDefinedType hcells hfits hlength _ _ _ =>
    cases hlegal with
    | userDefinedType hnames _ =>
      obtain ⟨_, _, rfl⟩ := (deser_udt_cells hR hnames.2 hcells hfits hlength).mp hread
      cases hhash
  | @tuple elts cells missing items hcells hfits _ hlength hitems _ ih =>
    cases hlegal with
    | tuple _ hinner =>
      obtain rfl := missing_eq_zero hcells hfits hlength hread
      simp only [List.replicate_zero, List.append_nil] at hlength ih
      have hpairs : (elts.zip cells).length = items.length := by
        rw [List.length_zip]
        omega
      obtain ⟨values, hvalues, rfl⟩ := (deser_tuple_cells hcells hfits hlength).mp hread
      rw [PyVal.hashable_tuple] at hhash
      obtain ⟨rfl, hall⟩ := @forall₂_values_eq P _ _
        (fun pair item => Encodes R false pair.1 pair.2 item) _ _ _ hpairs hvalues hhash
        (fun pair hpair value => ih pair hpair
          (hinner _ (List.of_mem_zip (List.of_mem_zip hpair).1).1))
      refine ⟨rfl, .tuple hcells hfits (.inl rfl) (by simpa using hlength) hitems ?_⟩
      simpa using hall

theorem hashed_list_iff {items : List (PyVal P)} :
    Hashed R (.list items) ↔ ∀ item ∈ items, Hashed R item :=
  ⟨fun h => by cases h; assumption, .list⟩

theorem hashed_tuple_iff {items : List (PyVal P)} :
    Hashed R (.tuple items) ↔ ∀ item ∈ items, Hashed R item :=
  ⟨fun h => by cases h; assumption, .tuple⟩

theorem same_list_iff {items items' : List (PyVal P)} :
    Same (.list items) (.list items') ↔ List.Forall₂ Same items items' :=
  ⟨fun h => by cases h; assumption, .list⟩

theorem same_tuple_iff {items items' : List (PyVal P)} :
    Same (.tuple items) (.tuple items') ↔ List.Forall₂ Same items items' :=
  ⟨fun h => by cases h; assumption, .tuple⟩

theorem same_dict_iff {items items' : List (PyVal P × PyVal P)} :
    Same (.dict items) (.dict items') ↔ items.map Prod.fst = items'.map Prod.fst ∧
      List.Forall₂ Same (items.map Prod.snd) (items'.map Prod.snd) :=
  ⟨fun h => by cases h; exact ⟨by assumption, by assumption⟩, fun h => .dict h.1 h.2⟩

theorem map_fst_fieldPairs {fieldTypes : List (String × ColumnType)} {values : List (PyVal P)}
    (hlength : values.length = fieldTypes.length) :
    (fieldPairs fieldTypes values).map Prod.fst =
      fieldTypes.map (fun field => PyVal.scalar (.str field.1)) := by
  have hzip : (fieldTypes.zip values).map Prod.fst = fieldTypes :=
    List.map_fst_zip (by omega)
  conv_rhs => rw [← hzip]
  simp [fieldPairs]

theorem map_snd_fieldPairs {fieldTypes : List (String × ColumnType)} {values : List (PyVal P)}
    (hlength : values.length = fieldTypes.length) :
    (fieldPairs fieldTypes values).map Prod.snd = values := by
  have hzip : (fieldTypes.zip values).map Prod.snd = values := List.map_snd_zip (by omega)
  conv_rhs => rw [← hzip]
  simp [fieldPairs]

/-- A set of the server is kept as it is where Python can hash its elements and tells them apart. -/
theorem deser_set_of_hashed (hR : R.Lawful) {frozen : Bool} {elt : ColumnType} {cells : List Cell}
    {items : List (PyVal P)} (hcount : cells.length ≤ maxLength)
    (hfits : ∀ cell ∈ cells, Cell.Fits cell) (hlength : cells.length = items.length)
    (helts : ∀ pair ∈ cells.zip items, Encodes R false elt pair.1 pair.2)
    (h : Hashed R (.set items)) :
    ∃ value, deserCqlPyValue R (cpython R) (.set frozen elt)
        (some (toBeInt 4 cells.length ++ cells.flatMap writeCell)) = .ok value ∧
      Same value (.set items) := by
  cases h with
  | set hhash hdistinct =>
    refine ⟨_, (deser_set_cells hcount hfits).mpr ⟨items, forall₂_of_zip hlength ?_, hhash, rfl⟩,
      .set (pySet_perm hR hdistinct)⟩
    intro pair hpair
    exact (helts pair hpair).deser_eq (hhash _ (List.of_mem_zip hpair).2)

theorem hashed_of_deser_set (hR : R.Lawful) {short frozen : Bool} {elt : ColumnType}
    {cells : List Cell} {items : List (PyVal P)} {value : PyVal P} (helt : elt.Everywhere Legal)
    (hcount : cells.length ≤ maxLength) (hfits : ∀ cell ∈ cells, Cell.Fits cell)
    (hlength : cells.length = items.length)
    (helts : ∀ pair ∈ cells.zip items, Encodes R short elt pair.1 pair.2)
    (hread : deserCqlPyValue R (cpython R) (.set frozen elt)
      (some (toBeInt 4 cells.length ++ cells.flatMap writeCell)) = .ok value)
    (hsame : Same value (.set items)) :
    (∀ pair ∈ cells.zip items, Encodes R false elt pair.1 pair.2) ∧ Hashed R (.set items) := by
  obtain ⟨values, hvalues, hhash, rfl⟩ := (deser_set_cells hcount hfits).mp hread
  obtain ⟨rfl, hall⟩ := forall₂_values_eq hlength hvalues hhash
    fun pair hpair value hvalue hhash => (helts pair hpair).eq_of_hashable hR helt hvalue hhash
  cases hsame with
  | set hperm =>
    have hdistinct := (@foldl_pySetInsert P R hR values [] .nil).1
    exact ⟨hall, .set hhash (hdistinct.perm hR hperm)⟩

theorem forall₂_pair_iff {key value : Cell → DeserResult (PyVal P)} {cells : List (Cell × Cell)}
    {pairs : List (PyVal P × PyVal P)} :
    List.Forall₂ (fun cell pair => key cell.1 = .ok pair.1 ∧ value cell.2 = .ok pair.2) cells pairs ↔
      List.Forall₂ (fun cell item => key cell.1 = .ok item) cells (pairs.map Prod.fst) ∧
      List.Forall₂ (fun cell item => value cell.2 = .ok item) cells (pairs.map Prod.snd) := by
  induction cells generalizing pairs with
  | nil => simp
  | cons cell cells ih =>
    cases pairs with
    | nil => simp
    | cons pair pairs =>
      simp only [List.forall₂_cons, List.map_cons, ih]
      tauto

/-- What is read into a container, element by element. -/
theorem read_items_iff {α : Type} {read : α → DeserResult (PyVal P)} {raws : List α}
    {items : List (PyVal P)} (hlength : raws.length = items.length) :
    (∃ values, List.Forall₂ (fun raw value => read raw = .ok value) raws values ∧
      List.Forall₂ Same values items) ↔
      ∀ pair ∈ raws.zip items, ∃ value, read pair.1 = .ok value ∧ Same value pair.2 := by
  rw [exists_forall₂_comp_iff, List.forall₂_iff_zip, and_iff_right hlength]
  exact ⟨fun h pair hpair => h hpair, fun h raw item hpair => h (raw, item) hpair⟩

/-- A container that only lists its elements is read as it is exactly when each of them is. -/
theorem read_container_iff {α : Type} {read : α → DeserResult (PyVal P)}
    {result : DeserResult (PyVal P)} {wrap : List (PyVal P) → PyVal P} {raws : List α}
    {items : List (PyVal P)} (hlength : raws.length = items.length)
    (hread : ∀ value, result = .ok value ↔ ∃ values,
      List.Forall₂ (fun raw value => read raw = .ok value) raws values ∧ value = wrap values)
    (hsame : ∀ values, values.length = items.length →
      (Same (wrap values) (wrap items) ↔ List.Forall₂ Same values items)) :
    (∃ value, result = .ok value ∧ Same value (wrap items)) ↔
      ∀ pair ∈ raws.zip items, ∃ value, read pair.1 = .ok value ∧ Same value pair.2 := by
  rw [← read_items_iff hlength]
  simp only [hread]
  constructor
  · rintro ⟨_, ⟨values, hvalues, rfl⟩, h⟩
    have hcount : values.length = items.length := hvalues.length_eq.symm.trans hlength
    exact ⟨values, hvalues, (hsame values hcount).mp h⟩
  · rintro ⟨values, hvalues, h⟩
    exact ⟨_, ⟨values, hvalues, rfl⟩, (hsame values h.length_eq).mpr h⟩

theorem forall_of_zip_right {α : Type} {p : PyVal P → Prop} {raws : List α}
    {items : List (PyVal P)} (hlength : raws.length = items.length)
    (h : ∀ pair ∈ raws.zip items, p pair.2) : ∀ item ∈ items, p item := by
  have hsnd : (raws.zip items).map Prod.snd = items := List.map_snd_zip (by omega)
  rw [← hsnd, List.forall_mem_map]
  exact h

section Maps

variable {frozen : Bool} {key val : ColumnType} {cells : List (Cell × Cell)}
  {items : List (PyVal P × PyVal P)}

/-- The keys are read as they are, so that no pair takes the place of another. -/
theorem deser_map_of_hashed (hcount : cells.length ≤ maxLength)
    (hfits : ∀ cell ∈ cells, cell.1.Fits ∧ cell.2.Fits) (hlength : cells.length = items.length)
    (hkeys : ∀ pair ∈ cells.zip items, Encodes R false key pair.1.1 pair.2.1)
    (hvals : ∀ pair ∈ cells.zip items,
      ∃ value, deserCqlPyValue R (cpython R) val pair.1.2 = .ok value ∧ Same value pair.2.2)
    (h : Hashed R (.dict items)) :
    ∃ value, deserCqlPyValue R (cpython R) (.map frozen key val) (some (toBeInt 4 cells.length ++
        cells.flatMap (fun cell => writeCell cell.1 ++ writeCell cell.2))) = .ok value ∧
      Same value (.dict items) := by
  cases h with
  | dict hhash hdistinct _ =>
    have hreadKeys : List.Forall₂ (fun cell value =>
        deserCqlPyValue R (cpython R) key cell.1 = .ok value) cells (items.map Prod.fst) := by
      rw [List.forall₂_map_right_iff, List.forall₂_iff_zip]
      refine ⟨hlength, fun hpair => ?_⟩
      exact (hkeys _ hpair).deser_eq (hhash _ (List.of_mem_zip hpair).2)
    obtain ⟨values, hreadVals, hsame⟩ := (@read_items_iff P _
      (fun cell => deserCqlPyValue R (cpython R) val cell.2) cells (items.map Prod.snd)
      (by simpa using hlength)).mpr (by
        intro pair hpair
        rw [List.zip_map_right] at hpair
        obtain ⟨source, hsource, rfl⟩ := List.mem_map.mp hpair
        exact hvals source hsource)
    have hvalues : values.length = items.length := by
      rw [← hreadVals.length_eq, hlength]
    have hfst : ((items.map Prod.fst).zip values).map Prod.fst = items.map Prod.fst :=
      List.map_fst_zip (by simp [hvalues])
    have hsnd : ((items.map Prod.fst).zip values).map Prod.snd = values :=
      List.map_snd_zip (by simp [hvalues])
    refine ⟨_, (deser_map_cells hcount hfits).mpr
      ⟨(items.map Prod.fst).zip values, forall₂_pair_iff.mpr ⟨?_, ?_⟩, ?_, rfl⟩, ?_⟩
    · rwa [hfst]
    · rwa [hsnd]
    · intro pair hpair
      obtain ⟨source, hsource, heq⟩ := List.mem_map.mp (List.of_mem_zip hpair).1
      exact heq ▸ hhash source hsource
    · rw [pyDict_eq_self (hfst.symm ▸ hdistinct)]
      exact .dict hfst (hsnd.symm ▸ hsame)

/-- Of the pairs that were read the keys are known, so none of them took the place of another. -/
theorem hashed_of_deser_map (hR : R.Lawful) {short : Bool} {value : PyVal P}
    (hkey : key.Everywhere Legal) (hcount : cells.length ≤ maxLength)
    (hfits : ∀ cell ∈ cells, cell.1.Fits ∧ cell.2.Fits) (hlength : cells.length = items.length)
    (hkeys : ∀ pair ∈ cells.zip items, Encodes R short key pair.1.1 pair.2.1)
    (hread : deserCqlPyValue R (cpython R) (.map frozen key val) (some (toBeInt 4 cells.length ++
      cells.flatMap (fun cell => writeCell cell.1 ++ writeCell cell.2))) = .ok value)
    (hsame : Same value (.dict items)) :
    (∀ pair ∈ cells.zip items, Encodes R false key pair.1.1 pair.2.1) ∧
      (∀ pair ∈ items, pair.1.hashable = true) ∧ Distinct R (items.map Prod.fst) ∧
      ∀ pair ∈ cells.zip items,
        ∃ value, deserCqlPyValue R (cpython R) val pair.1.2 = .ok value ∧ Same value pair.2.2 := by
  obtain ⟨pairs, hpairs, hhash, rfl⟩ := (deser_map_cells hcount hfits).mp hread
  obtain ⟨hreadKeys, hreadVals⟩ := forall₂_pair_iff.mp hpairs
  have hzip {f : PyVal P × PyVal P → PyVal P} {pair : (Cell × Cell) × (PyVal P × PyVal P)}
      (hpair : pair ∈ cells.zip items) : (pair.1, f pair.2) ∈ cells.zip (items.map f) := by
    rw [List.zip_map_right]
    exact List.mem_map_of_mem hpair
  obtain ⟨hfst, hall⟩ := @forall₂_values_eq P _ _
    (fun cell item => Encodes R false key cell.1 item) cells (items.map Prod.fst) _
    (by simpa using hlength) hreadKeys (by simpa using hhash)
    (by
      intro pair hpair value hvalue hhash
      rw [List.zip_map_right] at hpair
      obtain ⟨source, hsource, rfl⟩ := List.mem_map.mp hpair
      exact (hkeys source hsource).eq_of_hashable hR hkey hvalue hhash)
  obtain ⟨hsameKeys, hsameVals⟩ := same_dict_iff.mp hsame
  have hdict := (@foldl_pyDictAssign P R pairs [] .nil).1
  have hdistinct : Distinct R (items.map Prod.fst) := hsameKeys ▸ hdict
  rw [pyDict_eq_self (hfst ▸ hdistinct)] at hsameVals
  have hvals := (@read_items_iff P _ (fun cell => deserCqlPyValue R (cpython R) val cell.2) cells
    (items.map Prod.snd) (by simpa using hlength)).mp ⟨_, hreadVals, hsameVals⟩
  refine ⟨fun pair hpair => hall _ (hzip hpair), ?_, hdistinct,
    fun pair hpair => hvals _ (hzip hpair)⟩
  have hkeysHash : ∀ key ∈ pairs.map Prod.fst, key.hashable = true := by simpa using hhash
  rw [hfst] at hkeysHash
  simpa using hkeysHash

end Maps

theorem same_fieldPairs_iff {fieldTypes : List (String × ColumnType)}
    {values values' : List (PyVal P)} (hlength : values.length = fieldTypes.length)
    (hlength' : values'.length = fieldTypes.length) :
    Same (.dict (fieldPairs fieldTypes values)) (.dict (fieldPairs fieldTypes values')) ↔
      List.Forall₂ Same values values' := by
  rw [same_dict_iff, map_fst_fieldPairs hlength, map_fst_fieldPairs hlength',
    map_snd_fieldPairs hlength, map_snd_fieldPairs hlength']
  exact and_iff_right rfl

theorem hashed_fieldPairs_iff (hR : R.Lawful) {fieldTypes : List (String × ColumnType)}
    {values : List (PyVal P)} (hnames : (fieldTypes.map Prod.fst).Nodup)
    (hlength : values.length = fieldTypes.length) :
    Hashed R (.dict (fieldPairs fieldTypes values)) ↔ ∀ value ∈ values, Hashed R value := by
  constructor
  · intro h
    cases h with
    | dict _ _ hvals =>
      rw [← map_snd_fieldPairs hlength, List.forall_mem_map]
      exact hvals
  · intro h
    refine .dict ?_ (distinct_fieldPairs hR hnames) ?_
    · intro pair hpair
      obtain ⟨source, _, rfl⟩ := List.mem_map.mp hpair
      rfl
    · intro pair hpair
      obtain ⟨source, hsource, rfl⟩ := List.mem_map.mp hpair
      exact h _ (List.of_mem_zip hsource).2

/-- What a null cell is read as has nothing in it. -/
theorem same_hashed_null (typ : ColumnType) :
    Same (canon R typ .none) (canon R typ .none) ∧ Hashed R (canon R typ .none) := by
  cases typ with
  | list _ _ => exact ⟨.list .nil, .list (by simp)⟩
  | set _ _ => exact ⟨.set .nil, .set (by simp) .nil⟩
  | map _ _ _ => exact ⟨.dict rfl .nil, .dict (by simp) .nil (by simp)⟩
  | _ => exact ⟨.none, .none⟩

/-- A cell whose tuples are complete is read where Python can hash what it has to. -/
theorem Encodes.deser_of_hashed (hR : R.Lawful) {typ : ColumnType} (hlegal : typ.Everywhere Legal)
    {cell : Cell} {tree : PyVal P} (h : Encodes R false typ cell tree) (hhashed : Hashed R tree) :
    ∃ value, deserCqlPyValue R (cpython R) typ cell = .ok value ∧ Same value tree := by
  induction h with
  | null typ => exact ⟨_, deser_null _ typ, (same_hashed_null typ).1⟩
  | empty typ htyp => exact ⟨_, deser_empty _ htyp, .cqlEmpty⟩
  | native hcontent hobject =>
    refine ⟨_, ?_, .scalar _⟩
    rw [deser_native_content _ hcontent, hobject]
    rfl
  | list hcount hfits hlength _ ih =>
    cases hlegal with
    | list _ helt =>
      refine (read_container_iff hlength (fun _ => deser_list_cells hcount hfits)
        (fun _ _ => same_list_iff)).mpr fun pair hpair => ih pair hpair helt ?_
      exact hashed_list_iff.mp hhashed _ (List.of_mem_zip hpair).2
  | set hcount hfits _ hlength helts _ => exact deser_set_of_hashed hR hcount hfits hlength helts hhashed
  | map hcount hfits _ hlength hkeys _ _ ihval =>
    cases hlegal with
    | map _ _ hval =>
      refine deser_map_of_hashed hcount hfits hlength hkeys (fun pair hpair => ?_) hhashed
      cases hhashed with
      | dict _ _ hvals => exact ihval pair hpair hval (hvals _ (List.of_mem_zip hpair).2)
  | vector hcontent hreads hcount hlength _ ih =>
    cases hlegal with
    | vector _ helt =>
      subst hcount
      refine (read_container_iff hlength (fun _ => deser_vector_cells hcontent hreads)
        (fun _ _ => same_list_iff)).mpr fun pair hpair => ih pair hpair helt ?_
      exact hashed_list_iff.mp hhashed _ (List.of_mem_zip hpair).2
  | @userDefinedType frozen keyspace name fieldTypes cells missing trees hcells hfits hlength
      htrees _ ih =>
    cases hlegal with
    | userDefinedType hnames hinner =>
      have hpairs : (fieldTypes.zip (cells ++ List.replicate missing none)).length =
          trees.length := by
        rw [List.length_zip]
        omega
      refine (@read_container_iff P _ _ _ (fun values => .dict (fieldPairs fieldTypes values)) _ _
        hpairs (fun _ => deser_udt_cells hR hnames.2 hcells hfits hlength)
        (fun values hcount => same_fieldPairs_iff (hcount.trans htrees) htrees)).mpr
        fun pair hpair => ih pair hpair ?_ ?_
      · exact hinner _ (List.of_mem_zip (List.of_mem_zip hpair).1).1
      · exact (hashed_fieldPairs_iff hR hnames.2 htrees).mp hhashed _ (List.of_mem_zip hpair).2
  | @tuple elts cells missing items hcells hfits hshort hlength hitems _ ih =>
    cases hlegal with
    | tuple _ hinner =>
      obtain rfl : missing = 0 := by simpa using hshort
      simp only [List.replicate_zero, List.append_nil] at hlength ih
      have hpairs : (elts.zip cells).length = items.length := by
        rw [List.length_zip]
        omega
      refine (read_container_iff hpairs (fun _ => deser_tuple_cells hcells hfits hlength)
        (fun _ _ => same_tuple_iff)).mpr fun pair hpair => ih pair hpair ?_ ?_
      · exact hinner _ (List.of_mem_zip (List.of_mem_zip hpair).1).1
      · exact hashed_tuple_iff.mp hhashed _ (List.of_mem_zip hpair).2

/-- What was read as its value had complete tuples and nothing that Python cannot hash. -/
theorem Encodes.hashed_of_deser (hR : R.Lawful) {short : Bool} {typ : ColumnType}
    (hlegal : typ.Everywhere Legal) {cell : Cell} {tree : PyVal P}
    (h : Encodes R short typ cell tree)
    (hread : ∃ value, deserCqlPyValue R (cpython R) typ cell = .ok value ∧ Same value tree) :
    Encodes R false typ cell tree ∧ Hashed R tree := by
  induction h with
  | null typ => exact ⟨.null typ, (same_hashed_null typ).2⟩
  | empty typ htyp => exact ⟨.empty typ htyp, .cqlEmpty⟩
  | native hcontent hobject => exact ⟨.native hcontent hobject, .scalar _⟩
  | list hcount hfits hlength _ ih =>
    cases hlegal with
    | list _ helt =>
      have hitems := (read_container_iff hlength (fun _ => deser_list_cells hcount hfits)
        (fun _ _ => same_list_iff)).mp hread
      have hall := fun pair hpair => ih pair hpair helt (hitems pair hpair)
      exact ⟨.list hcount hfits hlength fun pair hpair => (hall pair hpair).1,
        .list (forall_of_zip_right hlength fun pair hpair => (hall pair hpair).2)⟩
  | set hcount hfits hdistinct hlength helts _ =>
    cases hlegal with
    | set _ helt =>
      obtain ⟨value, hread, hsame⟩ := hread
      obtain ⟨hall, hhashed⟩ := hashed_of_deser_set hR helt hcount hfits hlength helts hread hsame
      exact ⟨.set hcount hfits hdistinct hlength hall, hhashed⟩
  | map hcount hfits hdistinct hlength hkeys _ _ ihval =>
    cases hlegal with
    | map _ hkey hval =>
      obtain ⟨value, hread, hsame⟩ := hread
      obtain ⟨hall, hhash, hkeysDistinct, hvals⟩ :=
        hashed_of_deser_map hR hkey hcount hfits hlength hkeys hread hsame
      have hinner := fun pair hpair => ihval pair hpair hval (hvals pair hpair)
      refine ⟨.map hcount hfits hdistinct hlength hall fun pair hpair => (hinner pair hpair).1,
        .dict hhash hkeysDistinct ?_⟩
      intro pair hpair
      obtain ⟨i, hi, rfl⟩ := List.mem_iff_getElem.mp hpair
      refine (hinner (_, _) (List.mem_iff_getElem.mpr ⟨i, by simp; omega, List.getElem_zip⟩)).2
  | vector hcontent hreads hcount hlength _ ih =>
    cases hlegal with
    | vector _ helt =>
      subst hcount
      have hitems := (read_container_iff hlength (fun _ => deser_vector_cells hcontent hreads)
        (fun _ _ => same_list_iff)).mp hread
      have hall := fun pair hpair => ih pair hpair helt (hitems pair hpair)
      exact ⟨.vector hcontent hreads rfl hlength fun pair hpair => (hall pair hpair).1,
        .list (forall_of_zip_right hlength fun pair hpair => (hall pair hpair).2)⟩
  | @userDefinedType frozen keyspace name fieldTypes cells missing trees hcells hfits hlength
      htrees _ ih =>
    cases hlegal with
    | userDefinedType hnames hinner =>
      have hpairs : (fieldTypes.zip (cells ++ List.replicate missing none)).length =
          trees.length := by
        rw [List.length_zip]
        omega
      have hitems := (@read_container_iff P _ _ _
        (fun values => .dict (fieldPairs fieldTypes values)) _ _ hpairs
        (fun _ => deser_udt_cells hR hnames.2 hcells hfits hlength)
        (fun values hcount => same_fieldPairs_iff (hcount.trans htrees) htrees)).mp hread
      have hall := fun pair hpair => ih pair hpair
        (hinner _ (List.of_mem_zip (List.of_mem_zip hpair).1).1) (hitems pair hpair)
      exact ⟨.userDefinedType hcells hfits hlength htrees fun pair hpair => (hall pair hpair).1,
        (hashed_fieldPairs_iff hR hnames.2 htrees).mpr
          (forall_of_zip_right hpairs fun pair hpair => (hall pair hpair).2)⟩
  | @tuple elts cells missing items hcells hfits _ hlength hitems _ ih =>
    cases hlegal with
    | tuple _ hinner =>
      obtain ⟨value, hvalue, _⟩ := id hread
      obtain rfl := missing_eq_zero hcells hfits hlength hvalue
      simp only [List.replicate_zero, List.append_nil] at hlength ih
      have hpairs : (elts.zip cells).length = items.length := by
        rw [List.length_zip]
        omega
      have hitems' := (read_container_iff hpairs (fun _ => deser_tuple_cells hcells hfits hlength)
        (fun _ _ => same_tuple_iff)).mp hread
      have hall := fun pair hpair => ih pair hpair
        (hinner _ (List.of_mem_zip (List.of_mem_zip hpair).1).1) (hitems' pair hpair)
      refine ⟨.tuple hcells hfits (.inl rfl) (by simpa using hlength) hitems ?_,
        .tuple (forall_of_zip_right hpairs fun pair hpair => (hall pair hpair).2)⟩
      simpa using fun pair hpair => (hall pair hpair).1

/-- A well-formed cell is read, with every element of its sets and every key of its maps kept,
exactly when its tuples have all their elements and Python can hash all elements of sets and
keys of maps and takes no two of one container for equal. -/
theorem read_iff_hashed (hR : R.Lawful) {typ : ColumnType} (hlegal : typ.Everywhere Legal)
    {cell : Cell} {tree : PyVal P} (h : Encodes R true typ cell tree) :
    (∃ value, deserCqlPyValue R (cpython R) typ cell = .ok value ∧ Same value tree) ↔
      Encodes R false typ cell tree ∧ Hashed R tree :=
  ⟨h.hashed_of_deser hR hlegal, fun ⟨hfull, hhashed⟩ => hfull.deser_of_hashed hR hlegal hhashed⟩

/-- A map with a tuple as its key and a null list as its value. -/
theorem read_iff_hashed_tuple_key :
    let typ : ColumnType := .map true (.tuple [.native .int]) (.list true (.native .int))
    let cell : Cell := some [0, 0, 0, 1, 0, 0, 0, 8, 0, 0, 0, 4, 0, 0, 0, 5, 255, 255, 255, 255]
    let tree : PyVal wireInterop := .dict [(.tuple [.scalar (.int 5)], .list [])]
    Encodes wireRuntime true typ cell tree ∧
      ∃ value, deserCqlPyValue wireRuntime (cpython wireRuntime) typ cell = .ok value ∧
        Same value tree := by
  intro typ cell tree
  have hlegal : typ.Everywhere Legal := by
    refine .map trivial (.tuple (List.cons_ne_nil _ _) ?_) (.list trivial (.native trivial))
    simpa using .native trivial
  have hkey (short : Bool) : Encodes wireRuntime short (.tuple [.native .int])
      (some [0, 0, 0, 4, 0, 0, 0, 5]) (.tuple [.scalar (.int 5)]) := by
    refine @Encodes.tuple _ _ _ _ [some [0, 0, 0, 5]] 0 _ (by simp) (by simp; decide) (.inl rfl) rfl
      rfl ?_
    simpa using .native (by simp) rfl
  have hencodes (short : Bool) : Encodes wireRuntime short typ cell tree := by
    refine @Encodes.map _ _ _ _ _ _ [(some [0, 0, 0, 4, 0, 0, 0, 5], none)] _ (by decide)
      (by simp; decide) (by simp) rfl ?_ ?_
    · simpa using hkey short
    · simpa [canon] using @Encodes.null _ wireRuntime short (.list true (.native .int))
  have hhashed : Hashed wireRuntime tree :=
    .dict (by simp [PyVal.hashable, PyVal.hashableAll]) (by simp [Distinct]) (by simpa using .list (by simp))
  exact ⟨hencodes true,
    (read_iff_hashed wireRuntime_lawful hlegal (hencodes true)).mpr ⟨hencodes false, hhashed⟩⟩

set_option maxRecDepth 2000 in
/-- The one element of the set is a list, which Python cannot hash. The tuple lacks its second
element, as one that this driver wrote from `(5,)` does. -/
theorem set_of_lists_not_read :
    let typ : ColumnType := .set true (.list true (.native .int))
    let cell : Cell := some [0, 0, 0, 1, 0, 0, 0, 12, 0, 0, 0, 1, 0, 0, 0, 4, 0, 0, 0, 7]
    let tuple : ColumnType := .tuple [.native .int, .native .int]
    let tupleCell : Cell := some [0, 0, 0, 4, 0, 0, 0, 5]
    (typ.Everywhere Legal ∧
      Encodes wireRuntime true typ cell (.set [.list [.scalar (.int 7)]]) ∧
      deserCqlPyValue wireRuntime (cpython wireRuntime) typ cell =
        .error ((DriverDeserializationError.pythonConversionFailed
          (unhashable (.list [.scalar (.int 7)] : PyVal wireInterop))).pushInner
            (.sequenceIndex 0))) ∧
    (tuple.Everywhere Legal ∧
      Encodes wireRuntime true tuple tupleCell (.tuple [.scalar (.int 5), .none]) ∧
      serialize wireRuntime tuple (.tuple [.scalar (.int 5)]) = .ok tupleCell ∧
      deserCqlPyValue wireRuntime (cpython wireRuntime) tuple tupleCell =
        .error ((DriverDeserializationError.scyllaDecodeFailed .tooFewBytes).pushInner
          (.tupleIndex 1)).ofTupleElement) := by
  intro typ cell tuple tupleCell
  have helt : Encodes wireRuntime true (.list true (.native .int))
      (some [0, 0, 0, 1, 0, 0, 0, 4, 0, 0, 0, 7]) (.list [.scalar (.int 7)]) := by
    refine @Encodes.list _ _ _ _ _ [some [0, 0, 0, 7]] _ (by decide) (by simp; decide) rfl ?_
    simpa using .native (by simp) rfl
  have hset : Encodes wireRuntime true typ cell (.set [.list [.scalar (.int 7)]]) := by
    refine @Encodes.set _ _ _ _ _ [some [0, 0, 0, 1, 0, 0, 0, 4, 0, 0, 0, 7]] _ (by decide)
      (by simp; decide) (by simp) rfl ?_
    simpa using helt
  have htuple : Encodes wireRuntime true tuple tupleCell (.tuple [.scalar (.int 5), .none]) := by
    refine @Encodes.tuple _ _ _ _ [some [0, 0, 0, 5]] 1 _ (by simp) (by simp; decide) (.inr rfl) rfl
      rfl ?_
    simpa using ⟨.native (by simp) rfl, .null _⟩
  refine ⟨⟨.set trivial (.list trivial (.native trivial)), hset, rfl⟩, ⟨?_, htuple, rfl, rfl⟩⟩
  refine .tuple (List.cons_ne_nil _ _) ?_
  simpa using .native trivial

end ScyllaDriver
