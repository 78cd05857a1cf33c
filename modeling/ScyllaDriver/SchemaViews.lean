import ScyllaDriver.DescriptorRoundTrip

/-! Tables and materialized views as Python sees them. The columns become Python objects in a
dict, and the dicts of the keys share these objects. -/

namespace ScyllaDriver

namespace SchemaViews

open Fallible PyCqlColumnType

inductive ColumnKind where
  | regular | static | clustering | partitionKey
  deriving DecidableEq, Repr

inductive PyColumnKind where
  | regular | static | clustering | partitionKey
  deriving DecidableEq, Repr

def PyColumnKind.ofColumnKind : ColumnKind → PyColumnKind
  | .regular => .regular
  | .static => .static
  | .clustering => .clustering
  | .partitionKey => .partitionKey

structure Column where
  typ : ColumnType
  kind : ColumnKind

/-- A table of the driver's metadata; the columns are in the order in which its map iterates. -/
structure Table where
  columns : List (String × Column)
  nodup : (columns.map Prod.fst).Nodup
  partitionKey : List String
  clusteringKey : List String
  partitioner : Option String

structure MaterializedView where
  viewMetadata : Table
  baseTableName : String

/-- `object` tells Python's objects apart. -/
structure PyColumn where
  object : Nat
  typ : PyCqlColumnType
  kind : PyColumnKind

/-- A `dict` from names, in the order of insertion. -/
abbrev PyDict (V : Type) := List (String × V)

def PyDict.setItem {V : Type} (dict : PyDict V) (name : String) (value : V) : PyDict V :=
  if dict.any (·.1 == name) then
    dict.map fun item => if item.1 == name then (name, value) else item
  else dict ++ [(name, value)]

def PyDict.getItem {V : Type} (dict : PyDict V) (name : String) : Option V := dict.lookup name

/-- The dicts of a table or a view; a missing column would be `None` among the keys. -/
structure PyColumns where
  columns : PyDict PyColumn
  partitionKey : PyDict (Option PyColumn)
  clusteringKey : PyDict (Option PyColumn)

structure PyTable where
  inner : Table
  dicts : PyColumns

structure PyMaterializedView where
  inner : MaterializedView
  dicts : PyColumns

section Code

variable (raises : Nat → Option PyErr)

/-- A new Python object, told apart by when it was made. -/
def pyObject : RunM PyErr Nat := fun made => RunM.request raises made made

/-- The column is made an object when it is put into the dict. -/
def PyColumn.tryFrom (value : Column) : RunM PyErr PyColumn := do
  let typ ← extractColumnType raises value.typ.toOpen
  let kind ← RunM.request raises (PyColumnKind.ofColumnKind value.kind)
  let object ← pyObject raises
  return ⟨object, typ, kind⟩

def columnsDict (columns : List (String × Column)) : RunM PyErr (PyDict PyColumn) :=
  columns.foldlM (fun dict item => do
    let column ← PyColumn.tryFrom raises item.2
    RunM.request raises (PyDict.setItem dict item.1 column)) []

/-- The keys reuse the objects of the columns. -/
def keyDict (columns : PyDict PyColumn) (names : List String) :
    RunM PyErr (PyDict (Option PyColumn)) :=
  names.foldlM (fun dict name => do
    let column ← RunM.request raises (columns.getItem name)
    RunM.request raises (PyDict.setItem dict name column)) []

/-- The loops that `PyTable` and `PyMaterializedView` are made with. -/
def PyColumns.tryFrom (table : Table) : RunM PyErr PyColumns := do
  let columns ← columnsDict raises table.columns
  let partitionKey ← keyDict raises columns table.partitionKey
  let clusteringKey ← keyDict raises columns table.clusteringKey
  return ⟨columns, partitionKey, clusteringKey⟩

def PyTable.tryFrom (inner : Table) : RunM PyErr PyTable := do
  let dicts ← PyColumns.tryFrom raises inner
  return ⟨inner, dicts⟩

def PyMaterializedView.tryFrom (inner : MaterializedView) : RunM PyErr PyMaterializedView := do
  let dicts ← PyColumns.tryFrom raises inner.viewMetadata
  return ⟨inner, dicts⟩

end Code

variable {raises : Nat → Option PyErr} {V : Type}

theorem setItem_new {dict : PyDict V} {name : String} (h : name ∉ dict.map Prod.fst) (value : V) :
    dict.setItem name value = dict ++ [(name, value)] := by
  have hnone : dict.any (·.1 == name) = false := by
    rw [List.any_eq_false]
    intro item hitem
    have hne : item.1 ≠ name := fun heq => h (heq ▸ List.mem_map_of_mem hitem)
    simpa using hne
  rw [PyDict.setItem, hnone]
  rfl

def PyColumnKind.toColumnKind : PyColumnKind → ColumnKind
  | .regular => .regular
  | .static => .static
  | .clustering => .clustering
  | .partitionKey => .partitionKey

theorem PyColumnKind.toColumnKind_ofColumnKind (kind : ColumnKind) :
    (ofColumnKind kind).toColumnKind = kind := by
  cases kind <;> rfl

/-- The column that Python code can read off an object. -/
def PyColumn.rebuild (column : PyColumn) : Column := ⟨column.typ.rebuild, column.kind.toColumnKind⟩

/-- `dict` has the columns of `columns`, in their order. -/
def Shows (columns : List (String × Column)) (dict : PyDict PyColumn) : Prop :=
  dict.map (fun item => (item.1, item.2.rebuild)) = columns

theorem Shows.names {columns : List (String × Column)} {dict : PyDict PyColumn}
    (h : Shows columns dict) : dict.map Prod.fst = columns.map Prod.fst := by
  rw [← h, List.map_map]
  rfl

theorem PyColumn.tryFrom_ends (value : Column) :
    Ends (Raised raises) (PyColumn.tryFrom raises value) (fun column => column.rebuild = value)
      False := by
  refine (extractColumnType_ends value.typ).bind fun typ htyp => ?_
  refine Ends.bind (Ends.request (P := fun kind => kind.toColumnKind = value.kind)
    (PyColumnKind.toColumnKind_ofColumnKind _)) fun kind hkind => ?_
  refine Ends.bind (P := fun _ => True) (fun made => Ends.request trivial made)
    fun object _ => Ends.pure ?_
  simp only [PyColumn.rebuild, htyp, hkind]

/-- A name that is new to the columns is new to their dict. -/
theorem notMem_of_nodup_append {done : List (String × V)} {item : String × V}
    (h : ((done ++ [item]).map Prod.fst).Nodup) :
    (done.map Prod.fst).Nodup ∧ item.1 ∉ done.map Prod.fst := by
  rw [List.map_append, List.map_singleton] at h
  have hdisjoint := List.disjoint_of_nodup_append h
  exact ⟨h.of_append_left, fun hmem => hdisjoint hmem (List.mem_singleton_self _)⟩

theorem columnsDict_ends {columns : List (String × Column)}
    (hnodup : (columns.map Prod.fst).Nodup) :
    Ends (Raised raises) (columnsDict raises columns) (Shows columns) False := by
  -- The columns done so far, as long as no name has come twice.
  let I (done : List (String × Column)) (dict : PyDict PyColumn) : Prop :=
    (done.map Prod.fst).Nodup → Shows done dict
  have hstep (done : List (String × Column)) (item : String × Column) (_ : item ∈ columns)
      (dict : PyDict PyColumn) (hdict : I done dict) :
      Ends (Raised raises)
        (do
          let column ← PyColumn.tryFrom raises item.2
          RunM.request raises (PyDict.setItem dict item.1 column))
        (I (done ++ [item])) False := by
    refine (PyColumn.tryFrom_ends item.2).bind fun column hcolumn => Ends.request fun hnames => ?_
    obtain ⟨hdone, hnew⟩ := notMem_of_nodup_append hnames
    have hshows := hdict hdone
    rw [Shows, setItem_new (hshows.names ▸ hnew), List.map_append, hshows, List.map_singleton,
      hcolumn]
  have hloop := Ends.foldlM hstep (show I [] [] from fun _ => rfl)
  exact Ends.imp hloop fun dict hdict => hdict hnodup

/-- The dict of a key has its columns in order, each with what `columns` has for it. -/
def ShowsKey (columns : PyDict PyColumn) (names : List String) (dict : PyDict (Option PyColumn)) :
    Prop :=
  dict = names.map fun name => (name, columns.getItem name)

theorem keyDict_ends (columns : PyDict PyColumn) {names : List String} (hnodup : names.Nodup) :
    Ends (Raised raises) (keyDict raises columns names) (ShowsKey columns names) False := by
  let I (done : List String) (dict : PyDict (Option PyColumn)) : Prop :=
    done.Nodup → ShowsKey columns done dict
  have hstep (done : List String) (name : String) (_ : name ∈ names)
      (dict : PyDict (Option PyColumn)) (hdict : I done dict) :
      Ends (Raised raises)
        (do
          let column ← RunM.request raises (columns.getItem name)
          RunM.request raises (PyDict.setItem dict name column))
        (I (done ++ [name])) False := by
    refine Ends.bind (Ends.request (P := fun column => column = columns.getItem name) rfl)
      fun column hcolumn => Ends.request fun hnames => ?_
    have hdisjoint := List.disjoint_of_nodup_append hnames
    have hshows : dict = _ := hdict hnames.of_append_left
    have hnew : name ∉ dict.map Prod.fst := by
      rw [hshows, List.map_map]
      simpa [Function.comp_def] using fun hmem => hdisjoint hmem (List.mem_singleton_self _)
    rw [ShowsKey, setItem_new hnew, hcolumn, hshows, List.map_append, List.map_singleton]
  have hloop := Ends.foldlM hstep (show I [] [] from fun _ => rfl)
  exact Ends.imp hloop fun dict hdict => hdict hnodup

/-- The driver's metadata has a column for every part of a key. -/
structure Table.Keyed (table : Table) : Prop where
  partition : table.partitionKey.Nodup
  clustering : table.clusteringKey.Nodup
  columns : ∀ name ∈ table.partitionKey ++ table.clusteringKey, name ∈ table.columns.map Prod.fst

/-- What Python code reads off the dicts. -/
def PyColumns.read (dicts : PyColumns) : List (String × Column) × List String × List String :=
  (dicts.columns.map fun item => (item.1, item.2.rebuild), dicts.partitionKey.map Prod.fst,
    dicts.clusteringKey.map Prod.fst)

/-- The dicts show all of the table, and the keys share the objects of its columns. -/
structure PyColumns.Show (dicts : PyColumns) (table : Table) : Prop where
  read : dicts.read = (table.columns, table.partitionKey, table.clusteringKey)
  shared : ∀ item ∈ dicts.partitionKey ++ dicts.clusteringKey,
    ∃ column, item.2 = some column ∧ (item.1, column) ∈ dicts.columns

theorem ShowsKey.names {columns : PyDict PyColumn} {names : List String}
    {dict : PyDict (Option PyColumn)} (h : ShowsKey columns names dict) :
    dict.map Prod.fst = names := by
  rw [h, List.map_map]
  exact List.map_id'' (fun _ => rfl) names

theorem getItem_of_mem {dict : PyDict V} {name : String} (h : name ∈ dict.map Prod.fst) :
    ∃ value, dict.getItem name = some value ∧ (name, value) ∈ dict := by
  cases hget : dict.getItem name with
  | some value =>
    obtain ⟨l₁, l₂, hdict, -⟩ := List.lookup_eq_some_iff.mp hget
    exact ⟨value, rfl, by rw [hdict]; simp⟩
  | none =>
    obtain ⟨item, hitem, rfl⟩ := List.mem_map.mp h
    have hne := List.lookup_eq_none_iff.mp hget item hitem
    simp at hne

theorem ShowsKey.shared {columns : PyDict PyColumn} {names : List String}
    {dict : PyDict (Option PyColumn)} (h : ShowsKey columns names dict)
    (hnames : ∀ name ∈ names, name ∈ columns.map Prod.fst) {item : String × Option PyColumn}
    (hitem : item ∈ dict) : ∃ column, item.2 = some column ∧ (item.1, column) ∈ columns := by
  rw [h] at hitem
  obtain ⟨name, hname, rfl⟩ := List.mem_map.mp hitem
  exact getItem_of_mem (hnames name hname)

theorem PyColumns.tryFrom_ends {table : Table} (hkeyed : table.Keyed) :
    Ends (Raised raises) (PyColumns.tryFrom raises table) (fun dicts => dicts.Show table) False := by
  refine (columnsDict_ends table.nodup).bind fun columns hcolumns => ?_
  refine (keyDict_ends columns hkeyed.partition).bind fun partitionKey hpartition => ?_
  refine (keyDict_ends columns hkeyed.clustering).bind fun clusteringKey hclustering =>
    Ends.pure ⟨?_, fun item hitem => ?_⟩
  · rw [PyColumns.read, hcolumns, hpartition.names, hclustering.names]
  · have hnames (name : String) (h : name ∈ table.partitionKey ++ table.clusteringKey) :
        name ∈ columns.map Prod.fst := hcolumns.names ▸ hkeyed.columns name h
    rcases List.mem_append.mp hitem with h | h
    · exact hpartition.shared (fun name hname => hnames name (List.mem_append_left _ hname)) h
    · exact hclustering.shared (fun name hname => hnames name (List.mem_append_right _ hname)) h

/-- Of a table, and of a view with its columns, Python is shown every column with its type and
kind and the keys in their order. All that can happen instead is that the interpreter raises. -/
theorem schema_dicts_lose_nothing (raises : Nat → Option PyErr) {table : Table}
    (hkeyed : table.Keyed) (baseTableName : String) :
    Ends (Raised raises) (PyTable.tryFrom raises table)
      (fun view => view.inner = table ∧ view.dicts.Show table) False ∧
    Ends (Raised raises) (PyMaterializedView.tryFrom raises ⟨table, baseTableName⟩)
      (fun view => view.inner.baseTableName = baseTableName ∧ view.dicts.Show table) False := by
  constructor
  · exact (PyColumns.tryFrom_ends hkeyed).bind fun dicts hdicts => Ends.pure ⟨rfl, hdicts⟩
  · exact (PyColumns.tryFrom_ends hkeyed).bind fun dicts hdicts => Ends.pure ⟨rfl, hdicts⟩

/-- A table with a frozen list in its key. -/
theorem schema_dicts_lose_nothing_frozen :
    let key : Column := ⟨.list true (.native .int), .partitionKey⟩
    let time : Column := ⟨.native .timeuuid, .clustering⟩
    let table : Table := ⟨[("key", key), ("time", time)], by decide, ["key"], ["time"], none⟩
    table.Keyed ∧ ∃ view made, PyTable.tryFrom (fun _ => none) table 0 = .ok (view, made) ∧
      view.dicts.Show table := by
  intro key time table
  have hkeyed : table.Keyed := ⟨by decide, by decide, by decide⟩
  have hends := (schema_dicts_lose_nothing (fun _ => none) hkeyed "events").1
  obtain ⟨view, made, hview⟩ := hends.returns (by simp [Raised]) 0
  exact ⟨hkeyed, view, made, hview, (hends.of_eq_ok hview).2⟩

end SchemaViews

end ScyllaDriver
