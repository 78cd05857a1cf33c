import Mathlib.Data.List.Basic

/-! The bind variable indexes of a partition key. The driver hands them over sorted by
index and `partition_key_index_tuple` scatters them back to the order of the server. -/

namespace ScyllaDriver

section Scatter

variable {α β : Type}

/-- One write of a scatter loop; `none` is the panic of an index out of bounds. -/
def putAt (slots : List α) (position : Nat) (value : α) : Option (List α) :=
  if position < slots.length then some (slots.set position value) else none

def scatter (position : β → Nat) (value : β → α) (slots : List α) (writes : List β) :
    Option (List α) :=
  writes.foldlM (fun slots w => putAt slots (position w) (value w)) slots

/-- A scatter whose writes all land inside, and whose writes to a slot all agree with
`target` there, makes `target` of the written slots and leaves the others alone. -/
theorem scatter_spec {position : β → Nat} {value : β → α} {target slots : List α}
    {writes : List β} (hlen : slots.length = target.length)
    (hw : ∀ w ∈ writes, target[position w]? = some (value w)) :
    ∃ result, scatter position value slots writes = some result ∧
      result.length = target.length ∧
      ∀ i, (i ∈ writes.map position ∨ slots[i]? = target[i]?) → result[i]? = target[i]? := by
  induction writes generalizing slots with
  | nil =>
    refine ⟨slots, rfl, hlen, fun i hi => ?_⟩
    simpa using hi
  | cons w writes ih =>
    have hwt := hw w List.mem_cons_self
    have hin : position w < slots.length := by
      have := (List.getElem?_eq_some_iff.mp hwt).1
      omega
    have hset : (slots.set (position w) (value w)).length = target.length := by simpa using hlen
    obtain ⟨result, hr, hrl, hri⟩ := ih hset (fun v hv => hw v (List.mem_cons_of_mem _ hv))
    refine ⟨result, ?_, hrl, fun i hi => hri i ?_⟩
    · simpa [scatter, putAt, hin] using hr
    · by_cases hwi : position w = i
      · right
        subst hwi
        rw [hwt]
        simp [hin]
      · rw [List.getElem?_set_ne hwi]
        rcases hi with hi | hi
        · left
          simpa [Ne.symm hwi] using hi
        · exact Or.inr hi

theorem scatter_eq {position : β → Nat} {value : β → α} {target slots : List α}
    {writes : List β} (hlen : slots.length = target.length)
    (hw : ∀ w ∈ writes, target[position w]? = some (value w))
    (hall : ∀ i < target.length, i ∈ writes.map position) :
    scatter position value slots writes = some target := by
  obtain ⟨result, hr, hrl, hri⟩ := scatter_spec hlen hw
  rw [hr]
  congr 1
  apply List.ext_getElem?
  intro i
  by_cases hi : i < target.length
  · exact hri i (Or.inl (hall i hi))
  · rw [List.getElem?_eq_none (by omega), List.getElem?_eq_none (by omega)]

end Scatter

structure PartitionKeyIndex where
  index : UInt16
  sequence : UInt16
  deriving DecidableEq

def partitionKeyIndexTuple (pkIndexes : List PartitionKeyIndex) : Option (List UInt16) :=
  scatter (fun pkIndex => pkIndex.sequence.toNat) PartitionKeyIndex.index
    (List.replicate pkIndexes.length 0) pkIndexes

/-- The Rust driver numbers the indexes as it reads them from the server's response. -/
def numbered (indexes : List UInt16) : List PartitionKeyIndex :=
  indexes.mapIdx fun i index => ⟨index, UInt16.ofNat i⟩

theorem toNat_ofNat_of_le {i : Nat} (h : i ≤ 65535) : (UInt16.ofNat i).toNat = i := by
  rw [UInt16.toNat_ofNat']
  exact Nat.mod_eq_of_lt (by omega)

theorem mem_numbered {indexes : List UInt16} (hn : indexes.length ≤ 65535)
    {pkIndex : PartitionKeyIndex} :
    pkIndex ∈ numbered indexes ↔ indexes[pkIndex.sequence.toNat]? = some pkIndex.index := by
  constructor
  · intro h
    obtain ⟨i, hi, rfl⟩ := List.mem_mapIdx.mp h
    rw [toNat_ofNat_of_le (by omega)]
    exact List.getElem?_eq_getElem hi
  · intro h
    obtain ⟨hi, he⟩ := List.getElem?_eq_some_iff.mp h
    refine List.mem_mapIdx.mpr ⟨_, hi, ?_⟩
    rw [he]
    simp

/-- Whatever the order the numbered indexes come in, each one finds its slot. -/
theorem partitionKeyIndexTuple_undoes_sort (indexes : List UInt16)
    (hn : indexes.length ≤ 65535) (pkIndexes : List PartitionKeyIndex)
    (hp : pkIndexes.Perm (numbered indexes)) :
    partitionKeyIndexTuple pkIndexes = some indexes := by
  have hlen : pkIndexes.length = indexes.length := by
    rw [hp.length_eq, numbered, List.length_mapIdx]
  apply scatter_eq
  · simpa using hlen
  · intro pkIndex hmem
    exact (mem_numbered hn).mp (hp.mem_iff.mp hmem)
  · intro i hi
    have hmem : (⟨indexes[i], UInt16.ofNat i⟩ : PartitionKeyIndex) ∈ numbered indexes :=
      List.mem_mapIdx.mpr ⟨i, hi, rfl⟩
    refine List.mem_map.mpr ⟨_, hp.mem_iff.mpr hmem, ?_⟩
    exact toNat_ofNat_of_le (by omega)

-- The server's order 7, 2, 7 sorted by index, with the repeated index swapped.
theorem partitionKeyIndexTuple_of_sorted :
    partitionKeyIndexTuple [⟨2, 1⟩, ⟨7, 2⟩, ⟨7, 0⟩] = some [7, 2, 7] :=
  partitionKeyIndexTuple_undoes_sort [7, 2, 7] (by decide) _ (by decide)

end ScyllaDriver
