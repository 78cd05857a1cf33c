import ScyllaDriver.NativeValues

/-! CPython's `set` and `dict` as the driver fills them: lists without two equal
elements, where a set keeps its elements in the order of its hash table and a dict
its keys in the order in which they first came. -/

namespace ScyllaDriver

open Framing

variable {P : Interop} (R : Runtime P)

mutual

/-- CPython's rule: `list`, `dict` and `set` are unhashable, a tuple is what its items are. -/
def PyVal.hashable : PyVal P → Bool
  | .none => true
  | .cqlEmpty => true
  | .scalar _ => true
  | .tuple items => PyVal.hashableAll items
  | .list _ => false
  | .set _ => false
  | .dict _ => false
  | .mapping _ => false

def PyVal.hashableAll : List (PyVal P) → Bool
  | [] => true
  | item :: items => item.hashable && PyVal.hashableAll items

end

mutual

/-- `==` between objects that can be elements of a set or keys of a dict. -/
def PyVal.pyEq : PyVal P → PyVal P → Bool
  | .none, other => match other with
    | .none => true
    | _ => false
  | .cqlEmpty, other => match other with
    | .cqlEmpty => true
    | _ => false
  | .scalar value, other => match other with
    | .scalar value' => R.eq value value'
    | _ => false
  | .tuple items, other => match other with
    | .tuple items' => PyVal.pyEqAll items items'
    | _ => false
  | .list _, _ => false
  | .set _, _ => false
  | .dict _, _ => false
  | .mapping _, _ => false

def PyVal.pyEqAll : List (PyVal P) → List (PyVal P) → Bool
  | [], items' => items'.isEmpty
  | item :: items, items' => match items' with
    | [] => false
    | item' :: items' => item.pyEq item' && PyVal.pyEqAll items items'

end

def unhashable (value : PyVal P) : PyErr := ⟨.typeError, "unhashable type: '" ++ value.typeName ++ "'", 0⟩

/-- The operations on the set or dict that a cell is read into. -/
structure Containers (P : Interop) where
  add : List (PyVal P) → PyVal P → Except PyErr (List (PyVal P))
  setItem : List (PyVal P × PyVal P) → PyVal P × PyVal P → Except PyErr (List (PyVal P × PyVal P))

def pySetInsert (items : List (PyVal P)) (item : PyVal P) : List (PyVal P) :=
  if items.any (fun other => other.pyEq R item) then items else R.place items item

/-- An equal key stays and takes the new value. -/
def pyDictAssign : List (PyVal P × PyVal P) → PyVal P × PyVal P → List (PyVal P × PyVal P)
  | [], pair => [pair]
  | other :: items, pair =>
    if other.1.pyEq R pair.1 then (other.1, pair.2) :: items else other :: pyDictAssign items pair

def pySetAdd (items : List (PyVal P)) (item : PyVal P) : Except PyErr (List (PyVal P)) :=
  if item.hashable then .ok (pySetInsert R items item) else .error (unhashable item)

def pyDictSetItem (items : List (PyVal P × PyVal P)) (pair : PyVal P × PyVal P) :
    Except PyErr (List (PyVal P × PyVal P)) :=
  if pair.1.hashable then .ok (pyDictAssign R items pair) else .error (unhashable pair.1)

def cpython : Containers P := ⟨pySetAdd R, pyDictSetItem R⟩

def pyDictGet (items : List (PyVal P × PyVal P)) (key : PyVal P) : Option (PyVal P) :=
  (items.find? (fun pair => pair.1.pyEq R key)).map Prod.snd

/-- The set and the dict made of the given elements, in their order. -/
def pySet (items : List (PyVal P)) : List (PyVal P) := items.foldl (pySetInsert R) []

def pyDict (items : List (PyVal P × PyVal P)) : List (PyVal P × PyVal P) :=
  items.foldl (pyDictAssign R) []

variable {R}

theorem PyVal.hashableAll_eq (items : List (PyVal P)) :
    PyVal.hashableAll items = items.all PyVal.hashable := by
  induction items with
  | nil => rfl
  | cons item items ih => simp [PyVal.hashableAll, ih]

@[simp]
theorem PyVal.hashable_tuple {items : List (PyVal P)} :
    (PyVal.tuple items).hashable = true ↔ ∀ item ∈ items, item.hashable = true := by
  simp [PyVal.hashable, PyVal.hashableAll_eq]

mutual

theorem PyVal.pyEq_comm (hR : R.Lawful) (a b : PyVal P) : a.pyEq R b = b.pyEq R a := by
  cases a with
  | tuple items =>
    cases b with
    | tuple items' => exact PyVal.pyEqAll_comm hR items items'
    | _ => rfl
  | scalar value =>
    cases b with
    | scalar value' => exact hR.eq_comm value value'
    | _ => rfl
  | _ => cases b <;> rfl

theorem PyVal.pyEqAll_comm (hR : R.Lawful) (items items' : List (PyVal P)) :
    PyVal.pyEqAll R items items' = PyVal.pyEqAll R items' items := by
  match items, items' with
  | [], [] => rfl
  | [], _ :: _ => rfl
  | _ :: _, [] => rfl
  | item :: items, item' :: items' =>
    rw [PyVal.pyEqAll, PyVal.pyEqAll, PyVal.pyEq_comm hR item item',
      PyVal.pyEqAll_comm hR items items']

end

theorem foldlM_eq_ok_iff {ε α σ : Type} {f : σ → α → σ} {g : α → Bool} {err : α → ε}
    {items : List α} {state final : σ} :
    items.foldlM (fun state item => if g item then .ok (f state item)
        else .error (err item)) state = Except.ok final ↔
      (∀ item ∈ items, g item = true) ∧ final = items.foldl f state := by
  induction items generalizing state with
  | nil => exact ⟨fun h => ⟨by simp, (Except.ok.inj h).symm⟩, fun h => congrArg Except.ok h.2.symm⟩
  | cons item items ih =>
    rw [List.foldlM_cons, bind_eq_ok_iff]
    by_cases hguard : g item = true <;> simp [hguard, ih]

theorem foldlM_pySetAdd {items added final : List (PyVal P)} :
    added.foldlM (cpython R).add items = .ok final ↔
      (∀ item ∈ added, item.hashable = true) ∧ final = added.foldl (pySetInsert R) items :=
  foldlM_eq_ok_iff

theorem foldlM_pyDictSetItem {items added final : List (PyVal P × PyVal P)} :
    added.foldlM (cpython R).setItem items = .ok final ↔
      (∀ pair ∈ added, pair.1.hashable = true) ∧ final = added.foldl (pyDictAssign R) items :=
  foldlM_eq_ok_iff (f := pyDictAssign R) (g := fun pair : PyVal P × PyVal P => pair.1.hashable)

/-- No two elements are equal. -/
def Distinct (R : Runtime P) (items : List (PyVal P)) : Prop :=
  items.Pairwise (fun a b => a.pyEq R b = false)

theorem Distinct.perm (hR : R.Lawful) {items items' : List (PyVal P)} (h : Distinct R items)
    (hperm : items.Perm items') : Distinct R items' :=
  List.Pairwise.perm h hperm (fun {a b} hab => (PyVal.pyEq_comm hR b a).trans hab)

theorem pySetInsert_perm (hR : R.Lawful) {items : List (PyVal P)} {item : PyVal P}
    (h : ∀ other ∈ items, other.pyEq R item = false) :
    (pySetInsert R items item).Perm (item :: items) := by
  have hnone : ¬ items.any (fun other => other.pyEq R item) = true := by simpa using h
  rw [pySetInsert, if_neg hnone]
  exact hR.place_perm items item

theorem Distinct.pySetInsert (hR : R.Lawful) {items : List (PyVal P)} (h : Distinct R items)
    (item : PyVal P) : Distinct R (pySetInsert R items item) := by
  by_cases hany : items.any (fun other => other.pyEq R item) = true
  · simpa [ScyllaDriver.pySetInsert, hany] using h
  · have hnew : ∀ other ∈ items, other.pyEq R item = false := by simpa using hany
    refine Distinct.perm hR (List.pairwise_cons.mpr ⟨?_, h⟩) (pySetInsert_perm hR hnew).symm
    intro other hother
    exact (PyVal.pyEq_comm hR item other).trans (hnew other hother)

theorem mem_of_mem_pySetInsert (hR : R.Lawful) {items : List (PyVal P)} {item other : PyVal P}
    (h : other ∈ pySetInsert R items item) : other = item ∨ other ∈ items := by
  rw [pySetInsert] at h
  split at h
  · exact .inr h
  · exact List.mem_cons.mp ((hR.place_perm items item).mem_iff.mp h)

/-- A set holds no two equal elements, and only what was added. -/
theorem foldl_pySetInsert (hR : R.Lawful) {added items : List (PyVal P)} (h : Distinct R items) :
    Distinct R (added.foldl (pySetInsert R) items) ∧
      ∀ item ∈ added.foldl (pySetInsert R) items, item ∈ items ∨ item ∈ added := by
  induction added generalizing items with
  | nil => exact ⟨h, fun item hitem => .inl hitem⟩
  | cons new added ih =>
    obtain ⟨hdistinct, hmem⟩ := ih (h.pySetInsert hR new)
    refine ⟨hdistinct, fun item hitem => ?_⟩
    rcases hmem item hitem with hin | hin
    · rcases mem_of_mem_pySetInsert hR hin with rfl | hin
      · exact .inr List.mem_cons_self
      · exact .inl hin
    · exact .inr (List.mem_cons_of_mem _ hin)

theorem foldl_pySetInsert_perm (hR : R.Lawful) {added items : List (PyVal P)}
    (h : Distinct R (items ++ added)) :
    (added.foldl (pySetInsert R) items).Perm (items ++ added) := by
  induction added generalizing items with
  | nil => simp
  | cons new added ih =>
    have hnew : ∀ other ∈ items, other.pyEq R new = false := by
      intro other hother
      exact (List.pairwise_append.mp h).2.2 other hother new List.mem_cons_self
    have hinsert := pySetInsert_perm hR hnew
    have hmoved : (pySetInsert R items new ++ added).Perm (items ++ new :: added) :=
      (hinsert.append_right added).trans List.perm_middle.symm
    exact (ih (h.perm hR hmoved.symm)).trans hmoved

theorem pySet_perm (hR : R.Lawful) {items : List (PyVal P)} (h : Distinct R items) :
    (pySet R items).Perm items := by
  have hnil : Distinct R ([] ++ items) := h
  exact foldl_pySetInsert_perm hR hnil

theorem fst_mem_pyDictAssign {items : List (PyVal P × PyVal P)} {pair : PyVal P × PyVal P}
    {key : PyVal P} (h : key ∈ (pyDictAssign R items pair).map Prod.fst) :
    key = pair.1 ∨ key ∈ items.map Prod.fst := by
  induction items with
  | nil => simpa [pyDictAssign] using h
  | cons other items ih =>
    rw [pyDictAssign] at h
    split at h
    · exact .inr (by simpa using h)
    · rcases List.mem_cons.mp h with rfl | h
      · exact .inr (by simp)
      · exact (ih h).imp_right (List.mem_cons_of_mem _)

theorem snd_mem_pyDictAssign {items : List (PyVal P × PyVal P)} {pair : PyVal P × PyVal P}
    {value : PyVal P} (h : value ∈ (pyDictAssign R items pair).map Prod.snd) :
    value = pair.2 ∨ value ∈ items.map Prod.snd := by
  induction items with
  | nil => simpa [pyDictAssign] using h
  | cons other items ih =>
    rw [pyDictAssign] at h
    split at h
    · rcases List.mem_cons.mp h with rfl | h
      · exact .inl rfl
      · exact .inr (List.mem_cons_of_mem _ h)
    · rcases List.mem_cons.mp h with rfl | h
      · exact .inr (by simp)
      · exact (ih h).imp_right (List.mem_cons_of_mem _)

theorem distinct_pyDictAssign {items : List (PyVal P × PyVal P)}
    (h : Distinct R (items.map Prod.fst)) (pair : PyVal P × PyVal P) :
    Distinct R ((pyDictAssign R items pair).map Prod.fst) := by
  induction items with
  | nil => simp [pyDictAssign, Distinct]
  | cons other items ih =>
    obtain ⟨hother, hrest⟩ := List.pairwise_cons.mp h
    by_cases heq : other.1.pyEq R pair.1 = true
    · simpa [pyDictAssign, heq] using h
    · simp only [pyDictAssign, heq, Bool.false_eq_true, if_false, List.map_cons]
      refine List.pairwise_cons.mpr ⟨fun key hkey => ?_, ih hrest⟩
      rcases fst_mem_pyDictAssign hkey with rfl | hkey
      · simpa using heq
      · exact hother key hkey

theorem pyDictAssign_append {items : List (PyVal P × PyVal P)} {pair : PyVal P × PyVal P}
    (h : ∀ other ∈ items, other.1.pyEq R pair.1 = false) :
    pyDictAssign R items pair = items ++ [pair] := by
  induction items with
  | nil => rfl
  | cons other items ih =>
    rw [List.forall_mem_cons] at h
    simp [pyDictAssign, h.1, ih h.2]

theorem foldl_pyDictAssign_append {added items : List (PyVal P × PyVal P)}
    (h : Distinct R ((items ++ added).map Prod.fst)) :
    added.foldl (pyDictAssign R) items = items ++ added := by
  induction added generalizing items with
  | nil => simp
  | cons pair added ih =>
    have hpair : ∀ other ∈ items, other.1.pyEq R pair.1 = false := by
      rw [List.map_append] at h
      intro other hother
      exact (List.pairwise_append.mp h).2.2 other.1 (List.mem_map_of_mem hother) pair.1 (by simp)
    rw [List.foldl_cons, pyDictAssign_append hpair, ih (by simpa using h)]
    simp

theorem pyDict_eq_self {items : List (PyVal P × PyVal P)} (h : Distinct R (items.map Prod.fst)) :
    pyDict R items = items := by
  have hnil : Distinct R (([] ++ items).map Prod.fst) := h
  exact foldl_pyDictAssign_append hnil

/-- A dict has no two equal keys; its keys and values are among those that were set. -/
theorem foldl_pyDictAssign {added items : List (PyVal P × PyVal P)}
    (h : Distinct R (items.map Prod.fst)) :
    Distinct R ((added.foldl (pyDictAssign R) items).map Prod.fst) ∧
      (∀ key ∈ (added.foldl (pyDictAssign R) items).map Prod.fst,
        key ∈ items.map Prod.fst ∨ key ∈ added.map Prod.fst) ∧
      (∀ value ∈ (added.foldl (pyDictAssign R) items).map Prod.snd,
        value ∈ items.map Prod.snd ∨ value ∈ added.map Prod.snd) := by
  induction added generalizing items with
  | nil => exact ⟨h, fun _ hkey => .inl hkey, fun _ hvalue => .inl hvalue⟩
  | cons pair added ih =>
    obtain ⟨hdistinct, hkeys, hvalues⟩ := ih (distinct_pyDictAssign h pair)
    refine ⟨hdistinct, fun key hkey => ?_, fun value hvalue => ?_⟩
    · rcases hkeys key hkey with hin | hin
      · rcases fst_mem_pyDictAssign hin with rfl | hin
        · exact .inr (by simp)
        · exact .inl hin
      · exact .inr (List.mem_cons_of_mem _ hin)
    · rcases hvalues value hvalue with hin | hin
      · rcases snd_mem_pyDictAssign hin with rfl | hin
        · exact .inr (by simp)
        · exact .inl hin
      · exact .inr (List.mem_cons_of_mem _ hin)

end ScyllaDriver
