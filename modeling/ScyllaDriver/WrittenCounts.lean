import ScyllaDriver.ReentrantSerialize
import ScyllaDriver.WireRuntime

/-! The counts in a cell are right as long as no Python code takes elements out of a list that
is being serialized and no vector has a `None` in it. -/

namespace ScyllaDriver.ReentrantSerialize

open Framing Reentrancy

variable {P : Interop} {R : Runtime P} {W : Type} {code : PyCode W} {active : List Ref}

/-- The lists being serialized do not get shorter, and a vector element that is about to be
written is not `None`. -/
def kept (code : PyCode W) : Rely Held W where
  starts held w := ∀ item, held.element = some item → code.object w item ≠ .none
  holds held w w' :=
    ∀ list ∈ held.lists, (code.listItems w list).length ≤ (code.listItems w' list).length
  refl _ _ _ _ := le_rfl
  trans h h' list hlist := (h list hlist).trans (h' list hlist)

theorem ensures_refuse {α : Type} {err : SerializationError} {Q : W → α → W → Prop} :
    Ensures (kept code) (.iterating active) (refuse err) Q :=
  .lift fun _ _ h => by cases h

theorem ensures_orInteropFailed {α : Type} (x : Except PyErr α) :
    Ensures (kept code) (.iterating active) (orInteropFailed x : SerM W α) fun w _ w' => w' = w :=
  .lift fun _ _ _ => rfl

theorem iterateList_ensures {α : Type} {list : Ref} {each : Ref → SerM W α} {Q : α → Prop}
    (hlist : list ∈ active)
    (h : ∀ item, Ensures (kept code) (.iterating active) (each item) fun _ a _ => Q a)
    (remaining i : Nat) :
    Ensures (kept code) (.iterating active) (iterateList code list each remaining i) fun w as _ =>
      (∀ a ∈ as, Q a) ∧
      (i + remaining ≤ (code.listItems w list).length → as.length = remaining) := by
  induction remaining generalizing i with
  | zero => exact .pure fun _ => ⟨by simp, fun _ => rfl⟩
  | succ remaining ih =>
    refine .world_bind ?_
    intro now
    cases hitem : (code.listItems now list)[i]? with
    | none =>
      refine .pure ?_
      rintro w rfl
      have hend := List.getElem?_eq_none_iff.mp hitem
      exact ⟨by simp, fun hlength => by omega⟩
    | some item =>
      refine .bind (h item) ?_
      intro a
      refine .bind (ih (i + 1)) ?_
      intro rest
      refine .pure ?_
      rintro _ w' - ⟨hrest, hlength⟩ w hkept ha -
      refine ⟨List.forall_mem_cons.mpr ⟨ha, hrest⟩, ?_⟩
      intro hfits
      -- Converting the item has left the list as long as it was.
      have hgrown := hkept list hlist
      rw [List.length_cons, hlength (by omega)]

theorem iterateSet_ensures {α : Type} {each : Ref → SerM W α} {Q : α → Prop}
    (h : ∀ item, Ensures (kept code) (.iterating active) (each item) fun _ a _ => Q a)
    (slots : List (W → Except PyErr (Option Ref))) :
    Ensures (kept code) (.iterating active) (iterateSet each slots) fun _ as _ => ∀ a ∈ as, Q a := by
  induction slots with
  | nil => exact .pure (by simp)
  | cons slot slots ih =>
    refine .world_bind ?_
    intro now
    refine .bind (ensures_orInteropFailed _) ?_
    intro found
    cases found with
    | none => exact ih.mono fun _ _ _ has _ _ _ _ => has
    | some item =>
      refine .bind (h item) ?_
      intro a
      refine .bind ih ?_
      intro rest
      refine .pure ?_
      intro _ _ _ hrest _ _ ha _ _ _ _
      exact List.forall_mem_cons.mpr ⟨ha, hrest⟩

theorem ensures_finish {typ : ColumnType} {content : Bytes} {Q : W → Bytes → W → Prop}
    (h : ∀ w, Q w content w) :
    Ensures (kept code) (.iterating active) (CallM.lift (finish typ content) : SerM W Bytes) Q := by
  refine .lift ?_
  intro written w hfinish
  obtain ⟨-, rfl⟩ := finish_eq_ok_iff.mp hfinish
  exact h w

theorem serializeSequence_ensures {typ : ColumnType} {count : Nat} {elements : SerM W (List Cell)}
    {Q : W → List Cell → W → Prop} (h : Ensures (kept code) (.iterating active) elements Q) :
    Ensures (kept code) (.iterating active) (serializeSequence typ count elements) fun w content _ =>
      count ≤ maxLength ∧ ∃ cells w', Q w cells w' ∧
        content = toBeInt 4 count ++ cells.flatMap writeCell := by
  unfold serializeSequence
  split
  · exact ensures_refuse
  · rename_i hcount
    refine .bind h ?_
    intro cells
    refine ensures_finish ?_
    intro w' w _ hcells
    exact ⟨not_lt.mp hcount, cells, w', hcells, rfl⟩

theorem serializeVector_ensures {typ : ColumnType} {dimensions count : Nat}
    {elements : SerM W (List Bytes)} {Q : W → List Bytes → W → Prop}
    (h : Ensures (kept code) (.iterating active) elements Q) :
    Ensures (kept code) (.iterating active) (serializeVector typ dimensions count elements)
      fun w content _ => count = dimensions ∧ ∃ parts w', Q w parts w' ∧ content = parts.flatten := by
  unfold serializeVector
  split
  · exact ensures_refuse
  · rename_i hcount
    refine .bind h ?_
    intro parts
    refine ensures_finish ?_
    intro w' w _ hparts
    exact ⟨not_not.mp hcount, parts, w', hparts, rfl⟩

theorem serializeMap_ensures {typ : ColumnType} {key value : Ref → SerM W Cell} {K V : Cell → Prop}
    (hkey : ∀ item, Ensures (kept code) (.iterating active) (key item) fun _ cell _ => K cell)
    (hvalue : ∀ item, Ensures (kept code) (.iterating active) (value item) fun _ cell _ => V cell)
    (map : Ref) : Ensures (kept code) (.iterating active)
      (serializeMap code typ active key value map) fun _ content _ =>
      ∃ cells : List (Cell × Cell),
        content = toBeInt 4 cells.length ++
          cells.flatMap (fun cell => writeCell cell.1 ++ writeCell cell.2) ∧
        cells.length ≤ maxLength ∧ ∀ cell ∈ cells, K cell.1 ∧ V cell.2 := by
  refine .foreign_bind ?_
  intro now
  refine .bind (ensures_orInteropFailed _) ?_
  intro pairs
  split
  · exact ensures_refuse
  · rename_i hcount
    -- The pairs come from a list of their own, so there are as many cells as pairs.
    have hcells : Ensures (kept code) (.iterating active) (pairs.mapM fun pair => do
        let pair ← orInteropFailed pair
        let keyCell ← CallM.mapError (fun err => .builtin typ (.keySerializationFailed err))
          (key pair.1)
        let valueCell ← CallM.mapError (fun err => .builtin typ (.valueSerializationFailed err))
          (value pair.2)
        return (keyCell, valueCell)) fun _ cells _ =>
          List.Forall₂ (fun _ cell => K cell.1 ∧ V cell.2) pairs cells := by
      refine .mapM ?_
      intro pair _
      refine .bind (ensures_orInteropFailed pair) ?_
      intro pair
      refine .bind (hkey pair.1).mapError ?_
      intro keyCell
      refine .bind (hvalue pair.2).mapError ?_
      intro valueCell
      refine .pure ?_
      intro _ _ _ hv _ _ hk _ _ _
      exact ⟨hk, hv⟩
    refine .bind hcells ?_
    intro cells
    refine ensures_finish ?_
    intro _ _ _ hforall _ _ _ _
    have hlength := hforall.length_eq
    refine ⟨cells, by rw [hlength], by omega, ?_⟩
    intro cell hcell
    obtain ⟨_, -, hboth⟩ := exists_of_mem_right hforall hcell
    exact hboth

theorem wellFormed_none (typ : ColumnType) : WellFormed R typ none := by
  cases typ <;> simp [WellFormed]

/-- What is proved of every type. -/
def Counted (R : Runtime P) (code : PyCode W) (typ : ColumnType) : Prop :=
  ∀ active value, Ensures (kept code) (.iterating active)
    (serializeArbitraryValue R code typ active value) fun _ content _ => WellFormed R typ (some content)

theorem Counted.orNull_of_ne {typ : ColumnType} (h : Counted R code typ) (active : List Ref)
    (value : Ref) :
    Ensures (kept code) (.iterating active)
      (orNull code (serializeArbitraryValue R code typ active) value) fun w cell _ =>
        WellFormed R typ cell ∧ (code.object w value ≠ .none → ∃ content, cell = some content) := by
  refine .world_bind ?_
  intro now
  split
  · rename_i hobject
    exact .pure fun w hw => ⟨wellFormed_none typ, fun hne => absurd (hw ▸ hobject) hne⟩
  · refine .bind (h active value) ?_
    intro content
    exact .pure fun _ _ _ hcontent _ => ⟨hcontent, fun _ => ⟨content, rfl⟩⟩

theorem Counted.orNull {typ : ColumnType} (h : Counted R code typ) (active : List Ref)
    (value : Ref) :
    Ensures (kept code) (.iterating active)
      (orNull code (serializeArbitraryValue R code typ active) value) fun _ cell _ =>
        WellFormed R typ cell :=
  (h.orNull_of_ne active value).mono fun _ _ _ hcell => hcell.1

/-- Inside an iteration of the list, whose elements the list holds on to. -/
theorem ensures_of_cons {α : Type} {list : Ref} {m : SerM W α} {Q : W → α → W → Prop}
    (h : Ensures (kept code) (.iterating (list :: active)) m Q) :
    Ensures (kept code) (.iterating active) m Q := by
  refine h.weaken ?_
  intro w w' hkept other hother
  exact hkept other (List.mem_cons_of_mem _ hother)

theorem Counted.vectorElement {typ elt : ColumnType} (h : Counted R code elt) (active : List Ref)
    (item : Ref) :
    Ensures (kept code) (.iterating active)
      (serializeVectorElement R typ (R.typeSizeForVector elt) active
        (ReentrantSerialize.orNull code (serializeArbitraryValue R code elt active)) item)
      fun _ part _ => ∃ content, part = R.vectorElement (R.typeSizeForVector elt) (some content) ∧
        WellFormed R elt (some content) := by
  refine .note_bind ?_
  refine .bind (h.orNull_of_ne active item).mapError ?_
  intro cell
  refine .pure ?_
  intro _ _ _ ⟨hwell, hsome⟩ hstart
  obtain ⟨content, rfl⟩ := hsome (hstart item rfl)
  exact ⟨content, rfl, hwell⟩

theorem wellFormed_vector {elt : ColumnType} {dimensions : Nat} {parts : List Bytes}
    (hlength : parts.length = dimensions)
    (h : ∀ part ∈ parts, ∃ content,
      part = R.vectorElement (R.typeSizeForVector elt) (some content) ∧
        WellFormed R elt (some content)) :
    WellFormed R (.vector elt dimensions) (some parts.flatten) := by
  obtain ⟨contents, hcontents⟩ := exists_forall₂ h
  rw [WellFormed]
  rintro _ ⟨⟩
  refine ⟨contents, hcontents.length_eq.symm.trans hlength, ?_, ?_⟩
  · clear hlength h
    induction hcontents with
    | nil => rfl
    | cons hpart _ ih => rw [List.flatten_cons, ih, List.flatMap_cons, hpart.1]
  · intro content hmem
    obtain ⟨_, -, -, hwell⟩ := exists_of_mem_right hcontents hmem
    exact hwell

theorem serializeUdtFields_ensures {fieldTypes : List (String × ColumnType)}
    (h : ∀ field ∈ fieldTypes, Counted R code field.2) (typ : ColumnType) (active : List Ref)
    (dict : Ref) :
    Ensures (kept code) (.iterating active) (serializeUdtFields R code typ active dict fieldTypes)
      fun _ contents _ => WellFormedFields R fieldTypes contents := by
  induction fieldTypes with
  | nil => exact .pure fun _ => rfl
  | cons field fieldTypes ih =>
    rw [List.forall_mem_cons] at h
    rw [serializeUdtFields]
    refine .foreign_bind ?_
    intro now
    refine .bind (ensures_orInteropFailed _) ?_
    intro found
    cases found with
    | none => exact ensures_refuse
    | some item =>
      refine .bind (h.1 active item) ?_
      intro content
      refine .bind (ih h.2) ?_
      intro rest
      refine .pure ?_
      intro _ _ _ hrest _ _ hcontent _ _ _ _
      exact ⟨content, rest, rfl, hcontent, hrest⟩

theorem serializeTupleElements_ensures {elts : List ColumnType}
    (h : ∀ elt ∈ elts, Counted R code elt) (active items : List Ref) :
    Ensures (kept code) (.iterating active) (serializeTupleElements R code active elts items)
      fun _ contents _ => WellFormedElements R elts contents := by
  induction elts generalizing items with
  | nil => exact .pure fun _ => rfl
  | cons elt elts ih =>
    rw [List.forall_mem_cons] at h
    cases items with
    | nil => exact .pure fun _ => .inl rfl
    | cons item items =>
      refine .bind (h.1 active item) ?_
      intro content
      refine .bind (ih h.2 items) ?_
      intro rest
      refine .pure ?_
      intro _ _ _ hrest _ _ hcontent
      exact .inr ⟨content, rest, rfl, hcontent, hrest⟩

theorem counted_list (frozen : Bool) {elt : ColumnType} (h : Counted R code elt) :
    Counted R code (.list frozen elt) := by
  intro active value
  rw [serializeArbitraryValue]
  refine .world_bind ?_
  intro now
  split
  · rename_i items hobject
    have helement (item : Ref) : Ensures (kept code) (.iterating (value :: active))
        (serializeElement (.list frozen elt)
          (orNull code (serializeArbitraryValue R code elt (value :: active))) item)
        fun _ cell _ => WellFormed R elt cell :=
      (h.orNull (value :: active) item).mapError
    have hiterate := iterateList_ensures List.mem_cons_self helement items.length 0
    refine (serializeSequence_ensures (ensures_of_cons hiterate)).mono ?_
    rintro w content - ⟨hcount, cells, w', ⟨hwell, hlength⟩, rfl⟩ rfl
    have hcells : cells.length = items.length := hlength (by simp [PyCode.listItems, hobject])
    rw [WellFormed]
    rintro _ ⟨⟩
    exact ⟨cells, by rw [hcells], by omega, hwell⟩
  · exact ensures_refuse

theorem counted_set (frozen : Bool) {elt : ColumnType} (h : Counted R code elt) :
    Counted R code (.set frozen elt) := by
  intro active value
  rw [serializeArbitraryValue]
  refine .world_bind ?_
  intro now
  split
  · have helement (item : Ref) : Ensures (kept code) (.iterating active)
        (serializeElement (.set frozen elt)
          (orNull code (serializeArbitraryValue R code elt active)) item)
        fun _ cell _ => WellFormed R elt cell :=
      (h.orNull active item).mapError
    refine (serializeSequence_ensures (iterateSet_ensures helement (code.setIter value now))).mono ?_
    rintro w content - ⟨-, cells, w', hwell, rfl⟩ -
    rw [WellFormed]
    rintro _ ⟨⟩
    exact ⟨_, cells, rfl, hwell⟩
  · exact ensures_refuse

theorem counted_map (frozen : Bool) {key val : ColumnType} (hkey : Counted R code key)
    (hval : Counted R code val) : Counted R code (.map frozen key val) := by
  intro active value
  rw [serializeArbitraryValue]
  refine .foreign_bind ?_
  intro now
  split
  · refine (serializeMap_ensures (hkey.orNull active) (hval.orNull active) value).mono ?_
    intro _ content _ hcells _
    rw [WellFormed]
    rintro _ ⟨⟩
    exact hcells
  · exact ensures_refuse

theorem counted_vector {elt : ColumnType} (dimensions : Nat) (h : Counted R code elt) :
    Counted R code (.vector elt dimensions) := by
  intro active value
  rw [serializeArbitraryValue]
  refine .world_bind ?_
  intro now
  split
  · rename_i items hobject
    have hiterate := iterateList_ensures List.mem_cons_self
      (fun item => @Counted.vectorElement _ R _ code (.vector elt dimensions) elt h (value :: active)
        item) items.length 0
    refine (serializeVector_ensures (ensures_of_cons hiterate)).mono ?_
    rintro w content - ⟨hcount, parts, w', ⟨hwell, hlength⟩, rfl⟩ rfl
    have hparts : parts.length = items.length := hlength (by simp [PyCode.listItems, hobject])
    exact wellFormed_vector (hparts.trans hcount) hwell
  · rename_i items hobject
    have hiterate : Ensures (kept code) (.iterating active) (items.mapM _) _ := .mapM fun item _ =>
      @Counted.vectorElement _ R _ code (.vector elt dimensions) elt h active item
    refine (serializeVector_ensures hiterate).mono ?_
    rintro w content - ⟨hcount, parts, w', hforall, rfl⟩ -
    refine wellFormed_vector (hforall.length_eq.symm.trans hcount) ?_
    intro part hmem
    obtain ⟨_, -, hpart⟩ := exists_of_mem_right hforall hmem
    exact hpart
  · exact ensures_refuse

theorem counted (hsized : code.Sized R) (typ : ColumnType) : Counted R code typ := by
  induction typ with
  | native typ =>
    intro active value
    rw [serializeArbitraryValue]
    refine .foreign_bind ?_
    intro now
    refine .lift ?_
    intro content _ hconvert _
    rw [WellFormed]
    rintro _ size ⟨⟩ hsize
    exact hsized typ value now content size hconvert hsize
  | list frozen elt ih => exact counted_list frozen ih
  | set frozen elt ih => exact counted_set frozen ih
  | map frozen key val ihkey ihval => exact counted_map frozen ihkey ihval
  | vector elt dimensions ih => exact counted_vector dimensions ih
  | userDefinedType frozen keyspace name fieldTypes ih =>
    intro active value
    rw [serializeArbitraryValue]
    refine .world_bind ?_
    intro now
    split
    · refine .bind (serializeUdtFields_ensures ih _ active value) ?_
      intro contents
      refine ensures_finish ?_
      intro _ _ _ hfields _
      rw [WellFormed]
      rintro _ ⟨⟩
      exact ⟨contents, rfl, hfields⟩
    · exact ensures_refuse
  | tuple elts ih =>
    intro active value
    rw [serializeArbitraryValue]
    refine .world_bind ?_
    intro now
    split
    · split
      · exact ensures_refuse
      · refine .bind (serializeTupleElements_ensures ih active _) ?_
        intro contents
        refine ensures_finish ?_
        intro _ _ _ helements _
        rw [WellFormed]
        rintro _ ⟨⟩
        exact ⟨contents, rfl, helements⟩
    · exact ensures_refuse

/-- Every serialization that returns, whatever Python code runs in between: if none of it makes
a list shorter while that list is being serialized, and no vector element is `None` when its turn
comes, the counts in the cell are right. -/
theorem written_counts {typ : ColumnType} {value : Ref} {w : W} {cell : Cell}
    {last : State Held W} (hsized : code.Sized R)
    (h : serialize R code typ [] value ⟨w, []⟩ = .ok (cell, last))
    (hkept : ∀ step ∈ last.steps, ∀ list ∈ step.held.lists,
      (code.listItems step.before list).length ≤ (code.listItems step.after list).length)
    (hnull : ∀ step ∈ last.steps, ∀ item, step.held.element = some item →
      code.object step.before item ≠ .none) :
    WellFormed R typ cell := by
  obtain ⟨new, hsteps, hwell⟩ := (counted hsized typ).orNull [] value _ _ _ h
  rw [List.nil_append] at hsteps
  refine (hwell fun step hstep => ?_).2
  rw [← hsteps] at hstep
  exact ⟨hnull step hstep, hkept step hstep⟩

/-- The world is the content of list 0. Object 2 is `None`; the others are converted by their
`__float__` or are ints, and the conversion also changes the list. -/
def changingList (change : List Ref → List Ref) : PyCode (List Ref) where
  object w ref := if ref = 0 then .list w else if ref = 2 then .none else .other
  convert typ _ w :=
    (match typ with
      | .float => .ok [0, 0, 0, 7]
      | .bigInt => .ok [0, 0, 0, 0, 0, 0, 0, 7]
      | _ => .error (.driver .valueOverflow none), change w)
  isMapping _ w := (false, w)
  items _ w := (.ok [], w)
  getItem _ _ w := (.ok none, w)
  setLen _ _ := 0
  setIter _ _ := []

theorem changingList_sized (change : List Ref → List Ref) :
    (changingList change).Sized wireRuntime := by
  intro typ value w content size hconvert hsize
  cases typ with
  | float | bigInt =>
    obtain rfl := Except.ok.inj hconvert
    exact Option.some.inj hsize
  | _ => cases hconvert

/-- Every conversion appends to the list. -/
theorem written_counts_appending :
    let code := changingList (· ++ [1])
    let list : ColumnType := .list false (.native .float)
    let vector : ColumnType := .vector (.native .float) 2
    (∃ cell last, serialize wireRuntime code list [] 0 ⟨[1, 1], []⟩ = .ok (cell, last) ∧
      last.world = [1, 1, 1, 1] ∧ WellFormed wireRuntime list cell) ∧
    ∃ cell last, serialize wireRuntime code vector [] 0 ⟨[1, 1], []⟩ = .ok (cell, last) ∧
      last.world = [1, 1, 1, 1] ∧ WellFormed wireRuntime vector cell := by
  intro code list vector
  have hlist : serialize wireRuntime code list [] 0 ⟨[1, 1], []⟩ =
      .ok (some [0, 0, 0, 2, 0, 0, 0, 4, 0, 0, 0, 7, 0, 0, 0, 4, 0, 0, 0, 7],
        ⟨[1, 1, 1, 1], [⟨.iterating [0], [1, 1], [1, 1, 1]⟩,
          ⟨.iterating [0], [1, 1, 1], [1, 1, 1, 1]⟩]⟩) := rfl
  have hvector : serialize wireRuntime code vector [] 0 ⟨[1, 1], []⟩ =
      .ok (some [0, 0, 0, 7, 0, 0, 0, 7],
        ⟨[1, 1, 1, 1], [⟨⟨[0], some 1⟩, [1, 1], [1, 1]⟩, ⟨.iterating [0], [1, 1], [1, 1, 1]⟩,
          ⟨⟨[0], some 1⟩, [1, 1, 1], [1, 1, 1]⟩,
          ⟨.iterating [0], [1, 1, 1], [1, 1, 1, 1]⟩]⟩) := rfl
  refine ⟨⟨_, _, hlist, rfl, written_counts (changingList_sized _) hlist ?_ ?_⟩,
    ⟨_, _, hvector, rfl, written_counts (changingList_sized _) hvector ?_ ?_⟩⟩
  · simp [changingList, PyCode.listItems]
  · simp
  · simp [changingList, PyCode.listItems]
  · simp [changingList]

/-- Two cells in eight bytes are empty or null. -/
theorem two_cells_ne {cells : List Cell} (hlength : cells.length = 2) :
    cells.flatMap writeCell ≠ [0, 0, 0, 4, 0, 0, 0, 7] := by
  obtain ⟨first, second, rfl⟩ := List.length_eq_two.mp hlength
  intro h
  have htotal := congrArg List.length h
  simp only [List.flatMap_cons, List.flatMap_nil, List.length_append, length_writeCell,
    List.length_cons, List.length_nil] at htotal
  have hsplit := congrArg (List.take 4) h
  have hfirst : (writeCell first).length = 4 := by
    rw [length_writeCell]
    omega
  rw [List.flatMap_cons, List.take_left' hfirst] at hsplit
  cases first with
  | none => exact absurd hsplit (by decide)
  | some content =>
    obtain rfl : content = [] := by
      refine List.length_eq_zero_iff.mp ?_
      simp only [Option.getD_some] at htotal
      omega
    exact absurd hsplit (by decide)

/-- A vector of elements of one size is as long as all of them. -/
theorem length_of_wellFormed_vector {native : NativeType} {size dimensions : Nat} {content : Bytes}
    (hsize : wireRuntime.typeSizeForVector (.native native) = some size)
    (h : WellFormed wireRuntime (.vector (.native native) dimensions) (some content)) :
    content.length = dimensions * size := by
  obtain ⟨contents, hlength, hcontent, hsizes⟩ := h _ rfl
  have htotal : (contents.flatMap fun content =>
      wireRuntime.vectorElement (some size) (some content)).length = contents.length * size := by
    refine length_flatMap_of_length ?_
    intro content hmem
    exact hsizes content hmem _ size rfl hsize
  rw [hcontent, hsize, htotal, hlength]

/-- The `__float__` of the first of two elements takes the last one out of the list: the count
says two, and one element follows. The vector of two floats has one. A `None` in a vector of two
longs takes four bytes. -/
theorem written_count_too_large :
    let code := changingList List.dropLast
    let list : ColumnType := .list false (.native .float)
    let vector : ColumnType := .vector (.native .float) 2
    let longs : ColumnType := .vector (.native .bigInt) 2
    ((∃ last, serialize wireRuntime code list [] 0 ⟨[1, 1], []⟩ =
        .ok (some [0, 0, 0, 2, 0, 0, 0, 4, 0, 0, 0, 7], last)) ∧
      ¬ WellFormed wireRuntime list (some [0, 0, 0, 2, 0, 0, 0, 4, 0, 0, 0, 7])) ∧
    ((∃ last, serialize wireRuntime code vector [] 0 ⟨[1, 1], []⟩ =
        .ok (some [0, 0, 0, 7], last)) ∧
      ¬ WellFormed wireRuntime vector (some [0, 0, 0, 7])) ∧
    (∃ last, serialize wireRuntime (changingList id) longs [] 0 ⟨[1, 2], []⟩ =
        .ok (some [0, 0, 0, 0, 0, 0, 0, 7, 255, 255, 255, 255], last)) ∧
      ¬ WellFormed wireRuntime longs (some [0, 0, 0, 0, 0, 0, 0, 7, 255, 255, 255, 255]) := by
  refine ⟨⟨⟨_, rfl⟩, ?_⟩, ⟨⟨_, rfl⟩, ?_⟩, ⟨_, rfl⟩, ?_⟩
  · intro hwell
    obtain ⟨cells, hcontent, hfits, -⟩ := hwell _ rfl
    have hcount := readI32_length hfits (cells.flatMap writeCell)
    rw [← hcontent] at hcount
    have hread : readI32 [0, 0, 0, 2, 0, 0, 0, 4, 0, 0, 0, 7] =
        some (2, [0, 0, 0, 4, 0, 0, 0, 7]) := by decide +kernel
    obtain ⟨hlength, hrest⟩ := Prod.mk.inj (Option.some.inj (hread.symm.trans hcount))
    exact two_cells_ne (by omega) hrest.symm
  · intro hwell
    have hlength := length_of_wellFormed_vector rfl hwell
    cases hlength
  · intro hwell
    have hlength := length_of_wellFormed_vector rfl hwell
    cases hlength

end ScyllaDriver.ReentrantSerialize
