import ScyllaDriver.ColumnTypeDescriptors

/-! A column type can be read off its descriptor. Only a type with a variant that
`extract_column_type` does not list gets none. -/

namespace ScyllaDriver

open Fallible PyCqlColumnType

/-- Raised instead of an object that was asked for. -/
def Raised (raises : Nat → Option PyErr) (err : PyErr) : Prop := ∃ k, raises k = some err

variable {raises : Nat → Option PyErr}

theorem extractElementTypes_ends {elts : List ColumnType}
    (h : ∀ elt ∈ elts, Ends (Raised raises) (extractColumnType raises elt.toOpen)
      (fun d => d.rebuild = elt) False) :
    Ends (Raised raises) (extractElementTypes raises (ColumnType.eltsToOpen elts))
      (fun types => rebuildElements types = elts) False := by
  induction elts with
  | nil => exact Ends.pure rfl
  | cons elt elts ih =>
    obtain ⟨helt, helts⟩ := List.forall_mem_cons.mp h
    refine helt.bind fun elementType htype => ?_
    refine (ih helts).bind fun elementTypes htypes => Ends.pure ?_
    rw [rebuildElements, htype, htypes]

theorem extractFieldTypes_ends {fields : List (String × ColumnType)}
    (h : ∀ field ∈ fields, Ends (Raised raises) (extractColumnType raises field.2.toOpen)
      (fun d => d.rebuild = field.2) False) :
    Ends (Raised raises) (extractFieldTypes raises (ColumnType.fieldsToOpen fields))
      (fun types => rebuildFields types = fields) False := by
  induction fields with
  | nil => exact Ends.pure rfl
  | cons field fields ih =>
    obtain ⟨hfield, hfields⟩ := List.forall_mem_cons.mp h
    refine hfield.bind fun fieldType htype => ?_
    refine (ih hfields).bind fun fieldTypes htypes => Ends.pure ?_
    rw [rebuildFields, htype, htypes]

/-- By induction over the type; no part of it is unlisted, so no run panics. -/
theorem extractColumnType_ends (typ : ColumnType) :
    Ends (Raised raises) (extractColumnType raises typ.toOpen) (fun d => d.rebuild = typ) False := by
  induction typ with
  | native typ =>
    refine Ends.request ?_
    rw [rebuild, PyCqlNativeType.toNative_extract]
  | list frozen elt ih =>
    refine ih.bind fun columnType htype => Ends.request ?_
    rw [rebuild, htype]
  | set frozen elt ih =>
    refine ih.bind fun columnType htype => Ends.request ?_
    rw [rebuild, htype]
  | map frozen key value ihkey ihvalue =>
    refine ihkey.bind fun keyType hkey => ?_
    refine ihvalue.bind fun valueType hvalue => Ends.request ?_
    rw [rebuild, hkey, hvalue]
  | vector elt dimensions ih =>
    refine ih.bind fun elementType htype => Ends.request ?_
    rw [rebuild, htype]
  | userDefinedType frozen keyspace name fieldTypes ih =>
    refine (extractFieldTypes_ends ih).bind fun fields hfields => Ends.request ?_
    rw [rebuild, hfields]
  | tuple elts ih =>
    refine (extractElementTypes_ends ih).bind fun elementTypes htypes => Ends.request ?_
    rw [rebuild, htypes]

mutual

/-- Whatever the driver lists, a descriptor is that of the type it was made for. -/
theorem extractColumnType_describes (typ : OpenColumnType) :
    Ends (Raised raises) (extractColumnType raises typ) (fun d => d.rebuild.toOpen = typ) True := by
  match typ with
  | .native typ =>
    refine Ends.request ?_
    rw [rebuild, PyCqlNativeType.toNative_extract, ColumnType.toOpen]
  | .list frozen elt =>
    refine (extractColumnType_describes elt).bind fun columnType htype => Ends.request ?_
    rw [rebuild, ColumnType.toOpen, htype]
  | .set frozen elt =>
    refine (extractColumnType_describes elt).bind fun columnType htype => Ends.request ?_
    rw [rebuild, ColumnType.toOpen, htype]
  | .map frozen key value =>
    refine (extractColumnType_describes key).bind fun keyType hkey => ?_
    refine (extractColumnType_describes value).bind fun valueType hvalue => Ends.request ?_
    rw [rebuild, ColumnType.toOpen, hkey, hvalue]
  | .vector elt dimensions =>
    refine (extractColumnType_describes elt).bind fun elementType htype => Ends.request ?_
    rw [rebuild, ColumnType.toOpen, htype]
  | .userDefinedType frozen keyspace name fieldTypes =>
    refine (extractFieldTypes_describes fieldTypes).bind fun fields hfields => Ends.request ?_
    rw [rebuild, ColumnType.toOpen, hfields]
  | .tuple elts =>
    refine (extractElementTypes_describes elts).bind fun elementTypes htypes => Ends.request ?_
    rw [rebuild, ColumnType.toOpen, htypes]
  | .unlisted within variant => exact Ends.panicWith trivial

theorem extractElementTypes_describes (elts : List OpenColumnType) :
    Ends (Raised raises) (extractElementTypes raises elts)
      (fun types => ColumnType.eltsToOpen (rebuildElements types) = elts) True := by
  match elts with
  | [] => exact Ends.pure rfl
  | elt :: elts =>
    refine (extractColumnType_describes elt).bind fun elementType htype => ?_
    refine (extractElementTypes_describes elts).bind fun elementTypes htypes => Ends.pure ?_
    rw [rebuildElements, ColumnType.eltsToOpen, htype, htypes]

theorem extractFieldTypes_describes (fields : List (String × OpenColumnType)) :
    Ends (Raised raises) (extractFieldTypes raises fields)
      (fun types => ColumnType.fieldsToOpen (rebuildFields types) = fields) True := by
  match fields with
  | [] => exact Ends.pure rfl
  | (name, typ) :: fields =>
    refine (extractColumnType_describes typ).bind fun fieldType htype => ?_
    refine (extractFieldTypes_describes fields).bind fun fieldTypes htypes => Ends.pure ?_
    rw [rebuildFields, ColumnType.fieldsToOpen, htype, htypes]

end

/-- As long as the interpreter raises nothing, a type gets a descriptor exactly when it is made
of variants that are listed. -/
theorem extractColumnType_ok_iff (hraises : ∀ k, raises k = none) (typ : OpenColumnType)
    (made : Nat) : (∃ d made', extractColumnType raises typ made = .ok (d, made')) ↔
      ∃ listed : ColumnType, listed.toOpen = typ := by
  constructor
  · rintro ⟨d, made', hd⟩
    exact ⟨d.rebuild, (extractColumnType_describes typ).of_eq_ok hd⟩
  · rintro ⟨listed, rfl⟩
    refine (extractColumnType_ends listed).returns ?_ made
    rintro err ⟨k, hk⟩
    rw [hraises k] at hk
    cases hk

/-- Every column type gets a descriptor unless the interpreter raises, and never a panic. The
type can be rebuilt from it, so types whose descriptors look the same to Python are equal. -/
theorem descriptors_lose_nothing (typ : ColumnType) :
    (∀ raises made, (∀ k, raises k = none) →
      ∃ d made', extractColumnType raises typ.toOpen made = .ok (d, made')) ∧
    (∀ raises made failure, extractColumnType raises typ.toOpen made = .error failure →
      ∃ k err, raises k = some err ∧ failure = .raised err) ∧
    ∀ raises made d made', extractColumnType raises typ.toOpen made = .ok (d, made') →
      d.rebuild = typ ∧
      ∀ E, StructuralEquality E → ∀ typ' raises' count d' count',
        extractColumnType raises' (ColumnType.toOpen typ') count = .ok (d', count') →
        E d d' → typ = typ' := by
  refine ⟨?_, ?_, ?_⟩
  · intro raises made hraises
    exact (extractColumnType_ok_iff hraises _ made).mpr ⟨typ, rfl⟩
  · intro raises made failure hfailure
    obtain ⟨err, ⟨k, hk⟩, rfl⟩ := (extractColumnType_ends typ).of_eq_error hfailure
    exact ⟨k, err, hk, rfl⟩
  · intro raises made d made' hd
    have hrebuild : d.rebuild = typ := (extractColumnType_ends typ).of_eq_ok hd
    refine ⟨hrebuild, ?_⟩
    intro E hE typ' raises' count d' count' hd' hequal
    have hrebuild' : d'.rebuild = typ' := (extractColumnType_ends typ').of_eq_ok hd'
    have hsame : d = d' := hE.eq d hequal
    rw [← hrebuild, hsame, hrebuild']

/-- A frozen map from tuples to a UDT; the same type with another list is told apart. -/
theorem descriptors_lose_nothing_nested :
    let typ (frozen : Bool) : ColumnType :=
      .map true (.tuple [.native .int, .vector (.native .float) 3])
        (.userDefinedType false "ks" "address" [("lines", .list frozen (.native .text))])
    ∃ d made, extractColumnType (fun _ => none) (typ true).toOpen 0 = .ok (d, made) ∧
      made = 8 ∧ d.cls.name = "CqlMapType" ∧ d.rebuild = typ true ∧
      ∃ d' made', extractColumnType (fun _ => none) (typ false).toOpen 0 = .ok (d', made') ∧
        d ≠ d' := by
  intro typ
  have hfaithful := (descriptors_lose_nothing (typ true)).2.2 (fun _ => none) 0 _ _ rfl
  refine ⟨_, _, rfl, rfl, rfl, hfaithful.1, _, _, rfl, ?_⟩
  intro hsame
  have hequal := hfaithful.2 _ structuralEquality_eq (typ false) (fun _ => none) 0 _ _ rfl hsame
  simp [typ] at hequal

def MetadataRaised (raises : Nat → Option PyErr) (exception : MetadataException) : Prop :=
  ∃ err, Raised raises err ∧
    (exception = columnTypeExtractionFailed err ∨ exception = .raised err)

/-- The types in the list are those of the columns, in their order. -/
def Lists (specs : List ColumnSpec) (types : List PyCqlColumnType) : Prop :=
  types.map rebuild = specs.map ColumnSpec.typ

theorem columnTypeList_ends (specs : List ColumnSpec) :
    Ends (MetadataRaised raises) (columnTypeList raises (specs.map fun spec => spec.typ.toOpen))
      (Lists specs) False := by
  have hstep (done : List ColumnSpec) (spec : ColumnSpec) (_ : spec ∈ specs)
      (types : List PyCqlColumnType) (htypes : Lists done types) :
      Ends (MetadataRaised raises)
        (do
          let cqlType ← RunM.mapErr columnTypeExtractionFailed
            (extractColumnType raises spec.typ.toOpen)
          RunM.mapErr .raised (appendType raises types cqlType))
        (Lists (done ++ [spec])) False := by
    have hwrapped (err : PyErr) (herr : Raised raises err) :
        MetadataRaised raises (columnTypeExtractionFailed err) := ⟨err, herr, .inl rfl⟩
    refine ((extractColumnType_ends spec.typ).mapErr hwrapped).bind fun cqlType htype => ?_
    have hlists : Lists (done ++ [spec]) (types ++ [cqlType]) := by
      unfold Lists
      rw [List.map_append, List.map_append, htypes, List.map_singleton, List.map_singleton, htype]
    exact (Ends.request hlists).mapErr fun err herr => ⟨err, herr, .inr rfl⟩
  unfold columnTypeList
  rw [List.foldlM_map]
  exact Ends.foldlM hstep (show Lists [] [] from rfl)

/-- Two results whose `column_types` look the same to Python have columns of the same types. -/
theorem columnTypeList_injective {E : PyCqlColumnType → PyCqlColumnType → Prop}
    (hE : StructuralEquality E) {raises' : Nat → Option PyErr} {specs specs' : List ColumnSpec}
    {made made' count count' : Nat} {types types' : List PyCqlColumnType}
    (h : columnTypeList raises (specs.map fun spec => spec.typ.toOpen) made = .ok (types, made'))
    (h' : columnTypeList raises' (specs'.map fun spec => spec.typ.toOpen) count =
      .ok (types', count'))
    (hequal : List.Forall₂ E types types') :
    specs.map ColumnSpec.typ = specs'.map ColumnSpec.typ := by
  have htypes : Lists specs types := (columnTypeList_ends specs).of_eq_ok h
  have htypes' : Lists specs' types' := (columnTypeList_ends specs').of_eq_ok h'
  have hsame : types = types' := hE.elements_eq types hequal
  calc specs.map ColumnSpec.typ = types.map rebuild := htypes.symm
    _ = types'.map rebuild := by rw [hsame]
    _ = specs'.map ColumnSpec.typ := htypes'

end ScyllaDriver
