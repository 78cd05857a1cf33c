import Mathlib.Data.List.AList
import ScyllaDriver.Callbacks
import ScyllaDriver.FieldNames
import ScyllaDriver.Interleaving

/-! `namedtuple_class`: the classes are cached under one string made of the column names. A call
looks under the shared lock, builds the class without it, and inserts under the exclusive one. -/

namespace ScyllaDriver

namespace Namedtuple

/-- A class that `collections.namedtuple` returned, with its `_fields`. -/
structure RowClass where
  object : Nat
  fields : List String
  deriving DecidableEq, Repr

/-- The key of the cache: every name with a NUL after it. -/
def classKey (columns : List String) : String :=
  columns.foldl (fun key name => (key ++ name).push '\x00') ""

def cacheLimit : Nat := 512

/-- `NAMEDTUPLE_CLASSES` and `KEYWORDS`. -/
structure Statics where
  classes : AList fun _ : String => RowClass
  poisoned : Bool
  keywords : Option (Finset String)

def Statics.new : Statics := ⟨∅, false, none⟩

inductive ClassPc where
  | lookup (columns : List String)
  | importCollections (columns : List String)
  | keywords (columns : List String)
  | readKwlist (columns : List String)
  | build (columns names : List String)
  | insert (columns : List String) (built : RowClass)
  | done (columns : List String) (result : Except PyErr RowClass)
  deriving DecidableEq

/-- What the interpreter answers. -/
inductive ClassChoice where
  | proceed
  | imported (result : Except PyErr Unit)
  | kwlist (result : Except PyErr (List String))
  | object (result : Except PyErr Nat)

inductive ClassEvent where
  | call (columns : List String)
  | poison

def Statics.find (s : Statics) (columns : List String) : Option RowClass :=
  if s.poisoned then none else s.classes.lookup (classKey columns)

/-- `get_or_try_init` after the closure has returned: the first keywords stay. -/
def Statics.setKeywords (s : Statics) (words : List String) : Statics × Finset String :=
  let keywords := s.keywords.getD words.toFinset
  ({ s with keywords := some keywords }, keywords)

def Statics.makeRoom (s : Statics) : Statics :=
  if cacheLimit ≤ s.classes.entries.length then { s with classes := ∅ } else s

/-- `entry(key).or_insert(class)`, and what then stands there. -/
def Statics.orInsert (s : Statics) (columns : List String) (built : RowClass) :
    Statics × RowClass :=
  match s.classes.lookup (classKey columns) with
  | some existing => (s, existing)
  | none => ({ s with classes := s.classes.insert (classKey columns) built }, built)

def Statics.insert (s : Statics) (columns : List String) (built : RowClass) :
    Statics × RowClass :=
  if s.poisoned then (s, built) else s.makeRoom.orInsert columns built

def classStep (s : Statics) : ClassPc → ClassChoice → Option (Statics × List ClassPc)
  | .lookup columns, .proceed => match s.find columns with
    | some found => some (s, [.done columns (.ok found)])
    | none => some (s, [.importCollections columns])
  | .importCollections columns, .imported result => match result with
    | .ok () => some (s, [.keywords columns])
    | .error err => some (s, [.done columns (.error err)])
  | .keywords columns, .proceed => match s.keywords with
    | some keywords => some (s, [.build columns (fieldNames keywords columns).1])
    | none => some (s, [.readKwlist columns])
  | .readKwlist columns, .kwlist result => match result with
    | .ok words =>
      let (s, keywords) := s.setKeywords words
      some (s, [.build columns (fieldNames keywords columns).1])
    | .error err => some (s, [.done columns (.error err)])
  | .build columns names, .object result => match result with
    | .ok object => some (s, [.insert columns ⟨object, names⟩])
    | .error err => some (s, [.done columns (.error err)])
  | .insert columns built, .proceed =>
    some ((s.insert columns built).1, [.done columns (.ok (s.insert columns built).2)])
  | _, _ => none

def classEnv (s : Statics) : ClassEvent → Option (Statics × List ClassPc)
  | .call columns => some (s, [.lookup columns])
  | .poison => some ({ s with poisoned := true }, [])

def classProgram : Program Statics ClassPc ClassChoice ClassEvent := ⟨classStep, classEnv⟩

section Keys

def NulFree (columns : List String) : Prop := ∀ name ∈ columns, '\x00' ∉ name.toList

theorem toList_classKey (columns : List String) :
    (classKey columns).toList = columns.flatMap fun name => name.toList ++ ['\x00'] := by
  have hfold (key : String) :
      (columns.foldl (fun key name => (key ++ name).push '\x00') key).toList =
        key.toList ++ columns.flatMap fun name => name.toList ++ ['\x00'] := by
    induction columns generalizing key with
    | nil => simp
    | cons name columns ih => simp [ih]
  rw [classKey, hfold]
  simp

/-- Up to the first separator. -/
theorem append_cons_inj_of_notMem {α : Type*} {sep : α} {l l' r r' : List α} (hl : sep ∉ l)
    (hl' : sep ∉ l') (h : l ++ sep :: r = l' ++ sep :: r') : l = l' ∧ r = r' := by
  induction l generalizing l' with
  | nil =>
    cases l' with
    | nil => exact ⟨rfl, (List.cons.inj h).2⟩
    | cons a l' =>
      obtain ⟨rfl, -⟩ := List.cons.inj h
      exact absurd List.mem_cons_self hl'
  | cons a l ih =>
    cases l' with
    | nil =>
      obtain ⟨rfl, -⟩ := List.cons.inj h
      exact absurd List.mem_cons_self hl
    | cons b l' =>
      obtain ⟨rfl, htail⟩ := List.cons.inj h
      obtain ⟨rfl, rfl⟩ := ih (fun hm => hl (List.mem_cons_of_mem a hm))
        (fun hm => hl' (List.mem_cons_of_mem a hm)) htail
      exact ⟨rfl, rfl⟩

theorem classKey_injective {columns columns' : List String} (hnul : NulFree columns)
    (hnul' : NulFree columns') (h : classKey columns = classKey columns') :
    columns = columns' := by
  have hlists := congrArg String.toList h
  rw [toList_classKey, toList_classKey] at hlists
  clear h
  induction columns generalizing columns' with
  | nil =>
    cases columns' with
    | nil => rfl
    | cons name columns' => simp at hlists
  | cons name columns ih =>
    cases columns' with
    | nil => simp at hlists
    | cons name' columns' =>
      -- The first NUL of either key ends the first name.
      simp only [List.flatMap_cons, List.append_assoc, List.singleton_append] at hlists
      obtain ⟨hname, hrest⟩ := append_cons_inj_of_notMem (hnul name List.mem_cons_self)
        (hnul' name' List.mem_cons_self) hlists
      obtain rfl := String.ext hname
      obtain rfl := ih (fun other hm => hnul other (List.mem_cons_of_mem name hm))
        (fun other hm => hnul' other (List.mem_cons_of_mem name hm)) hrest
      rfl

end Keys

/-- The fields that the columns should have. -/
def FieldsOf (s : Statics) (columns fields : List String) : Prop :=
  ∃ keywords, s.keywords = some keywords ∧ fields = (fieldNames keywords columns).1

def ClassPc.Fits (s : Statics) : ClassPc → Prop
  | .lookup columns => NulFree columns
  | .importCollections columns => NulFree columns
  | .keywords columns => NulFree columns
  | .readKwlist columns => NulFree columns
  | .build columns names => NulFree columns ∧ FieldsOf s columns names
  | .insert columns built => NulFree columns ∧ FieldsOf s columns built.fields
  | .done columns (.ok found) => FieldsOf s columns found.fields
  | .done _ (.error _) => True

/-- Every class is cached for columns whose key is the one it stands under. -/
def Statics.Cached (s : Statics) : Prop :=
  ∀ key found, s.classes.lookup key = some found →
    ∃ columns, key = classKey columns ∧ NulFree columns ∧ FieldsOf s columns found.fields

def Statics.Extends (s s' : Statics) : Prop :=
  ∀ keywords, s.keywords = some keywords → s'.keywords = some keywords

theorem FieldsOf.extend {s s' : Statics} (h : s.Extends s') {columns fields : List String}
    (hfields : FieldsOf s columns fields) : FieldsOf s' columns fields := by
  obtain ⟨keywords, hset, heq⟩ := hfields
  exact ⟨keywords, h keywords hset, heq⟩

theorem ClassPc.Fits.extend {s s' : Statics} (h : s.Extends s') {p : ClassPc} (hfits : p.Fits s) :
    p.Fits s' := by
  match p with
  | .lookup _ | .importCollections _ | .keywords _ | .readKwlist _ => exact hfits
  | .build _ _ | .insert _ _ => exact ⟨hfits.1, hfits.2.extend h⟩
  | .done _ (.ok _) => exact FieldsOf.extend h hfits
  | .done _ (.error _) => trivial

namespace Statics.Cached

variable {s : Statics} {columns : List String} {found built : RowClass}

theorem lookup (h : s.Cached) (hnul : NulFree columns)
    (hfound : s.classes.lookup (classKey columns) = some found) :
    FieldsOf s columns found.fields := by
  obtain ⟨columns', hkey, hnul', hfields⟩ := h _ found hfound
  rwa [classKey_injective hnul hnul' hkey]

theorem find (h : s.Cached) (hnul : NulFree columns) (hfound : s.find columns = some found) :
    FieldsOf s columns found.fields := by
  unfold Statics.find at hfound
  split at hfound
  · cases hfound
  · exact h.lookup hnul hfound

theorem makeRoom (h : s.Cached) : s.makeRoom.Cached := by
  unfold Statics.makeRoom
  split
  · intro key found hfound
    rw [AList.lookup_empty] at hfound
    cases hfound
  · exact h

theorem orInsert (h : s.Cached) (hnul : NulFree columns) (hbuilt : FieldsOf s columns built.fields) :
    (s.orInsert columns built).1.Cached ∧
      FieldsOf (s.orInsert columns built).1 columns (s.orInsert columns built).2.fields := by
  unfold Statics.orInsert
  cases hfound : s.classes.lookup (classKey columns) with
  | some existing => exact ⟨h, h.lookup hnul hfound⟩
  | none =>
    refine ⟨fun key found hlookup => ?_, hbuilt⟩
    by_cases hkey : key = classKey columns
    · subst hkey
      rw [AList.lookup_insert] at hlookup
      obtain rfl := Option.some.inj hlookup
      exact ⟨columns, rfl, hnul, hbuilt⟩
    · rw [AList.lookup_insert_ne hkey] at hlookup
      exact h key found hlookup

theorem extend {s' : Statics} (h : s.Cached) (hclasses : s'.classes = s.classes)
    (hextends : s.Extends s') : s'.Cached := by
  intro key found hfound
  rw [hclasses] at hfound
  obtain ⟨columns, hkey, hnul, hfields⟩ := h key found hfound
  exact ⟨columns, hkey, hnul, hfields.extend hextends⟩

end Statics.Cached

theorem keywords_makeRoom (s : Statics) : s.makeRoom.keywords = s.keywords := by
  unfold Statics.makeRoom
  split <;> rfl

theorem keywords_insert (s : Statics) (columns : List String) (built : RowClass) :
    (s.insert columns built).1.keywords = s.keywords := by
  unfold Statics.insert Statics.orInsert
  split
  · rfl
  · split <;> exact keywords_makeRoom s

theorem Statics.Cached.insert {s : Statics} {columns : List String} {built : RowClass}
    (h : s.Cached) (hnul : NulFree columns) (hbuilt : FieldsOf s columns built.fields) :
    (s.insert columns built).1.Cached ∧
      FieldsOf (s.insert columns built).1 columns (s.insert columns built).2.fields := by
  unfold Statics.insert
  split
  · exact ⟨h, hbuilt⟩
  · apply h.makeRoom.orInsert hnul
    unfold FieldsOf
    rwa [keywords_makeRoom]

theorem extends_setKeywords (s : Statics) (words : List String) :
    s.Extends (s.setKeywords words).1 := by
  intro keywords hset
  simp [Statics.setKeywords, hset]

theorem length_makeRoom (s : Statics) : s.makeRoom.classes.entries.length < cacheLimit := by
  unfold Statics.makeRoom
  split
  · exact Nat.succ_pos 511
  · omega

theorem length_insert {s : Statics} (h : s.classes.entries.length ≤ cacheLimit)
    (columns : List String) (built : RowClass) :
    (s.insert columns built).1.classes.entries.length ≤ cacheLimit := by
  have hroom := length_makeRoom s
  unfold Statics.insert
  split
  · exact h
  · unfold Statics.orInsert
    cases hfound : s.makeRoom.classes.lookup (classKey columns) with
    | some existing => exact hroom.le
    | none =>
      have hnew := AList.lookup_eq_none.mp hfound
      simp only [AList.entries_insert_of_notMem hnew, List.length_cons]
      omega

/-- What a step of a call does to the cache and to the call. -/
structure ClassMove (s s' : Statics) (p q : ClassPc) : Prop where
  keywords : s.Extends s'
  cached : s.Cached → p.Fits s → s'.Cached ∧ q.Fits s'
  bounded : s.classes.entries.length ≤ cacheLimit → s'.classes.entries.length ≤ cacheLimit

theorem classStep_move {s s' : Statics} {p : ClassPc} {e : ClassChoice} {q : List ClassPc}
    (h : classStep s p e = some (s', q)) : ∃ next, q = [next] ∧ ClassMove s s' p next := by
  have hstay {next : ClassPc} (heq : some (s, [next]) = some (s', q))
      (hnext : s.Cached → p.Fits s → next.Fits s) : ∃ next, q = [next] ∧ ClassMove s s' p next := by
    obtain ⟨rfl, rfl⟩ := Prod.ext_iff.mp (Option.some.inj heq)
    exact ⟨next, rfl, fun _ hset => hset, fun hcached hfits => ⟨hcached, hnext hcached hfits⟩, id⟩
  cases p with
  | lookup columns =>
    cases e with
    | proceed =>
      cases hfound : s.find columns with
      | some found =>
        simp only [classStep, hfound] at h
        exact hstay h fun hcached hnul => hcached.find hnul hfound
      | none =>
        simp only [classStep, hfound] at h
        exact hstay h fun _ hnul => hnul
    | _ => cases h
  | importCollections columns =>
    cases e with
    | imported result =>
      cases result with
      | ok _ => exact hstay h fun _ hnul => hnul
      | error err => exact hstay h fun _ _ => trivial
    | _ => cases h
  | keywords columns =>
    cases e with
    | proceed =>
      cases hset : s.keywords with
      | some keywords =>
        simp only [classStep, hset] at h
        exact hstay h fun _ hnul => ⟨hnul, keywords, hset, rfl⟩
      | none =>
        simp only [classStep, hset] at h
        exact hstay h fun _ hnul => hnul
    | _ => cases h
  | readKwlist columns =>
    cases e with
    | kwlist result =>
      cases result with
      | ok words =>
        obtain ⟨rfl, rfl⟩ := Prod.ext_iff.mp (Option.some.inj h)
        have hextends := extends_setKeywords s words
        exact ⟨_, rfl, hextends, fun hcached hnul =>
          ⟨hcached.extend rfl hextends, hnul, _, rfl, rfl⟩, id⟩
      | error err => exact hstay h fun _ _ => trivial
    | _ => cases h
  | build columns names =>
    cases e with
    | object result =>
      cases result with
      | ok object => exact hstay h fun _ hfits => hfits
      | error err => exact hstay h fun _ _ => trivial
    | _ => cases h
  | insert columns built =>
    cases e with
    | proceed =>
      obtain ⟨rfl, rfl⟩ := Prod.ext_iff.mp (Option.some.inj h)
      refine ⟨_, rfl, fun keywords hset => ?_, fun hcached hfits => hcached.insert hfits.1 hfits.2,
        fun hbounded => length_insert hbounded columns built⟩
      rwa [keywords_insert]
    | _ => cases h
  | done columns result => cases h

/-- The names of every call are free of NUL characters. -/
def NamesNulFree : Config Statics ClassPc → Label ClassPc ClassChoice ClassEvent → Prop
  | _, .env (.call columns) => NulFree columns
  | _, _ => True

structure Coherent (c : Config Statics ClassPc) : Prop where
  cached : c.shared.Cached
  fits : ∀ p ∈ c.threads, p.Fits c.shared

theorem coherent_preserved : classProgram.Preserves NamesNulFree Coherent where
  thread := by
    intro s T p e s' q _ hc hstep
    obtain ⟨next, rfl, hmove⟩ := classStep_move hstep
    obtain ⟨hcached, hnext⟩ := hmove.cached hc.cached (hc.fits p (Multiset.mem_cons_self p T))
    refine ⟨hcached, fun other hother => ?_⟩
    rcases Multiset.mem_add.mp hother with hother | hother
    · obtain rfl : other = next := by simpa using hother
      exact hnext
    · exact (hc.fits other (Multiset.mem_cons_of_mem hother)).extend hmove.keywords
  env := by
    intro s T k s' q hok hc hstep
    cases k with
    | call columns =>
      obtain ⟨rfl, rfl⟩ := Prod.ext_iff.mp (Option.some.inj hstep)
      refine ⟨hc.cached, fun other hother => ?_⟩
      rcases Multiset.mem_add.mp hother with hother | hother
      · obtain rfl : other = .lookup columns := by simpa using hother
        exact hok
      · exact hc.fits other hother
    | poison =>
      obtain ⟨rfl, rfl⟩ := Prod.ext_iff.mp (Option.some.inj hstep)
      have hextends : s.Extends { s with poisoned := true } := fun _ hset => hset
      refine ⟨hc.cached.extend rfl hextends, fun other hother => ?_⟩
      exact (hc.fits other (by simpa using hother)).extend hextends

/-- In every run, whatever the names are. -/
theorem bounded_preserved
    {ok : Config Statics ClassPc → Label ClassPc ClassChoice ClassEvent → Prop} :
    classProgram.Preserves ok fun c => c.shared.classes.entries.length ≤ cacheLimit where
  thread := by
    intro s T p e s' q _ hc hstep
    obtain ⟨next, -, hmove⟩ := classStep_move hstep
    exact hmove.bounded hc
  env := by
    intro s T k s' q _ hc hstep
    cases k with
    | call columns =>
      obtain ⟨rfl, -⟩ := Prod.ext_iff.mp (Option.some.inj hstep)
      exact hc
    | poison =>
      obtain ⟨rfl, -⟩ := Prod.ext_iff.mp (Option.some.inj hstep)
      exact hc

/-- A class that is returned has the fields of the columns it is returned for. -/
structure CacheFits (c : Config Statics ClassPc) : Prop where
  fields : ∀ columns found, .done columns (.ok found) ∈ c.threads →
    ∃ keywords, c.shared.keywords = some keywords ∧ found.fields = (fieldNames keywords columns).1
  width : ∀ columns found, .done columns (.ok found) ∈ c.threads →
    found.fields.length = columns.length
  bounded : c.shared.classes.entries.length ≤ 512

theorem namedtuple_cache_fits {c : Config Statics ClassPc}
    (hrun : classProgram.RunIn NamesNulFree ⟨.new, 0⟩ c) : CacheFits c := by
  have hnew : Coherent ⟨.new, 0⟩ := by
    refine ⟨fun key found hfound => ?_, by simp⟩
    rw [Statics.new, AList.lookup_empty] at hfound
    cases hfound
  have hcoherent := coherent_preserved.run hnew hrun
  have hfields (columns : List String) (found : RowClass)
      (hdone : .done columns (.ok found) ∈ c.threads) : FieldsOf c.shared columns found.fields :=
    hcoherent.fits (.done columns (.ok found)) hdone
  have hempty : (Statics.new.classes).entries.length ≤ cacheLimit := Nat.zero_le _
  refine ⟨hfields, fun columns found hdone => ?_, bounded_preserved.run hempty hrun⟩
  obtain ⟨keywords, -, heq⟩ := hfields columns found hdone
  rw [heq]
  exact length_names columns

/-- A first call: the keywords are read and the class is built and cached. -/
def firstCall (columns : List String) : List (Label ClassPc ClassChoice ClassEvent) :=
  let names := (fieldNames ∅ columns).1
  [.env (.call columns), .thread (.lookup columns) .proceed,
    .thread (.importCollections columns) (.imported (.ok ())),
    .thread (.keywords columns) .proceed, .thread (.readKwlist columns) (.kwlist (.ok [])),
    .thread (.build columns names) (.object (.ok 1)),
    .thread (.insert columns ⟨1, names⟩) .proceed]

/-- Where the first call leads. -/
def afterFirst (columns : List String) : Config Statics ClassPc :=
  let built : RowClass := ⟨1, (fieldNames ∅ columns).1⟩
  ⟨⟨AList.insert (classKey columns) built ∅, false, some ∅⟩, {.done columns (.ok built)}⟩

theorem exec_firstCall (columns : List String) :
    classProgram.exec ⟨.new, 0⟩ (firstCall columns) = some (afterFirst columns) := by
  simp [firstCall, afterFirst, Program.exec, Program.next, classProgram, classStep, classEnv,
    Statics.new, Statics.find, Statics.setKeywords, Statics.insert, Statics.makeRoom,
    Statics.orInsert, cacheLimit]

theorem namedtuple_cache_fits_first : CacheFits (afterFirst ["a b", "a_b"]) := by
  refine namedtuple_cache_fits (Program.exec_runIn (firstCall ["a b", "a_b"]) ?_
    (exec_firstCall _))
  have hnul : NulFree ["a b", "a_b"] := by
    unfold NulFree
    decide +kernel
  simp [firstCall, NamesNulFree, hnul]

/-- Two column names and one, with a NUL in it, have the same key. -/
theorem namedtuple_cache_confuses :
    ∃ c, classProgram.Run ⟨.new, 0⟩ c ∧
      .done ["a\x00b"] (.ok ⟨1, ["a", "b"]⟩) ∈ c.threads ∧
      (fieldNames ∅ ["a\x00b"]).1 = ["a_b"] := by
  have hkey : classKey ["a", "b"] = classKey ["a\x00b"] := by decide +kernel
  have hnames : (fieldNames ∅ ["a", "b"]).1 = ["a", "b"] := by decide +kernel
  have hfirst : classProgram.Run ⟨.new, 0⟩ (afterFirst ["a", "b"]) :=
    Program.exec_run _ (exec_firstCall _)
  have hcall : classProgram.env (afterFirst ["a", "b"]).shared (.call ["a\x00b"]) =
      some ((afterFirst ["a", "b"]).shared, [.lookup ["a\x00b"]]) := rfl
  have hhit : (afterFirst ["a", "b"]).shared.find ["a\x00b"] = some ⟨1, ["a", "b"]⟩ := by
    simp only [afterFirst, Statics.find, hkey, hnames, Bool.false_eq_true, if_false,
      AList.lookup_insert]
  have hlookup : classProgram.step (afterFirst ["a", "b"]).shared (.lookup ["a\x00b"]) .proceed =
      some ((afterFirst ["a", "b"]).shared, [.done ["a\x00b"] (.ok ⟨1, ["a", "b"]⟩)]) := by
    simp only [classProgram, classStep, hhit]
  have hcalled := hfirst.trans (Program.run_env (T := (afterFirst ["a", "b"]).threads) hcall)
  rw [Multiset.coe_singleton, Multiset.singleton_add] at hcalled
  refine ⟨_, hcalled.trans (Program.run_thread hlookup), ?_, by decide +kernel⟩
  simp

end Namedtuple

end ScyllaDriver
