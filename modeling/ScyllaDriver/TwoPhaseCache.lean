import Mathlib.Data.List.AList
import ScyllaDriver.Callbacks
import ScyllaDriver.Interleaving

/-! `Cache`: a map that is filled on demand until it is frozen. Every call reads under
the shared lock, computes without any lock and looks again under the exclusive one, so
that another call may have been faster. -/

namespace ScyllaDriver

/-- The keys of the map convert to Python keys, and may fail to. -/
structure CacheKeys (K Key : Type) where
  intoPy : K → Except PyErr Key

/-- A `MappingProxyType` over a dict that nobody else refers to. -/
structure View (Key V : Type) where
  object : Nat
  dict : AList fun _ : Key => V
  deriving DecidableEq

inductive CacheState (K Key V : Type) where
  | active (map : AList fun _ : K => V)
  | frozen (map : AList fun _ : K => V) (view : View Key V)

inductive CachePc (K Key V : Type) where
  | getRead (key : K)
  | getCompute (key : K)
  | getWrite (key : K) (resolved : V)
  | getDone (key : K) (result : Except PyErr (Option V))
  | freezeRead
  | freezeCompute
  | freezeWrite (entries : List (K × V))
  | freezeDone (result : Except PyErr (View Key V))
  deriving DecidableEq

/-- What the closures return, and the object that `PyMappingProxy::new` makes. -/
inductive CacheChoice (K V : Type) where
  | proceed
  | resolved (result : Except PyErr (Option V))
  | entries (results : List (K × Except PyErr V))
  | proxy (object : Nat)

inductive CacheCall (K : Type) where
  | getOrInit (key : K)
  | getOrInitPythonMapping

section Code

variable {K Key V : Type} [DecidableEq K] [DecidableEq Key]

namespace CacheState

def map : CacheState K Key V → AList fun _ : K => V
  | .active map => map
  | .frozen map _ => map

def isFrozen : CacheState K Key V → Bool
  | .active _ => false
  | .frozen _ _ => true

def get (key : K) (s : CacheState K Key V) : Option V := s.map.lookup key

end CacheState

/-- `entry(key).or_insert_with(..)`. -/
def orInsert (map : AList fun _ : K => V) (entry : K × V) : AList fun _ : K => V :=
  if entry.1 ∈ map then map else map.insert entry.1 entry.2

/-- The first step of `get_or_init`. -/
def getRead (s : CacheState K Key V) (key : K) : CachePc K Key V :=
  match s.get key with
  | some v => .getDone key (.ok (some v))
  | none => if s.isFrozen then .getDone key (.ok none) else .getCompute key

def getWrite (s : CacheState K Key V) (key : K) (resolved : V) :
    CacheState K Key V × Option V :=
  match s with
  | .active map => match map.lookup key with
    | some existing => (.active map, some existing)
    | none => (.active (map.insert key resolved), some resolved)
  | .frozen map view => (.frozen map view, map.lookup key)

/-- The errors of the entries, the first of them if there are several. -/
def collectEntries : List (K × Except PyErr V) → Except PyErr (List (K × V))
  | [] => .ok []
  | (key, result) :: results => do
    let v ← result
    let entries ← collectEntries results
    return (key, v) :: entries

variable (keys : CacheKeys K Key)

/-- `dict.set_item` for every entry of the map. -/
def buildDict (entries : List (Sigma fun _ : K => V)) : Except PyErr (AList fun _ : Key => V) :=
  entries.foldlM (fun dict entry => do return dict.insert (← keys.intoPy entry.1) entry.2) ∅

/-- The map is copied first; a key that fails to convert leaves the cache as it was. -/
def freezeWrite (s : CacheState K Key V) (entries : List (K × V)) (object : Nat) :
    CacheState K Key V × Except PyErr (View Key V) :=
  match s with
  | .frozen map view => (.frozen map view, .ok view)
  | .active map =>
    let frozenMap := entries.foldl orInsert map
    match buildDict keys frozenMap.entries with
    | .error err => (.active map, .error err)
    | .ok dict => (.frozen frozenMap ⟨object, dict⟩, .ok ⟨object, dict⟩)

def cacheStep (s : CacheState K Key V) :
    CachePc K Key V → CacheChoice K V → Option (CacheState K Key V × List (CachePc K Key V))
  | .getRead key, .proceed => some (s, [getRead s key])
  | .getCompute key, .resolved result => match result with
    | .ok (some v) => some (s, [.getWrite key v])
    | .ok none => some (s, [.getDone key (.ok none)])
    | .error err => some (s, [.getDone key (.error err)])
  | .getWrite key resolved, .proceed =>
    some ((getWrite s key resolved).1, [.getDone key (.ok (getWrite s key resolved).2)])
  | .freezeRead, .proceed => match s with
    | .frozen _ view => some (s, [.freezeDone (.ok view)])
    | .active _ => some (s, [.freezeCompute])
  | .freezeCompute, .entries results => match collectEntries results with
    | .ok entries => some (s, [.freezeWrite entries])
    | .error err => some (s, [.freezeDone (.error err)])
  | .freezeWrite entries, .proxy object =>
    some ((freezeWrite keys s entries object).1, [.freezeDone (freezeWrite keys s entries object).2])
  | _, _ => none

/-- Calls may start at any time. -/
def cacheEnv (s : CacheState K Key V) :
    CacheCall K → Option (CacheState K Key V × List (CachePc K Key V))
  | .getOrInit key => some (s, [.getRead key])
  | .getOrInitPythonMapping => some (s, [.freezeRead])

def cacheProgram : Program (CacheState K Key V) (CachePc K Key V) (CacheChoice K V) (CacheCall K) :=
  ⟨cacheStep keys, cacheEnv⟩

end Code

section Facts

variable {K Key V : Type} [DecidableEq K]

/-- What a step may do to the cache: nothing to a frozen one, and nothing to the values that an
active one has. -/
structure CacheState.Grows (s s' : CacheState K Key V) : Prop where
  frozen : s.isFrozen = true → s' = s
  kept : ∀ key v, s.get key = some v → s'.get key = some v

namespace CacheState.Grows

theorem refl (s : CacheState K Key V) : s.Grows s := ⟨fun _ => rfl, fun _ _ h => h⟩

theorem trans {s s' s'' : CacheState K Key V} (h : s.Grows s') (h' : s'.Grows s'') :
    s.Grows s'' := by
  refine ⟨fun hfrozen => ?_, fun key v hget => h'.kept key v (h.kept key v hget)⟩
  obtain rfl := h.frozen hfrozen
  exact h'.frozen hfrozen

end CacheState.Grows

/-- What a finished call knows of the cache. -/
def CachePc.Knows (s : CacheState K Key V) : CachePc K Key V → Prop
  | .getDone key (.ok (some v)) => s.get key = some v
  | .freezeDone (.ok view) => ∃ map, s = .frozen map view
  | _ => True

theorem CachePc.Knows.grows {s s' : CacheState K Key V} {p : CachePc K Key V} (h : p.Knows s)
    (hgrows : s.Grows s') : p.Knows s' := by
  match p with
  | .getDone key (.ok (some v)) => exact hgrows.kept key v h
  | .freezeDone (.ok view) =>
    obtain ⟨map, rfl⟩ := h
    exact ⟨map, hgrows.frozen rfl⟩
  | .getDone _ (.ok none) | .getDone _ (.error _) | .freezeDone (.error _) | .getRead _
  | .getCompute _ | .getWrite _ _ | .freezeRead | .freezeCompute | .freezeWrite _ => trivial

theorem lookup_orInsert (map : AList fun _ : K => V) (entry : K × V) {key : K} {v : V}
    (h : map.lookup key = some v) : (orInsert map entry).lookup key = some v := by
  by_cases hmem : entry.1 ∈ map
  · simpa [orInsert, hmem] using h
  · have hne : key ≠ entry.1 := by
      rintro rfl
      rw [AList.lookup_eq_none.mpr hmem] at h
      cases h
    rw [orInsert, if_neg hmem, AList.lookup_insert_ne hne, h]

theorem lookup_foldl_orInsert (entries : List (K × V)) (map : AList fun _ : K => V) {key : K}
    {v : V} (h : map.lookup key = some v) : (entries.foldl orInsert map).lookup key = some v := by
  induction entries generalizing map with
  | nil => exact h
  | cons entry entries ih => exact ih _ (lookup_orInsert map entry h)

theorem getWrite_grows (s : CacheState K Key V) (key : K) (resolved : V) :
    s.Grows (getWrite s key resolved).1 := by
  cases s with
  | frozen map view => exact .refl _
  | active map =>
    cases hget : map.lookup key with
    | some existing => simpa only [getWrite, hget] using CacheState.Grows.refl _
    | none =>
      simp only [getWrite, hget]
      refine ⟨fun hfrozen => by simp [CacheState.isFrozen] at hfrozen, fun other v hv => ?_⟩
      have hne : other ≠ key := by
        rintro rfl
        exact absurd (hget.symm.trans hv) (by simp)
      exact (AList.lookup_insert_ne hne).trans hv

theorem getRead_knows (s : CacheState K Key V) (key : K) : (getRead s key).Knows s := by
  rw [getRead]
  cases hget : s.get key with
  | some v => exact hget
  | none => cases s.isFrozen <;> trivial

theorem cacheEnv_cases {s s' : CacheState K Key V} {k : CacheCall K} {q : List (CachePc K Key V)}
    (h : cacheEnv s k = some (s', q)) : s' = s ∧ ∀ p ∈ q, p.Knows s := by
  cases k with
  | getOrInit key =>
    obtain ⟨rfl, rfl⟩ := Prod.ext_iff.mp (Option.some.inj h)
    exact ⟨rfl, by simp [CachePc.Knows]⟩
  | getOrInitPythonMapping =>
    obtain ⟨rfl, rfl⟩ := Prod.ext_iff.mp (Option.some.inj h)
    exact ⟨rfl, by simp [CachePc.Knows]⟩

end Facts

variable {K Key V : Type}

variable {keys : CacheKeys K Key}

/-- The keys of the view are those of the map, with the same objects as values. -/
structure View.Shows [DecidableEq K] [DecidableEq Key] (keys : CacheKeys K Key)
    (map : AList fun _ : K => V) (view : View Key V) : Prop where
  converted : ∀ key v, map.lookup key = some v → ∃ pyKey, keys.intoPy key = .ok pyKey
  dict : ∀ pyKey v, view.dict.lookup pyKey = some v ↔
    ∃ key, keys.intoPy key = .ok pyKey ∧ map.lookup key = some v

/-- The view of a frozen cache shows its map. -/
def CacheState.Shows [DecidableEq K] [DecidableEq Key] (keys : CacheKeys K Key)
    (s : CacheState K Key V) : Prop :=
  ∀ map view, s = .frozen map view → view.Shows keys map

/-- Different keys convert to different Python keys. -/
def CacheKeys.Injective (keys : CacheKeys K Key) : Prop :=
  ∀ key key' pyKey, keys.intoPy key = .ok pyKey → keys.intoPy key' = .ok pyKey → key = key'

section Dicts

variable [DecidableEq Key]

/-- By induction over the entries still to be set; those set before have other keys. -/
theorem lookup_foldlM_insert (hkeys : keys.Injective) {entries : List (Sigma fun _ : K => V)}
    (hnodup : entries.NodupKeys) {dict final : AList fun _ : Key => V}
    (h : entries.foldlM (fun dict entry => do return dict.insert (← keys.intoPy entry.1) entry.2)
      dict = Except.ok final) (pyKey : Key) (v : V) :
    final.lookup pyKey = some v ↔
      (∃ entry ∈ entries, keys.intoPy entry.1 = .ok pyKey ∧ entry.2 = v) ∨
      ((∀ entry ∈ entries, keys.intoPy entry.1 ≠ .ok pyKey) ∧ dict.lookup pyKey = some v) := by
  induction entries generalizing dict with
  | nil =>
    obtain rfl := Except.ok.inj h
    simp
  | cons entry entries ih =>
    obtain ⟨hnew, hrest⟩ := List.nodupKeys_cons.mp hnodup
    rw [List.foldlM_cons] at h
    cases hentry : keys.intoPy entry.1 with
    | error err => simp [hentry, bind, Except.bind] at h
    | ok pyKey' =>
      have hfold := ih hrest (by simpa [hentry, bind, Except.bind, pure, Except.pure] using h)
      have hother : ∀ other ∈ entries, keys.intoPy other.1 ≠ .ok pyKey' := by
        intro other hmem hconv
        have hsame := hkeys _ _ _ hentry hconv
        exact hnew (hsame ▸ List.mem_keys_of_mem hmem)
      rw [hfold]
      by_cases heq : pyKey = pyKey'
      · subst heq
        have hnone : ¬ ∃ other ∈ entries, keys.intoPy other.1 = .ok pyKey ∧ other.2 = v := by
          rintro ⟨other, hmem, hconv, _⟩
          exact hother other hmem hconv
        rw [or_iff_right hnone]
        constructor
        · rintro ⟨_, hv⟩
          rw [AList.lookup_insert] at hv
          exact .inl ⟨entry, List.mem_cons_self, hentry, Option.some.inj hv⟩
        · rintro (⟨other, hmem, hconv, rfl⟩ | ⟨hall, _⟩)
          · rcases List.mem_cons.mp hmem with rfl | hmem
            · exact ⟨hother, AList.lookup_insert dict⟩
            · exact absurd hconv (hother other hmem)
          · exact absurd hentry (hall entry List.mem_cons_self)
      · simp [hentry, AList.lookup_insert_ne heq, Ne.symm heq]

theorem converted_of_foldlM {entries : List (Sigma fun _ : K => V)}
    {dict final : AList fun _ : Key => V}
    (h : entries.foldlM (fun dict entry => do return dict.insert (← keys.intoPy entry.1) entry.2)
      dict = Except.ok final) : ∀ entry ∈ entries, ∃ pyKey, keys.intoPy entry.1 = .ok pyKey := by
  induction entries generalizing dict with
  | nil => simp
  | cons entry entries ih =>
    rw [List.foldlM_cons] at h
    cases hentry : keys.intoPy entry.1 with
    | error err => simp [hentry, bind, Except.bind] at h
    | ok pyKey =>
      have hrest := ih (by simpa [hentry, bind, Except.bind, pure, Except.pure] using h)
      exact List.forall_mem_cons.mpr ⟨⟨pyKey, hentry⟩, hrest⟩

end Dicts

variable [DecidableEq K] [DecidableEq Key]

theorem shows_buildDict (hkeys : keys.Injective) {map : AList fun _ : K => V}
    {dict : AList fun _ : Key => V} (h : buildDict keys map.entries = .ok dict) (object : Nat) :
    View.Shows keys map ⟨object, dict⟩ := by
  have hmem (key : K) (v : V) : map.lookup key = some v ↔ (⟨key, v⟩ : Sigma _) ∈ map.entries :=
    AList.mem_lookup_iff
  refine ⟨fun key v hv => converted_of_foldlM h _ ((hmem key v).mp hv), fun pyKey v => ?_⟩
  rw [lookup_foldlM_insert hkeys map.nodupKeys h]
  simp only [AList.lookup_empty, reduceCtorEq, and_false, or_false]
  constructor
  · rintro ⟨⟨key, _⟩, hentry, hconv, rfl⟩
    exact ⟨key, hconv, (hmem key _).mpr hentry⟩
  · rintro ⟨key, hconv, hv⟩
    exact ⟨⟨key, v⟩, (hmem key v).mp hv, hconv, rfl⟩

theorem freezeWrite_grows (s : CacheState K Key V) (entries : List (K × V)) (object : Nat) :
    s.Grows (freezeWrite keys s entries object).1 := by
  cases s with
  | frozen map view => exact .refl _
  | active map =>
    cases hdict : buildDict keys (entries.foldl orInsert map).entries with
    | error err => simpa only [freezeWrite, hdict] using CacheState.Grows.refl _
    | ok dict =>
      simp only [freezeWrite, hdict]
      exact ⟨fun hfrozen => by simp [CacheState.isFrozen] at hfrozen,
        fun key v hv => lookup_foldl_orInsert entries map hv⟩

theorem freezeWrite_shows (hkeys : keys.Injective) {s : CacheState K Key V} (hshows : s.Shows keys)
    (entries : List (K × V)) (object : Nat) : (freezeWrite keys s entries object).1.Shows keys := by
  cases s with
  | frozen map view => exact hshows
  | active map =>
    intro map' view'
    cases hdict : buildDict keys (entries.foldl orInsert map).entries with
    | error err => simp [freezeWrite, hdict]
    | ok dict =>
      simp only [freezeWrite, hdict, CacheState.frozen.injEq]
      rintro ⟨rfl, rfl⟩
      exact shows_buildDict hkeys hdict object

/-- What a thread step is: the cache grows, its view goes on showing the map, the thread knows
what it returns, and a call that fails changes nothing. -/
structure CacheMove (keys : CacheKeys K Key) (s s' : CacheState K Key V) (q : CachePc K Key V) :
    Prop where
  grows : s.Grows s'
  shows : s.Shows keys → s'.Shows keys
  knows : q.Knows s'
  failed : (∃ key err, q = .getDone key (.error err)) ∨ (∃ err, q = .freezeDone (.error err)) →
    s' = s

theorem getWrite_shows {s : CacheState K Key V} (hshows : s.Shows keys) (key : K) (resolved : V) :
    (getWrite s key resolved).1.Shows keys := by
  cases s with
  | frozen map view => exact hshows
  | active map =>
    intro map' view'
    cases hget : map.lookup key <;> simp [getWrite, hget]

theorem getWrite_move (s : CacheState K Key V) (key : K) (resolved : V) :
    CacheMove keys s (getWrite s key resolved).1 (.getDone key (.ok (getWrite s key resolved).2)) := by
  refine ⟨getWrite_grows s key resolved, fun h => getWrite_shows h key resolved, ?_, by simp⟩
  cases s with
  | frozen map view =>
    cases hget : map.lookup key with
    | none => simp only [getWrite, hget]; trivial
    | some v =>
      simp only [getWrite, hget]
      exact hget
  | active map =>
    cases hget : map.lookup key with
    | some existing =>
      simp only [getWrite, hget]
      exact hget
    | none =>
      simp only [getWrite, hget]
      exact AList.lookup_insert map

theorem freezeWrite_move (hkeys : keys.Injective) (s : CacheState K Key V)
    (entries : List (K × V)) (object : Nat) :
    CacheMove keys s (freezeWrite keys s entries object).1
      (.freezeDone (freezeWrite keys s entries object).2) := by
  have hgrows : s.Grows (freezeWrite keys s entries object).1 := freezeWrite_grows s entries object
  have hshows (h : s.Shows keys) := freezeWrite_shows hkeys h entries object
  cases s with
  | frozen map view => exact ⟨hgrows, hshows, ⟨map, rfl⟩, fun _ => rfl⟩
  | active map =>
    cases hdict : buildDict keys (entries.foldl orInsert map).entries with
    | error err =>
      simp only [freezeWrite, hdict] at hgrows hshows ⊢
      exact ⟨hgrows, hshows, trivial, fun _ => rfl⟩
    | ok dict =>
      simp only [freezeWrite, hdict] at hgrows hshows ⊢
      exact ⟨hgrows, hshows, ⟨_, rfl⟩, by simp⟩

/-- By cases on what the thread does next. -/
theorem cacheStep_move (hkeys : keys.Injective) {s s' : CacheState K Key V}
    {p : CachePc K Key V} {e : CacheChoice K V}
    {q : List (CachePc K Key V)} (h : cacheStep keys s p e = some (s', q)) :
    ∃ next, q = [next] ∧ CacheMove keys s s' next := by
  have hstay {next : CachePc K Key V} (heq : some (s, [next]) = some (s', q))
      (hknows : next.Knows s) : ∃ next, q = [next] ∧ CacheMove keys s s' next := by
    obtain ⟨rfl, rfl⟩ := Prod.ext_iff.mp (Option.some.inj heq)
    exact ⟨next, rfl, .refl s, id, hknows, fun _ => rfl⟩
  cases p with
  | getRead key =>
    cases e with
    | proceed => exact hstay h (getRead_knows s key)
    | _ => cases h
  | getCompute key =>
    cases e with
    | resolved result =>
      cases result with
      | ok value => cases value <;> exact hstay h trivial
      | error err => exact hstay h trivial
    | _ => cases h
  | getWrite key resolved =>
    cases e with
    | proceed =>
      obtain ⟨rfl, rfl⟩ := Prod.ext_iff.mp (Option.some.inj h)
      exact ⟨_, rfl, getWrite_move s key resolved⟩
    | _ => cases h
  | freezeRead =>
    cases e with
    | proceed =>
      cases s with
      | frozen map view => exact hstay h ⟨map, rfl⟩
      | active map => exact hstay h trivial
    | _ => cases h
  | freezeCompute =>
    cases e with
    | entries results =>
      cases hentries : collectEntries results with
      | ok entries =>
        simp only [cacheStep, hentries] at h
        exact hstay h trivial
      | error err =>
        simp only [cacheStep, hentries] at h
        exact hstay h trivial
    | _ => cases h
  | freezeWrite entries =>
    cases e with
    | proxy object =>
      obtain ⟨rfl, rfl⟩ := Prod.ext_iff.mp (Option.some.inj h)
      exact ⟨_, rfl, freezeWrite_move hkeys s entries object⟩
    | _ => cases h
  | getDone key result => cases h
  | freezeDone result => cases h

/-- Every finished call knows the cache, and the view of a frozen one shows its map. -/
structure CacheCoherent (keys : CacheKeys K Key)
    (c : Config (CacheState K Key V) (CachePc K Key V)) : Prop where
  knows : ∀ p ∈ c.threads, p.Knows c.shared
  shows : c.shared.Shows keys

theorem cacheCoherent_preserved (hkeys : keys.Injective) :
    (cacheProgram keys).Preserves (fun _ _ => True) (CacheCoherent (V := V) keys) where
  thread := by
    intro s T p e s' q _ hc hstep
    obtain ⟨next, rfl, hmove⟩ := cacheStep_move hkeys hstep
    refine ⟨?_, hmove.shows hc.shows⟩
    intro other hother
    rcases Multiset.mem_add.mp hother with hother | hother
    · obtain rfl : other = next := by simpa using hother
      exact hmove.knows
    · exact (hc.knows other (Multiset.mem_cons_of_mem hother)).grows hmove.grows
  env := by
    intro s T k s' q _ hc hstep
    obtain ⟨rfl, hq⟩ := cacheEnv_cases hstep
    refine ⟨?_, hc.shows⟩
    intro other hother
    rcases Multiset.mem_add.mp hother with hother | hother
    · exact hq other (by simpa using hother)
    · exact hc.knows other hother

theorem grows_preserved (hkeys : keys.Injective) (s₀ : CacheState K Key V) :
    (cacheProgram keys).Preserves (fun _ _ => True) (fun c => s₀.Grows c.shared) where
  thread := by
    intro s T p e s' q _ hc hstep
    obtain ⟨next, _, hmove⟩ := cacheStep_move hkeys hstep
    exact hc.trans hmove.grows
  env := by
    intro s T k s' q _ hc hstep
    obtain ⟨rfl, _⟩ := cacheEnv_cases hstep
    exact hc

/-- What holds between a state of the cache and a later one. -/
structure CacheLinear (keys : CacheKeys K Key)
    (c d : Config (CacheState K Key V) (CachePc K Key V)) : Prop where
  /-- All values returned for one key are the same object. -/
  same : ∀ key v v', .getDone key (.ok (some v)) ∈ c.threads →
    .getDone key (.ok (some v')) ∈ d.threads → v = v'
  /-- A frozen cache stays as it is: its phase, its map and its view. -/
  frozen : c.shared.isFrozen = true → d.shared = c.shared
  kept : ∀ key v, c.shared.get key = some v → d.shared.get key = some v
  shows : d.shared.Shows keys
  /-- Every freeze call returns the one view of the cache. -/
  view : ∀ view view', .freezeDone (.ok view) ∈ c.threads → .freezeDone (.ok view') ∈ d.threads →
    view = view' ∧ ∃ map, c.shared = .frozen map view
  failed : ∀ p ∈ d.threads, ∀ e s q, (cacheProgram keys).step d.shared p e = some (s, q) →
    (∃ key err, .getDone key (.error err) ∈ q) ∨ (∃ err, .freezeDone (.error err) ∈ q) →
    s = d.shared

variable [DecidableEq V]

/-- Any interleaving of any number of calls, from a new cache. -/
theorem cache_linear (hkeys : keys.Injective)
    {c d : Config (CacheState K Key V) (CachePc K Key V)}
    (hc : (cacheProgram keys).Run ⟨.active ∅, 0⟩ c) (hd : (cacheProgram keys).Run c d) :
    CacheLinear keys c d := by
  have hnew : CacheCoherent (V := V) keys ⟨.active ∅, 0⟩ := ⟨by simp, by simp [CacheState.Shows]⟩
  have hcoherent := (cacheCoherent_preserved hkeys).run hnew hc
  have hcoherent' := (cacheCoherent_preserved hkeys).run hcoherent hd
  have hgrows := (grows_preserved hkeys c.shared).run (.refl _) hd
  refine ⟨?_, hgrows.frozen, hgrows.kept, hcoherent'.shows, ?_, ?_⟩
  · intro key v v' hv hv'
    have hget : d.shared.get key = some v := hgrows.kept key v (hcoherent.knows _ hv)
    have hget' : d.shared.get key = some v' := hcoherent'.knows _ hv'
    exact Option.some.inj (hget.symm.trans hget')
  · intro view view' hview hview'
    obtain ⟨map, hmap⟩ := hcoherent.knows _ hview
    obtain ⟨map', hmap'⟩ := hcoherent'.knows _ hview'
    have hstays := hgrows.frozen (by rw [hmap]; rfl)
    rw [hmap, hmap'] at hstays
    obtain ⟨_, rfl⟩ := CacheState.frozen.inj hstays
    exact ⟨rfl, map, hmap⟩
  · intro p _ e s q hstep hfailed
    obtain ⟨next, rfl, hmove⟩ := cacheStep_move hkeys hstep
    apply hmove.failed
    simpa only [List.mem_singleton, eq_comm] using hfailed

def numberKeys : CacheKeys Nat Nat := ⟨.ok⟩

/-- Two calls compute different objects for one key before a third one freezes the cache. -/
theorem cache_linear_two_calls :
    let pcs : Multiset (CachePc Nat Nat Nat) := {.getDone 1 (.ok (some 7)), .getDone 1 (.ok (some 7))}
    let map : AList fun _ : Nat => Nat := AList.insert 1 7 ∅
    let view : View Nat Nat := ⟨0, AList.insert 1 7 ∅⟩
    CacheLinear numberKeys ⟨.active map, pcs⟩
      ⟨.frozen map view, .freezeDone (.ok view) ::ₘ pcs⟩ := by
  intro pcs map view
  have hkeys : numberKeys.Injective := by
    intro key key' pyKey h h'
    exact Except.ok.inj (h.trans h'.symm)
  have hc : (cacheProgram numberKeys).Run ⟨.active ∅, 0⟩ ⟨.active map, pcs⟩ :=
    Program.exec_run [.env (.getOrInit 1), .env (.getOrInit 1), .thread (.getRead 1) .proceed,
      .thread (.getRead 1) .proceed, .thread (.getCompute 1) (.resolved (.ok (some 7))),
      .thread (.getCompute 1) (.resolved (.ok (some 8))), .thread (.getWrite 1 7) .proceed,
      .thread (.getWrite 1 8) .proceed] rfl
  have hd : (cacheProgram numberKeys).Run ⟨.active map, pcs⟩
      ⟨.frozen map view, .freezeDone (.ok view) ::ₘ pcs⟩ :=
    Program.exec_run [.env .getOrInitPythonMapping, .thread .freezeRead .proceed,
      .thread .freezeCompute (.entries [(1, .ok 9)]), .thread (.freezeWrite [(1, 9)]) (.proxy 0)] rfl
  exact cache_linear hkeys hc hd

end ScyllaDriver
