import Mathlib.Data.List.AList
import Mathlib.Data.Multiset.Bind
import ScyllaDriver.Interleaving

/-! `BATCHERS`: the batchers of the event loops, by the address of the loop. CPython gives
the address of a dead loop to a new one; the weakref that an entry owns removes the entry
before that. -/

namespace ScyllaDriver

namespace BatcherRegistry

/-- `dying`: nobody refers to the loop any more, and its weakrefs still have to fire. -/
inductive Phase where
  | unborn
  | alive
  | dying (pending : List Nat)
  | freed
  deriving DecidableEq, Repr

structure LoopState where
  address : Nat
  phase : Phase

/-- `weakref.ref(loop, evict)`; `evict` knows the key alone. -/
structure Weak where
  target : Nat
  key : Nat
  deriving DecidableEq, Repr

structure Registration where
  weak : Nat
  batcher : Nat
  deriving DecidableEq, Repr

/-- Loops, weakrefs and batchers are named by numbers that are never used again. -/
structure Shared where
  loops : Nat → LoopState
  weaks : List Weak
  /-- The weakrefs that nobody owns any more. -/
  dropped : List Nat
  /-- The loop each batcher was built for. -/
  batchers : List Nat
  batchersByKey : AList fun _ : Nat => Registration

/-- A thread in `batcher_for` or `drain`, which has a reference to the loop. -/
inductive Pc where
  | lookup (loop : Nat)
  | buildWeak (loop : Nat)
  | buildBatcher (loop weak : Nat)
  | insert (loop weak batcher : Nat)
  /-- Another thread was faster: its batcher is returned and the weakref goes away. -/
  | dropWeak (loop weak batcher : Nat)
  | returned (loop batcher : Nat)
  | drain (loop : Nat)
  | drained (loop : Nat) (batcher : Option Nat)
  deriving DecidableEq, Repr

/-- Whether Python or the batcher raises while something is built. -/
inductive Built where
  | ok
  | failed
  deriving DecidableEq, Repr

inductive Event where
  | create (loop address : Nat)
  | batcherFor (loop : Nat)
  | drain (loop : Nat)
  | dealloc (loop : Nat)
  | callback (loop weak : Nat)
  | free (loop : Nat)
  deriving DecidableEq, Repr

/-- `loop_key`. -/
def Shared.loopKey (s : Shared) (loop : Nat) : Nat := (s.loops loop).address

def Shared.phase (s : Shared) (loop : Nat) : Phase := (s.loops loop).phase

def Phase.occupies : Phase → Bool
  | .alive => true
  | .dying _ => true
  | .unborn => false
  | .freed => false

def Shared.setPhase (s : Shared) (loop : Nat) (phase : Phase) : Shared :=
  { s with loops := Function.update s.loops loop ⟨s.loopKey loop, phase⟩ }

/-- The weakrefs to the loop that will fire. -/
def Shared.weakrefs (s : Shared) (loop : Nat) : List Nat :=
  (List.range s.weaks.length).filter fun weak =>
    (s.weaks[weak]?.map Weak.target) = some loop ∧ weak ∉ s.dropped

def step (s : Shared) : Pc → Built → Option (Shared × List Pc)
  | .lookup loop, _ => match s.batchersByKey.lookup (s.loopKey loop) with
    | some registration => some (s, [.returned loop registration.batcher])
    | none => some (s, [.buildWeak loop])
  | .buildWeak loop, .ok =>
    some ({ s with weaks := s.weaks ++ [⟨loop, s.loopKey loop⟩] },
      [.buildBatcher loop s.weaks.length])
  | .buildWeak _, .failed => some (s, [])
  | .buildBatcher loop weak, .ok =>
    some ({ s with batchers := s.batchers ++ [loop] }, [.insert loop weak s.batchers.length])
  | .buildBatcher _ weak, .failed => some ({ s with dropped := weak :: s.dropped }, [])
  | .insert loop weak batcher, _ => match s.batchersByKey.lookup (s.loopKey loop) with
    | some registration => some (s, [.dropWeak loop weak registration.batcher])
    | none =>
      some ({ s with batchersByKey := s.batchersByKey.insert (s.loopKey loop) ⟨weak, batcher⟩ },
        [.returned loop batcher])
  | .dropWeak loop weak batcher, _ =>
    some ({ s with dropped := weak :: s.dropped }, [.returned loop batcher])
  | .drain loop, _ =>
    some (s, [.drained loop ((s.batchersByKey.lookup (s.loopKey loop)).map Registration.batcher)])
  | .returned _ _, _ => none
  | .drained _ _, _ => none

/-- A new loop gets an address that no other loop occupies. `evict` removes the entry of its key,
whatever it is. -/
def env (s : Shared) : Event → Option (Shared × List Pc)
  | .create loop address =>
    if s.phase loop = .unborn then
      some ({ s with loops := Function.update s.loops loop ⟨address, .alive⟩ }, [])
    else none
  | .batcherFor loop => if s.phase loop = .alive then some (s, [.lookup loop]) else none
  | .drain loop => if s.phase loop = .alive then some (s, [.drain loop]) else none
  | .dealloc loop =>
    if s.phase loop = .alive then some (s.setPhase loop (.dying (s.weakrefs loop)), []) else none
  | .callback loop weak => match s.phase loop, s.weaks[weak]? with
    | .dying pending, some ⟨_, key⟩ =>
      if weak ∈ pending then
        some ({ s.setPhase loop (.dying (pending.erase weak)) with
          batchersByKey := s.batchersByKey.erase key }, [])
      else none
    | _, _ => none
  | .free loop => if s.phase loop = .dying [] then some (s.setPhase loop .freed, []) else none

def program : Program Shared Pc Built Event := ⟨step, env⟩

def Pc.holds (loop : Nat) : Pc → Bool
  | .lookup loop' => loop' = loop
  | .buildWeak loop' => loop' = loop
  | .buildBatcher loop' _ => loop' = loop
  | .insert loop' _ _ => loop' = loop
  | .dropWeak loop' _ _ => loop' = loop
  | .drain loop' => loop' = loop
  | .returned _ _ => false
  | .drained _ _ => false

/-- CPython's rules: a loop is deallocated when no reference to it is left, and a new object gets
an address that is not in use. -/
def Allowed (c : Config Shared Pc) : Label Pc Built Event → Prop
  | .env (.dealloc loop) => ∀ p ∈ c.threads, p.holds loop = false
  | .env (.create _ address) =>
    ∀ loop, (c.shared.phase loop).occupies = true → c.shared.loopKey loop ≠ address
  | _ => True

def init : Config Shared Pc := ⟨⟨fun _ => ⟨0, .unborn⟩, [], [], [], ∅⟩, 0⟩

/-- Everything a thread can do in one step. -/
inductive Move (s : Shared) : Pc → Shared → List Pc → Prop where
  | found {loop registration} (h : s.batchersByKey.lookup (s.loopKey loop) = some registration) :
      Move s (.lookup loop) s [.returned loop registration.batcher]
  | missing {loop} (h : s.batchersByKey.lookup (s.loopKey loop) = none) :
      Move s (.lookup loop) s [.buildWeak loop]
  | weak {loop} : Move s (.buildWeak loop) { s with weaks := s.weaks ++ [⟨loop, s.loopKey loop⟩] }
      [.buildBatcher loop s.weaks.length]
  | noWeak {loop} : Move s (.buildWeak loop) s []
  | built {loop weak} : Move s (.buildBatcher loop weak) { s with batchers := s.batchers ++ [loop] }
      [.insert loop weak s.batchers.length]
  | notBuilt {loop weak} :
      Move s (.buildBatcher loop weak) { s with dropped := weak :: s.dropped } []
  | lost {loop weak batcher registration}
      (h : s.batchersByKey.lookup (s.loopKey loop) = some registration) :
      Move s (.insert loop weak batcher) s [.dropWeak loop weak registration.batcher]
  | inserted {loop weak batcher} (h : s.batchersByKey.lookup (s.loopKey loop) = none) :
      Move s (.insert loop weak batcher)
        { s with batchersByKey := s.batchersByKey.insert (s.loopKey loop) ⟨weak, batcher⟩ }
        [.returned loop batcher]
  | dropped {loop weak batcher} :
      Move s (.dropWeak loop weak batcher) { s with dropped := weak :: s.dropped }
        [.returned loop batcher]
  | drained {loop} : Move s (.drain loop) s
      [.drained loop ((s.batchersByKey.lookup (s.loopKey loop)).map Registration.batcher)]

theorem step_move {s s' : Shared} {p : Pc} {e : Built} {q : List Pc}
    (h : step s p e = some (s', q)) : Move s p s' q := by
  cases p with
  | lookup loop =>
    simp only [step] at h
    split at h <;> cases h
    · rename_i registration hfound
      exact .found hfound
    · rename_i hmissing
      exact .missing hmissing
  | buildWeak loop =>
    cases e with
    | ok => cases h; exact .weak
    | failed => cases h; exact .noWeak
  | buildBatcher loop weak =>
    cases e with
    | ok => cases h; exact .built
    | failed => cases h; exact .notBuilt
  | insert loop weak batcher =>
    simp only [step] at h
    split at h <;> cases h
    · rename_i registration hfound
      exact .lost hfound
    · rename_i hmissing
      exact .inserted hmissing
  | dropWeak loop weak batcher => cases h; exact .dropped
  | drain loop => cases h; exact .drained
  | returned loop batcher => cases h
  | drained loop batcher => cases h

theorem ne_unborn {s : Shared} {loop : Nat} (h : s.phase loop = .alive) : s.phase loop ≠ .unborn := by
  rw [h]
  exact Phase.noConfusion

/-- The entry of the loop has this batcher. -/
def Shared.Registered (s : Shared) (loop batcher : Nat) : Prop :=
  ∃ registration, s.batchersByKey.lookup (s.loopKey loop) = some registration ∧
    registration.batcher = batcher

/-- An entry belongs to the loop that occupies its key, and will be removed when that loop dies. -/
def Shared.Entry (s : Shared) (key : Nat) (registration : Registration) : Prop :=
  ∃ loop, s.batchers[registration.batcher]? = some loop ∧
    s.weaks[registration.weak]? = some ⟨loop, key⟩ ∧ s.loopKey loop = key ∧
    (s.phase loop = .alive ∨
      ∃ pending, s.phase loop = .dying pending ∧ registration.weak ∈ pending)

/-- What a thread knows of its loop, its weakref and its batcher. -/
def Pc.Knows (s : Shared) : Pc → Prop
  | .lookup loop => s.phase loop = .alive
  | .buildWeak loop => s.phase loop = .alive
  | .buildBatcher loop weak =>
    s.phase loop = .alive ∧ s.weaks[weak]? = some ⟨loop, s.loopKey loop⟩
  | .insert loop weak batcher => s.phase loop = .alive ∧
    s.weaks[weak]? = some ⟨loop, s.loopKey loop⟩ ∧ s.batchers[batcher]? = some loop
  | .dropWeak loop _ batcher => s.phase loop = .alive ∧ s.batchers[batcher]? = some loop ∧
    s.Registered loop batcher
  | .returned loop batcher => s.batchers[batcher]? = some loop ∧ s.phase loop ≠ .unborn ∧
    (s.phase loop = .alive → s.Registered loop batcher)
  | .drain loop => s.phase loop = .alive
  | .drained loop batcher => ∀ b, batcher = some b → s.batchers[b]? = some loop

def Pc.weak : Pc → Multiset Nat
  | .buildBatcher _ weak => {weak}
  | .insert _ weak _ => {weak}
  | .dropWeak _ weak _ => {weak}
  | .lookup _ => 0
  | .buildWeak _ => 0
  | .returned _ _ => 0
  | .drain _ => 0
  | .drained _ _ => 0

/-- The weakrefs with their owners: threads, the registry, and those that were dropped. -/
def owned (s : Shared) (threads : Multiset Pc) : Multiset Nat :=
  threads.bind Pc.weak + (s.batchersByKey.entries.map fun entry => entry.2.weak) + s.dropped

structure Sound (c : Config Shared Pc) : Prop where
  occupied : ∀ loop loop', (c.shared.phase loop).occupies = true →
    (c.shared.phase loop').occupies = true → c.shared.loopKey loop = c.shared.loopKey loop' →
    loop = loop'
  entry : ∀ key registration, c.shared.batchersByKey.lookup key = some registration →
    c.shared.Entry key registration
  pending : ∀ loop pending, c.shared.phase loop = .dying pending → ∀ weak ∈ pending,
    c.shared.weaks[weak]? = some ⟨loop, c.shared.loopKey loop⟩
  /-- A weakref knows the address of its loop. -/
  keys : ∀ (weak : Nat) target, c.shared.weaks[weak]? = some target →
    c.shared.loopKey target.target = target.key ∧ c.shared.phase target.target ≠ .unborn
  knows : ∀ p ∈ c.threads, p.Knows c.shared
  same : ∀ loop batcher batcher', .returned loop batcher ∈ c.threads →
    .returned loop batcher' ∈ c.threads → batcher = batcher'
  owners : (owned c.shared c.threads).Nodup
  bound : ∀ weak ∈ owned c.shared c.threads, weak < c.shared.weaks.length

/-- A thread only adds to what is there. -/
structure Shared.Keeps (s s' : Shared) : Prop where
  loops : s'.loops = s.loops
  weaks : ∀ (weak : Nat) target, s.weaks[weak]? = some target → s'.weaks[weak]? = some target
  batchers : ∀ (batcher : Nat) loop, s.batchers[batcher]? = some loop → s'.batchers[batcher]? = some loop
  entries : ∀ key registration, s.batchersByKey.lookup key = some registration →
    s'.batchersByKey.lookup key = some registration

theorem getElem?_append_of_eq_some {α : Type} {items : List α} {i : Nat} {item : α}
    (h : items[i]? = some item) (more : List α) : (items ++ more)[i]? = some item := by
  obtain ⟨hi, _⟩ := List.getElem?_eq_some_iff.mp h
  rw [List.getElem?_append_left hi, h]

theorem Move.keeps {s s' : Shared} {p : Pc} {q : List Pc} (h : Move s p s' q) : s.Keeps s' := by
  have hsame : s.Keeps s := ⟨rfl, fun _ _ h => h, fun _ _ h => h, fun _ _ h => h⟩
  cases h with
  | found _ | missing _ | noWeak | lost _ | drained => exact hsame
  | notBuilt | dropped => exact ⟨rfl, fun _ _ h => h, fun _ _ h => h, fun _ _ h => h⟩
  | weak =>
    exact ⟨rfl, fun _ _ h => getElem?_append_of_eq_some h _, fun _ _ h => h, fun _ _ h => h⟩
  | built =>
    exact ⟨rfl, fun _ _ h => h, fun _ _ h => getElem?_append_of_eq_some h _, fun _ _ h => h⟩
  | @inserted loop weak batcher hmissing =>
    refine ⟨rfl, fun _ _ h => h, fun _ _ h => h, fun key registration hkey => ?_⟩
    have hne : key ≠ s.loopKey loop := by
      rintro rfl
      rw [hmissing] at hkey
      cases hkey
    exact (AList.lookup_insert_ne hne).trans hkey

namespace Shared.Keeps

variable {s s' : Shared} (h : s.Keeps s')

include h

theorem phase (loop : Nat) : s'.phase loop = s.phase loop := by
  simp [Shared.phase, h.loops]

theorem loopKey (loop : Nat) : s'.loopKey loop = s.loopKey loop := by
  simp [Shared.loopKey, h.loops]

theorem registered {loop batcher : Nat} (hr : s.Registered loop batcher) :
    s'.Registered loop batcher := by
  obtain ⟨registration, hlookup, hbatcher⟩ := hr
  exact ⟨registration, h.loopKey loop ▸ h.entries _ _ hlookup, hbatcher⟩

theorem entry {key : Nat} {registration : Registration} (he : s.Entry key registration) :
    s'.Entry key registration := by
  obtain ⟨loop, hbatcher, hweak, hkey, hphase⟩ := he
  refine ⟨loop, h.batchers _ _ hbatcher, h.weaks _ _ hweak, (h.loopKey loop).trans hkey, ?_⟩
  rwa [h.phase]

theorem knows {p : Pc} (hp : p.Knows s) : p.Knows s' := by
  cases p with
  | lookup loop | buildWeak loop | drain loop => exact (h.phase loop).trans hp
  | buildBatcher loop weak =>
    exact ⟨(h.phase loop).trans hp.1, h.loopKey loop ▸ h.weaks _ _ hp.2⟩
  | insert loop weak batcher =>
    exact ⟨(h.phase loop).trans hp.1, h.loopKey loop ▸ h.weaks _ _ hp.2.1,
      h.batchers _ _ hp.2.2⟩
  | dropWeak loop weak batcher =>
    exact ⟨(h.phase loop).trans hp.1, h.batchers _ _ hp.2.1, h.registered hp.2.2⟩
  | returned loop batcher =>
    refine ⟨h.batchers _ _ hp.1, ?_, ?_⟩
    · rw [h.phase]
      exact hp.2.1
    · rw [h.phase]
      exact fun halive => h.registered (hp.2.2 halive)
  | drained loop batcher => exact fun b hb => h.batchers _ _ (hp b hb)

end Shared.Keeps

theorem owned_cons (s : Shared) (p : Pc) (T : Multiset Pc) :
    owned s (p ::ₘ T) = p.weak + owned s T := by
  simp only [owned, Multiset.cons_bind, Multiset.add_assoc]

theorem owned_drop (s : Shared) (weak : Nat) (T : Multiset Pc) :
    owned { s with dropped := weak :: s.dropped } T = weak ::ₘ owned s T := by
  simp only [owned, ← Multiset.cons_coe, Multiset.add_cons]

theorem owned_insert {s : Shared} {key : Nat} (hnew : key ∉ s.batchersByKey)
    (registration : Registration) (T : Multiset Pc) :
    owned { s with batchersByKey := s.batchersByKey.insert key registration } T =
      registration.weak ::ₘ owned s T := by
  simp only [owned, AList.entries_insert_of_notMem hnew, List.map_cons, ← Multiset.cons_coe,
    Multiset.add_cons, Multiset.cons_add]

theorem Move.owned {s s' : Shared} {p : Pc} {q : List Pc} (h : Move s p s' q) (T : Multiset Pc) :
    (owned s' (q + T) = owned s (p ::ₘ T) ∧ s'.weaks.length = s.weaks.length) ∨
    (owned s' (q + T) = s.weaks.length ::ₘ owned s (p ::ₘ T) ∧
      s'.weaks.length = s.weaks.length + 1) := by
  have hone (x : Pc) : (([x] : List Pc) : Multiset Pc) + T = x ::ₘ T := by simp
  have hnone : (([] : List Pc) : Multiset Pc) + T = T := by simp
  cases h with
  | found _ | missing _ | built | lost _ | drained =>
    left
    rw [hone, owned_cons, owned_cons]
    exact ⟨rfl, rfl⟩
  | noWeak =>
    left
    rw [hnone, owned_cons, Pc.weak, Multiset.zero_add]
    exact ⟨rfl, rfl⟩
  | notBuilt =>
    left
    rw [hnone, owned_cons, owned_drop, Pc.weak, Multiset.singleton_add]
    exact ⟨rfl, rfl⟩
  | dropped =>
    left
    rw [hone, owned_cons, owned_cons, owned_drop, Pc.weak, Pc.weak, Multiset.zero_add,
      Multiset.singleton_add]
    exact ⟨rfl, rfl⟩
  | @inserted loop weak batcher hmissing =>
    left
    rw [hone, owned_cons, owned_cons, owned_insert (AList.lookup_eq_none.mp hmissing), Pc.weak,
      Pc.weak, Multiset.zero_add, Multiset.singleton_add]
    exact ⟨rfl, rfl⟩
  | weak =>
    right
    rw [hone, owned_cons, owned_cons, Pc.weak, Pc.weak, Multiset.zero_add, Multiset.singleton_add]
    exact ⟨rfl, by simp⟩

theorem notMem_dropped {s : Shared} {T : Multiset Pc} (h : (owned s T).Nodup) {key : Nat}
    {registration : Registration} (hentry : s.batchersByKey.lookup key = some registration) :
    registration.weak ∉ s.dropped := by
  have hmem : registration.weak ∈ s.batchersByKey.entries.map fun entry => entry.2.weak :=
    List.mem_map.mpr ⟨⟨key, registration⟩, AList.mem_lookup_iff.mp hentry, rfl⟩
  obtain ⟨_, _, hdisjoint⟩ := Multiset.nodup_add.mp h
  intro hdropped
  exact Multiset.disjoint_left.mp hdisjoint (Multiset.mem_add.mpr (.inr hmem)) hdropped

theorem Move.knows {s s' : Shared} {p : Pc} {q : List Pc} (h : Move s p s' q) (hp : p.Knows s)
    (hentry : ∀ key registration, s.batchersByKey.lookup key = some registration →
      s.Entry key registration)
    (hoccupied : ∀ loop loop', (s.phase loop).occupies = true → (s.phase loop').occupies = true →
      s.loopKey loop = s.loopKey loop' → loop = loop') : ∀ x ∈ q, x.Knows s' := by
  -- The entry at the key of a live loop is that of the loop itself.
  have hown {loop : Nat} {registration : Registration} (halive : s.phase loop = .alive)
      (hlookup : s.batchersByKey.lookup (s.loopKey loop) = some registration) :
      s.batchers[registration.batcher]? = some loop := by
    obtain ⟨loop', hbatcher, _, hkey, hphase⟩ := hentry _ _ hlookup
    have hoccupies : (s.phase loop').occupies = true := by
      rcases hphase with hphase | ⟨pending, hphase, _⟩ <;> rw [hphase] <;> rfl
    rwa [← hoccupied loop' loop hoccupies (by rw [halive]; rfl) hkey]
  intro x hx
  cases h with
  | noWeak | notBuilt => cases hx
  | @found loop registration hlookup =>
    obtain rfl := List.mem_singleton.mp hx
    exact ⟨hown hp hlookup, ne_unborn hp, fun _ => ⟨registration, hlookup, rfl⟩⟩
  | missing _ =>
    obtain rfl := List.mem_singleton.mp hx
    exact hp
  | weak =>
    obtain rfl := List.mem_singleton.mp hx
    exact ⟨hp, by simp [Shared.loopKey]⟩
  | built =>
    obtain rfl := List.mem_singleton.mp hx
    exact ⟨hp.1, hp.2, by simp⟩
  | @lost loop weak batcher registration hlookup =>
    obtain rfl := List.mem_singleton.mp hx
    exact ⟨hp.1, hown hp.1 hlookup, registration, hlookup, rfl⟩
  | @inserted loop weak batcher hmissing =>
    obtain rfl := List.mem_singleton.mp hx
    exact ⟨hp.2.2, ne_unborn hp.1, fun _ => ⟨_, AList.lookup_insert _, rfl⟩⟩
  | @dropped loop weak batcher =>
    obtain rfl := List.mem_singleton.mp hx
    exact ⟨hp.2.1, ne_unborn hp.1, fun _ => hp.2.2⟩
  | @drained loop =>
    obtain rfl := List.mem_singleton.mp hx
    intro b hb
    obtain ⟨registration, hlookup, rfl⟩ := Option.map_eq_some_iff.mp hb
    exact hown hp hlookup

theorem Move.entry {s s' : Shared} {p : Pc} {q : List Pc} (h : Move s p s' q) (hp : p.Knows s)
    (hentry : ∀ key registration, s.batchersByKey.lookup key = some registration →
      s.Entry key registration) :
    ∀ key registration, s'.batchersByKey.lookup key = some registration →
      s'.Entry key registration := by
  have hkeeps := h.keeps
  intro key registration hlookup
  cases h with
  | @inserted loop weak batcher hmissing =>
    by_cases hkey : key = s.loopKey loop
    · subst hkey
      obtain rfl := Option.some.inj ((AList.lookup_insert _).symm.trans hlookup)
      exact ⟨loop, hp.2.2, hp.2.1, rfl, .inl hp.1⟩
    · exact hkeeps.entry (hentry _ _ ((AList.lookup_insert_ne hkey).symm.trans hlookup))
  | _ => exact hkeeps.entry (hentry _ _ hlookup)

theorem same_of_knows {s' : Shared} {p : Pc} {q : List Pc} {T : Multiset Pc}
    (hknows : ∀ x ∈ (q : Multiset Pc) + T, x.Knows s') (halive : ∀ loop batcher,
      .returned loop batcher ∈ q → s'.phase loop = .alive)
    (hsame : ∀ loop batcher batcher', .returned loop batcher ∈ p ::ₘ T →
      .returned loop batcher' ∈ p ::ₘ T → batcher = batcher') :
    ∀ loop batcher batcher', .returned loop batcher ∈ (q : Multiset Pc) + T →
      .returned loop batcher' ∈ (q : Multiset Pc) + T → batcher = batcher' := by
  have hregistered {loop b b' : Nat} (hphase : s'.phase loop = .alive)
      (hb : .returned loop b ∈ (q : Multiset Pc) + T)
      (hb' : .returned loop b' ∈ (q : Multiset Pc) + T) : b = b' := by
    obtain ⟨registration, hlookup, rfl⟩ := (hknows _ hb).2.2 hphase
    obtain ⟨registration', hlookup', rfl⟩ := (hknows _ hb').2.2 hphase
    rw [Option.some.inj (hlookup.symm.trans hlookup')]
  intro loop b b' hb hb'
  rcases Multiset.mem_add.mp hb with hq | hT
  · exact hregistered (halive loop b (by simpa using hq)) hb hb'
  · rcases Multiset.mem_add.mp hb' with hq' | hT'
    · exact hregistered (halive loop b' (by simpa using hq')) hb hb'
    · exact hsame loop b b' (Multiset.mem_cons_of_mem hT) (Multiset.mem_cons_of_mem hT')

theorem Move.alive {s s' : Shared} {p : Pc} {q : List Pc} (h : Move s p s' q) (hp : p.Knows s) :
    ∀ loop batcher, .returned loop batcher ∈ q → s'.phase loop = .alive := by
  intro loop batcher hmem
  cases h with
  | found _ =>
    obtain ⟨rfl, _⟩ : loop = _ ∧ _ := by simpa using hmem
    exact hp
  | inserted _ =>
    obtain ⟨rfl, _⟩ : loop = _ ∧ _ := by simpa using hmem
    exact hp.1
  | dropped =>
    obtain ⟨rfl, _⟩ : loop = _ ∧ _ := by simpa using hmem
    exact hp.1
  | _ => simp at hmem

theorem Move.keys {s s' : Shared} {p : Pc} {q : List Pc} (h : Move s p s' q) (hp : p.Knows s)
    (hkeys : ∀ (weak : Nat) target, s.weaks[weak]? = some target →
      s.loopKey target.target = target.key ∧ s.phase target.target ≠ .unborn) :
    ∀ (weak : Nat) target, s'.weaks[weak]? = some target →
      s'.loopKey target.target = target.key ∧ s'.phase target.target ≠ .unborn := by
  cases h with
  | @weak loop =>
    intro weak target htarget
    rcases Nat.lt_or_ge weak s.weaks.length with hlt | hge
    · exact hkeys weak target ((List.getElem?_append_left hlt).symm.trans htarget)
    · rw [List.getElem?_append_right hge] at htarget
      obtain ⟨_, rfl⟩ : weak - s.weaks.length = 0 ∧ ⟨loop, s.loopKey loop⟩ = target := by
        simpa [List.getElem?_singleton] using htarget
      have halive : s.phase loop = .alive := hp
      exact ⟨rfl, ne_unborn halive⟩
  | _ => exact hkeys

theorem Sound.thread {s s' : Shared} {T : Multiset Pc} {p : Pc} {q : List Pc}
    (h : Sound ⟨s, p ::ₘ T⟩) (hmove : Move s p s' q) : Sound ⟨s', q + T⟩ := by
  have hp : p.Knows s := h.knows p (Multiset.mem_cons_self p T)
  have hkeeps := hmove.keeps
  have hknows : ∀ x ∈ (q : Multiset Pc) + T, x.Knows s' := by
    intro x hx
    rcases Multiset.mem_add.mp hx with hx | hx
    · exact hmove.knows hp h.entry h.occupied x (by simpa using hx)
    · exact hkeeps.knows (h.knows x (Multiset.mem_cons_of_mem hx))
  refine ⟨?_, hmove.entry hp h.entry, ?_, hmove.keys hp h.keys, hknows,
    same_of_knows hknows (hmove.alive hp) h.same, ?_, ?_⟩
  · intro loop loop'
    simp only [hkeeps.phase, hkeeps.loopKey]
    exact h.occupied loop loop'
  · intro loop pending hphase weak hweak
    rw [hkeeps.loopKey]
    exact hkeeps.weaks _ _ (h.pending loop pending (hkeeps.phase loop ▸ hphase) weak hweak)
  · rcases hmove.owned T with ⟨howned, _⟩ | ⟨howned, _⟩
    · rw [howned]
      exact h.owners
    · rw [howned]
      refine Multiset.nodup_cons.mpr ⟨fun hmem => ?_, h.owners⟩
      have hlt := h.bound _ hmem
      exact absurd hlt (Nat.lt_irrefl _)
  · intro weak hweak
    rcases hmove.owned T with ⟨howned, hlength⟩ | ⟨howned, hlength⟩
    · have hlt := h.bound weak (howned ▸ hweak)
      simp only at hlt ⊢
      omega
    · rw [howned] at hweak
      rcases Multiset.mem_cons.mp hweak with rfl | hweak
      · simp only
        omega
      · have hlt := h.bound weak hweak
        simp only at hlt ⊢
        omega

end BatcherRegistry

end ScyllaDriver
