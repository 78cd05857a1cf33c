import Mathlib.Tactic.Abel
import ScyllaDriver.References

/-! Caches of one Python object each, kept with a reference to what the object was made from
and found again by its address: `CustomLoadBalancingPolicy.get_cluster_state` keeps a
`ClusterState`, `PyPreparedStatement.result_columns` the guard of the column specifications.
Both run under a mutex, on something the caller has a reference to. -/

namespace ScyllaDriver

namespace AddressedCaches

/-- A `PyClusterState`, or a tuple of column specifications. -/
structure View (V : Type) where
  object : Nat
  made : V
  deriving DecidableEq, Repr

structure Shared (V : Type) where
  memory : Memory V
  cached : Option (Nat × View V)
  locked : Bool
  objects : Nat
  /-- References of the sessions, statements, requests and views. -/
  elsewhere : Multiset Nat

/-- A call on the value `asked`, which the caller has at `address`. -/
inductive Pc (V : Type) where
  | called (asked : V) (address : Nat)
  | compare (asked : V) (address : Nat)
  | build (asked : V) (address : Nat)
  | returned (asked : V) (view : View V)
  | failed
  deriving DecidableEq, Repr

inductive Choice where
  | proceed
  /-- Making the Python object fails. -/
  | raises

inductive Event (V : Type) where
  | call (address : Nat)
  | allocate (address : Nat) (value : V)
  | hold (address : Nat)
  | release (address : Nat)

section Code

variable {V : Type}

/-- The caller's reference goes to the cache, the old entry's is dropped. A view that
`keeps` what it was made from has a reference of its own. -/
def Shared.store (keeps : Bool) (s : Shared V) (address : Nat) : Shared V :=
  let memory := match s.cached with
    | some (old, _) => s.memory.drop old
    | none => s.memory
  { s with
    memory := if keeps then memory.clone address else memory
    cached := some (address, ⟨s.objects, s.memory.content address⟩)
    locked := false
    objects := s.objects + 1
    elsewhere := if keeps then {address} + s.elsewhere else s.elsewhere }

def step (keeps : Bool) (s : Shared V) : Pc V → Choice → Option (Shared V × List (Pc V))
  | .called asked address, .proceed =>
    if s.locked then none else some ({ s with locked := true }, [.compare asked address])
  | .compare asked address, .proceed =>
    match s.cached with
    | some (key, view) =>
      if key = address then
        some ({ s with memory := s.memory.drop address, locked := false }, [.returned asked view])
      else some (s, [.build asked address])
    | none => some (s, [.build asked address])
  | .build asked address, .proceed =>
    some (s.store keeps address, [.returned asked ⟨s.objects, s.memory.content address⟩])
  | .build _ address, .raises =>
    some ({ s with memory := s.memory.drop address, locked := false }, [.failed])
  | _, _ => none

def env (s : Shared V) : Event V → Option (Shared V × List (Pc V))
  | .call address =>
    if address ∈ s.elsewhere then
      some ({ s with memory := s.memory.clone address },
        [.called (s.memory.content address) address])
    else none
  | .allocate address value =>
    (s.memory.allocate address value).map fun memory =>
      ({ s with memory := memory, elsewhere := {address} + s.elsewhere }, [])
  | .hold address =>
    if address ∈ s.elsewhere then
      some ({ s with memory := s.memory.clone address, elsewhere := {address} + s.elsewhere }, [])
    else none
  | .release address =>
    if address ∈ s.elsewhere then
      some ({ s with memory := s.memory.drop address, elsewhere := s.elsewhere.erase address }, [])
    else none

def program (keeps : Bool) : Program (Shared V) (Pc V) Choice (Event V) := ⟨step keeps, env⟩

/-- A new cache; column specifications without columns have one address in common, which is
referenced for ever. -/
def fresh (content : Nat → V) (elsewhere : Multiset Nat) : Config (Shared V) (Pc V) :=
  ⟨⟨⟨content, fun a => elsewhere.count a⟩, none, false, 0, elsewhere⟩, 0⟩

def Shared.key (s : Shared V) : Multiset Nat := (s.cached.map Prod.fst).elim 0 fun a => {a}

def Shared.held (s : Shared V) : Multiset Nat := s.key + s.elsewhere

def Pc.holds : Pc V → Multiset Nat
  | .called _ address => {address}
  | .compare _ address => {address}
  | .build _ address => {address}
  | .returned _ _ => 0
  | .failed => 0

abbrev refs (c : Config (Shared V) (Pc V)) : Multiset Nat := c.refs Shared.held Pc.holds

end Code

variable {V : Type} {keeps : Bool} {s s' : Shared V} {p : Pc V} {q : List (Pc V)}
  {T : Multiset (Pc V)}

/-- What a thread step does. -/
inductive Move (keeps : Bool) (s : Shared V) : Pc V → Shared V → Pc V → Prop
  | enters {asked address} (hfree : s.locked = false) : Move keeps s (.called asked address)
    { s with locked := true } (.compare asked address)
  | hits {asked address view} (hc : s.cached = some (address, view)) :
    Move keeps s (.compare asked address)
      { s with memory := s.memory.drop address, locked := false } (.returned asked view)
  | misses {asked address} : Move keeps s (.compare asked address) s (.build asked address)
  | stores {asked address} : Move keeps s (.build asked address) (s.store keeps address)
    (.returned asked ⟨s.objects, s.memory.content address⟩)
  | raises {asked address} : Move keeps s (.build asked address)
    { s with memory := s.memory.drop address, locked := false } .failed

theorem step_move {e : Choice} (h : step keeps s p e = some (s', q)) :
    ∃ p', q = [p'] ∧ Move keeps s p s' p' := by
  cases e with
  | proceed =>
    cases p with
    | called asked address =>
      cases hlocked : s.locked with
      | true => simp [step, hlocked] at h
      | false =>
        obtain ⟨rfl, rfl⟩ : { s with locked := true } = s' ∧ [Pc.compare asked address] = q := by
          simpa [step, hlocked] using h
        exact ⟨_, rfl, .enters hlocked⟩
    | compare asked address =>
      cases hcached : s.cached with
      | none =>
        obtain ⟨rfl, rfl⟩ : s = s' ∧ [Pc.build asked address] = q := by
          simpa [step, hcached] using h
        exact ⟨_, rfl, .misses⟩
      | some entry =>
        obtain ⟨key, view⟩ := entry
        by_cases hkey : key = address
        · subst hkey
          obtain ⟨rfl, rfl⟩ : { s with memory := s.memory.drop key, locked := false } = s' ∧
              [Pc.returned asked view] = q := by
            simpa [step, hcached] using h
          exact ⟨_, rfl, .hits hcached⟩
        · obtain ⟨rfl, rfl⟩ : s = s' ∧ [Pc.build asked address] = q := by
            simpa [step, hcached, hkey] using h
          exact ⟨_, rfl, .misses⟩
    | build asked address => cases h; exact ⟨_, rfl, .stores⟩
    | returned asked view => cases h
    | failed => cases h
  | raises =>
    cases p with
    | build asked address => cases h; exact ⟨_, rfl, .raises⟩
    | _ => cases h

/-- What the call knows of the value it was made on, which cannot change while it runs. -/
def Pc.Knows (s : Shared V) : Pc V → Prop
  | .called asked address => s.memory.content address = asked
  | .compare asked address => s.memory.content address = asked
  | .build asked address => s.memory.content address = asked
  | .returned asked view => view.made = asked
  | .failed => True

structure Matching (c : Config (Shared V) (Pc V)) : Prop where
  counts : c.shared.memory.Counts (refs c)
  cached : ∀ address view, c.shared.cached = some (address, view) →
    view.made = c.shared.memory.content address
  knows : ∀ p ∈ c.threads, p.Knows c.shared

theorem Shared.store_content (address : Nat) :
    (s.store keeps address).memory.content = s.memory.content := by
  unfold store
  cases s.cached <;> cases keeps <;> rfl

theorem Move.content {p' : Pc V} (h : Move keeps s p s' p') :
    s'.memory.content = s.memory.content := by
  cases h with
  | stores => exact Shared.store_content _
  | _ => rfl

theorem Move.counts {p' : Pc V} (h : Move keeps s p s' p')
    (hc : s.memory.Counts (refs ⟨s, p ::ₘ T⟩)) : s'.memory.Counts (refs ⟨s', p' ::ₘ T⟩) := by
  rw [refs, Config.refs_cons] at hc ⊢
  cases h with
  | enters | misses => exact hc
  | hits | raises =>
    refine Memory.Counts.drop ?_
    convert hc using 1
    simp only [Shared.held, Shared.key, Pc.holds]
    abel
  | stores =>
    rename_i asked address
    have hdrop (memory : Memory V) (hm : memory.Counts ({address} + s.elsewhere + T.bind Pc.holds)) :
        (if keeps then memory.clone address else memory).Counts
          ({address} + (if keeps then {address} + s.elsewhere else s.elsewhere) +
            T.bind Pc.holds) := by
      cases keeps with
      | false => exact hm
      | true =>
        simp only [if_true]
        convert hm.clone address using 1
        simp only [add_assoc]
    cases hcached : s.cached with
    | none =>
      simp only [Shared.held, Shared.key, Shared.store, Pc.holds, hcached] at hc ⊢
      convert hdrop s.memory ?_ using 1
      · simp
      · convert hc using 1
        simp only [Option.map_none, Option.elim_none]
        abel
    | some entry =>
      simp only [Shared.held, Shared.key, Shared.store, Pc.holds, hcached] at hc ⊢
      convert hdrop (s.memory.drop entry.1) (Memory.Counts.drop ?_) using 1
      · simp
      · convert hc using 1
        simp only [Option.map_some, Option.elim_some]
        abel

/-- What the environment does. -/
inductive Arrival (s : Shared V) : Shared V → List (Pc V) → Prop
  | call {address} (ha : address ∈ s.elsewhere) :
    Arrival s { s with memory := s.memory.clone address }
      [.called (s.memory.content address) address]
  | allocate {address value memory} (hm : s.memory.allocate address value = some memory) :
    Arrival s { s with memory := memory, elsewhere := {address} + s.elsewhere } []
  | hold {address} (ha : address ∈ s.elsewhere) :
    Arrival s { s with memory := s.memory.clone address, elsewhere := {address} + s.elsewhere } []
  | release {address} (ha : address ∈ s.elsewhere) :
    Arrival s { s with memory := s.memory.drop address, elsewhere := s.elsewhere.erase address } []

theorem env_arrival {k : Event V} (h : env s k = some (s', q)) : Arrival s s' q := by
  cases k with
  | allocate address value =>
    obtain ⟨memory, hm, he⟩ := Option.map_eq_some_iff.mp h
    cases he
    exact .allocate hm
  | call address =>
    by_cases ha : address ∈ s.elsewhere
    · obtain ⟨rfl, rfl⟩ := Prod.ext_iff.mp (Option.some.inj ((if_pos ha).symm.trans h))
      exact .call ha
    · exact nomatch (if_neg ha).symm.trans h
  | hold address =>
    by_cases ha : address ∈ s.elsewhere
    · obtain ⟨rfl, rfl⟩ := Prod.ext_iff.mp (Option.some.inj ((if_pos ha).symm.trans h))
      exact .hold ha
    · exact nomatch (if_neg ha).symm.trans h
  | release address =>
    by_cases ha : address ∈ s.elsewhere
    · obtain ⟨rfl, rfl⟩ := Prod.ext_iff.mp (Option.some.inj ((if_pos ha).symm.trans h))
      exact .release ha
    · exact nomatch (if_neg ha).symm.trans h

theorem Arrival.counts (h : Arrival s s' q) (hc : s.memory.Counts (refs ⟨s, T⟩)) :
    s'.memory.Counts (refs ⟨s', (q : Multiset (Pc V)) + T⟩) := by
  rw [refs, Config.refs_add]
  cases h with
  | call =>
    rename_i address ha
    convert hc.clone address using 1
    simp only [Config.refs, Shared.held, Shared.key, Multiset.coe_singleton,
      Multiset.singleton_bind, Pc.holds]
    abel
  | allocate hm =>
    convert hc.allocate hm using 1
    simp only [Config.refs, Shared.held, Shared.key, Multiset.coe_nil, Multiset.zero_bind]
    abel
  | hold =>
    rename_i address ha
    convert hc.clone address using 1
    simp only [Config.refs, Shared.held, Shared.key, Multiset.coe_nil, Multiset.zero_bind]
    abel
  | release ha =>
    rename_i address
    have herase : {address} + s.elsewhere.erase address = s.elsewhere := by
      rw [Multiset.singleton_add, Multiset.cons_erase ha]
    refine Memory.Counts.drop ?_
    convert hc using 1
    simp only [Config.refs, Shared.held, Shared.key, Multiset.coe_nil, Multiset.zero_bind]
    conv_rhs => rw [← herase]
    abel

/-- What is referenced stays as it is. -/
theorem Arrival.content (h : Arrival s s' q) (hc : s.memory.Counts (refs ⟨s, T⟩)) {a : Nat}
    (ha : a ∈ refs ⟨s, T⟩) : s'.memory.content a = s.memory.content a := by
  cases h with
  | allocate hm => exact hc.content_of_allocate hm ha
  | _ => rfl

theorem Pc.Knows.congr (h : p.Knows s)
    (hcontent : ∀ a ∈ p.holds, s'.memory.content a = s.memory.content a) : p.Knows s' := by
  cases p with
  | called asked address | compare asked address | build asked address =>
    exact (hcontent address (by simp [Pc.holds])).trans h
  | returned asked view => exact h
  | failed => trivial

theorem Matching.move {p' : Pc V} (h : Matching ⟨s, p ::ₘ T⟩) (hm : Move keeps s p s' p') :
    Matching ⟨s', p' ::ₘ T⟩ := by
  have hown : p.Knows s := h.knows p (Multiset.mem_cons_self p T)
  refine ⟨hm.counts h.counts, ?_, Multiset.forall_mem_cons.mpr ⟨?_, fun t ht => ?_⟩⟩
  · intro address view hcached
    have hold := h.cached address view
    cases hm with
    | stores =>
      simp only [Shared.store, Option.some.injEq, Prod.mk.injEq] at hcached
      obtain ⟨rfl, rfl⟩ := hcached
      exact (congrFun (Shared.store_content _) _).symm
    | _ => exact hold hcached
  · cases hm with
    | enters | misses => exact hown
    | hits hcached => exact (h.cached _ _ hcached).trans hown
    | stores => exact hown
    | raises => trivial
  · exact (h.knows t (Multiset.mem_cons_of_mem ht)).congr fun a _ => congrFun hm.content a

theorem Matching.arrive (h : Matching ⟨s, T⟩) (ha : Arrival s s' q) :
    Matching ⟨s', (q : Multiset (Pc V)) + T⟩ := by
  refine ⟨ha.counts h.counts, fun address view hcached => ?_, fun t ht => ?_⟩
  · have hold : s.cached = some (address, view) := by
      cases ha <;> exact hcached
    have hmem : address ∈ refs ⟨s, T⟩ :=
      Config.mem_refs_shared (by simp [Shared.held, Shared.key, hold])
    exact (h.cached address view hold).trans (ha.content h.counts hmem).symm
  · rcases Multiset.mem_add.mp ht with hnew | hold
    · cases ha with
      | call =>
        obtain rfl : t = _ := by simpa using hnew
        rfl
      | _ => simp at hnew
    · exact (h.knows t hold).congr fun a hmem =>
        ha.content h.counts (Config.mem_refs_thread hold hmem)

theorem matching_preserves :
    (program keeps : Program (Shared V) _ _ _).Preserves (fun _ _ => True) Matching where
  thread _ h hs := by
    obtain ⟨p', rfl, hm⟩ := step_move hs
    exact h.move hm
  env _ h hs := h.arrive (env_arrival hs)

theorem matching_fresh (content : Nat → V) (elsewhere : Multiset Nat) :
    Matching (fresh content elsewhere) := by
  refine ⟨fun a => ?_, by simp [fresh], by simp [fresh]⟩
  simp [fresh, refs, Config.refs, Shared.held, Shared.key]

/-- What a call on the value at `address` leaves in the cache. -/
def Shared.cachedAfter (keeps : Bool) (s : Shared V) (address : Nat) : Option (Nat × View V) :=
  if s.cached.map Prod.fst = some address then s.cached else (s.store keeps address).cached

variable [DecidableEq V]

/-- A call on a value that is referenced, while the lock is free, runs to its end. -/
theorem run_call {address : Nat} (hfree : s.locked = false) (ha : address ∈ s.elsewhere) :
    ∃ d, (program keeps).Run ⟨s, T⟩ d ∧ d.shared.cached = s.cachedAfter keeps address := by
  let asked := s.memory.content address
  let called : Shared V := { s with memory := s.memory.clone address }
  let entered : Shared V := { called with locked := true }
  have hcall : (program keeps).Run ⟨s, T⟩ ⟨called, .called asked address ::ₘ T⟩ :=
    Program.run_env (k := Event.call address) (q := [_]) (if_pos ha)
  have henter : (program keeps).Run ⟨s, T⟩ ⟨entered, .compare asked address ::ₘ T⟩ :=
    hcall.trans (Program.run_thread (e := .proceed) (q := [_])
      (by simp [program, step, called, entered, hfree]))
  unfold Shared.cachedAfter
  split
  · rename_i hhit
    obtain ⟨entry, hcached, hkey⟩ := Option.map_eq_some_iff.mp hhit
    refine ⟨⟨{ entered with memory := called.memory.drop address, locked := false },
      .returned asked entry.2 ::ₘ T⟩,
      henter.trans (Program.run_thread (e := .proceed) (q := [_]) ?_), rfl⟩
    simp [program, step, called, entered, hcached, hkey]
  · rename_i hmiss
    have hbuild : (program keeps).Run ⟨s, T⟩ ⟨entered, .build asked address ::ₘ T⟩ := by
      refine henter.trans (Program.run_thread (e := .proceed) (q := [_]) ?_)
      cases hcached : s.cached with
      | none => simp [program, step, called, entered, hcached]
      | some entry =>
        have hkey : entry.1 ≠ address := by simpa [hcached] using hmiss
        simp [program, step, called, entered, hcached, hkey]
    have hstore : (program keeps).step entered (.build asked address) .proceed =
        some (entered.store keeps address, [.returned asked ⟨s.objects, asked⟩]) := rfl
    exact ⟨_, hbuild.trans (Program.run_thread hstore), rfl⟩

/-- A call returns a view made from the value it was called on, in every interleaving of
calls, allocations and drops: an address that was given out again never finds an old view. -/
theorem addressed_view_matches {content : Nat → V} {elsewhere : Multiset Nat}
    {c : Config (Shared V) (Pc V)} (hr : (program keeps).Run (fresh content elsewhere) c)
    {asked : V} {view : View V} (hview : .returned asked view ∈ c.threads) : view.made = asked :=
  (matching_preserves.run (matching_fresh content elsewhere) hr).knows _ hview

/-- The statement's columns change, and the new ones are put where the old ones were: the
cache had let go of them for other columns. -/
theorem addressed_view_matches_reused : ∃ c, (program false).Run
      (fresh (fun _ => ["a"]) {10}) c ∧
    .returned ["b"] ⟨2, ["b"]⟩ ∈ c.threads ∧ (⟨2, ["b"]⟩ : View (List String)).made = ["b"] := by
  let done : Multiset (Pc (List String)) := {.returned ["b"] ⟨2, ["b"]⟩, .returned [] ⟨1, []⟩,
    .returned ["a"] ⟨0, ["a"]⟩}
  obtain ⟨memory, hrun⟩ : ∃ memory, (program false).Run (fresh (fun _ => ["a"]) {10})
      ⟨⟨memory, some (10, ⟨2, ["b"]⟩), false, 3, {10, 20}⟩, done⟩ :=
    ⟨_, Program.exec_run [.env (.call 10), .thread (.called ["a"] 10) .proceed,
      .thread (.compare ["a"] 10) .proceed, .thread (.build ["a"] 10) .proceed,
      .env (.release 10), .env (.allocate 20 []), .env (.call 20), .thread (.called [] 20) .proceed,
      .thread (.compare [] 20) .proceed, .thread (.build [] 20) .proceed,
      .env (.allocate 10 ["b"]), .env (.call 10), .thread (.called ["b"] 10) .proceed,
      .thread (.compare ["b"] 10) .proceed, .thread (.build ["b"] 10) .proceed] rfl⟩
  have hview : Pc.returned ["b"] ⟨2, ["b"]⟩ ∈ done := by simp [done]
  exact ⟨_, hrun, hview, addressed_view_matches hrun hview⟩

end AddressedCaches

end ScyllaDriver
