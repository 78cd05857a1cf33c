import Mathlib.Tactic.Abel
import ScyllaDriver.MutualExclusion
import ScyllaDriver.References

/-! `SessionCore.cluster_state`: the Python snapshot of the cluster state is made again
when the Rust session has another cluster state, which is found out by comparing
addresses. The session replaces its cluster state at any time, and the allocator may put
the new one where an old one was. -/

namespace ScyllaDriver

namespace ClusterSnapshots

/-- A `PyClusterState`: the object, the `Arc` it holds, and which of the session's cluster
states it was made from. -/
structure PyClusterState where
  object : Nat
  inner : Nat
  seen : Nat
  deriving DecidableEq, Repr

structure Shared where
  /-- The cluster states, each by its number among those the session had. -/
  memory : Memory Nat
  /-- The cluster state of the Rust session. -/
  current : Nat
  installed : Nat
  /-- The snapshot behind the mutex of `SessionCore`. -/
  cached : PyClusterState
  locked : Bool
  objects : Nat
  /-- Held by requests in flight and by snapshots that only the program still has. -/
  elsewhere : Multiset Nat

/-- A call of `cluster_state`, made when the session had the cluster state `since`. -/
inductive Pc where
  | called (since : Nat)
  | locked (since : Nat)
  | compare (since current : Nat)
  | refetch (since current : Nat)
  | build (since current fresh : Nat)
  | returned (since : Nat) (view : PyClusterState)
  | failed
  deriving DecidableEq, Repr

inductive Choice where
  | proceed
  /-- `PyClusterState::try_from` or `Py::new` fails. -/
  | raises

inductive Event where
  | call
  /-- The session gets a new cluster state, allocated at `address`. -/
  | install (address : Nat)
  | hold
  | release (address : Nat)

section Code

variable (s : Shared)

def step : Pc → Choice → Option (Shared × List Pc)
  | .called since, .proceed =>
    if s.locked then none else some ({ s with locked := true }, [.locked since])
  | .locked since, .proceed =>
    some ({ s with memory := s.memory.clone s.current }, [.compare since s.current])
  | .compare since current, .proceed =>
    if current = s.cached.inner then
      some ({ s with memory := s.memory.drop current, locked := false },
        [.returned since s.cached])
    else some (s, [.refetch since current])
  -- The session is asked once more: its cluster state may have changed again.
  | .refetch since current, .proceed =>
    some ({ s with memory := s.memory.clone s.current }, [.build since current s.current])
  | .build since current fresh, .proceed =>
    let view := ⟨s.objects, fresh, s.memory.content fresh⟩
    some ({ s with memory := s.memory.drop current, locked := false, cached := view,
                   objects := s.objects + 1, elsewhere := {s.cached.inner} + s.elsewhere },
      [.returned since view])
  | .build _ current fresh, .raises =>
    some ({ s with memory := (s.memory.drop fresh).drop current, locked := false }, [.failed])
  | _, _ => none

/-- The session drops its old cluster state once it has the new one. -/
def Shared.install (address : Nat) (memory : Memory Nat) : Shared :=
  { s with memory := memory.drop s.current, current := address, installed := s.installed + 1 }

def Shared.hold : Shared :=
  { s with memory := s.memory.clone s.current, elsewhere := {s.current} + s.elsewhere }

def Shared.release (address : Nat) : Shared :=
  { s with memory := s.memory.drop address, elsewhere := s.elsewhere.erase address }

def env : Event → Option (Shared × List Pc)
  | .call => some (s, [.called s.installed])
  | .install address =>
    (s.memory.allocate address (s.installed + 1)).map fun memory => (s.install address memory, [])
  | .hold => some (s.hold, [])
  | .release address => if address ∈ s.elsewhere then some (s.release address, []) else none

end Code

def program : Program Shared Pc Choice Event := ⟨step, env⟩

/-- A session that has just connected: `SessionCore::new` makes the first snapshot. -/
def connected (address : Nat) : Config Shared Pc :=
  ⟨{ memory := ⟨fun _ => 0, Function.update (fun _ => 0) address 2⟩, current := address,
     installed := 0, cached := ⟨0, address, 0⟩, locked := false, objects := 1, elsewhere := 0 }, 0⟩

def Shared.held (s : Shared) : Multiset Nat := {s.current} + {s.cached.inner} + s.elsewhere

def Pc.holds : Pc → Multiset Nat
  | .compare _ current => {current}
  | .refetch _ current => {current}
  | .build _ current fresh => {current} + {fresh}
  | _ => 0

abbrev refs (c : Config Shared Pc) : Multiset Nat := c.refs Shared.held Pc.holds

/-- Whether the call has the lock. -/
def Pc.inside : Pc → Bool
  | .called _ => false
  | .returned _ _ => false
  | .failed => false
  | _ => true

/-- What a thread step does. -/
inductive Move (s : Shared) : Pc → Shared → Pc → Prop
  | enters {since} (hfree : s.locked = false) :
    Move s (.called since) { s with locked := true } (.locked since)
  | fetches {since} : Move s (.locked since)
    { s with memory := s.memory.clone s.current } (.compare since s.current)
  | hits {since current} (heq : current = s.cached.inner) : Move s (.compare since current)
    { s with memory := s.memory.drop current, locked := false } (.returned since s.cached)
  | misses {since current} (hne : current ≠ s.cached.inner) :
    Move s (.compare since current) s (.refetch since current)
  | refetches {since current} : Move s (.refetch since current)
    { s with memory := s.memory.clone s.current } (.build since current s.current)
  | stores {since current fresh} : Move s (.build since current fresh)
    { s with memory := s.memory.drop current, locked := false,
             cached := ⟨s.objects, fresh, s.memory.content fresh⟩, objects := s.objects + 1,
             elsewhere := {s.cached.inner} + s.elsewhere }
    (.returned since ⟨s.objects, fresh, s.memory.content fresh⟩)
  | raises {since current fresh} : Move s (.build since current fresh)
    { s with memory := (s.memory.drop fresh).drop current, locked := false } .failed

theorem step_move {s s' : Shared} {p : Pc} {e : Choice} {q : List Pc}
    (h : step s p e = some (s', q)) : ∃ p', q = [p'] ∧ Move s p s' p' := by
  cases e with
  | proceed =>
    cases p with
    | called since =>
      cases hlocked : s.locked with
      | true => simp [step, hlocked] at h
      | false =>
        obtain ⟨rfl, rfl⟩ : { s with locked := true } = s' ∧ [Pc.locked since] = q := by
          simpa [step, hlocked] using h
        exact ⟨_, rfl, .enters hlocked⟩
    | compare since current =>
      by_cases heq : current = s.cached.inner
      · obtain ⟨rfl, rfl⟩ := Prod.ext_iff.mp (Option.some.inj ((if_pos heq).symm.trans h))
        exact ⟨_, rfl, .hits heq⟩
      · obtain ⟨rfl, rfl⟩ := Prod.ext_iff.mp (Option.some.inj ((if_neg heq).symm.trans h))
        exact ⟨_, rfl, .misses heq⟩
    | locked since => cases h; exact ⟨_, rfl, .fetches⟩
    | refetch since current => cases h; exact ⟨_, rfl, .refetches⟩
    | build since current fresh => cases h; exact ⟨_, rfl, .stores⟩
    | returned since view => cases h
    | failed => cases h
  | raises =>
    cases p with
    | build since current fresh => cases h; exact ⟨_, rfl, .raises⟩
    | _ => cases h

/-- What the environment does: no thread but a new call appears. -/
inductive Arrival (s : Shared) : Event → Shared → List Pc → Prop
  | call : Arrival s .call s [.called s.installed]
  | install {address memory} (hm : s.memory.allocate address (s.installed + 1) = some memory) :
    Arrival s (.install address) (s.install address memory) []
  | hold : Arrival s .hold s.hold []
  | release {address} (ha : address ∈ s.elsewhere) :
    Arrival s (.release address) (s.release address) []

theorem env_arrival {s s' : Shared} {k : Event} {q : List Pc} (h : env s k = some (s', q)) :
    Arrival s k s' q := by
  cases k with
  | call => cases h; exact .call
  | install address =>
    obtain ⟨memory, hm, he⟩ := Option.map_eq_some_iff.mp h
    cases he
    exact .install hm
  | hold => cases h; exact .hold
  | release address =>
    by_cases ha : address ∈ s.elsewhere
    · obtain ⟨rfl, rfl⟩ := Prod.ext_iff.mp (Option.some.inj ((if_pos ha).symm.trans h))
      exact .release ha
    · exact nomatch (if_neg ha).symm.trans h

/-- The references are counted, and the cluster states that are referenced are told apart by
their addresses. -/
structure Addressed (c : Config Shared Pc) : Prop where
  counts : c.shared.memory.Counts (refs c)
  current : c.shared.memory.content c.shared.current = c.shared.installed
  cached : c.shared.memory.content c.shared.cached.inner = c.shared.cached.seen
  numbered : ∀ a ∈ refs c, c.shared.memory.content a ≤ c.shared.installed
  apart : ∀ a ∈ refs c, ∀ b ∈ refs c,
    c.shared.memory.content a = c.shared.memory.content b → a = b

variable {s s' : Shared} {p p' : Pc} {q : List Pc} {T : Multiset Pc}

theorem Move.content (h : Move s p s' p') : s'.memory.content = s.memory.content := by
  cases h <;> rfl

theorem Move.installed (h : Move s p s' p') : s'.installed = s.installed := by
  cases h <;> rfl

theorem Move.current (h : Move s p s' p') : s'.current = s.current := by
  cases h <;> rfl

/-- Each step clones or drops what it says it does. -/
theorem Move.counts (h : Move s p s' p') (hc : s.memory.Counts (refs ⟨s, p ::ₘ T⟩)) :
    s'.memory.Counts (refs ⟨s', p' ::ₘ T⟩) := by
  rw [refs, Config.refs_cons] at hc ⊢
  cases h with
  | enters | misses => exact hc
  | fetches =>
    convert hc.clone s.current using 1
    simp only [Shared.held, Pc.holds]
    abel
  | hits =>
    refine Memory.Counts.drop ?_
    convert hc using 1
    simp only [Shared.held, Pc.holds]
    abel
  | refetches =>
    convert hc.clone s.current using 1
    simp only [Shared.held, Pc.holds]
    abel
  | stores =>
    refine Memory.Counts.drop ?_
    convert hc using 1
    simp only [Shared.held, Pc.holds]
    abel
  | raises =>
    refine Memory.Counts.drop (Memory.Counts.drop ?_)
    convert hc using 1
    simp only [Shared.held, Pc.holds]
    abel

/-- A step refers to nothing that was not referenced before. -/
theorem Move.refs_subset (h : Move s p s' p') {a : Nat} (ha : a ∈ refs ⟨s', p' ::ₘ T⟩) :
    a ∈ refs ⟨s, p ::ₘ T⟩ := by
  cases h <;>
    simp only [refs, Config.refs_cons, Shared.held, Pc.holds, Multiset.mem_add,
      Multiset.mem_singleton] at ha ⊢ <;>
    grind

theorem Addressed.move (h : Addressed ⟨s, p ::ₘ T⟩) (hm : Move s p s' p') :
    Addressed ⟨s', p' ::ₘ T⟩ where
  counts := hm.counts h.counts
  current := by
    have hcurrent := h.current
    rwa [← hm.content, ← hm.current, ← hm.installed] at hcurrent
  cached := by
    have hcached := h.cached
    cases hm <;> first | exact hcached | rfl
  numbered a ha := by
    have hle := h.numbered a (hm.refs_subset ha)
    rwa [← hm.content, ← hm.installed] at hle
  apart a ha b hb := by
    have heq := h.apart a (hm.refs_subset ha) b (hm.refs_subset hb)
    rwa [← hm.content] at heq

/-- A new cluster state has a number of its own and an address that nothing refers to. -/
theorem Addressed.install {address : Nat} {memory : Memory Nat} (h : Addressed ⟨s, T⟩)
    (hm : s.memory.allocate address (s.installed + 1) = some memory) :
    Addressed ⟨s.install address memory, T⟩ := by
  have hnew := Memory.content_allocate hm
  have hold {a : Nat} (ha : a ∈ refs ⟨s, T⟩) : memory.content a = s.memory.content a :=
    h.counts.content_of_allocate hm ha
  have hcached : s.cached.inner ∈ refs ⟨s, T⟩ :=
    Config.mem_refs_shared (by simp [Shared.held])
  have hcases {a : Nat} (ha : a ∈ refs ⟨s.install address memory, T⟩) :
      a = address ∨ a ∈ refs ⟨s, T⟩ := by
    simp only [refs, Config.refs, Shared.held, Shared.install, Multiset.mem_add,
      Multiset.mem_singleton] at ha ⊢
    grind
  have hfresh {a : Nat} (ha : a ∈ refs ⟨s, T⟩) : memory.content a ≠ memory.content address := by
    have hle := h.numbered a ha
    rw [hold ha, hnew]
    exact (Nat.lt_succ_of_le hle).ne
  refine ⟨?_, hnew, (hold hcached).trans h.cached, ?_, ?_⟩
  · refine Memory.Counts.drop ?_
    convert h.counts.allocate hm using 1
    simp only [refs, Config.refs, Shared.held, Shared.install]
    abel
  · intro a ha
    rcases hcases ha with rfl | ha
    · exact hnew.le
    · exact (hold ha).le.trans (Nat.le_succ_of_le (h.numbered a ha))
  · intro a ha b hb heq
    change memory.content a = memory.content b at heq
    rcases hcases ha with hnewa | hrefa <;> rcases hcases hb with hnewb | hrefb
    · exact hnewa.trans hnewb.symm
    · exact absurd (heq.symm.trans (by rw [hnewa])) (hfresh hrefb)
    · exact absurd (heq.trans (by rw [hnewb])) (hfresh hrefa)
    · exact h.apart a hrefa b hrefb ((hold hrefa).symm.trans (heq.trans (hold hrefb)))

/-- Events that leave the cluster states alone, and refer to nothing new. -/
theorem Addressed.of_subset (h : Addressed ⟨s, T⟩) {T' : Multiset Pc}
    (hcounts : s'.memory.Counts (refs ⟨s', T'⟩)) (hcontent : s'.memory.content = s.memory.content)
    (hcurrent : s'.current = s.current) (hinstalled : s'.installed = s.installed)
    (hcached : s'.cached = s.cached) (hsub : ∀ a ∈ refs ⟨s', T'⟩, a ∈ refs ⟨s, T⟩) :
    Addressed ⟨s', T'⟩ where
  counts := hcounts
  current := by
    have hold := h.current
    rwa [← hcontent, ← hcurrent, ← hinstalled] at hold
  cached := by
    have hold := h.cached
    rwa [← hcontent, ← hcached] at hold
  numbered a ha := by
    have hold := h.numbered a (hsub a ha)
    rwa [← hcontent, ← hinstalled] at hold
  apart a ha b hb := by
    have hold := h.apart a (hsub a ha) b (hsub b hb)
    rwa [← hcontent] at hold

theorem Addressed.arrive {k : Event} (h : Addressed ⟨s, T⟩) (ha : Arrival s k s' q) :
    Addressed ⟨s', (q : Multiset Pc) + T⟩ := by
  cases ha with
  | install hm =>
    rw [Multiset.coe_nil, zero_add]
    exact h.install hm
  | call =>
    have hrefs : refs ⟨s, (↑[Pc.called s.installed] : Multiset Pc) + T⟩ = refs ⟨s, T⟩ := by
      rw [refs, Config.refs_add]
      simp [Config.refs, Pc.holds]
    exact h.of_subset (hrefs ▸ h.counts) rfl rfl rfl rfl fun a ha => hrefs ▸ ha
  | hold =>
    rw [Multiset.coe_nil, zero_add]
    refine h.of_subset ?_ rfl rfl rfl rfl fun a ha => ?_
    · show (s.memory.clone s.current).Counts _
      convert h.counts.clone s.current using 1
      simp only [refs, Config.refs, Shared.held, Shared.hold]
      abel
    · simp only [refs, Config.refs, Shared.held, Shared.hold, Multiset.mem_add,
        Multiset.mem_singleton] at ha ⊢
      grind
  | release hmem =>
    rename_i address
    rw [Multiset.coe_nil, zero_add]
    refine h.of_subset ?_ rfl rfl rfl rfl fun a ha => ?_
    · refine Memory.Counts.drop ?_
      have herase : {address} + s.elsewhere.erase address = s.elsewhere := by
        rw [Multiset.singleton_add, Multiset.cons_erase hmem]
      convert h.counts using 1
      simp only [refs, Config.refs, Shared.held, Shared.release]
      conv_rhs => rw [← herase]
      abel
    · simp only [refs, Config.refs, Shared.held, Shared.release, Multiset.mem_add,
        Multiset.mem_singleton] at ha ⊢
      have hmono := @Multiset.mem_of_mem_erase Nat _ a address s.elsewhere
      grind

/-- What a call knows of the cluster states that it has asked for. -/
def Pc.Knows (s : Shared) : Pc → Prop
  | .called since => since ≤ s.installed
  | .locked since => since ≤ s.installed
  | .compare since current =>
    since ≤ s.memory.content current ∧ s.cached.seen ≤ s.memory.content current
  | .refetch since current =>
    since ≤ s.memory.content current ∧ s.cached.seen < s.memory.content current
  | .build since _ fresh =>
    since ≤ s.memory.content fresh ∧ s.cached.seen < s.memory.content fresh
  | .returned since view => since ≤ view.seen ∧ view.seen ≤ s.cached.seen ∧
    (view.seen = s.cached.seen → view = s.cached)
  | .failed => True

/-- One call at a time has the lock, and there is one snapshot of each cluster state. -/
structure Current (c : Config Shared Pc) : Prop where
  addressed : Addressed c
  holder : OneInside Pc.inside c.shared.locked c.threads
  knows : ∀ p ∈ c.threads, p.Knows c.shared
  one : ∀ since view since' view', .returned since view ∈ c.threads →
    .returned since' view' ∈ c.threads → view.seen = view'.seen → view = view'

theorem Pc.Knows.mono (h : p.Knows s) (hinstalled : s.installed ≤ s'.installed)
    (hcontent : ∀ a ∈ p.holds, s'.memory.content a = s.memory.content a)
    (hcached : s'.cached = s.cached ∨ p.inside = false ∧ s.cached.seen < s'.cached.seen) :
    p.Knows s' := by
  cases p with
  | called since | locked since => exact Nat.le_trans h hinstalled
  | failed => trivial
  | compare since current | refetch since current =>
    have hsame := hcontent current (by simp [Pc.holds])
    rcases hcached with hcached | ⟨hout, -⟩
    · simpa only [Pc.Knows, hsame, hcached] using h
    · cases hout
  | build since current fresh =>
    have hsame := hcontent fresh (by simp [Pc.holds])
    rcases hcached with hcached | ⟨hout, -⟩
    · simpa only [Pc.Knows, hsame, hcached] using h
    · cases hout
  | returned since view =>
    obtain ⟨hsince, hle, hsame⟩ := h
    rcases hcached with hcached | ⟨-, hlt⟩
    · simpa only [Pc.Knows, hcached] using ⟨hsince, hle, hsame⟩
    · exact ⟨hsince, by omega, fun heq => by omega⟩

/-- What the step leaves its own call with. -/
theorem Move.knows (hm : Move s p s' p') (h : Addressed ⟨s, p ::ₘ T⟩) (hk : p.Knows s) :
    p'.Knows s' := by
  have hcurrent := h.current
  change s.memory.content s.current = s.installed at hcurrent
  have hcached := h.cached
  change s.memory.content s.cached.inner = s.cached.seen at hcached
  have hmem : s.cached.inner ∈ refs ⟨s, p ::ₘ T⟩ :=
    Config.mem_refs_shared (by simp [Shared.held])
  have hseen : s.cached.seen ≤ s.installed := hcached ▸ h.numbered _ hmem
  cases hm with
  | enters => exact hk
  | fetches => exact ⟨hk.trans hcurrent.ge, hseen.trans hcurrent.ge⟩
  | hits heq =>
    subst heq
    exact ⟨hk.1.trans hcached.le, le_rfl, fun _ => rfl⟩
  | misses hne =>
    rename_i since current
    have hmem' : current ∈ refs ⟨s, .compare since current ::ₘ T⟩ :=
      Config.mem_refs_thread (Multiset.mem_cons_self _ _) (by simp [Pc.holds])
    have hdiff : s.memory.content current ≠ s.cached.seen := fun heq =>
      hne (h.apart _ hmem' _ hmem (heq.trans hcached.symm))
    exact ⟨hk.1, lt_of_le_of_ne hk.2 hdiff.symm⟩
  | refetches =>
    rename_i since current
    have hmem' : current ∈ refs ⟨s, .refetch since current ::ₘ T⟩ :=
      Config.mem_refs_thread (Multiset.mem_cons_self _ _) (by simp [Pc.holds])
    have hle : s.memory.content current ≤ s.memory.content s.current :=
      (h.numbered _ hmem').trans hcurrent.ge
    exact ⟨hk.1.trans hle, hk.2.trans_le hle⟩
  | stores => exact ⟨hk.1, le_rfl, fun _ => rfl⟩
  | raises => trivial

/-- A step keeps the snapshot or puts a newer one in its place. -/
theorem Move.cached (hm : Move s p s' p') (hk : p.Knows s) :
    s'.cached = s.cached ∨ p.inside = true ∧ s.cached.seen < s'.cached.seen := by
  cases hm with
  | stores => exact .inr ⟨rfl, hk.2⟩
  | _ => exact .inl rfl

theorem Move.lock (hm : Move s p s' p') : LockStep Pc.inside p s.locked p' s'.locked := by
  cases hm with
  | enters hfree =>
    rw [hfree]
    exact .enters rfl rfl
  | hits | stores | raises => exact .leaves rfl rfl
  | _ => exact .stays rfl

theorem Current.move (h : Current ⟨s, p ::ₘ T⟩) (hm : Move s p s' p') :
    Current ⟨s', p' ::ₘ T⟩ := by
  have hown : p.Knows s := h.knows p (Multiset.mem_cons_self p T)
  have hother {t : Pc} (ht : t ∈ T) : t.Knows s' := by
    refine (h.knows t (Multiset.mem_cons_of_mem ht)).mono hm.installed.ge
      (fun a _ => congrFun hm.content a) ?_
    rcases hm.cached hown with hsame | ⟨hin, hlt⟩
    · exact .inl hsame
    · exact .inr ⟨h.holder.others hin ht, hlt⟩
  have hknows : ∀ t ∈ p' ::ₘ T, t.Knows s' :=
    Multiset.forall_mem_cons.mpr ⟨hm.knows h.addressed hown, fun t ht => hother ht⟩
  refine ⟨h.addressed.move hm, h.holder.step hm.lock, hknows, ?_⟩
  -- A view that is returned now is the cached one, so every other one is older or the same.
  have hnew {since : Nat} {view : PyClusterState} (hp' : p' = .returned since view) :
      view = s'.cached := by
    cases hm with
    | hits | stores => cases hp'; rfl
    | _ => cases hp'
  intro since view since' view' hview hview' heq
  rcases Multiset.mem_cons.mp hview with hv | hv <;>
    rcases Multiset.mem_cons.mp hview' with hv' | hv'
  · exact (hnew hv.symm).trans (hnew hv'.symm).symm
  · have hsame := (hother hv').2.2
    rw [hnew hv.symm] at heq ⊢
    exact (hsame heq.symm).symm
  · have hsame := (hother hv).2.2
    rw [hnew hv'.symm] at heq ⊢
    exact hsame heq
  · exact h.one since view since' view' (Multiset.mem_cons_of_mem hv)
      (Multiset.mem_cons_of_mem hv') heq

theorem Current.arrive {k : Event} (h : Current ⟨s, T⟩) (ha : Arrival s k s' q) :
    Current ⟨s', (q : Multiset Pc) + T⟩ := by
  have haddressed := h.addressed.arrive ha
  have hkept {t : Pc} (ht : t ∈ T) : t.Knows s' := by
    have hknows := h.knows t ht
    cases ha with
    | install hm =>
      refine hknows.mono (Nat.le_succ _) (fun a hmem => ?_) (.inl rfl)
      exact h.addressed.counts.content_of_allocate hm (Config.mem_refs_thread ht hmem)
    | _ => exact hknows.mono le_rfl (fun _ _ => rfl) (.inl rfl)
  cases ha with
  | call =>
    refine ⟨haddressed, h.holder.cons rfl, ?_, ?_⟩
    · exact Multiset.forall_mem_cons.mpr ⟨le_rfl, fun t ht => hkept ht⟩
    · intro since view since' view' hview hview'
      refine h.one since view since' view' ?_ ?_
      · simpa using hview
      · simpa using hview'
  | _ =>
    simp only [Multiset.coe_nil, zero_add] at haddressed ⊢
    exact ⟨haddressed, h.holder, fun t ht => hkept ht, h.one⟩

theorem current_preserves : program.Preserves (fun _ _ => True) Current where
  thread _ h hs := by
    obtain ⟨p', rfl, hm⟩ := step_move hs
    exact h.move hm
  env _ h hs := h.arrive (env_arrival hs)

theorem current_connected (address : Nat) : Current (connected address) := by
  refine ⟨⟨?_, rfl, rfl, fun _ _ => le_rfl, ?_⟩, .zero, by simp [connected], by simp [connected]⟩
  · intro a
    by_cases ha : a = address
    · subst ha
      simp [connected, refs, Config.refs, Shared.held]
    · simp [connected, refs, Config.refs, Shared.held, ha]
  · intro a ha b hb _
    have hone {x : Nat} (hx : x ∈ refs (connected address)) : x = address := by
      simpa [connected, refs, Config.refs, Shared.held] using hx
    rw [hone ha, hone hb]

/-- A call returns a snapshot of a cluster state that the session had while the call ran,
wherever the allocator puts new cluster states; and there is one snapshot of each. -/
theorem cluster_state_is_current {address : Nat} {c : Config Shared Pc}
    (hr : program.Run (connected address) c) :
    (∀ since view, .returned since view ∈ c.threads →
      since ≤ view.seen ∧ view.seen ≤ c.shared.installed) ∧
    ∀ since view since' view', .returned since view ∈ c.threads →
      .returned since' view' ∈ c.threads → view.seen = view'.seen → view = view' := by
  have h := current_preserves.run (current_connected address) hr
  refine ⟨fun since view hview => ?_, h.one⟩
  obtain ⟨hsince, hseen, -⟩ := h.knows _ hview
  have hle := h.addressed.numbered c.shared.cached.inner
    (Config.mem_refs_shared (by simp [Shared.held]))
  rw [h.addressed.cached] at hle
  exact ⟨hsince, hseen.trans hle⟩

/-- The third cluster state is put where the first was, once its snapshot is gone. -/
theorem cluster_state_is_current_reused : ∃ c, program.Run (connected 10) c ∧
    .returned 2 ⟨2, 10, 2⟩ ∈ c.threads ∧ 2 ≤ c.shared.installed := by
  obtain ⟨memory, hrun⟩ : ∃ memory, program.Run (connected 10)
      ⟨⟨memory, 10, 2, ⟨2, 10, 2⟩, false, 3, {20}⟩,
        {.returned 2 ⟨2, 10, 2⟩, .returned 1 ⟨1, 20, 1⟩}⟩ :=
    ⟨_, Program.exec_run [.env (.install 20), .env .call, .thread (.called 1) .proceed,
      .thread (.locked 1) .proceed, .thread (.compare 1 20) .proceed,
      .thread (.refetch 1 20) .proceed, .thread (.build 1 20 20) .proceed, .env (.release 10),
      .env (.install 10), .env .call, .thread (.called 2) .proceed, .thread (.locked 2) .proceed,
      .thread (.compare 2 10) .proceed, .thread (.refetch 2 10) .proceed,
      .thread (.build 2 10 10) .proceed] rfl⟩
  have hview : Pc.returned 2 ⟨2, 10, 2⟩ ∈
      ({.returned 2 ⟨2, 10, 2⟩, .returned 1 ⟨1, 20, 1⟩} : Multiset Pc) := by simp
  exact ⟨_, hrun, hview, ((cluster_state_is_current hrun).1 2 ⟨2, 10, 2⟩ hview).2⟩

end ClusterSnapshots

end ScyllaDriver
