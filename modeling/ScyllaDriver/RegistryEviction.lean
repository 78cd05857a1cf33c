import ScyllaDriver.BatcherRegistry

/-! The life of the loops against the registry: a loop that goes away takes its entry with it, so
that no entry is found under the address by the next loop. -/

namespace ScyllaDriver

namespace BatcherRegistry

/-- Everything that happens to loops. -/
inductive LoopMove (s : Shared) : Event → Shared → List Pc → Prop where
  | create {loop address} (h : s.phase loop = .unborn) :
      LoopMove s (.create loop address)
        { s with loops := Function.update s.loops loop ⟨address, .alive⟩ } []
  | batcherFor {loop} (h : s.phase loop = .alive) : LoopMove s (.batcherFor loop) s [.lookup loop]
  | drain {loop} (h : s.phase loop = .alive) : LoopMove s (.drain loop) s [.drain loop]
  | dealloc {loop} (h : s.phase loop = .alive) :
      LoopMove s (.dealloc loop) (s.setPhase loop (.dying (s.weakrefs loop))) []
  | callback {loop weak pending target} (h : s.phase loop = .dying pending) (hweak : weak ∈ pending)
      (htarget : s.weaks[weak]? = some target) :
      LoopMove s (.callback loop weak)
        { s.setPhase loop (.dying (pending.erase weak)) with
          batchersByKey := s.batchersByKey.erase target.key } []
  | free {loop} (h : s.phase loop = .dying []) : LoopMove s (.free loop) (s.setPhase loop .freed) []

theorem env_move {s s' : Shared} {k : Event} {q : List Pc} (h : env s k = some (s', q)) :
    LoopMove s k s' q := by
  cases k with
  | create loop address =>
    simp only [env] at h
    split at h <;> cases h
    rename_i hphase
    exact .create hphase
  | batcherFor loop =>
    simp only [env] at h
    split at h <;> cases h
    rename_i hphase
    exact .batcherFor hphase
  | drain loop =>
    simp only [env] at h
    split at h <;> cases h
    rename_i hphase
    exact .drain hphase
  | dealloc loop =>
    simp only [env] at h
    split at h <;> cases h
    rename_i hphase
    exact .dealloc hphase
  | callback loop weak =>
    simp only [env] at h
    split at h
    · rename_i pending target key hphase htarget
      split at h <;> cases h
      rename_i hweak
      exact .callback hphase hweak htarget
    · cases h
  | free loop =>
    simp only [env] at h
    split at h <;> cases h
    rename_i hphase
    exact .free hphase

@[simp]
theorem loopKey_setPhase (s : Shared) (loop loop' : Nat) (phase : Phase) :
    (s.setPhase loop phase).loopKey loop' = s.loopKey loop' := by
  by_cases h : loop' = loop
  · subst h
    simp [Shared.loopKey, Shared.setPhase]
  · simp [Shared.loopKey, Shared.setPhase, h]

@[simp]
theorem phase_setPhase_self (s : Shared) (loop : Nat) (phase : Phase) :
    (s.setPhase loop phase).phase loop = phase := by
  simp [Shared.phase, Shared.setPhase]

theorem phase_setPhase_of_ne (s : Shared) {loop loop' : Nat} (h : loop' ≠ loop) (phase : Phase) :
    (s.setPhase loop phase).phase loop' = s.phase loop' := by
  simp [Shared.phase, Shared.setPhase, h]

/-- A live loop that becomes another one's concern stays known. -/
theorem Pc.Knows.setPhase {s : Shared} {p : Pc} {loop : Nat} {phase : Phase} (hp : p.Knows s)
    (hholds : p.holds loop = false) (hphase : phase ≠ .unborn) (halive : phase ≠ .alive) :
    p.Knows (s.setPhase loop phase) := by
  have hne {loop' : Nat} (h : decide (loop' = loop) = false) : loop' ≠ loop := by simpa using h
  cases p with
  | lookup loop' | buildWeak loop' | drain loop' =>
    exact (phase_setPhase_of_ne s (hne hholds) phase).trans hp
  | buildBatcher loop' weak =>
    refine ⟨(phase_setPhase_of_ne s (hne hholds) phase).trans hp.1, ?_⟩
    rw [loopKey_setPhase]
    exact hp.2
  | insert loop' weak batcher =>
    refine ⟨(phase_setPhase_of_ne s (hne hholds) phase).trans hp.1, ?_, hp.2.2⟩
    rw [loopKey_setPhase]
    exact hp.2.1
  | dropWeak loop' weak batcher =>
    refine ⟨(phase_setPhase_of_ne s (hne hholds) phase).trans hp.1, hp.2.1, ?_⟩
    rw [Shared.Registered, loopKey_setPhase]
    exact hp.2.2
  | returned loop' batcher =>
    by_cases heq : loop' = loop
    · subst heq
      refine ⟨hp.1, ?_, ?_⟩
      · rw [phase_setPhase_self]
        exact hphase
      · rw [phase_setPhase_self]
        exact fun h => absurd h halive
    · refine ⟨hp.1, ?_, ?_⟩
      · rw [phase_setPhase_of_ne s heq]
        exact hp.2.1
      · rw [phase_setPhase_of_ne s heq, Shared.Registered, loopKey_setPhase]
        exact hp.2.2
  | drained loop' batcher => exact hp

theorem mem_weakrefs {s : Shared} {loop weak : Nat} :
    weak ∈ s.weakrefs loop ↔
      (∃ target, s.weaks[weak]? = some target ∧ target.target = loop) ∧ weak ∉ s.dropped := by
  simp only [Shared.weakrefs, List.mem_filter, List.mem_range, decide_eq_true_eq,
    Option.map_eq_some_iff]
  constructor
  · rintro ⟨_, htarget, hdropped⟩
    exact ⟨htarget, hdropped⟩
  · rintro ⟨⟨target, htarget, heq⟩, hdropped⟩
    exact ⟨(List.getElem?_eq_some_iff.mp htarget).1, ⟨target, htarget, heq⟩, hdropped⟩

/-- A loop that is born concerns no thread yet. -/
theorem Pc.Knows.create {s : Shared} {p : Pc} {loop : Nat} (hp : p.Knows s)
    (hunborn : s.phase loop = .unborn) (state : LoopState) :
    p.Knows { s with loops := Function.update s.loops loop state } := by
  have hloops {loop' : Nat} (h : s.phase loop' ≠ .unborn) :
      Function.update s.loops loop state loop' = s.loops loop' := by
    apply Function.update_of_ne
    rintro rfl
    exact h hunborn
  have hregistered {loop' batcher : Nat} (h : s.phase loop' ≠ .unborn) :
      Shared.Registered { s with loops := Function.update s.loops loop state } loop' batcher ↔
        s.Registered loop' batcher := by
    have hkey : Shared.loopKey { s with loops := Function.update s.loops loop state } loop' =
        s.loopKey loop' := congrArg LoopState.address (hloops h)
    rw [Shared.Registered, hkey, Shared.Registered]
  cases p with
  | lookup loop' | buildWeak loop' | drain loop' =>
    simpa only [Pc.Knows, Shared.phase, hloops (ne_unborn hp)] using hp
  | buildBatcher loop' weak | insert loop' weak batcher =>
    simpa only [Pc.Knows, Shared.phase, Shared.loopKey, hloops (ne_unborn hp.1)] using hp
  | dropWeak loop' weak batcher =>
    have hborn := ne_unborn hp.1
    simpa only [Pc.Knows, Shared.phase, hregistered hborn, hloops hborn] using hp
  | returned loop' batcher =>
    have hborn := hp.2.1
    simpa only [Pc.Knows, Shared.phase, hregistered hborn, hloops hborn] using hp
  | drained loop' batcher => exact hp

theorem Pc.Knows.erase {s : Shared} {p : Pc} {key : Nat} (hp : p.Knows s)
    (hkey : ∀ loop, s.phase loop = .alive → s.loopKey loop ≠ key) :
    p.Knows { s with batchersByKey := s.batchersByKey.erase key } := by
  have hregistered {loop batcher : Nat} (halive : s.phase loop = .alive)
      (h : s.Registered loop batcher) :
      Shared.Registered { s with batchersByKey := s.batchersByKey.erase key } loop batcher := by
    obtain ⟨registration, hlookup, hbatcher⟩ := h
    exact ⟨registration, (AList.lookup_erase_ne (hkey loop halive)).trans hlookup, hbatcher⟩
  cases p with
  | dropWeak loop weak batcher => exact ⟨hp.1, hp.2.1, hregistered hp.1 hp.2.2⟩
  | returned loop batcher =>
    exact ⟨hp.1, hp.2.1, fun halive => hregistered halive (hp.2.2 halive)⟩
  | _ => exact hp

theorem owned_erase_le (s : Shared) (key : Nat) (T : Multiset Pc) :
    owned { s with batchersByKey := s.batchersByKey.erase key } T ≤ owned s T := by
  have hsublist : (s.batchersByKey.erase key).entries.Sublist s.batchersByKey.entries :=
    List.kerase_sublist key _
  have hle := Multiset.coe_le.mpr (hsublist.map fun entry => entry.2.weak).subperm
  exact Multiset.add_le_add_right (Multiset.add_le_add_left hle)

section Loops

variable {s : Shared} {T : Multiset Pc}

theorem Shared.Entry.occupies {key : Nat} {registration : Registration}
    (h : s.Entry key registration) : ∃ loop, s.batchers[registration.batcher]? = some loop ∧
      s.loopKey loop = key ∧ (s.phase loop).occupies = true := by
  obtain ⟨loop, hbatcher, _, hkey, hphase⟩ := h
  refine ⟨loop, hbatcher, hkey, ?_⟩
  rcases hphase with hphase | ⟨pending, hphase, _⟩ <;> rw [hphase] <;> rfl

theorem Sound.create (h : Sound ⟨s, T⟩) {loop address : Nat} (hunborn : s.phase loop = .unborn)
    (hfree : ∀ loop', (s.phase loop').occupies = true → s.loopKey loop' ≠ address) :
    Sound ⟨{ s with loops := Function.update s.loops loop ⟨address, .alive⟩ }, T⟩ := by
  have hloops {loop' : Nat} (hne : loop' ≠ loop) :
      Function.update s.loops loop ⟨address, .alive⟩ loop' = s.loops loop' :=
    Function.update_of_ne hne _ _
  have hborn {loop' : Nat} (h : s.phase loop' ≠ .unborn) : loop' ≠ loop :=
    fun heq => h (heq ▸ hunborn)
  refine ⟨?_, ?_, ?_, ?_, fun p hp => (h.knows p hp).create hunborn _, h.same, h.owners, h.bound⟩
  · intro loop₁ loop₂
    by_cases h₁ : loop₁ = loop <;> by_cases h₂ : loop₂ = loop
    · intros
      rw [h₁, h₂]
    · subst h₁
      simp only [Shared.phase, Shared.loopKey, hloops h₂, Function.update_self]
      exact fun _ hoccupies hkey => absurd hkey.symm (hfree loop₂ hoccupies)
    · subst h₂
      simp only [Shared.phase, Shared.loopKey, hloops h₁, Function.update_self]
      exact fun hoccupies _ hkey => absurd hkey (hfree loop₁ hoccupies)
    · simp only [Shared.phase, Shared.loopKey, hloops h₁, hloops h₂]
      exact h.occupied loop₁ loop₂
  · intro key registration hlookup
    obtain ⟨loop', hbatcher, hweak, hkey, hphase⟩ := h.entry key registration hlookup
    have hne : loop' ≠ loop := by
      apply hborn
      rcases hphase with hphase | ⟨pending, hphase, _⟩ <;> rw [hphase] <;> exact Phase.noConfusion
    refine ⟨loop', hbatcher, hweak, ?_, ?_⟩
    · simpa only [Shared.loopKey, hloops hne] using hkey
    · simpa only [Shared.phase, hloops hne] using hphase
  · intro loop' pending hphase weak hweak
    by_cases heq : loop' = loop
    · subst heq
      simp [Shared.phase] at hphase
    · simp only [Shared.phase, Shared.loopKey, hloops heq] at hphase ⊢
      exact h.pending loop' pending hphase weak hweak
  · intro weak target htarget
    obtain ⟨hkey, hphase⟩ := h.keys weak target htarget
    simp only [Shared.phase, Shared.loopKey, hloops (hborn hphase)]
    exact ⟨hkey, hphase⟩

theorem Sound.start (h : Sound ⟨s, T⟩) {p : Pc} (hp : p.Knows s) (hweak : p.weak = 0)
    (hreturned : ∀ loop batcher, p ≠ .returned loop batcher) : Sound ⟨s, ([p] : List Pc) + T⟩ := by
  have hcons : (([p] : List Pc) : Multiset Pc) + T = p ::ₘ T := by simp
  have howned : owned s (p ::ₘ T) = owned s T := by rw [owned_cons, hweak, Multiset.zero_add]
  rw [hcons]
  refine ⟨h.occupied, h.entry, h.pending, h.keys, ?_, ?_, ?_, ?_⟩
  · exact Multiset.forall_mem_cons.mpr ⟨hp, h.knows⟩
  · intro loop b b' hb hb'
    have hT {b : Nat} (hb : .returned loop b ∈ p ::ₘ T) : .returned loop b ∈ T :=
      (Multiset.mem_cons.mp hb).resolve_left fun heq => hreturned loop b heq.symm
    exact h.same loop b b' (hT hb) (hT hb')
  · exact howned ▸ h.owners
  · exact howned ▸ h.bound

/-- A loop that moves on from life to death; `hentry` is about its own entry. -/
theorem Sound.setPhase (h : Sound ⟨s, T⟩) {loop : Nat} {phase : Phase}
    (hoccupied : phase.occupies = true → (s.phase loop).occupies = true)
    (hunborn : phase ≠ .unborn) (halive : phase ≠ .alive)
    (hholds : ∀ p ∈ T, p.holds loop = false)
    (hpending : ∀ pending, phase = .dying pending → ∀ weak ∈ pending,
      s.weaks[weak]? = some ⟨loop, s.loopKey loop⟩)
    (hentry : ∀ registration, s.batchersByKey.lookup (s.loopKey loop) = some registration →
      s.weaks[registration.weak]? = some ⟨loop, s.loopKey loop⟩ →
      ∃ pending, phase = .dying pending ∧ registration.weak ∈ pending) :
    Sound ⟨s.setPhase loop phase, T⟩ := by
  refine ⟨?_, ?_, ?_, ?_,
    fun p hp => (h.knows p hp).setPhase (hholds p hp) hunborn halive, h.same, h.owners, h.bound⟩
  · have hback {loop' : Nat} (h' : ((s.setPhase loop phase).phase loop').occupies = true) :
        (s.phase loop').occupies = true := by
      by_cases heq : loop' = loop
      · subst heq
        rw [phase_setPhase_self] at h'
        exact hoccupied h'
      · rwa [phase_setPhase_of_ne s heq] at h'
    intro loop₁ loop₂ h₁ h₂ hkey
    simp only [loopKey_setPhase] at hkey
    exact h.occupied loop₁ loop₂ (hback h₁) (hback h₂) hkey
  · intro key registration hlookup
    obtain ⟨loop', hbatcher, hweak, hkey, hphase⟩ := h.entry key registration hlookup
    refine ⟨loop', hbatcher, hweak, (loopKey_setPhase s loop loop' phase).trans hkey, ?_⟩
    by_cases heq : loop' = loop
    · subst heq hkey
      rw [phase_setPhase_self]
      exact .inr (hentry registration hlookup hweak)
    · rwa [phase_setPhase_of_ne s heq]
  · intro loop' pending hphase weak hweak
    rw [loopKey_setPhase]
    by_cases heq : loop' = loop
    · subst heq
      rw [phase_setPhase_self] at hphase
      exact hpending pending hphase weak hweak
    · rw [phase_setPhase_of_ne s heq] at hphase
      exact h.pending loop' pending hphase weak hweak
  · intro weak target htarget
    obtain ⟨hkey, hphase⟩ := h.keys weak target htarget
    refine ⟨(loopKey_setPhase s loop _ phase).trans hkey, ?_⟩
    by_cases heq : target.target = loop
    · rw [heq, phase_setPhase_self]
      exact hunborn
    · rwa [phase_setPhase_of_ne s heq]

theorem Sound.dealloc (h : Sound ⟨s, T⟩) {loop : Nat} (halive : s.phase loop = .alive)
    (hholds : ∀ p ∈ T, p.holds loop = false) :
    Sound ⟨s.setPhase loop (.dying (s.weakrefs loop)), T⟩ := by
  refine h.setPhase (fun _ => by rw [halive]; rfl) Phase.noConfusion Phase.noConfusion hholds ?_ ?_
  · rintro pending hpending weak hweak
    obtain rfl := Phase.dying.inj hpending
    obtain ⟨⟨target, htarget, rfl⟩, _⟩ := mem_weakrefs.mp hweak
    rw [htarget, (h.keys weak target htarget).1]
  · intro registration hlookup hweak
    have hlive := notMem_dropped h.owners hlookup
    exact ⟨_, rfl, mem_weakrefs.mpr ⟨⟨_, hweak, rfl⟩, hlive⟩⟩

theorem holds_eq_false_of_dying {p : Pc} {loop : Nat} (hp : p.Knows s)
    (hdying : s.phase loop ≠ .alive) : p.holds loop = false := by
  have hne {loop' : Nat} (halive : s.phase loop' = .alive) : decide (loop' = loop) = false := by
    apply decide_eq_false
    rintro rfl
    exact hdying halive
  cases p with
  | lookup loop' | buildWeak loop' | drain loop' => exact hne hp
  | buildBatcher loop' weak | insert loop' weak batcher | dropWeak loop' weak batcher =>
    exact hne hp.1
  | returned loop' batcher | drained loop' batcher => rfl

theorem Sound.free (h : Sound ⟨s, T⟩) {loop : Nat} (hphase : s.phase loop = .dying []) :
    Sound ⟨s.setPhase loop .freed, T⟩ := by
  have hdying : s.phase loop ≠ .alive := by
    rw [hphase]
    exact Phase.noConfusion
  refine h.setPhase (fun hfreed => by cases hfreed) Phase.noConfusion Phase.noConfusion
    (fun p hp => holds_eq_false_of_dying (h.knows p hp) hdying) (fun _ hpending => by cases hpending) ?_
  -- The entry of the loop would have its weakref among the pending ones.
  intro registration hlookup hweak
  obtain ⟨loop', _, hweak', _, hphase'⟩ := h.entry _ _ hlookup
  obtain rfl : loop' = loop := by simpa [hweak] using hweak'.symm
  rcases hphase' with hphase' | ⟨pending, hphase', hmem⟩
  · exact absurd hphase' hdying
  · rw [hphase] at hphase'
    obtain rfl := Phase.dying.inj hphase'
    cases hmem

/-- The weakrefs of a dying loop remove what is at the address of this loop. -/
theorem Sound.callback (h : Sound ⟨s, T⟩) {loop weak : Nat} {pending : List Nat} {target : Weak}
    (hphase : s.phase loop = .dying pending) (hweak : weak ∈ pending)
    (htarget : s.weaks[weak]? = some target) :
    Sound ⟨{ s.setPhase loop (.dying (pending.erase weak)) with
      batchersByKey := s.batchersByKey.erase target.key }, T⟩ := by
  obtain rfl : target = ⟨loop, s.loopKey loop⟩ :=
    Option.some.inj (htarget.symm.trans (h.pending loop pending hphase weak hweak))
  have hdying : s.phase loop ≠ .alive := by
    rw [hphase]
    exact Phase.noConfusion
  have hoccupies : (s.phase loop).occupies = true := by
    rw [hphase]
    rfl
  have herase : ∀ registration, (s.batchersByKey.erase (s.loopKey loop)).lookup (s.loopKey loop) =
      some registration → False := by
    intro registration hlookup
    rw [AList.lookup_erase] at hlookup
    cases hlookup
  have herased : Sound ⟨{ s with batchersByKey := s.batchersByKey.erase (s.loopKey loop) }, T⟩ := by
    refine ⟨h.occupied, ?_, h.pending, h.keys, ?_, h.same, ?_, ?_⟩
    · intro key registration hlookup
      have hne : key ≠ s.loopKey loop := by
        rintro rfl
        exact herase registration hlookup
      rw [AList.lookup_erase_ne hne] at hlookup
      exact h.entry key registration hlookup
    · intro p hp
      refine (h.knows p hp).erase fun loop' halive hkey => ?_
      have heq : loop' = loop := h.occupied loop' loop (by rw [halive]; rfl) hoccupies hkey
      exact hdying (heq ▸ halive)
    · exact Multiset.nodup_of_le (owned_erase_le s _ T) h.owners
    · exact fun weak hmem => h.bound weak (Multiset.mem_of_le (owned_erase_le s _ T) hmem)
  refine herased.setPhase (fun _ => hoccupies) Phase.noConfusion Phase.noConfusion
    (fun p hp => holds_eq_false_of_dying (h.knows p hp) hdying) ?_ ?_
  · rintro pending' hpending' weak' hweak'
    obtain rfl := Phase.dying.inj hpending'
    exact h.pending loop pending hphase weak' (List.mem_of_mem_erase hweak')
  · exact fun registration hlookup => (herase registration hlookup).elim

theorem Sound.env (h : Sound ⟨s, T⟩) {k : Event} {s' : Shared} {q : List Pc}
    (hok : Allowed ⟨s, T⟩ (.env k)) (hmove : LoopMove s k s' q) : Sound ⟨s', q + T⟩ := by
  cases hmove with
  | create hunborn =>
    rw [Multiset.coe_nil, Multiset.zero_add]
    exact h.create hunborn hok
  | batcherFor halive => exact h.start halive rfl fun _ _ => Pc.noConfusion
  | drain halive => exact h.start halive rfl fun _ _ => Pc.noConfusion
  | dealloc halive =>
    rw [Multiset.coe_nil, Multiset.zero_add]
    exact h.dealloc halive hok
  | callback hphase hweak htarget =>
    rw [Multiset.coe_nil, Multiset.zero_add]
    exact h.callback hphase hweak htarget
  | free hphase =>
    rw [Multiset.coe_nil, Multiset.zero_add]
    exact h.free hphase

end Loops

theorem sound_preserved : program.Preserves Allowed Sound where
  thread _ h hs := h.thread (step_move hs)
  env hok h hs := h.env hok (env_move hs)

theorem sound_init : Sound init := by
  have hphase (loop : Nat) : init.shared.phase loop = .unborn := rfl
  refine ⟨?_, ?_, ?_, ?_, ?_, ?_, ?_, ?_⟩
  · intro loop loop' hoccupies
    rw [hphase] at hoccupies
    cases hoccupies
  · intro key registration hlookup
    cases hlookup
  · intro loop pending hdying
    rw [hphase] at hdying
    cases hdying
  · intro weak target htarget
    cases htarget
  · exact fun p hp => absurd hp (Multiset.notMem_zero p)
  · exact fun loop batcher batcher' hp => absurd hp (Multiset.notMem_zero _)
  · exact Multiset.nodup_zero
  · exact fun weak hweak => absurd hweak (Multiset.notMem_zero weak)

theorem Sound.evicts {c d : Config Shared Pc} (h : Sound c) {l : Label Pc Built Event}
    (hn : program.next c l = some d) {key : Nat} {registration : Registration}
    (hlookup : c.shared.batchersByKey.lookup key = some registration)
    (hgone : d.shared.batchersByKey.lookup key ≠ some registration) :
    ∃ loop weak, l = .env (.callback loop weak) ∧
      c.shared.batchers[registration.batcher]? = some loop := by
  rcases Program.next_cases hn with ⟨p, e, T, s', q, rfl, hc, hs, rfl⟩ | ⟨k, s', q, rfl, hs, rfl⟩
  · exact absurd ((step_move hs).keeps.entries key registration hlookup) hgone
  · cases env_move hs with
    | @callback loop weak pending target hphase hweak htarget =>
      have htarget' := htarget.symm.trans (h.pending loop pending hphase weak hweak)
      obtain rfl := Option.some.inj htarget'
      have hkey : key = c.shared.loopKey loop := by
        by_contra hne
        exact hgone ((AList.lookup_erase_ne hne).trans hlookup)
      obtain ⟨loop', hbatcher, hkey', hoccupies⟩ := (h.entry key registration hlookup).occupies
      have heq : loop' = loop :=
        h.occupied loop' loop hoccupies (by rw [hphase]; rfl) (hkey'.trans hkey)
      exact ⟨loop, weak, rfl, heq ▸ hbatcher⟩
    | _ => exact absurd hlookup hgone

/-- The registry confuses no two loops. -/
structure Unconfused (c : Config Shared Pc) : Prop where
  built : ∀ loop batcher, .returned loop batcher ∈ c.threads →
    c.shared.batchers[batcher]? = some loop
  drained : ∀ loop batcher, .drained loop (some batcher) ∈ c.threads →
    c.shared.batchers[batcher]? = some loop
  same : ∀ loop batcher batcher', .returned loop batcher ∈ c.threads →
    .returned loop batcher' ∈ c.threads → batcher = batcher'
  registered : ∀ loop batcher, .returned loop batcher ∈ c.threads → c.shared.phase loop = .alive →
    c.shared.Registered loop batcher
  /-- No entry is that of a deallocated loop. -/
  live : ∀ key registration, c.shared.batchersByKey.lookup key = some registration →
    ∃ loop, c.shared.batchers[registration.batcher]? = some loop ∧ c.shared.loopKey loop = key ∧
      c.shared.phase loop ≠ .unborn ∧ c.shared.phase loop ≠ .freed
  /-- An entry goes away in the callback of its own loop alone. -/
  evicts : ∀ l d, program.next c l = some d → ∀ key registration,
    c.shared.batchersByKey.lookup key = some registration →
    d.shared.batchersByKey.lookup key ≠ some registration →
    ∃ loop weak, l = .env (.callback loop weak) ∧
      c.shared.batchers[registration.batcher]? = some loop

theorem registry_unconfused {c : Config Shared Pc} (hr : program.RunIn Allowed init c) :
    Unconfused c := by
  have h : Sound c := sound_preserved.run sound_init hr
  refine ⟨?_, ?_, h.same, ?_, ?_, fun l d hn key registration => h.evicts hn⟩
  · exact fun loop batcher hp => (h.knows _ hp).1
  · exact fun loop batcher hp => h.knows _ hp batcher rfl
  · exact fun loop batcher hp => (h.knows _ hp).2.2
  · intro key registration hlookup
    obtain ⟨loop, hbatcher, hkey, hoccupies⟩ := (h.entry key registration hlookup).occupies
    refine ⟨loop, hbatcher, hkey, ?_, ?_⟩ <;>
    · intro hphase
      rw [hphase] at hoccupies
      cases hoccupies

/-- Two threads race for the batcher of loop 0; loop 1 then gets the address of loop 0. -/
theorem registry_unconfused_reused_address : ∃ c, program.RunIn Allowed init c ∧
    .returned 0 0 ∈ c.threads ∧ .returned 1 2 ∈ c.threads ∧
    c.shared.loopKey 0 = c.shared.loopKey 1 ∧ Unconfused c := by
  have hcreate : program.StepIn Allowed init _ :=
    ⟨.env (.create 0 7), (fun loop h => nomatch h), rfl⟩
  have hrace : program.RunIn Allowed init
      ⟨⟨Function.update init.shared.loops 0 ⟨7, .alive⟩, [⟨0, 7⟩, ⟨0, 7⟩], [0], [0, 0],
        AList.singleton 7 ⟨1, 0⟩⟩, {.returned 0 0, .returned 0 0}⟩ :=
    (Relation.ReflTransGen.single hcreate).trans <| program.exec_runIn
      [.env (.batcherFor 0), .env (.batcherFor 0), .thread (.lookup 0) .ok, .thread (.lookup 0) .ok,
        .thread (.buildWeak 0) .ok, .thread (.buildWeak 0) .ok, .thread (.buildBatcher 0 1) .ok,
        .thread (.buildBatcher 0 0) .ok, .thread (.insert 0 1 0) .ok, .thread (.insert 0 0 1) .ok,
        .thread (.dropWeak 0 0 0) .ok] (by simp [Allowed]) rfl
  have hdealloc := hrace.tail ⟨.env (.dealloc 0), (by simp [Allowed, Pc.holds]), rfl⟩
  have hfree := hdealloc.trans <| program.exec_runIn [.env (.callback 0 1), .env (.free 0)]
    (by simp [Allowed]) rfl
  have hreuse := hfree.tail ⟨.env (.create 1 7), (fun loop h => by cases loop <;> cases h), rfl⟩
  have hsecond := hreuse.trans <| program.exec_runIn
    [.env (.batcherFor 1), .thread (.lookup 1) .ok, .thread (.buildWeak 1) .ok,
      .thread (.buildBatcher 1 2) .ok, .thread (.insert 1 2 2) .ok] (by simp [Allowed]) rfl
  exact ⟨_, hsecond, by decide, by decide, rfl, registry_unconfused hsecond⟩

end BatcherRegistry

end ScyllaDriver
