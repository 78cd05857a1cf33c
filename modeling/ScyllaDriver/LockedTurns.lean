import Mathlib.Tactic.Abel
import ScyllaDriver.LockedCalls

/-! Calls on a locked value take turns: one call holds the lock at a time, so what
the code of one call keeps between the value and the outcomes taken so far holds
in every interleaving, with calls dropped wherever they await. -/

namespace ScyllaDriver

variable {σ ε ω ρ : Type*}

/-- How far the calls on a value are: no fast section has ended yet, no call awaits
a reply, or the holder of the lock awaits one. -/
inductive Phase where
  | fresh
  | idle
  | awaiting

/-- The phase once a section has ended. -/
def Phase.after : Option ω → Phase
  | some _ => .idle
  | none => .awaiting

namespace LockedCode

/-- An invariant of the sequential code, between the value and the outcomes taken. -/
structure Keeps (L : LockedCode σ ε ω ρ) (allowed : σ → CallChoice ε → Prop)
    (J : Phase → σ → List ω → Prop) : Prop where
  first : ∀ {v taken}, J .fresh v taken → J .idle (L.fast v).1 (taken ++ (L.fast v).2.toList)
  fast : ∀ {v taken}, J .idle v taken → J .idle (L.fast v).1 (taken ++ (L.fast v).2.toList)
  enter : ∀ {v taken}, J .idle v taken →
    J (.after (L.enter v).2) (L.enter v).1 (taken ++ (L.enter v).2.toList)
  resume : ∀ {v taken e}, J .awaiting v taken → allowed v (.reply e) →
    J (.after (L.resume v e).2) (L.resume v e).1 (taken ++ (L.resume v e).2.toList)
  drop : ∀ {v taken}, J .awaiting v taken → allowed v .drop → J .idle v taken
  deliver : ∀ {phase v taken outcome}, J phase v taken → outcome ∈ taken →
    J phase (L.deliver v outcome) taken

/-- Replies and drops that a call awaiting a reply meets are allowed. -/
def answered (allowed : σ → CallChoice ε → Prop) (c : Config (LockedShared σ ω ρ) (Call ω)) :
    Label (Call ω) (CallChoice ε) Unit → Prop
  | .thread p choice => p.pc = .awaiting → allowed c.shared.value choice
  | .env _ => True

/-- Calls take turns, and the sequential invariant holds. -/
structure Turn (J : Phase → σ → List ω → Prop) (c : Config (LockedShared σ ω ρ) (Call ω))
    (phase : Phase) : Prop where
  holders : c.threads.countP (·.pc.holds) = c.shared.locked.toNat
  awaits : phase = .awaiting ↔ ∃ p ∈ c.threads, p.pc = .awaiting
  fresh : phase = .fresh → ∀ p ∈ c.threads,
    p.pc = .called ∨ p.pc = .fast ∨ p.pc = .waiting ∧ c.shared.locked = true
  kept : J phase c.shared.value c.shared.taken
  pending : (c.shared.taken : Multiset ω) =
    (c.shared.delivered : Multiset ω) + c.threads.filterMap Call.outcome

variable {L : LockedCode σ ε ω ρ} {allowed : σ → CallChoice ε → Prop}
  {J : Phase → σ → List ω → Prop} {s : LockedShared σ ω ρ} {T : Multiset (Call ω)}
  {p : Call ω} {phase : Phase}

theorem Turn.others (h : Turn J ⟨s, p ::ₘ T⟩ phase) (hp : p.pc.holds = true) :
    s.locked = true ∧ ∀ x ∈ T, x.pc.holds = false := by
  have hcount : T.countP (·.pc.holds) + 1 = s.locked.toNat := by
    simpa [Multiset.countP_cons, hp] using h.holders
  have hle : s.locked.toNat ≤ 1 := Bool.toNat_le s.locked
  have hzero : T.countP (·.pc.holds) = 0 := by omega
  refine ⟨Bool.toNat_eq_one.mp (by omega), fun x hx => ?_⟩
  simpa using Multiset.countP_eq_zero.mp hzero x hx

theorem Turn.not_awaiting (h : Turn J ⟨s, p ::ₘ T⟩ phase) (hp : p.pc.holds = true)
    (hpc : p.pc ≠ .awaiting) : phase ≠ .awaiting := by
  intro hphase
  obtain ⟨x, hx, hawaiting⟩ := h.awaits.mp hphase
  rcases Multiset.mem_cons.mp hx with rfl | hx
  · exact hpc hawaiting
  · have hfalse := (h.others hp).2 x hx
    simp [hawaiting] at hfalse

theorem Turn.outcome_mem {outcome : ω} (h : Turn J ⟨s, p ::ₘ T⟩ phase)
    (hp : p.outcome = some outcome) : outcome ∈ s.taken := by
  have hpending := h.pending
  rw [Multiset.filterMap_cons_some Call.outcome p T hp] at hpending
  rw [← Multiset.mem_coe, hpending]
  exact Multiset.mem_add.mpr (.inr (Multiset.mem_cons_self _ _))

/-- The holder leaves the lock, with an outcome or without one. -/
theorem Turn.leaves (h : Turn J ⟨s, p ::ₘ T⟩ phase) (hp : p.pc.holds = true) {v : σ}
    {outcome : Option ω} {q : List (Call ω)} (hq : ∀ x ∈ q, x.pc.holds = false)
    (hout : q.filterMap Call.outcome = outcome.toList)
    (hJ : J .idle v (s.taken ++ outcome.toList)) :
    Turn J ⟨s.release v outcome, (q : Multiset (Call ω)) + T⟩ .idle := by
  have hT := (h.others hp).2
  have hnone : ∀ x ∈ (q : Multiset (Call ω)) + T, x.pc.holds = false := by
    intro x hx
    rcases Multiset.mem_add.mp hx with hx | hx
    · exact hq x (Multiset.mem_coe.mp hx)
    · exact hT x hx
  refine ⟨?_, ?_, nofun, hJ, ?_⟩
  · exact Multiset.countP_eq_zero.mpr fun x hx => by simp [hnone x hx]
  · refine ⟨nofun, ?_⟩
    rintro ⟨x, hx, hawaiting⟩
    have hfalse := hnone x hx
    simp [hawaiting] at hfalse
  · have hpending := h.pending
    rw [Multiset.filterMap_cons_none p T (p.outcome_of_holds hp)] at hpending
    simp only [LockedShared.release, ← Multiset.coe_add, hpending, Multiset.filterMap_add,
      Multiset.filterMap_coe, hout]
    abel

theorem Turn.stays (h : Turn J ⟨s, p ::ₘ T⟩ phase) (hp : p.pc.holds = true) {v : σ}
    {late : Bool} (hJ : J .awaiting v s.taken) :
    Turn J ⟨{ s with value := v }, ([⟨late, .awaiting⟩] : List (Call ω)) + T⟩ .awaiting := by
  obtain ⟨hlocked, hT⟩ := h.others hp
  refine ⟨?_, ?_, nofun, hJ, ?_⟩
  · have hcount := h.holders
    simpa [Multiset.countP_cons, hp] using hcount
  · simp
  · have hpending := h.pending
    rw [Multiset.filterMap_cons_none p T (p.outcome_of_holds hp)] at hpending
    simpa [Multiset.filterMap_cons, Call.outcome] using hpending

theorem Turn.moves (h : Turn J ⟨s, p ::ₘ T⟩ phase) (hp : p.pc.holds = false)
    (hout : p.outcome = none) {locked : Bool} {q : List (Call ω)}
    (hcount : q.countP (·.pc.holds) + s.locked.toNat = locked.toNat)
    (hnone : q.filterMap Call.outcome = []) (hq : ∀ x ∈ q, x.pc ≠ .awaiting)
    (hfresh : phase = .fresh → ∀ x ∈ q,
      x.pc = .called ∨ x.pc = .fast ∨ x.pc = .waiting ∧ locked = true) :
    Turn J ⟨{ s with locked := locked }, (q : Multiset (Call ω)) + T⟩ phase := by
  refine ⟨?_, ?_, ?_, h.kept, ?_⟩
  · have hT : T.countP (·.pc.holds) = s.locked.toNat := by
      simpa [Multiset.countP_cons, hp] using h.holders
    simp only [Multiset.countP_add, Multiset.coe_countP, hT]
    simpa using hcount
  · rw [h.awaits]
    constructor
    · rintro ⟨x, hx, hawaiting⟩
      rcases Multiset.mem_cons.mp hx with rfl | hx
      · simp [hawaiting] at hp
      · exact ⟨x, Multiset.mem_add.mpr (.inr hx), hawaiting⟩
    · rintro ⟨x, hx, hawaiting⟩
      rcases Multiset.mem_add.mp hx with hx | hx
      · exact absurd hawaiting (hq x (Multiset.mem_coe.mp hx))
      · exact ⟨x, Multiset.mem_cons_of_mem hx, hawaiting⟩
  · intro hphase x hx
    rcases Multiset.mem_add.mp hx with hx | hx
    · exact hfresh hphase x (Multiset.mem_coe.mp hx)
    · rcases h.fresh hphase x (Multiset.mem_cons_of_mem hx) with hx | hx | ⟨hx, hlocked⟩
      · exact .inl hx
      · exact .inr (.inl hx)
      · have hlocked : s.locked = true := hlocked
        refine .inr (.inr ⟨hx, Bool.toNat_eq_one.mp (show locked.toNat = 1 from ?_)⟩)
        have hle : locked.toNat ≤ 1 := Bool.toNat_le locked
        simp only [hlocked, Bool.toNat_true] at hcount
        omega
  · have hpending := h.pending
    rw [Multiset.filterMap_cons_none p T hout] at hpending
    simp only [hpending, Multiset.filterMap_add, Multiset.filterMap_coe, hnone,
      Multiset.coe_nil, zero_add]

theorem Turn.delivers {late : Bool} {outcome : ω}
    (h : Turn J ⟨s, ⟨late, .deliver outcome⟩ ::ₘ T⟩ phase) {v : σ} {returned : List (Bool × ρ)}
    (hJ : J phase v s.taken) :
    Turn J ⟨{ s with
      value := v, delivered := s.delivered ++ [outcome], returned := returned }, T⟩ phase := by
  refine ⟨?_, ?_, ?_, hJ, ?_⟩
  · simpa [Multiset.countP_cons] using h.holders
  · simpa using h.awaits
  · intro hphase x hx
    exact h.fresh hphase x (Multiset.mem_cons_of_mem hx)
  · have hpending := h.pending
    rw [Multiset.filterMap_cons_some Call.outcome ⟨late, .deliver outcome⟩ T rfl] at hpending
    simp only [hpending, ← Multiset.coe_add, Multiset.coe_singleton, add_assoc,
      Multiset.singleton_add]

theorem Turn.called (h : Turn J ⟨s, T⟩ phase) {late : Bool} :
    Turn J ⟨s, ([⟨late, .called⟩] : List (Call ω)) + T⟩ phase := by
  refine ⟨?_, ?_, ?_, h.kept, ?_⟩
  · simpa [Multiset.countP_cons] using h.holders
  · simpa using h.awaits
  · intro hphase x hx
    rcases Multiset.mem_add.mp hx with hx | hx
    · exact .inl (by rw [List.mem_singleton.mp (Multiset.mem_coe.mp hx)])
    · exact h.fresh hphase x hx
  · simpa [Multiset.filterMap_cons, Call.outcome] using h.pending

theorem Keeps.thread (hL : L.Keeps allowed J) {choice : CallChoice ε} {s' : LockedShared σ ω ρ}
    {q : List (Call ω)} (hok : p.pc = .awaiting → allowed s.value choice)
    (h : Turn J ⟨s, p ::ₘ T⟩ phase) (hm : L.Move s p choice s' q) :
    ∃ phase, Turn J ⟨s', (q : Multiset (Call ω)) + T⟩ phase := by
  have hfast : p.pc = .fast →
      J .idle (L.fast s.value).1 (s.taken ++ (L.fast s.value).2.toList) := by
    intro hp
    have hphase := h.not_awaiting (by simp [hp]) (by simp [hp])
    cases phase with
    | fresh => exact hL.first h.kept
    | idle => exact hL.fast h.kept
    | awaiting => exact absurd rfl hphase
  have henter : p.pc = .entered →
      J (.after (L.enter s.value).2) (L.enter s.value).1 (s.taken ++ (L.enter s.value).2.toList) := by
    intro hp
    have hphase := h.not_awaiting (by simp [hp]) (by simp [hp])
    cases phase with
    | fresh =>
      have hfresh := h.fresh rfl p (Multiset.mem_cons_self p T)
      simp [hp] at hfresh
    | idle => exact hL.enter h.kept
    | awaiting => exact absurd rfl hphase
  have hresume : p.pc = .awaiting → J .awaiting s.value s.taken := by
    intro hp
    have hphase := h.awaits.mpr ⟨p, Multiset.mem_cons_self p T, hp⟩
    exact hphase ▸ h.kept
  cases hm with
  | contended hl =>
    exact ⟨phase, h.moves rfl rfl (by simp ) rfl (by simp) (by simp [hl])⟩
  | tries hl =>
    exact ⟨phase, h.moves rfl rfl (by simp [hl]) rfl (by simp) (by simp)⟩
  | fast ho =>
    have hJ := hfast rfl
    rw [ho] at hJ
    exact ⟨.idle, h.leaves rfl (by simp ) rfl hJ⟩
  | slow ho =>
    have hJ := hfast rfl
    rw [ho] at hJ
    exact ⟨.idle, h.leaves rfl (by simp ) rfl hJ⟩
  | locks hl =>
    refine ⟨phase, h.moves rfl rfl (by simp [hl]) rfl (by simp) ?_⟩
    intro hphase
    rcases h.fresh hphase _ (Multiset.mem_cons_self _ _) with hp | hp | ⟨-, hlocked⟩
    · cases hp
    · cases hp
    · rw [hl] at hlocked
      cases hlocked
  | dropsWaiting => exact ⟨phase, h.moves rfl rfl (by simp) rfl (by simp) (by simp)⟩
  | enters ho =>
    have hJ := henter rfl
    rw [ho] at hJ
    exact ⟨.idle, h.leaves rfl (by simp) rfl hJ⟩
  | awaits ho =>
    have hJ := henter rfl
    rw [ho, Option.toList_none, List.append_nil] at hJ
    exact ⟨.awaiting, h.stays rfl hJ⟩
  | resumes ho =>
    have hJ := hL.resume (hresume rfl) (hok rfl)
    rw [ho] at hJ
    exact ⟨.idle, h.leaves rfl (by simp) rfl hJ⟩
  | awaitsMore ho =>
    have hJ := hL.resume (hresume rfl) (hok rfl)
    rw [ho, Option.toList_none, List.append_nil] at hJ
    exact ⟨.awaiting, h.stays rfl hJ⟩
  | dropsAwaiting =>
    have hJ := hL.drop (hresume rfl) (hok rfl)
    have hleaves : Turn J ⟨s.release s.value none, (([] : List (Call ω)) : Multiset _) + T⟩ .idle :=
      h.leaves rfl (by simp) rfl (by simpa using hJ)
    simp only [LockedShared.release, Option.toList_none, List.append_nil] at hleaves
    exact ⟨.idle, hleaves⟩
  | delivers =>
    have hJ := hL.deliver h.kept (h.outcome_mem rfl)
    exact ⟨phase, by simpa using h.delivers hJ⟩

theorem Turn.init {value : σ} (h : J .fresh value []) :
    Turn J (init value : Config (LockedShared σ ω ρ) (Call ω)) .fresh :=
  ⟨rfl, by simp [LockedCode.init], by simp [LockedCode.init], h, rfl⟩

theorem Keeps.preserves (hL : L.Keeps allowed J) :
    L.program.Preserves (answered allowed) fun c => ∃ phase, Turn J c phase where
  thread hok h hs := by
    obtain ⟨phase, h⟩ := h
    exact hL.thread hok h (step_move hs)
  env _ h hs := by
    obtain ⟨phase, h⟩ := h
    cases hs
    exact ⟨phase, h.called⟩

/-- What the sequential code keeps holds in every interleaving. -/
theorem Keeps.run [DecidableEq ω] (hL : L.Keeps allowed J) {value : σ} (h : J .fresh value [])
    {c : Config (LockedShared σ ω ρ) (Call ω)}
    (hr : L.program.RunIn (answered allowed) (init value) c) : ∃ phase, Turn J c phase :=
  hL.preserves.run ⟨.fresh, .init h⟩ hr

end LockedCode

end ScyllaDriver
