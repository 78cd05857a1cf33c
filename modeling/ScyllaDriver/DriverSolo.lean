import Mathlib.Algebra.Ring.Nat
import ScyllaDriver.DriverAwaiters

/-! One task awaiting a `DriverFuture` never misses its wakeup. With a single
task the slot is parked only while that task waits, so none of its steps loses
a parked future. -/

namespace ScyllaDriver

/-- Nobody else awaits the future, throws into it or cancels what the task
waits on, and the runtime and the loop stay up. -/
def Solo (c : Config DriverShared DriverPc) (l : Label DriverPc Choice DriverEvent) : Prop :=
  l ≠ .env .shutdown ∧ l ≠ .env (.batcher (.env .closeLoop)) ∧ l ≠ .env (.call .next) ∧
    (∀ exc, l ≠ .env (.call (.throw exc))) ∧
    ∀ f ∈ c.shared.handed, l ≠ .env (.batcher (.env (.cancelFuture f)))

/-- The positions of an awaiting task. -/
def DriverPc.tasks : DriverPc → Nat
  | .call .next | .call (.throw _) | .reset _ | .poll _ | .park _ | .store _ _
  | .convert .next _ | .yieldAsyncio | .suspended _ => 1
  | _ => 0

structure SoloInv (st : FutureState) (c : Config DriverShared DriverPc) : Prop where
  single : (c.threads.map DriverPc.tasks).sum ≤ 1
  fresh : ∀ f, f ∈ c.shared.handed ∨ InTransit c f ∨
    c.shared.batcher.shared.status f ≠ .pending → f < c.shared.nextFuture
  parked : ∀ f, c.shared.waker = some (.parked f) → c.shared.Parked f ∧ f ∈ c.shared.handed ∧
    ¬ InTransit c f ∧ ∃ p ∈ c.threads, p.awaits = some f
  made : c.shared.waker = none →
    (∀ cbs, st ≠ .pendingTokio cbs) ∧ .yieldAsyncio ∉ c.threads
  yielding : .yieldAsyncio ∈ c.threads → ∀ rr, st = .ready rr →
    c.shared.waker = some .woken ∨ WakePending c

theorem DriverPc.tasks_of_awaits {p : DriverPc} {f : AioFuture} (h : p.awaits = some f) :
    p.tasks = 1 := by
  cases p <;> first | rfl | cases h

theorem le_sum_tasks {T : Multiset DriverPc} {p : DriverPc} (h : p ∈ T) :
    p.tasks ≤ (T.map DriverPc.tasks).sum := by
  rw [← Multiset.cons_erase h, Multiset.map_cons, Multiset.sum_cons]
  omega

theorem tasks_suspend (value : Except PyErr (Option AioFuture)) :
    ((suspend value).map DriverPc.tasks).sum ≤ 1 := by
  cases value <;> simp [suspend, DriverPc.tasks]

theorem DriverPc.tasks_reader {p : DriverPc} {reader : Reader} {resolved : ResolvedResult}
    (h : p.reader = some reader) : (DriverPc.convert reader resolved).tasks = p.tasks := by
  cases p with
  | call entry => cases entry <;> cases h <;> rfl
  | readReady => cases h; rfl
  | fireAndNotify cbs n => cases cbs <;> cases h; rfl
  | _ => cases h

section Moves

variable {s s' : DriverShared} {p : DriverPc} {q : List DriverPc} {T : Multiset DriverPc}
  {st : FutureState}

theorem DriverMove.tasks (h : DriverMove s p s' q) : (q.map DriverPc.tasks).sum ≤ p.tasks := by
  cases h with
  | skip hl h => cases h <;> simp [DriverPc.tasks]
  | readUnconverted hl hr hs => simp [DriverPc.tasks_reader hr]
  | store | yieldAsyncio => exact tasks_suspend _
  | resolveFinished => split <;> simp [DriverPc.tasks]
  | _ => simp [DriverPc.tasks]

theorem SoloInv.single_move (h : SoloInv st ⟨s, p ::ₘ T⟩) (hm : DriverMove s p s' q) :
    (((q : Multiset DriverPc) + T).map DriverPc.tasks).sum ≤ 1 := by
  have hs := h.single
  have ht := hm.tasks
  simp only [Multiset.map_cons, Multiset.sum_cons] at hs
  simp only [Multiset.map_add, Multiset.sum_add, Multiset.map_coe, Multiset.sum_coe]
  omega

theorem SoloInv.alone (h : SoloInv st ⟨s, p ::ₘ T⟩) {r : DriverPc} (hr : r ∈ T)
    (hrt : r.tasks = 1) : p.tasks = 0 := by
  have hs := h.single
  have hle := le_sum_tasks hr
  simp only [Multiset.map_cons, Multiset.sum_cons] at hs
  omega

/-- While the task does something else than wait, the slot is not parked. -/
theorem SoloInv.not_parked (h : SoloInv st ⟨s, T⟩) (hp : p ∈ T) (hpt : p.tasks = 1)
    (hpa : p.awaits = none) (f : AioFuture) : s.waker ≠ some (.parked f) := by
  intro hf
  obtain ⟨-, -, -, r, hr, hra⟩ := h.parked f hf
  obtain ⟨U, rfl⟩ := Multiset.exists_cons_of_mem hp
  rcases Multiset.mem_cons.mp hr with rfl | hr
  · cases hra.symm.trans hpa
  · have := h.alone hr (DriverPc.tasks_of_awaits hra)
    omega

theorem push_notMem_acts (reader : Reader) (r : PyResult) (f : AioFuture) :
    .push f ∉ reader.acts r := by
  cases reader <;> simp [Reader.acts]

theorem push_mem_act {a : Act} {f : AioFuture} (h : .push f ∈ (s.act a).2) :
    s.waker = some (.parked f) ∧ (s.act a).1.waker = some .idle := by
  cases a with
  | wake | wakeByRef =>
    cases hw : s.waker with
    | none => simp [DriverShared.act, hw] at h
    | some slot => cases slot <;> simp_all [DriverShared.act, WakerSlot.takeParked]
  | _ => simp [DriverShared.act] at h

theorem DriverMove.pushes {f : AioFuture} {acts : List Act} (hm : DriverMove s p s' q)
    (hr : .run acts ∈ q) (hf : .push f ∈ acts) :
    (∃ acts', p = .run acts' ∧ .push f ∈ acts') ∨
      s.waker = some (.parked f) ∧ s'.waker = some .idle := by
  cases hm with
  | @act a acts' =>
    cases List.mem_singleton.mp hr
    rcases List.mem_append.mp hf with hf | hf
    · exact .inr (push_mem_act hf)
    · exact .inl ⟨a :: acts', rfl, List.mem_cons_of_mem a hf⟩
  | readConverted | convert =>
    cases List.mem_singleton.mp hr
    exact absurd hf (push_notMem_acts _ _ f)
  | skip hl h => cases h <;> simp at hr
  | store | yieldAsyncio => unfold suspend at hr; split at hr <;> simp at hr
  | resolveFinished =>
    rw [List.mem_singleton] at hr
    split at hr <;> cases hr
  | closeAsyncio =>
    cases List.mem_singleton.mp hr
    split at hf <;> simp at hf
  | throwTokio | closeTokio | fireNone | readReadyPending | pollPanicked =>
    cases List.mem_singleton.mp hr
    simp at hf
  | _ => simp at hr

theorem InTransit.of_move {f : AioFuture} (h : InTransit ⟨s', (q : Multiset DriverPc) + T⟩ f)
    (hm : DriverMove s p s' q) :
    InTransit ⟨s, p ::ₘ T⟩ f ∨ s.waker = some (.parked f) ∧ s'.waker = some .idle := by
  rcases h with ⟨acts, hr, hf⟩ | h
  · rcases Multiset.mem_add.mp hr with hq | hT
    · rcases hm.pushes (Multiset.mem_coe.mp hq) hf with ⟨acts', rfl, hf'⟩ | hw
      · exact .inl (.inl ⟨acts', Multiset.mem_cons_self _ _, hf'⟩)
      · exact .inr hw
    · exact .inl (.inl ⟨acts, Multiset.mem_cons_of_mem hT, hf⟩)
  · rcases hm.batcher with hb | ⟨g, acts, rfl, -, hb⟩
    · exact .inl (.inr (by rwa [← hb]))
    · rw [hb] at h
      rcases h with h | h
      · rcases Multiset.mem_cons.mp h with he | h
        · cases he
          exact .inl (.inl ⟨_, Multiset.mem_cons_self _ _, List.mem_cons_self⟩)
        · exact .inl (.inr (.inl h))
      · exact .inl (.inr (.inr h))

theorem DriverMove.nextFuture (h : DriverMove s p s' q) : s.nextFuture ≤ s'.nextFuture := by
  cases h with
  | act => rw [act_frame]
  | park | yieldAsyncio => exact Nat.le_succ _
  | _ => exact Nat.le_refl _

theorem Yielded.handed_cases {value : Except PyErr (Option AioFuture)} {f : AioFuture}
    (h : Yielded s s' value) (hf : f ∈ s'.handed) :
    f ∈ s.handed ∨ s.waker = some (.parked f) ∨ f < s'.nextFuture := by
  cases h with
  | woken hs hw hh | failed hw hh => exact .inl (hh ▸ hf)
  | again hs hg hw hh =>
    rcases List.mem_append.mp (hh ▸ hf) with hf | hf
    · exact .inl hf
    · exact .inr (.inl (by rwa [List.mem_singleton.mp hf]))
  | fresh hs hne hg hw hh =>
    rcases List.mem_append.mp (hh ▸ hf) with hf | hf
    · exact .inl hf
    · rw [List.mem_singleton.mp hf, hg.2]
      exact .inr (.inr (Nat.lt_succ_self _))

theorem SoloInv.fresh_move (h : SoloInv st ⟨s, p ::ₘ T⟩) (hm : DriverMove s p s' q) :
    ∀ f, f ∈ s'.handed ∨ InTransit ⟨s', (q : Multiset DriverPc) + T⟩ f ∨
      s'.batcher.shared.status f ≠ .pending → f < s'.nextFuture := by
  have old {f} (hf : f ∈ s.handed ∨ InTransit ⟨s, p ::ₘ T⟩ f ∨
      s.batcher.shared.status f ≠ .pending) : f < s'.nextFuture :=
    Nat.lt_of_lt_of_le (h.fresh f hf) hm.nextFuture
  have slot {f} (hf : s.waker = some (.parked f)) : f < s'.nextFuture :=
    old (.inl (h.parked f hf).2.1)
  rintro f (hf | hf | hf)
  · have yielded {value} (hy : Yielded s s' value) : f < s'.nextFuture := by
      rcases hy.handed_cases hf with hf | hf | hf
      · exact old (.inl hf)
      · exact slot hf
      · exact hf
    cases hm.wakerEffect with
    | park _ _ hy => exact yielded hy
    | yield _ _ hy => exact yielded hy
    | keep hw hh | make hs hw hh | reset hco hw hh | wake hrun hs hw hh hq =>
      exact old (.inl (hh ▸ hf))
  · rcases hf.of_move hm with hf | hf
    · exact old (.inr (.inl hf))
    · exact slot hf.1
  · rw [hm.status] at hf
    exact old (.inr (.inr hf))

theorem DriverPc.awaits_of_reader {reader : Reader} (h : p.reader = some reader) :
    p.awaits = none := by
  cases p <;> first | rfl | cases h

theorem DriverMove.awaits_of_pending {f : AioFuture} (hm : DriverMove s p s' q)
    (hp : p.awaits = some f) (hf : s.batcher.shared.status f = .pending) :
    ∃ r ∈ q, r.awaits = some f := by
  cases hm with
  | skip hl h => cases h <;> cases hp
  | readConverted hl hr | readUnconverted hl hr =>
    rw [DriverPc.awaits_of_reader hr] at hp
    cases hp
  | @store co value =>
    cases value with
    | error e => cases hp
    | ok v => exact ⟨.suspended v, List.mem_singleton_self _, hp⟩
  | resumeNone => cases hp
  | resumeDone h =>
    cases hp
    cases hf.symm.trans h
  | throwIn h => exact absurd hf (h f hp)
  | _ => cases hp

theorem SoloInv.parked_move (h : SoloInv st ⟨s, p ::ₘ T⟩) (hm : DriverMove s p s' q) :
    ∀ f, s'.waker = some (.parked f) → s'.Parked f ∧ f ∈ s'.handed ∧
      ¬ InTransit ⟨s', (q : Multiset DriverPc) + T⟩ f ∧
      ∃ r ∈ (q : Multiset DriverPc) + T, r.awaits = some f := by
  intro f hf
  have status : s'.batcher.shared.status = s.batcher.shared.status := by rw [hm.status]
  have transit (ht : InTransit ⟨s', (q : Multiset DriverPc) + T⟩ f) :
      InTransit ⟨s, p ::ₘ T⟩ f := by
    rcases ht.of_move hm with ht | ⟨-, hidle⟩
    · exact ht
    · cases hidle.symm.trans hf
  -- It was parked before: the task that waits on it cannot have moved on.
  have before (hw : s.waker = some (.parked f)) : s'.Parked f ∧ f ∈ s'.handed ∧
      ¬ InTransit ⟨s', (q : Multiset DriverPc) + T⟩ f ∧
      ∃ r ∈ (q : Multiset DriverPc) + T, r.awaits = some f := by
    obtain ⟨⟨-, hp⟩, hh, hnt, r, hr, hra⟩ := h.parked f hw
    refine ⟨⟨hf, by rwa [status]⟩, hm.handed hh, fun ht => hnt (transit ht), ?_⟩
    rcases Multiset.mem_cons.mp hr with rfl | hr
    · obtain ⟨r', hr', hra'⟩ := hm.awaits_of_pending hra hp
      exact ⟨r', Multiset.mem_add.mpr (.inl hr'), hra'⟩
    · exact ⟨r, Multiset.mem_add.mpr (.inr hr), hra⟩
  have yielded {value} (hy : Yielded s s' value)
      (hq : value = .ok (some f) → ∃ r ∈ q, r.awaits = some f) : s'.Parked f ∧ f ∈ s'.handed ∧
      ¬ InTransit ⟨s', (q : Multiset DriverPc) + T⟩ f ∧
      ∃ r ∈ (q : Multiset DriverPc) + T, r.awaits = some f := by
    cases hy with
    | woken hs hw hh => cases hw.symm.trans hf
    | again hs hg hw hh =>
      cases hw.symm.trans hf
      exact before hs
    | fresh hs hne hg hw hh =>
      cases hw.symm.trans hf
      have new {P : Prop} (hlt : P → f < s.nextFuture) : ¬ P := fun hP =>
        absurd hg.1 (Nat.ne_of_lt (hlt hP))
      refine ⟨⟨hf, ?_⟩, by simp [hh], fun ht => ?_, ?_⟩
      · rw [status]
        by_contra hp
        exact new (fun hp => h.fresh f (.inr (.inr hp))) hp
      · exact new (fun ht => h.fresh f (.inr (.inl ht))) (transit ht)
      · obtain ⟨r, hr, hra⟩ := hq rfl
        exact ⟨r, Multiset.mem_add.mpr (.inl hr), hra⟩
    | failed hw hh =>
      cases hs : s.waker with
      | none => simp [hw, hs] at hf
      | some slot => exact before (by simpa [hw, hs] using hf)
  cases hm.wakerEffect with
  | keep hw hh => exact before (hw.symm.trans hf)
  | make hs hw hh => cases hw.symm.trans hf
  | reset hco hw hh => cases hw.symm.trans hf
  | park hp hq hy =>
    refine yielded hy fun hv => ?_
    rw [hq, hv]
    exact ⟨_, List.mem_singleton_self _, rfl⟩
  | yield hp hq hy =>
    refine yielded hy fun hv => ?_
    rw [hq, hv]
    exact ⟨_, List.mem_singleton_self _, rfl⟩
  | wake hrun hs hw hh hq =>
    exact absurd (Option.some.inj (hw.symm.trans hf)) (WakerSlot.takeParked_not_parked _ f)

theorem DriverMove.yields (hm : DriverMove s p s' q) (hq : .yieldAsyncio ∈ q) :
    s.locked = false ∧ s'.locked = false ∧ s'.state = s.state ∧
      ∃ cbs, s.state = .pendingTokio cbs := by
  cases hm with
  | skip hl h =>
    cases h with
    | nextTokio hs => exact ⟨hl, hl, rfl, _, hs⟩
    | _ => simp at hq
  | store | yieldAsyncio => unfold suspend at hq; split at hq <;> simp at hq
  | resolveFinished => rw [List.mem_singleton] at hq; split at hq <;> cases hq
  | _ => simp at hq

theorem DriverMove.waker_isSome (hm : DriverMove s p s' q) (hw : s'.waker = none) :
    s.waker = none := by
  have yielded {value} (hy : Yielded s s' value) : s.waker = none := by
    cases hy <;> simp_all
  cases hm.wakerEffect with
  | keep hw' => exact hw'.symm.trans hw
  | park _ _ hy => exact yielded hy
  | yield _ _ hy => exact yielded hy
  | make _ hw' | reset _ hw' | wake _ _ hw' => cases hw'.symm.trans hw

theorem SoloInv.made_move (h : SoloInv st ⟨s, p ::ₘ T⟩) (hc : Coherent st ⟨s, p ::ₘ T⟩)
    (hm : DriverMove s p s' q) (hw : s'.waker = none) :
    (∀ cbs, s'.seen q st ≠ .pendingTokio cbs) ∧
      .yieldAsyncio ∉ (q : Multiset DriverPc) + T := by
  have hold := hm.waker_isSome hw
  obtain ⟨htokio, hyield⟩ := h.made hold
  have hv := hc.locking.stance
  constructor
  · intro cbs hcbs
    have hlived := hm.lived hv
    rw [hcbs] at hlived
    cases hlived with
    | stays => exact htokio cbs rfl
    | starts hs => simp [hs, DriverShared.started] at hw
    | queues => exact htokio _ rfl
  · intro hy
    rcases Multiset.mem_add.mp hy with hy | hy
    · obtain ⟨hl, -, -, cbs, hs⟩ := hm.yields (Multiset.mem_coe.mp hy)
      exact htokio cbs ((hv.state_eq hl).symm.trans hs)
    · exact hyield (Multiset.mem_cons_of_mem hy)

/-- A wake while the task is about to park is not lost: nothing is parked then. -/
theorem SoloInv.yielding_move (h : SoloInv st ⟨s, p ::ₘ T⟩) (hc : Coherent st ⟨s, p ::ₘ T⟩)
    (hsd : s.shutdown = false) (hm : DriverMove s p s' q)
    (hy : .yieldAsyncio ∈ (q : Multiset DriverPc) + T) {rr : ReadyResult}
    (hr : s'.seen q st = .ready rr) :
    s'.waker = some .woken ∨ WakePending ⟨s', (q : Multiset DriverPc) + T⟩ := by
  have hv := hc.locking.stance
  rcases Multiset.mem_add.mp hy with hy | hy
  · obtain ⟨-, hl, he, cbs, hs⟩ := hm.yields (Multiset.mem_coe.mp hy)
    simp [DriverShared.seen, hl, he, hs] at hr
  have hother : p.tasks = 0 := h.alone hy rfl
  have hmem : .yieldAsyncio ∈ p ::ₘ T := Multiset.mem_cons_of_mem hy
  have hsome : s.waker ≠ none := fun hn => (h.made hn).2 hmem
  have hnot := h.not_parked hmem rfl rfl
  by_cases hst : ∃ rr, st = .ready rr
  · obtain ⟨rr₀, hst⟩ := hst
    rcases h.yielding hmem rr₀ hst with hw | ⟨r, hr, hrw⟩
    · -- Only the task takes the slot out of `Woken`.
      left
      cases hm.wakerEffect with
      | keep hw' => exact hw'.trans hw
      | make hs => exact absurd hs hsome
      | reset hp => simp [hp, DriverPc.tasks] at hother
      | park hp => simp [hp, DriverPc.tasks] at hother
      | yield hp => simp [hp, DriverPc.tasks] at hother
      | wake hp hs hw' =>
        cases hs.symm.trans hw
        exact hw'
    · rcases Multiset.mem_cons.mp hr with rfl | hr
      · rcases hm.wakes hv (hc.threads _ (Multiset.mem_cons_self _ _)) (hm.runsClosure hsd) hrw with
          ⟨p', hp', hw'⟩ | ⟨acts, rfl⟩
        · exact .inr ⟨p', Multiset.mem_add.mpr (.inl hp'), hw'⟩
        · left
          rw [hm.wake_waker]
          cases hs : s.waker with
          | none => exact absurd hs hsome
          | some slot =>
            cases slot with
            | parked f => exact absurd hs (hnot f)
            | idle | woken => rfl
      · exact .inr (.of_mem_right ⟨r, hr, hrw⟩)
  · obtain ⟨-, hcases⟩ := hm.settles hv (fun rr he => hst ⟨rr, he⟩) hr
    rcases hcases with ⟨p', hp', hw'⟩ | hn | ⟨co, rfl⟩ | ⟨exc, co, rfl, hs⟩
    · exact .inr ⟨p', Multiset.mem_add.mpr (.inl hp'), hw'⟩
    · exact absurd hn hsome
    · cases hother
    · cases hother

theorem SoloInv.move (h : SoloInv st ⟨s, p ::ₘ T⟩) (hc : Coherent st ⟨s, p ::ₘ T⟩)
    (hsd : s.shutdown = false) (hm : DriverMove s p s' q) :
    SoloInv (s'.seen q st) ⟨s', (q : Multiset DriverPc) + T⟩ where
  single := h.single_move hm
  fresh := h.fresh_move hm
  parked := h.parked_move hm
  made := h.made_move hc hm
  yielding hy _ hr := h.yielding_move hc hsd hm hy hr

end Moves

section Arrivals

variable {s s' : DriverShared} {k : DriverEvent} {q : List DriverPc} {T : Multiset DriverPc}
  {st : FutureState} {f : AioFuture}

theorem DriverArrival.transit (ha : DriverArrival s k s' q)
    (h : InTransit ⟨s', (q : Multiset DriverPc) + T⟩ f) :
    InTransit ⟨s, T⟩ f ∨ f = s.nextFuture ∧ s'.nextFuture = f + 1 := by
  rcases h with ⟨acts, hr, hf⟩ | h
  · rcases Multiset.mem_add.mp hr with hq | hT
    · have hnone : ∀ acts, DriverPc.run acts ∈ q → .push f ∉ acts := by
        cases ha <;> simp
      exact absurd hf (hnone acts hq)
    · exact .inl (.inl ⟨acts, hT, hf⟩)
  · cases ha with
    | foreignPush =>
      rcases h with h | h
      · rcases Multiset.mem_cons.mp h with he | h
        · cases he
          exact .inr ⟨rfl, rfl⟩
        · exact .inl (.inr (.inl h))
      · exact .inl (.inr (.inr h))
    | batcher hl hn =>
      rcases Batcher.Holds.of_next hn h with h | rfl
      · exact .inl (.inr h)
      · cases hl
    | _ => exact .inl (.inr h)

theorem DriverArrival.pending (ha : DriverArrival s k s' q)
    (hp : s.batcher.shared.status f = .pending) (hf : ¬ Batcher.Holds s.batcher f)
    (hk : k ≠ .batcher (.env (.cancelFuture f))) : s'.batcher.shared.status f = .pending := by
  cases ha with
  | batcher hl hn =>
    refine Batcher.pending_of_not_holds hn hp hf ?_
    rintro rfl
    exact hk rfl
  | _ => exact hp

theorem SoloInv.fresh_arrive (h : SoloInv st ⟨s, T⟩) (ha : DriverArrival s k s' q) :
    ∀ f, f ∈ s'.handed ∨ InTransit ⟨s', (q : Multiset DriverPc) + T⟩ f ∨
      s'.batcher.shared.status f ≠ .pending → f < s'.nextFuture := by
  have hh : s'.handed = s.handed := by cases ha <;> rfl
  have hn : s.nextFuture ≤ s'.nextFuture := by cases ha <;> simp
  have old {f} (hf : f ∈ s.handed ∨ InTransit ⟨s, T⟩ f ∨
      s.batcher.shared.status f ≠ .pending) : f < s'.nextFuture :=
    Nat.lt_of_lt_of_le (h.fresh f hf) hn
  rintro f (hf | hf | hf)
  · exact old (.inl (hh ▸ hf))
  · rcases ha.transit hf with hf | ⟨-, hnext⟩
    · exact old (.inr (.inl hf))
    · rw [hnext]
      exact Nat.lt_succ_self f
  · by_cases hp : s.batcher.shared.status f = .pending
    · by_cases hheld : Batcher.Holds s.batcher f
      · exact old (.inr (.inl (.inr hheld)))
      · -- Then it was cancelled, which only an existing future is.
        by_cases hk : k = .batcher (.env (.cancelFuture f))
        · subst hk
          cases ha with
          | batcher hl => simpa [DriverShared.allowsBatcher] using hl
        · exact absurd (ha.pending hp hheld hk) hf
    · exact old (.inr (.inr hp))

theorem SoloInv.arrive (h : SoloInv st ⟨s, T⟩) (hok : Solo ⟨s, T⟩ (.env k))
    (ha : DriverArrival s k s' q) : SoloInv st ⟨s', (q : Multiset DriverPc) + T⟩ := by
  obtain ⟨-, -, hnext, hthrow, hcancel⟩ := hok
  have hw : s'.waker = s.waker := by cases ha <;> rfl
  have hh : s'.handed = s.handed := by cases ha <;> rfl
  have hq : (q.map DriverPc.tasks).sum = 0 ∧ .yieldAsyncio ∉ q := by
    cases ha with
    | @call m entry hentry hm =>
      cases m with
      | next => exact absurd rfl hnext
      | throw exc => exact absurd rfl (hthrow exc)
      | _ => cases congrArg Prod.snd hm; exact ⟨rfl, by simp⟩
    | _ => simp [DriverPc.tasks]
  constructor
  · simpa [hq.1] using h.single
  · exact h.fresh_arrive ha
  · intro f hf
    rw [hw] at hf
    obtain ⟨⟨-, hp⟩, hfh, hnt, r, hr, hra⟩ := h.parked f hf
    have hp' := ha.pending hp (fun hheld => hnt (.inr hheld))
      (fun hk => hcancel f hfh (by rw [hk]))
    refine ⟨⟨hw.trans hf, hp'⟩, by rwa [hh], fun ht => ?_, r, Multiset.mem_add.mpr (.inr hr), hra⟩
    rcases ha.transit ht with ht | ⟨he, -⟩
    · exact hnt ht
    · exact absurd he (Nat.ne_of_lt (h.fresh f (.inl hfh)))
  · intro hn
    obtain ⟨htokio, hyield⟩ := h.made (hw.symm.trans hn)
    refine ⟨htokio, fun hy => ?_⟩
    rcases Multiset.mem_add.mp hy with hy | hy
    · exact hq.2 (Multiset.mem_coe.mp hy)
    · exact hyield hy
  · intro hy rr hst
    rcases Multiset.mem_add.mp hy with hy | hy
    · exact absurd (Multiset.mem_coe.mp hy) hq.2
    · rw [hw]
      exact (h.yielding hy rr hst).imp_right fun hwp => .of_mem_right hwp

end Arrivals

/-- With one task no step loses a parked future. -/
theorem SoloInv.attentive {st : FutureState} {c : Config DriverShared DriverPc}
    {l : Label DriverPc Choice DriverEvent} (h : SoloInv st c) (hc : Coherent st c)
    (hok : Solo c l) (hp : ∀ p choice, l = .thread p choice → p ∈ c.threads) :
    Attentive c l := by
  refine ⟨hok.1, hok.2.1, fun hlose => ?_⟩
  cases l with
  | env k => exact hlose
  | thread p choice =>
    have hp := hp p choice rfl
    cases p with
    | reset co =>
      obtain ⟨f, hf⟩ := hlose
      exact h.not_parked hp rfl rfl f hf.1
    | call entry =>
      cases entry with
      | throw exc =>
        obtain ⟨-, f, hf⟩ := hlose
        exact h.not_parked hp rfl rfl f hf.1
      | _ => exact hlose
    | yieldAsyncio =>
      obtain ⟨hterm, hw, hwp⟩ := hlose
      obtain ⟨rr, rfl⟩ := hc.ready_of_terminal hterm fun r hr co hi =>
        hc.threads _ hp co (hc.locking.inside_eq hr hi).symm
      exact (h.yielding hp rr rfl).elim hw hwp
    | _ => exact hlose

theorem DriverShared.IsNew.solo {s : DriverShared} (h : s.IsNew) :
    SoloInv s.state ⟨s, {.call .next}⟩ := by
  constructor
  · simp [DriverPc.tasks]
  · rintro f (hf | (⟨acts, hr, -⟩ | hf) | hf)
    · cases h <;> cases hf
    · simp at hr
    · cases h <;> rcases hf with hf | hf | hf <;> cases hf
    · cases h <;> exact absurd rfl hf
  · intro f hf
    cases h <;> cases hf
  · intro hn
    refine ⟨fun cbs => ?_, by simp⟩
    cases h with
    | spawnOnTokio => cases hn
    | _ => exact FutureState.noConfusion
  · simp

theorem driver_solo {s₀ : DriverShared} (hnew : s₀.IsNew) {c : Config DriverShared DriverPc}
    (hr : driverProgram.RunIn Solo ⟨s₀, {.call .next}⟩ c) :
    ∃ st, Coherent st c ∧ SoloInv st c ∧ Tracked st c := by
  refine driver_invariant Solo (I := fun st c => SoloInv st c ∧ Tracked st c) ?_ ?_
    (hnew.coherent (by simp)) ⟨hnew.solo, hnew.tracked (by simp)⟩ hr
  · rintro s s' p q T e st hok hc ⟨hsolo, htr⟩ - hm
    refine ⟨hsolo.move hc htr.shutdown hm, htr.move hc (hsolo.attentive hc hok ?_) hm⟩
    rintro r choice he
    cases he
    exact Multiset.mem_cons_self p T
  · rintro s s' k q T st hok hc ⟨hsolo, htr⟩ ha
    exact ⟨hsolo.arrive hok ha, htr.arrive (hsolo.attentive hc hok (by simp)) ha⟩

theorem SoloInv.ready_of_terminal {st : FutureState} {c : Config DriverShared DriverPc}
    {v : Option AioFuture} (h : SoloInv st c) (hc : Coherent st c)
    (hv : .suspended v ∈ c.threads) (hterm : c.shared.state.isTerminal = true) :
    ∃ rr, st = .ready rr := by
  refine hc.ready_of_terminal hterm fun p hp co hi => ?_
  have hpt : p.tasks = 1 := by
    cases p with
    | convert reader resolved => cases hi
    | _ => first | rfl | cases hi
  obtain ⟨U, hU⟩ := Multiset.exists_cons_of_mem hp
  rw [hU] at hv
  rcases Multiset.mem_cons.mp hv with rfl | hv
  · cases hi
  · have hc' : c = ⟨c.shared, p ::ₘ U⟩ := by rw [← hU]
    rw [hc'] at h
    have := h.alone hv rfl
    omega

/-- If the one task is suspended on an asyncio future that is not done, that
future is parked in a slot some thread will still empty, or under way. -/
theorem solo_wakeup {s₀ : DriverShared} (hnew : s₀.IsNew) {c : Config DriverShared DriverPc}
    (hr : driverProgram.RunIn Solo ⟨s₀, {.call .next}⟩ c) {f : AioFuture}
    (hf : .suspended (some f) ∈ c.threads)
    (hp : c.shared.batcher.shared.status f = .pending) :
    (c.shared.waker = some (.parked f) ∧
      (c.shared.state.isTerminal = false ∨ WakePending c)) ∨ InTransit c f := by
  obtain ⟨st, hc, hsolo, htr⟩ := driver_solo hnew hr
  refine (htr.handed f (htr.awaited _ hf f rfl) hp).imp_left fun hw => ⟨hw, ?_⟩
  cases hterm : c.shared.state.isTerminal with
  | false => exact .inl rfl
  | true =>
    obtain ⟨rr, hst⟩ := hsolo.ready_of_terminal hc hf hterm
    exact .inr (htr.settled rr hst f ⟨hw, hp⟩)

/-- Another thread cancels the future the task waits on. -/
theorem solo_wakeup_cancelled :
    ∃ c, driverProgram.RunIn Solo ⟨.spawn 0 .callSoon, {.call .next}⟩ c ∧
      .suspended (some 0) ∈ c.threads ∧ c.shared.batcher.shared.status 0 = .pending ∧
      c.shared.state = .ready (.converted (.error (cancelErr 5))) ∧
      ((c.shared.waker = some (.parked 0) ∧
        (c.shared.state.isTerminal = false ∨ WakePending c)) ∨ InTransit c 0) := by
  have hr : driverProgram.RunIn Solo ⟨.spawn 0 .callSoon, {.call .next}⟩
      ⟨{ DriverShared.spawn 0 .callSoon with
          state := .ready (.converted (.error (cancelErr 5))), waker := some (.parked 0),
          nextFuture := 1, handed := [0], reports := [.yielded (.ok (some 0))] },
        {.run [.notify 0, .wake], .suspended (some 0)}⟩ :=
    Program.exec_runIn [.thread (.call .next) .go, .thread (.reset ⟨none⟩) .go,
      .thread (.poll ⟨none⟩) (.polled none), .thread (.park ⟨none⟩) .go,
      .thread (.store ⟨none⟩ (.ok (some 0))) .go, .env (.call (.cancel 5)),
      .thread (.call (.close (cancelErr 5))) .go] (by simp [Solo]) rfl
  exact ⟨_, hr, by simp, rfl, rfl, solo_wakeup (.spawn 0 .callSoon) hr (by simp) rfl⟩

end ScyllaDriver
