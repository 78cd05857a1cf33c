import ScyllaDriver.Batcher

/-! The batcher loses no wakeup and delivers none twice, as long as its loop
stays open. The argument is the order of the two sides: a pusher arms before
it writes, a drain reads the pipe before it disarms. -/

namespace ScyllaDriver

namespace Batcher

/-- The thread armed the batcher and has not finished `Notifier::notify`. -/
def Pc.notifying : Pc → Bool
  | .push _ => false
  | .notify | .scheduleDrainCallSoon | .discard => true

def Drain.beforeTake : Drain → Bool
  | .acknowledge | .take => true
  | .idle | .release _ => false

/-- Some drain will take the queue. -/
def DrainGuaranteed (c : Config Shared Pc) : Prop :=
  0 < c.shared.bytes ∨ 0 < c.shared.scheduled ∨
    (∃ p ∈ c.threads, p.notifying = true) ∨ c.shared.drain.beforeTake = true

structure Inv (c : Config Shared Pc) : Prop where
  armed_of_queue : c.shared.queue ≠ [] → c.shared.armed = true
  guaranteed : c.shared.armed = true → DrainGuaranteed c
  pushed_eq : c.shared.pushed = c.shared.taken.flatten ++ c.shared.queue
  taken_eq : c.shared.taken.flatten = c.shared.released ++ c.shared.drain.ready
  no_discard : Pc.discard ∉ c.threads
  released_of_finished : ∀ f, c.shared.status f = .finished → f ∈ c.shared.released

theorem inv_init (kind : NotifierKind) (bytes scheduled : Nat) :
    Inv (init kind bytes scheduled) := by
  constructor <;> simp [init, Drain.ready]

theorem Inv.of_frame {s s' : Shared} {T T' : Multiset Pc} (h : Inv ⟨s, T⟩)
    (hq : s'.queue = s.queue) (ha : s'.armed = s.armed) (hp : s'.pushed = s.pushed)
    (ht : s'.taken = s.taken) (hr : s'.released = s.released)
    (hd : s'.drain.ready = s.drain.ready)
    (hf : ∀ f, s'.status f = .finished → s.status f = .finished)
    (hg : DrainGuaranteed ⟨s, T⟩ → DrainGuaranteed ⟨s', T'⟩)
    (hn : Pc.discard ∉ T') : Inv ⟨s', T'⟩ := by
  constructor
  · simpa only [hq, ha] using h.armed_of_queue
  · intro ha'
    exact hg (h.guaranteed (by simpa only [ha] using ha'))
  · simpa only [hp, ht, hq] using h.pushed_eq
  · simpa only [ht, hr, hd] using h.taken_eq
  · exact hn
  · intro f hs
    rw [hr]
    exact h.released_of_finished f (hf f hs)

theorem inv_enqueue {s : Shared} {T : Multiset Pc} {f : AioFuture}
    (h : Inv ⟨s, .push f ::ₘ T⟩) :
    Inv ⟨(s.enqueue f).1, ((if s.armed then [] else [.notify] : List Pc) : Multiset Pc) + T⟩ := by
  have hT : Pc.discard ∉ T := fun hm => h.no_discard (Multiset.mem_cons_of_mem hm)
  constructor
  · simp [Shared.enqueue]
  · intro _
    cases ha : s.armed with
    | false => exact .inr (.inr (.inl ⟨.notify, by simp, rfl⟩))
    | true =>
      -- Another pusher armed it, so the drain that push was promised is still due.
      rcases h.guaranteed ha with hb | hb | ⟨p, hp, hpn⟩ | hb
      · exact .inl hb
      · exact .inr (.inl hb)
      · rcases Multiset.mem_cons.mp hp with rfl | hp
        · cases hpn
        · exact .inr (.inr (.inl ⟨p, by simp [hp], hpn⟩))
      · exact .inr (.inr (.inr hb))
  · have hp : s.pushed = s.taken.flatten ++ s.queue := h.pushed_eq
    simp [Shared.enqueue, hp]
  · exact h.taken_eq
  · cases s.armed <;> simp [hT]
  · exact h.released_of_finished

theorem inv_notify_done {s : Shared} {T : Multiset Pc} {p : Pc} {b n : Nat}
    (h : Inv ⟨s, p ::ₘ T⟩) (hb : 0 < b ∨ 0 < n) :
    Inv ⟨{ s with bytes := b, scheduled := n }, T⟩ := by
  refine h.of_frame rfl rfl rfl rfl rfl rfl (fun _ => id) ?_ fun hm =>
    h.no_discard (Multiset.mem_cons_of_mem hm)
  intro _
  rcases hb with hb | hb
  · exact .inl hb
  · exact .inr (.inl hb)

theorem inv_notify_again {s : Shared} {T : Multiset Pc} {p q : Pc} (h : Inv ⟨s, p ::ₘ T⟩)
    (hq : q.notifying = true) (hne : q ≠ .discard) : Inv ⟨s, q ::ₘ T⟩ := by
  refine h.of_frame rfl rfl rfl rfl rfl rfl (fun _ => id) (fun _ => ?_) ?_
  · exact .inr (.inr (.inl ⟨q, Multiset.mem_cons_self q T, hq⟩))
  · intro hm
    rcases Multiset.mem_cons.mp hm with he | hm
    · exact hne he.symm
    · exact h.no_discard (Multiset.mem_cons_of_mem hm)

theorem inv_move {s s' : Shared} {T : Multiset Pc} {p : Pc} {q : List Pc}
    (h : Inv ⟨s, p ::ₘ T⟩) (hopen : s.loopOpen = true) (hm : Move s p s' q) :
    Inv ⟨s', (q : Multiset Pc) + T⟩ := by
  cases hm with
  | push => exact inv_enqueue h
  | wrote => simpa using inv_notify_done (b := s.bytes + 1) (n := s.scheduled) h (.inl (by omega))
  | pipeFull hb => simpa using inv_notify_done (b := s.bytes) (n := s.scheduled) h (.inl hb)
  | interrupted => exact inv_notify_again h rfl (by simp)
  | fallBack => exact inv_notify_again h rfl (by simp)
  | scheduled _ =>
    simpa using inv_notify_done (b := s.bytes) (n := s.scheduled + 1) h (.inr (by omega))
  | loopGone hgone => simp [hopen] at hgone
  | discard => exact absurd (Multiset.mem_cons_self _ _) h.no_discard

theorem inv_takeQueue {s : Shared} {T : Multiset Pc} (h : Inv ⟨s, T⟩) (hd : s.drain = .take) :
    Inv ⟨s.takeQueue, T⟩ := by
  have ht := h.taken_eq
  constructor
  · simp [Shared.takeQueue]
  · simp [Shared.takeQueue]
  · have hp : s.pushed = s.taken.flatten ++ s.queue := h.pushed_eq
    simp [Shared.takeQueue, hp]
  · simp only [hd, Drain.ready, List.append_nil] at ht
    simp [Shared.takeQueue, Drain.ready, ht]
  · exact h.no_discard
  · exact h.released_of_finished

theorem inv_release {s : Shared} {T : Multiset Pc} {f : AioFuture} {ready : List AioFuture}
    (h : Inv ⟨s, T⟩) (hd : s.drain = .release (f :: ready)) :
    Inv ⟨{ s with drain := .release ready, status := releaseWaiter s.status f,
                  released := s.released ++ [f] }, T⟩ := by
  constructor
  · exact h.armed_of_queue
  · intro ha
    rcases h.guaranteed ha with hb | hb | hb | hb
    · exact .inl hb
    · exact .inr (.inl hb)
    · exact .inr (.inr (.inl hb))
    · simp [hd, Drain.beforeTake] at hb
  · exact h.pushed_eq
  · simpa [hd, Drain.ready] using h.taken_eq
  · exact h.no_discard
  · intro g hg
    by_cases hgf : g = f
    · simp [hgf]
    · refine List.mem_append_left _ (h.released_of_finished g ?_)
      simp only [releaseWaiter] at hg
      split at hg
      · rwa [Function.update_of_ne hgf] at hg
      · exact hg

theorem inv_loopMove {s s' : Shared} {T : Multiset Pc} {k : Event} {q : List Pc}
    (h : Inv ⟨s, T⟩) (hm : LoopMove s k s' q) : Inv ⟨s', (q : Multiset Pc) + T⟩ := by
  cases hm with
  | push =>
    refine h.of_frame rfl rfl rfl rfl rfl rfl (fun _ => id) ?_ (by simpa using h.no_discard)
    rintro (hb | hb | ⟨p, hp, hpn⟩ | hb)
    · exact .inl hb
    · exact .inr (.inl hb)
    · exact .inr (.inr (.inl ⟨p, by simp [hp], hpn⟩))
    · exact .inr (.inr (.inr hb))
  | startDrain ho hd =>
    simp only [Multiset.coe_nil, Multiset.zero_add]
    exact h.of_frame rfl rfl rfl rfl rfl (by simp [hd, Drain.ready]) (fun _ => id)
      (fun _ => .inr (.inr (.inr rfl))) h.no_discard
  | read hd hd' =>
    simp only [Multiset.coe_nil, Multiset.zero_add]
    refine h.of_frame rfl rfl rfl rfl rfl ?_ (fun _ => id) (fun _ => .inr (.inr (.inr ?_)))
      h.no_discard
    · rcases hd' with rfl | rfl <;> simp [hd, Drain.ready]
    · rcases hd' with rfl | rfl <;> rfl
  | takeQueue hd =>
    simp only [Multiset.coe_nil, Multiset.zero_add]
    exact inv_takeQueue h hd
  | release hd =>
    simp only [Multiset.coe_nil, Multiset.zero_add]
    exact inv_release h hd
  | released hd =>
    simp only [Multiset.coe_nil, Multiset.zero_add]
    refine h.of_frame rfl rfl rfl rfl rfl (by simp [hd, Drain.ready]) (fun _ => id) ?_
      h.no_discard
    rintro (hb | hb | hb | hb)
    · exact .inl hb
    · exact .inr (.inl hb)
    · exact .inr (.inr (.inl hb))
    · simp [hd, Drain.beforeTake] at hb
  | cancelFuture hf =>
    simp only [Multiset.coe_nil, Multiset.zero_add]
    refine h.of_frame rfl rfl rfl rfl rfl rfl (fun g hg => ?_) id h.no_discard
    simp only [Function.update_apply] at hg
    split at hg
    · cases hg
    · exact hg
  | closeLoop =>
    simp only [Multiset.coe_nil, Multiset.zero_add]
    exact h.of_frame rfl rfl rfl rfl rfl rfl (fun _ => id) id h.no_discard

theorem Move.loopOpen {s s' : Shared} {p : Pc} {q : List Pc} (h : Move s p s' q) :
    s'.loopOpen = s.loopOpen := by
  cases h <;> rfl

theorem LoopMove.loopOpen {s s' : Shared} {k : Event} {q : List Pc} (h : LoopMove s k s' q)
    (ho : s'.loopOpen = true) : s.loopOpen = true := by
  cases h with
  | closeLoop => cases ho
  | _ => exact ho

theorem preserves_inv :
    program.Preserves (fun _ _ => True) (fun c => c.shared.loopOpen = true → Inv c) where
  thread _ h hs ho := by
    have hm := step_move hs
    have hopen := hm.loopOpen.symm.trans ho
    exact inv_move (h hopen) hopen hm
  env _ h hs ho := by
    have hm := env_move hs
    exact inv_loopMove (h (hm.loopOpen ho)) hm

/-- How a step changes the queue: not at all, one future is appended, or the
drain takes it whole. -/
theorem queue_of_next {c d : Config Shared Pc} {l : Label Pc Io Event}
    (hc : Inv c) (hn : program.next c l = some d) :
    (d.shared.queue = c.shared.queue ∧ d.shared.taken = c.shared.taken) ∨
    (∃ f, d.shared.queue = c.shared.queue ++ [f] ∧ d.shared.taken = c.shared.taken) ∨
    (c.shared.drain = .take ∧ d.shared.queue = [] ∧
      d.shared.taken = c.shared.taken ++ [c.shared.queue]) := by
  rcases Program.next_cases hn with ⟨p, io, T, s, q, -, hT, hs, rfl⟩ | ⟨k, s, q, -, hs, rfl⟩
  · have hm := step_move hs
    cases p with
    | discard =>
      rw [hT] at hc
      exact absurd (Multiset.mem_cons_self _ _) hc.no_discard
    | push f => cases hm; exact .inr (.inl ⟨f, rfl, rfl⟩)
    | _ => cases hm <;> exact .inl ⟨rfl, rfl⟩
  · cases env_move hs with
    | takeQueue hd => exact .inr (.inr ⟨hd, rfl, rfl⟩)
    | _ => exact .inl ⟨rfl, rfl⟩

/-- The future was given to the batcher and its wakeup is under way. -/
def Holds (c : Config Shared Pc) (f : AioFuture) : Prop :=
  .push f ∈ c.threads ∨ f ∈ c.shared.queue ∨ f ∈ c.shared.drain.ready

theorem releaseWaiter_pending {status : AioFuture → AioStatus} {f g : AioFuture}
    (h : releaseWaiter status f g = .pending) : g ≠ f ∧ status g = .pending := by
  by_cases hf : status f = .pending
  · rw [releaseWaiter, if_pos hf, Function.update_apply] at h
    split at h
    · cases h
    · exact ⟨by assumption, h⟩
  · rw [releaseWaiter, if_neg hf] at h
    exact ⟨fun hg => hf (hg ▸ h), h⟩

theorem pending_of_next {c d : Config Shared Pc} {l : Label Pc Io Event} {f : AioFuture}
    (hn : program.next c l = some d) (hp : d.shared.status f = .pending) :
    c.shared.status f = .pending := by
  rcases Program.next_cases hn with ⟨p, io, T, s, q, -, -, hs, rfl⟩ | ⟨k, s, q, -, hs, rfl⟩
  · cases step_move hs <;> exact hp
  · cases env_move hs with
    | release hd => exact (releaseWaiter_pending hp).2
    | cancelFuture hf =>
      simp only [Function.update_apply] at hp
      split at hp
      · cases hp
      · exact hp
    | _ => exact hp

/-- The batcher lets go of a future only by releasing it. -/
theorem Holds.next {c d : Config Shared Pc} {l : Label Pc Io Event} {f : AioFuture}
    (h : Holds c f) (hc : Inv c) (hn : program.next c l = some d)
    (hp : d.shared.status f = .pending) : Holds d f := by
  rcases Program.next_cases hn with ⟨p, io, T, s, q, -, hT, hs, rfl⟩ | ⟨k, s, q, -, hs, rfl⟩
  · have hth : p = .push f ∨ .push f ∈ T ∨ f ∈ c.shared.queue ∨ f ∈ c.shared.drain.ready := by
      rcases h with h | h
      · rw [hT] at h
        rcases Multiset.mem_cons.mp h with h | h
        · exact .inl h.symm
        · exact .inr (.inl h)
      · exact .inr (.inr h)
    cases step_move hs with
    | push =>
      rcases hth with he | h | h | h
      · cases he
        exact .inr (.inl (by simp [Shared.enqueue]))
      · exact .inl (Multiset.mem_add.mpr (.inr h))
      · exact .inr (.inl (by simp [Shared.enqueue, h]))
      · exact .inr (.inr h)
    | discard =>
      rw [hT] at hc
      exact absurd (Multiset.mem_cons_self _ _) hc.no_discard
    | _ =>
      rcases hth with he | h | h
      · cases he
      · exact .inl (Multiset.mem_add.mpr (.inr h))
      · exact .inr h
  · rcases h with h | h
    · exact .inl (Multiset.mem_add.mpr (.inr h))
    · cases env_move hs with
      | startDrain ho hd => exact .inr (by simpa [hd, Drain.ready] using h)
      | read hd hd' => rcases hd' with rfl | rfl <;> exact .inr (by simpa [hd, Drain.ready] using h)
      | takeQueue hd => exact .inr (.inr (by simpa [hd, Drain.ready, Shared.takeQueue] using h))
      | release hd =>
        refine .inr (h.imp_right fun h => ?_)
        simpa [hd, Drain.ready, (releaseWaiter_pending hp).1] using h
      | released hd => exact .inr (by simpa [hd, Drain.ready] using h)
      | _ => exact .inr h

theorem Holds.of_next {c d : Config Shared Pc} {l : Label Pc Io Event} {f : AioFuture}
    (hn : program.next c l = some d) (h : Holds d f) : Holds c f ∨ l = .env (.push f) := by
  rcases Program.next_cases hn with ⟨p, io, T, s, q, -, hT, hs, rfl⟩ | ⟨k, s, q, rfl, hs, rfl⟩
  · have hold (hf : .push f ∈ T) : Holds c f := .inl (by rw [hT]; exact Multiset.mem_cons_of_mem hf)
    have rest (hf : .push f ∈ (q : Multiset Pc) + T) (hq : .push f ∉ q) : Holds c f :=
      hold ((Multiset.mem_add.mp hf).resolve_left hq)
    refine .inl ?_
    cases step_move hs with
    | @push g =>
      rcases h with h | h | h
      · exact rest h (by cases c.shared.armed <;> simp)
      · rcases List.mem_append.mp h with h | h
        · exact .inr (.inl h)
        · obtain rfl := List.mem_singleton.mp h
          exact .inl (by rw [hT]; exact Multiset.mem_cons_self _ _)
      · exact .inr (.inr h)
    | discard =>
      rcases h with h | h | h
      · exact rest h (by simp)
      · cases h
      · exact .inr (.inr h)
    | _ =>
      rcases h with h | h
      · exact rest h (by simp)
      · exact .inr h
  · rcases h with h | h
    · rcases Multiset.mem_add.mp h with hq | hT
      · cases env_move hs with
        | push =>
          cases Multiset.mem_singleton.mp hq
          exact .inr rfl
        | _ => exact absurd hq (Multiset.notMem_zero _)
      · exact .inl (.inl hT)
    · refine .inl (.inr ?_)
      cases env_move hs with
      | startDrain ho hd => simpa [hd, Drain.ready] using h
      | read hd hd' => rcases hd' with rfl | rfl <;> simpa [hd, Drain.ready] using h
      | takeQueue hd => simpa [hd, Drain.ready, Shared.takeQueue] using h
      | release hd =>
        refine h.imp_right fun h => ?_
        rw [hd]
        exact List.mem_cons_of_mem _ h
      | released hd => simpa [hd, Drain.ready] using h
      | _ => exact h

theorem pending_of_not_holds {c d : Config Shared Pc} {l : Label Pc Io Event} {f : AioFuture}
    (hn : program.next c l = some d) (hp : c.shared.status f = .pending) (hf : ¬ Holds c f)
    (hl : l ≠ .env (.cancelFuture f)) : d.shared.status f = .pending := by
  rcases Program.next_cases hn with ⟨p, io, T, s, q, -, -, hs, rfl⟩ | ⟨k, s, q, rfl, hs, rfl⟩
  · cases step_move hs <;> exact hp
  · cases env_move hs with
    | @release g ready hd =>
      have hne : f ≠ g := by
        rintro rfl
        exact hf (.inr (.inr (by rw [hd]; exact List.mem_cons_self)))
      simp only [releaseWaiter]
      split
      · rwa [Function.update_of_ne hne]
      · exact hp
    | @cancelFuture g hg =>
      have hne : f ≠ g := by
        rintro rfl
        exact hl rfl
      simpa [Function.update_of_ne hne] using hp
    | _ => exact hp

/-- The batcher of a loop that is still open. -/
structure Live (c : Config Shared Pc) : Prop where
  loopOpen : c.shared.loopOpen = true
  inv : Inv c

theorem Live.next {c d : Config Shared Pc} {l : Label Pc Io Event} (h : Live c)
    (hl : l ≠ .env .closeLoop) (hn : program.next c l = some d) : Live d := by
  have ho : d.shared.loopOpen = true := by
    rcases Program.next_cases hn with ⟨p, io, T, s, q, -, -, hs, rfl⟩ | ⟨k, s, q, rfl, hs, rfl⟩
    · exact (step_move hs).loopOpen.trans h.loopOpen
    · cases env_move hs with
      | closeLoop => exact absurd rfl hl
      | _ => exact h.loopOpen
  exact ⟨ho, preserves_inv.next trivial (fun _ => h.inv) hn ho⟩

theorem Inv.pushed_of_finished {c : Config Shared Pc} {f : AioFuture} (h : Inv c)
    (hf : c.shared.status f = .finished) : f ∈ c.shared.pushed := by
  rw [h.pushed_eq, h.taken_eq]
  simp [h.released_of_finished f hf]

theorem Inv.pushed_of_holds {c : Config Shared Pc} {f : AioFuture} (h : Inv c)
    (hf : Holds c f) (hT : c.threads = 0) : f ∈ c.shared.pushed := by
  rw [h.pushed_eq, h.taken_eq]
  rcases hf with hf | hf | hf
  · simp [hT] at hf
  · simp [hf]
  · simp [hf]

theorem push_next (c : Config Shared Pc) (f : AioFuture) :
    program.next c (.env (.push f)) = some ⟨c.shared, .push f ::ₘ c.threads⟩ := by
  simp [Program.next, program, env]

/-- In every reachable state a queued future has a drain coming for it, every
pushed future is in the queue or was taken by exactly one drain, and no step
but a drain's removes one from the queue. -/
theorem batcher_delivers_once {kind : NotifierKind} {bytes scheduled : Nat}
    {c : Config Shared Pc} (hr : program.Run (init kind bytes scheduled) c)
    (hopen : c.shared.loopOpen = true) :
    (c.shared.queue ≠ [] → c.shared.armed = true ∧ DrainGuaranteed c) ∧
    c.shared.pushed = c.shared.taken.flatten ++ c.shared.queue ∧
    c.shared.taken.flatten = c.shared.released ++ c.shared.drain.ready ∧
    ∀ l d, program.next c l = some d →
      (d.shared.queue = c.shared.queue ∧ d.shared.taken = c.shared.taken) ∨
      (∃ f, d.shared.queue = c.shared.queue ++ [f] ∧ d.shared.taken = c.shared.taken) ∨
      (c.shared.drain = .take ∧ d.shared.queue = [] ∧
        d.shared.taken = c.shared.taken ++ [c.shared.queue]) := by
  have h : Inv c := preserves_inv.run (fun _ => inv_init kind bytes scheduled) hr hopen
  refine ⟨fun hq => ?_, h.pushed_eq, h.taken_eq, fun _ _ hn => queue_of_next h hn⟩
  have ha := h.armed_of_queue hq
  exact ⟨ha, h.guaranteed ha⟩

/-- A push that finds the pipe full of stale bytes, and one that rides along. -/
theorem batcher_delivers_once_full_pipe :
    ∃ c, program.Run (init .pipe 1 0) c ∧ c.shared.queue = [7, 8] ∧
      c.shared.armed = true ∧ DrainGuaranteed c := by
  have hr : program.Run (init .pipe 1 0) _ :=
    Program.exec_run [.env (.push 7), .env (.push 8), .thread (.push 7) .wouldBlock,
      .thread .notify .wouldBlock, .thread (.push 8) .wouldBlock] rfl
  exact ⟨_, hr, rfl, (batcher_delivers_once hr rfl).1 (List.cons_ne_nil 7 [8])⟩

end Batcher

end ScyllaDriver
