import ScyllaDriver.Batcher

/-! What keeps an event loop alive. The registry refers to the batcher of the loop, the batcher
to the futures in its queue, and a future to its loop. When nothing refers to a loop any more it
is deallocated, and its weakref takes its entry out of the registry. -/

namespace ScyllaDriver

namespace LoopLifetime

open Batcher (Pc Io)

structure Shared where
  batcher : Batcher.Shared
  /-- Whether the registry has the entry of the loop. -/
  registered : Bool
  /-- Whether anything but the registry, the pushers and the drain refers to the loop or to a
  future of it. -/
  referenced : Bool

inductive Event where
  | batcher (k : Batcher.Event)
  | abandon
  | collect
  deriving DecidableEq, Repr

/-- The acts of somebody who has the loop, or a future of it. -/
def needsLoop : Batcher.Event → Bool
  | .push _ => true
  | .startDrain _ => true
  | .cancelFuture _ => true
  | .closeLoop => true
  | .read _ => false
  | .takeQueue => false
  | .releaseWaiter => false

def step (s : Shared) (p : Pc) (io : Io) : Option (Shared × List Pc) :=
  (Batcher.step s.batcher p io).map fun r => ({ s with batcher := r.1 }, r.2)

def env (s : Shared) : Event → Option (Shared × List Pc)
  | .batcher k =>
    if needsLoop k = true ∧ s.referenced = false then none
    else (Batcher.env s.batcher k).map fun r => ({ s with batcher := r.1 }, r.2)
  | .abandon => some ({ s with referenced := false }, [])
  -- `evict` fires; the weakref of the notifier is dead from now on, as for a closed loop.
  | .collect =>
    some ({ s with registered := false, batcher := { s.batcher with loopOpen := false } }, [])

def program : Program Shared Pc Io Event := ⟨step, env⟩

def init (kind : Batcher.NotifierKind) (bytes scheduled : Nat) : Config Shared Pc :=
  ⟨⟨(Batcher.init kind bytes scheduled).shared, true, true⟩, 0⟩

inductive Node where
  | registry
  | pusher
  | drain
  | outside
  | batcher
  | future (future : AioFuture)
  | loop
  deriving DecidableEq, Repr

def Node.isRoot : Node → Bool
  | .registry => true
  | .pusher => true
  | .drain => true
  | .outside => true
  | .batcher => false
  | .future _ => false
  | .loop => false

/-- The strong references. The notifier and the entry have weak ones to the loop. -/
inductive Ref (c : Config Shared Pc) : Node → Node → Prop where
  | entry (h : c.shared.registered = true) : Ref c .registry .batcher
  | pusher {p} (h : p ∈ c.threads) : Ref c .pusher .batcher
  | pushed {future} (h : .push future ∈ c.threads) : Ref c .pusher (.future future)
  | drain (h : c.shared.batcher.drain ≠ .idle) : Ref c .drain .batcher
  | drained (h : c.shared.batcher.drain ≠ .idle) : Ref c .drain .loop
  | ready {future} (h : future ∈ c.shared.batcher.drain.ready) : Ref c .drain (.future future)
  | outside (h : c.shared.referenced = true) : Ref c .outside .loop
  | queued {future} (h : future ∈ c.shared.batcher.queue) : Ref c .batcher (.future future)
  | loop {future} : Ref c (.future future) .loop

abbrev Reaches (c : Config Shared Pc) := Relation.TransGen (Ref c)

/-- CPython deallocates a loop that no chain of references reaches. -/
def Allowed (c : Config Shared Pc) : Label Pc Io Event → Prop
  | .env .collect => ∀ root : Node, root.isRoot = true → ¬ Reaches c root .loop
  | _ => True

def notifying : Pc → Bool
  | .push _ => false
  | .notify => true
  | .scheduleDrainCallSoon => true
  | .discard => true

/-- No wake is left with a closed loop: the loop is closed when none is on its way, or when its
pusher has still to hand it over, and no write to the pipe succeeds after that. -/
def Heard (c : Config Shared Pc) : Label Pc Io Event → Prop
  | .env (.batcher .closeLoop) =>
    c.shared.batcher.armed = true → ∃ p ∈ c.threads, notifying p = true
  | .thread .notify io => c.shared.batcher.loopOpen = false → c.shared.batcher.kind = .pipe →
    io = .interrupted ∨ io = .error
  | _ => True

section References

variable {c : Config Shared Pc}

theorem reaches_of_queue (hregistered : c.shared.registered = true)
    (hqueue : c.shared.batcher.queue ≠ []) : Reaches c .registry .loop := by
  obtain ⟨future, hfuture⟩ := List.exists_mem_of_ne_nil _ hqueue
  exact .head (.entry hregistered) (.head (.queued hfuture) (.single .loop))

theorem not_reaches_of_queue_nil (hqueue : c.shared.batcher.queue = []) {node : Node}
    (hnode : ∀ next, Ref c node next → next = .batcher) : ¬ Reaches c node .loop := by
  intro hreaches
  obtain ⟨next, href, hrest⟩ := Relation.TransGen.head'_iff.mp hreaches
  obtain rfl := hnode next href
  rcases hrest.cases_head with heq | ⟨next, href, _⟩
  · cases heq
  · cases href with
    | queued hfuture =>
      rw [hqueue] at hfuture
      cases hfuture

theorem registry_not_reaches (hqueue : c.shared.batcher.queue = []) :
    ¬ Reaches c .registry .loop := by
  refine not_reaches_of_queue_nil hqueue fun next href => ?_
  cases href
  rfl

theorem allowed_collect (hthreads : c.threads = 0) (hidle : c.shared.batcher.drain = .idle)
    (hreferenced : c.shared.referenced = false) (hqueue : c.shared.batcher.queue = []) :
    Allowed c (.env .collect) := by
  intro root hroot
  refine not_reaches_of_queue_nil hqueue fun next href => ?_
  cases href with
  | entry _ | pusher _ | drain _ => rfl
  | pushed hmem =>
    rw [hthreads] at hmem
    exact absurd hmem (Multiset.notMem_zero _)
  | drained hdrain => exact absurd hidle hdrain
  | ready hmem =>
    rw [hidle] at hmem
    cases hmem
  | outside href =>
    rw [hreferenced] at href
    cases href
  | queued _ | loop => cases hroot

end References

/-- In a closed loop's batcher somebody is about to find out that the loop is closed, or nothing
is queued. -/
structure Sound (c : Config Shared Pc) : Prop where
  armed : c.shared.batcher.armed = true ↔ c.shared.batcher.queue ≠ []
  evicted : c.shared.registered = false → c.shared.batcher.loopOpen = false
  closed : c.shared.batcher.loopOpen = false → c.shared.batcher.armed = true →
    ∃ p ∈ c.threads, notifying p = true

section Steps

variable {s : Shared} {T : Multiset Pc}

theorem exists_notifying {q : List Pc} (hq : ∃ p' ∈ q, notifying p' = true) :
    ∃ p' ∈ (q : Multiset Pc) + T, notifying p' = true := by
  obtain ⟨p', hmem, hnotifying⟩ := hq
  exact ⟨p', Multiset.mem_add.mpr (.inl hmem), hnotifying⟩

theorem Sound.push {future : AioFuture} (h : Sound ⟨s, .push future ::ₘ T⟩) :
    Sound ⟨{ s with batcher := (s.batcher.enqueue future).1 },
      ((if !s.batcher.armed then [.notify] else [] : List Pc) : Multiset Pc) + T⟩ := by
  refine ⟨?_, h.evicted, fun hclosed _ => ?_⟩
  · simp [Batcher.Shared.enqueue]
  cases harmed : s.batcher.armed with
  | true =>
    -- The thread that armed the batcher is another one.
    obtain ⟨p, hp, hnotifying⟩ := h.closed hclosed harmed
    rcases Multiset.mem_cons.mp hp with rfl | hp
    · cases hnotifying
    · exact ⟨p, Multiset.mem_add.mpr (.inr hp), hnotifying⟩
  | false => exact exists_notifying ⟨.notify, List.mem_singleton_self _, rfl⟩

/-- A step that leaves the queue alone; `hq` says who goes on when the loop is closed. -/
theorem Sound.stays {p : Pc} {b : Batcher.Shared} {q : List Pc} (h : Sound ⟨s, p ::ₘ T⟩)
    (hqueue : b.queue = s.batcher.queue) (harmed : b.armed = s.batcher.armed)
    (hopen : b.loopOpen = s.batcher.loopOpen)
    (hq : b.loopOpen = false → ∃ p' ∈ q, notifying p' = true) :
    Sound ⟨{ s with batcher := b }, q + T⟩ := by
  refine ⟨?_, fun hevicted => hopen.trans (h.evicted hevicted), fun hclosed _ => ?_⟩
  · simpa only [hqueue, harmed] using h.armed
  · exact exists_notifying (hq hclosed)

theorem Sound.thread {p : Pc} {io : Io} {b : Batcher.Shared} {q : List Pc}
    (h : Sound ⟨s, p ::ₘ T⟩) (hheard : Heard ⟨s, p ::ₘ T⟩ (.thread p io))
    (hs : Batcher.step s.batcher p io = some (b, q)) :
    Sound ⟨{ s with batcher := b }, q + T⟩ := by
  cases p with
  | push future =>
    cases hs
    exact h.push
  | notify =>
    cases hkind : s.batcher.kind with
    | callSoon =>
      simp only [Batcher.step, hkind] at hs
      cases hs
      exact h.stays rfl rfl rfl fun _ => ⟨_, List.mem_singleton_self _, rfl⟩
    | pipe =>
      simp only [Batcher.step, hkind] at hs
      cases io with
      | ok n =>
        cases hs
        exact h.stays rfl rfl rfl fun hclosed => by simpa using hheard hclosed hkind
      | wouldBlock =>
        simp only [Batcher.Shared.write] at hs
        split at hs <;> cases hs
        exact h.stays rfl rfl rfl fun hclosed => by simpa using hheard hclosed hkind
      | interrupted | error =>
        cases hs
        exact h.stays rfl rfl rfl fun _ => ⟨_, List.mem_singleton_self _, rfl⟩
  | scheduleDrainCallSoon =>
    simp only [Batcher.step] at hs
    split at hs <;> cases hs
    · rename_i hopen
      exact h.stays rfl rfl rfl fun hclosed => by simp [hopen] at hclosed
    · exact h.stays rfl rfl rfl fun _ => ⟨_, List.mem_singleton_self _, rfl⟩
  | discard =>
    cases hs
    exact ⟨by simp, h.evicted, fun _ harmed => by cases harmed⟩

/-- What happens to the loop neither queues a future nor takes a pusher away. -/
theorem Sound.loop {k : Batcher.Event} {b : Batcher.Shared} {q : List Pc} (h : Sound ⟨s, T⟩)
    (hheard : Heard ⟨s, T⟩ (.env (.batcher k))) (hmove : Batcher.LoopMove s.batcher k b q) :
    Sound ⟨{ s with batcher := b }, q + T⟩ := by
  have hthreads (hclosed : s.batcher.loopOpen = false) (harmed : s.batcher.armed = true) :
      ∃ p ∈ (q : Multiset Pc) + T, notifying p = true := by
    obtain ⟨p, hp, hnotifying⟩ := h.closed hclosed harmed
    exact ⟨p, Multiset.mem_add.mpr (.inr hp), hnotifying⟩
  cases hmove with
  | push | startDrain _ _ | read _ _ | release _ | released _ | cancelFuture _ =>
    exact ⟨h.armed, h.evicted, hthreads⟩
  | takeQueue _ => exact ⟨by simp [Batcher.Shared.takeQueue], h.evicted, fun _ harmed => by cases harmed⟩
  | closeLoop =>
    refine ⟨h.armed, fun _ => rfl, fun _ harmed => ?_⟩
    obtain ⟨p, hp, hnotifying⟩ := hheard harmed
    exact ⟨p, Multiset.mem_add.mpr (.inr hp), hnotifying⟩

theorem Sound.collect (h : Sound ⟨s, T⟩) (hallowed : Allowed ⟨s, T⟩ (.env .collect)) :
    Sound ⟨{ s with registered := false, batcher := { s.batcher with loopOpen := false } }, T⟩ := by
  refine ⟨h.armed, fun _ => rfl, fun _ harmed => ?_⟩
  cases hregistered : s.registered with
  | true =>
    have hqueue := h.armed.mp harmed
    exact absurd (reaches_of_queue hregistered hqueue) (hallowed .registry rfl)
  | false => exact h.closed (h.evicted hregistered) harmed

end Steps

theorem env_batcher {s s' : Shared} {k : Batcher.Event} {q : List Pc}
    (h : env s (.batcher k) = some (s', q)) :
    (needsLoop k = true → s.referenced = true) ∧
      ∃ b, Batcher.LoopMove s.batcher k b q ∧ s' = { s with batcher := b } := by
  simp only [env] at h
  split at h
  · cases h
  · rename_i hneeds
    obtain ⟨⟨b, q'⟩, hb, heq⟩ := Option.map_eq_some_iff.mp h
    cases heq
    exact ⟨fun hk => by simpa [hk] using hneeds, b, Batcher.env_move hb, rfl⟩

theorem sound_preserved : program.Preserves (fun c l => Allowed c l ∧ Heard c l) Sound where
  thread hok h hs := by
    obtain ⟨⟨b, q'⟩, hb, heq⟩ := Option.map_eq_some_iff.mp hs
    cases heq
    exact h.thread hok.2 hb
  env {s T k s' q} hok h hs := by
    cases k with
    | batcher k =>
      obtain ⟨_, b, hmove, rfl⟩ := env_batcher hs
      exact h.loop hok.2 hmove
    | abandon =>
      cases hs
      rw [Multiset.coe_nil, Multiset.zero_add]
      exact ⟨h.armed, h.evicted, h.closed⟩
    | collect =>
      cases hs
      rw [Multiset.coe_nil, Multiset.zero_add]
      exact h.collect hok.1

theorem sound_init (kind : Batcher.NotifierKind) (bytes scheduled : Nat) :
    Sound (init kind bytes scheduled) :=
  ⟨by simp [init, Batcher.init], (fun h => nomatch h), (fun h => nomatch h)⟩

/-- Nobody can touch the loop any more, and yet its entry keeps it alive. -/
structure Pinned (c : Config Shared Pc) : Prop where
  threads : c.threads = 0
  idle : c.shared.batcher.drain = .idle
  abandoned : c.shared.referenced = false
  registered : c.shared.registered = true
  queue : c.shared.batcher.queue ≠ []

theorem pinned_preserved : program.Preserves Allowed Pinned where
  thread _ h _ := absurd h.threads (Multiset.cons_ne_zero)
  env {s T k s' q} hok h hs := by
    have hthreads : T = 0 := h.threads
    subst hthreads
    cases k with
    | batcher k =>
      obtain ⟨hneeds, b, hmove, rfl⟩ := env_batcher hs
      have hk : needsLoop k = false := by
        by_contra hk
        have habandoned := h.abandoned.symm.trans (hneeds (by simpa using hk))
        cases habandoned
      have hidle : s.batcher.drain = .idle := h.idle
      cases hmove with
      | push | startDrain _ _ | cancelFuture _ | closeLoop => cases hk
      | read hdrain _ | takeQueue hdrain | release hdrain | released hdrain =>
        rw [hidle] at hdrain
        cases hdrain
    | abandon =>
      cases hs
      exact ⟨rfl, h.idle, rfl, h.registered, h.queue⟩
    | collect => exact absurd (reaches_of_queue h.registered h.queue) (hok .registry rfl)

/-- A closed loop is let go: once no push is in progress its batcher has nothing queued, and
when nobody else refers to the loop either its entry goes away with it. -/
theorem closed_loop_released {kind : Batcher.NotifierKind} {bytes scheduled : Nat}
    {c : Config Shared Pc}
    (hr : program.RunIn (fun c l => Allowed c l ∧ Heard c l) (init kind bytes scheduled) c)
    (hclosed : c.shared.batcher.loopOpen = false) (hpush : c.threads = 0) :
    c.shared.batcher.queue = [] ∧
      (c.shared.batcher.drain = .idle → c.shared.referenced = false →
        ¬ Reaches c .registry .loop ∧
          ∃ d, Allowed c (.env .collect) ∧ program.next c (.env .collect) = some d ∧
            d.shared.registered = false) := by
  have h : Sound c := sound_preserved.run (sound_init kind bytes scheduled) hr
  have hqueue : c.shared.batcher.queue = [] := by
    by_contra hne
    obtain ⟨p, hp, _⟩ := h.closed hclosed (h.armed.mpr hne)
    rw [hpush] at hp
    exact Multiset.notMem_zero p hp
  refine ⟨hqueue, fun hidle habandoned => ⟨registry_not_reaches hqueue, ?_⟩⟩
  exact ⟨_, allowed_collect hpush hidle habandoned hqueue, rfl, rfl⟩

/-- The only push comes after the close and finds it out. -/
theorem closed_loop_released_call_soon : ∃ c d : Config Shared Pc,
    (c.shared.batcher.loopOpen = false ∧ c.shared.batcher.pushed = [5] ∧ c.threads = 0 ∧
      c.shared.batcher.drain = .idle ∧ c.shared.referenced = false) ∧
    c.shared.batcher.queue = [] ∧ ¬ Reaches c .registry .loop ∧ Allowed c (.env .collect) ∧
    program.next c (.env .collect) = some d ∧ d.shared.registered = false := by
  have hclose : program.StepIn (fun c l => Allowed c l ∧ Heard c l) (init .callSoon 0 0) _ :=
    ⟨.env (.batcher .closeLoop), ⟨trivial, fun h => nomatch h⟩, rfl⟩
  have hrun := Relation.ReflTransGen.head hclose <| program.exec_runIn
    [.env (.batcher (.push 5)), .thread (.push 5) .error, .thread .notify .error,
      .thread .scheduleDrainCallSoon .error, .thread .discard .error, .env .abandon]
    (by simp [Allowed, Heard]) rfl
  obtain ⟨hqueue, hrest⟩ := closed_loop_released hrun rfl (by decide)
  obtain ⟨hreaches, d, hallowed, hnext, hevicted⟩ := hrest rfl rfl
  exact ⟨_, d, ⟨rfl, rfl, by decide, rfl, rfl⟩, hqueue, hreaches, hallowed, hnext, hevicted⟩

/-- A push after the close whose future, and with it the loop, stays for ever. -/
def Leaks (kind : Batcher.NotifierKind) : Prop :=
  ∃ c₀ c : Config Shared Pc, program.RunIn Allowed (init kind 0 0) c₀ ∧
    c₀.shared.batcher.loopOpen = false ∧ c₀.threads = 0 ∧ program.RunIn Allowed c₀ c ∧
    c₀.shared.batcher.pushed.length < c.shared.batcher.pushed.length ∧ c.threads = 0 ∧
    ∀ d, program.RunIn Allowed c d → d.shared.batcher.queue ≠ [] ∧ d.shared.registered = true ∧
      d.shared.referenced = false ∧ Reaches d .registry .loop

theorem Pinned.leaks {c d : Config Shared Pc} (h : Pinned c) (hr : program.RunIn Allowed c d) :
    d.shared.batcher.queue ≠ [] ∧ d.shared.registered = true ∧ d.shared.referenced = false ∧
      Reaches d .registry .loop := by
  have hd : Pinned d := pinned_preserved.run h hr
  exact ⟨hd.queue, hd.registered, hd.abandoned, reaches_of_queue hd.registered hd.queue⟩

/-- Through the pipe no push after the close notices it; through `call_soon_threadsafe` none does
while a drain that the closed loop will not run is on its way. -/
theorem closed_loop_leaks : Leaks .pipe ∧ Leaks .callSoon := by
  constructor
  · refine ⟨_, _, program.exec_runIn [.env (.batcher .closeLoop)] (by simp [Allowed]) rfl, rfl, rfl,
      program.exec_runIn [.env (.batcher (.push 5)), .thread (.push 5) .error,
        .thread .notify (.ok 1), .env .abandon] (by simp [Allowed]) rfl, by decide, by decide,
      fun d => Pinned.leaks ⟨by decide, rfl, rfl, rfl, by decide⟩⟩
  · refine ⟨_, _, program.exec_runIn [.env (.batcher (.push 4)), .thread (.push 4) .error,
        .thread .notify .error, .thread .scheduleDrainCallSoon .error, .env (.batcher .closeLoop)]
        (by simp [Allowed]) rfl, rfl, by decide,
      program.exec_runIn [.env (.batcher (.push 5)), .thread (.push 5) .error, .env .abandon]
        (by simp [Allowed]) rfl, by decide, by decide,
      fun d => Pinned.leaks ⟨by decide, rfl, rfl, rfl, by decide⟩⟩

end LoopLifetime

end ScyllaDriver
