import ScyllaDriver.DriverWaiters
import ScyllaDriver.ResponseMoves
import ScyllaDriver.StateLock

/-! The threads blocked in `wait_rows` are counted and notified as those of a
`DriverFuture` are, though a settled request may go back to `Pending`. -/

namespace ScyllaDriver

def ResponsePc.since : ResponsePc → Option Nat
  | .blocked since => some since
  | _ => none

/-- The thread settled the request and still calls `notify`, which will not be
skipped. -/
def ResponsePc.OwesNotify : ResponsePc → Prop
  | .notify waiters | .notifyDropped waiters _ => 0 < waiters
  | _ => False

def responseWaiting : Waiting ResponseShared ResponsePc :=
  ⟨ResponseShared.waiters, ResponseShared.epoch, ResponsePc.since, ResponsePc.OwesNotify⟩

theorem RowsReader.since_todo (reader : RowsReader) (rows : Rows) :
    ∀ r ∈ reader.todo rows, r.since = none := by
  cases reader with
  | register registration =>
    simp only [todo]
    split <;> simp [ResponsePc.since]
  | _ => simp [todo, ResponsePc.since]

theorem ResponseShared.notify_epoch (s : ResponseShared) (n : Nat) :
    s.epoch ≤ (s.notify n).epoch ∧ (0 < n → s.epoch < (s.notify n).epoch) := by
  simp only [notify]
  constructor
  · split <;> omega
  · intro hn
    simp [hn]

theorem ResponseMove.respects_apart {s s' : ResponseShared} {p : ResponsePc}
    {q : List ResponsePc} (hp : p.since = none) (ho : ¬p.OwesNotify)
    (hq : ∀ r ∈ q, r.since = none) (hw : s'.waiters = s.waiters) (he : s'.epoch = s.epoch)
    (hset : s'.request.isPending = false → s.request.isPending = false) :
    responseWaiting.Respects (s.request.isPending = false) (s'.request.isPending = false)
      s p s' q :=
  .apart hp hq hw he.ge (fun h => absurd h ho) fun h => .inl (hset h)

theorem ResponseMove.respects_settles {s s' : ResponseShared} {p : ResponsePc}
    {q : List ResponsePc} (hp : p.since = none) (ho : ¬p.OwesNotify)
    (hq : ∀ r ∈ q, r.since = none) (hw : s'.waiters = s.waiters) (he : s'.epoch = s.epoch)
    (hn : 0 < s.waiters → ∃ r ∈ q, r.OwesNotify) :
    responseWaiting.Respects (s.request.isPending = false) (s'.request.isPending = false)
      s p s' q := by
  refine .apart hp hq hw he.ge (fun h => absurd h ho) fun _ => .inr ?_
  rcases Nat.eq_zero_or_pos s.waiters with hz | hz
  · exact .inl (hw.trans hz)
  · exact .inr (hn hz)

theorem ResponseMove.respects {s s' : ResponseShared} {p : ResponsePc} {q : List ResponsePc}
    (h : ResponseMove s p s' q) :
    responseWaiting.Respects (s.request.isPending = false) (s'.request.isPending = false)
      s p s' q := by
  cases h with
  | completeWakes | completes | completeDropped =>
    exact respects_settles rfl id (by simp [ResponsePc.since]) rfl rfl fun hz =>
      ⟨_, List.mem_of_getLast? rfl, hz⟩
  | @dropped b obj =>
    refine respects_apart rfl id ?_ rfl rfl id
    cases b <;> simp [ResponsePc.since]
  | @notify n =>
    have hepoch := s.notify_epoch n
    exact .apart rfl (by simp) rfl hepoch.1 (fun hn => .inl (hepoch.2 hn)) .inl
  | @notifyDropped n registered obj =>
    have hepoch := s.notify_epoch n
    refine .apart rfl ?_ rfl hepoch.1 (fun hn => .inl (hepoch.2 hn)) .inl
    split <;> simp [responseWaiting, ResponsePc.since]
  | joins hu =>
    exact respects_apart rfl id (by simp) rfl rfl
      fun h => by rwa [RequestState.setUnfired_isPending] at h
  | drainCurrent hq hu hr =>
    exact respects_apart rfl id (by simp [ResponsePc.since]) rfl rfl
      fun h => by rwa [RequestState.setUnfired_isPending] at h
  | starts hp hm => exact respects_apart rfl id (by simp [ResponsePc.since]) rfl rfl nofun
  | waitBegins hp => exact .begin rfl rfl rfl rfl id (by simp [hp])
  | waitAgain hp => exact .again rfl rfl id (by simp [hp])
  | waitLeaves hp => exact .leave rfl (by simp [responseWaiting, ResponsePc.since]) rfl rfl id id
  | reads => exact respects_apart rfl id (RowsReader.since_todo _ _) rfl rfl id
  | stores =>
    exact respects_apart rfl id (RowsReader.since_todo _ _) rfl rfl
      fun h => by rwa [RequestState.storeRows_isPending] at h
  | _ => exact respects_apart rfl id (by simp [ResponsePc.since]) rfl rfl id

theorem response_waiters {c : Config ResponseShared ResponsePc}
    (hr : responseProgram.Run responseInit c) :
    responseWaiting.Kept (c.shared.request.isPending = false) c := by
  have hp : responseProgram.Preserves (fun _ _ => True)
      fun c => responseWaiting.Kept (c.shared.request.isPending = false) c := by
    constructor
    · intro s T p e s' q _ hk hs
      exact hk.step (responseStep_move hs).respects
    · intro s T k s' q _ hk hs
      cases responseEnv_arrival hs <;>
        exact hk.arrive rfl rfl (by simp [responseWaiting, ResponsePc.since]) .inl
  exact hp.run (.init rfl (by simp [responseWaiting, ResponsePc.since])) hr

/-- The count of waiters is right wherever the lock is free, and a thread
blocked on a settled state was notified or is about to be: for any state
behind the lock, for a `DriverFuture` and for a `ResponseFuture`. -/
theorem no_wakeup_lost :
    (∀ (S : Type) (pending : S → Bool) (state : S) (c : Config (StateLock S) StateLock.Pc),
      (StateLock.program pending).Run ⟨.new state, 0⟩ c →
      c.shared.waiters = c.threads.countP (·.since.isSome) ∧
      (pending c.shared.state = false → ∀ t since, .blocked t since ∈ c.threads →
        since < c.shared.epoch ∨ ∃ n, 0 < n ∧ .notify n ∈ c.threads)) ∧
    (∀ (s₀ : DriverShared) (c : Config DriverShared DriverPc), s₀.IsNew →
      driverProgram.RunIn ClosuresRun ⟨s₀, 0⟩ c →
      .unreachable ∉ c.threads ∧
      (c.shared.locked = false →
        c.shared.waiters = c.threads.countP (·.since.isSome) ∧
        (∀ co, c.shared.state = .pendingAsyncio co → c.shared.waiters = 0) ∧
        ((∀ cbs, c.shared.state ≠ .pendingTokio cbs) → ∀ t since, .blocked t since ∈ c.threads →
          since < c.shared.epoch ∨ ∃ p ∈ c.threads, p.OwesNotify))) ∧
    (∀ c : Config ResponseShared ResponsePc, responseProgram.Run responseInit c →
      c.shared.waiters = c.threads.countP (·.since.isSome) ∧
      (c.shared.request.isPending = false → ∀ since, .blocked since ∈ c.threads →
        since < c.shared.epoch ∨ ∃ p ∈ c.threads, p.OwesNotify)) := by
  refine ⟨fun S pending state c hr => ?_, fun s₀ c hnew hr => ?_, fun c hr => ?_⟩
  · have hk := StateLock.kept_of_run hr
    refine ⟨hk.waiters, fun hset t since hp => ?_⟩
    refine (hk.notified hset _ hp since rfl).imp_right ?_
    rintro ⟨p, hp, ho⟩
    cases p with
    | notify n => exact ⟨n, ho, hp⟩
    | _ => exact ho.elim
  · obtain ⟨st, hc, hk⟩ := driver_waiters hnew (ClosuresRun.kept hr)
    refine ⟨fun hu => hc.threads _ hu, fun hl => ?_⟩
    have hst : c.shared.state = st := hc.locking.state_eq hl
    refine ⟨hk.waiters, fun co hs => ?_, fun hset t since hp => ?_⟩
    · exact hk.waiters.trans (hc.blocked_asyncio (hst.symm.trans hs))
    · refine hk.notified ?_ _ hp since rfl
      have hagree : ∀ co, st ≠ .pendingAsyncio co := hc.threads _ hp
      cases st with
      | ready rr => exact ⟨rr, rfl⟩
      | pendingAsyncio co => exact absurd rfl (hagree co)
      | pendingTokio cbs => exact absurd hst (hset cbs)
      | panicked => exact absurd hst (hc.locking.clean hl)
  · have hk := response_waiters hr
    exact ⟨hk.waiters, fun hset since hp => hk.notified hset _ hp since rfl⟩

/-- One blocked thread and a transition made in each of the three. -/
theorem no_wakeup_lost_one_waiter :
    (∃ c, (StateLock.program id).Run ⟨.new true, 0⟩ c ∧ c.shared.state = false ∧
      .blocked false 0 ∈ c.threads ∧ c.shared.waiters = 1 ∧
      (0 < c.shared.epoch ∨ ∃ n, 0 < n ∧ .notify n ∈ c.threads)) ∧
    (∃ c, driverProgram.RunIn ClosuresRun ⟨.spawnOnTokio 3 .callSoon, 0⟩ c ∧
      c.shared.state = .ready (.converted (.error (cancelErr 5))) ∧
      .blocked false 0 ∈ c.threads ∧ c.shared.waiters = 1 ∧
      (0 < c.shared.epoch ∨ ∃ p ∈ c.threads, p.OwesNotify)) ∧
    (∃ c, responseProgram.Run responseInit c ∧ c.shared.request.isPending = false ∧
      .blocked 0 ∈ c.threads ∧ c.shared.waiters = 1 ∧
      (0 < c.shared.epoch ∨ ∃ p ∈ c.threads, p.OwesNotify)) := by
  have hlock : (StateLock.program id).Run ⟨.new true, 0⟩
      ⟨⟨false, 1, 0⟩, {.notify 1, .blocked false 0}⟩ :=
    Program.exec_run [.env (.waitWhile false), .thread (.waitWhile false) false,
      .env (.transition false)] rfl
  have hdriver : driverProgram.RunIn ClosuresRun ⟨.spawnOnTokio 3 .callSoon, 0⟩
      ⟨{ DriverShared.spawnOnTokio 3 .callSoon with
          state := .ready (.converted (.error (cancelErr 5))), waiters := 1,
          task := .running ⟨none⟩ true },
        {.run [.notify 1, .wake], .blocked false 0}⟩ :=
    Program.exec_runIn [.env (.call (.result false)), .thread (.call (.result false)) .go,
      .thread (.waitForReady false) .go, .env (.call (.cancel 5)),
      .thread (.call (.close (cancelErr 5))) .go] (by simp [ClosuresRun]) rfl
  have hresponse : responseProgram.Run responseInit
      ⟨{ ResponseShared.new with
          request := .failed inFlightErr none none, waiters := 1,
          settled := [⟨.error inFlightErr, .empty⟩] },
        {.notify 1, .blocked 0}⟩ :=
    Program.exec_run [.env .result, .thread .waitRows .go, .thread .waitWhile .go,
      .thread .spawn .go, .thread (.request false) (.fails inFlightErr),
      .thread (.complete (.error inFlightErr)) .go] rfl
  obtain ⟨hgeneric, hdrv, hresp⟩ := no_wakeup_lost
  refine ⟨⟨_, hlock, rfl, by simp, rfl, ?_⟩, ⟨_, hdriver, rfl, by simp, rfl, ?_⟩,
    ⟨_, hresponse, rfl, by simp, rfl, ?_⟩⟩
  · exact (hgeneric _ _ _ _ hlock).2 rfl false 0 (by simp)
  · exact ((hdrv _ _ (.spawnOnTokio 3 .callSoon) hdriver).2 rfl).2.2 nofun false 0 (by simp)
  · exact (hresp _ hresponse).2 rfl 0 (by simp)

end ScyllaDriver
