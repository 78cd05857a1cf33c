import ScyllaDriver.DriverFuture
import ScyllaDriver.ResponseMoves

/-! `spawn_guarded`: the state machine of its `async` block over every life of the tokio task.
The guard that reports a task that is dropped exists from the first poll on. -/

namespace ScyllaDriver

namespace GuardedTask

inductive Poll (σ α : Type) where
  | pending (state : σ)
  | ready (output : α)
  | panicked

/-- A future by what a poll does; the answers are what the world outside contributes. -/
structure RustFuture (α : Type) where
  State : Type
  Answer : Type
  start : State
  poll : State → Answer → Poll State α

inductive TaskDropped where
  | taskDropped
  deriving DecidableEq, Repr

/-- `on_done` is called by putting its argument into the list of reports. -/
abbrev Reports (α : Type) := List (Except TaskDropped α)

/-- Whether `on_done` is still there. -/
structure DropGuard where
  onDone : Bool
  deriving DecidableEq, Repr

def DropGuard.drop {α : Type} (guard : DropGuard) (reports : Reports α) : Reports α :=
  if guard.onDone then reports ++ [.error .taskDropped] else reports

/-- Where the `async` block is. Before its first poll it has what it captured, and no guard. -/
inductive AsyncBlock (σ α : Type) where
  | unresumed (future : σ)
  | suspended (guard : DropGuard) (future : σ)
  | returned (output : α)
  | panicked

namespace AsyncBlock

variable {α : Type} {F : RustFuture α}

/-- From the creation of the guard, or from the `await`, to the next suspension or the end. -/
def resume (guard : DropGuard) (future : F.State) (answer : F.Answer) (reports : Reports α) :
    AsyncBlock F.State α × Reports α :=
  match F.poll future answer with
  | .pending future => (.suspended guard future, reports)
  | .ready output =>
    let reports := if guard.onDone then reports ++ [.ok output] else reports
    -- The guard goes out of scope with `on_done` taken.
    (.returned output, DropGuard.drop ⟨false⟩ reports)
  | .panicked => (.panicked, guard.drop reports)

def poll (block : AsyncBlock F.State α) (answer : F.Answer) (reports : Reports α) :
    AsyncBlock F.State α × Reports α :=
  match block with
  | .unresumed future => resume ⟨true⟩ future answer reports
  | .suspended guard future => resume guard future answer reports
  | .returned _ => (.panicked, reports)
  | .panicked => (.panicked, reports)

def drop (block : AsyncBlock F.State α) (reports : Reports α) : Reports α :=
  match block with
  | .unresumed _ => reports
  | .suspended guard _ => guard.drop reports
  | .returned _ => reports
  | .panicked => reports

end AsyncBlock

/-- The task; `block` is gone once tokio dropped it. `polls` and `output` are its history. -/
structure Task {α : Type} (F : RustFuture α) where
  block : Option (AsyncBlock F.State α)
  reports : Reports α
  polls : Nat
  output : Option α

/-- `drop`: the task is aborted, or the runtime shuts down. -/
inductive Event {α : Type} (F : RustFuture α) where
  | poll (answer : F.Answer)
  | drop

namespace Task

variable {α : Type} {F : RustFuture α}

def drop (task : Task F) : Task F :=
  match task.block with
  | some block => { task with block := none, reports := block.drop task.reports }
  | none => task

/-- A runtime that was shut down drops the task at once. -/
def spawn (F : RustFuture α) (runtimeUp : Bool) : Task F :=
  let task : Task F := ⟨some (.unresumed F.start), [], 0, none⟩
  if runtimeUp then task else task.drop

/-- tokio drops a block that returned or panicked. -/
def poll (task : Task F) (answer : F.Answer) : Task F :=
  match task.block with
  | none => task
  | some block =>
    let (block, reports) := block.poll answer task.reports
    let task := { task with block := some block, reports := reports, polls := task.polls + 1 }
    match block with
    | .returned output => ({ task with output := some output }).drop
    | .panicked => task.drop
    | .unresumed _ => task
    | .suspended _ _ => task

def step (task : Task F) : Event F → Task F
  | .poll answer => task.poll answer
  | .drop => task.drop

def run (task : Task F) (life : List (Event F)) : Task F := life.foldl step task

/-- What a task that is gone should have told. -/
def outcome (task : Task F) : Except TaskDropped α :=
  match task.output with
  | some output => .ok output
  | none => .error .taskDropped

/-- Nothing is told before the end, and everything at the end if the task was ever polled. -/
def Sound (task : Task F) : Prop :=
  match task.block with
  | some (.unresumed _) => task.reports = [] ∧ task.polls = 0 ∧ task.output = none
  | some (.suspended guard _) =>
    guard.onDone = true ∧ task.reports = [] ∧ 0 < task.polls ∧ task.output = none
  | some (.returned _) => False
  | some .panicked => False
  | none => if task.polls = 0 then task.reports = [] else task.reports = [task.outcome]

theorem Sound.drop {task : Task F} (h : task.Sound) : task.drop.Sound := by
  obtain ⟨block, reports, polls, output⟩ := task
  cases block with
  | none => exact h
  | some block =>
    cases block with
    | unresumed future =>
      obtain ⟨rfl, rfl, rfl⟩ := h
      rfl
    | suspended guard future =>
      obtain ⟨hguard, hreports, hpolls, houtput⟩ := h
      have hreports' : reports = [] := hreports
      have houtput' : output = none := houtput
      have hpolls' : polls ≠ 0 := Nat.pos_iff_ne_zero.mp hpolls
      simp [Sound, Task.drop, AsyncBlock.drop, DropGuard.drop, hguard, hreports', houtput', hpolls',
        outcome]
    | returned output => exact h.elim
    | panicked => exact h.elim

theorem sound_resume {task : Task F} {guard : DropGuard} {future : F.State} {answer : F.Answer}
    (hguard : guard.onDone = true) (hreports : task.reports = []) (houtput : task.output = none)
    (hblock : task.block = some (.suspended guard future) ∨
      guard = ⟨true⟩ ∧ task.block = some (.unresumed future)) : (task.poll answer).Sound := by
  have hpoll : ∃ block, task.block = some block ∧
      block.poll answer task.reports = AsyncBlock.resume guard future answer task.reports := by
    rcases hblock with hblock | ⟨rfl, hblock⟩ <;> exact ⟨_, hblock, rfl⟩
  obtain ⟨block, hblock, hresume⟩ := hpoll
  unfold Task.poll
  rw [hblock]
  simp only [hresume, AsyncBlock.resume]
  cases F.poll future answer with
  | pending future => exact ⟨hguard, hreports, Nat.succ_pos _, houtput⟩
  | ready output =>
    simp [Sound, Task.drop, AsyncBlock.drop, DropGuard.drop, hguard, hreports, outcome]
  | panicked =>
    simp [Sound, Task.drop, AsyncBlock.drop, DropGuard.drop, hguard, hreports, houtput, outcome]

theorem Sound.step {task : Task F} (h : task.Sound) (event : Event F) : (task.step event).Sound := by
  cases event with
  | drop => exact h.drop
  | poll answer =>
    cases hblock : task.block with
    | none =>
      have hsame : task.step (.poll answer) = task := by simp [Task.step, Task.poll, hblock]
      rwa [hsame]
    | some block =>
      have hsound := h
      unfold Sound at hsound
      rw [hblock] at hsound
      cases block with
      | unresumed future =>
        exact sound_resume rfl hsound.1 hsound.2.2 (.inr ⟨rfl, hblock⟩)
      | suspended guard future =>
        exact sound_resume hsound.1 hsound.2.1 hsound.2.2.2 (.inl hblock)
      | returned output => exact hsound.elim
      | panicked => exact hsound.elim

theorem sound_spawn (runtimeUp : Bool) : (spawn F runtimeUp).Sound := by
  have hup : Sound (⟨some (.unresumed F.start), [], 0, none⟩ : Task F) := ⟨rfl, rfl, rfl⟩
  cases runtimeUp with
  | true => exact hup
  | false => exact hup.drop

theorem sound_run {task : Task F} (h : task.Sound) (life : List (Event F)) :
    (task.run life).Sound := by
  induction life generalizing task with
  | nil => exact h
  | cons event life ih => exact ih (h.step event)

theorem polls_drop (task : Task F) : task.drop.polls = task.polls := by
  unfold Task.drop
  split <;> rfl

theorem polls_poll {task : Task F} {block : AsyncBlock F.State α} (h : task.block = some block)
    (answer : F.Answer) : (task.poll answer).polls = task.polls + 1 := by
  unfold Task.poll
  rw [h]
  dsimp only
  split
  · exact polls_drop _
  · exact polls_drop _
  · rfl
  · rfl

theorem polls_le_step (task : Task F) (event : Event F) : task.polls ≤ (task.step event).polls := by
  cases event with
  | drop => exact (polls_drop task).ge
  | poll answer =>
    cases hblock : task.block with
    | none => simp [Task.step, Task.poll, hblock]
    | some block =>
      have hpolls := polls_poll hblock answer
      simp only [Task.step]
      omega

theorem polls_le_run (task : Task F) (life : List (Event F)) :
    task.polls ≤ (task.run life).polls := by
  induction life generalizing task with
  | nil => exact le_rfl
  | cons event life ih => exact (polls_le_step task event).trans (ih (task.step event))

theorem run_of_gone {task : Task F} (h : task.block = none) (life : List (Event F)) :
    task.run life = task := by
  induction life with
  | nil => rfl
  | cons event life ih =>
    have hstep : task.step event = task := by
      cases event <;> simp [Task.step, Task.poll, Task.drop, h]
    simpa [Task.run, hstep] using ih

/-- The runtime takes the task, and polls it before anything else happens to it. -/
def IsPolled (runtimeUp : Bool) (life : List (Event F)) : Prop :=
  runtimeUp = true ∧ ∃ answer rest, life = .poll answer :: rest

theorem polls_pos_iff (runtimeUp : Bool) (life : List (Event F)) :
    0 < ((spawn F runtimeUp).run life).polls ↔ IsPolled runtimeUp life := by
  constructor
  · intro hpolls
    cases runtimeUp with
    | false =>
      rw [run_of_gone rfl] at hpolls
      exact absurd hpolls (lt_irrefl 0)
    | true =>
      cases life with
      | nil => exact absurd hpolls (lt_irrefl 0)
      | cons event rest =>
        cases event with
        | poll answer => exact ⟨rfl, answer, rest, rfl⟩
        | drop =>
          -- Without a guard, dropping the block tells nobody.
          have hgone : ((spawn F true).run (.drop :: rest)) = (spawn F true).drop :=
            run_of_gone rfl rest
          rw [hgone] at hpolls
          exact absurd hpolls (lt_irrefl 0)
  · rintro ⟨rfl, answer, rest, rfl⟩
    have hfirst : ((spawn F true).poll answer).polls = 1 := polls_poll rfl answer
    have hrest := polls_le_run ((spawn F true).poll answer) rest
    have hrun : (spawn F true).run (.poll answer :: rest) =
        ((spawn F true).poll answer).run rest := rfl
    rw [hrun]
    omega

end Task

/-- Who waits for the outcome: one report ends the waiting. -/
structure Consumer (α : Type) where
  State : Type
  onDone : Except TaskDropped α → State → State
  pending : State → Prop
  settles : ∀ outcome state, ¬ pending (onDone outcome state)

def Consumer.tell {α : Type} (consumer : Consumer α) (state : consumer.State)
    (reports : Reports α) : consumer.State :=
  reports.foldl (fun state outcome => consumer.onDone outcome state) state

/-- `resolve_on_tokio`; `obj` is the exception object of a dropped task. -/
def driverFuture (obj : PyObj) : Consumer ResolvedResult where
  State := DriverShared
  onDone
    | .ok resolved, s => (s.resolveOnTokio (.finished resolved)).1
    | .error .taskDropped, s => (s.resolveOnTokio (.dropped obj)).1
  pending s := ∃ callbacks, s.state = .pendingTokio callbacks
  settles := by
    rintro outcome s ⟨callbacks, hpending⟩
    cases hstate : s.state <;> cases outcome <;>
      simp [DriverShared.resolveOnTokio, hstate] at hpending

theorem isPending_complete (s : ResponseShared) (outcome : Except PyErr ResponsePage) :
    (s.complete outcome).1.request.isPending = false := by
  have hsettled : (s.completed outcome).request.isPending = false :=
    RequestState.settle_isPending _ _ _
  rw [s.complete_eq]
  split <;> exact hsettled

theorem isPending_completeDropped (s : ResponseShared) (obj : PyObj) :
    (s.completeDropped obj).1.request.isPending = false := by
  unfold ResponseShared.completeDropped
  split
  · rfl
  · rename_i hpending
    exact Bool.eq_false_iff.mpr hpending

/-- The closure of `ResponseInner::spawn`. -/
def responseFuture (obj : PyObj) : Consumer (Except PyErr ResponsePage) where
  State := ResponseShared
  onDone
    | .ok outcome, s => (s.complete outcome).1
    | .error .taskDropped, s => (s.completeDropped obj).1
  pending s := s.request.isPending = true
  settles := by
    intro outcome s
    cases outcome with
    | ok outcome => exact Bool.eq_false_iff.mp (isPending_complete s outcome)
    | error dropped => exact Bool.eq_false_iff.mp (isPending_completeDropped s obj)

/-- `on_done` was called once, with the outcome, and nobody waits any more. -/
structure Reported {α : Type} {F : RustFuture α} (task : Task F) : Prop where
  once : task.reports = [task.outcome]
  settled : ∀ (consumer : Consumer α) (state : consumer.State),
    ¬ consumer.pending (consumer.tell state task.reports)

theorem guarded_reported_iff {α : Type} (F : RustFuture α) (runtimeUp : Bool)
    (life : List (Event F)) (hgone : ((Task.spawn F runtimeUp).run life).block = none) :
    Reported ((Task.spawn F runtimeUp).run life) ↔ Task.IsPolled runtimeUp life := by
  have h := Task.sound_run (Task.sound_spawn (F := F) runtimeUp) life
  unfold Task.Sound at h
  rw [hgone] at h
  rw [← Task.polls_pos_iff]
  by_cases hpolls : ((Task.spawn F runtimeUp).run life).polls = 0
  · rw [if_pos hpolls] at h
    constructor
    · intro hreported
      rw [hreported.once] at h
      cases h
    · omega
  · rw [if_neg hpolls] at h
    refine ⟨fun _ => Nat.pos_of_ne_zero hpolls, fun _ => ⟨h, fun consumer state => ?_⟩⟩
    rw [h]
    exact consumer.settles _ _

/-- A request whose answer comes at the second poll. -/
def secondPoll : RustFuture ResolvedResult where
  State := Bool
  Answer := Unit
  start := false
  poll
    | false, _ => .pending true
    | true, _ => .ready (.stashed ⟨some 7⟩)

theorem guarded_reported_iff_aborted :
    Reported ((Task.spawn secondPoll true).run [.poll (), .drop]) ∧
      Reported ((Task.spawn secondPoll true).run [.poll (), .poll (), .drop]) :=
  ⟨(guarded_reported_iff secondPoll true [.poll (), .drop] rfl).mpr ⟨rfl, _, _, rfl⟩,
    (guarded_reported_iff secondPoll true [.poll (), .poll (), .drop] rfl).mpr
      ⟨rfl, _, _, rfl⟩⟩

/-- A shutdown runtime drops the task unpolled: nothing is told, and the future stays pending. -/
theorem unpolled_task_unreported :
    (Task.spawn secondPoll false).block = none ∧ (Task.spawn secondPoll false).reports = [] ∧
      ((Task.spawn secondPoll true).run [.drop]).block = none ∧
      ((Task.spawn secondPoll true).run [.drop]).reports = [] ∧
      (driverFuture 5).pending ((driverFuture 5).tell (DriverShared.spawnOnTokio 3 .callSoon)
        (Task.spawn secondPoll false).reports) :=
  ⟨rfl, rfl, rfl, rfl, _, rfl⟩

end GuardedTask

end ScyllaDriver
