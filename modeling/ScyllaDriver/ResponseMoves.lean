import ScyllaDriver.ResponseFuture

/-! Everything a thread of a `ResponseFuture` can do in one step. -/

namespace ScyllaDriver

/-- What a reader does next with the rows it got. -/
def RowsReader.todo (rows : Rows) : RowsReader → List ResponsePc
  | .result => []
  | .register registration =>
    if Delivery.of rows = registration.delivery then
      [.invoke registration (callbackValue rows)] else []
  | .drain page unfired => [.fire page (unfired.list (Delivery.of rows)) (callbackValue rows)]

def RowsReader.reports (rows : Rows) : RowsReader → List ResponseReport
  | .result => [.result rows]
  | .register _ | .drain _ _ => []

/-- The state after a completion, before the drainer is woken. -/
def ResponseShared.completed (s : ResponseShared) (outcome : Except PyErr ResponsePage) :
    ResponseShared :=
  { s with
    request := s.request.settle outcome (s.unfiredFor outcome)
    registered := (s.settle outcome (s.unfiredFor outcome)).dropRegistered.registered
    tracingIds := s.extendTracingIds outcome
    settled := s.settled ++ [⟨outcome, s.registered⟩] }

inductive ResponseMove (s : ResponseShared) :
    ResponsePc → ResponseShared → List ResponsePc → Prop where
  | spawn : ResponseMove s .spawn s [.request false]
  | polled {b} : ResponseMove s (.request b) s [.request true]
  | receives {b more tracing} :
      ResponseMove s (.request b) { s with nextResult := s.nextResult + 1 }
        [.complete (.ok ⟨s.nextResult, more, tracing⟩)]
  | fails {b err} : ResponseMove s (.request b) s [.complete (.error err)]
  | dropped {b obj} (h : s.shutdown = true) :
      ResponseMove s (.request b) s (if b then [.completeDropped obj] else [])
  | completeWakes {outcome} (hu : (s.unfiredFor outcome).isSome = true) (hp : s.permit = true) :
      ResponseMove s (.complete outcome) { s.completed outcome with permit := false }
        [.drainer, .notify s.waiters]
  | completes {outcome} (h : (s.unfiredFor outcome).isSome = true → s.permit = false) :
      ResponseMove s (.complete outcome) (s.completed outcome) [.notify s.waiters]
  | completeDropped {obj} (h : s.request.isPending = true) :
      ResponseMove s (.completeDropped obj)
        { s.settle (.error (droppedErr obj)) none with registered := .empty }
        [.notifyDropped s.waiters s.registered]
  | completeDroppedOver {obj} (h : s.request.isPending = false) :
      ResponseMove s (.completeDropped obj) s []
  | notify {n} : ResponseMove s (.notify n) (s.notify n) []
  | notifyDropped {n registered obj} :
      ResponseMove s (.notifyDropped n registered) (s.notify n)
        (if registered.isEmptyFor .errbacks then []
         else [.fireDropped registered.errbacks (droppedErr obj)])
  | fireDroppedDone {err} : ResponseMove s (.fireDropped [] err) s []
  | fireDropped {cb cbs err} :
      ResponseMove s (.fireDropped (cb :: cbs) err)
        { s with invoked := s.invoked ++ [⟨s.current, cb, cb.invoke err.obj⟩] }
        [.fireDropped cbs err]
  | joins {delivery cb unfired} (hu : s.request.unfired = some unfired) :
      ResponseMove s (.register delivery cb)
        { s.keepRegistered delivery cb with
                 request := s.request.setUnfired (some (unfired.push delivery cb)),
                 joined := s.joined ++ [⟨s.current, delivery, cb⟩] } []
  | late {delivery cb rows} (hu : s.request.unfired = none) (hr : s.request.rows = some rows) :
      ResponseMove s (.register delivery cb)
        { s.keepRegistered delivery cb with
                 late := s.late ++ [⟨s.current, delivery, cb⟩] }
        [.buildRows rows (.register ⟨s.current, delivery, cb⟩)]
  | registers {delivery cb} (hp : s.request.isPending = true) :
      ResponseMove s (.register delivery cb)
        (s.keepRegistered delivery cb) []
  | clear : ResponseMove s .clearCallbacks { s with registered := .empty } []
  | startFails {err} :
      ResponseMove s .startFetchingNextPage { s with reports := s.reports ++ [.raised err] } []
  | starts (hp : s.request.isPending = false) (hm : s.hasMorePages = true) :
      ResponseMove s .startFetchingNextPage
        { s with request := .pending s.request.lastPage,
                 unfiredPages :=
                   s.unfiredPages ++ (s.request.takeUnfired s.current).2.toList } [.spawn]
  | waitRowsPending : ResponseMove s .waitRows s [.waitWhile]
  | waitRowsSettled {rows} (hr : s.request.rows = some rows) :
      ResponseMove s .waitRows s [.buildRows rows .result]
  | waitBegins (hp : s.request.isPending = true) :
      ResponseMove s .waitWhile { s with waiters := s.waiters + 1 } [.blocked s.epoch]
  | waitSkips (hp : s.request.isPending = false) : ResponseMove s .waitWhile s [.waitRows]
  | waitAgain {since} (hp : s.request.isPending = true) :
      ResponseMove s (.blocked since) s [.blocked s.epoch]
  | waitLeaves {since} (hp : s.request.isPending = false) :
      ResponseMove s (.blocked since) { s with waiters := s.waiters - 1 } [.waitRows]
  | reads {rows reader} :
      ResponseMove s (.buildRows (.built rows) reader)
        { s with reports := s.reports ++ reader.reports rows } (reader.todo rows)
  | builds {page rows reader} :
      ResponseMove s (.buildRows (.toBuild page) reader)
        { s with built := s.built ++ [(page.queryResult, rows)] } [.storeRows page rows reader]
  | stores {page built reader} :
      ResponseMove s (.storeRows page built reader)
        { s with request := (s.request.storeRows page.queryResult built).1,
                 reports := s.reports ++
                   reader.reports (s.request.storeRows page.queryResult built).2 }
        (reader.todo (s.request.storeRows page.queryResult built).2)
  | invoke {registration value} :
      ResponseMove s (.invoke registration value)
        { s with invoked := s.invoked ++
          [⟨registration.page, registration.callback, registration.callback.invoke value⟩] } []
  | drainer : ResponseMove s .drainer s [.drain]
  | closureDropped (h : s.shutdown = true) : ResponseMove s .drainer s []
  | drainQueued {u rest} (hq : s.unfiredPages = u :: rest) :
      ResponseMove s .drain { s with unfiredPages := rest }
        [.buildRows u.rows (.drain u.page u.unfired)]
  | drainCurrent {rows unfired} (hq : s.unfiredPages = []) (hu : s.request.unfired = some unfired)
      (hr : s.request.rows = some rows) :
      ResponseMove s .drain { s with request := s.request.setUnfired none }
        [.buildRows rows (.drain s.current unfired)]
  | drainParks (hq : s.unfiredPages = []) (hu : s.request.unfired = none) :
      ResponseMove s .drain { s with permit := true } []
  | fireDone {n value} : ResponseMove s (.fire n [] value) s [.drain]
  | fires {n cb cbs value} :
      ResponseMove s (.fire n (cb :: cbs) value)
        { s with fired := s.fired ++ [⟨n, cb, cb.invoke value⟩] } [.fire n cbs value]

theorem RequestState.rows_eq_none {request : RequestState} :
    request.rows = none ↔ request.isPending = true := by
  cases request with
  | received page rows unfired => cases rows <;> simp [rows, isPending]
  | _ => simp [rows, isPending]

theorem RequestState.unfired_settled {request : RequestState} {unfired : Callbacks}
    (h : request.unfired = some unfired) : request.isPending = false := by
  cases request with
  | pending => cases h
  | _ => rfl

theorem RequestState.rows_of_unfired {request : RequestState} {unfired : Callbacks}
    (h : request.unfired = some unfired) : ∃ rows, request.rows = some rows := by
  rw [← Option.ne_none_iff_exists', ne_eq, rows_eq_none, unfired_settled h]
  exact Bool.false_ne_true

/-- What is taken are the callbacks of the current page, with its rows. -/
theorem RequestState.mem_takeUnfired {request : RequestState} {page : Nat} {u : Undelivered}
    (hu : u ∈ (request.takeUnfired page).2.toList) :
    ∃ rows unfired, request.rows = some rows ∧ request.unfired = some unfired ∧
      u = ⟨page, rows, unfired⟩ := by
  unfold takeUnfired at hu
  split at hu
  · rename_i unfired rows hunfired hrows
    exact ⟨rows, unfired, hrows, hunfired, by simpa using hu⟩
  · cases hu

theorem RequestState.setUnfired_unfired_self (request : RequestState) :
    request.setUnfired request.unfired = request := by
  cases request <;> rfl

theorem RequestState.setUnfired_isPending (request : RequestState) (unfired : Option Callbacks) :
    (request.setUnfired unfired).isPending = request.isPending := by
  cases request <;> rfl

theorem RequestState.storeRows_isPending (request : RequestState) (queryResult : Nat)
    (built : Rows) : (request.storeRows queryResult built).1.isPending = request.isPending := by
  cases request with
  | received page rows unfired =>
    simp only [storeRows]
    split <;> rfl
  | _ => rfl

theorem RequestState.storeRows_unfired (request : RequestState) (queryResult : Nat)
    (built : Rows) : (request.storeRows queryResult built).1.unfired = request.unfired := by
  cases request with
  | received page rows unfired =>
    simp only [storeRows]
    split <;> rfl
  | _ => rfl

theorem RequestState.setUnfired_unfired {request : RequestState} (h : request.isPending = false)
    (unfired : Option Callbacks) : (request.setUnfired unfired).unfired = unfired := by
  cases request with
  | pending => cases h
  | _ => rfl

theorem RequestState.settle_unfired (request : RequestState)
    (outcome : Except PyErr ResponsePage) (unfired : Option Callbacks) :
    (request.settle outcome unfired).unfired = unfired := by
  cases outcome <;> rfl

theorem RequestState.settle_isPending (request : RequestState)
    (outcome : Except PyErr ResponsePage) (unfired : Option Callbacks) :
    (request.settle outcome unfired).isPending = false := by
  cases outcome <;> rfl

theorem RequestState.unfired_of_pending {request : RequestState} (h : request.isPending = true) :
    request.unfired = none := by
  cases request with
  | pending => rfl
  | _ => cases h

theorem ResponseShared.deliver_eq (s : ResponseShared) (rows : Rows) (reader : RowsReader) :
    s.deliver rows reader =
      ({ s with reports := s.reports ++ reader.reports rows }, reader.todo rows) := by
  cases reader <;> simp [deliver, RowsReader.reports, RowsReader.todo]

theorem ResponseShared.complete_eq (s : ResponseShared) (outcome : Except PyErr ResponsePage) :
    s.complete outcome =
      if (s.unfiredFor outcome).isSome && s.permit then
        ({ s.completed outcome with permit := false }, [.drainer, .notify s.waiters])
      else (s.completed outcome, [.notify s.waiters]) := by
  have hframe : (settle { s with tracingIds := s.extendTracingIds outcome } outcome
      (s.unfiredFor outcome)).dropRegistered = s.completed outcome := rfl
  simp only [complete, hframe, wakeDrainer]
  cases (s.unfiredFor outcome).isSome with
  | false => rfl
  | true => cases hp : s.permit <;> simp [completed, hp]

theorem move_complete (s : ResponseShared) (outcome : Except PyErr ResponsePage) :
    ResponseMove s (.complete outcome) (s.complete outcome).1 (s.complete outcome).2 := by
  rw [s.complete_eq]
  split
  · rename_i h
    rw [Bool.and_eq_true] at h
    exact .completeWakes h.1 h.2
  · rename_i h
    exact .completes fun hu => by simpa [hu] using h

theorem move_register (s : ResponseShared) (delivery : Delivery) (cb : LegacyCallback) :
    ResponseMove s (.register delivery cb) (s.register delivery cb).1
      (s.register delivery cb).2 := by
  have hreq : (s.keepRegistered delivery cb).request = s.request := rfl
  simp only [ResponseShared.register, hreq]
  cases hu : s.request.unfired with
  | some unfired => exact .joins hu
  | none =>
    cases hr : s.request.rows with
    | some rows => exact .late hu hr
    | none => exact .registers (RequestState.rows_eq_none.mp hr)

theorem move_start (s : ResponseShared) :
    ResponseMove s .startFetchingNextPage s.startFetchingNextPage.1
      s.startFetchingNextPage.2 := by
  simp only [ResponseShared.startFetchingNextPage]
  split
  · exact .startFails
  · rename_i hp
    split
    · rename_i hm
      exact .starts (by simpa using hp) hm
    · exact .startFails

theorem move_drain (s : ResponseShared) : ResponseMove s .drain s.drain.1 s.drain.2 := by
  simp only [ResponseShared.drain]
  split
  · rename_i hq
    exact .drainQueued hq
  · rename_i hq
    cases hu : s.request.unfired with
    | none => simpa [RequestState.takeUnfired, hu] using ResponseMove.drainParks hq hu
    | some unfired =>
      obtain ⟨rows, hr⟩ := RequestState.rows_of_unfired hu
      simpa [RequestState.takeUnfired, hu, hr] using ResponseMove.drainCurrent hq hu hr

theorem ResponseMove.of_some {s s' : ResponseShared} {p : ResponsePc} {q : List ResponsePc}
    {r : ResponseShared × List ResponsePc} (h : some r = some (s', q))
    (hm : ResponseMove s p r.1 r.2) : ResponseMove s p s' q := by
  cases h
  exact hm

theorem responseStep_move {s s' : ResponseShared} {p : ResponsePc} {e : ResponseChoice}
    {q : List ResponsePc} (h : responseStep s p e = some (s', q)) : ResponseMove s p s' q := by
  cases p with
  | spawn => cases h; exact .spawn
  | request polled =>
    cases e with
    | polled => cases h; exact .polled
    | receives more tracing => cases h; exact .receives
    | fails err => cases h; exact .fails
    | dropped obj =>
      simp only [responseStep] at h
      split at h
      · rename_i hs
        cases h
        exact .dropped hs
      · cases h
    | _ => cases h
  | complete outcome => exact .of_some h (move_complete s outcome)
  | completeDropped obj =>
    simp only [responseStep, ResponseShared.completeDropped] at h
    split at h
    · rename_i hp
      cases h
      exact .completeDropped hp
    · rename_i hp
      cases h
      exact .completeDroppedOver (by simpa using hp)
  | notify n => cases h; exact .notify
  | notifyDropped n registered =>
    cases e with
    | dropped obj => cases h; exact .notifyDropped
    | _ => cases h
  | fireDropped cbs err => cases cbs <;> cases h <;> constructor
  | register delivery cb => exact .of_some h (move_register s delivery cb)
  | clearCallbacks => cases h; exact .clear
  | startFetchingNextPage => exact .of_some h (move_start s)
  | waitRows =>
    refine .of_some h ?_
    simp only [ResponseShared.waitRows]
    split
    · rename_i hr
      exact .waitRowsSettled hr
    · exact .waitRowsPending
  | waitWhile =>
    refine .of_some h ?_
    simp only [ResponseShared.waitWhile]
    split
    · rename_i hp
      exact .waitBegins hp
    · rename_i hp
      exact .waitSkips (by simpa using hp)
  | blocked since =>
    refine .of_some h ?_
    simp only [ResponseShared.wakeUp]
    split
    · rename_i hp
      exact .waitAgain hp
    · rename_i hp
      exact .waitLeaves (by simpa using hp)
  | buildRows rows reader =>
    cases rows with
    | built rows =>
      simp only [responseStep, ResponseShared.deliver_eq] at h
      cases h
      exact .reads
    | toBuild page =>
      cases e with
      | built rows => cases h; exact .builds
      | _ => cases h
  | storeRows page built reader =>
    simp only [responseStep, ResponseShared.storeRows, ResponseShared.deliver_eq] at h
    cases h
    exact .stores
  | invoke registration value => cases h; exact .invoke
  | drainer =>
    cases e with
    | go => cases h; exact .drainer
    | closureDropped =>
      simp only [responseStep] at h
      split at h
      · rename_i hs
        cases h
        exact .closureDropped hs
      · cases h
    | _ => cases h
  | drain => exact .of_some h (move_drain s)
  | fire n cbs value => cases cbs <;> cases h <;> constructor

/-- What a call of a method brings. -/
inductive ResponseArrival (s : ResponseShared) :
    ResponseEvent → ResponseShared → List ResponsePc → Prop where
  | add {k delivery cb} (hcb : cb.registration = s.registrations) :
      ResponseArrival s k { s with registrations := s.registrations + 1 } [.register delivery cb]
  | clear : ResponseArrival s .clearCallbacks s [.clearCallbacks]
  | start : ResponseArrival s .startFetchingNextPage s [.startFetchingNextPage]
  | result : ResponseArrival s .result s [.waitRows]
  | shutdown : ResponseArrival s .shutdown { s with shutdown := true } []

theorem responseEnv_arrival {s s' : ResponseShared} {k : ResponseEvent} {q : List ResponsePc}
    (h : responseEnv s k = some (s', q)) : ResponseArrival s k s' q := by
  cases k <;> cases h
  case addCallback | addErrback => exact .add rfl
  all_goals constructor

theorem RequestState.setUnfired_lastPage (request : RequestState) (unfired : Option Callbacks) :
    (request.setUnfired unfired).lastPage = request.lastPage := by
  cases request <;> rfl

theorem RequestState.storeRows_lastPage (request : RequestState) (queryResult : Nat)
    (built : Rows) : (request.storeRows queryResult built).1.lastPage = request.lastPage := by
  cases request with
  | received page rows unfired =>
    simp only [storeRows]
    split <;> rfl
  | _ => rfl

end ScyllaDriver
