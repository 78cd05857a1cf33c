import ScyllaDriver.Paging
import ScyllaDriver.ValueLists

/-! When the values of a call are read. `execute` serializes the values of a prepared
statement itself; those of an unprepared one, and of every statement of a batch, stay
Python objects until a request is written, and the caller may change them before that. -/

namespace ScyllaDriver

open Framing

/-- A statement with the columns the server names for its markers. -/
inductive StatementKind where
  | prepared (columns : List ColumnSpec)
  | unprepared (columns : List ColumnSpec)

/-- Objects are named by numbers. -/
inductive BoundStatement where
  | prepared (serializedValues : SerializedRow)
  | unprepared (columns : List ColumnSpec) (values : PyValueList Nat)

abbrev BoundForeign (F : Foreign) : Foreign := { F with BoundStatement := BoundStatement }

inductive CallError where
  | invalidValues (err : PyErr)
  | serializationFailed (err : RowError)
  | pagingStateMustBeNoneForUnpagedExecution

/-- What the spawned future sends first. -/
inductive Request (F : Foreign) where
  | execute (params : ExecutionParams (BoundForeign F))
  | batch (statements : List (StatementKind × PyValueList Nat))

variable {P : Interop} (R : Runtime P) {F : Foreign}

def BoundStatement.new (contents : Nat → RowObject P) (values : PyValueList Nat) :
    StatementKind → RowResult BoundStatement
  | .prepared columns => do return .prepared (← values.serialize R contents columns)
  | .unprepared columns => .ok (.unprepared columns values)

/-- The Rust driver sends a statement without values as it is, and prepares one with values to
learn its columns. -/
def unpreparedRow (contents : Nat → RowObject P) (columns : List ColumnSpec) :
    PyValueList Nat → RowResult SerializedRow
  | .empty => .ok []
  | values => values.serialize R contents columns

/-- The row that a request of the statement carries, if it is made now. -/
def BoundStatement.carries (contents : Nat → RowObject P) : BoundStatement → RowResult SerializedRow
  | .prepared serializedValues => .ok serializedValues
  | .unprepared columns values => unpreparedRow R contents columns values

def batchRow (contents : Nat → RowObject P) : StatementKind × PyValueList Nat → RowResult SerializedRow
  | (.prepared columns, values) => values.serialize R contents columns
  | (.unprepared columns, values) => unpreparedRow R contents columns values

def Request.carries (contents : Nat → RowObject P) : Request F → RowResult (List SerializedRow)
  | .execute (.unpaged bound) => (bound.carries R contents).map fun row => [row]
  | .execute (.paged bound _) => (bound.carries R contents).map fun row => [row]
  | .batch statements => statements.mapM (batchRow R contents)

def extractValues (contents : Nat → RowObject P) : Option Nat → Except CallError (PyValueList Nat)
  | none => .ok .empty
  | some object => (PyValueList.extract object (contents object)).mapError .invalidValues

/-- `SessionCore::execute` up to its return. -/
def executeCall (contents : Nat → RowObject P) (kind : StatementKind) (values : Option Nat)
    (startState : F.PagingState) (pagingState : Option F.PagingState) (paged : Bool) :
    Except CallError (Request F) := do
  let values ← extractValues contents values
  if paged then
    let bound ← (BoundStatement.new R contents values kind).mapError .serializationFailed
    return .execute (.paged bound (pagingState.getD startState))
  else if pagingState.isSome then .error .pagingStateMustBeNoneForUnpagedExecution
  else
    let bound ← (BoundStatement.new R contents values kind).mapError .serializationFailed
    return .execute (.unpaged bound)

inductive SessionCall (F : Foreign) where
  | execute (kind : StatementKind) (values : Option Nat) (startState : F.PagingState)
    (pagingState : Option F.PagingState) (paged : Bool)
  | batch (statements : List (StatementKind × PyValueList Nat))

/-- What is left to do when the call returns. A batch is a snapshot of its statements, with
references to the values given to `Batch.add`. -/
def SessionCall.request (contents : Nat → RowObject P) : SessionCall F → Except CallError (Request F)
  | .execute kind values startState pagingState paged =>
    executeCall R contents kind values startState pagingState paged
  | .batch statements => .ok (.batch statements)

/-- The rows of the values as they are at the call. -/
def SessionCall.rows (contents : Nat → RowObject P) :
    SessionCall F → Except CallError (List SerializedRow)
  | .execute kind values _ _ _ => do
    let values ← extractValues contents values
    let row ← (batchRow R contents (kind, values)).mapError .serializationFailed
    return [row]
  | .batch statements =>
    (statements.mapM (batchRow R contents)).mapError .serializationFailed

def SessionCall.isPreparedExecute : SessionCall F → Bool
  | .execute (.prepared _) _ _ _ _ => true
  | _ => false

/-- A call that has returned: the caller's objects, the first request while it is not sent, the
pagers of the results so far and the rows of the requests sent. -/
structure CallState (F : Foreign) (P : Interop) where
  contents : Nat → RowObject P
  pending : Option (Request F)
  pagers : List (Pager (BoundForeign F)) := []
  sent : List (List SerializedRow) := []

inductive CallStep (F : Foreign) (P : Interop) where
  /-- The caller gives an object another content. -/
  | mutate (object : Nat) (content : RowObject P)
  | first (reply : PageReply (BoundForeign F))
  /-- `fetch_next_page` of a pager. -/
  | fetch (pager : Nat) (reply : PageReply (BoundForeign F))
  /-- A result, page or iterator takes a copy of a pager. -/
  | share (pager : Nat)

def CallStep.isMutate : CallStep F P → Bool
  | .mutate _ _ => true
  | _ => false

def Request.pagers (reply : PageReply (BoundForeign F)) :
    Request F → List (Pager (BoundForeign F))
  | .execute (.paged bound _) => match reply with
    | .ok (_, pagingResponse) => [.paged pagingResponse bound]
    | .error _ => []
  | _ => [.unpaged]

/-- Values that cannot be serialized end the request before it is sent. -/
def CallState.step (s : CallState F P) : CallStep F P → CallState F P
  | .mutate object content => { s with contents := Function.update s.contents object content }
  | .first reply => match s.pending with
    | none => s
    | some request => match request.carries R s.contents with
      | .error _ => { s with pending := none }
      | .ok rows => { s with
          pending := none, sent := s.sent ++ [rows], pagers := s.pagers ++ request.pagers reply }
  | .fetch i reply => match s.pagers[i]? with
    | none => s
    | some pager => match pager.request with
      | none => s
      | some (bound, _) => match BoundStatement.carries R s.contents bound with
        | .error _ => s
        | .ok row => { s with
            sent := s.sent ++ [[row]]
            pagers := s.pagers.set i (pager.fetchNextPage fun _ _ => reply).2 }
  | .share i => { s with pagers := s.pagers ++ s.pagers[i]?.toList }

def CallState.run (s : CallState F P) (steps : List (CallStep F P)) : CallState F P :=
  steps.foldl (CallState.step R) s

/-- The step may send a request. -/
def CallStep.isRequest : CallStep F P → Bool
  | .first _ => true
  | .fetch _ _ => true
  | _ => false

/-- None of the containers is changed while a request is still to come. A container is changed
with everything that is inside it. -/
def Untouched (containers : List Nat) : List (CallStep F P) → Prop
  | [] => True
  | step :: steps =>
    (∀ object ∈ containers, ∀ content, step = .mutate object content →
      ∀ later ∈ steps, later.isRequest = false) ∧
    Untouched containers steps

def PyValueList.objects : PyValueList Nat → List Nat
  | .sequence object => [object]
  | .mapping object => [object]
  | .empty => []

/-- The containers that the caller gave as values. -/
def SessionCall.containers : SessionCall F → List Nat
  | .execute _ values _ _ _ => values.toList
  | .batch statements => statements.flatMap fun statement => statement.2.objects

/-- The call is `execute` of a prepared statement, or nobody changes its containers before the
last request. -/
def SessionCall.Kept (call : SessionCall F) (steps : List (CallStep F P)) : Prop :=
  call.isPreparedExecute = true ∨ Untouched call.containers steps

variable {R}

section Containers

def BoundStatement.objects : BoundStatement → List Nat
  | .prepared _ => []
  | .unprepared _ values => values.objects

/-- The containers that are read when the request is sent. -/
def Request.objects : Request F → List Nat
  | .execute (.unpaged bound) => bound.objects
  | .execute (.paged bound _) => bound.objects
  | .batch statements => statements.flatMap fun statement => statement.2.objects

theorem Untouched.mono {containers containers' : List Nat} {steps : List (CallStep F P)}
    (hsubset : containers' ⊆ containers) (h : Untouched containers steps) :
    Untouched containers' steps := by
  induction steps with
  | nil => trivial
  | cons step steps ih => exact ⟨fun object hobject => h.1 object (hsubset hobject), ih h.2⟩

theorem untouched_nil (steps : List (CallStep F P)) : Untouched [] steps := by
  induction steps with
  | nil => trivial
  | cons step steps ih => exact ⟨fun object hobject => absurd hobject List.not_mem_nil, ih⟩

variable {contents contents' : Nat → RowObject P}

theorem PyValueList.serialize_congr {values : PyValueList Nat} {columns : List ColumnSpec}
    (h : ∀ object ∈ values.objects, contents object = contents' object) :
    values.serialize R contents columns = values.serialize R contents' columns := by
  cases values with
  | empty => rfl
  | sequence object =>
    have hobject := h object (by simp [PyValueList.objects])
    simp only [PyValueList.serialize, hobject]
  | mapping object =>
    have hobject := h object (by simp [PyValueList.objects])
    simp only [PyValueList.serialize, hobject]

theorem unpreparedRow_congr {values : PyValueList Nat} {columns : List ColumnSpec}
    (h : ∀ object ∈ values.objects, contents object = contents' object) :
    unpreparedRow R contents columns values = unpreparedRow R contents' columns values := by
  cases values with
  | empty => rfl
  | sequence object => exact PyValueList.serialize_congr h
  | mapping object => exact PyValueList.serialize_congr h

theorem BoundStatement.carries_congr {bound : BoundStatement}
    (h : ∀ object ∈ bound.objects, contents object = contents' object) :
    bound.carries R contents = bound.carries R contents' := by
  cases bound with
  | prepared row => rfl
  | unprepared columns values => exact unpreparedRow_congr h

theorem batchRow_congr {statement : StatementKind × PyValueList Nat}
    (h : ∀ object ∈ statement.2.objects, contents object = contents' object) :
    batchRow R contents statement = batchRow R contents' statement := by
  obtain ⟨kind, values⟩ := statement
  cases kind with
  | prepared columns => exact PyValueList.serialize_congr h
  | unprepared columns => exact unpreparedRow_congr h

theorem batchRows_congr {statements : List (StatementKind × PyValueList Nat)}
    (h : ∀ object ∈ statements.flatMap (fun statement => statement.2.objects),
      contents object = contents' object) :
    statements.mapM (batchRow R contents) = statements.mapM (batchRow R contents') := by
  induction statements with
  | nil => rfl
  | cons statement statements ih =>
    simp only [List.flatMap_cons, List.forall_mem_append] at h
    rw [List.mapM_cons, List.mapM_cons, batchRow_congr h.1, ih h.2]

/-- What a request carries depends on no other containers than its own. -/
theorem Request.carries_congr {request : Request F}
    (h : ∀ object ∈ request.objects, contents object = contents' object) :
    request.carries R contents = request.carries R contents' := by
  match request with
  | .execute (.unpaged bound) => rw [Request.carries, BoundStatement.carries_congr h, Request.carries]
  | .execute (.paged bound _) => rw [Request.carries, BoundStatement.carries_congr h, Request.carries]
  | .batch statements => exact batchRows_congr h

end Containers

/-- The pager belongs to the request: it holds no other statement. -/
def Request.Owns (request : Request F) (pager : Pager (BoundForeign F)) : Prop :=
  ∀ response bound, pager = .paged response bound →
    ∃ state, request = .execute (.paged bound state)

/-- Two states of one call that have seen the same requests, and see the same values. -/
structure Agrees (R : Runtime P) (request : Request F) (s t : CallState F P) : Prop where
  pending : s.pending = t.pending
  pagers : s.pagers = t.pagers
  sent : s.sent = t.sent
  carries : request.carries R s.contents = request.carries R t.contents
  own : ∀ other, s.pending = some other → other = request
  owns : ∀ pager ∈ s.pagers, request.Owns pager
  carried : ∀ rows ∈ s.sent, request.carries R s.contents = .ok rows

section Steps

variable {request : Request F} {s t : CallState F P}

theorem Request.Owns.fetched {pager : Pager (BoundForeign F)} (h : request.Owns pager)
    (reply : PageReply (BoundForeign F)) :
    request.Owns (pager.fetchNextPage fun _ _ => reply).2 := by
  cases pager with
  | unpaged => exact h
  | paged response bound =>
    cases response with
    | noMorePages => exact h
    | hasMorePages state =>
      cases reply with
      | error err => exact h
      | ok page =>
        intro response' bound' heq
        obtain ⟨rfl, rfl⟩ : page.2 = response' ∧ bound = bound' := by
          simpa [Pager.fetchNextPage] using heq
        exact h _ _ rfl

theorem Request.owns_pagers (request : Request F) (reply : PageReply (BoundForeign F)) :
    ∀ pager ∈ request.pagers reply, request.Owns pager := by
  intro pager hpager response bound heq
  subst heq
  match request with
  | .batch _ => simp [Request.pagers] at hpager
  | .execute (.unpaged _) => simp [Request.pagers] at hpager
  | .execute (.paged bound' state) =>
    cases reply with
    | error err => simp [Request.pagers] at hpager
    | ok page =>
      obtain ⟨_, rfl⟩ : response = page.2 ∧ bound = bound' := by
        simpa [Request.pagers] using hpager
      exact ⟨state, rfl⟩

/-- A pager of the request asks for the next page with the row the request itself carries. -/
theorem Request.Owns.carries {pager : Pager (BoundForeign F)} (h : request.Owns pager)
    {bound : BoundStatement} {state : F.PagingState} (hrequest : pager.request = some (bound, state))
    (contents : Nat → RowObject P) :
    request.carries R contents = (bound.carries R contents).map fun row => [row] := by
  match pager with
  | .unpaged => simp [Pager.request] at hrequest
  | .paged .noMorePages _ => simp [Pager.request] at hrequest
  | .paged (.hasMorePages _) bound' =>
    obtain ⟨rfl, _⟩ : bound' = bound ∧ _ := by simpa [Pager.request] using hrequest
    obtain ⟨start, rfl⟩ := h _ _ rfl
    rfl

theorem map_singleton_injective {x y : RowResult SerializedRow}
    (h : x.map (fun row => [row]) = y.map fun row => [row]) : x = y := by
  cases x with
  | error err => cases y <;> simp_all [Except.map]
  | ok row => cases y <;> simp_all [Except.map]

theorem Agrees.mutate (h : Agrees R request s t) {object : Nat} {content : RowObject P}
    (hother : object ∉ request.objects) :
    Agrees R request (s.step R (.mutate object content)) t := by
  have hcarries : request.carries R (s.step R (.mutate object content)).contents =
      request.carries R s.contents := by
    refine Request.carries_congr fun other hmem => Function.update_of_ne ?_ _ _
    rintro rfl
    exact hother hmem
  exact ⟨h.pending, h.pagers, h.sent, hcarries.trans h.carries, h.own, h.owns,
    fun rows hrows => hcarries.trans (h.carried rows hrows)⟩

theorem Agrees.first (h : Agrees R request s t) (reply : PageReply (BoundForeign F)) :
    Agrees R request (s.step R (.first reply)) (t.step R (.first reply)) := by
  have hpending := h.pending
  cases hs : s.pending with
  | none =>
    have ht : t.pending = none := by rw [← hpending, hs]
    simpa only [CallState.step, hs, ht] using h
  | some other =>
    have ht : t.pending = some other := by rw [← hpending, hs]
    obtain rfl := h.own other hs
    have hcarries := h.carries
    cases hrows : other.carries R t.contents with
    | error err =>
      rw [hrows] at hcarries
      simp only [CallState.step, hs, ht, hrows, hcarries]
      exact ⟨rfl, h.pagers, h.sent, h.carries, by simp, h.owns, h.carried⟩
    | ok rows =>
      rw [hrows] at hcarries
      simp only [CallState.step, hs, ht, hrows, hcarries]
      refine ⟨rfl, by simp [h.pagers], by simp [h.sent], h.carries, by simp, ?_, ?_⟩
      · intro pager hpager
        rcases List.mem_append.mp hpager with hpager | hpager
        · exact h.owns pager hpager
        · exact other.owns_pagers reply pager hpager
      · simpa [or_imp, forall_and] using ⟨h.carried, hcarries⟩

theorem Agrees.fetch (h : Agrees R request s t) (i : Nat) (reply : PageReply (BoundForeign F)) :
    Agrees R request (s.step R (.fetch i reply)) (t.step R (.fetch i reply)) := by
  have hpagers := h.pagers
  cases hpager : s.pagers[i]? with
  | none =>
    have ht : t.pagers[i]? = none := by rw [← hpagers, hpager]
    simpa only [CallState.step, hpager, ht] using h
  | some pager =>
    have ht : t.pagers[i]? = some pager := by rw [← hpagers, hpager]
    have howns := h.owns pager (List.mem_of_getElem? hpager)
    cases hrequest : pager.request with
    | none => simpa only [CallState.step, hpager, ht, hrequest] using h
    | some next =>
      obtain ⟨bound, state⟩ := next
      have hcarries : bound.carries R s.contents = bound.carries R t.contents := by
        apply map_singleton_injective
        rw [← howns.carries hrequest, ← howns.carries hrequest, h.carries]
      cases hrow : bound.carries R t.contents with
      | error err =>
        rw [hrow] at hcarries
        simpa only [CallState.step, hpager, ht, hrequest, hrow, hcarries] using h
      | ok row =>
        rw [hrow] at hcarries
        simp only [CallState.step, hpager, ht, hrequest, hrow, hcarries]
        have hrows : request.carries R s.contents = .ok [row] := by
          rw [howns.carries hrequest, hcarries]
          rfl
        refine ⟨h.pending, by simp [h.pagers], by simp [h.sent], h.carries, h.own, ?_, ?_⟩
        · intro other hother
          rcases List.mem_or_eq_of_mem_set hother with hother | rfl
          · exact h.owns other hother
          · exact howns.fetched reply
        · simpa [or_imp, forall_and] using ⟨h.carried, hrows⟩

theorem Agrees.share (h : Agrees R request s t) (i : Nat) :
    Agrees R request (s.step R (.share i)) (t.step R (.share i)) := by
  refine ⟨h.pending, by simp [CallState.step, h.pagers], h.sent, h.carries, h.own, ?_, h.carried⟩
  intro pager hpager
  rcases List.mem_append.mp hpager with hpager | hpager
  · exact h.owns pager hpager
  · exact h.owns pager (List.mem_of_getElem? (Option.mem_toList.mp hpager))

theorem sent_step_of_not_request {step : CallStep F P} (h : step.isRequest = false) :
    (s.step R step).sent = s.sent := by
  cases step with
  | mutate object content => rfl
  | share i => rfl
  | first reply => simp [CallStep.isRequest] at h
  | fetch i reply => simp [CallStep.isRequest] at h

theorem sent_run_of_no_requests {steps : List (CallStep F P)}
    (h : ∀ step ∈ steps, step.isRequest = false) : (s.run R steps).sent = s.sent := by
  induction steps generalizing s with
  | nil => rfl
  | cons step steps ih =>
    rw [List.forall_mem_cons] at h
    exact (ih h.2).trans (sent_step_of_not_request h.1)

theorem contents_step {step : CallStep F P} (h : step.isMutate = false) :
    (s.step R step).contents = s.contents := by
  cases step with
  | mutate object content => simp [CallStep.isMutate] at h
  | share i => rfl
  | first reply =>
    simp only [CallState.step]
    split
    · rfl
    · split <;> rfl
  | fetch i reply =>
    simp only [CallState.step]
    split
    · rfl
    · split
      · rfl
      · split <;> rfl

/-- By induction over the run: the same steps without the changes of objects send the same, and
from the first change of a container on nothing is sent any more. -/
theorem Agrees.sent_run (h : Agrees R request s t) {steps : List (CallStep F P)}
    (huntouched : Untouched request.objects steps) :
    (s.run R steps).sent = (t.run R (steps.filter fun step => !step.isMutate)).sent ∧
    ∀ rows ∈ (s.run R steps).sent, request.carries R t.contents = .ok rows := by
  induction steps generalizing s t with
  | nil => exact ⟨h.sent, fun rows hrows => h.carries.symm.trans (h.carried rows hrows)⟩
  | cons step steps ih =>
    obtain ⟨hstep, hrest⟩ := huntouched
    cases step with
    | mutate object content =>
      by_cases hobject : object ∈ request.objects
      · have hquiet := hstep object hobject content rfl
        have hsent : (s.run R (.mutate object content :: steps)).sent = s.sent :=
          sent_run_of_no_requests (s := s.step R (.mutate object content)) hquiet
        have hsent' : (t.run R (steps.filter fun step => !step.isMutate)).sent = t.sent :=
          sent_run_of_no_requests fun later hlater => hquiet later (List.mem_of_mem_filter hlater)
        rw [hsent]
        exact ⟨h.sent.trans hsent'.symm, fun rows hrows => h.carries.symm.trans (h.carried rows hrows)⟩
      · exact ih (h.mutate hobject) hrest
    | first reply =>
      have hrun := ih (h.first reply) hrest
      rwa [contents_step rfl] at hrun
    | fetch i reply =>
      have hrun := ih (h.fetch i reply) hrest
      rwa [contents_step rfl] at hrun
    | share i => exact ih (h.share i) hrest

theorem agrees_refl (contents : Nat → RowObject P) (request : Request F) :
    Agrees R request ⟨contents, some request, [], []⟩ ⟨contents, some request, [], []⟩ :=
  ⟨rfl, rfl, rfl, rfl, fun _ h => (Option.some.inj h).symm, by simp, by simp⟩

end Steps

theorem executeCall_eq_ok {contents : Nat → RowObject P} {kind : StatementKind} {values : Option Nat}
    {startState : F.PagingState} {pagingState : Option F.PagingState} {paged : Bool}
    {request : Request F}
    (h : executeCall R contents kind values startState pagingState paged = .ok request) :
    ∃ valueList bound, extractValues contents values = .ok valueList ∧
      BoundStatement.new R contents valueList kind = .ok bound ∧
      (request = .execute (.unpaged bound) ∨ ∃ state, request = .execute (.paged bound state)) := by
  obtain ⟨valueList, hvalues, h⟩ := bind_eq_ok_iff.mp h
  refine ⟨valueList, ?_⟩
  cases paged with
  | true =>
    obtain ⟨bound, hbound, h⟩ := bind_eq_ok_iff.mp h
    exact ⟨bound, hvalues, mapError_eq_ok_iff.mp hbound, .inr ⟨_, (Except.ok.inj h).symm⟩⟩
  | false =>
    cases pagingState with
    | some state => cases h
    | none =>
      obtain ⟨bound, hbound, h⟩ := bind_eq_ok_iff.mp h
      exact ⟨bound, hvalues, mapError_eq_ok_iff.mp hbound, .inl (Except.ok.inj h).symm⟩

theorem BoundStatement.carries_new {contents : Nat → RowObject P} {values : PyValueList Nat}
    {kind : StatementKind} {bound : BoundStatement}
    (h : BoundStatement.new R contents values kind = .ok bound) :
    bound.carries R contents = batchRow R contents (kind, values) := by
  cases kind with
  | prepared columns =>
    obtain ⟨row, hrow, heq⟩ := bind_eq_ok_iff.mp h
    obtain rfl := Except.ok.inj heq
    exact hrow.symm
  | unprepared columns =>
    obtain rfl := Except.ok.inj h
    rfl

theorem SessionCall.rows_of_carries {call : SessionCall F} {contents : Nat → RowObject P}
    {request : Request F} (h : call.request R contents = .ok request) {rows : List SerializedRow}
    (hrows : request.carries R contents = .ok rows) : call.rows R contents = .ok rows := by
  cases call with
  | batch statements =>
    obtain rfl := Except.ok.inj h
    exact mapError_eq_ok_iff.mpr hrows
  | execute kind values startState pagingState paged =>
    obtain ⟨valueList, bound, hvalues, hbound, hrequest⟩ := executeCall_eq_ok h
    have hcarries : (bound.carries R contents).map (fun row => [row]) = .ok rows := by
      rcases hrequest with rfl | ⟨state, rfl⟩
      · exact hrows
      · exact hrows
    rw [BoundStatement.carries_new hbound] at hcarries
    cases hrow : batchRow R contents (kind, valueList) with
    | error err => simp [hrow, Except.map] at hcarries
    | ok row =>
      obtain rfl : [row] = rows := by simpa [hrow, Except.map] using hcarries
      refine bind_eq_ok_iff.mpr ⟨valueList, hvalues, ?_⟩
      exact bind_eq_ok_iff.mpr ⟨row, mapError_eq_ok_iff.mpr hrow, rfl⟩

theorem objects_subset_of_extractValues {contents : Nat → RowObject P} {object : Option Nat}
    {values : PyValueList Nat} (h : extractValues contents object = .ok values) :
    values.objects ⊆ object.toList := by
  cases object with
  | none =>
    obtain rfl := Except.ok.inj h
    exact List.Subset.refl _
  | some object =>
    have hextract := mapError_eq_ok_iff.mp h
    cases hcontent : contents object with
    | none =>
      rw [hcontent] at hextract
      obtain rfl := Except.ok.inj hextract
      exact List.nil_subset _
    | sequence size len iter =>
      rw [hcontent] at hextract
      obtain rfl := Except.ok.inj hextract
      by_cases hsize : size = 0 <;> simp [hsize, PyValueList.objects]
    | mapping len getItem =>
      rw [hcontent] at hextract
      obtain rfl := Except.ok.inj hextract
      split <;> simp [PyValueList.objects]
    | other typeName =>
      rw [hcontent] at hextract
      obtain ⟨_, _, herr⟩ := bind_eq_ok_iff.mp hextract
      cases herr

/-- A request reads nothing but containers of its call, and that of a prepared `execute` none. -/
theorem SessionCall.Kept.untouched {call : SessionCall F} {contents : Nat → RowObject P}
    {request : Request F} (hcall : call.request R contents = .ok request)
    {steps : List (CallStep F P)} (h : call.Kept steps) : Untouched request.objects steps := by
  cases call with
  | batch statements =>
    obtain rfl := Except.ok.inj hcall
    exact h.resolve_left (by simp [SessionCall.isPreparedExecute])
  | execute kind values startState pagingState paged =>
    obtain ⟨valueList, bound, hvalues, hbound, hrequest⟩ := executeCall_eq_ok hcall
    have hobjects : request.objects = bound.objects := by
      rcases hrequest with rfl | ⟨state, rfl⟩ <;> rfl
    rw [hobjects]
    cases kind with
    | prepared columns =>
      obtain ⟨row, _, heq⟩ := bind_eq_ok_iff.mp hbound
      obtain rfl := Except.ok.inj heq
      exact untouched_nil steps
    | unprepared columns =>
      obtain rfl := Except.ok.inj hbound
      have huntouched := h.resolve_left (by simp [SessionCall.isPreparedExecute])
      exact huntouched.mono (objects_subset_of_extractValues hvalues)

def plainForeign : Foreign where
  PagingState := Nat
  BoundStatement := Unit
  ColumnSpec := Unit
  RawRow := Unit
  Row := Unit

/-- A page with another one after it. -/
def pageWithMore : PageReply (BoundForeign plainForeign) := .ok (⟨none, none⟩, .hasMorePages (0 : Nat))

/-- The caller replaces the one element of the list between the two pages. -/
def changedBetweenPages : List (CallStep plainForeign wireInterop) :=
  [.first pageWithMore, .mutate 0 (rowObject wireRuntime (.list [.scalar (.int 2)])),
    .fetch 0 pageWithMore]

def listOfOne : Nat → RowObject wireInterop := fun _ =>
  rowObject wireRuntime (.list [.scalar (.int 1)])

/-- The caller changes another object before the first page and the list after the second. -/
def changedAfterPages : List (CallStep plainForeign wireInterop) :=
  [.mutate 1 .none, .first pageWithMore, .fetch 0 pageWithMore, .mutate 0 .none]

end ScyllaDriver
