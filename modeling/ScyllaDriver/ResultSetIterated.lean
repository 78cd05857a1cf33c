import ScyllaDriver.ResultSetOperations

/-! A `ResultSet` that was iterated refuses `==` and indexing, and they leave no trace in
what is done with it later. -/

namespace ScyllaDriver

variable {F : Foreign}

/-- What `==` and indexing give on a set that was iterated. -/
def Operation.refusal : Operation F → Option (OperationResult F)
  | .read (.eq _) => some (.equal (.error (iteratedErr "equality operator")))
  | .read (.getItem index) =>
    some (.item (index.check.bind fun _ => .error (iteratedErr "index operator")))
  | _ => none

/-- The operations that start an iteration. -/
inductive Iterates : Operation F → Prop
  | iter : Iterates (.read .iter)
  | next : Iterates (.read .next)
  | all : Iterates (.read .all)

/-- The results of the other operations, with the refusals put between them. -/
def withRefusals : List (Operation F) → List (OperationResult F) → List (OperationResult F)
  | [], _ => []
  | operation :: operations, results =>
    match operation.refusal, results with
    | some refusal, results => refusal :: withRefusals operations results
    | none, result :: results => result :: withRefusals operations results
    | none, [] => []

variable {net : Network F} {fuel : Nat} {set after : PyResultSet F} {client : Client F}

/-- Once a set was iterated it stays so. -/
def PyResultSet.Iterated (set : PyResultSet F) : Prop := ∃ position, set.mode = .iterating position

theorem PyResultSet.step_iterated {step : ResultSetStep F}
    (h : set.step = .ok (step, after)) : after.Iterated := by
  have hstepAt : ∀ position, set.stepAt position = (step, after) → after.Iterated := by
    intro position hstep
    unfold stepAt at hstep
    split at hstep
    · cases hstep
      exact ⟨_, rfl⟩
    · split at hstep <;> cases hstep <;> exact ⟨_, rfl⟩
  unfold PyResultSet.step at h
  split at h
  · exact hstepAt _ (Except.ok.inj h)
  · exact hstepAt _ (Except.ok.inj h)
  · cases h

theorem PyResultSet.fetchPage_mode {rows : Except PyErr (List F.Row)}
    (h : set.fetchPage net = some (rows, after)) : after.mode = set.mode := by
  unfold fetchPage at h
  split at h
  · cases h
    rfl
  · simp only [Option.bind_eq_bind, Option.bind_eq_some_iff] at h
    obtain ⟨_, -, h⟩ := h
    cases h
    rfl

theorem PyResultSet.nextRow_iterated {result : Except PyErr (Option F.Row)}
    (hlist : set.mode ≠ .list) (h : set.nextRow net fuel = some (result, after)) :
    after.Iterated := by
  induction fuel generalizing set with
  | zero => cases h
  | succ fuel ih =>
    simp only [nextRow] at h
    cases hstep : set.step with
    | error err =>
      obtain ⟨future, rows, mode⟩ := set
      cases mode with
      | list => exact absurd rfl hlist
      | _ => cases hstep
    | ok stepped =>
      obtain ⟨step, waiting⟩ := stepped
      have hwaiting := step_iterated hstep
      simp only [hstep] at h
      cases step with
      | row row => cases h; exact hwaiting
      | ended => cases h; exact hwaiting
      | fetchPage =>
        cases hfetch : waiting.fetchPage net with
        | none => simp only [hfetch] at h; cases h
        | some fetched =>
          obtain ⟨rows, fetched⟩ := fetched
          have hmode := fetchPage_mode hfetch
          simp only [hfetch] at h
          cases rows with
          | error err =>
            cases h
            obtain ⟨position, hposition⟩ := hwaiting
            exact ⟨position, hmode.trans hposition⟩
          | ok rows => exact ih (fun hnot => by cases hnot) h

theorem PyResultSet.drain_iterated {rows : List F.Row} {result : Except PyErr (List F.Row)}
    (hlist : set.mode ≠ .list) (h : set.drain net fuel rows = some (result, after)) :
    after.Iterated := by
  induction fuel generalizing set rows with
  | zero => cases h
  | succ fuel ih =>
    simp only [drain] at h
    cases hnext : set.nextRow net fuel with
    | none => simp only [hnext] at h; cases h
    | some next =>
      obtain ⟨next, between⟩ := next
      have hbetween := nextRow_iterated hlist hnext
      simp only [hnext] at h
      cases next with
      | error err => cases h; exact hbetween
      | ok row =>
        cases row with
        | none => cases h; exact hbetween
        | some row =>
          obtain ⟨position, hposition⟩ := hbetween
          exact ih (by simp [hposition]) h

theorem PyResultSet.all_iterated {result : Except PyErr (List F.Row)}
    (hlist : set.mode ≠ .list) (h : set.all net fuel = some (result, after)) :
    after.Iterated := by
  unfold all drainFromStart at h
  split at h
  · contradiction
  · exact drain_iterated (by simp) h

theorem PyResultSet.fetchNextPage_iterated {result : Except PyErr Unit} (hset : set.Iterated)
    (h : set.fetchNextPage net = some (result, after)) : after.Iterated := by
  obtain ⟨position, hposition⟩ := hset
  unfold fetchNextPage at h
  split at h
  · cases hfetch : set.fetchPage net with
    | none => simp only [hfetch] at h; cases h
    | some fetched =>
      obtain ⟨rows, fetched⟩ := fetched
      have hmode := (fetchPage_mode hfetch).trans hposition
      simp only [hfetch] at h
      cases rows with
      | error err => cases h; exact ⟨position, hmode⟩
      | ok rows => cases h; exact ⟨0, by simp only [replaceRows, hmode]⟩
  · cases h
    exact ⟨0, by simp only [replaceRows, hposition]⟩

namespace Client

theorem perform_of_iterates {operation : Operation F} {result : OperationResult F}
    {next : Client F} (hoperation : Iterates operation) (hlist : client.set.mode ≠ .list)
    (h : client.perform net fuel operation = some (result, next)) : next.set.Iterated := by
  cases hoperation with
  | iter =>
    have hiter : client.iter = (result, next) := Option.some.inj h
    unfold iter at hiter
    split at hiter
    · contradiction
    · cases hiter
      exact ⟨0, rfl⟩
  | next =>
    obtain ⟨⟨row, after⟩, hnext, hresult⟩ := Option.map_eq_some_iff.mp h
    cases hresult
    exact PyResultSet.nextRow_iterated hlist hnext
  | all =>
    obtain ⟨⟨rows, after⟩, hall, hresult⟩ := Option.map_eq_some_iff.mp h
    cases hresult
    exact PyResultSet.all_iterated hlist hall

theorem perform_refused {operation : Operation F} {refusal : OperationResult F}
    (hset : client.set.Iterated) (hrefusal : operation.refusal = some refusal) :
    client.perform net fuel operation = some (refusal, client) := by
  obtain ⟨position, hposition⟩ := hset
  cases operation with
  | fetchNextPage => cases hrefusal
  | read operation =>
    cases operation with
    | eq other =>
      cases hrefusal
      simp only [perform, PyResultSet.eq, PyResultSet.enterListMode, hposition]
      rfl
    | getItem index =>
      cases hrefusal
      simp only [perform, PyResultSet.getItem, PyResultSet.enterListMode, hposition]
      cases index.check with
      | error err => rfl
      | ok u => rfl
    | _ => cases hrefusal

theorem perform_iterated {operation : Operation F} {result : OperationResult F}
    {next : Client F} (hset : client.set.Iterated)
    (h : client.perform net fuel operation = some (result, next)) : next.set.Iterated := by
  have hlist : client.set.mode ≠ .list := by
    obtain ⟨position, hposition⟩ := hset
    simp [hposition]
  cases hrefusal : operation.refusal with
  | some refusal =>
    rw [perform_refused hset hrefusal] at h
    cases h
    exact hset
  | none =>
    cases operation with
    | fetchNextPage =>
      obtain ⟨⟨done, after⟩, hfetch, hresult⟩ := Option.map_eq_some_iff.mp h
      cases hresult
      exact PyResultSet.fetchNextPage_iterated hset hfetch
    | read operation =>
      cases operation with
      | eq other => cases hrefusal
      | getItem index => cases hrefusal
      | all => exact perform_of_iterates .all hlist h
      | iter => exact perform_of_iterates .iter hlist h
      | next => exact perform_of_iterates .next hlist h
      | advance iterator =>
        have hadvance : client.advance iterator = (result, next) := Option.some.inj h
        unfold advance at hadvance
        split at hadvance <;> cases hadvance <;> exact hset
      | one => cases h; exact hset
      | isTrue => cases h; exact hset
      | currentRows => cases h; exact hset

/-- The refused operations can be left out of what is done with a set that was iterated. -/
theorem performAll_iterated (hset : client.set.Iterated) (operations : List (Operation F)) :
    client.performAll net fuel operations =
      (client.performAll net fuel (operations.filter (·.refusal.isNone))).map
        fun (results, last) => (withRefusals operations results, last) := by
  induction operations generalizing client with
  | nil => rfl
  | cons operation operations ih =>
    cases hrefusal : operation.refusal with
    | some refusal =>
      simp only [List.filter_cons, hrefusal, Option.isNone_some, Bool.false_eq_true, if_false,
        performAll, perform_refused hset hrefusal, Option.bind_eq_bind, Option.bind_some, ih hset,
        Option.bind_map, withRefusals]
      cases client.performAll net fuel (operations.filter (·.refusal.isNone)) with
      | none => rfl
      | some done => rfl
    | none =>
      simp only [List.filter_cons, hrefusal, Option.isNone_none, if_true, performAll,
        Option.bind_eq_bind]
      cases hperform : client.perform net fuel operation with
      | none => rfl
      | some performed =>
        obtain ⟨result, next⟩ := performed
        simp only [Option.bind_some, ih (perform_iterated hset hperform)]
        cases next.performAll net fuel (operations.filter (·.refusal.isNone)) with
        | none => rfl
        | some done =>
          obtain ⟨results, last⟩ := done
          simp only [Option.map_some, Option.bind_some, withRefusals, hrefusal]
          rfl

end Client

end ScyllaDriver
