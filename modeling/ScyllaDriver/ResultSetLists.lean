import ScyllaDriver.ReadAgreement
import ScyllaDriver.ResultSetIterated

/-! A `ResultSet` as a list: `==` and indexing materialize the rows of a set that was not
read, and are refused once it was iterated. -/

namespace ScyllaDriver

variable {F : Foreign}

/-- What a list that does not change gives, with the positions of its iterators. -/
def onList (rows : List F.Row) (positions : List Nat) :
    ReadOperation F → OperationResult F × List Nat
  | .eq other => (.equal (other rows), positions)
  | .getItem index => (.item (index.check.bind fun _ => index.getItem rows), positions)
  | .all | .currentRows => (.rows (.ok rows), positions)
  | .iter => (.iterator (some positions.length), positions ++ [0])
  | .next => (.row (.error useIteratorErr), positions)
  | .advance iterator =>
    match positions[iterator]? with
    | some position =>
      (.row (.ok rows[position]?),
        positions.set iterator (if position < rows.length then position + 1 else position))
    | none => (.row (.ok none), positions)
  | .one => (.row (.ok rows.head?), positions)
  | .isTrue => (.truth !rows.isEmpty, positions)

def allOnList (rows : List F.Row) :
    List Nat → List (ReadOperation F) → List (OperationResult F) × List Nat
  | positions, [] => ([], positions)
  | positions, operation :: operations =>
    let (result, positions) := onList rows positions operation
    let (results, positions) := allOnList rows positions operations
    (result :: results, positions)

/-- The operations for which a set has to be a list, as far as the set is asked. -/
inductive Materializes : ReadOperation F → Prop
  | eq (other) : Materializes (.eq other)
  | getItem (index) (h : index.check = .ok ()) : Materializes (.getItem index)

section List

variable {rows : List F.Row} {future : PyResponseFuture F} (net : Network F) (fuel : Nat)

/-- A set that has become a list, with iterators over that list. -/
def listClient (future : PyResponseFuture F) (rows : List F.Row) (positions : List Nat) :
    Client F :=
  ⟨⟨future, rows, .list⟩, positions.map (ListIterator.mk rows)⟩

theorem listIterator_next (rows : List F.Row) (position : Nat) :
    (ListIterator.mk rows position).next = (rows[position]?,
      ⟨rows, if position < rows.length then position + 1 else position⟩) := by
  unfold ListIterator.next
  by_cases h : position < rows.length
  · simp [h]
  · simp [h]

theorem advance_listClient (positions : List Nat) (iterator : Nat) :
    (listClient future rows positions).advance iterator =
      ((onList rows positions (.advance iterator)).1,
        listClient future rows (onList rows positions (.advance iterator)).2) := by
  simp only [Client.advance, listClient, List.getElem?_map, onList]
  cases positions[iterator]? with
  | none => rfl
  | some position => simp [listIterator_next, List.map_set]

theorem perform_listClient (hfuel : 0 < fuel) (positions : List Nat)
    (operation : ReadOperation F) :
    (listClient future rows positions).perform net fuel (.read operation) =
      some ((onList rows positions operation).1,
        listClient future rows (onList rows positions operation).2) := by
  cases operation with
  | getItem index =>
    simp only [Client.perform, listClient, PyResultSet.getItem, onList]
    cases index.check with
    | error err => rfl
    | ok u => rfl
  | iter => simp [Client.perform, Client.iter, listClient, onList]
  | next =>
    obtain ⟨fuel, rfl⟩ := Nat.exists_eq_succ_of_ne_zero hfuel.ne'
    rfl
  | advance iterator => exact congrArg some (advance_listClient positions iterator)
  | _ => rfl

theorem performAll_listClient (hfuel : 0 < fuel) (positions : List Nat)
    (operations : List (ReadOperation F)) :
    (listClient future rows positions).performAll net fuel (operations.map .read) =
      some ((allOnList rows positions operations).1,
        listClient future rows (allOnList rows positions operations).2) := by
  induction operations generalizing positions with
  | nil => rfl
  | cons operation operations ih =>
    simp only [List.map_cons, Client.performAll, perform_listClient net fuel hfuel, ih, allOnList,
      Option.bind_eq_bind, Option.bind_some]
    rfl

end List

section Ends

variable {server : Server F} {factory : PyRowFactory F} {set : PyResultSet F} {client : Client F}
  {rows pages fuel : Nat}

namespace PyResultSet

/-- At most `rows` rows are left to read, the current page included, and at most `pages`
pages follow it. -/
def Within (server : Server F) (factory : PyRowFactory F) (rows pages : Nat)
    (set : PyResultSet F) : Prop :=
  ∃ pending following, set.future.At pending ∧ pending.factory = factory ∧
    pending.queryPager.Serves server factory following ∧
    set.currentRows.length + following.flatten.length ≤ rows ∧ following.length ≤ pages

theorem Within.reading (h : set.Within server factory rows pages) (hlist : set.mode ≠ .list) :
    ∃ pending current following, Reading server factory set pending current following ∧
      current.length ≤ set.currentRows.length ∧
      set.currentRows.length + following.flatten.length ≤ rows ∧ following.length ≤ pages := by
  obtain ⟨pending, following, hat, hfactory, hserves, hrows, hpages⟩ := h
  have hposition : ∃ position, set.position = some position := by
    unfold position
    cases hmode : set.mode with
    | notStarted => exact ⟨0, rfl⟩
    | iterating position => exact ⟨position, rfl⟩
    | list => exact absurd hmode hlist
  obtain ⟨position, hposition⟩ := hposition
  refine ⟨pending, set.currentRows.drop position, following,
    ⟨hat, hfactory, hserves, position, hposition, rfl⟩, ?_, hrows, hpages⟩
  simp

theorem Within.nextRow (h : set.Within server factory rows pages) (hfuel : pages < fuel) :
    ∃ result after, set.nextRow (fun _ => server.reply) fuel = some (result, after) ∧
      after.Within server factory rows pages := by
  by_cases hlist : set.mode = .list
  · obtain ⟨fuel, rfl⟩ := Nat.exists_eq_succ_of_ne_zero (by omega : fuel ≠ 0)
    refine ⟨.error useIteratorErr, set, ?_, h⟩
    simp only [PyResultSet.nextRow, step, hlist]
  · obtain ⟨pending, current, following, hreading, -, hrows, hpages⟩ := h.reading hlist
    obtain ⟨result, after, pending', current', following', hnext, hafter, hlen, hbound, -, -⟩ :=
      nextRow_spec (fun _ _ _ => .inl rfl) hreading (hpages.trans_lt hfuel)
    exact ⟨result, after, hnext, pending', following', hafter.last, hafter.sameFactory,
      hafter.serves, hbound.trans hrows, hlen.trans hpages⟩

/-- Reading a set from the start of its page leaves nothing to read. -/
theorem Within.drainFromStart (h : set.Within server factory rows pages)
    (hlist : set.mode ≠ .list) (hfuel : rows + pages + 1 < fuel) :
    ∃ all after last, set.drainFromStart (fun _ => server.reply) fuel = some (.ok all, after) ∧
      Reading server factory after last [] [] ∧ all.length ≤ rows ∧
      after.currentRows.length ≤ rows := by
  have hstart : { set with mode := .iterating 0 }.Within server factory rows pages := h
  obtain ⟨pending, current, following, hreading, hcurrent, hrows, hpages⟩ :=
    hstart.reading (by simp)
  simp only at hcurrent hrows
  have hall : (current ++ following.flatten).length ≤ rows := by
    rw [List.length_append]
    omega
  have hfuel' : (current ++ following.flatten).length + following.length + 1 < fuel := by omega
  obtain ⟨after, last, hdrain, hafter, hbound⟩ := drain_spec hreading hfuel' []
  refine ⟨_, after, last, ?_, hafter, hall, hbound.trans hrows⟩
  unfold PyResultSet.drainFromStart
  split
  · contradiction
  · exact hdrain

theorem Reading.within {last : PendingRequestResult F} {after : PyResultSet F}
    (h : Reading server factory after last [] []) (hrows : after.currentRows.length ≤ rows) :
    after.Within server factory rows pages :=
  ⟨last, [], h.last, h.sameFactory, h.serves, by simpa using hrows, Nat.zero_le _⟩

theorem Within.all (h : set.Within server factory rows pages) (hfuel : rows + pages + 1 < fuel) :
    ∃ result after, set.all (fun _ => server.reply) fuel = some (result, after) ∧
      after.Within server factory rows pages := by
  by_cases hlist : set.mode = .list
  · refine ⟨.ok set.currentRows, set, ?_, h⟩
    simp only [PyResultSet.all, PyResultSet.drainFromStart, hlist]
  · obtain ⟨all, after, last, hdrain, hafter, -, hrows⟩ := h.drainFromStart hlist hfuel
    exact ⟨.ok all, after, hdrain, hafter.within hrows⟩

theorem Within.enterListMode (h : set.Within server factory rows pages)
    (hfuel : rows + pages + 1 < fuel) (operator : String) :
    ∃ entered after, set.enterListMode (fun _ => server.reply) fuel operator =
      some (entered, after) ∧ after.Within server factory rows pages := by
  cases hmode : set.mode with
  | list => exact ⟨.ok (), set, by simp only [PyResultSet.enterListMode, hmode], h⟩
  | iterating position =>
    exact ⟨.error (iteratedErr operator), set, by simp only [PyResultSet.enterListMode, hmode], h⟩
  | notStarted =>
    obtain ⟨all, after, last, hdrain, hafter, hall, -⟩ := h.drainFromStart (by simp [hmode]) hfuel
    refine ⟨.ok (), { after with currentRows := all, mode := .list }, ?_, last, [], hafter.last,
      hafter.sameFactory, hafter.serves, by simpa using hall, Nat.zero_le _⟩
    simp only [PyResultSet.enterListMode, hmode, hdrain]

theorem Within.fetchNextPage (h : set.Within server factory rows pages) :
    ∃ result after, set.fetchNextPage (fun _ => server.reply) = some (result, after) ∧
      after.Within server factory rows pages := by
  obtain ⟨pending, following, hat, rfl, hserves, hrows, hpages⟩ := h
  cases following with
  | nil =>
    refine ⟨.ok (), set.replaceRows [], ?_, pending, [], hat, rfl, hserves, by simp [replaceRows],
      hpages⟩
    simp only [PyResultSet.fetchNextPage, hat.hasMorePages, hserves.hasMorePages_nil,
      Bool.false_eq_true, if_false]
  | cons page following =>
    simp only [List.flatten_cons, List.length_append, List.length_cons] at hrows hpages
    obtain ⟨future, -, ⟨next, hfetch, hlast, hfactory, hserved, -⟩ | ⟨err, hfails, -⟩⟩ :=
      fetchPage_of_serves hat (fun _ _ _ => .inl rfl) hserves
    · refine ⟨.ok (), replaceRows { set with future := future } page, ?_, next, following, hlast,
        hfactory, hserved, ?_, by omega⟩
      · simp only [PyResultSet.fetchNextPage, hat.hasMorePages, hserves.hasMorePages_cons, if_true,
          hfetch]
      · simp only [replaceRows]
        omega
    · obtain ⟨_, _, _, hreply, _⟩ := hfails
      cases hreply

end PyResultSet

namespace Client

theorem perform_ends (h : client.set.Within server factory rows pages)
    (hfuel : rows + pages + 1 < fuel) (operation : Operation F) :
    ∃ result next, client.perform (fun _ => server.reply) fuel operation = some (result, next) ∧
      next.set.Within server factory rows pages := by
  cases operation with
  | fetchNextPage =>
    obtain ⟨result, after, hfetch, hafter⟩ := h.fetchNextPage
    exact ⟨.done result, { client with set := after }, by simp only [perform, hfetch]; rfl, hafter⟩
  | read operation =>
    cases operation with
    | eq other =>
      obtain ⟨entered, after, henter, hafter⟩ := h.enterListMode hfuel "equality operator"
      refine ⟨.equal (entered.bind fun _ => other after.currentRows), { client with set := after },
        ?_, hafter⟩
      simp only [perform, PyResultSet.eq, henter, Option.map_some]
    | getItem index =>
      cases hcheck : index.check with
      | error err =>
        refine ⟨.item (.error err), client, ?_, h⟩
        simp only [perform, PyResultSet.getItem, hcheck, Option.map_some]
      | ok u =>
        obtain ⟨entered, after, henter, hafter⟩ := h.enterListMode hfuel "index operator"
        refine ⟨.item (entered.bind fun _ => index.getItem after.currentRows),
          { client with set := after }, ?_, hafter⟩
        simp only [perform, PyResultSet.getItem, hcheck, henter, Option.map_some]
    | all =>
      obtain ⟨result, after, hall, hafter⟩ := h.all hfuel
      exact ⟨.rows result, { client with set := after }, by simp only [perform, hall]; rfl, hafter⟩
    | next =>
      obtain ⟨result, after, hnext, hafter⟩ := h.nextRow (by omega : pages < fuel)
      exact ⟨.row result, { client with set := after }, by simp only [perform, hnext]; rfl, hafter⟩
    | iter =>
      refine ⟨client.iter.1, client.iter.2, rfl, ?_⟩
      unfold iter
      split <;> exact h
    | advance iterator =>
      refine ⟨(client.advance iterator).1, (client.advance iterator).2, rfl, ?_⟩
      unfold advance
      split <;> exact h
    | _ => exact ⟨_, client, rfl, h⟩

theorem performAll_ends (h : client.set.Within server factory rows pages)
    (hfuel : rows + pages + 1 < fuel) (operations : List (Operation F)) :
    ∃ results last, client.performAll (fun _ => server.reply) fuel operations =
      some (results, last) := by
  induction operations generalizing client with
  | nil => exact ⟨[], client, rfl⟩
  | cons operation operations ih =>
    obtain ⟨result, next, hperform, hnext⟩ := perform_ends h hfuel operation
    obtain ⟨results, last, hrest⟩ := ih hnext
    refine ⟨result :: results, last, ?_⟩
    simp only [performAll, hperform, hrest, Option.bind_eq_bind, Option.bind_some]
    rfl

end Client

end Ends

section Fresh

variable {server : Server F} {factory : PyRowFactory F} {set : PyResultSet F}
  {pending : PendingRequestResult F} {current : List F.Row} {following : List (List F.Row)}
  {fuel : Nat}

/-- The first `==` or indexing receives every page, and answers as the list of all rows. -/
theorem perform_materializes (h : PyResultSet.Reading server factory set pending current following)
    (hmode : set.mode = .notStarted)
    (hfuel : (current ++ following.flatten).length + following.length + 1 < fuel) :
    ∃ future : PyResponseFuture F, future.hasMorePages = false ∧ ∀ first, Materializes first →
      Client.perform (fun _ => server.reply) fuel ⟨set, []⟩ (.read first) =
        some ((onList (current ++ following.flatten) [] first).1,
          listClient future (current ++ following.flatten)
            (onList (current ++ following.flatten) [] first).2) := by
  obtain ⟨-, hfresh⟩ := h.restart hmode
  obtain ⟨after, last, hdrain, hafter, -⟩ := PyResultSet.drain_spec hfresh hfuel []
  have henter : ∀ operator, set.enterListMode (fun _ => server.reply) fuel operator =
      some (.ok (), ⟨after.future, current ++ following.flatten, .list⟩) := by
    intro operator
    simp only [PyResultSet.enterListMode, PyResultSet.drainFromStart, hmode, hdrain,
      List.nil_append]
  refine ⟨after.future, hafter.last.hasMorePages.trans hafter.serves.hasMorePages_nil, ?_⟩
  intro first hfirst
  cases hfirst with
  | eq other =>
    simp only [Client.perform, PyResultSet.eq, henter]
    rfl
  | getItem index hcheck =>
    simp only [Client.perform, PyResultSet.getItem, hcheck, henter, onList]
    rfl

end Fresh

/-- What one program does with the fresh `ResultSet` of a query whose requests, decoding and
row building all succeed, with finitely many pages. -/
theorem result_set_list_or_iterated {server : Server F} {factory : PyRowFactory F}
    {params : ExecutionParams F} {page : List F.Row} {following : List (List F.Row)}
    (h : params.Serves server factory page following) :
    ∃ pending set, server.session.execute factory params = .ok pending ∧
      (PyResponseFuture.spawn (.ok pending)).result = some (.ok set) ∧
      ∃ n, ∀ fuel > n,
        let performAll := Client.performAll (fun _ => server.reply) fuel ⟨set, []⟩
        let rows := (page :: following).flatten
        (∀ operations, ∃ results last, performAll operations = some (results, last)) ∧
        (∃ future, future.hasMorePages = false ∧ ∀ first later, Materializes first →
          performAll (.read first :: later.map .read) =
            some ((allOnList rows [] (first :: later)).1,
              listClient future rows (allOnList rows [] (first :: later)).2)) ∧
        (∀ first later, Iterates first →
          performAll (first :: later) =
            (performAll (first :: later.filter (·.refusal.isNone))).map
              fun (results, last) => (withRefusals (first :: later) results, last)) ∧
        ∀ client index err, index.check = .error err →
          Client.perform (fun _ => server.reply) fuel client (.read (.getItem index)) =
            some (.item (.error err), client) := by
  obtain ⟨pending, hexecute, rfl, hyields, hserves⟩ := execute_of_serves h
  obtain ⟨set, hset, hmode, -, hreading⟩ := PyResponseFuture.result_of_yields hyields hserves
  refine ⟨pending, set, hexecute, hset, (page ++ following.flatten).length + following.length + 1,
    ?_⟩
  intro fuel hfuel performAll rows
  obtain ⟨hrows, -⟩ := hreading.restart hmode
  refine ⟨?_, ?_, ?_, ?_⟩
  · have hwithin : (Client.mk set []).set.Within server pending.factory
        (page ++ following.flatten).length following.length :=
      ⟨_, following, hreading.last, hreading.sameFactory, hreading.serves,
        by simp [hrows], le_rfl⟩
    exact Client.performAll_ends hwithin hfuel
  · obtain ⟨future, hmore, hfirst⟩ := perform_materializes hreading hmode hfuel
    refine ⟨future, hmore, ?_⟩
    intro first later hmaterializes
    simp only [performAll, Client.performAll, hfirst first hmaterializes, Option.bind_eq_bind,
      Option.bind_some, performAll_listClient _ fuel (by omega : 0 < fuel)]
    rfl
  · intro first later hiterates
    have hrefusal : first.refusal = none := by cases hiterates <;> rfl
    simp only [performAll, Client.performAll, Option.bind_eq_bind]
    cases hperform : Client.perform (fun _ => server.reply) fuel ⟨set, []⟩ first with
    | none => rfl
    | some performed =>
      obtain ⟨result, started⟩ := performed
      have hstarted := Client.perform_of_iterates hiterates (by simp [hmode]) hperform
      simp only [Option.bind_some, Client.performAll_iterated hstarted later]
      cases started.performAll _ fuel (later.filter (·.refusal.isNone)) with
      | none => rfl
      | some done =>
        simp only [Option.map_some, Option.bind_some, withRefusals, hrefusal]
        rfl
  · intro client index err hcheck
    simp only [Client.perform, PyResultSet.getItem, hcheck, Option.map_some]

theorem result_set_list_of_four_pages :
    fromStart.Serves fourPages numbersFactory [1, 2] [[], [], [3]] ∧
    ∃ pending set, fourPages.session.execute numbersFactory fromStart = .ok pending ∧
      (PyResponseFuture.spawn (.ok pending)).result = some (.ok set) ∧
      ∃ n, ∀ fuel > n, ∃ last,
        Client.performAll (fun _ => fourPages.reply) fuel ⟨set, []⟩
          [.read (.eq fun rows => .ok (rows = [1, 2, 3])), .read .iter, .read (.advance 0), .read .all] =
        some ([.equal (.ok true), .iterator (some 0), .row (.ok (some 1)), .rows (.ok [1, 2, 3])],
          last) := by
  obtain ⟨pending, set, hexecute, hset, n, hn⟩ := result_set_list_or_iterated fourPages_serves
  refine ⟨fourPages_serves, pending, set, hexecute, hset, n, ?_⟩
  intro fuel hfuel
  obtain ⟨-, ⟨future, -, hlist⟩, -⟩ := hn fuel hfuel
  exact ⟨_, hlist _ [.iter, .advance 0, .all] (.eq _)⟩

def deprecatedErr : PyErr :=
  ⟨.other, "ResultSet indexing support will be removed in 4.0. Consider using ResultSet.one() to get a single row.", 0⟩

/-- The index 0 where the warnings filter raises a `DeprecationWarning`. -/
def raisingZero : Index numbers := ⟨.ok true, .error deprecatedErr, fun rows =>
  match rows with
  | [] => .error ⟨.other, "list index out of range", 0⟩
  | row :: _ => .ok (.row row)⟩

/-- Indexing a fresh set with 0 receives no page, and an iterated one raises no
`RuntimeError`, when the deprecation of that index is raised as an error. -/
theorem index_zero_raises_deprecation :
    ∃ pending set, fourPages.session.execute numbersFactory fromStart = .ok pending ∧
      (PyResponseFuture.spawn (.ok pending)).result = some (.ok set) ∧
      set.future.hasMorePages = true ∧ ∀ fuel,
        Client.perform (fun _ => fourPages.reply) fuel ⟨set, []⟩ (.read (.getItem raisingZero)) =
          some (.item (.error deprecatedErr), ⟨set, []⟩) ∧
        Client.performAll (fun _ => fourPages.reply) fuel ⟨set, []⟩
            [.read .iter, .read (.getItem raisingZero)] =
          some ([.iterator none, .item (.error deprecatedErr)],
            ⟨{ set with mode := .iterating 0 }, []⟩) := by
  obtain ⟨pending, hexecute, hfactory, hyields, hserves⟩ := execute_of_serves fourPages_serves
  rw [← hfactory] at hyields hserves
  obtain ⟨set, hset, hmode, -, hreading⟩ := PyResponseFuture.result_of_yields hyields hserves
  refine ⟨pending, set, hexecute, hset,
    hreading.last.hasMorePages.trans hreading.serves.hasMorePages_cons, ?_⟩
  intro fuel
  refine ⟨rfl, ?_⟩
  have hiter : Client.iter ⟨set, []⟩ =
      (.iterator none, ⟨{ set with mode := .iterating 0 }, []⟩) := by
    simp only [Client.iter, hmode]
  simp only [Client.performAll, Client.perform, hiter]
  rfl

end ScyllaDriver
