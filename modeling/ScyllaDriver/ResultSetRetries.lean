import ScyllaDriver.ReadAgreement

/-! A legacy `ResultSet` survives page requests that fail: calling `next()` again
after each error goes on where the set was. -/

namespace ScyllaDriver

variable {F : Foreign} {server : Server F} {factory : PyRowFactory F} {net : Network F}

/-- What `m` calls of `next()` give, one after another. -/
def PyResultSet.nexts (net : Network F) (fuel : Nat) :
    Nat → PyResultSet F → Option (List (Except PyErr (Option F.Row)) × PyResultSet F)
  | 0, set => some ([], set)
  | m + 1, set => do
    let (result, set) ← set.nextRow net fuel
    let (results, set) ← set.nexts net fuel m
    return (result :: results, set)

/-- The rows among the results of calls of `next()`. -/
def rowsOf (results : List (Except PyErr (Option F.Row))) : List F.Row :=
  results.filterMap fun
    | .ok row => row
    | .error _ => none

/-- The errors among the results of calls of `next()`. -/
def errorsOf (results : List (Except PyErr (Option F.Row))) : List PyErr :=
  results.filterMap fun
    | .ok _ => none
    | .error err => some err

namespace PyResultSet

variable {set : PyResultSet F} {pending : PendingRequestResult F} {current : List F.Row}
  {following : List (List F.Row)} {fuel : Nat}

theorem nexts_succ {result : Except PyErr (Option F.Row)} {after : PyResultSet F}
    (h : set.nextRow net fuel = some (result, after)) (m : Nat) :
    set.nexts net fuel (m + 1) =
      (after.nexts net fuel m).map fun r => (result :: r.1, r.2) := by
  simp only [nexts, h, Option.bind_eq_bind, Option.bind_some]
  cases after.nexts net fuel m <;> rfl

theorem Reading.nexts_ended (h : Reading server factory set pending [] []) (m : Nat) :
    ∃ after, set.nexts net (fuel + 1) m = some (List.replicate m (.ok none), after) ∧
      after.future = set.future := by
  induction m generalizing set with
  | zero => exact ⟨set, rfl, rfl⟩
  | succ m ih =>
    obtain ⟨hnext, hafter⟩ := h.nextRow_ended net fuel
    obtain ⟨after, hnexts, hfuture⟩ := ih hafter
    refine ⟨after, ?_, hfuture⟩
    rw [nexts_succ hnext, hnexts]
    rfl

/-- After `m` calls: the rows and errors so far, then the end for ever. All calls
are past the end once `m` exceeds the rows and the requests that may still fail. -/
theorem Reading.nexts_spec (h : Reading server factory set pending current following)
    (hnet : net.MayFail server) {N : Nat} (hN : ∀ k ≥ N, ∀ err, ¬net.Fails k err)
    (hfuel : following.length < fuel) (m : Nat) :
    ∃ body k after last, set.nexts net fuel m = some (body ++ List.replicate k (.ok none), after) ∧
      .ok none ∉ body ∧ rowsOf body <+: current ++ following.flatten ∧
      (0 < k → rowsOf body = current ++ following.flatten) ∧
      after.future.failed = set.future.failed ++ errorsOf body ∧ after.future.At last ∧
      ((current ++ following.flatten).length + (N - set.future.sent) < m → 0 < k) := by
  induction m generalizing set pending current following with
  | zero =>
    refine ⟨[], 0, set, pending, rfl, List.not_mem_nil, List.nil_prefix, ?_, ?_, h.last, ?_⟩
    · intro hk
      omega
    · simp [errorsOf]
    · intro hm
      omega
  | succ m ih =>
    obtain ⟨result, between, pending', current', following', hnext, hreading, hlen, -, hmono,
      houtcome⟩ :=
      nextRow_spec hnet h hfuel
    cases houtcome with
    | @row row htodo hfailed =>
      obtain ⟨body, k, after, last, hnexts, hbody, hpre, hall, hfailed', hlast, hend⟩ :=
        ih hreading (hlen.trans_lt hfuel)
      refine ⟨.ok (some row) :: body, k, after, last, ?_, ?_, ?_, ?_, ?_, hlast, ?_⟩
      · rw [nexts_succ hnext, hnexts]
        rfl
      · simpa using hbody
      · rw [htodo]
        exact List.cons_prefix_cons.mpr ⟨rfl, hpre⟩
      · intro hk
        rw [htodo, ← hall hk]
        rfl
      · rw [hfailed', hfailed]
        rfl
      · intro hm
        rw [htodo, List.length_cons] at hm
        exact hend (by omega)
    | ended htodo htodo' hpages hfailed =>
      obtain ⟨fuel, rfl⟩ := Nat.exists_eq_succ_of_ne_zero (by omega : fuel ≠ 0)
      rw [hpages, List.flatten_nil, List.append_nil] at htodo'
      rw [hpages, htodo'] at hreading
      obtain ⟨after, hnexts, hfuture⟩ := hreading.nexts_ended m
      refine ⟨[], m + 1, after, pending', ?_, List.not_mem_nil, List.nil_prefix, ?_, ?_, ?_, ?_⟩
      · rw [nexts_succ hnext, hnexts]
        rfl
      · intro _
        rw [htodo]
        rfl
      · rw [hfuture, hfailed]
        simp [errorsOf]
      · rw [hfuture]
        exact hreading.last
      · intro _
        omega
    | @raised err k hfails hk hk' htodo hfailed =>
      obtain ⟨body, j, after, last, hnexts, hbody, hpre, hall, hfailed', hlast, hend⟩ :=
        ih hreading (hlen.trans_lt hfuel)
      have hkN : k < N := by
        by_contra hge
        exact hN k (by omega) err hfails
      rw [htodo] at hpre hall hend
      refine ⟨.error err :: body, j, after, last, ?_, ?_, hpre, hall, ?_, hlast, ?_⟩
      · rw [nexts_succ hnext, hnexts]
        rfl
      · simpa using hbody
      · rw [hfailed', hfailed, List.append_assoc]
        rfl
      · intro hm
        exact hend (by omega)

end PyResultSet

/-- A fresh `ResultSet` of a query with finitely many pages, over a network on which
finitely many page requests fail. Any number of calls of `next()` give rows, errors
and then the end for ever: the rows are those of all pages in order, as many as the
calls reached, the errors are those of the failed requests, one each, and the future
describes the last page received. Enough calls reach the end. -/
theorem result_set_survives {params : ExecutionParams F} {page : List F.Row}
    {following : List (List F.Row)} (h : params.Serves server factory page following)
    (hnet : net.MayFail server)
    (hfinite : ∃ N, ∀ k ≥ N, ∀ prepared state,
      net k prepared state = server.reply prepared state) :
    ∃ pending set, server.session.execute factory params = .ok pending ∧
      (PyResponseFuture.spawn (.ok pending)).result = some (.ok set) ∧
      ∀ fuel > following.length, ∃ M, ∀ m, ∃ body k after,
        set.nexts net fuel m = some (body ++ List.replicate k (.ok none), after) ∧
        .ok none ∉ body ∧ rowsOf body <+: (page :: following).flatten ∧
        (0 < k → rowsOf body = (page :: following).flatten) ∧ (M ≤ m → 0 < k) ∧
        errorsOf body = after.future.failed ∧
        ∃ last, after.future.received.getLast? = some last ∧
          after.future.hasMorePages = last.queryPager.hasMorePages ∧
          after.future.pagingState = last.queryPager.pagingState := by
  obtain ⟨pending, hexecute, rfl, hyields, hserves⟩ := execute_of_serves h
  obtain ⟨set, hset, -, hfailed, hreading⟩ := PyResponseFuture.result_of_yields hyields hserves
  obtain ⟨N, hN⟩ := hfinite
  have hfails : ∀ k ≥ N, ∀ err, ¬net.Fails k err := by
    rintro k hk err ⟨prepared, state, source, hsource, -⟩
    rw [hN k hk] at hsource
    cases hsource
  refine ⟨pending, set, hexecute, hset, ?_⟩
  intro fuel hfuel
  refine ⟨(page ++ following.flatten).length + (N - set.future.sent) + 1, ?_⟩
  intro m
  obtain ⟨body, k, after, last, hnexts, hbody, hpre, hall, hraised, hlast, hend⟩ :=
    hreading.nexts_spec hnet hfails hfuel m
  refine ⟨body, k, after, hnexts, hbody, hpre, hall, fun hm => hend (by omega), ?_, last,
    hlast.newest, hlast.hasMorePages, hlast.pagingState⟩
  rw [hraised, hfailed, List.nil_append]

/-- The first two page requests fail. -/
def flaky : Network numbers := fun k prepared state =>
  if k < 3 then .error (.rustDriverExecutionError ⟨.other, "timed out", 7⟩)
  else fourPages.reply prepared state

theorem result_set_survives_flaky :
    flaky.MayFail fourPages ∧
    ∃ pending set, fourPages.session.execute numbersFactory fromStart = .ok pending ∧
      (PyResponseFuture.spawn (.ok pending)).result = some (.ok set) ∧
      ∃ M, ∀ m ≥ M, ∃ body k after,
        set.nexts flaky 4 m = some (body ++ List.replicate k (.ok none), after) ∧
        rowsOf body = [1, 2, 3] ∧ errorsOf body = after.future.failed := by
  have hnet : flaky.MayFail fourPages := by
    intro k prepared state
    by_cases hk : k < 3
    · exact .inr ⟨_, if_pos hk⟩
    · exact .inl (if_neg hk)
  have hfinite : ∃ N, ∀ k ≥ N, ∀ prepared state,
      flaky k prepared state = fourPages.reply prepared state :=
    ⟨3, fun k hk _ _ => if_neg (by omega)⟩
  obtain ⟨pending, set, hexecute, hset, hcalls⟩ :=
    result_set_survives fourPages_serves hnet hfinite
  refine ⟨hnet, pending, set, hexecute, hset, ?_⟩
  obtain ⟨M, hM⟩ := hcalls 4 (by decide)
  refine ⟨M, fun m hm => ?_⟩
  obtain ⟨body, k, after, hnexts, -, -, hall, hend, herrors, -⟩ := hM m
  exact ⟨body, k, after, hnexts, hall (hend hm), herrors⟩

end ScyllaDriver
