import ScyllaDriver.FirstFailures
import ScyllaDriver.Interleaving

/-! The tracing ids of a query, recorded by all the pagers that fetch its pages, and the
traces fetched for them. -/

namespace ScyllaDriver

namespace TraceFetching

abbrev Uuid := Nat

/-- The log that the pagers of a query share. -/
inductive TraceLog where
  | untraced
  | traced (ids : List Uuid)

def TraceLog.new : Option Uuid → TraceLog
  | some id => .traced [id]
  | none => .untraced

def TraceLog.record : TraceLog → Option Uuid → TraceLog
  | .traced ids, some id => .traced (ids ++ [id])
  | log, _ => log

def TraceLog.ids : TraceLog → List Uuid
  | .untraced => []
  | .traced ids => ids

section Paging

variable {S : Type}

/-- A pager with what it has left to fetch, or a page with the tracing id of its response. -/
inductive Pc (S : Type) where
  | pager (state : Option S)
  | requested (state : S)
  | responded (tracingId : Option Uuid) (state : Option S)
  /-- Not bound to its row factory yet. -/
  | fetched (tracingId : Option Uuid)
  | page (tracingId : Option Uuid)
  /-- Never handed out: `prepare` of the row factory failed, or nobody waited for the page. -/
  | lost (tracingId : Option Uuid)
  deriving DecidableEq

inductive Choice (S : Type) where
  | proceed
  | responds (tracingId : Option Uuid) (state : Option S)
  | fails
  | clone
  | drop

/-- `Pager::fetch_next_page`, and `resolve` of the page it returns. A pager whose request fails
or is not waited for stays where it was. -/
def step (log : TraceLog) : Pc S → Choice S → Option (TraceLog × List (Pc S))
  | .pager (some state), .proceed => some (log, [.requested state])
  | .pager none, .proceed => some (log, [.pager none])
  | .pager state, .clone => some (log, [.pager state, .pager state])
  | .pager _, .drop => some (log, [])
  | .requested _, .responds tracingId next => some (log, [.responded tracingId next])
  | .requested state, .fails => some (log, [.pager (some state)])
  | .responded tracingId next, .proceed =>
    some (log.record tracingId, [.fetched tracingId, .pager next])
  | .fetched tracingId, .proceed => some (log, [.page tracingId])
  | .fetched tracingId, .fails => some (log, [.lost tracingId])
  | _, _ => none

def program (S : Type) : Program TraceLog (Pc S) (Choice S) Empty := ⟨step, fun _ k => nomatch k⟩

/-- The first page of a query and the pager after it. -/
def executed (first : Option Uuid) (state : Option S) : Config TraceLog (Pc S) :=
  ⟨.new first, {.fetched first, .pager state}⟩

def Pc.fetchedId : Pc S → Option Uuid
  | .fetched tracingId => tracingId
  | .page tracingId => tracingId
  | .lost tracingId => tracingId
  | _ => none

/-- The tracing ids of the pages that were fetched. -/
def fetchedIds (T : Multiset (Pc S)) : Multiset Uuid := T.filterMap Pc.fetchedId

/-- The log has the id of every page once, unless the query is not traced. -/
def Logged (traced : Bool) (c : Config TraceLog (Pc S)) : Prop :=
  match c.shared with
  | .untraced => traced = false
  | .traced ids => traced = true ∧ (ids : Multiset Uuid) = fetchedIds c.threads

theorem fetchedIds_add (q : List (Pc S)) (T : Multiset (Pc S)) :
    fetchedIds ((q : Multiset (Pc S)) + T) = (q.filterMap Pc.fetchedId : List Uuid) + fetchedIds T := by
  simp [fetchedIds]

theorem fetchedIds_cons (p : Pc S) (T : Multiset (Pc S)) :
    fetchedIds (p ::ₘ T) = ([p].filterMap Pc.fetchedId : List Uuid) + fetchedIds T :=
  fetchedIds_add [p] T

theorem Logged.record {traced : Bool} {log : TraceLog} {T : Multiset (Pc S)}
    {tracingId : Option Uuid} {state : Option S}
    (h : Logged traced ⟨log, .responded tracingId state ::ₘ T⟩) :
    Logged traced ⟨log.record tracingId,
      (([.fetched tracingId, .pager state] : List (Pc S)) : Multiset (Pc S)) + T⟩ := by
  cases log with
  | untraced => cases tracingId <;> exact h
  | traced ids =>
    obtain ⟨htraced, hids⟩ := h
    have hold : (ids : Multiset Uuid) = fetchedIds T :=
      (hids.trans (fetchedIds_cons _ T)).trans (zero_add _)
    cases tracingId with
    | none => exact ⟨htraced, by rw [fetchedIds_add, ← hold]; exact (zero_add _).symm⟩
    | some id =>
      refine ⟨htraced, ?_⟩
      rw [fetchedIds_add, ← hold]
      exact (Multiset.coe_add ids [id]).symm.trans (add_comm _ _)

/-- A step that fetches no page leaves the log alone. -/
theorem Logged.quiet {traced : Bool} {log : TraceLog} {T : Multiset (Pc S)} {p : Pc S}
    {q : List (Pc S)} (h : Logged traced ⟨log, p ::ₘ T⟩)
    (hq : q.filterMap Pc.fetchedId = [p].filterMap Pc.fetchedId) :
    Logged traced ⟨log, (q : Multiset (Pc S)) + T⟩ := by
  cases log with
  | untraced => exact h
  | traced ids =>
    obtain ⟨htraced, hids⟩ := h
    refine ⟨htraced, hids.trans ?_⟩
    rw [fetchedIds_cons, fetchedIds_add, hq]

theorem logged_preserves {traced : Bool} [DecidableEq S] :
    (program S).Preserves (fun _ _ => True) (Logged traced) where
  thread {s T p e s' q} _ h hs := by
    cases p with
    | page tracingId => cases e <;> cases hs
    | lost tracingId => cases e <;> cases hs
    | fetched tracingId =>
      cases e with
      | proceed | fails => cases hs; cases tracingId <;> exact h.quiet rfl
      | _ => cases hs
    | responded tracingId next =>
      cases e with
      | proceed => cases hs; exact h.record
      | _ => cases hs
    | requested state =>
      cases e with
      | responds tracingId next | fails => cases hs; exact h.quiet rfl
      | _ => cases hs
    | pager state =>
      cases state <;> cases e <;> cases hs <;> exact h.quiet rfl
  env {s T k s' q} := nomatch k

theorem TraceLog.ids_record (log : TraceLog) (tracingId : Option Uuid) :
    log.ids <+: (log.record tracingId).ids := by
  cases log with
  | untraced => cases tracingId <;> exact List.prefix_rfl
  | traced ids =>
    cases tracingId with
    | none => exact List.prefix_rfl
    | some id => exact List.prefix_append ids [id]

theorem step_ids {log log' : TraceLog} {p : Pc S} {e : Choice S} {q : List (Pc S)}
    (h : step log p e = some (log', q)) : log.ids <+: log'.ids := by
  cases p with
  | responded tracingId next =>
    cases e with
    | proceed => cases h; exact log.ids_record tracingId
    | _ => cases h
  | pager state => cases state <;> cases e <;> cases h <;> exact List.prefix_rfl
  | requested state => cases e <;> cases h <;> exact List.prefix_rfl
  | fetched tracingId => cases e <;> cases h <;> exact List.prefix_rfl
  | page tracingId => cases e <;> cases h
  | lost tracingId => cases e <;> cases h

/-- An id stays where the log has it. -/
theorem prefix_preserves [DecidableEq S] (ids : List Uuid) :
    (program S).Preserves (fun _ _ => True) fun c => ids <+: c.shared.ids where
  thread _ h hs := h.trans (step_ids hs)
  env {_ _ k _ _} := nomatch k

end Paging

section Fetching

variable {Info TracingError : Type}

inductive DriverTraceError (TracingError : Type) where
  | rustDriverTracingError (source : TracingError)

/-- A fetched trace that has not been handed to Python. -/
structure PendingQueryTrace (Info : Type) where
  traceId : Uuid
  info : Info

/-- The requests are told apart by their number, as an id may be asked for twice; `info` is
what `get_tracing_info` answers. -/
def fetchTrace (info : Uuid × Nat → Except TracingError Info) (request : Uuid × Nat) :
    Except (DriverTraceError TracingError) (PendingQueryTrace Info) :=
  match info request with
  | .ok trace => .ok ⟨request.1, trace⟩
  | .error source => .error (.rustDriverTracingError source)

def maxConcurrentTraceFetches : Nat := 16

/-- What `buffered` and `try_collect` of the futures crate make of a stream of requests, given
how many may be under way and what each is answered. -/
abbrev TryCollect (Info TracingError : Type) :=
  Nat → (Uuid × Nat → Except (DriverTraceError TracingError) (PendingQueryTrace Info)) →
    List (Uuid × Nat) → Except (DriverTraceError TracingError) (List (PendingQueryTrace Info))

/-- The results are collected in the order of the stream, up to the first error. -/
def TryCollect.InOrder (tryCollect : TryCollect Info TracingError) : Prop :=
  ∀ limit fetch requests, 0 < limit → tryCollect limit fetch requests = requests.mapM fetch

def fetchTraces (tryCollect : TryCollect Info TracingError)
    (info : Uuid × Nat → Except TracingError Info) (traceIds : List Uuid) :
    Except (DriverTraceError TracingError) (List (PendingQueryTrace Info)) :=
  tryCollect maxConcurrentTraceFetches (fetchTrace info) traceIds.zipIdx

def fetchAllQueryTraces (tryCollect : TryCollect Info TracingError)
    (info : Uuid × Nat → Except TracingError Info) (log : TraceLog) :
    Except (DriverTraceError TracingError) (List (PendingQueryTrace Info)) :=
  if log.ids.isEmpty then .ok [] else fetchTraces tryCollect info log.ids

/-- The traces of all ids in their order, or why the first that cannot be fetched cannot. -/
def Resolved (info : Uuid × Nat → Except TracingError Info) (traceIds : List Uuid) :
    Except (DriverTraceError TracingError) (List (PendingQueryTrace Info)) → Prop
  | .ok traces => List.Forall₂ (fun request trace =>
      trace.traceId = request.1 ∧ info request = .ok trace.info) traceIds.zipIdx traces
  | .error e => ∃ done request rest source, traceIds.zipIdx = done ++ request :: rest ∧
      (∀ request' ∈ done, ∃ trace, info request' = .ok trace) ∧ info request = .error source ∧
      e = .rustDriverTracingError source

variable {info : Uuid × Nat → Except TracingError Info} {traceIds : List Uuid}

theorem fetchTrace_ok {request : Uuid × Nat} {trace : PendingQueryTrace Info}
    (h : fetchTrace info request = .ok trace) :
    trace.traceId = request.1 ∧ info request = .ok trace.info := by
  unfold fetchTrace at h
  split at h
  · rename_i hinfo
    cases h
    exact ⟨rfl, hinfo⟩
  · cases h

theorem fetchTrace_error {request : Uuid × Nat} {e : DriverTraceError TracingError}
    (h : fetchTrace info request = .error e) :
    ∃ source, info request = .error source ∧ e = .rustDriverTracingError source := by
  unfold fetchTrace at h
  split at h
  · cases h
  · rename_i source hinfo
    cases h
    exact ⟨source, hinfo, rfl⟩

theorem resolved_mapM : Resolved info traceIds (traceIds.zipIdx.mapM (fetchTrace info)) := by
  cases h : traceIds.zipIdx.mapM (fetchTrace info) with
  | ok traces => exact (FirstFailures.mapM_eq_ok h).imp fun _ _ => fetchTrace_ok
  | error e =>
    obtain ⟨done, request, rest, hsplit, hfails, hdone⟩ := FirstFailures.mapM_eq_error h
    obtain ⟨source, hsource, rfl⟩ := fetchTrace_error hfails
    refine ⟨done, request, rest, source, hsplit, fun request' hmem => ?_, hsource, rfl⟩
    obtain ⟨trace, htrace⟩ := hdone request' hmem
    exact ⟨trace.info, (fetchTrace_ok htrace).2⟩

theorem fetchAllQueryTraces_resolved {tryCollect : TryCollect Info TracingError}
    (hcollect : tryCollect.InOrder) (log : TraceLog) :
    Resolved info log.ids (fetchAllQueryTraces tryCollect info log) := by
  unfold fetchAllQueryTraces
  split
  · rename_i hempty
    rw [List.isEmpty_iff.mp hempty]
    exact .nil
  · rw [fetchTraces, hcollect _ _ _ (by decide)]
    exact resolved_mapM

end Fetching

section Queries

variable {S Info TracingError : Type} {first : Option Uuid} {state : Option S}

theorem logged_executed : Logged first.isSome (executed first state) := by
  cases first with
  | none => rfl
  | some id => exact ⟨rfl, rfl⟩

variable [DecidableEq S] {c : Config TraceLog (Pc S)} {info : Uuid × Nat → Except TracingError Info}
  {tryCollect : TryCollect Info TracingError}

/-- At any time while pagers fetch pages of a traced query, the log has the ids of the pages
that were fetched, each once, also of those whose row factory then failed; later pages only add
to it. If `buffered` and `try_collect` keep the order of their stream, `fetch_all_query_traces`
resolves to the traces of these pages in the order of the log, or to the error of the first of
them that cannot be fetched. -/
theorem fetch_all_query_traces_resolves (hcollect : tryCollect.InOrder)
    (hr : (program S).Run (executed first state) c) :
    (c.shared.ids : Multiset Uuid) = (if first.isSome then fetchedIds c.threads else 0) ∧
      (∀ d, (program S).Run c d → c.shared.ids <+: d.shared.ids) ∧
      Resolved info c.shared.ids (fetchAllQueryTraces tryCollect info c.shared) := by
  refine ⟨?_, fun d hrun => ?_, fetchAllQueryTraces_resolved hcollect c.shared⟩
  · have hlogged := logged_preserves.run logged_executed hr
    unfold Logged at hlogged
    cases hlog : c.shared with
    | untraced => simp_all [TraceLog.ids]
    | traced ids =>
      rw [hlog] at hlogged
      simpa [TraceLog.ids, hlogged.1] using hlogged.2
  · exact (prefix_preserves c.shared.ids).run List.prefix_rfl hrun

/-- The row factory fails for the second page of a query, whose trace is asked for all the
same. -/
theorem fetch_all_query_traces_resolves_lost : ∃ c : Config TraceLog (Pc Unit),
    (program Unit).Run (executed (some 7) (some ())) c ∧ .lost (some 9) ∈ c.threads ∧
      c.shared.ids = [7, 9] ∧ (c.shared.ids : Multiset Uuid) = fetchedIds c.threads ∧
      Resolved (fun request => if request.1 = 9 then .error "expired" else .ok "") c.shared.ids
        (fetchAllQueryTraces (fun _ fetch requests => requests.mapM fetch)
          (fun request => if request.1 = 9 then .error "expired" else .ok "") c.shared) := by
  have hrun : (program Unit).Run (executed (some 7) (some ()))
      ⟨.traced [7, 9], {.lost (some 9), .pager none, .page (some 7)}⟩ :=
    Program.exec_run [.thread (.fetched (some 7)) .proceed, .thread (.pager (some ())) .proceed,
      .thread (.requested ()) (.responds (some 9) none), .thread (.responded (some 9) none) .proceed,
      .thread (.fetched (some 9)) .fails]
      rfl
  obtain ⟨hids, -, hresolved⟩ := fetch_all_query_traces_resolves (fun _ _ _ _ => rfl) hrun
  exact ⟨_, hrun, by simp, rfl, hids, hresolved⟩

end Queries

end TraceFetching

end ScyllaDriver
