import ScyllaDriver.OnceCells
import ScyllaDriver.TraceFetching

/-! The getters of a query trace and of its events, read by any number of threads through cells
that keep the object made first. The events are moved out of the trace before they are
converted, so a conversion that fails loses them. -/

namespace ScyllaDriver

namespace QueryTraces

open TraceFetching (Uuid PendingQueryTrace)

variable (Address DateTime : Type)

/-- What chrono and Python make of the server's times. -/
structure Calendar where
  fromTimestamp : BitVec 64 → Option DateTime
  fromTimeuuid : Uuid → Option DateTime
  /-- A `datetime` ends with the year 9999. -/
  inPython : DateTime → Bool

structure TracingEvent where
  eventId : Uuid
  activity : Option String
  source : Option Address
  sourceElapsed : Option (BitVec 32)
  thread : Option String
  deriving DecidableEq

structure TracingInfo where
  client : Option Address
  command : Option String
  coordinator : Option Address
  duration : Option (BitVec 32)
  parameters : Option (List (String × String))
  request : Option String
  startedAt : Option (BitVec 64)
  events : List (TracingEvent Address)

/-- The Python objects that the getters return. -/
inductive PyValue where
  | none
  | uuid (id : Uuid)
  | string (text : String)
  | timedelta (microseconds : Int)
  | address (address : Address)
  | dict (items : List (String × String))
  | datetime (time : DateTime)
  | tuple (events : List (TracingEvent Address))
  deriving DecidableEq

/-- A trace that has been handed to Python. -/
structure QueryTrace where
  traceId : Uuid
  /-- Without its events. -/
  info : TracingInfo Address
  events : List (TracingEvent Address)

inductive QueryTrace.Getter where
  | traceId | requestType | command | duration | coordinator | client | parameters | startedAt
  | events
  deriving DecidableEq

inductive TraceEvent.Getter where
  | eventId | description | datetime | source | sourceElapsed | threadName
  deriving DecidableEq

section Code

variable {Address DateTime} (calendar : Calendar DateTime)

def QueryTrace.fromPending (trace : PendingQueryTrace (TracingInfo Address)) :
    QueryTrace Address :=
  ⟨trace.traceId, { trace.info with events := [] }, trace.info.events⟩

def micros (value : BitVec 32) : PyValue Address DateTime := .timedelta value.toInt

/-- `to_python`: only a time can be one that Python has no object for. -/
def toPython : PyValue Address DateTime → Bool
  | .datetime time => calendar.inPython time
  | _ => true

/-- `cached`, and `cached_option` where the value may be missing. -/
def cached {σ : Type} (value : σ → PyValue Address DateTime) :
    OnceCell.Code σ (PyValue Address DateTime) :=
  ⟨fun source => (value source, source), toPython calendar⟩

def orNone {α : Type} (convert : α → PyValue Address DateTime) (value : Option α) :
    PyValue Address DateTime := value.elim .none convert

def QueryTrace.getter :
    Getter → OnceCell.Code (QueryTrace Address) (PyValue Address DateTime)
  | .traceId => cached calendar fun trace => .uuid trace.traceId
  | .requestType => cached calendar fun trace => orNone .string trace.info.request
  | .command => cached calendar fun trace => orNone .string trace.info.command
  | .duration => cached calendar fun trace => orNone micros trace.info.duration
  | .coordinator => cached calendar fun trace => orNone .address trace.info.coordinator
  | .client => cached calendar fun trace => orNone .address trace.info.client
  | .parameters => cached calendar fun trace => orNone .dict trace.info.parameters
  | .startedAt => cached calendar fun trace =>
    orNone .datetime (trace.info.startedAt.bind calendar.fromTimestamp)
  | .events => ⟨fun trace => (.tuple trace.events, { trace with events := [] }), fun _ => true⟩

def TraceEvent.getter :
    Getter → OnceCell.Code (TracingEvent Address) (PyValue Address DateTime)
  | .eventId => cached calendar fun event => .uuid event.eventId
  | .description => cached calendar fun event => orNone .string event.activity
  | .datetime => cached calendar fun event => orNone .datetime (calendar.fromTimeuuid event.eventId)
  | .source => cached calendar fun event => orNone .address event.source
  | .sourceElapsed => cached calendar fun event => orNone micros event.sourceElapsed
  | .threadName => cached calendar fun event => orNone .string event.thread

def QueryTrace.start (trace : PendingQueryTrace (TracingInfo Address)) :=
  OnceCell.initial (ι := Getter) (β := PyValue Address DateTime) (QueryTrace.fromPending trace)

def TraceEvent.start (event : TracingEvent Address) :=
  OnceCell.initial (ι := Getter) (β := PyValue Address DateTime) event

end Code

variable {Address DateTime}

/-- Python is shown `None` for what the server left out, and otherwise the object of it. -/
inductive Told {α : Type} (object : α → PyValue Address DateTime) :
    Option α → PyValue Address DateTime → Prop
  | missing : Told object none .none
  | given (value : α) : Told object (some value) (object value)

/-- What Python may be shown of a trace that was fetched, if its events were lost or not. -/
def QueryTrace.Shows (calendar : Calendar DateTime)
    (trace : PendingQueryTrace (TracingInfo Address)) (lost : Prop) :
    Getter → PyValue Address DateTime → Prop
  | .traceId, shown => shown = .uuid trace.traceId
  | .requestType, shown => Told .string trace.info.request shown
  | .command, shown => Told .string trace.info.command shown
  | .duration, shown => Told (fun time => .timedelta time.toInt) trace.info.duration shown
  | .coordinator, shown => Told .address trace.info.coordinator shown
  | .client, shown => Told .address trace.info.client shown
  | .parameters, shown => Told .dict trace.info.parameters shown
  | .startedAt, shown => Told .datetime (trace.info.startedAt.bind calendar.fromTimestamp) shown
  | .events, shown =>
    (lost → shown = .tuple []) ∧ (¬ lost → shown = .tuple trace.info.events)

def TraceEvent.Shows (calendar : Calendar DateTime) (event : TracingEvent Address) :
    Getter → PyValue Address DateTime → Prop
  | .eventId, shown => shown = .uuid event.eventId
  | .description, shown => Told .string event.activity shown
  | .datetime, shown => Told .datetime (calendar.fromTimeuuid event.eventId) shown
  | .source, shown => Told .address event.source shown
  | .sourceElapsed, shown => Told (fun time => .timedelta time.toInt) event.sourceElapsed shown
  | .threadName, shown => Told .string event.thread shown

variable {calendar : Calendar DateTime}

theorem told_orNone {α : Type} (object : α → PyValue Address DateTime) (value : Option α) :
    Told object value (orNone object value) := by
  cases value with
  | none => exact .missing
  | some value => exact .given value

theorem QueryTrace.getter_keeps {getter : Getter} (h : getter ≠ .events)
    (source : QueryTrace Address) :
    ((QueryTrace.getter calendar getter).take source).2 = source := by
  cases getter with
  | events => exact absurd rfl h
  | _ => rfl

theorem QueryTrace.sees_of_ne {getter : Getter} (h : getter ≠ .events)
    (source : QueryTrace Address) (n : Nat) : (QueryTrace.getter calendar getter).sees source n =
      ((QueryTrace.getter calendar getter).take source).1 :=
  OnceCell.Code.sees_of_keeps (QueryTrace.getter_keeps h) source n

theorem sees_events (source : QueryTrace Address) (n : Nat) :
    (QueryTrace.getter calendar .events).sees source n =
      .tuple (if n = 0 then source.events else []) := by
  induction n generalizing source with
  | zero => rfl
  | succ n ih => exact (ih { source with events := [] }).trans (by simp)

/-- Only `events` takes anything out of the trace, and no other getter reads what it takes. -/
theorem QueryTrace.getters_apart :
    OnceCell.Apart (QueryTrace.getter calendar : Getter → OnceCell.Code (QueryTrace Address) _) := by
  intro i j hji source n
  by_cases hj : j = .events
  · subst hj
    rw [sees_of_ne hji.symm, sees_of_ne hji.symm]
    cases i with
    | events => exact absurd rfl hji
    | _ => rfl
  · rw [getter_keeps hj]

theorem TraceEvent.getter_keeps (getter : Getter) (source : TracingEvent Address) :
    ((TraceEvent.getter calendar getter).take source).2 = source := by
  cases getter <;> rfl

theorem TraceEvent.getters_apart :
    OnceCell.Apart (TraceEvent.getter calendar : Getter → OnceCell.Code (TracingEvent Address) _) :=
  fun i j _ source n => by rw [getter_keeps j]

theorem QueryTrace.toPython_of_makes {getter : Getter} {time : DateTime}
    (hmakes : (QueryTrace.getter calendar getter : OnceCell.Code (QueryTrace Address) _).makes
      (.datetime time) = true) (h : getter ≠ .events) : calendar.inPython time = true := by
  cases getter with
  | events => exact absurd rfl h
  | _ => exact hmakes

theorem QueryTrace.shows_take {getter : Getter} (h : getter ≠ .events)
    (trace : PendingQueryTrace (TracingInfo Address)) (lost : Prop) :
    QueryTrace.Shows calendar trace lost getter
      ((QueryTrace.getter calendar getter).take (QueryTrace.fromPending trace)).1 := by
  cases getter with
  | traceId => rfl
  | events => exact absurd rfl h
  | _ => exact told_orNone _ _

theorem TraceEvent.shows_take (getter : Getter) (event : TracingEvent Address) :
    TraceEvent.Shows calendar event getter ((TraceEvent.getter calendar getter).take event).1 := by
  cases getter with
  | eventId => rfl
  | _ => exact told_orNone _ _

variable [DecidableEq Address] [DecidableEq DateTime]
  {trace : PendingQueryTrace (TracingInfo Address)}
  {lock : OnceCell.Lock (PyValue Address DateTime)}

/-- Conversions of the events that failed have lost them. -/
theorem QueryTrace.shows_events (h : List (OnceCell.Op (PyValue Address DateTime))) :
    QueryTrace.Shows calendar trace (.ended none ∈ h) .events
      ((QueryTrace.getter calendar .events).sees (QueryTrace.fromPending trace)
        (OnceCell.failures h)) := by
  rw [sees_events]
  refine ⟨fun hlost => ?_, fun hkept => ?_⟩
  · rw [if_neg]
    simpa [OnceCell.failures, List.count_eq_zero] using hlost
  · rw [if_pos]
    · rfl
    · simpa [OnceCell.failures, List.count_eq_zero] using hkept

/-- Readers of one getter get the same object. It shows what the server said: `None` for what it
left out or for a time that chrono has not, else an object that Python has. Only the events are
shown as none at all, to every reader, once a conversion of them has failed. -/
theorem query_trace_reads_agree (hlock : lock.Lawful) {c}
    (hr : (OnceCell.program lock (QueryTrace.getter calendar)).Run (QueryTrace.start trace) c) :
    (∀ getter made made', (getter, .returned made) ∈ c.threads →
      (getter, .returned made') ∈ c.threads → made = made') ∧
    ∀ getter made, (getter, .returned made) ∈ c.threads →
      QueryTrace.Shows calendar trace (.ended none ∈ c.shared.history .events) getter
        made.content ∧
      ∀ time, made.content = .datetime time → calendar.inPython time = true := by
  refine ⟨fun getter made made' => OnceCell.run_agree hlock QueryTrace.getters_apart hr,
    fun getter made h => ?_⟩
  obtain ⟨hcontent, hmakes⟩ := OnceCell.run_returned hlock QueryTrace.getters_apart hr h
  by_cases hevents : getter = .events
  · subst hevents
    rw [hcontent]
    refine ⟨QueryTrace.shows_events _, fun time htime => ?_⟩
    rw [sees_events] at htime
    cases htime
  · refine ⟨?_, fun time htime => QueryTrace.toPython_of_makes (htime ▸ hmakes) hevents⟩
    rw [hcontent, QueryTrace.sees_of_ne hevents]
    exact QueryTrace.shows_take hevents trace _

/-- A first read of the events fails, and the two after it share an empty tuple; the client is
shown as the client. -/
theorem query_trace_reads_agree_lost :
    let calendar : Calendar Nat := ⟨fun _ => none, fun _ => none, fun _ => true⟩
    let event : TracingEvent Nat := ⟨1, some "reading", none, none, none⟩
    let trace := ⟨7, ⟨some 3, none, some 4, none, none, none, none, [event]⟩⟩
    ∃ c, (OnceCell.program .plain (QueryTrace.getter calendar)).Run (QueryTrace.start trace) c ∧
      (∃ made, c.threads.count (.events, .returned made) = 2 ∧ made.content = .tuple []) ∧
      ∃ made, (.client, .returned made) ∈ c.threads ∧ Told .address (some 3) made.content := by
  intro calendar event trace
  let first : PyValue Nat Nat := .tuple [event]
  let made : OnceCell.Made (PyValue Nat Nat) := ⟨3, .tuple []⟩
  let client : OnceCell.Made (PyValue Nat Nat) := ⟨1, .address 3⟩
  obtain ⟨history, hlost, hrun⟩ : ∃ history : QueryTrace.Getter → List (OnceCell.Op _),
      .ended none ∈ history .events ∧
      (OnceCell.program .plain (QueryTrace.getter calendar)).Run (QueryTrace.start trace)
        ⟨⟨⟨7, { trace.info with events := [] }, []⟩, history⟩,
          {(.client, .returned client), (.events, .returned made), (.events, .returned made),
            (.events, .raised)}⟩ :=
    ⟨_, by decide, Program.exec_run [.env .events, .thread (.events, .called) .proceed,
      .thread (.events, .computing) .proceed, .thread (.events, .taken first) .fails,
      .env .events, .thread (.events, .called) .proceed,
      .thread (.events, .computing) .proceed, .thread (.events, .taken (.tuple [])) .proceed,
      .thread (.events, .computed) (.finds made),
      .env .events, .thread (.events, .called) (.finds made),
      .env .client, .thread (.client, .called) .proceed, .thread (.client, .computing) .proceed,
      .thread (.client, .taken (.address 3)) .proceed,
      .thread (.client, .computed) (.finds client)] rfl⟩
  have hread := (query_trace_reads_agree OnceCell.Lock.plain_lawful hrun).2
  have hevents := (hread .events made (by simp)).1.1 hlost
  have hclient := (hread .client client (by simp)).1
  exact ⟨_, hrun, ⟨made, rfl, hevents⟩, client, by simp, hclient⟩

/-- The getters of an event show what the server said of it, the same object to every reader. -/
theorem trace_event_reads_agree (hlock : lock.Lawful) {event : TracingEvent Address} {c}
    {getter made}
    (hr : (OnceCell.program lock (TraceEvent.getter calendar)).Run (TraceEvent.start event) c)
    (h : (getter, .returned made) ∈ c.threads) :
    TraceEvent.Shows calendar event getter made.content ∧
      ∀ made', (getter, .returned made') ∈ c.threads → made' = made := by
  refine ⟨?_, fun made' h' => OnceCell.run_agree hlock TraceEvent.getters_apart hr h' h⟩
  rw [(OnceCell.run_returned hlock TraceEvent.getters_apart hr h).1,
    OnceCell.Code.sees_of_keeps (TraceEvent.getter_keeps getter)]
  exact TraceEvent.shows_take getter event

end QueryTraces

end ScyllaDriver
