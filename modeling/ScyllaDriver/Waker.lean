import ScyllaDriver.Batcher
import ScyllaDriver.Callbacks

/-! The slot of an `AsyncioWaker`. Every function here runs under the slot's
own mutex. -/

namespace ScyllaDriver

inductive WakerSlot where
  | idle
  | woken
  | parked (future : AioFuture)
  deriving DecidableEq, Repr

/-- `take_parked`: record a wake, returning the parked future to deliver it to. -/
def WakerSlot.takeParked : WakerSlot → WakerSlot × Option AioFuture
  | .parked future => (.idle, some future)
  | .idle | .woken => (.woken, none)

/-- What awaiting a cancelled `asyncio.Future` raises. -/
def awaitCancelledErr : PyErr := ⟨.other, "CancelledError", 0⟩

/-- `yield_future`: the future itself if it is still pending, `none` if it has
a result; a cancelled one raises. -/
def yieldFuture (status : AioFuture → AioStatus) (future : AioFuture) :
    Except PyErr (Option AioFuture) :=
  match status future with
  | .pending => .ok (some future)
  | .finished => .ok none
  | .cancelled => .error awaitCancelledErr

/-- `AsyncioWaker::yield_asyncio_future`. `fresh` is what `running_loop`,
`create_future` and `batcher_for` come to: a new future, or an error. -/
def WakerSlot.yieldAsyncioFuture (slot : WakerSlot) (status : AioFuture → AioStatus)
    (fresh : Except PyErr AioFuture) : WakerSlot × Except PyErr (Option AioFuture) :=
  match slot with
  | .woken => (.idle, .ok none)
  | .parked future =>
    match yieldFuture status future with
    | .error e => (slot, .error e)
    | .ok (some yielded) => (slot, .ok (some yielded))
    | .ok none => park slot fresh
  | .idle => park slot fresh
where
  park (slot : WakerSlot) : Except PyErr AioFuture →
      WakerSlot × Except PyErr (Option AioFuture)
    | .ok future => (.parked future, .ok (some future))
    | .error e => (slot, .error e)

end ScyllaDriver
