import ScyllaDriver.ResultSet

/-! What a program does with a legacy `ResultSet`, one operation after another. `==` and
indexing first turn the set into a list of all its rows. -/

namespace ScyllaDriver

variable {F : Foreign}

/-- What indexing a list gives. -/
inductive Item (F : Foreign) where
  | row (row : F.Row)
  | slice (rows : List F.Row)

/-- An index, by what Python makes of it: whether it equals 0, what the warnings filter does
with the deprecation of that index, and what it selects. -/
structure Index (F : Foreign) where
  eqZero : Except PyErr Bool
  warn : Except PyErr Unit
  getItem : List F.Row → Except PyErr (Item F)

def Index.check (index : Index F) : Except PyErr Unit := do
  if ← index.eqZero then index.warn

def iteratedErr (operator : String) : PyErr :=
  ⟨.runtimeError, "Cannot use " ++ operator ++ " when results have been iterated.", 0⟩

namespace PyResultSet

def enterListMode (set : PyResultSet F) (net : Network F) (fuel : Nat) (operator : String) :
    Option (Except PyErr Unit × PyResultSet F) :=
  match set.mode with
  | .list => some (.ok (), set)
  | .iterating _ => some (.error (iteratedErr operator), set)
  | .notStarted =>
    match set.drainFromStart net fuel with
    | none => none
    | some (.error err, set) => some (.error err, set)
    | some (.ok all, set) => some (.ok (), { set with currentRows := all, mode := .list })

/-- `__eq__`; `other` is what the comparison of the list with the other object gives. -/
def eq (set : PyResultSet F) (net : Network F) (fuel : Nat)
    (other : List F.Row → Except PyErr Bool) : Option (Except PyErr Bool × PyResultSet F) :=
  (set.enterListMode net fuel "equality operator").map fun (entered, set) =>
    (entered.bind fun _ => other set.currentRows, set)

/-- `__getitem__`. -/
def getItem (set : PyResultSet F) (net : Network F) (fuel : Nat) (index : Index F) :
    Option (Except PyErr (Item F) × PyResultSet F) :=
  match index.check with
  | .error err => some (.error err, set)
  | .ok () =>
    (set.enterListMode net fuel "index operator").map fun (entered, set) =>
      (entered.bind fun _ => index.getItem set.currentRows, set)

/-- Only a set that is being iterated changes its mode: it starts the new rows. -/
def replaceRows (set : PyResultSet F) (rows : List F.Row) : PyResultSet F :=
  { set with
    currentRows := rows
    mode := match set.mode with
      | .iterating _ => .iterating 0
      | mode => mode }

def fetchNextPage (set : PyResultSet F) (net : Network F) :
    Option (Except PyErr Unit × PyResultSet F) :=
  if set.future.hasMorePages then
    match set.fetchPage net with
    | none => none
    | some (.error err, set) => some (.error err, set)
    | some (.ok rows, set) => some (.ok (), set.replaceRows rows)
  else some (.ok (), set.replaceRows [])

end PyResultSet

/-- A Python iterator over a list that nobody changes. -/
structure ListIterator (F : Foreign) where
  rows : List F.Row
  position : Nat

def ListIterator.next (iterator : ListIterator F) : Option F.Row × ListIterator F :=
  match iterator.rows[iterator.position]? with
  | some row => (some row, { iterator with position := iterator.position + 1 })
  | none => (none, iterator)

/-- A set with the iterators over its rows that `iter` gave. -/
structure Client (F : Foreign) where
  set : PyResultSet F
  iterators : List (ListIterator F)

/-- An operation that does not replace the page; `advance` is `next()` on an iterator given
before, `next` that on the set itself. -/
inductive ReadOperation (F : Foreign) where
  | eq (other : List F.Row → Except PyErr Bool)
  | getItem (index : Index F)
  | all
  | iter
  | next
  | advance (iterator : Nat)
  | one
  | isTrue
  | currentRows

inductive Operation (F : Foreign) where
  | read (operation : ReadOperation F)
  | fetchNextPage

inductive OperationResult (F : Foreign) where
  | equal (result : Except PyErr Bool)
  | item (result : Except PyErr (Item F))
  | rows (result : Except PyErr (List F.Row))
  /-- The set itself, or an iterator over its rows with its number. -/
  | iterator (number : Option Nat)
  /-- `none` is the end of the iteration. -/
  | row (result : Except PyErr (Option F.Row))
  | truth (result : Bool)
  | done (result : Except PyErr Unit)

namespace Client

def iter (client : Client F) : OperationResult F × Client F :=
  match client.set.mode with
  | .list =>
    (.iterator (some client.iterators.length),
      { client with iterators := client.iterators ++ [⟨client.set.currentRows, 0⟩] })
  | _ => (.iterator none, { client with set := { client.set with mode := .iterating 0 } })

def advance (client : Client F) (iterator : Nat) : OperationResult F × Client F :=
  match client.iterators[iterator]? with
  | some it =>
    (.row (.ok it.next.1),
      { client with iterators := client.iterators.set iterator it.next.2 })
  | none => (.row (.ok none), client)

/-- One operation, `none` when `fuel` does not suffice for it. -/
def perform (net : Network F) (fuel : Nat) (client : Client F) :
    Operation F → Option (OperationResult F × Client F)
  | .read (.eq other) => (client.set.eq net fuel other).map fun (result, set) =>
    (.equal result, { client with set := set })
  | .read (.getItem index) => (client.set.getItem net fuel index).map fun (result, set) =>
    (.item result, { client with set := set })
  | .read .all => (client.set.all net fuel).map fun (result, set) =>
    (.rows result, { client with set := set })
  | .read .iter => some client.iter
  | .read .next => (client.set.nextRow net fuel).map fun (result, set) =>
    (.row result, { client with set := set })
  | .read (.advance iterator) => some (client.advance iterator)
  | .read .one => some (.row (.ok client.set.currentRows.head?), client)
  | .read .isTrue => some (.truth !client.set.currentRows.isEmpty, client)
  | .read .currentRows => some (.rows (.ok client.set.currentRows), client)
  | .fetchNextPage => (client.set.fetchNextPage net).map fun (result, set) =>
    (.done result, { client with set := set })

def performAll (net : Network F) (fuel : Nat) :
    Client F → List (Operation F) → Option (List (OperationResult F) × Client F)
  | client, [] => some ([], client)
  | client, operation :: operations => do
    let (result, client) ← client.perform net fuel operation
    let (results, client) ← performAll net fuel client operations
    return (result :: results, client)

end Client

end ScyllaDriver
