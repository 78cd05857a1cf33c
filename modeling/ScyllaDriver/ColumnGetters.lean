import ScyllaDriver.ResponseMoves

/-! The column getters of a `ResponseFuture`. Each fills a cell of its own from the page that
is current at its first call and does not look at a page again. -/

namespace ScyllaDriver

namespace ColumnGetters

/-- The columns that the responses carry, by the identity of the response; `none` for a
response without rows. -/
structure ColumnSpecs (Spec Typ : Type) where
  ofResponse : Nat → Option (List Spec)
  name : Spec → String
  typ : Spec → Typ

inductive Getter where
  | columns
  | columnNames
  | columnTypes
  deriving DecidableEq, Repr

/-- What a getter returns. -/
inductive Shown (Spec Typ : Type) where
  | specs (tuple : List Spec)
  | names (list : List String)
  | types (list : List Typ)
  deriving DecidableEq, Repr

/-- The three stages of `cached_columns`. -/
inductive GetterPc (Spec Typ : Type) where
  | get (getter : Getter)
  | build (getter : Getter)
  | getOrInit (getter : Getter) (built : Shown Spec Typ)
  deriving DecidableEq

structure PyResponseFuture (Spec Typ : Type) where
  inner : Config ResponseShared ResponsePc
  cells : Getter → Option (Shown Spec Typ)
  /-- What the getters returned or raised, in order. -/
  reports : List (Getter × Except PyErr (Option (Shown Spec Typ)))

/-- Making the Python objects may fail. -/
inductive GetterChoice where
  | go
  | fails (err : PyErr)

inductive GetterEvent where
  | call (getter : Getter)
  | response (label : Label ResponsePc ResponseChoice ResponseEvent)

section Code

variable {Spec Typ : Type} (M : ColumnSpecs Spec Typ)

def ColumnSpecs.build (specs : List Spec) : Getter → Shown Spec Typ
  | .columns => .specs specs
  | .columnNames => .names (specs.map M.name)
  | .columnTypes => .types (specs.map M.typ)

/-- `PendingResponsePage::columns` of the last page received. -/
def ColumnSpecs.ofLastPage (request : RequestState) : Option (List Spec) :=
  request.lastPage.bind fun page => M.ofResponse page.queryResult

def PyResponseFuture.report (future : PyResponseFuture Spec Typ) (getter : Getter)
    (result : Except PyErr (Option (Shown Spec Typ))) : PyResponseFuture Spec Typ :=
  { future with reports := future.reports ++ [(getter, result)] }

def cachedColumns (future : PyResponseFuture Spec Typ) :
    GetterPc Spec Typ → GetterChoice → PyResponseFuture Spec Typ × List (GetterPc Spec Typ)
  | .get getter, _ =>
    match future.cells getter with
    | some cached => (future.report getter (.ok (some cached)), [])
    | none => (future, [.build getter])
  | .build getter, choice =>
    match M.ofLastPage future.inner.shared.request, choice with
    | none, _ => (future.report getter (.ok none), [])
    | some _, .fails err => (future.report getter (.error err), [])
    | some specs, .go => (future, [.getOrInit getter (M.build specs getter)])
  | .getOrInit getter built, _ =>
    let value := (future.cells getter).getD built
    (({ future with cells := Function.update future.cells getter (some value) } :
      PyResponseFuture Spec Typ).report getter (.ok (some value)), [])

def respond (future : PyResponseFuture Spec Typ) :
    GetterEvent → Option (PyResponseFuture Spec Typ × List (GetterPc Spec Typ))
  | .call getter => some (future, [.get getter])
  | .response label =>
    (responseProgram.next future.inner label).map fun inner => ({ future with inner := inner }, [])

def program : Program (PyResponseFuture Spec Typ) (GetterPc Spec Typ) GetterChoice GetterEvent :=
  ⟨fun future pc choice => some (cachedColumns M future pc choice), respond⟩

def init : Config (PyResponseFuture Spec Typ) (GetterPc Spec Typ) :=
  ⟨⟨responseInit, fun _ => none, []⟩, 0⟩

end Code

section Specification

variable {Spec Typ : Type} (M : ColumnSpecs Spec Typ)

/-- The columns of a request that settled with a page with rows. -/
def ColumnSpecs.ofSettlement (settlement : Settlement) : Option (List Spec) :=
  match settlement.outcome with
  | .ok page => M.ofResponse page.queryResult
  | .error _ => none

/-- The columns of the last page with rows received. -/
def ColumnSpecs.last (s : ResponseShared) : Option (List Spec) :=
  s.settled.reverse.findSome? M.ofSettlement

/-- Nothing was built from a page yet. -/
def Unread (c : Config (PyResponseFuture Spec Typ) (GetterPc Spec Typ)) : Prop :=
  (∀ getter, c.shared.cells getter = none) ∧ ∀ getter built, .getOrInit getter built ∉ c.threads

/-- A page that follows a page with rows has the same columns; it may have others as long as
no getter was read. -/
def Steady (c : Config (PyResponseFuture Spec Typ) (GetterPc Spec Typ)) :
    Label (GetterPc Spec Typ) GetterChoice GetterEvent → Prop
  | .env (.response (.thread (.complete (.ok page)) _)) =>
    ∀ specs, M.last c.shared.inner.shared = some specs →
      M.ofResponse page.queryResult = some specs ∨
        ((M.ofResponse page.queryResult).isSome ∧ Unread c)
  | _ => True

end Specification

section Proofs

variable {Spec Typ : Type} {M : ColumnSpecs Spec Typ}

/-- What a step of the response does to the pages. -/
inductive PageEffect (s : ResponseShared) (p : ResponsePc) (s' : ResponseShared) : Prop where
  | same (hs : s'.settled = s.settled) (hl : s'.request.lastPage = s.request.lastPage)
  | failed {x err} (hx : x.outcome = .error err) (hs : s'.settled = s.settled ++ [x])
      (hl : s'.request.lastPage = s.request.lastPage)
  | received {x page} (hp : p = .complete (.ok page)) (hx : x.outcome = .ok page)
      (hs : s'.settled = s.settled ++ [x]) (hl : s'.request.lastPage = some page)

theorem pageEffect {s s' : ResponseShared} {p : ResponsePc} {q : List ResponsePc}
    (h : ResponseMove s p s' q) : PageEffect s p s' := by
  have completes {outcome : Except PyErr ResponsePage} {s' : ResponseShared}
      (hs : s'.settled = s.settled ++ [⟨outcome, s.registered⟩])
      (hr : s'.request = s.request.settle outcome (s.unfiredFor outcome)) :
      PageEffect s (.complete outcome) s' := by
    cases outcome with
    | ok page => exact .received rfl rfl hs (by rw [hr]; rfl)
    | error err => exact .failed rfl hs (by rw [hr]; rfl)
  cases h with
  | completeWakes | completes => exact completes rfl rfl
  | completeDropped => exact .failed rfl rfl rfl
  | joins | drainCurrent => exact .same rfl (RequestState.setUnfired_lastPage _ _)
  | stores => exact .same rfl (RequestState.storeRows_lastPage _ _ _)
  | _ => exact .same rfl rfl

theorem last_concat {s s' : ResponseShared} {x : Settlement}
    (hs : s'.settled = s.settled ++ [x]) : M.last s' = (M.ofSettlement x).or (M.last s) := by
  unfold ColumnSpecs.last
  rw [hs, List.reverse_append, List.reverse_singleton, List.singleton_append,
    List.findSome?_cons]
  cases M.ofSettlement x <;> rfl

/-- The value is what the last page with rows shows. -/
def ColumnSpecs.Shows (M : ColumnSpecs Spec Typ) (s : ResponseShared) (getter : Getter)
    (value : Shown Spec Typ) : Prop :=
  ∃ specs, M.last s = some specs ∧ value = M.build specs getter

theorem ColumnSpecs.Shows.eq_map {s : ResponseShared} {getter : Getter} {value : Shown Spec Typ}
    (h : M.Shows s getter value) : some value = (M.last s).map (M.build · getter) := by
  obtain ⟨specs, hlast, rfl⟩ := h
  rw [hlast]
  rfl

structure Described (M : ColumnSpecs Spec Typ)
    (c : Config (PyResponseFuture Spec Typ) (GetterPc Spec Typ)) : Prop where
  page : M.ofLastPage c.shared.inner.shared.request = M.last c.shared.inner.shared
  cells : ∀ getter value, c.shared.cells getter = some value →
    M.Shows c.shared.inner.shared getter value
  built : ∀ getter value, .getOrInit getter value ∈ c.threads →
    M.Shows c.shared.inner.shared getter value

theorem Described.of_last {future future' : PyResponseFuture Spec Typ}
    {T T' : Multiset (GetterPc Spec Typ)} (h : Described M ⟨future, T⟩)
    (hc : future'.cells = future.cells)
    (ht : ∀ getter value, .getOrInit getter value ∈ T' → .getOrInit getter value ∈ T)
    (hl : M.last future'.inner.shared = M.last future.inner.shared)
    (hp : M.ofLastPage future'.inner.shared.request =
      M.ofLastPage future.inner.shared.request) : Described M ⟨future', T'⟩ := by
  refine ⟨by rw [hp, hl]; exact h.page, fun getter value hv => ?_, fun getter value hv => ?_⟩
  · obtain ⟨specs, hs, rfl⟩ := h.cells getter value (hc ▸ hv)
    exact ⟨specs, hl.trans hs, rfl⟩
  · obtain ⟨specs, hs, rfl⟩ := h.built getter value (ht getter value hv)
    exact ⟨specs, hl.trans hs, rfl⟩

/-- A page arrives. -/
theorem Described.receive {future future' : PyResponseFuture Spec Typ}
    {T : Multiset (GetterPc Spec Typ)} {x : Settlement} {page : ResponsePage}
    (h : Described M ⟨future, T⟩) (hx : x.outcome = .ok page)
    (hs : future'.inner.shared.settled = future.inner.shared.settled ++ [x])
    (hl : future'.inner.shared.request.lastPage = some page)
    (hc : future'.cells = future.cells)
    (hok : ∀ specs, M.last future.inner.shared = some specs →
      M.ofResponse page.queryResult = some specs ∨
        ((M.ofResponse page.queryResult).isSome ∧ Unread ⟨future, T⟩)) :
    Described M ⟨future', T⟩ := by
  have hpage : M.ofLastPage future'.inner.shared.request = M.ofResponse page.queryResult := by
    simp [ColumnSpecs.ofLastPage, hl]
  have hlast : M.last future'.inner.shared =
      (M.ofResponse page.queryResult).or (M.last future.inner.shared) := by
    rw [last_concat hs]
    simp [ColumnSpecs.ofSettlement, hx]
  cases hold : M.last future.inner.shared with
  | none =>
    -- Nothing was shown before the first page with rows.
    refine ⟨by rw [hpage, hlast, hold, Option.or_none], fun getter value hv => ?_,
      fun getter value hv => ?_⟩
    · obtain ⟨specs, hspecs, -⟩ := h.cells getter value (hc ▸ hv)
      rw [hold] at hspecs
      cases hspecs
    · obtain ⟨specs, hspecs, -⟩ := h.built getter value hv
      rw [hold] at hspecs
      cases hspecs
  | some specs =>
    rcases hok specs hold with hsame | ⟨hrows, hcells, hthreads⟩
    · refine h.of_last hc (fun _ _ hv => hv) ?_ ?_
      · rw [hlast, hsame, hold]
        rfl
      · rw [hpage, hsame, h.page, hold]
    · obtain ⟨specs', hspecs'⟩ := Option.isSome_iff_exists.mp hrows
      refine ⟨by rw [hpage, hlast, hspecs']; rfl, fun getter value hv => ?_,
        fun getter value hv => absurd hv (hthreads getter value)⟩
      rw [hc, hcells getter] at hv
      cases hv

theorem Described.response {future : PyResponseFuture Spec Typ}
    {T : Multiset (GetterPc Spec Typ)} {inner : Config ResponseShared ResponsePc}
    {label : Label ResponsePc ResponseChoice ResponseEvent} (h : Described M ⟨future, T⟩)
    (hok : Steady M ⟨future, T⟩ (.env (.response label)))
    (hn : responseProgram.next future.inner label = some inner) :
    Described M ⟨{ future with inner := inner }, T⟩ := by
  have same {s : ResponseShared} {threads : Multiset ResponsePc}
      (hs : M.last s = M.last future.inner.shared)
      (hl : s.request.lastPage = future.inner.shared.request.lastPage) :
      Described M ⟨{ future with inner := ⟨s, threads⟩ }, T⟩ := by
    refine h.of_last rfl (fun _ _ hv => hv) hs ?_
    simp only [ColumnSpecs.ofLastPage, hl]
  rcases Program.next_cases hn with ⟨p, e, U, s, q, rfl, hc, hstep, rfl⟩ | ⟨k, s, q, rfl, hs, rfl⟩
  · cases pageEffect (responseStep_move hstep) with
    | same hs hl => exact same (by simp only [ColumnSpecs.last, hs]) hl
    | failed hx hs hl =>
      refine same ?_ hl
      rw [last_concat hs]
      simp [ColumnSpecs.ofSettlement, hx]
    | received hp hx hs hl =>
      subst hp
      exact h.receive hx hs hl rfl hok
  · have ha := responseEnv_arrival hs
    cases ha <;> exact same rfl rfl

theorem Described.fill {future : PyResponseFuture Spec Typ} {T : Multiset (GetterPc Spec Typ)}
    {getter : Getter} {value : Shown Spec Typ} (h : Described M ⟨future, T⟩)
    (hvalue : M.Shows future.inner.shared getter value) :
    Described M
      ⟨{ future with cells := Function.update future.cells getter (some value) }, T⟩ := by
  refine ⟨h.page, fun getter' value' hv => ?_, h.built⟩
  by_cases hg : getter' = getter
  · subst hg
    have he : some value = some value' :=
      (Function.update_self getter' _ future.cells).symm.trans hv
    rw [← Option.some.inj he]
    exact hvalue
  · have he : future.cells getter' = some value' :=
      (Function.update_of_ne hg _ future.cells).symm.trans hv
    exact h.cells getter' value' he

/-- What one stage of a getter does. -/
theorem Described.stage {future future' : PyResponseFuture Spec Typ}
    {T : Multiset (GetterPc Spec Typ)} {pc : GetterPc Spec Typ} {choice : GetterChoice}
    {q : List (GetterPc Spec Typ)} (h : Described M ⟨future, pc ::ₘ T⟩)
    (hs : cachedColumns M future pc choice = (future', q)) :
    Described M ⟨future', (q : Multiset (GetterPc Spec Typ)) + T⟩ ∧
      (future'.reports = future.reports ∨
        ∃ getter result, future'.reports = future.reports ++ [(getter, result)] ∧
          ∀ shown, result = .ok shown →
            shown = (M.last future.inner.shared).map (M.build · getter)) := by
  have rest : ∀ getter value, .getOrInit getter value ∈ T → .getOrInit getter value ∈ pc ::ₘ T :=
    fun _ _ => Multiset.mem_cons_of_mem
  have reported (getter) (result : Except PyErr (Option (Shown Spec Typ))) :
      Described M ⟨future.report getter result, (([] : List (GetterPc Spec Typ)) : Multiset _) + T⟩ :=
    h.of_last rfl (by simpa using rest) rfl rfl
  cases pc with
  | get getter =>
    cases hcell : future.cells getter with
    | some cached =>
      simp only [cachedColumns, hcell, Prod.mk.injEq] at hs
      obtain ⟨rfl, rfl⟩ := hs
      refine ⟨reported getter _, .inr ⟨getter, _, rfl, ?_⟩⟩
      rintro shown ⟨⟩
      exact (h.cells getter cached hcell).eq_map
    | none =>
      simp only [cachedColumns, hcell, Prod.mk.injEq] at hs
      obtain ⟨rfl, rfl⟩ := hs
      exact ⟨h.of_last rfl (by simp) rfl rfl, .inl rfl⟩
  | build getter =>
    cases hpage : M.ofLastPage future.inner.shared.request with
    | none =>
      simp only [cachedColumns, hpage, Prod.mk.injEq] at hs
      obtain ⟨rfl, rfl⟩ := hs
      refine ⟨reported getter _, .inr ⟨getter, _, rfl, ?_⟩⟩
      rintro shown ⟨⟩
      rw [← h.page, hpage]
      rfl
    | some specs =>
      have hlast : M.last future.inner.shared = some specs := by rw [← h.page, hpage]
      cases choice with
      | fails err =>
        simp only [cachedColumns, hpage, Prod.mk.injEq] at hs
        obtain ⟨rfl, rfl⟩ := hs
        refine ⟨reported getter _, .inr ⟨getter, _, rfl, ?_⟩⟩
        intro shown hok
        cases hok
      | go =>
        simp only [cachedColumns, hpage, Prod.mk.injEq] at hs
        obtain ⟨rfl, rfl⟩ := hs
        refine ⟨⟨h.page, h.cells, fun getter' value hv => ?_⟩, .inl rfl⟩
        rcases Multiset.mem_add.mp hv with hv | hv
        · have hv' := List.mem_singleton.mp (Multiset.mem_coe.mp hv)
          cases hv'
          exact ⟨specs, hlast, rfl⟩
        · exact h.built getter' value (rest _ _ hv)
  | getOrInit getter built =>
    have hvalue : M.Shows future.inner.shared getter ((future.cells getter).getD built) := by
      cases hcell : future.cells getter with
      | none => exact h.built getter built (Multiset.mem_cons_self _ _)
      | some cached => exact h.cells getter cached hcell
    simp only [cachedColumns, Prod.mk.injEq] at hs
    obtain ⟨rfl, rfl⟩ := hs
    have hfilled := (h.of_last rfl rest rfl rfl).fill hvalue
    refine ⟨hfilled.of_last rfl (by simp) rfl rfl, .inr ⟨getter, _, rfl, ?_⟩⟩
    rintro shown ⟨⟩
    exact hvalue.eq_map

theorem described_preserved : (program M).Preserves (Steady M) (Described M) := by
  constructor
  · intro s T p e s' q _ h hs
    exact (h.stage (Option.some.inj hs)).1
  · intro s T k s' q hok h hs
    cases k with
    | call getter =>
      cases hs
      exact h.of_last rfl (by simp) rfl rfl
    | response label =>
      obtain ⟨inner, hn, he⟩ := Option.map_eq_some_iff.mp hs
      cases he
      simpa using h.response hok hn

theorem described_init : Described M init := by
  refine ⟨rfl, fun getter value h => ?_, fun getter value h => ?_⟩
  · cases h
  · cases h

variable [DecidableEq Spec] [DecidableEq Typ]

/-- In every run in which the columns do not change once a getter was read, whatever a getter
returns shows the columns of the last page with rows, so all three show the same ones. -/
theorem getters_agree (M : ColumnSpecs Spec Typ)
    {c d : Config (PyResponseFuture Spec Typ) (GetterPc Spec Typ)}
    {l : Label (GetterPc Spec Typ) GetterChoice GetterEvent} {getter : Getter}
    {shown : Option (Shown Spec Typ)} (hc : (program M).RunIn (Steady M) init c)
    (hn : (program M).next c l = some d)
    (hd : d.shared.reports = c.shared.reports ++ [(getter, .ok shown)]) :
    shown = (M.last c.shared.inner.shared).map (M.build · getter) := by
  have h := described_preserved.run described_init hc
  rcases Program.next_cases hn with ⟨p, e, T, s, q, rfl, hcT, hs, rfl⟩ | ⟨k, s, q, rfl, hs, rfl⟩
  · rw [hcT] at h
    rcases (h.stage (Option.some.inj hs)).2 with hr | ⟨getter', result, hr, hshown⟩
    · simp [hr] at hd
    · have he := List.append_cancel_left (hr.symm.trans hd)
      cases he
      exact hshown shown rfl
  · have hr : s.reports = c.shared.reports := by
      cases k with
      | call getter' =>
        cases hs
        rfl
      | response label =>
        obtain ⟨inner, -, he⟩ := Option.map_eq_some_iff.mp hs
        cases he
        rfl
    simp [hr] at hd

end Proofs

abbrev ColumnLabel := Label (GetterPc (String × Nat) Nat) GetterChoice GetterEvent

/-- The first page arrives. -/
def firstPage : List ColumnLabel :=
  [.env (.response (.thread .spawn .go)),
    .env (.response (.thread (.request false) (.receives true none))),
    .env (.response (.thread (.complete (.ok ⟨0, true, none⟩)) .go))]

/-- The second page is asked for and arrives. -/
def secondPage : List ColumnLabel :=
  [.env (.response (.env .startFetchingNextPage)),
    .env (.response (.thread .startFetchingNextPage .go)),
    .env (.response (.thread .spawn .go)),
    .env (.response (.thread (.request false) (.receives false none))),
    .env (.response (.thread (.complete (.ok ⟨1, false, none⟩)) .go))]

/-- A first read of a getter, up to the cell that is filled. -/
def firstRead (getter : Getter) : List ColumnLabel :=
  [.env (.call getter), .thread (.get getter) .go, .thread (.build getter) .go]

/-- A table whose columns stay. -/
def sameTable : ColumnSpecs (String × Nat) Nat where
  ofResponse _ := some [("id", 9)]
  name := Prod.fst
  typ := Prod.snd

theorem steady_sameTable (c : Config (PyResponseFuture (String × Nat) Nat) (GetterPc (String × Nat) Nat))
    (l : ColumnLabel) : Steady sameTable c l := by
  unfold Steady
  split
  · intro specs hlast
    obtain ⟨x, -, hx⟩ := List.exists_of_findSome?_eq_some hlast
    unfold ColumnSpecs.ofSettlement at hx
    split at hx
    · exact .inl hx
    · cases hx
  · trivial

/-- The names are read on the first page, the types on the second. -/
theorem getters_agree_same_table :
    ∃ c d, (program sameTable).RunIn (Steady sameTable) init c ∧
      (program sameTable).next c (.thread (.getOrInit .columnTypes (.types [9])) .go) = some d ∧
      c.shared.cells .columnNames = some (.names ["id"]) ∧
      some (.types [9]) =
        (sameTable.last c.shared.inner.shared).map (sameTable.build · .columnTypes) := by
  have hrun : (program sameTable).RunIn (Steady sameTable) init _ :=
    Program.exec_runIn (firstPage ++ firstRead .columnNames ++
      [.thread (.getOrInit .columnNames (.names ["id"])) .go] ++ secondPage ++
      firstRead .columnTypes) (fun l _ c => steady_sameTable c l) rfl
  refine ⟨_, _, hrun, rfl, rfl, ?_⟩
  exact getters_agree sameTable (l := .thread (.getOrInit .columnTypes (.types [9])) .go)
    hrun rfl rfl

/-- A table with one column, and a second one from the second response on. -/
def alteredTable : ColumnSpecs (String × Nat) Nat where
  ofResponse response := some (if response = 0 then [("id", 9)] else [("id", 9), ("b", 13)])
  name := Prod.fst
  typ := Prod.snd

/-- The names are read on the first page; on the second there is one name for two columns. -/
theorem getters_disagree :
    ∃ c, (program alteredTable).Run init c ∧
      c.shared.reports = [(.columnNames, .ok (some (.names ["id"]))),
        (.columns, .ok (some (.specs [("id", 9), ("b", 13)]))),
        (.columnNames, .ok (some (.names ["id"])))] ∧
      alteredTable.last c.shared.inner.shared = some [("id", 9), ("b", 13)] ∧
      c.shared.inner.shared.settled.length = 2 := by
  refine ⟨_, Program.exec_run (firstPage ++ firstRead .columnNames ++
    [.thread (.getOrInit .columnNames (.names ["id"])) .go] ++ secondPage ++
    firstRead .columns ++
    [.thread (.getOrInit .columns (.specs [("id", 9), ("b", 13)])) .go,
      .env (.call .columnNames), .thread (.get .columnNames) .go]) rfl, rfl, rfl, rfl⟩

end ColumnGetters

end ScyllaDriver
