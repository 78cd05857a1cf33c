import ScyllaDriver.ResponseMoves
import Mathlib.Data.Multiset.Count

/-! The drain token of a `ResponseFuture` is parked or owned by one drainer,
and the pages it has not delivered stand in line in the order they settled. -/

namespace ScyllaDriver

def ResponsePc.isDrainer : ResponsePc → Bool
  | .drainer | .drain | .fire _ _ _ => true
  | .buildRows _ (.drain _ _) | .storeRows _ _ (.drain _ _) => true
  | _ => false

/-- A request that was or is about to be spawned, until its completion ran. -/
def ResponsePc.isRequest : ResponsePc → Bool
  | .spawn | .request _ | .complete _ | .completeDropped _ => true
  | _ => false

/-- The page a drainer took out of the lock. -/
def ResponsePc.page : ResponsePc → Option Nat
  | .buildRows _ (.drain page _) | .storeRows _ _ (.drain page _) | .fire page _ _ => some page
  | _ => none

/-- The pages that wait for the drainer under the lock, oldest first. -/
def ResponseShared.undelivered (s : ResponseShared) : List Nat :=
  s.unfiredPages.map (·.page) ++ if s.request.unfired.isSome then [s.current] else []

/-- Who owns the drain token. -/
inductive Token : Config ResponseShared ResponsePc → Option ResponsePc → Prop where
  | parked {s T} (hp : s.permit = true) (hT : ∀ p ∈ T, p.isDrainer = false) : Token ⟨s, T⟩ none
  | owned {s p T} (hp : s.permit = false) (hd : p.isDrainer = true)
      (hT : ∀ r ∈ T, r.isDrainer = false) : Token ⟨s, p ::ₘ T⟩ (some p)

/-- The owner after a step of `p` that left the threads `q`, if it was `owner`. -/
def nextOwner (p : ResponsePc) (q : List ResponsePc) (owner : Option ResponsePc) :
    Option ResponsePc :=
  (q.find? (·.isDrainer)).or (if p.isDrainer then none else owner)

/-- The pages not delivered yet, the one in the hands of the drainer first. -/
def line (owner : Option ResponsePc) (s : ResponseShared) : List Nat :=
  (owner.bind ResponsePc.page).toList ++ s.undelivered

theorem Token.cons_cases {s : ResponseShared} {p : ResponsePc} {T : Multiset ResponsePc}
    {owner : Option ResponsePc} (h : Token ⟨s, p ::ₘ T⟩ owner) :
    (p.isDrainer = true ∧ owner = some p ∧ s.permit = false ∧ ∀ r ∈ T, r.isDrainer = false) ∨
    (p.isDrainer = false ∧ Token ⟨s, T⟩ owner) := by
  generalize hU : p ::ₘ T = U at h
  cases h with
  | parked hp hT =>
    subst hU
    exact .inr ⟨hT p (Multiset.mem_cons_self p T),
      .parked hp fun r hr => hT r (Multiset.mem_cons_of_mem hr)⟩
  | @owned _ r V hp hd hT =>
    rcases Multiset.cons_eq_cons.mp hU with ⟨rfl, rfl⟩ | ⟨_, W, rfl, rfl⟩
    · exact .inl ⟨hd, rfl, hp, hT⟩
    · exact .inr ⟨hT p (Multiset.mem_cons_self p W),
        .owned hp hd fun x hx => hT x (Multiset.mem_cons_of_mem hx)⟩

theorem Token.permit_eq {c : Config ResponseShared ResponsePc} {owner : Option ResponsePc}
    (h : Token c owner) : c.shared.permit = owner.isNone := by
  cases h with
  | parked hp | owned hp => exact hp

theorem Token.mem {c : Config ResponseShared ResponsePc} {p : ResponsePc}
    (h : Token c (some p)) : p ∈ c.threads ∧ p.isDrainer = true := by
  cases h with
  | owned hp hd hT => exact ⟨Multiset.mem_cons_self _ _, hd⟩

theorem Token.owner_of_mem {c : Config ResponseShared ResponsePc} {owner : Option ResponsePc}
    {p : ResponsePc} (h : Token c owner) (hp : p ∈ c.threads) (hd : p.isDrainer = true) :
    owner = some p := by
  obtain ⟨T, hT⟩ := Multiset.exists_cons_of_mem hp
  have hc : c = ⟨c.shared, p ::ₘ T⟩ := by rw [← hT]
  rw [hc] at h
  rcases h.cons_cases with ⟨-, ho, -⟩ | ⟨hnot, -⟩
  · exact ho
  · rw [hd] at hnot
    cases hnot

theorem Token.drainers {c : Config ResponseShared ResponsePc} {owner : Option ResponsePc}
    (h : Token c owner) : c.threads.countP (·.isDrainer) = if c.shared.permit then 0 else 1 := by
  have none_drains {T : Multiset ResponsePc} (hT : ∀ p ∈ T, p.isDrainer = false) :
      T.countP (·.isDrainer) = 0 :=
    Multiset.countP_eq_zero.mpr fun p hp => by simp [hT p hp]
  cases h with
  | parked hp hT => simp [hp, none_drains hT]
  | @owned s p T hp hd hT => simp [hp, hd, none_drains hT]

theorem Token.frame {s s' : ResponseShared} {T : Multiset ResponsePc} {q : List ResponsePc}
    {owner : Option ResponsePc} (h : Token ⟨s, T⟩ owner) (hp : s'.permit = s.permit)
    (hq : ∀ r ∈ q, r.isDrainer = false) : Token ⟨s', (q : Multiset ResponsePc) + T⟩ owner := by
  cases h with
  | parked hperm hT =>
    refine .parked (hp.trans hperm) fun r hr => ?_
    rcases Multiset.mem_add.mp hr with hr | hr
    · exact hq r hr
    · exact hT r hr
  | @owned s p T hperm hd hT =>
    rw [Multiset.add_cons]
    refine .owned (hp.trans hperm) hd fun r hr => ?_
    rcases Multiset.mem_add.mp hr with hr | hr
    · exact hq r hr
    · exact hT r hr

/-- How a step touches the token. -/
inductive TokenEffect (s : ResponseShared) (p : ResponsePc) (s' : ResponseShared)
    (q : List ResponsePc) : Prop where
  | apart (hp : p.isDrainer = false) (hs : s'.permit = s.permit)
      (hq : ∀ r ∈ q, r.isDrainer = false)
  | wakes (hp : p.isDrainer = false) (hs : s.permit = true) (hs' : s'.permit = false)
      {n : Nat} (hq : q = [.drainer, .notify n])
  | goesOn (hp : p.isDrainer = true) (hs : s'.permit = s.permit) {r : ResponsePc}
      (hr : r.isDrainer = true) (hq : q = [r])
  | parks (hp : p = .drain) (hs' : s'.permit = true) (hq : q = [])

theorem RowsReader.todo_isDrainer {reader : RowsReader} (h : ∀ n u, reader ≠ .drain n u)
    (rows : Rows) : ∀ r ∈ reader.todo rows, r.isDrainer = false := by
  cases reader with
  | result => simp [todo]
  | register registration =>
    simp only [todo]
    split <;> simp [ResponsePc.isDrainer]
  | drain page unfired => exact absurd rfl (h page unfired)

theorem ResponseMove.tokenEffect {s s' : ResponseShared} {p : ResponsePc} {q : List ResponsePc}
    (h : ResponseMove s p s' q) (hrun : s.shutdown = false) : TokenEffect s p s' q := by
  cases h with
  | completeWakes hu hp => exact .wakes rfl hp rfl rfl
  | dropped hs => rw [hrun] at hs; cases hs
  | closureDropped hs => rw [hrun] at hs; cases hs
  | notifyDropped =>
    refine .apart rfl rfl ?_
    split <;> simp [ResponsePc.isDrainer]
  | @reads rows reader =>
    cases reader with
    | drain page unfired => exact .goesOn rfl rfl rfl rfl
    | result | register => exact .apart rfl rfl (RowsReader.todo_isDrainer (by simp) _)
  | @builds page rows reader =>
    cases reader with
    | drain page unfired => exact .goesOn rfl rfl rfl rfl
    | result | register => exact .apart rfl rfl (by simp [ResponsePc.isDrainer])
  | @stores page built reader =>
    cases reader with
    | drain page unfired => exact .goesOn rfl rfl rfl rfl
    | result | register => exact .apart rfl rfl (RowsReader.todo_isDrainer (by simp) _)
  | drainer | drainQueued | drainCurrent | fireDone | fires => exact .goesOn rfl rfl rfl rfl
  | drainParks hq hu => exact .parks rfl rfl rfl
  | _ => exact .apart rfl rfl (by simp [ResponsePc.isDrainer])

theorem nextOwner_apart {p : ResponsePc} {q : List ResponsePc} (owner : Option ResponsePc)
    (hp : p.isDrainer = false) (hq : ∀ r ∈ q, r.isDrainer = false) :
    nextOwner p q owner = owner := by
  have hnone : q.find? (·.isDrainer) = none :=
    List.find?_eq_none.mpr fun r hr => by simp [hq r hr]
  simp [nextOwner, hnone, hp]

theorem nextOwner_drainer (p : ResponsePc) {r : ResponsePc} (rest : List ResponsePc)
    (owner : Option ResponsePc) (hr : r.isDrainer = true) :
    nextOwner p (r :: rest) owner = some r := by
  simp [nextOwner, hr]

theorem Token.move {s s' : ResponseShared} {p : ResponsePc} {q : List ResponsePc}
    {T : Multiset ResponsePc} {owner : Option ResponsePc} (h : Token ⟨s, p ::ₘ T⟩ owner)
    (he : TokenEffect s p s' q) :
    Token ⟨s', (q : Multiset ResponsePc) + T⟩ (nextOwner p q owner) := by
  rcases h.cons_cases with ⟨hd, rfl, hperm, hT⟩ | ⟨hd, hrest⟩
  · cases he with
    | apart hp | wakes hp => rw [hd] at hp; cases hp
    | goesOn hp hs hr hq =>
      subst hq
      rw [nextOwner_drainer p [] _ hr]
      exact .owned (hs.trans hperm) hr hT
    | parks hp hs' hq =>
      subst hq hp
      exact .parked hs' (by simpa using hT)
  · cases he with
    | apart hp hs hq =>
      rw [nextOwner_apart owner hp hq]
      exact hrest.frame hs hq
    | @wakes hp hs hs' n hq =>
      subst hq
      have ho := hrest.permit_eq
      have hnone : owner = none := by
        rw [← Option.isNone_iff_eq_none, ← ho, hs]
      subst hnone
      cases hrest with
      | parked _ hT =>
        have hnotify : ∀ r ∈ (ResponsePc.notify n ::ₘ T), r.isDrainer = false := by
          intro r hr
          rcases Multiset.mem_cons.mp hr with rfl | hr
          · rfl
          · exact hT r hr
        have howned := @Token.owned s' .drainer _ hs' rfl hnotify
        rw [nextOwner_drainer p _ none rfl]
        simpa only [← Multiset.cons_coe, Multiset.coe_nil, Multiset.cons_add, zero_add] using howned
    | goesOn hp => rw [hd] at hp; cases hp
    | parks hp => subst hp; cases hd

/-- How a step moves the line: a request that settles joins it at the end, and
the drainer takes its head off once that page is done. -/
inductive LineEffect (s : ResponseShared) (p : ResponsePc) (s' : ResponseShared) :
    List Nat → List Nat → Prop where
  | same {l} (hs : s'.settled = s.settled) : LineEffect s p s' l l
  | settles {outcome l} (hp : p = .complete outcome)
      (hs : s'.settled = s.settled ++ [⟨outcome, s.registered⟩]) :
      LineEffect s p s' l
        (l ++ if (s.unfiredFor outcome).isSome then [s.settled.length] else [])
  | delivers {n value l} (hp : p = .fire n [] value) (hs : s' = s) : LineEffect s p s' (n :: l) l

theorem ResponseShared.undelivered_completed {s : ResponseShared}
    {outcome : Except PyErr ResponsePage} (hp : s.request.isPending = true) :
    (s.completed outcome).undelivered =
      s.undelivered ++ if (s.unfiredFor outcome).isSome then [s.settled.length] else [] := by
  have hnone : s.request.unfired = none := RequestState.unfired_of_pending hp
  have hcur : (s.completed outcome).current = s.settled.length := by
    simp [current, completed]
  simp only [undelivered, hcur, hnone]
  simp [completed, RequestState.settle_unfired]

/-- Paging past the current page moves it to the end of the queue. -/
theorem ResponseShared.undelivered_starts (s : ResponseShared) :
    ResponseShared.undelivered
      { s with request := .pending s.request.lastPage,
               unfiredPages := s.unfiredPages ++ (s.request.takeUnfired s.current).2.toList } =
      s.undelivered := by
  have hnone : (RequestState.pending s.request.lastPage).unfired = none := rfl
  simp only [undelivered, hnone]
  cases hu : s.request.unfired with
  | none => simp [RequestState.takeUnfired, hu]
  | some unfired =>
    obtain ⟨rows, hr⟩ := RequestState.rows_of_unfired hu
    simp [RequestState.takeUnfired, hu, hr]

theorem ResponseMove.lineEffect {s s' : ResponseShared} {p : ResponsePc} {q : List ResponsePc}
    {T : Multiset ResponsePc} {owner : Option ResponsePc} (h : ResponseMove s p s' q)
    (ht : Token ⟨s, p ::ₘ T⟩ owner) (hrun : s.shutdown = false)
    (hpend : p.isRequest = true → s.request.isPending = true)
    (hdrop : ∀ obj, p ≠ .completeDropped obj) :
    LineEffect s p s' (line owner s) (line (nextOwner p q owner) s') := by
  have apart (hp : p.isDrainer = false) (hq : ∀ r ∈ q, r.isDrainer = false)
      (hu : s'.undelivered = s.undelivered) (hs : s'.settled = s.settled) :
      LineEffect s p s' (line owner s) (line (nextOwner p q owner) s') := by
    simp only [nextOwner_apart owner hp hq, line, hu]
    exact .same hs
  -- A drainer owns the token, so the page in its hands leads the line.
  have goes {r : ResponsePc} (hp : p.isDrainer = true) (hq : q = [r]) (hr : r.isDrainer = true)
      (hu : r.page.toList ++ s'.undelivered = p.page.toList ++ s.undelivered)
      (hs : s'.settled = s.settled) :
      LineEffect s p s' (line owner s) (line (nextOwner p q owner) s') := by
    have ho : owner = some p := ht.owner_of_mem (Multiset.mem_cons_self p T) hp
    subst hq ho
    simp only [nextOwner_drainer p [] (some p) hr, line, Option.bind_some, hu]
    exact .same hs
  cases h with
  | dropped hs | closureDropped hs => rw [hrun] at hs; cases hs
  | @completeWakes outcome hu hp =>
    have hnone : owner = none := by
      have := ht.permit_eq
      rw [← Option.isNone_iff_eq_none, ← this, hp]
    subst hnone
    have hl : line (nextOwner (.complete outcome) [.drainer, .notify s.waiters] none)
        { s.completed outcome with permit := false } = (s.completed outcome).undelivered := rfl
    rw [hl, ResponseShared.undelivered_completed (hpend rfl)]
    exact .settles rfl rfl
  | @completes outcome hu =>
    rw [nextOwner_apart owner rfl (by simp [ResponsePc.isDrainer])]
    simp only [line]
    rw [ResponseShared.undelivered_completed (hpend rfl), ← List.append_assoc]
    exact .settles rfl rfl
  | completeDropped hp | completeDroppedOver hp => exact absurd rfl (hdrop _)
  | notifyDropped =>
    refine apart rfl ?_ rfl rfl
    split <;> simp [ResponsePc.isDrainer]
  | joins hu =>
    refine apart rfl (by simp) ?_ rfl
    have hp := RequestState.unfired_settled hu
    simp only [ResponseShared.undelivered, RequestState.setUnfired_unfired hp, hu]
    rfl
  | starts hp hm =>
    exact apart rfl (by simp [ResponsePc.isDrainer]) s.undelivered_starts rfl
  | @reads rows reader =>
    cases reader with
    | drain page unfired => exact goes rfl rfl rfl rfl rfl
    | result | register => exact apart rfl (RowsReader.todo_isDrainer (by simp) _) rfl rfl
  | @builds page rows reader =>
    cases reader with
    | drain page unfired => exact goes rfl rfl rfl rfl rfl
    | result | register => exact apart rfl (by simp [ResponsePc.isDrainer]) rfl rfl
  | @stores page built reader =>
    have hu : ResponseShared.undelivered
        { s with request := (s.request.storeRows page.queryResult built).1,
                 reports := s.reports ++
                   reader.reports (s.request.storeRows page.queryResult built).2 } =
        s.undelivered := by
      simp only [ResponseShared.undelivered, RequestState.storeRows_unfired]
      rfl
    cases reader with
    | drain n unfired =>
      exact goes rfl rfl rfl (congrArg (n :: ·) hu) rfl
    | result | register => exact apart rfl (RowsReader.todo_isDrainer (by simp) _) hu rfl
  | drainer => exact goes rfl rfl rfl rfl rfl
  | drainQueued hq =>
    refine goes rfl rfl rfl ?_ rfl
    simp only [ResponseShared.undelivered, hq, ResponsePc.page]
    rfl
  | drainCurrent hq hu hr =>
    have hp := RequestState.unfired_settled hu
    refine goes rfl rfl rfl ?_ rfl
    simp [ResponseShared.undelivered, hq, hu, RequestState.setUnfired_unfired hp,
      ResponsePc.page]
  | drainParks hq hu =>
    have ho : owner = some .drain := ht.owner_of_mem (Multiset.mem_cons_self _ T) rfl
    subst ho
    exact .same rfl
  | @fireDone n value =>
    have ho : owner = some (.fire n [] value) := ht.owner_of_mem (Multiset.mem_cons_self _ T) rfl
    subst ho
    exact .delivers rfl rfl
  | fires => exact goes rfl rfl rfl rfl rfl
  | _ => exact apart rfl (by simp [ResponsePc.isDrainer]) rfl rfl

end ScyllaDriver
