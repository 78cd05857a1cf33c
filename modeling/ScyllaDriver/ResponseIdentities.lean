import ScyllaDriver.ResponseRows

/-! The identities of the responses. They are given out in order, so a later page is never
taken for an earlier one. -/

namespace ScyllaDriver

/-- The identity of the page that is current. -/
def RequestState.current : RequestState → Option Nat
  | .received page _ _ => some page.queryResult
  | _ => none

/-- The rows stored for the page that is current. -/
def RequestState.stored : RequestState → Option Rows
  | .received _ rows _ => rows
  | _ => none

def Settlement.identity (settlement : Settlement) : Option Nat :=
  match settlement.outcome with
  | .ok page => some page.queryResult
  | .error _ => none

/-- The page that a request is about to settle with. -/
def ResponsePc.arriving : ResponsePc → Option Nat
  | .complete (.ok page) => some page.queryResult
  | _ => none

/-- The identities of the pages received so far, settled or about to settle. -/
def identities (c : Config ResponseShared ResponsePc) : Multiset Nat :=
  (c.shared.settled.filterMap Settlement.identity : Multiset Nat) +
    c.threads.filterMap ResponsePc.arriving

/-- No two responses have the same identity, and the next one will be new. -/
structure Identified (c : Config ResponseShared ResponsePc) : Prop where
  issued : ∀ id ∈ identities c, id < c.shared.nextResult
  distinct : (identities c).Nodup
  current : ∀ id, c.shared.request.current = some id →
    id ∈ c.shared.settled.filterMap Settlement.identity

theorem RowsReader.arriving_todo (reader : RowsReader) (rows : Rows) :
    (reader.todo rows).filterMap ResponsePc.arriving = [] := by
  cases reader with
  | result => rfl
  | drain page unfired => rfl
  | register registration =>
    simp only [todo]
    split <;> rfl

/-- What one step does to the identities and to the page that is current. -/
inductive IdentityEffect (s : ResponseShared) (p : ResponsePc) (s' : ResponseShared)
    (q : List ResponsePc) : Prop where
  | same (hp : p.arriving = none) (hq : q.filterMap ResponsePc.arriving = [])
      (hs : s'.settled.filterMap Settlement.identity = s.settled.filterMap Settlement.identity)
      (hn : s'.nextResult = s.nextResult)
      (hc : ∀ id, s'.request.current = some id →
        s.request.current = some id ∧ ∀ r, s.request.stored = some r → s'.request.stored = some r)
  | issued (hp : p.arriving = none) (hq : q.filterMap ResponsePc.arriving = [s.nextResult])
      (hs : s'.settled = s.settled) (hn : s'.nextResult = s.nextResult + 1)
      (hc : s'.request = s.request)
  | settled {page} (hp : p.arriving = some page) (hq : q.filterMap ResponsePc.arriving = [])
      (hs : s'.settled.filterMap Settlement.identity =
        s.settled.filterMap Settlement.identity ++ [page])
      (hn : s'.nextResult = s.nextResult) (hc : s'.request.current = some page)

theorem RequestState.current_setUnfired (request : RequestState) (unfired : Option Callbacks) :
    (request.setUnfired unfired).current = request.current := by
  cases request <;> rfl

theorem RequestState.stored_setUnfired (request : RequestState) (unfired : Option Callbacks) :
    (request.setUnfired unfired).stored = request.stored := by
  cases request <;> rfl

theorem RequestState.current_storeRows (request : RequestState) (id : Nat) (built : Rows) :
    (request.storeRows id built).1.current = request.current := by
  cases request with
  | received page rows unfired =>
    simp only [storeRows]
    split <;> rfl
  | _ => rfl

/-- Rows that are stored stay. -/
theorem RequestState.stored_storeRows {request : RequestState} {r : Rows}
    (h : request.stored = some r) (id : Nat) (built : Rows) :
    (request.storeRows id built).1.stored = some r := by
  cases request with
  | received page rows unfired =>
    obtain rfl : rows = some r := h
    simp only [storeRows]
    split <;> rfl
  | _ => cases h

theorem ResponseMove.identityEffect {s s' : ResponseShared} {p : ResponsePc} {q : List ResponsePc}
    (h : ResponseMove s p s' q) : IdentityEffect s p s' q := by
  have completes {outcome : Except PyErr ResponsePage} {q : List ResponsePc} {s' : ResponseShared}
      (hq : q.filterMap ResponsePc.arriving = [])
      (hs : s'.settled = s.settled ++ [⟨outcome, s.registered⟩])
      (hn : s'.nextResult = s.nextResult)
      (hr : s'.request = s.request.settle outcome (s.unfiredFor outcome)) :
      IdentityEffect s (.complete outcome) s' q := by
    cases outcome with
    | ok page =>
      refine .settled rfl hq ?_ hn (by rw [hr]; rfl)
      rw [hs, List.filterMap_append]
      rfl
    | error err =>
      refine .same rfl hq ?_ hn fun id hid => ?_
      · rw [hs, List.filterMap_append]
        exact List.append_nil _
      · rw [hr] at hid
        cases hid
  cases h with
  | completeWakes | completes => exact completes rfl rfl rfl rfl
  | completeDropped hp =>
    refine .same rfl rfl ?_ rfl fun id hid => by cases hid
    simp [ResponseShared.settle, Settlement.identity]
  | receives => exact .issued rfl rfl rfl rfl rfl
  | fails => exact .same rfl rfl rfl rfl fun id hid => ⟨hid, fun r hr => hr⟩
  | dropped hs =>
    refine .same rfl ?_ rfl rfl fun id hid => ⟨hid, fun r hr => hr⟩
    split <;> rfl
  | notifyDropped =>
    refine .same rfl ?_ rfl rfl fun id hid => ⟨hid, fun r hr => hr⟩
    split <;> rfl
  | joins hu =>
    refine .same rfl rfl rfl rfl fun id hid => ⟨?_, fun r hr => ?_⟩
    · rwa [RequestState.current_setUnfired] at hid
    · exact (RequestState.stored_setUnfired _ _).trans hr
  | drainCurrent hq hu hr =>
    refine .same rfl rfl rfl rfl fun id hid => ⟨?_, fun r hr => ?_⟩
    · rwa [RequestState.current_setUnfired] at hid
    · exact (RequestState.stored_setUnfired _ _).trans hr
  | starts hp hm => exact .same rfl rfl rfl rfl fun id hid => by cases hid
  | @reads rows reader =>
    exact .same rfl (reader.arriving_todo rows) rfl rfl fun id hid => ⟨hid, fun r hr => hr⟩
  | @stores page built reader =>
    refine .same rfl (reader.arriving_todo _) rfl rfl fun id hid => ⟨?_, fun r hr => ?_⟩
    · rwa [RequestState.current_storeRows] at hid
    · exact RequestState.stored_storeRows hr _ _
  | _ => exact .same rfl rfl rfl rfl fun id hid => ⟨hid, fun r hr => hr⟩

theorem identities_thread (s : ResponseShared) (p : ResponsePc) (T : Multiset ResponsePc) :
    identities ⟨s, p ::ₘ T⟩ = (s.settled.filterMap Settlement.identity : Multiset Nat) +
      ((p.arriving.toList : Multiset Nat) + T.filterMap ResponsePc.arriving) := by
  rw [identities, Multiset.filterMap_cons]
  cases p.arriving <;> rfl

theorem identities_after (s : ResponseShared) (q : List ResponsePc) (T : Multiset ResponsePc) :
    identities ⟨s, (q : Multiset ResponsePc) + T⟩ =
      (s.settled.filterMap Settlement.identity : Multiset Nat) +
        ((q.filterMap ResponsePc.arriving : Multiset Nat) + T.filterMap ResponsePc.arriving) := by
  rw [identities, Multiset.filterMap_add]
  rfl

theorem Identified.move {s s' : ResponseShared} {p : ResponsePc} {q : List ResponsePc}
    {T : Multiset ResponsePc} (h : Identified ⟨s, p ::ₘ T⟩) (hm : ResponseMove s p s' q) :
    Identified ⟨s', (q : Multiset ResponsePc) + T⟩ := by
  have hissued := h.issued
  have hdistinct := h.distinct
  rw [identities_thread] at hissued hdistinct
  cases hm.identityEffect with
  | same hp hq hs hn hc =>
    rw [hp] at hissued hdistinct
    refine ⟨?_, ?_, fun id hid => ?_⟩
    · rw [identities_after, hs, hq, hn]
      exact hissued
    · rw [identities_after, hs, hq]
      exact hdistinct
    · rw [hs]
      exact h.current id (hc id hid).1
  | issued hp hq hs hn hc =>
    rw [hp] at hissued hdistinct
    have hids : identities ⟨s', (q : Multiset ResponsePc) + T⟩ = s.nextResult ::ₘ
        ((s.settled.filterMap Settlement.identity : Multiset Nat) +
          (((none : Option Nat).toList : Multiset Nat) + T.filterMap ResponsePc.arriving)) := by
      rw [identities_after, hs, hq]
      simp [← Multiset.singleton_add, add_left_comm]
    refine ⟨?_, ?_, fun id hid => ?_⟩
    · rw [hids, hn]
      intro id hid
      rcases Multiset.mem_cons.mp hid with rfl | hid
      · exact Nat.lt_succ_self _
      · exact (hissued id hid).trans (Nat.lt_succ_self _)
    · rw [hids]
      exact Multiset.nodup_cons.mpr ⟨fun hid => (hissued _ hid).false, hdistinct⟩
    · rw [hs]
      exact h.current id (hc ▸ hid)
  | @settled page hp hq hs hn hc =>
    rw [hp] at hissued hdistinct
    have hids : identities ⟨s', (q : Multiset ResponsePc) + T⟩ =
        (s.settled.filterMap Settlement.identity : Multiset Nat) +
          (((some page).toList : Multiset Nat) + T.filterMap ResponsePc.arriving) := by
      rw [identities_after, hs, hq]
      simp [← Multiset.coe_add, add_assoc]
    refine ⟨?_, ?_, fun id hid => ?_⟩
    · rw [hids, hn]
      exact hissued
    · rw [hids]
      exact hdistinct
    · rw [hc] at hid
      cases hid
      rw [hs]
      simp

theorem Identified.arrive {s s' : ResponseShared} {k : ResponseEvent} {q : List ResponsePc}
    {T : Multiset ResponsePc} (h : Identified ⟨s, T⟩) (ha : ResponseArrival s k s' q) :
    Identified ⟨s', (q : Multiset ResponsePc) + T⟩ := by
  have hframe : s'.settled = s.settled ∧ s'.nextResult = s.nextResult ∧ s'.request = s.request ∧
      q.filterMap ResponsePc.arriving = [] := by
    cases ha <;> exact ⟨rfl, rfl, rfl, rfl⟩
  obtain ⟨hs, hn, hr, hq⟩ := hframe
  have hids : identities ⟨s', (q : Multiset ResponsePc) + T⟩ = identities ⟨s, T⟩ := by
    rw [identities_after, hs, hq]
    simp [identities]
  refine ⟨?_, ?_, ?_⟩
  · rw [hids, hn]
    exact h.issued
  · rw [hids]
    exact h.distinct
  · rw [hs, hr]
    exact h.current

theorem identified_init : Identified responseInit := by
  have hnone : identities responseInit = 0 := rfl
  refine ⟨?_, ?_, fun id h => by cases h⟩
  · rw [hnone]
    intro id hid
    cases hid
  · rw [hnone]
    exact Multiset.nodup_zero

theorem Settlement.identity_eq_some {settlement : Settlement} {page : ResponsePage}
    (h : settlement.outcome = .ok page) : settlement.identity = some page.queryResult := by
  simp only [identity, h]

theorem Identified.fresh {c : Config ResponseShared ResponsePc} (h : Identified c) : Fresh c := by
  have hsettled {x : Settlement} (hx : x ∈ c.shared.settled) {page : ResponsePage}
      (ho : x.outcome = .ok page) :
      page.queryResult ∈ c.shared.settled.filterMap Settlement.identity :=
    List.mem_filterMap.mpr ⟨x, hx, Settlement.identity_eq_some ho⟩
  have harriving {page : ResponsePage} (hpage : .complete (.ok page) ∈ c.threads) :
      page.queryResult ∈ c.threads.filterMap ResponsePc.arriving :=
    (Multiset.mem_filterMap _ _).mpr ⟨_, hpage, rfl⟩
  obtain ⟨hnodup, -, hdisjoint⟩ := Multiset.nodup_add.mp h.distinct
  refine ⟨?_, ?_, ?_⟩
  · intro x hx page ho
    exact h.issued _ (Multiset.mem_add.mpr (.inl (Multiset.mem_coe.mpr (hsettled hx ho))))
  · intro page hpage
    refine ⟨h.issued _ (Multiset.mem_add.mpr (.inr (harriving hpage))), ?_⟩
    intro x hx page' ho hsame
    have hboth := hsettled hx ho
    rw [hsame] at hboth
    exact Multiset.disjoint_left.mp hdisjoint (Multiset.mem_coe.mpr hboth) (harriving hpage)
  · have hpairs := List.pairwise_filterMap.mp (Multiset.coe_nodup.mp hnodup)
    refine hpairs.imp ?_
    intro x y hne page page' ho ho'
    exact hne _ (Settlement.identity_eq_some ho) _ (Settlement.identity_eq_some ho')

end ScyllaDriver
