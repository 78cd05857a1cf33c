import ScyllaDriver.ResponseIdentities

/-! The drainer calls the callbacks of every page that settled, those that were
registered then and those that joined while the page waited for it, once and
page by page. -/

namespace ScyllaDriver

namespace ResponseShared

/-- The callbacks of page `k`: registered when it settled, or joined later. -/
def due (s : ResponseShared) (k : Nat) (delivery : Delivery) : List LegacyCallback :=
  (s.settled[k]?.elim [] (·.registered.list delivery)) ++
    (s.joined.filter fun r => r.page = k ∧ r.delivery = delivery).map (·.callback)

def firedFor (s : ResponseShared) (k : Nat) : List Invocation := s.fired.filter (·.page = k)

def calls (k : Nat) (value : PyObj) (callbacks : List LegacyCallback) : List Invocation :=
  callbacks.map fun cb => ⟨k, cb, cb.invoke value⟩

/-- The calls for page `k`, given its rows. -/
def owed (s : ResponseShared) (k : Nat) (rows : Rows) : List Invocation :=
  calls k (callbackValue rows) (s.due k (Delivery.of rows))

/-- The drainer made exactly the calls of page `k`, with rows of that page. -/
def Delivered (s : ResponseShared) (k : Nat) : Prop :=
  (∃ rows, s.Fits k (.built rows) ∧ s.firedFor k = s.owed k rows) ∨
    ((∀ delivery, s.due k delivery = []) ∧ s.firedFor k = [])

/-- The drainer has all of page `k` to do, with `unfired` as its callbacks. -/
def Untouched (s : ResponseShared) (k : Nat) (unfired : Callbacks) : Prop :=
  (∀ delivery, unfired.list delivery = s.due k delivery) ∧ s.firedFor k = []

end ResponseShared

/-- What the drainer has left to do for the page in its hands. -/
def ResponsePc.Handles (s : ResponseShared) : ResponsePc → Prop
  | .buildRows _ (.drain k unfired) | .storeRows _ _ (.drain k unfired) => s.Untouched k unfired
  | .fire k callbacks value => ∃ rows, s.Fits k (.built rows) ∧ value = callbackValue rows ∧
    s.firedFor k ++ ResponseShared.calls k value callbacks = s.owed k rows
  | _ => True

structure Deliveries (owner : Option ResponsePc) (s : ResponseShared) : Prop where
  queued : ∀ u ∈ s.unfiredPages, s.Untouched u.page u.unfired
  current : ∀ unfired, s.request.unfired = some unfired → s.Untouched s.current unfired
  hand : ∀ p, owner = some p → p.Handles s
  done : ∀ k < s.settled.length, k ∉ line owner s → s.Delivered k
  sorted : s.fired.Pairwise (·.page ≤ ·.page)
  ahead : ∀ i ∈ s.fired, ∀ k ∈ line owner s, i.page ≤ k
  past : ∀ i ∈ s.fired, i.page < s.settled.length
  joined : ∀ r ∈ s.joined, r.page < s.settled.length

variable {s s' : ResponseShared} {k : Nat}

theorem ResponseShared.due_of_append {rest : List Settlement} (hk : k < s.settled.length)
    (hs : s'.settled = s.settled ++ rest) (hj : s'.joined = s.joined) (delivery : Delivery) :
    s'.due k delivery = s.due k delivery := by
  simp only [due, hs, hj, List.getElem?_append_left hk]

theorem ResponseShared.due_of_new {x : Settlement} (hs : s'.settled = s.settled ++ [x])
    (hj : s'.joined = s.joined) (hpast : ∀ r ∈ s.joined, r.page < s.settled.length)
    (delivery : Delivery) : s'.due s.settled.length delivery = x.registered.list delivery := by
  have hnone : s.joined.filter
      (fun r => r.page = s.settled.length ∧ r.delivery = delivery) = [] := by
    refine List.filter_eq_nil_iff.mpr fun r hr => ?_
    have := hpast r hr
    simp only [decide_eq_true_eq, not_and]
    omega
  simp only [due, hs, hj, hnone]
  simp

theorem ResponseShared.due_congr (hs : s'.settled = s.settled) (hj : s'.joined = s.joined)
    (k : Nat) (delivery : Delivery) : s'.due k delivery = s.due k delivery := by
  simp only [due, hs, hj]

theorem ResponseShared.due_of_join {r : Registration} (hs : s'.settled = s.settled)
    (hj : s'.joined = s.joined ++ [r]) (delivery : Delivery) :
    s'.due k delivery =
      s.due k delivery ++ if r.page = k ∧ r.delivery = delivery then [r.callback] else [] := by
  simp only [due, hs, hj, List.filter_append, List.map_append, List.append_assoc]
  by_cases h : r.page = k ∧ r.delivery = delivery <;> simp [h]

theorem ResponseShared.Delivered.mono (h : s.Delivered k) (hg : Grows s s')
    (hdue : ∀ delivery, s'.due k delivery = s.due k delivery)
    (hf : s'.firedFor k = s.firedFor k) : s'.Delivered k := by
  rcases h with ⟨rows, hfits, hfired⟩ | ⟨hnone, hfired⟩
  · exact .inl ⟨rows, hg.fits hfits, by rw [hf, hfired, owed, owed, hdue]⟩
  · exact .inr ⟨fun delivery => by rw [hdue, hnone], by rw [hf, hfired]⟩

theorem ResponseShared.Untouched.mono {unfired : Callbacks} (h : s.Untouched k unfired)
    (hdue : ∀ delivery, s'.due k delivery = s.due k delivery)
    (hf : s'.firedFor k = s.firedFor k) : s'.Untouched k unfired :=
  ⟨fun delivery => by rw [h.1, hdue], by rw [hf, h.2]⟩

theorem ResponsePc.Handles.mono {p : ResponsePc} (h : p.Handles s) (hg : Grows s s')
    (hdue : ∀ k, p.page = some k → ∀ delivery, s'.due k delivery = s.due k delivery)
    (hf : ∀ k, p.page = some k → s'.firedFor k = s.firedFor k) : p.Handles s' := by
  cases p with
  | buildRows rows reader | storeRows page built reader =>
    cases reader with
    | drain k unfired => exact ResponseShared.Untouched.mono h (hdue k rfl) (hf k rfl)
    | _ => trivial
  | fire k callbacks value =>
    obtain ⟨rows, hfits, hv, hcalls⟩ := h
    refine ⟨rows, hg.fits hfits, hv, ?_⟩
    rw [hf k rfl, hcalls, ResponseShared.owed, ResponseShared.owed, hdue k rfl]
  | _ => trivial

theorem ResponseShared.firedFor_past (hpast : ∀ i ∈ s.fired, i.page < s.settled.length) :
    s.firedFor s.settled.length = [] := by
  refine List.filter_eq_nil_iff.mpr fun i hi => ?_
  have := hpast i hi
  simp only [decide_eq_true_eq]
  omega

theorem Deliveries.frame {owner owner' : Option ResponsePc} (h : Deliveries owner s)
    (hg : Grows s s') (hs : s'.settled = s.settled) (hj : s'.joined = s.joined)
    (hf : s'.fired = s.fired) (hl : line owner' s' = line owner s)
    (hq : ∀ u ∈ s'.unfiredPages, s.Untouched u.page u.unfired)
    (hc : ∀ unfired, s'.request.unfired = some unfired → s.Untouched s.current unfired)
    (hh : ∀ p, owner' = some p → p.Handles s) : Deliveries owner' s' := by
  have hdue := ResponseShared.due_congr hs hj
  have hfired : ∀ k, s'.firedFor k = s.firedFor k := fun k => by
    simp only [ResponseShared.firedFor, hf]
  have hcur : s'.current = s.current := by simp only [ResponseShared.current, hs]
  refine ⟨fun u hu => (hq u hu).mono (hdue _) (hfired _), fun unfired hu => ?_, fun p hp => ?_,
    fun k hk hkl => ?_, by rw [hf]; exact h.sorted, by rw [hf, hl]; exact h.ahead,
    by rw [hf, hs]; exact h.past, by rw [hj, hs]; exact h.joined⟩
  · rw [hcur]
    exact (hc unfired hu).mono (hdue _) (hfired _)
  · exact (hh p hp).mono hg (fun k _ => hdue k) fun k _ => hfired k
  · rw [hs] at hk
    rw [hl] at hkl
    exact (h.done k hk hkl).mono hg (hdue k) (hfired k)

theorem Deliveries.settles {owner owner' : Option ResponsePc} {outcome : Except PyErr ResponsePage}
    (h : Deliveries owner s) (hg : Grows s s') (hn : ∀ k ∈ line owner s, k < s.settled.length)
    (hs : s'.settled = s.settled ++ [⟨outcome, s.registered⟩]) (hj : s'.joined = s.joined)
    (hf : s'.fired = s.fired) (hu : s'.unfiredPages = s.unfiredPages)
    (hr : s'.request.unfired = s.unfiredFor outcome)
    (hl : line owner' s' =
      line owner s ++ if (s.unfiredFor outcome).isSome then [s.settled.length] else [])
    (ho : ∀ p, owner' = some p → owner = some p ∨ p = .drainer) : Deliveries owner' s' := by
  have hdue : ∀ k < s.settled.length, ∀ delivery, s'.due k delivery = s.due k delivery :=
    fun k hk delivery => ResponseShared.due_of_append hk hs hj delivery
  have hnew : ∀ delivery, s'.due s.settled.length delivery = s.registered.list delivery :=
    ResponseShared.due_of_new hs hj h.joined
  have hfired : ∀ k, s'.firedFor k = s.firedFor k := fun k => by
    simp only [ResponseShared.firedFor, hf]
  have hcur : s'.current = s.settled.length := by simp [ResponseShared.current, hs]
  have hlen : s'.settled.length = s.settled.length + 1 := by simp [hs]
  have hlast : s'.settled[s.settled.length]? = some ⟨outcome, s.registered⟩ := by simp [hs]
  refine ⟨fun u hu' => ?_, fun unfired hun => ?_, fun p hp => ?_, fun k hk hkl => ?_,
    by rw [hf]; exact h.sorted, fun i hi k hk => ?_, fun i hi => ?_, fun r hr => ?_⟩
  · rw [hu] at hu'
    have hk : u.page < s.settled.length :=
      hn _ (List.mem_append_right _ (List.mem_append_left _ (List.mem_map_of_mem hu')))
    exact (h.queued u hu').mono (hdue _ hk) (hfired _)
  · rw [hcur]
    rw [hr] at hun
    obtain rfl := Callbacks.forOutcome_eq_some hun
    exact ⟨fun delivery => (hnew delivery).symm,
      (hfired _).trans (ResponseShared.firedFor_past h.past)⟩
  · rcases ho p hp with hown | rfl
    · refine (h.hand p hown).mono hg (fun k hk => hdue k (hn k ?_)) fun k _ => hfired k
      simp [line, hown, hk]
    · trivial
  · rw [hl] at hkl
    by_cases hlt : k < s.settled.length
    · exact (h.done k hlt fun hm => hkl (List.mem_append_left _ hm)).mono hg (hdue k hlt) (hfired k)
    · obtain rfl : k = s.settled.length := by omega
      -- The page never stood in line: no callback could match its outcome.
      have hnone : s.unfiredFor outcome = none := by
        cases hun : s.unfiredFor outcome with
        | none => rfl
        | some unfired => simp [hun] at hkl
      have hnofire : s'.firedFor s.settled.length = [] :=
        (hfired _).trans (ResponseShared.firedFor_past h.past)
      cases outcome with
      | error err =>
        have hempty : s.registered.list .errbacks = [] :=
          Callbacks.forOutcome_eq_none hnone fun d hd => (Option.some.inj hd).symm
        refine .inl ⟨.error err, ⟨_, hlast, rfl⟩, ?_⟩
        rw [hnofire, ResponseShared.owed, Delivery.of, hnew, hempty]
        rfl
      | ok page =>
        refine .inr ⟨fun delivery => ?_, hnofire⟩
        rw [hnew]
        exact Callbacks.forOutcome_eq_none hnone (by simp)
  · rw [hf] at hi
    rw [hl] at hk
    rcases List.mem_append.mp hk with hk | hk
    · exact h.ahead i hi k hk
    · have := h.past i hi
      split at hk
      · rw [List.mem_singleton.mp hk]
        exact this.le
      · cases hk
  · rw [hf] at hi
    have := h.past i hi
    omega
  · rw [hj] at hr
    have := h.joined r hr
    omega

theorem Deliveries.joins {owner : Option ResponsePc} {unfired : Callbacks} {delivery : Delivery}
    {cb : LegacyCallback} (h : Deliveries owner s) (hg : Grows s s')
    (ho : (line owner s).Pairwise (· < ·)) (hne : s.settled ≠ [])
    (hu : s.request.unfired = some unfired) (hs : s'.settled = s.settled)
    (hj : s'.joined = s.joined ++ [⟨s.current, delivery, cb⟩]) (hf : s'.fired = s.fired)
    (hq : s'.unfiredPages = s.unfiredPages)
    (hr : s'.request.unfired = some (unfired.push delivery cb))
    (hl : line owner s' = line owner s) : Deliveries owner s' := by
  have hfired : ∀ k, s'.firedFor k = s.firedFor k := fun k => by
    simp only [ResponseShared.firedFor, hf]
  have hcur : s'.current = s.current := by simp only [ResponseShared.current, hs]
  have hdue : ∀ k ≠ s.current, ∀ d, s'.due k d = s.due k d := fun k hk d => by
    rw [ResponseShared.due_of_join hs hj, if_neg fun hand => hk hand.1.symm, List.append_nil]
  -- The current page is the last in line, so no other place holds it.
  have hline : line owner s =
      ((owner.bind ResponsePc.page).toList ++ s.unfiredPages.map (·.page)) ++ [s.current] := by
    simp [line, ResponseShared.undelivered, hu]
  have hlast : ∀ k ∈ (owner.bind ResponsePc.page).toList ++ s.unfiredPages.map (·.page),
      k ≠ s.current := by
    intro k hk
    rw [hline] at ho
    have := (List.pairwise_append.mp ho).2.2 k hk s.current (List.mem_singleton_self _)
    omega
  refine ⟨fun u hu' => ?_, fun unfired' hun => ?_, fun p hp => ?_, fun k hk hkl => ?_,
    by rw [hf]; exact h.sorted, by rw [hf, hl]; exact h.ahead, by rw [hf, hs]; exact h.past,
    fun r hr => ?_⟩
  · rw [hq] at hu'
    have hk := hlast u.page (List.mem_append_right _ (List.mem_map_of_mem hu'))
    exact (h.queued u hu').mono (hdue _ hk) (hfired _)
  · rw [hr] at hun
    obtain rfl := Option.some.inj hun
    obtain ⟨hlist, hnone⟩ := h.current unfired hu
    rw [hcur]
    refine ⟨fun d => ?_, (hfired _).trans hnone⟩
    rw [ResponseShared.due_of_join hs hj, Callbacks.list_push, hlist]
    simp
  · refine (h.hand p hp).mono hg (fun k hk => hdue k (hlast k ?_)) fun k _ => hfired k
    simp [hp, hk]
  · rw [hs] at hk
    rw [hl] at hkl
    refine (h.done k hk hkl).mono hg (hdue k fun hc => hkl ?_) (hfired k)
    rw [hline, hc]
    simp
  · rw [hs]
    rcases List.mem_append.mp (hj ▸ hr) with hr | hr
    · exact h.joined r hr
    · rw [List.mem_singleton.mp hr]
      have := List.length_pos_iff.mpr hne
      show s.settled.length - 1 < s.settled.length
      omega

theorem Deliveries.fires {n : Nat} {cb : LegacyCallback} {cbs : List LegacyCallback}
    {value : PyObj} (h : Deliveries (some (.fire n (cb :: cbs) value)) s)
    (ho : (line (some (.fire n (cb :: cbs) value)) s).Pairwise (· < ·))
    (hn : ∀ k ∈ line (some (.fire n (cb :: cbs) value)) s, k < s.settled.length) :
    Deliveries (some (.fire n cbs value))
      { s with fired := s.fired ++ [⟨n, cb, cb.invoke value⟩] } := by
  have hrest : ∀ k ∈ s.undelivered, n < k := (List.pairwise_cons.mp ho).1
  have hhead : n ∈ line (some (.fire n (cb :: cbs) value)) s := List.mem_cons_self
  have hother : ∀ k ≠ n, ResponseShared.firedFor
      { s with fired := s.fired ++ [⟨n, cb, cb.invoke value⟩] } k = s.firedFor k := by
    intro k hk
    simp [ResponseShared.firedFor, List.filter_append, Ne.symm hk]
  have hg : Grows s { s with fired := s.fired ++ [⟨n, cb, cb.invoke value⟩] } :=
    ⟨List.prefix_refl _, List.Subset.refl _⟩
  refine ⟨fun u hu => ?_, fun unfired hu => ?_, fun p hp => ?_, fun k hk hkl => ?_, ?_,
    fun i hi k hk => ?_, fun i hi => ?_, h.joined⟩
  · have hk := hrest u.page (List.mem_append_left _ (List.mem_map_of_mem hu))
    exact (h.queued u hu).mono (fun _ => rfl) (hother _ hk.ne')
  · have hk := hrest s.current (List.mem_append_right _ (by simp [show s.request.unfired = _ from hu]))
    exact (h.current unfired hu).mono (fun _ => rfl) (hother _ hk.ne')
  · cases hp
    obtain ⟨rows, hfits, hv, hcalls⟩ := h.hand _ rfl
    refine ⟨rows, hg.fits hfits, hv, ?_⟩
    rw [ResponseShared.owed]
    refine Eq.trans ?_ hcalls
    simp [ResponseShared.firedFor, ResponseShared.calls, List.filter_append]
  · exact (h.done k hk hkl).mono hg (fun _ => rfl) (hother k fun hkn => hkl (hkn ▸ hhead))
  · refine List.pairwise_append.mpr ⟨h.sorted, by simp, fun i hi j hj => ?_⟩
    rw [List.mem_singleton.mp hj]
    exact h.ahead i hi n hhead
  · rcases List.mem_append.mp hi with hi | hi
    · exact h.ahead i hi k hk
    · rw [List.mem_singleton.mp hi]
      rcases List.mem_cons.mp hk with rfl | hk
      · exact le_rfl
      · exact (hrest k hk).le
  · rcases List.mem_append.mp hi with hi | hi
    · exact h.past i hi
    · rw [List.mem_singleton.mp hi]
      exact hn n hhead

theorem Deliveries.delivers {n : Nat} {value : PyObj}
    (h : Deliveries (some (.fire n [] value)) s) : Deliveries (some .drain) s := by
  have hsub : ∀ k ∈ line (some .drain) s, k ∈ line (some (.fire n [] value)) s :=
    fun k hk => List.mem_cons_of_mem n hk
  refine ⟨h.queued, h.current, fun p hp => by cases hp; trivial, fun k hk hkl => ?_, h.sorted,
    fun i hi k hk => h.ahead i hi k (hsub k hk), h.past, h.joined⟩
  by_cases hkn : k = n
  · subst hkn
    obtain ⟨rows, hfits, -, hcalls⟩ := h.hand _ rfl
    exact .inl ⟨rows, hfits, by simpa [ResponseShared.calls] using hcalls⟩
  · refine h.done k hk fun hm => ?_
    rcases List.mem_cons.mp hm with hm | hm
    · exact hkn hm
    · exact hkl hm

/-- The drainer takes the oldest page, or goes on with the one it took. -/
theorem ResponseMove.handles {p r : ResponsePc} (h : ResponseMove s p s' [r])
    (hd : p.isDrainer = true) (hdel : Deliveries (some p) s) (hc : s.Current) (hp : p.Reads s)
    (hfire : ∀ n cb cbs value, p ≠ .fire n (cb :: cbs) value) : r.Handles s := by
  have hhand := hdel.hand p rfl
  have start {k : Nat} {unfired : Callbacks} {rows : Rows} (hu : s.Untouched k unfired)
      (hfits : s.Fits k (.built rows)) :
      (ResponsePc.fire k (unfired.list (Delivery.of rows)) (callbackValue rows)).Handles s := by
    refine ⟨rows, hfits, rfl, ?_⟩
    rw [hu.2, hu.1, List.nil_append]
    rfl
  generalize hq : [r] = q at h
  cases h with
  | @reads rows reader =>
    cases reader with
    | drain k unfired =>
      cases hq
      exact start hhand (hp k rfl)
    | _ => cases hd
  | @builds page rows reader =>
    cases reader with
    | drain k unfired =>
      cases hq
      exact hhand
    | _ => cases hd
  | @stores page built reader =>
    cases reader with
    | drain k unfired =>
      cases hq
      exact start hhand (hc.stored hp.1 (hp.2 k rfl))
    | _ => cases hd
  | drainer => cases hq; trivial
  | drainQueued hqu =>
    cases hq
    exact hdel.queued _ (by rw [hqu]; exact List.mem_cons_self)
  | drainCurrent hqu hu hr =>
    cases hq
    exact hdel.current _ hu
  | fireDone => cases hq; trivial
  | fires => exact absurd rfl (hfire _ _ _ _)
  | closureDropped | drainParks => cases hq
  | _ => cases hd

/-- A thread that is not the drainer leaves the pages in line alone. -/
theorem Deliveries.apart {owner : Option ResponsePc} {p : ResponsePc} {q : List ResponsePc}
    (h : Deliveries owner s) (hg : Grows s s') (hp : p.isDrainer = false)
    (hq : ∀ r ∈ q, r.isDrainer = false) (hs : s'.settled = s.settled) (hj : s'.joined = s.joined)
    (hf : s'.fired = s.fired) (hu : s'.unfiredPages = s.unfiredPages)
    (hr : s'.request.unfired = s.request.unfired) : Deliveries (nextOwner p q owner) s' := by
  rw [nextOwner_apart owner hp hq]
  have hcur : s'.current = s.current := by simp only [ResponseShared.current, hs]
  refine h.frame hg hs hj hf ?_ (by rw [hu]; exact h.queued) (by rw [hr]; exact h.current) h.hand
  simp only [line, ResponseShared.undelivered, hu, hr, hcur]

/-- The drainer goes on, with the same pages in line. -/
theorem Deliveries.goes {owner : Option ResponsePc} {p r : ResponsePc} {q : List ResponsePc}
    {T : Multiset ResponsePc} (h : Deliveries owner s) (ht : Tended owner ⟨s, p ::ₘ T⟩)
    (hrows : RowsSound ⟨s, p ::ₘ T⟩) (hm : ResponseMove s p s' q)
    (hline : LineEffect s p s' (line owner s) (line (nextOwner p q owner) s'))
    (hp : p.isDrainer = true) (hq : q = [r]) (hr : r.isDrainer = true)
    (hfire : ∀ n cbs value, p ≠ .fire n cbs value) (hs : s'.settled = s.settled)
    (hj : s'.joined = s.joined) (hf : s'.fired = s.fired)
    (hu : ∀ u ∈ s'.unfiredPages, u ∈ s.unfiredPages)
    (hun : ∀ unfired, s'.request.unfired = some unfired → s.request.unfired = some unfired) :
    Deliveries (nextOwner p q owner) s' := by
  have hmem : p ∈ p ::ₘ T := Multiset.mem_cons_self p T
  have hown : owner = some p := ht.token.owner_of_mem hmem hp
  subst hq hown
  have hsame : line (nextOwner p [r] (some p)) s' = line (some p) s := by
    generalize line (some p) s = l at hline
    generalize line (nextOwner p [r] (some p)) s' = l' at hline
    cases hline with
    | same => rfl
    | settles he => rw [he] at hp; cases hp
    | delivers he => exact absurd he (hfire _ _ _)
  refine h.frame hm.grows hs hj hf hsame (fun u hu' => h.queued u (hu u hu'))
    (fun unfired hu' => h.current unfired (hun unfired hu')) fun p' hp' => ?_
  rw [nextOwner_drainer p [] _ hr] at hp'
  cases hp'
  exact hm.handles hp h hrows.current (hrows.reads p hmem) fun n cb cbs value => hfire n _ value

/-- What the current page still has to fire is put in line when the next page is asked for. -/
theorem Deliveries.takeUnfired {owner : Option ResponsePc} (h : Deliveries owner s) :
    ∀ u ∈ s.unfiredPages ++ (s.request.takeUnfired s.current).2.toList,
      s.Untouched u.page u.unfired := by
  intro u hu
  rcases List.mem_append.mp hu with hu | hu
  · exact h.queued u hu
  · obtain ⟨rows, unfired, -, hunfired, rfl⟩ := RequestState.mem_takeUnfired hu
    exact h.current unfired hunfired

theorem Deliveries.move {owner : Option ResponsePc} {p : ResponsePc} {q : List ResponsePc}
    {T : Multiset ResponsePc} (h : Deliveries owner s) (ht : Tended owner ⟨s, p ::ₘ T⟩)
    (hrows : RowsSound ⟨s, p ::ₘ T⟩) (hm : ResponseMove s p s' q) :
    Deliveries (nextOwner p q owner) s' := by
  have hmem : p ∈ p ::ₘ T := Multiset.mem_cons_self p T
  have hdrop : ∀ obj, p ≠ .completeDropped obj := fun obj he => ht.undropped obj (he ▸ hmem)
  have hpend : p.isRequest = true → s.request.isPending = true := ht.pending_of_request hmem
  have hg := hm.grows
  have goes {r : ResponsePc} := @Deliveries.goes _ s' owner p r q T h ht hrows hm
    (hm.lineEffect ht.token ht.running hpend hdrop)
  cases hm with
  | dropped hs | closureDropped hs => exact absurd (ht.running.symm.trans hs) Bool.false_ne_true
  | completeDropped | completeDroppedOver => exact absurd rfl (hdrop _)
  | @completeWakes outcome hu hp =>
    have hnone : owner = none := by
      rw [← Option.isNone_iff_eq_none, ← ht.token.permit_eq]
      exact hp
    subst hnone
    refine h.settles hg ht.numbered rfl rfl rfl rfl (RequestState.settle_unfired _ _ _) ?_
      fun p hp => .inr (by cases hp; rfl)
    exact ResponseShared.undelivered_completed (hpend rfl)
  | @completes outcome hu =>
    rw [nextOwner_apart owner rfl (by simp [ResponsePc.isDrainer])]
    refine h.settles hg ht.numbered rfl rfl rfl rfl (RequestState.settle_unfired _ _ _) ?_
      fun p hp => .inl hp
    simp only [line]
    rw [ResponseShared.undelivered_completed (hpend rfl), List.append_assoc]
  | joins hu =>
    have hp := RequestState.unfired_settled hu
    have hset := RequestState.setUnfired_unfired hp
    refine h.joins hg ht.ordered (ht.started hp) hu rfl rfl rfl rfl (hset _) ?_
    simp only [line, ResponseShared.undelivered, hset, hu]
    rfl
  | notifyDropped =>
    refine h.apart hg rfl ?_ rfl rfl rfl rfl rfl
    split <;> simp [ResponsePc.isDrainer]
  | starts hp hmore =>
    rw [nextOwner_apart owner rfl (by simp [ResponsePc.isDrainer])]
    refine h.frame hg rfl rfl rfl ?_ h.takeUnfired (fun _ h => by cases h) h.hand
    simp only [line, s.undelivered_starts]
  | @reads rows reader =>
    cases reader with
    | drain k unfired => exact goes rfl rfl rfl (by simp) rfl rfl rfl (fun _ => id) fun _ => id
    | result | register =>
      exact h.apart hg rfl (RowsReader.todo_isDrainer (by simp) _) rfl rfl rfl rfl rfl
  | @builds page rows reader =>
    cases reader with
    | drain k unfired => exact goes rfl rfl rfl (by simp) rfl rfl rfl (fun _ => id) fun _ => id
    | result | register => exact h.apart hg rfl (by simp [ResponsePc.isDrainer]) rfl rfl rfl rfl rfl
  | @stores page built reader =>
    have hun := s.request.storeRows_unfired page.queryResult built
    cases reader with
    | drain k unfired =>
      exact goes rfl rfl rfl (by simp) rfl rfl rfl (fun _ => id) fun _ hu => hun.symm.trans hu
    | result | register =>
      exact h.apart hg rfl (RowsReader.todo_isDrainer (by simp) _) rfl rfl rfl rfl hun
  | drainer => exact goes rfl rfl rfl (by simp) rfl rfl rfl (fun _ => id) fun _ => id
  | drainQueued hq =>
    refine goes rfl rfl rfl (by simp) rfl rfl rfl (fun u hu => ?_) fun _ => id
    rw [hq]
    exact List.mem_cons_of_mem _ hu
  | drainCurrent hq hu hr =>
    refine goes rfl rfl rfl (by simp) rfl rfl rfl (fun _ => id) fun unfired hun => ?_
    rw [RequestState.setUnfired_unfired (RequestState.unfired_settled hu)] at hun
    cases hun
  | drainParks hq hu =>
    have hown : owner = some .drain := ht.token.owner_of_mem hmem rfl
    subst hown
    exact h.frame hg rfl rfl rfl rfl h.queued h.current (fun _ h => by cases h)
  | fireDone =>
    have hown := ht.token.owner_of_mem hmem rfl
    subst hown
    exact h.delivers
  | fires =>
    have hown := ht.token.owner_of_mem hmem rfl
    subst hown
    exact h.fires ht.ordered ht.numbered
  | _ => exact h.apart hg rfl (by simp [ResponsePc.isDrainer]) rfl rfl rfl rfl rfl

theorem Deliveries.arrive {owner : Option ResponsePc} {e : ResponseEvent} {q : List ResponsePc}
    (h : Deliveries owner s) (ha : ResponseArrival s e s' q) : Deliveries owner s' := by
  have hg := ha.grows
  cases ha <;> exact h.frame hg rfl rfl rfl rfl h.queued h.current h.hand

theorem deliveries_init : Deliveries none responseInit.shared := by
  refine ⟨nofun, nofun, nofun, nofun, .nil, nofun, nofun, nofun⟩

theorem response_deliveries {c : Config ResponseShared ResponsePc}
    (hr : responseProgram.RunIn ResponseRunning responseInit c) :
    ∃ owner, Tended owner c ∧ RowsSound c ∧ Fresh c ∧ Deliveries owner c.shared := by
  have hinvariant : ∃ owner, Tended owner c ∧ RowsSound c ∧ Identified c ∧
      Deliveries owner c.shared := by
    refine response_invariant
      (I := fun owner c => RowsSound c ∧ Identified c ∧ Deliveries owner c.shared) ?_ ?_
      ⟨rowsSound_init, identified_init, deliveries_init⟩ hr
    · rintro s s' p q T owner ht ⟨hrows, hidentified, hdel⟩ hm
      exact ⟨hrows.move hm, hidentified.move hm, hdel.move ht hrows hm⟩
    · rintro s s' k q T owner ⟨hrows, hidentified, hdel⟩ - ha
      exact ⟨hrows.arrive ha, hidentified.arrive ha, hdel.arrive ha⟩
  obtain ⟨owner, ht, hrows, hidentified, hdel⟩ := hinvariant
  exact ⟨owner, ht, hrows, hidentified.fresh, hdel⟩

end ScyllaDriver
