import ScyllaDriver.ResponseRegistry

/-! A callback registered on a settled page that has nothing unfired is called
at once by the thread that registers it, if it matches the outcome. -/

namespace ScyllaDriver

/-- The late registration the thread still sees to. -/
def ResponsePc.sees : ResponsePc → Option Registration
  | .buildRows _ (.register registration) | .storeRows _ _ (.register registration)
  | .invoke registration _ => some registration
  | _ => none

/-- The thread fires errbacks of a request the runtime dropped. -/
def ResponsePc.isDropped : ResponsePc → Bool
  | .notifyDropped _ _ | .fireDropped _ _ => true
  | _ => false

namespace ResponseShared

def invokedFor (s : ResponseShared) (cb : LegacyCallback) : List Invocation :=
  s.invoked.filter (·.callback = cb)

/-- The call a late registration makes, given the rows of its page. -/
def lateCalls (r : Registration) (rows : Rows) : List Invocation :=
  if Delivery.of rows = r.delivery then calls r.page (callbackValue rows) [r.callback] else []

end ResponseShared

/-- Where the late registrations are. -/
structure Late (c : Config ResponseShared ResponsePc) : Prop where
  undropped : ∀ p ∈ c.threads, p.isDropped = false
  once : ∀ r, c.threads.countP (·.sees = some r) ≤ 1
  seen : ∀ p ∈ c.threads, ∀ r, p.sees = some r →
    r ∈ c.shared.late ∧ c.shared.invokedFor r.callback = []
  done : ∀ r ∈ c.shared.late, (∀ p ∈ c.threads, p.sees ≠ some r) →
    ∃ rows, c.shared.Fits r.page (.built rows) ∧
      c.shared.invokedFor r.callback = ResponseShared.lateCalls r rows
  known : ∀ i ∈ c.shared.invoked, ∃ r ∈ c.shared.late, r.callback = i.callback

variable {s s' : ResponseShared} {p : ResponsePc} {q : List ResponsePc}
  {T : Multiset ResponsePc}

theorem RowsReader.undropped_todo (reader : RowsReader) (rows : Rows) :
    ∀ r ∈ reader.todo rows, r.isDropped = false := by
  cases reader with
  | register registration =>
    simp only [todo]
    split <;> simp [ResponsePc.isDropped]
  | _ => simp [todo, ResponsePc.isDropped]

/-- How a step touches the late registrations. -/
inductive LateEffect (s : ResponseShared) (p : ResponsePc) (s' : ResponseShared)
    (q : List ResponsePc) : Prop where
  | apart (hp : p.sees = none) (hq : ∀ r ∈ q, r.sees = none) (hl : s'.late = s.late)
      (hi : s'.invoked = s.invoked)
  | begins {delivery cb x} (hp : p = .register delivery cb) (hq : q = [x])
      (hx : x.sees = some ⟨s.current, delivery, cb⟩)
      (hl : s'.late = s.late ++ [⟨s.current, delivery, cb⟩]) (hi : s'.invoked = s.invoked)
  | goesOn {r x} (hp : p.sees = some r) (hq : q = [x]) (hx : x.sees = some r)
      (hl : s'.late = s.late) (hi : s'.invoked = s.invoked)
  | skips {r rows} (hp : p.sees = some r) (hq : q = []) (hf : s.Fits r.page (.built rows))
      (hd : Delivery.of rows ≠ r.delivery) (hl : s'.late = s.late) (hi : s'.invoked = s.invoked)
  | invokes {r value} (hp : p = .invoke r value) (hq : q = []) (hl : s'.late = s.late)
      (hi : s'.invoked = s.invoked ++ [⟨r.page, r.callback, r.callback.invoke value⟩])

theorem LateEffect.delivers {reader : RowsReader} {rows : Rows}
    (hp : p.sees = match reader with
      | .register r => some r
      | _ => none)
    (hf : ∀ k, reader.page = some k → s.Fits k (.built rows)) (hl : s'.late = s.late)
    (hi : s'.invoked = s.invoked) : LateEffect s p s' (reader.todo rows) := by
  cases reader with
  | result => exact .apart hp (by simp [RowsReader.todo]) hl hi
  | drain k unfired => exact .apart hp (by simp [RowsReader.todo, ResponsePc.sees]) hl hi
  | register r =>
    by_cases hd : Delivery.of rows = r.delivery
    · have htodo : (RowsReader.register r).todo rows = [.invoke r (callbackValue rows)] :=
        if_pos hd
      rw [htodo]
      exact .goesOn hp rfl rfl hl hi
    · have htodo : (RowsReader.register r).todo rows = [] := if_neg hd
      rw [htodo]
      exact .skips hp rfl (hf r.page rfl) hd hl hi

theorem ResponseMove.lateEffect (h : ResponseMove s p s' q) (hc : s.Current) (hp : p.Reads s)
    (hdrop : p.isDropped = false) : LateEffect s p s' q := by
  cases h with
  | dropped => exact .apart rfl (by split <;> simp [ResponsePc.sees]) rfl rfl
  | notifyDropped | fireDroppedDone | fireDropped => cases hdrop
  | late => exact .begins rfl rfl rfl rfl rfl
  | @reads rows reader => exact .delivers (by cases reader <;> rfl) hp rfl rfl
  | @builds page rows reader =>
    cases reader with
    | register r => exact .goesOn rfl rfl rfl rfl rfl
    | _ => exact .apart rfl (by simp [ResponsePc.sees]) rfl rfl
  | @stores page built reader =>
    exact .delivers (by cases reader <;> rfl) (fun k hk => hc.stored hp.1 (hp.2 k hk)) rfl rfl
  | invoke => exact .invokes rfl rfl rfl rfl
  | _ => exact .apart rfl (by simp [ResponsePc.sees]) rfl rfl

theorem ResponseMove.undropped_next (h : ResponseMove s p s' q) (hdrop : p.isDropped = false)
    (hcd : ∀ obj, p ≠ .completeDropped obj) : ∀ r ∈ q, r.isDropped = false := by
  cases h with
  | dropped => split <;> simp [ResponsePc.isDropped]
  | notifyDropped | fireDroppedDone | fireDropped => cases hdrop
  | completeDropped => exact absurd rfl (hcd _)
  | reads | stores => exact RowsReader.undropped_todo _ _
  | _ => simp [ResponsePc.isDropped]

theorem Enrolled.late_inj {c : Config ResponseShared ResponsePc} (h : Enrolled c)
    {r r' : Registration} (hr : r ∈ c.shared.late) (hr' : r' ∈ c.shared.late)
    (he : r.callback = r'.callback) : r = r' :=
  List.inj_on_of_nodup_map (h.late.nodup h.entered_nodup) hr hr' he

theorem Late.alone (h : Late ⟨s, p ::ₘ T⟩) {r : Registration} (hp : p.sees = some r) :
    ∀ x ∈ T, x.sees ≠ some r := by
  intro x hx hxr
  have hone := h.once r
  rw [Multiset.countP_cons, if_pos hp] at hone
  have hpos : 0 < T.countP (·.sees = some r) := Multiset.countP_pos.mpr ⟨x, hx, hxr⟩
  omega

theorem Late.frame (h : Late ⟨s, p ::ₘ T⟩) (hg : Grows s s') (hl : s'.late = s.late)
    (hi : s'.invoked = s.invoked) (hq : ∀ x ∈ q, x.isDropped = false)
    (hsees : ∀ r, q.countP (·.sees = some r) = if p.sees = some r then 1 else 0) :
    Late ⟨s', (q : Multiset ResponsePc) + T⟩ := by
  have hinv : ∀ cb, s'.invokedFor cb = s.invokedFor cb := fun cb => by
    simp only [ResponseShared.invokedFor, hi]
  have hmem : ∀ x ∈ q, ∀ r, x.sees = some r → p.sees = some r := by
    intro x hx r hxr
    by_contra hne
    have hpos : 0 < q.countP (·.sees = some r) := List.countP_pos_iff.mpr ⟨x, hx, by simp [hxr]⟩
    rw [hsees, if_neg hne] at hpos
    omega
  refine ⟨fun x hx => ?_, fun r => ?_, fun x hx r hxr => ?_, fun r hr hno => ?_, ?_⟩
  · rcases Multiset.mem_add.mp hx with hx | hx
    · exact hq x hx
    · exact h.undropped x (Multiset.mem_cons_of_mem hx)
  · have hone := h.once r
    rw [Multiset.countP_cons] at hone
    have hqc : (q : Multiset ResponsePc).countP (·.sees = some r) =
        q.countP (·.sees = some r) := by simp
    rw [Multiset.countP_add, hqc, hsees]
    omega
  · rw [hl, hinv]
    rcases Multiset.mem_add.mp hx with hx | hx
    · exact h.seen p (Multiset.mem_cons_self p T) r (hmem x hx r hxr)
    · exact h.seen x (Multiset.mem_cons_of_mem hx) r hxr
  · have hno' : ∀ x ∈ p ::ₘ T, x.sees ≠ some r := by
      intro x hx hxr
      rcases Multiset.mem_cons.mp hx with rfl | hx
      · have hpos : 0 < q.countP (·.sees = some r) := by
          rw [hsees, if_pos hxr]
          exact Nat.one_pos
        obtain ⟨y, hy, hyr⟩ := List.countP_pos_iff.mp hpos
        exact hno y (Multiset.mem_add.mpr (.inl hy)) (by simpa using hyr)
      · exact hno x (Multiset.mem_add.mpr (.inr hx)) hxr
    obtain ⟨rows, hf, hcalls⟩ := h.done r (hl ▸ hr) hno'
    exact ⟨rows, hg.fits hf, (hinv _).trans hcalls⟩
  · rw [hi, hl]
    exact h.known

theorem Late.ends {r : Registration} (new : List Invocation) (h : Late ⟨s, p ::ₘ T⟩)
    (he : Enrolled ⟨s, p ::ₘ T⟩) (hg : Grows s s') (hp : p.sees = some r)
    (hl : s'.late = s.late) (hi : s'.invoked = s.invoked ++ new)
    (hnew : ∀ i ∈ new, i.callback = r.callback)
    (hdone : ∃ rows, s.Fits r.page (.built rows) ∧ new = ResponseShared.lateCalls r rows) :
    Late ⟨s', T⟩ := by
  obtain ⟨hlate, hnone⟩ := h.seen p (Multiset.mem_cons_self p T) r hp
  have hother : ∀ r' ∈ s.late, r' ≠ r → s'.invokedFor r'.callback = s.invokedFor r'.callback := by
    intro r' hr' hne
    have hcb : r'.callback ≠ r.callback := fun hcb => hne (he.late_inj hr' hlate hcb)
    have hnil : new.filter (·.callback = r'.callback) = [] :=
      List.filter_eq_nil_iff.mpr fun i hin => by simp [hnew i hin, Ne.symm hcb]
    simp only [ResponseShared.invokedFor, hi, List.filter_append, hnil, List.append_nil]
  refine ⟨fun x hx => h.undropped x (Multiset.mem_cons_of_mem hx), fun r' => ?_,
    fun x hx r' hxr => ?_, fun r' hr' hno => ?_, fun i hin => ?_⟩
  · have hone := h.once r'
    rw [Multiset.countP_cons] at hone
    show T.countP (·.sees = some r') ≤ 1
    omega
  · obtain ⟨hlate', hnone'⟩ := h.seen x (Multiset.mem_cons_of_mem hx) r' hxr
    have hne : r' ≠ r := fun heq => h.alone hp x hx (heq ▸ hxr)
    exact ⟨by rw [hl]; exact hlate', (hother r' hlate' hne).trans hnone'⟩
  · rw [hl] at hr'
    by_cases hne : r' = r
    · subst hne
      obtain ⟨rows, hf, hcalls⟩ := hdone
      have hall : new.filter (·.callback = r'.callback) = new :=
        List.filter_eq_self.mpr fun i hin => by simp [hnew i hin]
      refine ⟨rows, hg.fits hf, ?_⟩
      have hbefore : s.invoked.filter (·.callback = r'.callback) = [] := hnone
      rw [ResponseShared.invokedFor, hi, List.filter_append, hbefore, hall, hcalls,
        List.nil_append]
    · have hno' : ∀ x ∈ p ::ₘ T, x.sees ≠ some r' := by
        intro x hx hxr
        rcases Multiset.mem_cons.mp hx with rfl | hx
        · exact hne (Option.some.inj (hxr.symm.trans hp))
        · exact hno x hx hxr
      obtain ⟨rows, hf, hcalls⟩ := h.done r' hr' hno'
      exact ⟨rows, hg.fits hf, (hother r' hr' hne).trans hcalls⟩
  · rw [hl]
    rcases List.mem_append.mp (hi ▸ hin) with hin | hin
    · exact h.known i hin
    · exact ⟨r, hlate, (hnew i hin).symm⟩

theorem Late.begins {delivery : Delivery} {cb : LegacyCallback} {x : ResponsePc}
    (h : Late ⟨s, .register delivery cb ::ₘ T⟩) (he : Enrolled ⟨s, .register delivery cb ::ₘ T⟩)
    (hg : Grows s s') (hx : x.sees = some ⟨s.current, delivery, cb⟩) (hxd : x.isDropped = false)
    (hl : s'.late = s.late ++ [⟨s.current, delivery, cb⟩]) (hi : s'.invoked = s.invoked) :
    Late ⟨s', x ::ₘ T⟩ := by
  have hnot : cb ∉ s.entered := he.notMem_entered
  have hlate : ∀ r ∈ s.late, r.callback ≠ cb := fun r hr hcb =>
    hnot (hcb ▸ he.late.subset (List.mem_map_of_mem hr))
  have hinv : ∀ cb', s'.invokedFor cb' = s.invokedFor cb' := fun cb' => by
    simp only [ResponseShared.invokedFor, hi]
  have hnone : s.invokedFor cb = [] := by
    refine List.filter_eq_nil_iff.mpr fun i hin => ?_
    obtain ⟨r, hr, hcb⟩ := h.known i hin
    simpa [← hcb] using hlate r hr
  have hT : ∀ y ∈ T, ∀ r, y.sees = some r → r ≠ ⟨s.current, delivery, cb⟩ := by
    rintro y hy r hyr rfl
    exact hlate _ (h.seen y (Multiset.mem_cons_of_mem hy) _ hyr).1 rfl
  refine ⟨fun y hy => ?_, fun r => ?_, fun y hy r hyr => ?_, fun r hr hno => ?_, fun i hin => ?_⟩
  · rcases Multiset.mem_cons.mp hy with rfl | hy
    · exact hxd
    · exact h.undropped y (Multiset.mem_cons_of_mem hy)
  · rw [Multiset.countP_cons, hx]
    have hone := h.once r
    rw [Multiset.countP_cons, if_neg (by simp [ResponsePc.sees])] at hone
    by_cases hr : r = ⟨s.current, delivery, cb⟩
    · have hzero : T.countP (·.sees = some r) = 0 :=
        Multiset.countP_eq_zero.mpr fun y hy hyr => hT y hy r hyr hr
      rw [hzero]
      split <;> omega
    · rw [if_neg fun heq => hr (Option.some.inj heq).symm]
      exact hone
  · rw [hinv, hl]
    rcases Multiset.mem_cons.mp hy with rfl | hy
    · obtain rfl := Option.some.inj (hx.symm.trans hyr)
      exact ⟨by simp, hnone⟩
    · obtain ⟨hr, hn⟩ := h.seen y (Multiset.mem_cons_of_mem hy) r hyr
      exact ⟨List.mem_append_left _ hr, hn⟩
  · rcases List.mem_append.mp (hl ▸ hr) with hr | hr
    · have hno' : ∀ y ∈ (.register delivery cb ::ₘ T : Multiset ResponsePc), y.sees ≠ some r := by
        intro y hy
        rcases Multiset.mem_cons.mp hy with rfl | hy
        · simp [ResponsePc.sees]
        · exact hno y (Multiset.mem_cons_of_mem hy)
      obtain ⟨rows, hf, hcalls⟩ := h.done r hr hno'
      exact ⟨rows, hg.fits hf, (hinv _).trans hcalls⟩
    · rw [List.mem_singleton.mp hr] at hno
      exact absurd hx (hno x (Multiset.mem_cons_self x T))
  · rw [hi] at hin
    obtain ⟨r, hr, hcb⟩ := h.known i hin
    exact ⟨r, by rw [hl]; exact List.mem_append_left _ hr, hcb⟩

theorem Late.move {owner : Option ResponsePc} (h : Late ⟨s, p ::ₘ T⟩)
    (ht : Tended owner ⟨s, p ::ₘ T⟩) (he : Enrolled ⟨s, p ::ₘ T⟩) (hrows : RowsSound ⟨s, p ::ₘ T⟩)
    (hm : ResponseMove s p s' q) : Late ⟨s', (q : Multiset ResponsePc) + T⟩ := by
  have hmem : p ∈ p ::ₘ T := Multiset.mem_cons_self p T
  have hdrop := h.undropped p hmem
  have hcd : ∀ obj, p ≠ .completeDropped obj := fun obj he => ht.undropped obj (he ▸ hmem)
  have hreads := hrows.reads p hmem
  have hg := hm.grows
  have hq := hm.undropped_next hdrop hcd
  cases hm.lateEffect hrows.current hreads hdrop with
  | apart hp hqs hl hi =>
    refine h.frame hg hl hi hq fun r => ?_
    rw [hp, if_neg (by simp)]
    exact List.countP_eq_zero.mpr fun x hx => by simp [hqs x hx]
  | goesOn hp hqx hx hl hi =>
    subst hqx
    refine h.frame hg hl hi hq fun r => ?_
    simp [hx, hp, List.countP_cons]
  | @begins delivery cb x hp hqx hx hl hi =>
    subst hp hqx
    exact h.begins he hg hx (hq x (List.mem_singleton_self x)) hl hi
  | skips hp hqn hf hd hl hi =>
    subst hqn
    rw [Multiset.coe_nil, zero_add]
    exact h.ends [] he hg hp hl (by rw [hi, List.append_nil]) (by simp) ⟨_, hf, (if_neg hd).symm⟩
  | @invokes r value hp hqn hl hi =>
    subst hp hqn
    obtain ⟨rows, hf, hv, hd⟩ := hreads
    rw [Multiset.coe_nil, zero_add]
    refine h.ends _ he hg rfl hl hi (by simp) ⟨rows, hf, ?_⟩
    rw [ResponseShared.lateCalls, if_pos hd, hv]
    rfl

theorem Late.arrive {e : ResponseEvent} (h : Late ⟨s, T⟩) (ha : ResponseArrival s e s' q) :
    Late ⟨s', (q : Multiset ResponsePc) + T⟩ := by
  have hg := ha.grows
  have hframe : s'.late = s.late ∧ s'.invoked = s.invoked ∧
      ∀ x ∈ q, x.isDropped = false ∧ x.sees = none := by
    cases ha <;> simp [ResponsePc.isDropped, ResponsePc.sees]
  obtain ⟨hl, hi, hq⟩ := hframe
  have hinv : ∀ cb, s'.invokedFor cb = s.invokedFor cb := fun cb => by
    simp only [ResponseShared.invokedFor, hi]
  refine ⟨fun x hx => ?_, fun r => ?_, fun x hx r hxr => ?_, fun r hr hno => ?_, ?_⟩
  · rcases Multiset.mem_add.mp hx with hx | hx
    · exact (hq x hx).1
    · exact h.undropped x hx
  · have hzero : (q : Multiset ResponsePc).countP (·.sees = some r) = 0 :=
      Multiset.countP_eq_zero.mpr fun x hx => by simp [(hq x hx).2]
    rw [Multiset.countP_add, hzero, Nat.zero_add]
    exact h.once r
  · rw [hl, hinv]
    rcases Multiset.mem_add.mp hx with hx | hx
    · rw [(hq x hx).2] at hxr
      cases hxr
    · exact h.seen x hx r hxr
  · obtain ⟨rows, hf, hcalls⟩ := h.done r (hl ▸ hr) fun x hx =>
      hno x (Multiset.mem_add.mpr (.inr hx))
    exact ⟨rows, hg.fits hf, (hinv _).trans hcalls⟩
  · rw [hi, hl]
    exact h.known

theorem late_init : Late responseInit := by
  refine ⟨fun p hp => ?_, fun r => ?_, fun p hp r hpr => ?_, nofun, nofun⟩
  · rw [Multiset.mem_singleton.mp hp]
    rfl
  · exact (Multiset.countP_le_card _ _).trans (by simp [responseInit])
  · rw [Multiset.mem_singleton.mp hp] at hpr
    cases hpr

theorem response_registrations {c : Config ResponseShared ResponsePc}
    (hr : responseProgram.RunIn ResponseRunning responseInit c) :
    ∃ owner, Tended owner c ∧ RowsSound c ∧ Enrolled c ∧ Late c := by
  refine response_invariant (I := fun _ c => RowsSound c ∧ Enrolled c ∧ Late c) ?_ ?_
    ⟨rowsSound_init, enrolled_init, late_init⟩ hr
  · rintro s s' p q T owner ht ⟨hrows, he, hl⟩ hm
    exact ⟨hrows.move hm, he.move ht hm, hl.move ht he hrows hm⟩
  · rintro s s' k q T owner ⟨hrows, he, hl⟩ - ha
    exact ⟨hrows.arrive ha, he.arrive ha, hl.arrive ha⟩

end ScyllaDriver
