import ScyllaDriver.MutualExclusion

/-! Values that are computed once, through a lock that keeps what the first successful
computation made; one that fails leaves its cell empty, and a later reader computes again from
what is left of the source. The lock is a parameter: all that is used of it is when it lets a
reader compute and what it lets a reader return. -/

namespace ScyllaDriver

namespace OnceCell

/-- The object that a computation made: which one, and of what. -/
structure Made (β : Type) where
  computation : Nat
  content : β
  deriving DecidableEq

/-- What happened at a cell. Its history has the newest first. -/
inductive Op (β : Type) where
  | began
  | ended (result : Option (Made β))
  deriving DecidableEq

/-- A computation has begun and not ended. -/
def running {β : Type} : List (Op β) → Bool
  | .began :: _ => true
  | _ => false

structure Lock (β : Type) where
  mayCompute : List (Op β) → Bool
  mayReturn : List (Op β) → Made β → Bool

structure Lock.Lawful {β : Type} (lock : Lock β) : Prop where
  /-- One computation runs at a time, -/
  alone : ∀ {h}, lock.mayCompute h = true → running h = false
  /-- and none after one has made the object. -/
  once : ∀ {h}, lock.mayCompute h = true → ∀ made, .ended (some made) ∉ h
  /-- What a reader returns has been made. -/
  stored : ∀ {h made}, lock.mayReturn h made = true → .ended (some made) ∈ h

/-- The lock that allows what the laws allow. -/
def Lock.plain {β : Type} [DecidableEq β] : Lock β where
  mayCompute h := !running h && h.all fun
    | .ended (some _) => false
    | _ => true
  mayReturn h made := decide (.ended (some made) ∈ h)

theorem Lock.plain_lawful {β : Type} [DecidableEq β] : (Lock.plain : Lock β).Lawful where
  alone h := by simp_all [plain]
  once {h} hmay made hmem := by
    simp only [plain, Bool.and_eq_true, List.all_eq_true] at hmay
    exact Bool.false_ne_true (hmay.2 _ hmem)
  stored h := of_decide_eq_true h

inductive Stage (β : Type) where
  | called
  | computing
  | taken (content : β)
  | computed
  | returned (made : Made β)
  | raised
  deriving DecidableEq

inductive Choice (β : Type) where
  | proceed
  | fails
  | finds (made : Made β)

/-- What a computation takes out of its source, before it can fail, and whether an object can be
made of it at all. -/
structure Code (σ β : Type) where
  take : σ → β × σ
  makes : β → Bool

structure Shared (ι σ β : Type) where
  source : σ
  history : ι → List (Op β)

section Code

variable {ι σ β : Type} [DecidableEq ι]

/-- A reader's step at its cell. -/
def Lock.step (lock : Lock β) (code : Code σ β) (source : σ) (h : List (Op β)) :
    Stage β → Choice β → Option (σ × List (Op β) × Stage β)
  | .called, .proceed =>
    if lock.mayCompute h then some (source, .began :: h, .computing) else none
  | .called, .finds made =>
    if lock.mayReturn h made then some (source, h, .returned made) else none
  | .computing, .proceed => some ((code.take source).2, h, .taken (code.take source).1)
  | .taken content, .proceed =>
    if code.makes content then
      some (source, .ended (some ⟨h.length, content⟩) :: h, .computed)
    else none
  | .taken _, .fails => some (source, .ended none :: h, .raised)
  | .computed, .finds made =>
    if lock.mayReturn h made then some (source, h, .returned made) else none
  | _, _ => none

def step (lock : Lock β) (code : ι → Code σ β) (s : Shared ι σ β) (p : ι × Stage β)
    (e : Choice β) : Option (Shared ι σ β × List (ι × Stage β)) :=
  (lock.step (code p.1) s.source (s.history p.1) p.2 e).map fun next =>
    (⟨next.1, Function.update s.history p.1 next.2.1⟩, [(p.1, next.2.2)])

/-- Somebody reads cell `i`. -/
def env (s : Shared ι σ β) (i : ι) : Option (Shared ι σ β × List (ι × Stage β)) :=
  some (s, [(i, .called)])

def program (lock : Lock β) (code : ι → Code σ β) :
    Program (Shared ι σ β) (ι × Stage β) (Choice β) ι :=
  ⟨step lock code, env⟩

def initial (source : σ) : Config (Shared ι σ β) (ι × Stage β) := ⟨⟨source, fun _ => []⟩, 0⟩

/-- What is left of the source after `n` computations. -/
def Code.left (code : Code σ β) (source : σ) : Nat → σ
  | 0 => source
  | n + 1 => code.left (code.take source).2 n

/-- What the computation after `n` others sees. -/
def Code.sees (code : Code σ β) (source : σ) (n : Nat) : β := (code.take (code.left source n)).1

/-- The computations for one cell do not change what those for another see. -/
def Apart (code : ι → Code σ β) : Prop :=
  ∀ i j, j ≠ i → ∀ source n, (code i).sees ((code j).take source).2 n = (code i).sees source n

/-- A source that a computation only looks at is the same for every computation. -/
theorem Code.sees_of_keeps {code : Code σ β} (h : ∀ source, (code.take source).2 = source)
    (source : σ) (n : Nat) : code.sees source n = (code.take source).1 := by
  induction n with
  | zero => rfl
  | succ n ih =>
    rw [← ih]
    simp only [sees, left, h]

end Code

section Cell

variable {σ β : Type} [DecidableEq β] {lock : Lock β} {code : Code σ β} {start source source' : σ}
  {h h' : List (Op β)} {p p' t : Stage β} {n : Nat}

def Stage.inside : Stage β → Bool
  | .computing => true
  | .taken _ => true
  | _ => false

/-- What a reader's step does. -/
inductive Move (lock : Lock β) (code : Code σ β) (source : σ) (h : List (Op β)) :
    Stage β → σ → List (Op β) → Stage β → Prop
  | computes (hmay : lock.mayCompute h = true) :
    Move lock code source h .called source (.began :: h) .computing
  | takes : Move lock code source h .computing (code.take source).2 h
    (.taken (code.take source).1)
  | makes {content} (hmakes : code.makes content = true) : Move lock code source h
    (.taken content) source (.ended (some ⟨h.length, content⟩) :: h) .computed
  | fails {content} : Move lock code source h (.taken content) source (.ended none :: h) .raised
  | returns {p made} (hout : p.inside = false) (hmay : lock.mayReturn h made = true) :
    Move lock code source h p source h (.returned made)

omit [DecidableEq β] in
theorem Lock.step_move {e : Choice β} (hs : lock.step code source h p e = some (source', h', p')) :
    Move lock code source h p source' h' p' := by
  unfold Lock.step at hs
  split at hs
  · split at hs
    · cases hs
      exact .computes ‹_›
    · cases hs
  · split at hs
    · cases hs
      exact .returns rfl ‹_›
    · cases hs
  · cases hs
    exact .takes
  · split at hs
    · cases hs
      exact .makes ‹_›
    · cases hs
  · cases hs
    exact .fails
  · split at hs
    · cases hs
      exact .returns rfl ‹_›
    · cases hs
  · cases hs

omit [DecidableEq β] in
theorem Move.lockStep (hlock : lock.Lawful) (hm : Move lock code source h p source' h' p')
    (hbusy : p.inside = true → running h = true) :
    LockStep Stage.inside p (running h) p' (running h') := by
  cases hm with
  | computes hmay => exact hlock.alone hmay ▸ .enters rfl rfl
  | takes => exact .stays rfl
  | makes => exact hbusy rfl ▸ .leaves rfl rfl
  | fails => exact hbusy rfl ▸ .leaves rfl rfl
  | returns hout => exact .stays (by rw [hout]; rfl)

def Unset (h : List (Op β)) : Prop := ∀ made, .ended (some made) ∉ h

def failures (h : List (Op β)) : Nat := h.count (.ended none)

/-- From now on the computations see what those after the first `n` see. -/
def Code.Ahead (code : Code σ β) (start source : σ) (n : Nat) : Prop :=
  ∀ m, code.sees source m = code.sees start (n + m)

omit [DecidableEq β] in
theorem Code.Ahead.take (ha : code.Ahead start source n) :
    code.Ahead start (code.take source).2 (n + 1) := by
  intro m
  have hnext := ha (m + 1)
  rwa [← Nat.add_assoc, Nat.add_right_comm] at hnext

/-- What holds of a cell: the object in it is of what the failed computations had left, and
there is no other. -/
structure CellOnce (code : Code σ β) (start source : σ) (h : List (Op β)) : Prop where
  idle : running h = false → Unset h → code.Ahead start source (failures h)
  made : ∀ made, .ended (some made) ∈ h →
    made.content = code.sees start (failures h) ∧ code.makes made.content = true
  unique : ∀ made made', .ended (some made) ∈ h → .ended (some made') ∈ h → made = made'

/-- What a reader has seen of its cell. -/
def Stage.Knows (code : Code σ β) (start source : σ) (h : List (Op β)) : Stage β → Prop
  | .computing => Unset h ∧ code.Ahead start source (failures h)
  | .taken content => Unset h ∧ content = code.sees start (failures h) ∧
    code.Ahead start source (failures h + 1)
  | .returned made => .ended (some made) ∈ h
  | _ => True

theorem Move.once (hlock : lock.Lawful) (hm : Move lock code source h p source' h' p')
    (hbusy : p.inside = true → running h = true) (hp : p.Knows code start source h)
    (hc : CellOnce code start source h) :
    CellOnce code start source' h' ∧ p'.Knows code start source' h' := by
  cases hm with
  | computes hmay =>
    have hempty : Unset (.began :: h) := fun made => by simpa using hlock.once hmay made
    have hahead : code.Ahead start source (failures (.began :: h)) := by
      simpa [failures] using hc.idle (hlock.alone hmay) (hlock.once hmay)
    exact ⟨⟨(nomatch ·), fun made hmem => absurd hmem (hempty made),
      fun made _ hmem => absurd hmem (hempty made)⟩, hempty, hahead⟩
  | takes =>
    obtain ⟨hempty, hahead⟩ := hp
    refine ⟨⟨fun hnot => ?_, hc.made, hc.unique⟩, hempty, ?_, hahead.take⟩
    · exact nomatch (hbusy rfl).symm.trans hnot
    · simpa [Code.sees, Code.left] using hahead 0
  | @makes content hmakes =>
    obtain ⟨hempty, hcontent, -⟩ := hp
    have honly (made : Made β)
        (hmem : .ended (some made) ∈ Op.ended (some ⟨h.length, content⟩) :: h) :
        made = ⟨h.length, content⟩ := by
      rcases List.mem_cons.mp hmem with heq | hmem
      · simpa using heq
      · exact absurd hmem (hempty made)
    refine ⟨⟨fun _ hnone => absurd List.mem_cons_self (hnone _), fun made hmem => ?_,
      fun made made' hmem hmem' => (honly made hmem).trans (honly made' hmem').symm⟩, trivial⟩
    rw [honly made hmem]
    exact ⟨by simpa [failures] using hcontent, hmakes⟩
  | fails =>
    obtain ⟨hempty, -, hahead⟩ := hp
    have hempty' : Unset (.ended none :: h) := fun made => by simpa using hempty made
    exact ⟨⟨fun _ _ => by simpa [failures] using hahead,
      fun made hmem => absurd hmem (hempty' made),
      fun made _ hmem => absurd hmem (hempty' made)⟩, trivial⟩
  | returns hout hmay => exact ⟨hc, hlock.stored hmay⟩

omit [DecidableEq β] in
theorem Move.history_kept (hm : Move lock code source h p source' h' p') {op : Op β}
    (hop : op ∈ h) : op ∈ h' := by
  cases hm with
  | takes | returns => exact hop
  | computes | makes | fails => exact List.mem_cons_of_mem _ hop

/-- Only the reader that computes depends on more than what is in its cell. -/
theorem Move.knows_others (hm : Move lock code source h p source' h' p')
    (hone : p.inside = true → t.inside = false) (ht : t.Knows code start source h) :
    t.Knows code start source' h' := by
  cases t with
  | returned made => exact hm.history_kept ht
  | called | computed | raised => trivial
  | computing | taken content =>
    -- The step is one of a reader outside.
    cases hm with
    | computes => simpa [Stage.Knows, Unset, failures] using ht
    | returns => exact ht
    | takes | makes | fails => exact nomatch hone rfl

omit [DecidableEq β] in
/-- A step changes the source only by taking from it. -/
theorem Move.source_cases (hm : Move lock code source h p source' h' p') :
    source' = source ∨ source' = (code.take source).2 := by
  cases hm with
  | takes => exact .inr rfl
  | _ => exact .inl rfl

/-- The cell and its readers, as the source changes. -/
theorem CellOnce.ahead (hc : CellOnce code start source h)
    (hsees : ∀ n, code.sees source' n = code.sees source n) : CellOnce code start source' h :=
  ⟨fun hfree hempty m => (hsees m).trans (hc.idle hfree hempty m), hc.made, hc.unique⟩

theorem Stage.Knows.ahead (ht : t.Knows code start source h)
    (hsees : ∀ n, code.sees source' n = code.sees source n) : t.Knows code start source' h := by
  cases t with
  | computing => exact ⟨ht.1, fun m => (hsees m).trans (ht.2 m)⟩
  | taken content => exact ⟨ht.1, ht.2.1, fun m => (hsees m).trans (ht.2.2 m)⟩
  | _ => exact ht

end Cell

variable {ι σ β : Type} [DecidableEq ι] {lock : Lock β} {code : ι → Code σ β} {start : σ}

/-- The readers that compute for cell `i`. -/
def insideAt (i : ι) (p : ι × Stage β) : Bool := decide (p.1 = i) && p.2.inside

theorem insideAt_self (i : ι) (p : Stage β) : insideAt i (i, p) = p.inside := by simp [insideAt]

theorem insideAt_of_ne {i : ι} {p : ι × Stage β} (h : p.1 ≠ i) : insideAt i p = false := by
  simp [insideAt, h]

variable [DecidableEq β]

structure Once (code : ι → Code σ β) (start : σ)
    (c : Config (Shared ι σ β) (ι × Stage β)) : Prop where
  one : ∀ i, OneInside (insideAt i) (running (c.shared.history i)) c.threads
  cells : ∀ i, CellOnce (code i) start c.shared.source (c.shared.history i)
  knows : ∀ p ∈ c.threads,
    p.2.Knows (code p.1) start c.shared.source (c.shared.history p.1)

theorem once_initial : Once code start (initial start) :=
  ⟨fun _ => .zero, fun i => ⟨fun _ _ m => by simp [initial, failures],
    fun made hmem => by simp [initial] at hmem, fun made made' hmem => by simp [initial] at hmem⟩,
    fun _ h => absurd h (Multiset.notMem_zero _)⟩

theorem Once.thread (hlock : lock.Lawful) (hapart : Apart code) {s : Shared ι σ β} {i : ι}
    {p p' : Stage β} {source' : σ} {h' : List (Op β)} {T : Multiset (ι × Stage β)}
    (hc : Once code start ⟨s, (i, p) ::ₘ T⟩)
    (hm : Move lock (code i) s.source (s.history i) p source' h' p') :
    Once code start ⟨⟨source', Function.update s.history i h'⟩, (i, p') ::ₘ T⟩ := by
  have hmem : (i, p) ∈ (i, p) ::ₘ T := Multiset.mem_cons_self _ _
  have hp : p.Knows (code i) start s.source (s.history i) := hc.knows _ hmem
  have hbusy (hin : p.inside = true) : running (s.history i) = true :=
    (hc.one i).locked_of_inside hmem ((insideAt_self i p).trans hin)
  obtain ⟨hcell', hp'⟩ := hm.once hlock hbusy hp (hc.cells i)
  have hsees (j : ι) (hij : j ≠ i) (n : Nat) :
      (code j).sees source' n = (code j).sees s.source n := by
    rcases hm.source_cases with rfl | rfl
    · rfl
    · exact hapart j i hij.symm s.source n
  refine ⟨fun j => ?_, fun j => ?_, fun t ht => ?_⟩
  · by_cases hij : i = j
    · subst hij
      simp only [Function.update_self]
      exact (hc.one i).step ((hm.lockStep hlock hbusy).map (insideAt_self i))
    · simp only [Function.update_of_ne (Ne.symm hij)]
      exact (hc.one j).step (.stays ((insideAt_of_ne hij).trans (insideAt_of_ne hij).symm))
  · by_cases hij : j = i
    · subst hij
      simpa only [Function.update_self] using hcell'
    · simpa only [Function.update_of_ne hij] using (hc.cells j).ahead (hsees j hij)
  · rcases Multiset.mem_cons.mp ht with rfl | hold
    · simpa only [Function.update_self] using hp'
    · have hknows := hc.knows t (Multiset.mem_cons_of_mem hold)
      obtain ⟨j, t⟩ := t
      by_cases hij : j = i
      · subst hij
        simp only [Function.update_self]
        refine hm.knows_others (fun hin => ?_) hknows
        have hout := (hc.one j).others ((insideAt_self j p).trans hin) hold
        exact (insideAt_self j t).symm.trans hout
      · simpa only [Function.update_of_ne hij] using hknows.ahead (hsees j hij)

theorem Once.arrive {s : Shared ι σ β} {T : Multiset (ι × Stage β)}
    (hc : Once code start ⟨s, T⟩) (i : ι) : Once code start ⟨s, (i, .called) ::ₘ T⟩ := by
  refine ⟨fun j => (hc.one j).cons (by simp [insideAt, Stage.inside]), hc.cells, fun t ht => ?_⟩
  rcases Multiset.mem_cons.mp ht with rfl | ht
  · trivial
  · exact hc.knows t ht

theorem once_preserves (hlock : lock.Lawful) (hapart : Apart code) :
    (program lock code).Preserves (fun _ _ => True) (Once code start) where
  thread {s T p e s' q} _ hc h := by
    obtain ⟨⟨source', h', p'⟩, hstep, hnext⟩ := Option.map_eq_some_iff.mp h
    cases hnext
    exact hc.thread hlock hapart (Lock.step_move hstep)
  env {s T i s' q} _ hc h := by
    cases h
    exact hc.arrive i

variable {c : Config (Shared ι σ β) (ι × Stage β)}

/-- All reads of one cell return the same object. -/
theorem run_agree (hlock : lock.Lawful) (hapart : Apart code)
    (hr : (program lock code).Run (initial start) c) {i : ι} {made made' : Made β}
    (h : (i, .returned made) ∈ c.threads) (h' : (i, .returned made') ∈ c.threads) :
    made = made' := by
  have hc := (once_preserves hlock hapart).run once_initial hr
  exact (hc.cells i).unique made made' (hc.knows _ h) (hc.knows _ h')

/-- It is made of what the computations that failed before had left. -/
theorem run_returned (hlock : lock.Lawful) (hapart : Apart code)
    (hr : (program lock code).Run (initial start) c) {i : ι} {made : Made β}
    (h : (i, .returned made) ∈ c.threads) :
    made.content = (code i).sees start (failures (c.shared.history i)) ∧
      (code i).makes made.content = true := by
  have hc := (once_preserves hlock hapart).run once_initial hr
  exact (hc.cells i).made made (hc.knows _ h)

end OnceCell

end ScyllaDriver
