import Mathlib.Algebra.Ring.Int.Defs
import Mathlib.Data.List.AList
import ScyllaDriver.Callbacks

/-! The plan of a load balancing policy written in Python: `fallback` takes the first
target while it has the interpreter, `PyTargetsIter` takes the others one by one. -/

namespace ScyllaDriver

namespace LoadBalancing

/-- A member of a tuple that `pick_targets` yields. An object that is not an int may
convert to one by its `__index__`. -/
inductive PyPart (Uuid : Type) where
  | node (hostId : Uuid)
  | none
  | int (n : Int)
  | object (index : Except PyErr Int)

inductive PyItem (Uuid : Type) where
  | tuple (parts : List (PyPart Uuid))
  | other

/-- What the advances of one iterator give: `none` is its end. The results are those this
plan gets, so that an iterator shared with other plans is covered. -/
abbrev Advances (Uuid : Type) := Nat → Option (Except PyErr (PyItem Uuid))

/-- The value that `pick_targets` returns, by what `iter` makes of it. -/
structure PyIterable (Uuid : Type) where
  tryIter : Except PyErr (Advances Uuid)

structure ClusterState (Uuid Node : Type) where
  address : Nat
  knownPeers : AList fun _ : Uuid => Node

abbrev Target (Node : Type) := Node × Option UInt32

structure CustomLoadBalancingPolicy (Uuid Routing View : Type) where
  pickTargets : Routing → View → Except PyErr (PyIterable Uuid)
  clusterCache : Option (Nat × View)

section Code

variable {Uuid Node Routing View : Type} [DecidableEq Uuid]

def ClusterState.getNodeByHostId (cluster : ClusterState Uuid Node) (id : Uuid) : Option Node :=
  cluster.knownPeers.lookup id

/-- The Python cluster state is made once for each `Arc`, known by its address. -/
def CustomLoadBalancingPolicy.getClusterState (tryFrom : ClusterState Uuid Node → Except PyErr View)
    (policy : CustomLoadBalancingPolicy Uuid Routing View) (cluster : ClusterState Uuid Node) :
    Except PyErr View × CustomLoadBalancingPolicy Uuid Routing View :=
  match policy.clusterCache with
  | some (cached, view) =>
    if cached = cluster.address then (.ok view, policy) else make
  | none => make
where
  make :=
    match tryFrom cluster with
    | .error e => (.error e, policy)
    | .ok view => (.ok view, { policy with clusterCache := some (cluster.address, view) })

def shardOfInt (n : Int) : Option UInt32 :=
  if 0 ≤ n ∧ n < 2 ^ 32 then some (UInt32.ofNat n.toNat) else none

/-- `extract::<Option<Shard>>`. -/
def extractShard : PyPart Uuid → Option (Option UInt32)
  | .none => some none
  | .int n => (shardOfInt n).map some
  | .object (.ok n) => (shardOfInt n).map some
  | .object (.error _) => none
  | .node _ => none

/-- `extract::<(Py<PyNode>, Option<Shard>)>`, with the node by its host id. -/
def extractTarget : PyItem Uuid → Option (Uuid × Option UInt32)
  | .tuple [.node id, part] => (extractShard part).map fun shard => (id, shard)
  | _ => none

/-- The next target and the number of times the iterator has been advanced. -/
def extractNextTarget (cluster : ClusterState Uuid Node) (iter : Advances Uuid) (advanced : Nat) :
    Option (Target Node) × Nat :=
  let target := do
    let item ← iter advanced
    let item ← item.toOption
    let (id, shard) ← extractTarget item
    let node ← cluster.getNodeByHostId id
    return (node, shard)
  (target, advanced + 1)

structure PyTargetsIter (Uuid Node : Type) where
  first : Option (Target Node)
  pyIter : Advances Uuid
  exhausted : Bool
  cluster : ClusterState Uuid Node

def PyTargetsIter.next (iter : PyTargetsIter Uuid Node) (advanced : Nat) :
    Option (Target Node) × PyTargetsIter Uuid Node × Nat :=
  match iter.first with
  | some first => (some first, { iter with first := none }, advanced)
  | none =>
    if iter.exhausted then (none, iter, advanced)
    else
      let (result, advanced) := extractNextTarget iter.cluster iter.pyIter advanced
      (result, { iter with exhausted := iter.exhausted || result.isNone }, advanced)

inductive FallbackPlan (Uuid Node : Type) where
  | targets (iter : PyTargetsIter Uuid Node)
  | empty

def FallbackPlan.next (plan : FallbackPlan Uuid Node) (advanced : Nat) :
    Option (Target Node) × FallbackPlan Uuid Node × Nat :=
  match plan with
  | .targets iter =>
    let (result, iter, advanced) := iter.next advanced
    (result, .targets iter, advanced)
  | .empty => (none, .empty, advanced)

/-- The plan, the policy with its cache, and how often the iterator was advanced. -/
def CustomLoadBalancingPolicy.fallback (tryFrom : ClusterState Uuid Node → Except PyErr View)
    (policy : CustomLoadBalancingPolicy Uuid Routing View) (request : Routing)
    (cluster : ClusterState Uuid Node) :
    FallbackPlan Uuid Node × CustomLoadBalancingPolicy Uuid Routing View × Nat :=
  match policy.getClusterState tryFrom cluster with
  | (.error _, policy) => (.empty, policy, 0)
  | (.ok view, policy) =>
    match policy.pickTargets request view with
    | .error _ => (.empty, policy, 0)
    | .ok iterable =>
      match iterable.tryIter with
      | .error _ => (.empty, policy, 0)
      | .ok iter =>
        match extractNextTarget cluster iter 0 with
        | (some first, advanced) => (.targets ⟨some first, iter, false, cluster⟩, policy, advanced)
        | (none, advanced) => (.empty, policy, advanced)

/-- The plan and the count of advances after `k` calls of `next`. -/
def after (start : FallbackPlan Uuid Node × Nat) : Nat → FallbackPlan Uuid Node × Nat
  | 0 => start
  | k + 1 => ((after start k).1.next (after start k).2).2

/-- What the call of `next` after `k` others returns. -/
def produced (start : FallbackPlan Uuid Node × Nat) (k : Nat) : Option (Target Node) :=
  ((after start k).1.next (after start k).2).1

end Code

section Specification

variable {Uuid Node : Type} [DecidableEq Uuid]

/-- A shard or `None`. -/
inductive IsShard : PyPart Uuid → Option UInt32 → Prop
  | none : IsShard .none none
  | int (shard : UInt32) : IsShard (.int shard.toNat) (some shard)
  | object (shard : UInt32) : IsShard (.object (.ok shard.toNat)) (some shard)

/-- Advance `j` yields a pair of a node and a shard or `None`, and the cluster has the
node's host id. -/
def Yields (cluster : ClusterState Uuid Node) (iter : Advances Uuid) (j : Nat)
    (target : Target Node) : Prop :=
  ∃ id part, iter j = some (.ok (.tuple [.node id, part])) ∧ IsShard part target.2 ∧
    cluster.knownPeers.lookup id = some target.1

/-- Target `k` of the longest prefix of valid items. -/
def PrefixTarget (cluster : ClusterState Uuid Node) (iter : Advances Uuid) (k : Nat)
    (target : Target Node) : Prop :=
  (∀ j < k, ∃ t, Yields cluster iter j t) ∧ Yields cluster iter k target

end Specification

section Proofs

variable {Uuid Node Routing View : Type} [DecidableEq Uuid]
  {cluster : ClusterState Uuid Node} {iter : Advances Uuid}

theorem shardOfInt_eq_some_iff {n : Int} {shard : UInt32} :
    shardOfInt n = some shard ↔ n = shard.toNat := by
  have hlt := shard.toNat_lt
  unfold shardOfInt
  constructor
  · intro h
    split at h
    · rename_i hn
      have hs := congrArg UInt32.toNat (Option.some.inj h)
      rw [UInt32.toNat_ofNat_of_lt' (by simp [UInt32.size]; omega)] at hs
      omega
    · cases h
  · rintro rfl
    rw [if_pos (by omega)]
    simp

omit [DecidableEq Uuid] in
theorem extractShard_eq_some_iff {part : PyPart Uuid} {shard : Option UInt32} :
    extractShard part = some shard ↔ IsShard part shard := by
  constructor
  · intro h
    cases part with
    | none =>
      cases h
      exact .none
    | int n =>
      obtain ⟨s, hs, rfl⟩ := Option.map_eq_some_iff.mp h
      rw [shardOfInt_eq_some_iff.mp hs]
      exact .int s
    | object index =>
      cases index with
      | error e => cases h
      | ok n =>
        obtain ⟨s, hs, rfl⟩ := Option.map_eq_some_iff.mp h
        rw [shardOfInt_eq_some_iff.mp hs]
        exact .object s
    | node id => cases h
  · intro h
    cases h with
    | none => rfl
    | int s => simp [extractShard, shardOfInt_eq_some_iff.mpr rfl]
    | object s => simp [extractShard, shardOfInt_eq_some_iff.mpr rfl]

omit [DecidableEq Uuid] in
theorem extractTarget_eq_some_iff {item : PyItem Uuid} {id : Uuid} {shard : Option UInt32} :
    extractTarget item = some (id, shard) ↔
      ∃ part, item = .tuple [.node id, part] ∧ IsShard part shard := by
  constructor
  · intro h
    unfold extractTarget at h
    split at h
    · rename_i id' part
      obtain ⟨s, hs, he⟩ := Option.map_eq_some_iff.mp h
      cases he
      exact ⟨part, rfl, extractShard_eq_some_iff.mp hs⟩
    · cases h
  · rintro ⟨part, rfl, hs⟩
    simp [extractTarget, extractShard_eq_some_iff.mpr hs]

theorem extractNextTarget_eq_some_iff {j : Nat} {target : Target Node} :
    (extractNextTarget cluster iter j).1 = some target ↔ Yields cluster iter j target := by
  obtain ⟨node, shard⟩ := target
  simp only [extractNextTarget, Yields, ClusterState.getNodeByHostId]
  constructor
  · intro h
    obtain ⟨pulled, hp, h⟩ := Option.bind_eq_some_iff.mp h
    obtain ⟨item, hi, h⟩ := Option.bind_eq_some_iff.mp h
    obtain ⟨⟨id, s⟩, he, h⟩ := Option.bind_eq_some_iff.mp h
    obtain ⟨n, hn, h⟩ := Option.bind_eq_some_iff.mp h
    cases h
    obtain ⟨part, rfl, hs⟩ := extractTarget_eq_some_iff.mp he
    cases pulled with
    | error e => cases hi
    | ok item' =>
      cases hi
      exact ⟨id, part, hp, hs, hn⟩
  · rintro ⟨id, part, hp, hs, hn⟩
    have he : extractTarget (.tuple [.node id, part]) = some (id, shard) :=
      extractTarget_eq_some_iff.mpr ⟨part, rfl, hs⟩
    simp [hp, he, hn, Except.toOption]

theorem extractNextTarget_eq_none_iff {j : Nat} :
    (extractNextTarget cluster iter j).1 = none ↔ ∀ t, ¬ Yields cluster iter j t := by
  rw [Option.eq_none_iff_forall_ne_some]
  exact forall_congr' fun t => not_congr extractNextTarget_eq_some_iff

/-- No target waits, and `next` will not look at the iterator again. -/
def Ended (cluster : ClusterState Uuid Node) (iter : Advances Uuid)
    (plan : FallbackPlan Uuid Node) : Prop :=
  plan = .empty ∨ plan = .targets ⟨none, iter, true, cluster⟩

/-- Where a plan stands after `k` calls of `next`. -/
inductive Stands (cluster : ClusterState Uuid Node) (iter : Advances Uuid) :
    Nat → FallbackPlan Uuid Node × Nat → Prop
  | head {t} (ht : Yields cluster iter 0 t) :
      Stands cluster iter 0 (.targets ⟨some t, iter, false, cluster⟩, 1)
  | running {k} (hk : 0 < k) (hv : ∀ j < k, ∃ t, Yields cluster iter j t) :
      Stands cluster iter k (.targets ⟨none, iter, false, cluster⟩, k)
  | ended {k m plan} (hm : m < k ∨ m = 0) (hv : ∀ j < m, ∃ t, Yields cluster iter j t)
      (hbad : ∀ t, ¬ Yields cluster iter m t)
      (hplan : Ended cluster iter plan) :
      Stands cluster iter k (plan, m + 1)

theorem Ended.next {plan : FallbackPlan Uuid Node} (h : Ended cluster iter plan)
    (advanced : Nat) : plan.next advanced = (none, plan, advanced) := by
  rcases h with rfl | rfl <;> rfl

/-- What the next call returns from where the plan stands, and where it leaves it. -/
theorem Stands.next {k : Nat} {s : FallbackPlan Uuid Node × Nat} (h : Stands cluster iter k s) :
    (∀ t, (s.1.next s.2).1 = some t ↔ PrefixTarget cluster iter k t) ∧
      Stands cluster iter (k + 1) (s.1.next s.2).2 := by
  cases h with
  | head ht =>
    rename_i t
    constructor
    · intro t'
      have hu : Yields cluster iter 0 t' ↔ t = t' := by
        rw [← extractNextTarget_eq_some_iff, extractNextTarget_eq_some_iff.mpr ht, Option.some.injEq]
      change some t = some t' ↔ _
      simp [PrefixTarget, hu]
    · refine .running (by omega) fun j hj => ?_
      obtain rfl : j = 0 := by omega
      exact ⟨t, ht⟩
  | running hk hv =>
    have hnext : ((FallbackPlan.targets ⟨none, iter, false, cluster⟩).next k).1 =
        (extractNextTarget cluster iter k).1 := rfl
    constructor
    · intro t
      rw [hnext, extractNextTarget_eq_some_iff]
      exact ⟨fun ht => ⟨hv, ht⟩, fun ht => ht.2⟩
    · cases he : (extractNextTarget cluster iter k).1 with
      | none =>
        have hs : ((FallbackPlan.targets ⟨none, iter, false, cluster⟩).next k).2 =
            (.targets ⟨none, iter, true, cluster⟩, k + 1) := by
          simp only [FallbackPlan.next, PyTargetsIter.next, he]
          rfl
        rw [hs]
        exact .ended (.inl (by omega)) hv (extractNextTarget_eq_none_iff.mp he) (.inr rfl)
      | some t =>
        have hs : ((FallbackPlan.targets ⟨none, iter, false, cluster⟩).next k).2 =
            (.targets ⟨none, iter, false, cluster⟩, k + 1) := by
          simp only [FallbackPlan.next, PyTargetsIter.next, he]
          rfl
        rw [hs]
        refine .running (by omega) fun j hj => ?_
        by_cases hjk : j = k
        · subst hjk
          exact ⟨t, extractNextTarget_eq_some_iff.mp he⟩
        · exact hv j (by omega)
  | ended hm hv hbad hplan =>
    rename_i m plan
    rw [hplan.next]
    constructor
    · intro t
      refine ⟨fun h => (by cases h), fun ht => ?_⟩
      exfalso
      by_cases hmk : m = k
      · subst hmk
        exact hbad t ht.2
      · obtain ⟨t', ht'⟩ := ht.1 m (by omega)
        exact hbad t' ht'
    · exact .ended (by omega) hv hbad hplan

theorem stands_after {start : FallbackPlan Uuid Node × Nat} (h : Stands cluster iter 0 start)
    (k : Nat) : Stands cluster iter k (after start k) := by
  induction k with
  | zero => exact h
  | succ k ih => exact ih.next.2

theorem Stands.advanced_le {k : Nat} {s : FallbackPlan Uuid Node × Nat}
    (h : Stands cluster iter k s) : s.2 ≤ max k 1 := by
  cases h with
  | head ht => simp
  | running hk hv => omega
  | ended hm hv hbad hplan =>
    show _ + 1 ≤ _
    omega

theorem Stands.advanced_le_of_invalid {k m : Nat} {s : FallbackPlan Uuid Node × Nat}
    (h : Stands cluster iter k s) (hm : ∀ t, ¬ Yields cluster iter m t) : s.2 ≤ m + 1 := by
  by_contra hlt
  have hv : ∃ t, Yields cluster iter m t := by
    cases h with
    | head ht => simp at hlt
    | running hk hv => exact hv m (by omega)
    | ended hmk hv hbad hplan => exact hv m (by simpa using hlt)
  obtain ⟨t, ht⟩ := hv
  exact hm t ht

theorem Stands.ended_of_none {k : Nat} {s : FallbackPlan Uuid Node × Nat}
    (h : Stands cluster iter k s) (hn : (s.1.next s.2).1 = none) :
    Ended cluster iter (s.1.next s.2).2.1 := by
  cases h with
  | head ht => cases hn
  | running hk hv =>
    right
    have he : (extractNextTarget cluster iter k).1 = none := hn
    simp only [FallbackPlan.next, PyTargetsIter.next, he]
    rfl
  | ended hm hv hbad hplan =>
    rw [hplan.next]
    exact hplan

theorem after_of_none {start : FallbackPlan Uuid Node × Nat} (h : Stands cluster iter 0 start)
    {k : Nat} (hn : produced start k = none) {j : Nat} (hj : k ≤ j) :
    after start (j + 1) = after start (k + 1) ∧ produced start j = none := by
  have hend : Ended cluster iter (after start (k + 1)).1 := (stands_after h k).ended_of_none hn
  have hstay : ∀ j, k ≤ j → after start (j + 1) = after start (k + 1) := by
    intro j hj
    induction j, hj using Nat.le_induction with
    | base => rfl
    | succ j _ ih =>
      have hn : after start (j + 1 + 1) =
          ((after start (j + 1)).1.next (after start (j + 1)).2).2 := rfl
      rw [hn, ih, hend.next]
  refine ⟨hstay j hj, ?_⟩
  by_cases hjk : j = k
  · subst hjk
    exact hn
  · obtain ⟨i, rfl⟩ : ∃ i, j = i + 1 := ⟨j - 1, by omega⟩
    unfold produced
    rw [hstay i (by omega)]
    exact congrArg Prod.fst (hend.next _)

theorem stands_fallback (tryFrom : ClusterState Uuid Node → Except PyErr View)
    (policy : CustomLoadBalancingPolicy Uuid Routing View) (request : Routing) {view : View}
    {iterable : PyIterable Uuid} (hview : (policy.getClusterState tryFrom cluster).1 = .ok view)
    (hpick : (policy.getClusterState tryFrom cluster).2.pickTargets request view = .ok iterable)
    (hiter : iterable.tryIter = .ok iter) :
    Stands cluster iter 0 ((policy.fallback tryFrom request cluster).1,
      (policy.fallback tryFrom request cluster).2.2) := by
  unfold CustomLoadBalancingPolicy.fallback
  generalize policy.getClusterState tryFrom cluster = made at hview hpick
  obtain ⟨state, policy'⟩ := made
  cases hview
  dsimp only at hpick
  simp only [hpick, hiter]
  have hone : extractNextTarget cluster iter 0 = ((extractNextTarget cluster iter 0).1, 1) := rfl
  cases he : (extractNextTarget cluster iter 0).1 with
  | none =>
    rw [hone, he]
    exact .ended (.inr rfl) (by simp) (extractNextTarget_eq_none_iff.mp he) (.inl rfl)
  | some t =>
    rw [hone, he]
    exact .head (extractNextTarget_eq_some_iff.mp he)

/-- The plan is the longest valid prefix of what Python yields, a target that is not
produced ends it for good, and the iterator is advanced no more than that takes. -/
theorem fallback_longest_valid_prefix (tryFrom : ClusterState Uuid Node → Except PyErr View)
    (policy : CustomLoadBalancingPolicy Uuid Routing View) (request : Routing)
    (cluster : ClusterState Uuid Node) (view : View) (iterable : PyIterable Uuid)
    (iter : Advances Uuid) (hview : (policy.getClusterState tryFrom cluster).1 = .ok view)
    (hpick : (policy.getClusterState tryFrom cluster).2.pickTargets request view = .ok iterable)
    (hiter : iterable.tryIter = .ok iter) :
    let plan := policy.fallback tryFrom request cluster
    let start := (plan.1, plan.2.2)
    (∀ k t, produced start k = some t ↔ PrefixTarget cluster iter k t) ∧
    (∀ k, produced start k = none → ∀ j, k ≤ j →
      produced start j = none ∧ (after start (j + 1)).2 = (after start (k + 1)).2) ∧
    (∀ m, (∀ t, ¬ Yields cluster iter m t) → ∀ k, (after start k).2 ≤ m + 1) ∧
    ∀ k, (after start k).2 ≤ max k 1 := by
  intro plan start
  have h : Stands cluster iter 0 start := stands_fallback tryFrom policy request hview hpick hiter
  refine ⟨fun k => (stands_after h k).next.1, fun k hn j hj => ?_, fun m hm k => ?_, fun k => ?_⟩
  · have hj := after_of_none h hn hj
    exact ⟨hj.2, congrArg Prod.snd hj.1⟩
  · exact (stands_after h k).advanced_le_of_invalid hm
  · exact (stands_after h k).advanced_le

end Proofs

/-- Yields node 4 twice, then a node that left the cluster, without end. -/
def staleTargets : Advances Nat := fun j =>
  some (.ok (.tuple [.node (if j < 2 then 4 else 5), .int j]))

def stalePolicy : CustomLoadBalancingPolicy Nat Unit Unit where
  pickTargets _ _ := .ok ⟨.ok staleTargets⟩
  clusterCache := none

def oneNode : ClusterState Nat String := ⟨0, AList.singleton 4 "four"⟩

theorem fallback_longest_valid_prefix_stale :
    let plan := stalePolicy.fallback (fun _ => .ok ()) () oneNode
    produced (plan.1, plan.2.2) 1 = some ("four", some 1) ∧
      ∀ k, (after (plan.1, plan.2.2) k).2 ≤ 3 := by
  have h := fallback_longest_valid_prefix (fun _ => .ok ()) stalePolicy () oneNode () _
    staleTargets rfl rfl rfl
  refine ⟨(h.1 1 _).mpr ⟨fun j hj => ⟨("four", some 0), ?_⟩, ?_⟩, h.2.2.1 2 ?_⟩
  · obtain rfl : j = 0 := by omega
    exact ⟨4, .int 0, rfl, .int 0, rfl⟩
  · exact ⟨4, .int 1, rfl, .int 1, rfl⟩
  · rintro t ⟨id, part, hy, -, hn⟩
    cases hy
    cases hn

end LoadBalancing

end ScyllaDriver
