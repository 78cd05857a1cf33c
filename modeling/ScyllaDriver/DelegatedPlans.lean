import ScyllaDriver.AddressedCaches
import ScyllaDriver.SessionConfig
import ScyllaDriver.TargetPlans

/-! A policy written in Python that asks a built-in policy for its targets. The routing
information and the cluster go to Python and back, and the targets to Python, back to the
built-in policy's caller and through the plan of the Python policy. -/

namespace ScyllaDriver

namespace LoadBalancing

inductive NodeLocationPreference where
  | any
  | datacenter (name : String)
  | datacenterAndRack (datacenter rack : String)
  deriving DecidableEq, Repr

structure TableSpec where
  ksName : String
  tableName : String
  deriving DecidableEq, Repr

/-- What the Rust driver tells a policy of a request. -/
structure RoutingInfo where
  consistency : Consistency
  serialConsistency : Option SerialConsistency
  token : Option Int
  table : Option TableSpec
  isConfirmedLwt : Bool
  nodeLocationPreference : NodeLocationPreference
  deriving DecidableEq, Repr

structure PyRoutingInfo where
  consistency : Consistency
  serialConsistency : Option SerialConsistency
  token : Option Int
  ksName : Option String
  tableName : Option String
  isConfirmedLwt : Bool
  nodeLocationPreference : NodeLocationPreference
  deriving DecidableEq, Repr

namespace PyRoutingInfo

def ofRoutingInfo (info : RoutingInfo) : PyRoutingInfo where
  consistency := info.consistency
  serialConsistency := info.serialConsistency
  token := info.token
  ksName := info.table.map TableSpec.ksName
  tableName := info.table.map TableSpec.tableName
  isConfirmedLwt := info.isConfirmedLwt
  nodeLocationPreference := info.nodeLocationPreference

def tableSpec (info : PyRoutingInfo) : Option TableSpec :=
  match info.ksName, info.tableName with
  | some ks, some table => some ⟨ks, table⟩
  | _, _ => none

def toRoutingInfo (info : PyRoutingInfo) (table : Option TableSpec) : RoutingInfo where
  consistency := info.consistency
  serialConsistency := info.serialConsistency
  token := info.token
  table := table
  isConfirmedLwt := info.isConfirmedLwt
  nodeLocationPreference := info.nodeLocationPreference

theorem tableSpec_ofRoutingInfo (info : RoutingInfo) :
    (ofRoutingInfo info).tableSpec = info.table := by
  cases h : info.table <;> simp [ofRoutingInfo, tableSpec, h]

theorem toRoutingInfo_ofRoutingInfo (info : RoutingInfo) :
    (ofRoutingInfo info).toRoutingInfo (ofRoutingInfo info).tableSpec = info := by
  rw [tableSpec_ofRoutingInfo]
  rfl

end PyRoutingInfo

/-- A policy of the Rust driver, as it answers one request. -/
structure RustPolicy (Uuid Node : Type) where
  pick : RoutingInfo → ClusterState Uuid Node → Option (Target Node)
  fallback : RoutingInfo → ClusterState Uuid Node → List (Target Node)

/-- Where a policy keeps its plan. -/
inductive PlanShape where
  | fallback
  | pick

structure PyClusterState (Uuid Node : Type) where
  inner : ClusterState Uuid Node
  knownNodes : AList fun _ : Uuid => Node

/-- An instance that evaluates. -/
local instance peersDecidableEq {Uuid Node : Type} [DecidableEq Uuid] [DecidableEq Node] :
    DecidableEq (AList fun _ : Uuid => Node) :=
  fun peers others => decidable_of_iff (peers.entries = others.entries) AList.ext_iff.symm

section Code

variable {Uuid Node : Type} [DecidableEq Uuid]

def ClusterState.getNodesInfo (cluster : ClusterState Uuid Node) : List Node :=
  cluster.knownPeers.entries.map Sigma.snd

def RustPolicy.plan (policy : RustPolicy Uuid Node) (info : RoutingInfo)
    (cluster : ClusterState Uuid Node) : PlanShape → List (Target Node)
  | .fallback => policy.fallback info cluster
  | .pick => (policy.pick info cluster).toList

/-- A list is iterated anew by every plan. -/
def listIterable (items : List (PyItem Uuid)) : PyIterable Uuid :=
  ⟨.ok fun j => items[j]?.map .ok⟩

def shardPart : Option UInt32 → PyPart Uuid
  | none => .none
  | some shard => .int shard.toNat

variable (hostId : Node → Uuid)

def PyClusterState.ofClusterState (cluster : ClusterState Uuid Node) : PyClusterState Uuid Node where
  inner := cluster
  knownNodes := cluster.getNodesInfo.foldl (fun dict node => dict.insert (hostId node) node) ∅

/-- A target whose node the cluster state does not have is skipped. -/
def collectTargets (state : PyClusterState Uuid Node) (plan : List (Target Node)) :
    List (PyItem Uuid) :=
  plan.filterMap fun target =>
    (state.knownNodes.lookup (hostId target.1)).map fun node =>
      .tuple [.node (hostId node), shardPart target.2]

def planTargets (policy : RustPolicy Uuid Node) (shape : PlanShape) (info : PyRoutingInfo)
    (state : PyClusterState Uuid Node) : List (PyItem Uuid) :=
  collectTargets hostId state (policy.plan (info.toRoutingInfo info.tableSpec) state.inner shape)

/-- The cluster states in memory, each by its peers, with the cache of a policy. -/
abbrev PolicyCache (Uuid Node : Type) := AddressedCaches.Shared (AList fun _ : Uuid => Node)

def clusterAt (s : PolicyCache Uuid Node) (address : Nat) : ClusterState Uuid Node :=
  ⟨address, s.memory.content address⟩

/-- A Python policy whose `pick_targets` returns what that of a built-in policy does, with what
it has cached. -/
def delegating (policy : RustPolicy Uuid Node) (shape : PlanShape)
    (cached : Option (Nat × AddressedCaches.View (AList fun _ : Uuid => Node))) :
    CustomLoadBalancingPolicy Uuid PyRoutingInfo (PyClusterState Uuid Node) where
  pickTargets info state := .ok (listIterable (planTargets hostId policy shape info state))
  clusterCache := cached.map fun entry => (entry.1, .ofClusterState hostId ⟨entry.1, entry.2.made⟩)

/-- The plan for a request, and the policy with its cache. -/
def fallbackFor (policy : CustomLoadBalancingPolicy Uuid PyRoutingInfo (PyClusterState Uuid Node))
    (request : RoutingInfo) (cluster : ClusterState Uuid Node) :=
  policy.fallback (fun cluster => .ok (.ofClusterState hostId cluster)) (.ofRoutingInfo request)
    cluster

end Code

variable {Uuid Node : Type} [DecidableEq Uuid] {hostId : Node → Uuid}
  {cluster : ClusterState Uuid Node}

/-- The nodes are known under their own host ids. -/
def ClusterState.WellFormed (hostId : Node → Uuid) (cluster : ClusterState Uuid Node) : Prop :=
  ∀ entry ∈ cluster.knownPeers.entries, hostId entry.2 = entry.1

theorem lookup_foldl_insert (nodes : List Node) (dict : AList fun _ : Uuid => Node) (id : Uuid) :
    (nodes.foldl (fun dict node => dict.insert (hostId node) node) dict).lookup id =
      ((nodes.reverse.find? fun node => hostId node = id).or (dict.lookup id)) := by
  induction nodes generalizing dict with
  | nil => simp
  | cons node nodes ih =>
    rw [List.foldl_cons, ih, List.reverse_cons, List.find?_append]
    by_cases hid : hostId node = id
    · subst hid
      simp
    · simp [hid, AList.lookup_insert_ne (Ne.symm hid)]

/-- The dictionary has the nodes of the Rust driver and no others. -/
theorem ClusterState.WellFormed.knownNodes (h : cluster.WellFormed hostId) (id : Uuid) :
    (PyClusterState.ofClusterState hostId cluster).knownNodes.lookup id =
      cluster.getNodeByHostId id := by
  have hfound {node : Node} (hfind : cluster.getNodesInfo.reverse.find?
      (fun node => hostId node = id) = some node) : cluster.getNodeByHostId id = some node := by
    obtain ⟨entry, hentry, rfl⟩ :=
      List.mem_map.mp (List.mem_reverse.mp (List.mem_of_find?_eq_some hfind))
    have hid : hostId entry.2 = id := by simpa using List.find?_some hfind
    rw [h entry hentry] at hid
    subst hid
    exact AList.mem_lookup_iff.mpr hentry
  unfold PyClusterState.ofClusterState
  rw [lookup_foldl_insert, AList.lookup_empty, Option.or_none]
  cases hfind : cluster.getNodesInfo.reverse.find? fun node => hostId node = id with
  | some node => exact (hfound hfind).symm
  | none =>
    refine (Option.eq_none_iff_forall_ne_some.mpr fun node hnode => ?_).symm
    have hentry : ⟨id, node⟩ ∈ cluster.knownPeers.entries := AList.mem_lookup_iff.mp hnode
    have hmem : node ∈ cluster.getNodesInfo.reverse :=
      List.mem_reverse.mpr (List.mem_map.mpr ⟨_, hentry, rfl⟩)
    simpa using List.find?_eq_none.mp hfind node hmem (by simpa using h _ hentry)

/-- The targets of a plan as the cluster knows their nodes. -/
def knownTargets (hostId : Node → Uuid) (cluster : ClusterState Uuid Node)
    (plan : List (Target Node)) : List (Target Node) :=
  plan.filterMap fun target =>
    (cluster.getNodeByHostId (hostId target.1)).map fun node => (node, target.2)

/-- An item of Python for a target of the cluster. -/
def IsItem (hostId : Node → Uuid) (cluster : ClusterState Uuid Node) (item : PyItem Uuid)
    (target : Target Node) : Prop :=
  item = .tuple [.node (hostId target.1), shardPart target.2] ∧
    cluster.getNodeByHostId (hostId target.1) = some target.1

theorem collectTargets_items (h : cluster.WellFormed hostId) (plan : List (Target Node)) :
    List.Forall₂ (IsItem hostId cluster)
      (collectTargets hostId (.ofClusterState hostId cluster) plan)
      (knownTargets hostId cluster plan) := by
  induction plan with
  | nil => exact .nil
  | cons target plan ih =>
    unfold collectTargets knownTargets at ih ⊢
    rw [List.filterMap_cons, List.filterMap_cons, h.knownNodes]
    cases hnode : cluster.getNodeByHostId (hostId target.1) with
    | none => exact ih
    | some node =>
      have hid : hostId node = hostId target.1 := h _ (AList.mem_lookup_iff.mp hnode)
      refine .cons ⟨rfl, ?_⟩ ih
      rw [hid]
      exact hnode

omit [DecidableEq Uuid] in
theorem isShard_shardPart (shard : Option UInt32) : IsShard (shardPart shard : PyPart Uuid) shard := by
  cases shard with
  | none => exact .none
  | some shard => exact .int shard

omit [DecidableEq Uuid] in
theorem IsShard.unique {part : PyPart Uuid} {shard shard' : Option UInt32} (h : IsShard part shard)
    (h' : IsShard part shard') : shard = shard' :=
  Option.some.inj ((extractShard_eq_some_iff.mpr h).symm.trans (extractShard_eq_some_iff.mpr h'))

/-- What Python yields from such items are the targets. -/
theorem yields_of_items {items : List (PyItem Uuid)} {targets : List (Target Node)}
    (h : List.Forall₂ (IsItem hostId cluster) items targets) (j : Nat) (target : Target Node) :
    Yields cluster (fun j => items[j]?.map .ok) j target ↔ targets[j]? = some target := by
  induction h generalizing j with
  | nil => simp [Yields]
  | @cons item target' items targets hitem _ ih =>
    cases j with
    | succ j => simpa [Yields] using ih j
    | zero =>
      obtain ⟨rfl, hnode⟩ := hitem
      constructor
      · rintro ⟨id, part, hyield, hshard, hlookup⟩
        simp only [List.getElem?_cons_zero, Option.map_some, Option.some.injEq, Except.ok.injEq,
          PyItem.tuple.injEq, List.cons.injEq, PyPart.node.injEq, and_true] at hyield
        obtain ⟨rfl, rfl⟩ := hyield
        have hnode' : target'.1 = target.1 := Option.some.inj (hnode.symm.trans hlookup)
        exact congrArg some (Prod.ext hnode' ((isShard_shardPart target'.2).unique hshard))
      · rintro ⟨⟩
        exact ⟨_, _, rfl, isShard_shardPart target.2, hnode⟩

variable {builtin : RustPolicy Uuid Node} {shape : PlanShape} {s : PolicyCache Uuid Node}
  {address : Nat}

/-- The policy's cache is one of those that are kept by address: it returns the view of the
cluster state, and has afterwards what a call on that cache leaves. -/
theorem getClusterState_delegating
    (hmade : ∀ key view, s.cached = some (key, view) → view.made = s.memory.content key) :
    (delegating hostId builtin shape s.cached).getClusterState
        (fun cluster => .ok (.ofClusterState hostId cluster)) (clusterAt s address) =
      (.ok (.ofClusterState hostId (clusterAt s address)),
        delegating hostId builtin shape (s.cachedAfter true address)) := by
  unfold CustomLoadBalancingPolicy.getClusterState AddressedCaches.Shared.cachedAfter
  cases hcached : s.cached with
  | none => rfl
  | some entry =>
    obtain ⟨key, view⟩ := entry
    by_cases hkey : key = address
    · subst hkey
      simp [delegating, clusterAt, hmade key view hcached]
    · simp [delegating, clusterAt, hkey, CustomLoadBalancingPolicy.getClusterState.make,
        AddressedCaches.Shared.store]

/-- Making a plan only touches the cache. -/
theorem fallbackFor_policy
    {policy : CustomLoadBalancingPolicy Uuid PyRoutingInfo (PyClusterState Uuid Node)}
    (request : RoutingInfo) :
    (fallbackFor hostId policy request cluster).2.1 = (policy.getClusterState
      (fun cluster => .ok (.ofClusterState hostId cluster)) cluster).2 := by
  unfold fallbackFor CustomLoadBalancingPolicy.fallback
  generalize policy.getClusterState _ cluster = made
  obtain ⟨view, policy'⟩ := made
  grind

/-- The plan of a policy that gets the view of the cluster state is that of the built-in policy,
of those nodes that the cluster state knows. -/
theorem produced_delegating (hwell : (clusterAt s address).WellFormed hostId)
    (hmade : ∀ key view, s.cached = some (key, view) → view.made = s.memory.content key)
    (info : RoutingInfo) (k : Nat) :
    let plan := fallbackFor hostId (delegating hostId builtin shape s.cached) info
      (clusterAt s address)
    produced (plan.1, plan.2.2) k =
      (knownTargets hostId (clusterAt s address)
        (builtin.plan info (clusterAt s address) shape))[k]? := by
  intro plan
  set cluster := clusterAt s address
  have hcall : (delegating hostId builtin shape s.cached).getClusterState
      (fun cluster => .ok (.ofClusterState hostId cluster)) cluster = (_, _) :=
    getClusterState_delegating hmade
  set targets := knownTargets hostId cluster (builtin.plan info cluster shape)
  set items := planTargets hostId builtin shape (.ofRoutingInfo info)
    (.ofClusterState hostId cluster) with hitems
  have hforall : List.Forall₂ (IsItem hostId cluster) items targets := by
    rw [hitems, planTargets, PyRoutingInfo.toRoutingInfo_ofRoutingInfo]
    exact collectTargets_items hwell _
  have hyields := yields_of_items hforall
  have hstands : Stands cluster (fun j => items[j]?.map .ok) 0 (plan.1, plan.2.2) :=
    stands_fallback _ _ _ (congrArg Prod.fst hcall) (by rw [hcall]; rfl) rfl
  refine Option.ext fun target => ((stands_after hstands k).next.1 target).trans ?_
  refine ⟨fun h => (hyields k target).mp h.2, fun h => ⟨fun j hj => ?_, (hyields k target).mpr h⟩⟩
  -- The targets before it exist, as the list is longer.
  have hlength : k < targets.length := (List.getElem?_eq_some_iff.mp h).1
  exact ⟨targets[j], (hyields j _).mpr (List.getElem?_eq_getElem (by omega))⟩

section Runs

variable [DecidableEq Node] {content : Nat → AList fun _ : Uuid => Node} {elsewhere : Multiset Nat}
  {c : Config (PolicyCache Uuid Node) (AddressedCaches.Pc (AList fun _ : Uuid => Node))}

/-- However requests on cluster states have interleaved with new cluster states, at addresses
that may have been in use before, and with drops of old ones: a Python policy that delegates to a
built-in policy gives the Rust driver the plan of the built-in policy, of those nodes that the
cluster state of the request knows; and the policy afterwards is that of the history with this
request. -/
theorem delegated_plan
    (hr : (AddressedCaches.program true).Run (AddressedCaches.fresh content elsewhere) c)
    (ha : address ∈ c.shared.elsewhere) (hwell : (clusterAt c.shared address).WellFormed hostId)
    (builtin : RustPolicy Uuid Node) (shape : PlanShape) (info : RoutingInfo) :
    let cluster := clusterAt c.shared address
    let plan := fallbackFor hostId (delegating hostId builtin shape c.shared.cached) info cluster
    (∀ k, produced (plan.1, plan.2.2) k =
      (knownTargets hostId cluster (builtin.plan info cluster shape))[k]?) ∧
      (c.shared.locked = false → ∃ d, (AddressedCaches.program true).Run c d ∧
        plan.2.1 = delegating hostId builtin shape d.shared.cached) := by
  intro cluster plan
  have hmade := (AddressedCaches.matching_preserves.run (AddressedCaches.matching_fresh _ _) hr).cached
  refine ⟨fun k => produced_delegating hwell hmade info k, fun hfree => ?_⟩
  obtain ⟨d, hrun, hcached⟩ := AddressedCaches.run_call hfree ha
  refine ⟨d, hrun, ?_⟩
  rw [fallbackFor_policy, getClusterState_delegating hmade, hcached]

end Runs

/-- A cluster state is made where an older one was, after the policy has cached another, and has
lost a node that the built-in policy still returns. -/
theorem delegated_plan_reused : ∃ c : Config (PolicyCache Nat Nat) _,
    (AddressedCaches.program true).Run
      (AddressedCaches.fresh (fun _ => (AList.singleton 1 1).insert 2 2) {10}) c ∧
    (∃ view, .returned ((AList.singleton 1 1).insert 2 2) view ∈ c.threads) ∧
    10 ∈ c.shared.elsewhere ∧ c.shared.locked = false ∧
    (clusterAt c.shared 10).WellFormed id ∧
    let builtin : RustPolicy Nat Nat := ⟨fun _ _ => none, fun _ _ => [(1, none), (2, some 7)]⟩
    let info : RoutingInfo := ⟨.one, none, some 5, some ⟨"ks", "t"⟩, false, .any⟩
    let plan := fallbackFor id (delegating id builtin .fallback c.shared.cached) info
      (clusterAt c.shared 10)
    produced (plan.1, plan.2.2) 0 = some (2, some 7) := by
  let old : AList fun _ : Nat => Nat := (AList.singleton 1 1).insert 2 2
  let other : AList fun _ : Nat => Nat := AList.singleton 3 3
  let new : AList fun _ : Nat => Nat := AList.singleton 2 2
  let done : Multiset (AddressedCaches.Pc (AList fun _ : Nat => Nat)) :=
    {.returned other ⟨1, other⟩, .returned old ⟨0, old⟩}
  let peers := Function.update (Function.update (fun _ => old) 20 other) 10 new
  obtain ⟨strong, hrun⟩ : ∃ strong, (AddressedCaches.program true).Run
      (AddressedCaches.fresh (fun _ => old) {10})
      ⟨⟨⟨peers, strong⟩, some (20, ⟨1, other⟩), false, 2, {10, 20, 20}⟩, done⟩ :=
    ⟨_, Program.exec_run [.env (.call 10), .thread (.called old 10) .proceed,
      .thread (.compare old 10) .proceed, .thread (.build old 10) .proceed,
      .env (.allocate 20 other), .env (.call 20), .thread (.called other 20) .proceed,
      .thread (.compare other 20) .proceed, .thread (.build other 20) .proceed,
      .env (.release 10), .env (.release 10), .env (.allocate 10 new)] rfl⟩
  let s : PolicyCache Nat Nat := ⟨⟨peers, strong⟩, some (20, ⟨1, other⟩), false, 2, {10, 20, 20}⟩
  have hcontent : s.memory.content 10 = new := rfl
  have hheld : 10 ∈ s.elsewhere := by simp [s]
  have hwell : (clusterAt s 10).WellFormed id := by
    intro entry hentry
    obtain rfl : entry = ⟨2, 2⟩ := by
      rw [clusterAt, hcontent] at hentry
      exact List.mem_singleton.mp hentry
    rfl
  refine ⟨_, hrun, ⟨⟨0, old⟩, Multiset.mem_cons_of_mem (Multiset.mem_singleton_self _)⟩, hheld, rfl,
    hwell, ?_⟩
  exact ((delegated_plan hrun hheld hwell _ .fallback _).1 0).trans rfl

end LoadBalancing

end ScyllaDriver
