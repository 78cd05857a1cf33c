import ScyllaDriver.DelegatedPlans
import ScyllaDriver.Fallible

/-! The cluster state and the replica locator as Python sees them. The nodes become Python
objects once, and every answer of the driver is given in terms of these. -/

namespace ScyllaDriver

namespace ClusterViews

open Fallible LoadBalancing

abbrev Shard := UInt32

/-- What the driver's cluster state answers. -/
structure Driver (Uuid Node Strategy Values : Type) where
  cluster : ClusterState Uuid Node
  getTokenEndpoints : String → String → Int → List (Node × Shard)
  getEndpoints : String → String → Values → Except String (List (Node × Shard))
  replicasForToken : Int → Strategy → Option String → TableSpec → List (Node × Shard)
  uniqueNodesInGlobalRing : List Node
  uniqueNodesInDatacenterRing : String → Option (List Node)

inductive Exception where
  | raised (err : PyErr)
  | clusterStateTokenError (message : String)

/-- The questions that Python can ask. -/
inductive Query (Strategy Values : Type) where
  | tokenEndpoints (keyspace table : String) (token : Int)
  | endpoints (keyspace table : String) (partitionKey : Values)
  | primaryReplica (token : Int) (strategy : Strategy) (keyspace table : String)
    (datacenter : Option String)
  | allReplicas (token : Int) (strategy : Strategy) (keyspace table : String)
    (datacenter : Option String)
  | uniqueNodesInCluster
  | uniqueNodesInDatacenter (datacenter : String)

inductive Answer (Node : Type) where
  | endpoints (list : List (Node × Shard))
  | replica (first : Option (Node × Shard))
  | nodes (list : Option (List Node))

section Code

variable {Uuid Node Strategy Values : Type} [DecidableEq Uuid] (raises : Nat → Option PyErr)
  (hostId : Node → Uuid)

def unknownMessage : String := "node can't be known by Rust Driver and simultaneously None"

def PyClusterState.tryFrom (cluster : ClusterState Uuid Node) :
    RunM PyErr (PyClusterState Uuid Node) := do
  let dict ← cluster.getNodesInfo.foldlM
    (fun dict node => RunM.request raises (dict.insert (hostId node) node)) ∅
  return ⟨cluster, dict⟩

variable (driver : Driver Uuid Node Strategy Values) (state : PyClusterState Uuid Node)

/-- The Python object of a node that the driver has named. -/
def pyNode (node : Node) : RunM PyErr Node := do
  match ← RunM.request raises (state.knownNodes.lookup (hostId node)) with
  | some pyNode => return pyNode
  | none => RunM.panicWith unknownMessage

def endpointList (endpoints : List (Node × Shard)) : RunM PyErr (List (Node × Shard)) :=
  endpoints.foldlM (fun list endpoint => do
    let node ← pyNode raises hostId state endpoint.1
    RunM.request raises (list ++ [(node, endpoint.2)])) []

def nodeList (nodes : List Node) : RunM PyErr (List Node) :=
  nodes.foldlM (fun list node => do
    let node ← pyNode raises hostId state node
    RunM.request raises (list ++ [node])) []

def getTokenEndpoints (keyspace table : String) (token : Int) :
    RunM PyErr (List (Node × Shard)) :=
  endpointList raises hostId state (driver.getTokenEndpoints keyspace table token)

def getEndpoints (keyspace table : String) (partitionKey : Values) :
    RunM Exception (List (Node × Shard)) :=
  match driver.getEndpoints keyspace table partitionKey with
  | .ok endpoints => RunM.mapErr .raised (endpointList raises hostId state endpoints)
  | .error message => fun _ => .error (.raised (.clusterStateTokenError message))

def primaryReplicaForToken (token : Int) (strategy : Strategy) (keyspace table : String)
    (datacenter : Option String) : RunM PyErr (Option (Node × Shard)) :=
  match driver.replicasForToken token strategy datacenter ⟨keyspace, table⟩ with
  | [] => return none
  | (node, shard) :: _ => do
    let node ← pyNode raises hostId state node
    return some (node, shard)

def allReplicasForToken (token : Int) (strategy : Strategy) (keyspace table : String)
    (datacenter : Option String) : RunM PyErr (List (Node × Shard)) :=
  endpointList raises hostId state
    (driver.replicasForToken token strategy datacenter ⟨keyspace, table⟩)

def uniqueTokenOwningNodesInCluster : RunM PyErr (List Node) :=
  nodeList raises hostId state driver.uniqueNodesInGlobalRing

def uniqueTokenOwningNodesInDatacenter (datacenter : String) :
    RunM PyErr (Option (List Node)) :=
  match driver.uniqueNodesInDatacenterRing datacenter with
  | none => return none
  | some nodes => do
    let list ← nodeList raises hostId state nodes
    return some list

/-- The Python method for a question. -/
def ask : Query Strategy Values → RunM Exception (Answer Node)
  | .tokenEndpoints keyspace table token => do
    return .endpoints
      (← RunM.mapErr .raised (getTokenEndpoints raises hostId driver state keyspace table token))
  | .endpoints keyspace table partitionKey => do
    return .endpoints (← getEndpoints raises hostId driver state keyspace table partitionKey)
  | .primaryReplica token strategy keyspace table datacenter => do
    return .replica (← RunM.mapErr .raised
      (primaryReplicaForToken raises hostId driver state token strategy keyspace table datacenter))
  | .allReplicas token strategy keyspace table datacenter => do
    return .endpoints (← RunM.mapErr .raised
      (allReplicasForToken raises hostId driver state token strategy keyspace table datacenter))
  | .uniqueNodesInCluster => do
    return .nodes (some (← RunM.mapErr .raised
      (uniqueTokenOwningNodesInCluster raises hostId driver state)))
  | .uniqueNodesInDatacenter datacenter => do
    return .nodes (← RunM.mapErr .raised
      (uniqueTokenOwningNodesInDatacenter raises hostId driver state datacenter))

/-- A new cluster state for Python, and a question to it. -/
def viewAndAsk (query : Query Strategy Values) : RunM Exception (Answer Node) := do
  let state ← RunM.mapErr .raised (PyClusterState.tryFrom raises hostId driver.cluster)
  ask raises hostId driver state query

end Code

/-- What the driver itself answers. -/
def Driver.answer {Uuid Node Strategy Values : Type} (driver : Driver Uuid Node Strategy Values) :
    Query Strategy Values → Except String (Answer Node)
  | .tokenEndpoints keyspace table token =>
    .ok (.endpoints (driver.getTokenEndpoints keyspace table token))
  | .endpoints keyspace table partitionKey =>
    (driver.getEndpoints keyspace table partitionKey).map .endpoints
  | .primaryReplica token strategy keyspace table datacenter =>
    .ok (.replica (driver.replicasForToken token strategy datacenter ⟨keyspace, table⟩).head?)
  | .allReplicas token strategy keyspace table datacenter =>
    .ok (.endpoints (driver.replicasForToken token strategy datacenter ⟨keyspace, table⟩))
  | .uniqueNodesInCluster => .ok (.nodes (some driver.uniqueNodesInGlobalRing))
  | .uniqueNodesInDatacenter datacenter =>
    .ok (.nodes (driver.uniqueNodesInDatacenterRing datacenter))

def Answer.named {Node : Type} : Answer Node → List Node
  | .endpoints list => list.map Prod.fst
  | .replica first => first.toList.map Prod.fst
  | .nodes list => list.getD []

variable {Uuid Node Strategy Values : Type} [DecidableEq Uuid] {raises : Nat → Option PyErr}
  {hostId : Node → Uuid} {driver : Driver Uuid Node Strategy Values}
  {state : PyClusterState Uuid Node}

/-- The driver only names nodes that its cluster state has. -/
structure Driver.Consistent (hostId : Node → Uuid) (driver : Driver Uuid Node Strategy Values) :
    Prop where
  cluster : driver.cluster.WellFormed hostId
  named : ∀ query answer, driver.answer query = .ok answer → ∀ node ∈ answer.named,
    driver.cluster.getNodeByHostId (hostId node) = some node

abbrev Refused (raises : Nat → Option PyErr) (err : PyErr) : Prop := ∃ k, raises k = some err

theorem tryFrom_ends (cluster : ClusterState Uuid Node) :
    Ends (Refused raises) (PyClusterState.tryFrom raises hostId cluster)
      (fun state => state = .ofClusterState hostId cluster) False := by
  let I (done : List Node) (dict : AList fun _ : Uuid => Node) : Prop :=
    dict = done.foldl (fun dict node => dict.insert (hostId node) node) ∅
  have hstep (done : List Node) (node : Node) (_ : node ∈ cluster.getNodesInfo)
      (dict : AList fun _ : Uuid => Node) (hdict : I done dict) :
      Ends (Refused raises) (RunM.request raises (dict.insert (hostId node) node))
        (I (done ++ [node])) False := by
    refine Ends.request ?_
    simp only [I, List.foldl_append, List.foldl_cons, List.foldl_nil] at hdict ⊢
    rw [hdict]
  refine (Ends.foldlM hstep (show I [] ∅ from rfl)).bind fun dict hdict => Ends.pure ?_
  rw [show dict = _ from hdict]
  rfl

/-- Python has an object for the node. -/
def Knows (hostId : Node → Uuid) (state : PyClusterState Uuid Node) (node : Node) : Prop :=
  state.knownNodes.lookup (hostId node) = some node

theorem pyNode_ends {node : Node} (h : Knows hostId state node) :
    Ends (Refused raises) (pyNode raises hostId state node) (· = node) False := by
  have hfound : Ends (Refused raises)
      (RunM.request raises (state.knownNodes.lookup (hostId node))) (· = some node) False :=
    Ends.request h
  refine hfound.bind fun found hnode => ?_
  rw [hnode]
  exact Ends.pure rfl

theorem endpointList_ends {endpoints : List (Node × Shard)}
    (h : ∀ node ∈ endpoints.map Prod.fst, Knows hostId state node) :
    Ends (Refused raises) (endpointList raises hostId state endpoints) (· = endpoints) False := by
  have hstep (done : List (Node × Shard)) (endpoint : Node × Shard) (hmem : endpoint ∈ endpoints)
      (list : List (Node × Shard)) (hlist : list = done) :
      Ends (Refused raises)
        (do
          let node ← pyNode raises hostId state endpoint.1
          RunM.request raises (list ++ [(node, endpoint.2)]))
        (· = done ++ [endpoint]) False := by
    refine (pyNode_ends (h _ (List.mem_map_of_mem hmem))).bind fun node hnode => Ends.request ?_
    rw [hlist, hnode]
  exact Ends.foldlM hstep (I := fun done list => list = done) rfl

theorem nodeList_ends {nodes : List Node} (h : ∀ node ∈ nodes, Knows hostId state node) :
    Ends (Refused raises) (nodeList raises hostId state nodes) (· = nodes) False := by
  have hstep (done : List Node) (node : Node) (hmem : node ∈ nodes) (list : List Node)
      (hlist : list = done) :
      Ends (Refused raises)
        (do
          let node ← pyNode raises hostId state node
          RunM.request raises (list ++ [node]))
        (· = done ++ [node]) False := by
    refine (pyNode_ends (h node hmem)).bind fun found hfound => Ends.request ?_
    rw [hlist, hfound]
  exact Ends.foldlM hstep (I := fun done list => list = done) rfl

section Methods

variable {token : Int} {strategy : Strategy} {keyspace table : String} {datacenter : Option String}

theorem primaryReplicaForToken_ends
    (h : ∀ replica ∈ (driver.replicasForToken token strategy datacenter ⟨keyspace, table⟩).head?,
      Knows hostId state replica.1) :
    Ends (Refused raises)
      (primaryReplicaForToken raises hostId driver state token strategy keyspace table datacenter)
      (· = (driver.replicasForToken token strategy datacenter ⟨keyspace, table⟩).head?) False := by
  unfold primaryReplicaForToken
  cases hreplicas : driver.replicasForToken token strategy datacenter ⟨keyspace, table⟩ with
  | nil => exact Ends.pure rfl
  | cons replica rest =>
    rw [hreplicas] at h
    refine (pyNode_ends (h replica rfl)).bind fun node hnode => Ends.pure ?_
    rw [hnode, List.head?_cons]

theorem uniqueTokenOwningNodesInDatacenter_ends {datacenter : String}
    (h : ∀ nodes ∈ driver.uniqueNodesInDatacenterRing datacenter, ∀ node ∈ nodes,
      Knows hostId state node) :
    Ends (Refused raises)
      (uniqueTokenOwningNodesInDatacenter raises hostId driver state datacenter)
      (· = driver.uniqueNodesInDatacenterRing datacenter) False := by
  unfold uniqueTokenOwningNodesInDatacenter
  cases hring : driver.uniqueNodesInDatacenterRing datacenter with
  | none => exact Ends.pure rfl
  | some nodes =>
    refine (nodeList_ends (h nodes hring)).bind fun list hlist => Ends.pure ?_
    rw [hlist]

end Methods

/-- What a question can be answered with other than the driver's answer. -/
def Fails (raises : Nat → Option PyErr) (driver : Driver Uuid Node Strategy Values)
    (query : Query Strategy Values) : Exception → Prop
  | .raised err => Refused raises err
  | .clusterStateTokenError message => driver.answer query = .error message

theorem getEndpoints_ends {keyspace table : String} {partitionKey : Values}
    (h : ∀ list, driver.getEndpoints keyspace table partitionKey = .ok list →
      ∀ node ∈ list.map Prod.fst, Knows hostId state node) :
    Ends (Fails raises driver (.endpoints keyspace table partitionKey))
      (getEndpoints raises hostId driver state keyspace table partitionKey)
      (fun list => driver.getEndpoints keyspace table partitionKey = .ok list) False := by
  unfold getEndpoints
  cases hanswer : driver.getEndpoints keyspace table partitionKey with
  | error message =>
    have hfails : Fails raises driver (.endpoints keyspace table partitionKey)
        (.clusterStateTokenError message) := by
      simp only [Fails, Driver.answer, hanswer]
      rfl
    exact fun _ => .raised hfails
  | ok endpoints =>
    refine Ends.imp ((endpointList_ends (h endpoints hanswer)).mapErr fun _ herr => herr)
      fun list hlist => ?_
    rw [hlist]

theorem ask_ends (query : Query Strategy Values)
    (h : ∀ answer, driver.answer query = .ok answer → ∀ node ∈ answer.named,
      Knows hostId state node) :
    Ends (Fails raises driver query) (ask raises hostId driver state query)
      (fun answer => driver.answer query = .ok answer) False := by
  have hraised (err : PyErr) (herr : Refused raises err) :
      Fails raises driver query (.raised err) := herr
  cases query with
  | tokenEndpoints keyspace table token =>
    refine ((endpointList_ends (h _ rfl)).mapErr hraised).bind fun list hlist => Ends.pure ?_
    rw [hlist, Driver.answer]
  | endpoints keyspace table partitionKey =>
    have hok {list : List (Node × Shard)}
        (hlist : driver.getEndpoints keyspace table partitionKey = .ok list) :
        driver.answer (.endpoints keyspace table partitionKey) = .ok (.endpoints list) := by
      simp only [Driver.answer, hlist]
      rfl
    exact (getEndpoints_ends fun list hlist => h _ (hok hlist)).bind fun list hlist =>
      Ends.pure (hok hlist)
  | primaryReplica token strategy keyspace table datacenter =>
    refine ((primaryReplicaForToken_ends fun replica hreplica => h _ rfl replica.1 ?_).mapErr
      hraised).bind fun first hfirst => Ends.pure ?_
    · rw [Answer.named, hreplica]
      simp
    · rw [hfirst, Driver.answer]
  | allReplicas token strategy keyspace table datacenter =>
    refine ((endpointList_ends (h _ rfl)).mapErr hraised).bind fun list hlist => Ends.pure ?_
    rw [hlist, Driver.answer]
  | uniqueNodesInCluster =>
    refine ((nodeList_ends (h _ rfl)).mapErr hraised).bind fun list hlist => Ends.pure ?_
    rw [hlist, Driver.answer]
    rfl
  | uniqueNodesInDatacenter datacenter =>
    refine ((uniqueTokenOwningNodesInDatacenter_ends fun nodes hnodes node hnode =>
      h _ rfl node ?_).mapErr hraised).bind fun list hlist => Ends.pure ?_
    · rw [Answer.named, hnodes]
      exact hnode
    · rw [hlist, Driver.answer]

/-- Whatever Python asks of a cluster state, it is answered as the driver does, with the objects
of its nodes. Instead the interpreter may raise, or the driver find no token; no `expect`
panics. -/
theorem cluster_questions_answered (raises : Nat → Option PyErr) (hconsistent : driver.Consistent hostId)
    (query : Query Strategy Values) :
    Ends (Fails raises driver query) (viewAndAsk raises hostId driver query)
      (fun answer => driver.answer query = .ok answer) False := by
  have hraised (err : PyErr) (herr : Refused raises err) :
      Fails raises driver query (.raised err) := herr
  refine ((tryFrom_ends driver.cluster).mapErr hraised).bind fun state hstate => ?_
  refine ask_ends query fun answer hanswer node hnode => ?_
  rw [Knows, hstate, hconsistent.cluster.knownNodes]
  exact hconsistent.named query answer hanswer node hnode

/-- A node that is asked for as the replica of a token. -/
theorem cluster_questions_answered_replica :
    let driver : Driver Nat Nat Unit Unit :=
      ⟨⟨0, AList.singleton 2 2⟩, fun _ _ _ => [], fun _ _ _ => .error "unknown table",
        fun _ _ _ _ => [(2, 7)], [2], fun _ => none⟩
    driver.Consistent id ∧
      ∃ made, viewAndAsk (fun _ => none) id driver (.primaryReplica 0 () "ks" "t" none) 0 =
        .ok (.replica (some (2, 7)), made) := by
  intro driver
  have hknown : driver.cluster.getNodeByHostId 2 = some 2 := rfl
  have hwell : driver.cluster.WellFormed id := by
    intro entry hentry
    obtain rfl : entry = ⟨2, 2⟩ := List.mem_singleton.mp hentry
    rfl
  have hconsistent : driver.Consistent id := by
    refine ⟨hwell, fun query answer hanswer node hnode => ?_⟩
    suffices hnode : node = 2 by rw [hnode]; exact hknown
    cases query with
    | endpoints => cases hanswer
    | tokenEndpoints | uniqueNodesInDatacenter =>
      cases hanswer
      simp [Answer.named, driver] at hnode
    | primaryReplica | allReplicas | uniqueNodesInCluster =>
      cases hanswer
      simpa [Answer.named, driver] using hnode
  let query : Query Unit Unit := .primaryReplica 0 () "ks" "t" none
  have hends := cluster_questions_answered (fun _ => none) hconsistent query
  have hfails (e : Exception) : ¬ Fails (fun _ => none) driver query e := by
    cases e with
    | raised err => simp [Fails, Refused]
    | clusterStateTokenError message =>
      intro h
      cases h
  obtain ⟨answer, made, hrun⟩ := Ends.returns hends hfails 0
  have hanswer := Ends.of_eq_ok hends hrun
  cases hanswer
  exact ⟨hconsistent, made, hrun⟩

end ClusterViews

end ScyllaDriver
