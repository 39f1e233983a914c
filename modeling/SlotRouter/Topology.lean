import SlotRouter.Node
import SlotRouter.Slot.Table

/-!
# Snapshots of a cluster

A `Topology` is the cluster at one point in time. It never changes; a refresh builds a new one.

* `keepFirst nodes`: one node per address, the first one listed;
* `Topology.ofNodes`: the snapshot of a list of nodes;
* `activeNodes`, `masters`, `activeMasters`, `replicasOf`, `servingNodes`: views of the nodes;
* `masterForSlot`, `masterForKey`: who owns a slot (`slotTable` settles overlaps);
* `find?`, `lookup`, `lookupAddress`, `lookupId`: resolving descriptors;
* `slotCoverage`, `isFullyCovered`: how many slots have an owner.
-/

namespace SlotRouter

def keepFirst : List Node → List Node
  | [] => []
  | n :: rest => n :: (keepFirst rest).filter (·.address ≠ n.address)

/-- No two nodes of the list have one address. -/
def DistinctAddresses (nodes : List Node) : Prop := nodes.Pairwise (·.address ≠ ·.address)

theorem keepFirst_distinct (nodes : List Node) : DistinctAddresses (keepFirst nodes) := by
  induction nodes with
  | nil => exact List.Pairwise.nil
  | cons n rest ih =>
    refine List.Pairwise.cons ?_ (ih.filter _)
    intro m hm
    have := (List.mem_filter.1 hm).2
    exact fun h => by simp [h] at this

structure Topology where
  nodes : List Node
  distinct : DistinctAddresses nodes

namespace Topology

/-- The snapshot of a list of nodes; of nodes with one address the first one counts. -/
def ofNodes (nodes : List Node) : Topology := ⟨keepFirst nodes, keepFirst_distinct nodes⟩

instance : Inhabited Topology := ⟨ofNodes []⟩

def activeNodes (t : Topology) : List Node := t.nodes.filter (·.isActive)

def masters (t : Topology) : List Node := t.nodes.filter (·.isMaster)

def activeMasters (t : Topology) : List Node := t.nodes.filter fun n => n.isMaster && n.isActive

def servingNodes (t : Topology) (slot : Nat) : List Node := t.nodes.filter (·.serves slot)

/-- Every interval of every master, with the master as its owner. -/
def claims (t : Topology) : List (Claim Node) :=
  t.masters.flatMap fun n => n.slots.intervals.map fun i => (i, n)

def slotTable (t : Topology) : SlotTable Node := .ofClaims t.claims

def masterForSlot (t : Topology) (slot : Nat) : Option Node := t.slotTable.owner? slot

def masterForKey (t : Topology) (key : Bytes) : Except ClusterError Node :=
  match t.masterForSlot (keySlot key) with
  | some n => .ok n
  | none => .error (.cause (.keyWithoutMaster (keySlot key) key))

def lookupAddress (t : Topology) (host : String) (port : UInt16) : Except ClusterError Node :=
  match t.nodes.find? fun n => n.host == host && n.port == port with
  | some n => .ok n
  | none => .error (.cause (.noNodeAt host port))

def lookupId (t : Topology) (id : String) : Except ClusterError Node :=
  match t.nodes.find? (·.id == some id) with
  | some n => .ok n
  | none => .error (.cause (.noNodeWithId id))

/-- The node that a descriptor means: the node with its id, or else the one with its address. -/
def lookup (t : Topology) (n : Node) : Except ClusterError Node :=
  match n.id with
  | some id =>
    match t.lookupId id with
    | .ok found => .ok found
    | .error _ => t.lookupAddress n.host n.port
  | none => t.lookupAddress n.host n.port

/-- The node that a descriptor means, refusing a descriptor of no node. -/
def resolve (t : Topology) (n : Node) : Except ClusterError Node :=
  match t.lookup n with
  | .ok found => .ok found
  | .error _ => .error n.unknown

/-- The replicas of a master. A master without id has none. -/
def replicasOf (t : Topology) (master : Node) : Except ClusterError (List Node) :=
  match t.lookup master with
  | .ok found =>
    match found.id with
    | some id => .ok (t.nodes.filter fun n => n.isReplica && n.masterId == some id)
    | none => .ok []
  | .error e => .error e

/-- The id of the node that a descriptor means. -/
def idOf (t : Topology) (n : Node) : Except ClusterError String :=
  match t.resolve n with
  | .ok found =>
    match found.id with
    | some id => .ok id
    | none => .error (.cause (.unknownId found.address))
  | .error e => .error e

def slotCoverage (t : Topology) : Nat := t.slotTable.coverage

def isFullyCovered (t : Topology) : Bool := t.slotCoverage == slotCount

end Topology

end SlotRouter
