import SlotRouter.Router.Administration
import SlotRouter.Router.Keys
import SlotRouter.Router.Local
import SlotRouter.Router.Server

/-!
# Operations

Everything that a caller can ask of a router, as data.

* `Operation α`: a call with its arguments, whose result is an `α`;
* `Operation.run`: the run of a call.
-/

namespace SlotRouter

inductive Operation : Type → Type 1
  | topology : Operation Topology
  -- Calls that no node is asked about.
  | selectDatabase (index : Int) : Operation Unit
  | refused (feature : Feature) : Operation Unit
  | slotOfKey (key : Bytes) : Operation Nat
  -- Any exchange with the nodes that the caller chooses.
  | onNode {α : Type} (x : Exchange α) (node : Node) : Operation (NodeResult α)
  | onArbitrary {α : Type} (x : Exchange α) : Operation (NodeResult α)
  | onMasters {α : Type} (x : Exchange α) : Operation (MultiResult α)
  | onActive {α : Type} (x : Exchange α) : Operation (MultiResult α)
  | onNodes {α : Type} (x : Exchange α) (nodes : List Node) : Operation (MultiResult α)
  | onEachKey {α : Type} (x : Bytes → Exchange α) (keys : List Bytes) : Operation (MultiResult α)
  | askNode {α : Type} (x : Exchange α) (node : Node) : Operation α
  | onKey {α : Type} (x : Exchange α) (key : Bytes) : Operation α
  -- Commands on keys.
  | get {α : Type} (key : Bytes) (decode : Decoder α) : Operation α
  | set (key : Bytes) (value : Argument) : Operation Unit
  | countExisting (keys : List Bytes) : Operation Nat
  | delete (keys : List Bytes) : Operation Nat
  | getMany {α : Type} (keys : List Bytes) (decode : Decoder α) : Operation (List α)
  | keysMatching {α : Type} (pattern : String) (decode : Decoder α) : Operation (List α)
  | keysMatchingOn {α : Type} (node : Node) (pattern : String) (decode : Decoder α) :
      Operation (List α)
  | randomKey {α : Type} (decode : Decoder α) : Operation (Option α)
  | rename (key newKey : Bytes) : Operation Unit
  | store (op : StoreOp) (target : Bytes) (keys : List Bytes) : Operation Nat
  | difference {α : Type} (op : DifferenceOp) (keys : List Bytes) (decode : Decoder α) : Operation α
  -- Administration of the cluster.
  | nodes : Operation (List Node)
  | replicas (master : Node) : Operation (List Node)
  | replicaMap : Operation (List (Node × List Node))
  | masterOfSlot (slot : Nat) : Operation Node
  | masterOfKey (key : Bytes) : Operation Node
  | clusterInfo : Operation ClusterInfo
  | changeSlots (change : SlotChange) (node : Node) (slots : List Nat) : Operation Unit
  | changeSlotRange (change : SlotChange) (node : Node) (range : SlotRange) : Operation Unit
  | countKeysInSlot (slot : Nat) : Operation Nat
  | keysInSlot {α : Type} (slot count : Nat) (decode : Decoder α) : Operation (List α)
  | meet (node : Node) : Operation Unit
  | forget (node : Node) : Operation Unit
  | replicate (master replica : Node) : Operation Unit
  | setSlot (node : Node) (slot : Nat) (state : SlotState) : Operation Unit
  -- Commands on servers.
  | ping : Operation String
  | pingOn (node : Node) : Operation String
  | databaseSize : Operation Nat
  | databaseSizeOn (node : Node) : Operation Nat
  | lastSave : Operation Nat
  | lastSaveOn (node : Node) : Operation Nat
  | time : Operation Timestamp
  | timeOn (node : Node) : Operation Timestamp
  | info (extra : Option String) : Operation Properties
  | infoOn (node : Node) : Operation Properties
  | configuration (pattern : String) : Operation Properties
  | configurationOn (node : Node) (pattern : String) : Operation Properties
  | configure (parameter : String) (value : Argument) : Operation Unit
  | configureOn (node : Node) (parameter : String) (value : Argument) : Operation Unit
  | maintain (m : Maintenance) : Operation Unit
  | maintainOn (node : Node) (m : Maintenance) : Operation Unit
  | shutdown : Operation Unit
  | shutdownOn (node : Node) : Operation Unit

def Operation.run {σ α : Type} (r : Router σ) : Operation α → Run σ ClusterError α
  | topology => r.topology
  | selectDatabase index => .ofExcept (SlotRouter.selectDatabase index)
  | refused feature => .fail feature.refusal
  | slotOfKey key => pure (keySlot key)
  | onNode x node => r.onNode x node
  | onArbitrary x => r.onArbitrary x
  | onMasters x => r.onMasters x
  | onActive x => r.onActive x
  | onNodes x targets => r.onNodes x targets
  | onEachKey x keys => r.onEachKey x keys
  | askNode x node => r.askNode x node
  | onKey x key => r.onKey x key
  | get key decode => r.get key decode
  | set key value => r.set key value
  | countExisting keys => r.countExisting keys
  | delete keys => r.delete keys
  | getMany keys decode => r.getMany keys decode
  | keysMatching pattern decode => r.keysMatching pattern decode
  | keysMatchingOn node pattern decode => r.keysMatchingOn node pattern decode
  | randomKey decode => r.randomKey decode
  | rename key newKey => r.rename key newKey
  | store op target keys => r.store op target keys
  | difference op keys decode => r.difference op keys decode
  | nodes => r.nodes
  | replicas master => r.replicas master
  | replicaMap => r.replicaMap
  | masterOfSlot slot => r.masterOfSlot slot
  | masterOfKey key => r.masterOfKey key
  | clusterInfo => r.clusterInfo
  | changeSlots change node slots => r.changeSlots change node slots
  | changeSlotRange change node range => r.changeSlotRange change node range
  | countKeysInSlot slot => r.countKeysInSlot slot
  | keysInSlot slot count decode => r.keysInSlot slot count decode
  | meet node => r.meet node
  | forget node => r.forget node
  | replicate master replica => r.replicate master replica
  | setSlot node slot state => r.setSlot node slot state
  | ping => r.ping
  | pingOn node => r.pingOn node
  | databaseSize => r.databaseSize
  | databaseSizeOn node => r.databaseSizeOn node
  | lastSave => r.lastSave
  | lastSaveOn node => r.lastSaveOn node
  | time => r.time
  | timeOn node => r.timeOn node
  | info extra => r.info extra
  | infoOn node => r.infoOn node
  | configuration pattern => r.configuration pattern
  | configurationOn node pattern => r.configurationOn node pattern
  | configure parameter value => r.configure parameter value
  | configureOn node parameter value => r.configureOn node parameter value
  | maintain m => r.maintain m
  | maintainOn node m => r.maintainOn node m
  | shutdown => r.shutdown
  | shutdownOn node => r.shutdownOn node

end SlotRouter
