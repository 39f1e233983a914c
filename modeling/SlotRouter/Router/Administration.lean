import SlotRouter.Info
import SlotRouter.Router.Execute

/-!
# Administering the cluster

* `nodes`, `replicas`, `replicaMap`: the members, from the topology or from the masters;
* `masterOfSlot`, `masterOfKey`: who serves a slot; slots that do not exist are refused;
* `clusterInfo`: how some node sees the cluster;
* `SlotChange`, `changeSlots`, `SlotState`, `setSlot`: who owns which slots;
* `countKeysInSlot`, `keysInSlot`: what is in a slot;
* `meet`, `forget`, `replicate`: who belongs to the cluster; `forgetWith`: by any executor.
-/

namespace SlotRouter

variable {σ α : Type}

/-- Refuses a slot that does not exist. -/
def requireSlot (slot : Nat) : Except ClusterError Unit :=
  if slot < slotCount then .ok () else .error (.cause (.invalidSlot slot))

/-- Refuses a list with a slot that does not exist, and the list without slots. -/
def requireSlots (slots : List Nat) : Except ClusterError Unit :=
  match mapUntilError requireSlot slots with
  | .error e => .error e
  | .ok _ => if slots.isEmpty then .error (.cause .noSlots) else .ok ()

inductive SlotChange
  | add
  | remove
  deriving DecidableEq, Repr

/-- The word of a slot change. -/
def SlotChange.word : SlotChange → String
  | add => "ADDSLOTS"
  | remove => "DELSLOTS"

inductive SlotState
  /-- The slot comes from the other node. -/
  | importing (source : Node)
  /-- The slot goes to the other node. -/
  | migrating (target : Node)
  /-- The slot neither comes nor goes. -/
  | stable
  /-- The slot belongs to the other node. -/
  | owned (owner : Node)

/-- The word of a slot state. -/
def SlotState.word : SlotState → String
  | importing _ => "IMPORTING"
  | migrating _ => "MIGRATING"
  | stable => "STABLE"
  | owned _ => "NODE"

/-- The other node of a slot state. -/
def SlotState.other? : SlotState → Option Node
  | importing source => some source
  | migrating target => some target
  | stable => none
  | owned owner => some owner

/-- The id of the other node of a slot state, if there is one. -/
def SlotState.otherId (t : Topology) (state : SlotState) : Except ClusterError (Option String) :=
  match state.other? with
  | some other => (t.idOf other).map some
  | none => .ok none

/-- The exchange that asks a master with an id for its replicas. -/
def replicasExchange (id : String) : Exchange (List String) :=
  .query (.ofWords ["CLUSTER", "REPLICAS", id]) (Decode.list Decode.string)

/-- The replicas that a master reports, a line for each. -/
def readReplicas (master : Node) (lines : List String) : Except ClusterError (List Node) :=
  readReport master.host (Text.join "\n" lines)

/-- A master with the replicas that it reported. -/
def replicaEntry (r : NodeResult (List String)) : Except ClusterError (Node × List Node) :=
  match r.value with
  | .error e => .error e
  | .ok lines => (readReplicas r.node lines).map (r.node, ·)

namespace Router

/-! ## Members and slots -/

def nodes (r : Router σ) : Run σ ClusterError (List Node) := do
  let t ← r.topology
  pure t.nodes

def replicas (r : Router σ) (master : Node) : Run σ ClusterError (List Node) := do
  let t ← r.topology
  let master ← .ofExcept (t.resolve master)
  let id ← .ofExcept (t.idOf master)
  let lines ← r.askNode (replicasExchange id) master
  .ofExcept (readReplicas master lines)

def replicaMap (r : Router σ) : Run σ ClusterError (List (Node × List Node)) := do
  let m ← r.onMasters
    ((Exchange.query (.ofWords ["CLUSTER", "MYID"]) Decode.string).andThen replicasExchange)
  .ofExcept (mapUntilError replicaEntry m.results)

def masterOfSlot (r : Router σ) (slot : Nat) : Run σ ClusterError Node := do
  .ofExcept (requireSlot slot)
  let t ← r.topology
  match (t.servingNodes slot).find? (·.isMaster) with
  | some master => pure master
  | none => .fail (.cause (.slotWithoutMaster slot))

def masterOfKey (r : Router σ) (key : Bytes) : Run σ ClusterError Node :=
  r.masterOfSlot (keySlot key)

def clusterInfo (r : Router σ) : Run σ ClusterError ClusterInfo :=
  r.askArbitrary (.query (.ofWords ["CLUSTER", "INFO"]) ClusterInfo.decode)

def changeSlots (r : Router σ) (change : SlotChange) (node : Node) (slots : List Nat) :
    Run σ ClusterError Unit := do
  .ofExcept (requireSlots slots)
  r.askNode (.query (.ofWords ("CLUSTER" :: change.word :: slots.map toString)) Decode.unit) node

/-- Assigns a range of slots to a node or takes it from it. -/
def changeSlotRange (r : Router σ) (change : SlotChange) (node : Node) (range : SlotRange) :
    Run σ ClusterError Unit :=
  r.changeSlots change node range.slots

def countKeysInSlot (r : Router σ) (slot : Nat) : Run σ ClusterError Nat := do
  let master ← r.masterOfSlot slot
  r.askNode (.query (.ofWords ["CLUSTER", "COUNTKEYSINSLOT", toString slot]) Decode.count) master

def keysInSlot (r : Router σ) (slot count : Nat) (decode : Decoder α) :
    Run σ ClusterError (List α) := do
  let master ← r.masterOfSlot slot
  r.askNode
    (.query (.ofWords ["CLUSTER", "GETKEYSINSLOT", toString slot, toString count])
      (Decode.list decode))
    master

/-! ## Changing the cluster -/

def meet (r : Router σ) (node : Node) : Run σ ClusterError Unit := do
  let _ ← r.askMasters
    (.query (.ofWords ["CLUSTER", "MEET", node.host, toString node.port]) Decode.unit)
  pure ()

/-- Has a node forgotten by the other masters, which an executor tells. -/
def forgetWith (r : Router σ) (run : Executor σ Unit) (node : Node) : Run σ ClusterError Unit := do
  let t ← r.topology
  let forgotten ← .ofExcept (t.resolve node)
  let id ← .ofExcept (t.idOf forgotten)
  let others := t.activeMasters.filter fun master => !master.isSameNode forgotten
  let m ← r.onNodesWith run (.query (.ofWords ["CLUSTER", "FORGET", id]) Decode.unit) others
  let _ ← .ofExcept m.values
  pure ()

def forget (r : Router σ) (node : Node) : Run σ ClusterError Unit := r.forgetWith r.runTasks node

def replicate (r : Router σ) (master replica : Node) : Run σ ClusterError Unit := do
  let t ← r.topology
  let id ← .ofExcept (t.idOf master)
  r.askNode (.query (.ofWords ["CLUSTER", "REPLICATE", id]) Decode.unit) replica

def setSlot (r : Router σ) (node : Node) (slot : Nat) (state : SlotState) :
    Run σ ClusterError Unit := do
  .ofExcept (requireSlot slot)
  let t ← r.topology
  let id ← .ofExcept (state.otherId t)
  r.askNode
    (.query (.ofWords (["CLUSTER", "SETSLOT", toString slot, state.word] ++ id.toList)) Decode.unit)
    node

end Router

end SlotRouter
