import SlotRouter.Address
import SlotRouter.Error.Cluster
import SlotRouter.Slot.Range

/-!
# Members of a cluster

* `Role`, `Flag`, `Link`: what a cluster report says about a node;
* `Node`: a descriptor, which may know no more than the address;
* `Node.sameAddress`: the equality of descriptors;
* `Node.isSameNode`: whether two descriptors mean one node, by id if both have one;
* `Node.isActive`: connected and not reported as failing;
* `addNode`: extends a list in which no address stands twice.
-/

namespace SlotRouter

inductive Role
  /-- Owns its slots. -/
  | master
  /-- Copies a master. -/
  | replica
  deriving DecidableEq, Repr

/-- The name of a role. -/
def Role.name : Role → String
  | master => "master"
  | replica => "replica"

/-- The role with a given name. -/
def Role.ofName? (name : String) : Option Role := [master, replica].find? (·.name == name)

inductive Flag
  /-- The node that made the report. -/
  | myself
  | master
  | replica
  /-- Suspected to be failing. -/
  | possibleFail
  /-- Held to be failing by most masters. -/
  | fail
  | handshake
  /-- The address is not known. -/
  | noAddr
  /-- The replica does not take over. -/
  | noFailover
  /-- No flag is set. -/
  | noFlags
  deriving DecidableEq, Repr

namespace Flag

/-- The name of a flag. -/
def name : Flag → String
  | myself => "Myself"
  | master => "Master"
  | replica => "Replica"
  | possibleFail => "PossibleFail"
  | fail => "Fail"
  | handshake => "Handshake"
  | noAddr => "NoAddr"
  | noFailover => "NoFailover"
  | noFlags => "NoFlags"

/-- All flags. -/
def all : List Flag :=
  [myself, master, replica, possibleFail, fail, handshake, noAddr, noFailover, noFlags]

/-- The flag with a given name. -/
def ofName? (name : String) : Option Flag := all.find? (·.name == name)

/-- The word for a flag in a cluster report. -/
def word : Flag → String
  | myself => "myself"
  | master => "master"
  | replica => "slave"
  | possibleFail => "fail?"
  | fail => "fail"
  | handshake => "handshake"
  | noAddr => "noaddr"
  | noFailover => "nofailover"
  | noFlags => "noflags"

/-- The flag that a word of a cluster report stands for. A replica has two words. -/
def ofWord? (word : String) : Option Flag :=
  if word = "replica" then some replica else all.find? (·.word == word)

end Flag

inductive Link
  | connected
  | disconnected
  deriving DecidableEq, Repr

/-- The name of a link state. -/
def Link.name : Link → String
  | connected => "Connected"
  | disconnected => "Disconnected"

structure Node where
  host : String
  port : UInt16
  id : Option String := none
  role : Option Role := none
  /-- The id of the master that a replica copies. -/
  masterId : Option String := none
  flags : List Flag := []
  link : Option Link := none
  slots : SlotRange := .empty
  deriving DecidableEq

namespace Node

instance : Inhabited Node := ⟨⟨"", 0, none, none, none, [], none, .empty⟩⟩

/-- A descriptor that knows only the address. -/
def ofAddress (host : String) (port : UInt16) : Node := { host, port }

/-- The descriptor that an address text names. -/
def parse (address : String) : Except ClusterError Node :=
  match splitAddress? address.toList with
  | some (host, port) => .ok (ofAddress (String.ofList host) port)
  | none => .error (.cause .invalidAddress)

/-- The address of a node. -/
def address (n : Node) : String := addressText n.host n.port

/-- Marks a node as a replica of the master with the given id. -/
def replicaOf (n : Node) (masterId : String) : Node :=
  { n with role := some .replica, masterId := some masterId }

/-- The node owns its slots. -/
def isMaster (n : Node) : Bool := n.role == some .master

/-- The node copies a master. -/
def isReplica (n : Node) : Bool := n.role == some .replica

/-- The link was not reported as down. -/
def isConnected (n : Node) : Bool := n.link != some .disconnected

/-- The node was reported as failing or possibly failing. -/
def isFailing (n : Node) : Bool := n.flags.contains .fail || n.flags.contains .possibleFail

def isActive (n : Node) : Bool := n.isConnected && !n.isFailing

/-- The node lists the slot. -/
def serves (n : Node) (slot : Nat) : Bool := n.slots.contains slot

def sameAddress (a b : Node) : Bool := a.host == b.host && a.port == b.port

def isSameNode (a b : Node) : Bool :=
  match a.id, b.id with
  | some i, some j => i == j
  | _, _ => a.sameAddress b

theorem sameAddress_iff {a b : Node} : a.sameAddress b ↔ a.host = b.host ∧ a.port = b.port := by
  simp [sameAddress]

theorem sameAddress_refl (a : Node) : a.sameAddress a := by simp [sameAddress]

/-- The address names a node that the cluster does not know. -/
def unknown (n : Node) : ClusterError := .cause (.unknownNode n.address)

end Node

def addNode (nodes : List Node) (n : Node) : List Node :=
  if nodes.any (·.sameAddress n) then nodes else nodes ++ [n]

end SlotRouter
