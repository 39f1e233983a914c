import SlotRouter.Network.Run

/-!
# Clusters described by ports

A layout lists the masters of a cluster on one host, each with its replicas and its slots.

* `Shard`: a master with its replicas and slots;
* `threeMasters`, `threeMastersWithReplicas`: the usual layouts;
* `nodesReport`, `replicasReply`: what the nodes of a layout report;
* `layoutTopology`: the same cluster without asking a node;
* `movedTo`, `askAt`, `refused`: errors that nodes answer with.
-/

namespace SlotRouter.Scripted

structure Shard where
  primary : UInt16
  replicas : List UInt16
  first : Nat
  last : Nat
  deriving DecidableEq, Repr

/-- The masters of a cluster. -/
abbrev Layout := List Shard

/-- The host of every node. -/
def host : String := "127.0.0.1"

def threeMasters : Layout :=
  [⟨7000, [], 0, 5460⟩, ⟨7001, [], 5461, 10922⟩, ⟨7002, [], 10923, 16383⟩]

def threeMastersWithReplicas : Layout :=
  [⟨7000, [7003], 0, 5460⟩, ⟨7001, [7004], 5461, 10922⟩, ⟨7002, [7005], 10923, 16383⟩]

/-- The id of the node on a port: the port, padded with zeros to 40 digits. -/
def idOfPort (port : UInt16) : String :=
  let digits := Nat.toDigits 10 port.toNat
  String.ofList (List.replicate (40 - digits.length) '0' ++ digits)

/-- Id and address columns of the node on a port. -/
def leadColumns (port : UInt16) : String :=
  idOfPort port ++ " " ++ host ++ ":" ++ toString port ++ "@" ++ toString (port.toNat + 10000)

/-- The line of the master of a shard. -/
def Shard.masterRow (s : Shard) : String :=
  leadColumns s.primary ++ " master - 0 0 1 connected " ++ toString s.first ++ "-" ++
    toString s.last

/-- The line of a replica on a port. -/
def replicaRow (master port : UInt16) : String :=
  leadColumns port ++ " slave " ++ idOfPort master ++ " 0 0 1 connected"

/-- The lines of a shard. -/
def Shard.lines (s : Shard) : List String := s.masterRow :: s.replicas.map (replicaRow s.primary)

def nodesReport (layout : Layout) : String := Text.join "\n" (layout.flatMap Shard.lines) ++ "\n"

def replicasReply (layout : Layout) (master : UInt16) : Reply :=
  .array ((layout.filter (·.primary == master)).flatMap fun s =>
    s.replicas.map fun port => .bulk (bytesOf (replicaRow master port)))

/-- The replica on a port. -/
def replicaNode (master port : UInt16) : Node :=
  { Node.ofAddress host port with id := some (idOfPort port) }.replicaOf (idOfPort master)

/-- The nodes of a shard. -/
def Shard.nodes (s : Shard) : Except ClusterError (List Node) :=
  match SlotRange.ofBounds s.first s.last with
  | .error rejection => .error (.cause (.slotBounds rejection))
  | .ok slots =>
    let master : Node :=
      { Node.ofAddress host s.primary with
        id := some (idOfPort s.primary), role := some .master, slots }
    .ok (master :: s.replicas.map (replicaNode s.primary))

/-- The topology of a layout. A shard whose slots are no range tears the task down. -/
def layoutTopology (layout : Layout) : Except (Stop ClusterError) Topology :=
  match layout.mapM Shard.nodes with
  | .ok nodes => .ok (Topology.ofNodes nodes.flatten)
  | .error e => .error (.panicked ("valid mock slot range: " ++ e.message))

/-- The detail of a redirect to a port. -/
def redirectDetail (slot : Nat) (port : UInt16) : String :=
  toString slot ++ " " ++ host ++ ":" ++ toString port

def movedTo (slot : Nat) (port : UInt16) : ClientError :=
  .described .moved ErrorReply.signalled (some (redirectDetail slot port))

def askAt (slot : Nat) (port : UInt16) : ClientError :=
  .described .ask ErrorReply.signalled (some (redirectDetail slot port))

def refused : ClientError := .ofIo .connectionRefused

end SlotRouter.Scripted
