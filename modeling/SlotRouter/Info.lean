import SlotRouter.Count
import SlotRouter.Properties
import SlotRouter.Reply.Decode
import SlotRouter.Text.Decimal
import SlotRouter.Text.Split

/-!
# The state of a node and of the cluster

Nodes describe themselves in lines `name:value`.

* `readInfo text`: the properties of such a text. Headers, blank lines and lines without a colon
  do not count;
* `ClusterInfo`: the state of the cluster, with a function for each number it reports;
* `ClusterInfo.decode`: reading it from a reply.
-/

namespace SlotRouter

/-- The name and the value of a trimmed line. -/
def readProperty (line : List Char) : Option (String × String) :=
  if line.head? = some '#' then none
  else (Text.cutFirst ':' line).map fun (name, value) => (String.ofList name, String.ofList value)

def readInfo (text : String) : Properties :=
  .ofList ((Text.trimmedLines text.toList).filterMap readProperty)

structure ClusterInfo where
  properties : Properties
  deriving DecidableEq, Repr

namespace ClusterInfo

/-- Reads the text of a report. -/
def parse (text : String) : ClusterInfo := ⟨readInfo text⟩

def decode : Decoder ClusterInfo := fun r => (Decode.borrowedString r).map parse

/-- The value of a property. -/
def get? (i : ClusterInfo) (name : String) : Option String := i.properties.get? name

/-- The value of a property that is a number. -/
def number? (i : ClusterInfo) (name : String) : Option Nat := do
  let value ← i.get? name
  Text.unsigned? wordCount value.toList

/-- The state of the cluster, `ok` or `fail`. -/
def state (i : ClusterInfo) : Option String := i.get? "cluster_state"

/-- The cluster reports that it is well. -/
def isOk (i : ClusterInfo) : Bool := i.state == some "ok"

/-- Slots that have an owner. -/
def slotsAssigned (i : ClusterInfo) : Option Nat := i.number? "cluster_slots_assigned"

/-- Slots whose owner is well. -/
def slotsOk (i : ClusterInfo) : Option Nat := i.number? "cluster_slots_ok"

/-- Slots whose owner is suspected to fail. -/
def slotsPossiblyFailing (i : ClusterInfo) : Option Nat := i.number? "cluster_slots_pfail"

/-- Slots whose owner fails. -/
def slotsFailing (i : ClusterInfo) : Option Nat := i.number? "cluster_slots_fail"

/-- Nodes that the reporting node knows. -/
def knownNodes (i : ClusterInfo) : Option Nat := i.number? "cluster_known_nodes"

/-- Masters that own slots. -/
def size (i : ClusterInfo) : Option Nat := i.number? "cluster_size"

/-- The epoch of the cluster. -/
def currentEpoch (i : ClusterInfo) : Option Nat := i.number? "cluster_current_epoch"

/-- Messages that the node sent on the cluster bus. -/
def messagesSent (i : ClusterInfo) : Option Nat := i.number? "cluster_stats_messages_sent"

/-- Messages that the node received on the cluster bus. -/
def messagesReceived (i : ClusterInfo) : Option Nat := i.number? "cluster_stats_messages_received"

end ClusterInfo

end SlotRouter
