import SlotRouter.Error.Kind
import SlotRouter.Slot.Range
import SlotRouter.Text.Utf8

/-!
# Causes of the router's own errors

* `Feature`: what a cluster does not offer;
* `Cause`: why the router gave up by itself, without an error of a connection;
* `Cause.kind`, `description`, `detail`: how each cause is reported. This is the only place where
  the texts stand.
-/

namespace SlotRouter

inductive Feature
  | multi
  | exec
  | discard
  | watch
  | unwatch
  | pipeline
  | setClientName
  | getClientName
  | replicaOf
  | shutdownWithOptions
  deriving DecidableEq, Repr

/-- The text of a refused feature. -/
def Feature.text : Feature → String
  | multi => "MULTI is currently not supported in cluster mode"
  | exec => "EXEC is currently not supported in cluster mode"
  | discard => "DISCARD is currently not supported in cluster mode"
  | watch => "WATCH is currently not supported in cluster mode"
  | unwatch => "UNWATCH is currently not supported in cluster mode"
  | pipeline => "Pipeline is currently not supported in cluster mode"
  | setClientName => "CLIENT SETNAME is not supported in cluster mode"
  | getClientName => "CLIENT GETNAME is not supported in cluster mode"
  | replicaOf => "REPLICAOF is not supported in cluster mode, use CLUSTER REPLICATE"
  | shutdownWithOptions => "SHUTDOWN with options is currently not supported in cluster mode"

/-- Why the router gave up by itself. Addresses are written `host:port`. -/
inductive Cause
  /-- A text is not `host:port`. -/
  | invalidAddress
  /-- Bounds do not name slots. -/
  | slotBounds (rejection : SlotRange.Rejection)
  /-- A slot number is too large. -/
  | invalidSlot (slot : Nat)
  /-- A command on slots was given none. -/
  | noSlots
  /-- A command on keys of one slot was given none. -/
  | noCommonSlot
  /-- A command on keys was given none. -/
  | noKeys
  /-- Keys of one command map to different slots. -/
  | keysSpanSlots (keys : List Bytes)
  /-- The database index is not zero. -/
  | databaseIndex (index : Int)
  /-- The cluster does not offer the feature. -/
  | unsupported (feature : Feature)
  /-- A command on several nodes was started where waiting is not allowed. -/
  | insideRuntime
  /-- The node is not part of the cluster. -/
  | unknownNode (address : String)
  /-- No node of the snapshot listens there. -/
  | noNodeAt (host : String) (port : UInt16)
  /-- No node of the snapshot has the id. -/
  | noNodeWithId (id : String)
  /-- The id of a node is not known. -/
  | unknownId (address : String)
  /-- No master serves the slot of the key. -/
  | keyWithoutMaster (slot : Nat) (key : Bytes)
  /-- No master serves the slot. -/
  | slotWithoutMaster (slot : Nat)
  /-- There is no active node. -/
  | noActiveNode
  /-- There is no active master. -/
  | noActiveMaster
  /-- A line of a cluster report is malformed. -/
  | malformedNodeLine (line : String)
  /-- A cluster report of the node lists no node that can be reached. -/
  | emptyReport (address : String)
  /-- The command was still redirected after the allowed number of redirects. -/
  | tooManyRedirects (limit : Nat) (host : String) (port : UInt16)
  /-- A task of a fan-out panicked. -/
  | taskPanicked (report : String)
  /-- A fan-out took longer than the limit, given in milliseconds as text. -/
  | timedOut (limit : String)
  /-- A master could not be shut down. -/
  | shutdownFailed (kind : ErrorKind) (address message : String)
  /-- A pool has no connection to give. -/
  | poolExhausted (reason : String)
  /-- A client was given no seed. -/
  | noSeed
  /-- Seeds disagree on the password. -/
  | passwordsDiffer
  /-- Seeds disagree on the username. -/
  | usernamesDiffer
  /-- A seed is not a plain TCP address. -/
  | notTcp (address : String)
  /-- An error that a caller described. -/
  | described (kind : ErrorKind) (description : String) (detail : Option String)
  deriving DecidableEq

namespace Cause

def kind : Cause → ErrorKind
  | invalidAddress => .illegalArgument
  | slotBounds _ => .illegalArgument
  | invalidSlot _ => .illegalArgument
  | noSlots => .invalidUsage
  | noCommonSlot => .invalidUsage
  | noKeys => .invalidUsage
  | keysSpanSlots _ => .invalidUsage
  | databaseIndex _ => .unsupported
  | unsupported _ => .unsupported
  | insideRuntime => .invalidUsage
  | unknownNode _ => .illegalArgument
  | noNodeAt _ _ => .clusterStateFailure
  | noNodeWithId _ => .clusterStateFailure
  | unknownId _ => .clusterStateFailure
  | keyWithoutMaster _ _ => .clusterStateFailure
  | slotWithoutMaster _ => .clusterStateFailure
  | noActiveNode => .clusterStateFailure
  | noActiveMaster => .clusterStateFailure
  | malformedNodeLine _ => .unexpectedResponse
  | emptyReport _ => .unexpectedResponse
  | tooManyRedirects _ _ _ => .tooManyRedirects
  | taskPanicked _ => .executionFailure
  | timedOut _ => .commandTimeout
  | shutdownFailed kind _ _ => kind
  | poolExhausted _ => .resourceFailure
  | noSeed => .illegalArgument
  | passwordsDiffer => .illegalArgument
  | usernamesDiffer => .illegalArgument
  | notTcp _ => .illegalArgument
  | described kind _ _ => kind

def description : Cause → String
  | invalidAddress => "Invalid node string"
  | slotBounds .startAfterEnd => "Slot start cannot be greater than slot end"
  | slotBounds (.outOfRange _) => "Slot out of range"
  | invalidSlot _ => "Invalid slot"
  | noSlots => "Slots must not be empty"
  | noCommonSlot => "At least one key is required"
  | noKeys => "Keys must not be empty"
  | keysSpanSlots _ => "All keys must map to the same slot in cluster mode"
  | databaseIndex _ => "Cannot SELECT non zero index in cluster mode"
  | unsupported feature => feature.text
  | insideRuntime => "Multi node commands cannot be run from within an async runtime"
  | unknownNode _ => "Node is unknown to cluster"
  | noNodeAt _ _ => "Could not find node"
  | noNodeWithId _ => "Could not find node"
  | unknownId _ => "Node id is unknown"
  | keyWithoutMaster _ _ => "Could not find master node serving slot"
  | slotWithoutMaster _ => "Could not find master node serving slot"
  | noActiveNode => "Cluster has no active node"
  | noActiveMaster => "Cluster has no active master"
  | malformedNodeLine _ => "Invalid CLUSTER NODES line"
  | emptyReport _ => "CLUSTER NODES did not list any reachable node"
  | tooManyRedirects _ _ _ => "Too many cluster redirects"
  | taskPanicked _ => "Command task failed"
  | timedOut _ => "Multi node command timed out"
  | shutdownFailed _ _ _ => "SHUTDOWN failed"
  | poolExhausted _ => "Could not get a resource from the pool"
  | noSeed => "At least one initial node is required"
  | passwordsDiffer => "Initial nodes disagree on the password"
  | usernamesDiffer => "Initial nodes disagree on the username"
  | notTcp _ => "Initial nodes must be TCP addresses"
  | described _ description _ => description

/-- The text of a key, with U+FFFD for what is not UTF-8. -/
def keyText (key : Bytes) : String := String.ofList (Text.Utf8.decodeLossy key)

def detail : Cause → Option String
  | slotBounds (.outOfRange last) => some (toString last ++ " is not in 0.." ++ toString slotCount)
  | invalidSlot slot =>
    some (toString slot ++ " is not within 0-" ++ toString (slotCount - 1))
  | keysSpanSlots keys => some (Text.join ", " (keys.map keyText))
  | databaseIndex index => some (toString index)
  | unknownNode address => some address
  | noNodeAt host port => some ("no node at " ++ host ++ ":" ++ toString port)
  | noNodeWithId id => some ("no node with id " ++ id)
  | unknownId address => some address
  | keyWithoutMaster slot key => some ("slot " ++ toString slot ++ " for key " ++ keyText key)
  | slotWithoutMaster slot => some (toString slot)
  | malformedNodeLine line => some line
  | emptyReport address => some address
  | tooManyRedirects limit host port =>
    some ("gave up after " ++ toString limit ++ " redirects, last one to " ++ host ++ ":" ++
      toString port)
  | taskPanicked report => some report
  | timedOut limit => some ("no complete result within Some(" ++ limit ++ ")")
  | shutdownFailed _ address message => some (address ++ ": " ++ message)
  | poolExhausted reason => some reason
  | notTcp address => some address
  | described _ _ detail => detail
  | slotBounds .startAfterEnd => none
  | invalidAddress | noSlots | noCommonSlot | noKeys | unsupported _ | insideRuntime
  | noActiveNode | noActiveMaster | noSeed | passwordsDiffer | usernamesDiffer => none

end Cause

end SlotRouter
