import SlotRouter.Count
import SlotRouter.Info
import SlotRouter.Router.Execute

/-!
# Commands on servers

Most exist twice: for all active masters, and with the ending `On` for one node.

* `ping`, `databaseSize`, `lastSave`: one value from all masters;
* `info`, `configuration`: properties, under the address of their node if there are several;
* `configure`, `Maintenance`, `maintain`: commands without an answer, which fail if one master
  fails;
* `Timestamp`, `time`: the clock of a node;
* `shutdown`: a node that goes down breaks the connection, so that is no failure.
-/

namespace SlotRouter

variable {σ : Type}

structure Timestamp where
  seconds : Nat
  nanoseconds : Nat
  deriving DecidableEq, Repr

/-- The time of a number of seconds and of microseconds. The seconds have 64 bits, and a time that
needs more ends the run. -/
def timestampOf {ε : Type} (clock : Nat × Nat) : Run σ ε Timestamp :=
  let seconds := clock.1 + clock.2 / 1000000
  if seconds < wordCount then pure ⟨seconds, clock.2 % 1000000 * 1000⟩
  else .panic "overflow when adding durations"

/-- The properties with the address of their node before each name. -/
def qualified (r : NodeResult Properties) : Except ClusterError (List (String × String)) :=
  r.value.map fun p =>
    p.entries.map fun (name, value) => (r.node.address ++ "." ++ name, value)

/-- The properties of all nodes in one map, or the first failure. -/
def qualifiedAll (m : MultiResult Properties) : Except ClusterError Properties :=
  (mapUntilError qualified m.results).map fun entries => Properties.ofList entries.flatten

inductive Maintenance
  | resetStatistics
  | flushAll
  | flushDatabase
  | saveInBackground
  | rewriteLogInBackground
  | save
  deriving DecidableEq, Repr

/-- The words of a maintenance command. -/
def Maintenance.words : Maintenance → List String
  | resetStatistics => ["CONFIG", "RESETSTAT"]
  | flushAll => ["FLUSHALL"]
  | flushDatabase => ["FLUSHDB"]
  | saveInBackground => ["BGSAVE"]
  | rewriteLogInBackground => ["BGREWRITEAOF"]
  | save => ["SAVE"]

/-- The exchange of a maintenance command. -/
def Maintenance.exchange (m : Maintenance) : Exchange Unit := .query (.ofWords m.words) Decode.unit

/-- The exchange that asks for the state of a server, or for one section of it. -/
def infoExchange (extra : Option String) : Exchange Properties :=
  (Exchange.query (.ofWords ("INFO" :: extra.toList)) Decode.string).map readInfo

/-- The exchange that asks for the parameters that match a pattern. -/
def configurationExchange (pattern : String) : Exchange Properties :=
  .query (.ofWords ["CONFIG", "GET", pattern]) Decode.properties

/-- The exchange that sets a parameter. -/
def configureExchange (parameter : String) (value : Argument) : Exchange Unit :=
  .query (.withArgs ["CONFIG", "SET", parameter] value.args) Decode.unit

/-- Reads the clock: two numbers. A map without entries has no first value to look at, and that
tears the task down. -/
def clockOf (r : Reply) : Exchange (Nat × Nat) :=
  match r.inner with
  | .map [] => .collapse "index out of bounds: the len is 0 but the index is 0"
  | _ => .finish (Decode.pair Decode.count Decode.count r)

/-- The exchange that asks for the clock. -/
def timeExchange : Exchange (Nat × Nat) :=
  (Exchange.query (.ofWords ["TIME"]) Decode.value).andThen clockOf

/-- The exchange that ends a server. -/
def shutdownExchange : Exchange Unit := .query (.ofWords ["SHUTDOWN"]) Decode.unit

/-- The first failure that is not a broken connection. -/
def shutdownFailure? (m : MultiResult Unit) : Option ClusterError :=
  (m.errors.find? fun (_, e) => ¬e.IsConnectionFailure).map fun (node, e) =>
    .cause (.shutdownFailed e.kind node.address e.message)

namespace Router

/-! ## One value -/

def ping (r : Router σ) : Run σ ClusterError String := do
  match ← r.askMasters (.query (.ofWords ["PING"]) Decode.string) with
  | answer :: _ => pure answer
  | [] => .fail (.cause .noActiveMaster)

/-- Pings a node. -/
def pingOn (r : Router σ) (node : Node) : Run σ ClusterError String :=
  r.askNode (.query (.ofWords ["PING"]) Decode.string) node

/-- The number of keys of all masters. Masters that fail are left out. -/
def databaseSize (r : Router σ) : Run σ ClusterError Nat := do
  let m ← r.onMasters (.query (.ofWords ["DBSIZE"]) Decode.count)
  let counts ← .ofExcept (m.tolerant "DBSIZE")
  sumCounts counts

/-- The number of keys of a node. -/
def databaseSizeOn (r : Router σ) (node : Node) : Run σ ClusterError Nat :=
  r.askNode (.query (.ofWords ["DBSIZE"]) Decode.count) node

def lastSave (r : Router σ) : Run σ ClusterError Nat := do
  let saves ← r.askMasters (.query (.ofWords ["LASTSAVE"]) Decode.count)
  pure (saves.max?.getD 0)

/-- The time of the last save of a node. -/
def lastSaveOn (r : Router σ) (node : Node) : Run σ ClusterError Nat :=
  r.askNode (.query (.ofWords ["LASTSAVE"]) Decode.count) node

def time (r : Router σ) : Run σ ClusterError Timestamp := do
  let clock ← r.askArbitrary timeExchange
  timestampOf clock

/-- The clock of a node. -/
def timeOn (r : Router σ) (node : Node) : Run σ ClusterError Timestamp := do
  let clock ← r.askNode timeExchange node
  timestampOf clock

/-! ## Properties -/

def info (r : Router σ) (extra : Option String) : Run σ ClusterError Properties := do
  let m ← r.onMasters (infoExchange extra)
  .ofExcept (qualifiedAll m)

/-- The state of a node. -/
def infoOn (r : Router σ) (node : Node) : Run σ ClusterError Properties :=
  r.askNode (infoExchange none) node

def configuration (r : Router σ) (pattern : String) : Run σ ClusterError Properties := do
  let m ← r.onMasters (configurationExchange pattern)
  .ofExcept (qualifiedAll m)

/-- The parameters of a node that match a pattern. -/
def configurationOn (r : Router σ) (node : Node) (pattern : String) :
    Run σ ClusterError Properties :=
  r.askNode (configurationExchange pattern) node

/-! ## Commands without an answer -/

/-- Holds an exchange without an answer with all masters. -/
def onEveryMaster (r : Router σ) (x : Exchange Unit) : Run σ ClusterError Unit := do
  let _ ← r.askMasters x
  pure ()

def configure (r : Router σ) (parameter : String) (value : Argument) : Run σ ClusterError Unit :=
  r.onEveryMaster (configureExchange parameter value)

/-- Sets a parameter on a node. -/
def configureOn (r : Router σ) (node : Node) (parameter : String) (value : Argument) :
    Run σ ClusterError Unit :=
  r.askNode (configureExchange parameter value) node

def maintain (r : Router σ) (m : Maintenance) : Run σ ClusterError Unit :=
  r.onEveryMaster m.exchange

/-- Runs a maintenance command on a node. -/
def maintainOn (r : Router σ) (node : Node) (m : Maintenance) : Run σ ClusterError Unit :=
  r.askNode m.exchange node

def shutdown (r : Router σ) : Run σ ClusterError Unit := do
  let m ← r.onMasters shutdownExchange
  match shutdownFailure? m with
  | some e => .fail e
  | none => pure ()

/-- Shuts a node down. -/
def shutdownOn (r : Router σ) (node : Node) : Run σ ClusterError Unit := do
  match ← (r.askNode shutdownExchange node).attempt with
  | .ok () => pure ()
  | .error e => if e.IsConnectionFailure then pure () else .fail e

end Router

end SlotRouter
