import SlotRouter.Router.Execute

/-!
# Commands on keys

A key is served by the master of its slot. A command with several keys goes out as one command if
they share a slot. Otherwise `getMany`, `countExisting` and `delete` ask for each key alone, and
all other commands are refused.

* `get`, `set`, `getMany`, `countExisting`, `delete`, `rename`;
* `keysMatching`, `keysMatchingOn`, `randomKey`: keys of all masters or of one node;
* `StoreOp`, `store`: a set computed from sets and stored;
* `DifferenceOp`, `difference`: the members of the first set that are in no other.
-/

namespace SlotRouter

variable {σ α : Type}

/-- Refuses an empty list of keys. -/
def refuseNoKeys (keys : List Bytes) : Except ClusterError Unit :=
  if keys.isEmpty then .error (.cause .noKeys) else .ok ()

inductive StoreOp
  | sortedUnion
  | sortedIntersection
  | union
  | intersection
  deriving DecidableEq, Repr

/-- The name of the command. -/
def StoreOp.command : StoreOp → String
  | sortedUnion => "ZUNIONSTORE"
  | sortedIntersection => "ZINTERSTORE"
  | union => "SUNIONSTORE"
  | intersection => "SINTERSTORE"

/-- The number of keys stands before the keys. -/
def StoreOp.countsKeys : StoreOp → Bool
  | sortedUnion | sortedIntersection => true
  | union | intersection => false

inductive DifferenceOp
  | sorted
  | plain
  deriving DecidableEq, Repr

/-- The name of the command. -/
def DifferenceOp.command : DifferenceOp → String
  | sorted => "ZDIFF"
  | plain => "SDIFF"

/-- The number of keys stands before the keys. -/
def DifferenceOp.countsKeys : DifferenceOp → Bool
  | sorted => true
  | plain => false

/-- The number of keys as an argument, if it is wanted, and the keys. -/
def keyArgs (counted : Bool) (keys : List Bytes) : List Bytes :=
  if counted then Command.number keys.length :: keys else keys

namespace Router

def get (r : Router σ) (key : Bytes) (decode : Decoder α) : Run σ ClusterError α :=
  r.onKey (.query (.withArgs ["GET"] [key]) decode) key

def set (r : Router σ) (key : Bytes) (value : Argument) : Run σ ClusterError Unit :=
  r.onKey (.query (.withArgs ["SET"] (key :: value.args)) Decode.unit) key

/-- A count for each key. -/
def countEach (r : Router σ) (command : String) (keys : List Bytes) :
    Run σ ClusterError (MultiResult Nat) :=
  r.onEachKey (fun key => .query (.withArgs [command] [key]) Decode.count) keys

/-- How many of the keys exist. If they do not share a slot, keys whose master fails are left
out. -/
def countExisting (r : Router σ) (keys : List Bytes) : Run σ ClusterError Nat := do
  .ofExcept (refuseNoKeys keys)
  if SameSlot keys then r.onSlotOf (.query (.withArgs ["EXISTS"] keys) Decode.count) keys
  else
    let m ← r.countEach "EXISTS" keys
    let counts ← .ofExcept (m.tolerant "EXISTS")
    sumCounts counts

def delete (r : Router σ) (keys : List Bytes) : Run σ ClusterError Nat := do
  .ofExcept (refuseNoKeys keys)
  if SameSlot keys then r.onSlotOf (.query (.withArgs ["DEL"] keys) Decode.count) keys
  else
    let m ← r.countEach "DEL" keys
    let counts ← .ofExcept m.values
    sumCounts counts

def getMany (r : Router σ) (keys : List Bytes) (decode : Decoder α) :
    Run σ ClusterError (List α) := do
  .ofExcept (refuseNoKeys keys)
  if SameSlot keys then
    r.onSlotOf (.query (.withArgs ["MGET"] keys) (Decode.list decode)) keys
  else
    let m ← r.onEachKey (fun key => .query (.withArgs ["GET"] [key]) decode) keys
    .ofExcept m.inKeyOrder

/-- The command that lists keys. -/
def keysExchange (pattern : String) (decode : Decoder α) : Exchange (List α) :=
  .query (.ofWords ["KEYS", pattern]) (Decode.list decode)

/-- The keys of all masters that match a pattern. Masters that fail are left out. -/
def keysMatching (r : Router σ) (pattern : String) (decode : Decoder α) :
    Run σ ClusterError (List α) := do
  let m ← r.onMasters (keysExchange pattern decode)
  let lists ← .ofExcept (m.tolerant "KEYS")
  pure lists.flatten

def keysMatchingOn (r : Router σ) (node : Node) (pattern : String) (decode : Decoder α) :
    Run σ ClusterError (List α) :=
  r.askNode (keysExchange pattern decode) node

/-- Some key of the first master that has one. Masters that fail are left out. -/
def randomKey (r : Router σ) (decode : Decoder α) : Run σ ClusterError (Option α) := do
  let m ← r.onMasters (.query (.ofWords ["RANDOMKEY"]) (Decode.option decode))
  let found ← .ofExcept (m.tolerant "RANDOMKEY")
  pure (found.findSome? id)

def rename (r : Router σ) (key newKey : Bytes) : Run σ ClusterError Unit :=
  r.onSlotOf (.query (.withArgs ["RENAME"] [key, newKey]) Decode.unit) [key, newKey]

def store (r : Router σ) (op : StoreOp) (target : Bytes) (keys : List Bytes) :
    Run σ ClusterError Nat := do
  .ofExcept (refuseNoKeys keys)
  r.onSlotOf (.query (.withArgs [op.command] (target :: keyArgs op.countsKeys keys)) Decode.count)
    (target :: keys)

def difference (r : Router σ) (op : DifferenceOp) (keys : List Bytes) (decode : Decoder α) :
    Run σ ClusterError α :=
  r.onSlotOf (.query (.withArgs [op.command] (keyArgs op.countsKeys keys)) decode) keys

end Router

end SlotRouter
