import SlotRouter.Count
import SlotRouter.Router.FanOut

/-!
# Choosing the nodes of a command

* `Router.onNode`: one node, which the topology has to know;
* `onKey`, `onSlotOf`: the master of a key, or of the slot that all keys share;
* `onArbitrary`: the first active node that can be reached;
* `onMasters`, `onActive`, `onNodes`, `onEachKey`: a task for each node or key. The topology is
  looked at once, and all targets are found before the first task runs; `onNodesWith`: by any
  executor;
* `Router.askNode`, `askArbitrary`, `askMasters`: only the values;
* `commonSlot`: the slot that all keys share;
* `MultiResult.tolerant`, `sumCounts`: aggregates.
-/

namespace SlotRouter

variable {σ α : Type}

def commonSlot (keys : List Bytes) : Except ClusterError Nat :=
  match keys with
  | [] => .error (.cause .noCommonSlot)
  | key :: _ =>
    if SameSlot keys then .ok (keySlot key) else .error (.cause (.keysSpanSlots keys))

/-- Applies a function to each item until it fails. -/
def mapUntilError {α β ε : Type} (f : α → Except ε β) : List α → Except ε (List β)
  | [] => .ok []
  | a :: rest =>
    match f a with
    | .error e => .error e
    | .ok b => (mapUntilError f rest).map (b :: ·)

/-- The error leaves it open whether another node would answer. -/
def ClusterError.IsUnreachable (e : ClusterError) : Prop :=
  e.kind = .resourceFailure ∨ e.kind = .connectionFailure

instance : DecidablePred ClusterError.IsUnreachable := fun _ => inferInstanceAs (Decidable (_ ∨ _))

namespace Router

/-! ## One node -/

def onNode (r : Router σ) (x : Exchange α) (node : Node) : Run σ ClusterError (NodeResult α) := do
  let t ← r.topology
  let target ← .ofExcept (t.resolve node)
  let value ← r.hold x target
  pure ⟨target, none, .ok value⟩

def askNode (r : Router σ) (x : Exchange α) (node : Node) : Run σ ClusterError α := do
  let result ← r.onNode x node
  .ofExcept result.value

def onKey (r : Router σ) (x : Exchange α) (key : Bytes) : Run σ ClusterError α := do
  let t ← r.topology
  let master ← .ofExcept (t.masterForKey key)
  r.hold x master

def onSlotOf (r : Router σ) (x : Exchange α) (keys : List Bytes) : Run σ ClusterError α := do
  let slot ← .ofExcept (commonSlot keys)
  let t ← r.topology
  match t.masterForSlot slot with
  | some master => r.hold x master
  | none => .fail (.cause (.slotWithoutMaster slot))

/-- Holds an exchange with the first of the nodes that can be reached; `last` is the error of the
node before them. -/
def firstReachable (r : Router σ) (x : Exchange α) :
    ClusterError → List Node → Run σ ClusterError (NodeResult α)
  | last, [] => .fail last
  | _, n :: rest => do
    match ← (r.hold x n).attempt with
    | .ok a => pure ⟨n, none, .ok a⟩
    | .error e => if e.IsUnreachable then r.firstReachable x e rest else .fail e

def onArbitrary (r : Router σ) (x : Exchange α) : Run σ ClusterError (NodeResult α) := do
  let t ← r.topology
  r.firstReachable x (.cause .noActiveNode) t.activeNodes

def askArbitrary (r : Router σ) (x : Exchange α) : Run σ ClusterError α := do
  let result ← r.onArbitrary x
  .ofExcept result.value

/-! ## Several nodes -/

/-- The same exchange for each node. -/
def tasksFor (x : Exchange α) (nodes : List Node) : List (Task α) := nodes.map fun n => ⟨n, none, x⟩

def onMasters (r : Router σ) (x : Exchange α) : Run σ ClusterError (MultiResult α) := do
  let t ← r.topology
  r.fanOut (tasksFor x t.activeMasters)

def onActive (r : Router σ) (x : Exchange α) : Run σ ClusterError (MultiResult α) := do
  let t ← r.topology
  r.fanOut (tasksFor x t.activeNodes)

/-- The given nodes, by any executor. -/
def onNodesWith (r : Router σ) (run : Executor σ α) (x : Exchange α) (nodes : List Node) :
    Run σ ClusterError (MultiResult α) := do
  let t ← r.topology
  let targets ← .ofExcept (mapUntilError t.resolve nodes)
  r.fanOutWith run (tasksFor x targets)

def onNodes (r : Router σ) (x : Exchange α) (nodes : List Node) :
    Run σ ClusterError (MultiResult α) :=
  r.onNodesWith r.runTasks x nodes

/-- The task for a key at a position. -/
def taskForKey (t : Topology) (x : Bytes → Exchange α) (entry : Bytes × Nat) :
    Except ClusterError (Task α) :=
  (t.masterForKey entry.1).map fun master => ⟨master, some ⟨entry.2, entry.1⟩, x entry.1⟩

def onEachKey (r : Router σ) (x : Bytes → Exchange α) (keys : List Bytes) :
    Run σ ClusterError (MultiResult α) := do
  let t ← r.topology
  let tasks ← .ofExcept (mapUntilError (taskForKey t x) keys.zipIdx)
  r.fanOut tasks

def askMasters (r : Router σ) (x : Exchange α) : Run σ ClusterError (List α) := do
  let m ← r.onMasters x
  .ofExcept m.values

end Router

/-! ## Reading several results -/

/-- The values of the tasks that succeeded. If there were tasks and all failed, so does this. -/
def MultiResult.tolerant (m : MultiResult α) (description : String) :
    Except ClusterError (List α) :=
  if !m.isEmpty && m.results.all (!·.isOk) then
    .error (.nodeFailures .clusterStateFailure description
      (m.errors.map fun (node, e) => (node.address, e)))
  else .ok m.successes

/-- The sum of counts. Counts have 64 bits, and a sum that needs more ends the run: additions are
checked for overflow. Where they are not checked the sum would wrap instead. -/
def sumCounts {ε : Type} (counts : List Nat) : Run σ ε Nat :=
  if total counts < wordCount then pure (total counts) else .panic "attempt to add with overflow"

end SlotRouter
