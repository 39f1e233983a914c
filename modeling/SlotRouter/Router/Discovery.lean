import SlotRouter.Error.Classify
import SlotRouter.Network.Exchange
import SlotRouter.Router.Basic
import SlotRouter.Topology.Report

/-!
# Finding out the topology

* `topologyFrom`: the topology that one node reports; a redirect is no report and not followed;
* `nodesToAsk`: whom to ask: the active nodes of the last snapshot, then the seeds;
* `fetchFirst`: the topology of the first node that gives one, or why each did not;
* `consult`: the topology that someone else knows;
* `Router.snapshot`: the current snapshot, fetched if there is no fresh one;
* `Router.invalidate`: makes the snapshot stale. A stale snapshot is no longer served, but its
  nodes are still asked first.
-/

namespace SlotRouter

variable {σ : Type}

/-- The command that asks a node for its report. -/
def nodesCommand : Command := .ofWords ["CLUSTER", "NODES"]

/-- The topology of a report made by a node. A report without nodes is useless. -/
def topologyOfReport (node : Node) (text : String) : Except ClusterError Topology :=
  match readReport node.host text with
  | .error e => .error e
  | .ok [] => .error (.cause (.emptyReport node.address))
  | .ok nodes => .ok (.ofNodes nodes)

/-- Notes a redirect that is not followed. -/
def dismiss {ε : Type} (node : Node) (e : ClientError) : Run σ ε Unit :=
  match e.redirect? with
  | some redirect => .modify (·.record (.redirected node redirect false))
  | none => pure ()

def topologyFrom (net : Network σ) (node : Node) : Run σ ClusterError Topology := do
  match ← exchangeWith net node (.query nodesCommand Decode.string) with
  | .error e => do
    dismiss node e
    .fail e.toClusterError
  | .ok text => .ofExcept (topologyOfReport node text)

def nodesToAsk (seeds : List Node) (last : Option Snapshot) : List Node :=
  seeds.foldl addNode (last.elim [] (·.topology.activeNodes))

/-- The topology of the first node that gives one. The error lists why each node did not. -/
def fetchFirst (net : Network σ) : List Node → Run σ (List (String × ClusterError)) Topology
  | [] => .fail []
  | n :: rest => do
    match ← (topologyFrom net n).attempt with
    | .ok t => pure t
    | .error e => (fetchFirst net rest).mapError ((n.address, e) :: ·)

/-- No node gave a topology. -/
def retrievalFailure (failures : List (String × ClusterError)) : ClusterError :=
  .nodeFailures .clusterStateFailure "Could not retrieve cluster information" failures

/-- Fetches the topology and keeps it as the next snapshot. -/
def refresh (net : Network σ) (seeds : List Node) (caching : Caching) :
    Run σ ClusterError Snapshot := do
  let w ← Run.read
  let t ← (fetchFirst net (nodesToAsk seeds w.snapshot)).mapError retrievalFailure
  let s : Snapshot := ⟨t, w.snapshot.elim 0 (·.serial + 1), caching = .keep⟩
  Run.modify (·.adopt s)
  pure s

def consult (answer : List Event → Except (Stop ClusterError) Topology) :
    Run σ ClusterError Snapshot := fun w =>
  ((answer w.history).map (⟨·, w.looks, true⟩), w.record .looked)

namespace Router

def snapshot (r : Router σ) : Run σ ClusterError Snapshot :=
  match r.source with
  | .fixed t => pure ⟨t, 0, true⟩
  | .discovered seeds caching => do
    let w ← Run.read
    match w.served with
    | some s => pure s
    | none => refresh r.network seeds caching
  | .supplied answer => consult answer

/-- The current topology. -/
def topology (r : Router σ) : Run σ ClusterError Topology := do
  let s ← r.snapshot
  pure s.topology

/-- Makes the snapshot stale, so that the next look at the topology fetches it. A fixed topology
does not change. -/
def invalidate (r : Router σ) : Run σ ClusterError Unit :=
  match r.source with
  | .fixed _ => pure ()
  | .discovered _ _ | .supplied _ => .modify World.outdate

end Router

end SlotRouter
