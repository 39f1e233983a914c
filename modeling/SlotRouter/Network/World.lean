import SlotRouter.Command
import SlotRouter.Reply
import SlotRouter.Topology

/-!
# What the router works against

* `Answer`: how a node answers a command: with a reply or an error of the connection, by tearing
  down the task that asked, or not at all;
* `Network σ`: which nodes give connections, and how they answer, for nodes with state `σ`;
* `Event`: a lease was taken, a command arrived, a lease was given back, a redirect was answered,
  the snapshot changed, or someone else was asked;
* `Snapshot`: the last topology that was fetched, and whether it may still be served;
* `World σ`: the nodes, the snapshot and everything that happened so far;
* `World.served`, `adopt`, `outdate`: what may be served of the snapshot, and how it changes.
-/

namespace SlotRouter

inductive Answer
  | reply (result : Except ClientError Reply)
  /-- The task that asked is torn down with a text. -/
  | panic (text : String)
  /-- There is no answer before the caller stops waiting. -/
  | hang

structure Network (σ : Type) where
  /-- Whether a connection to a node can be had. -/
  connect : Node → Except ClusterError Unit
  /-- The answer of a node to a command, and the nodes afterwards. -/
  answer : σ → Node → Command → Answer × σ

inductive Event
  /-- A connection to a node was leased. -/
  | acquired (node : Node) (lease : Nat)
  /-- A node received a command. -/
  | received (node : Node) (command : Command)
  /-- A leased connection was given back. -/
  | released (node : Node) (lease : Nat)
  /-- A node answered with a redirect, which is followed or not. -/
  | redirected (node : Node) (redirect : Redirect) (followed : Bool)
  /-- A fetched topology became the snapshot. -/
  | refreshed (serial : Nat)
  /-- The snapshot became stale. -/
  | invalidated
  /-- Someone else was asked for the topology. -/
  | looked
  deriving DecidableEq

namespace Event

/-- The node and the number of a lease that was taken. -/
def acquired? : Event → Option (Node × Nat)
  | acquired node lease => some (node, lease)
  | _ => none

/-- The node and the number of a lease that was given back. -/
def released? : Event → Option (Node × Nat)
  | released node lease => some (node, lease)
  | _ => none

/-- The node and the command that it received. -/
def received? : Event → Option (Node × Command)
  | received node command => some (node, command)
  | _ => none

end Event

structure Snapshot where
  topology : Topology
  /-- Which fetch brought it. -/
  serial : Nat
  /-- It may be served without asking again. -/
  fresh : Bool

/-- The same snapshot, no longer served. -/
def Snapshot.stale (s : Snapshot) : Snapshot := { s with fresh := false }

structure World (σ : Type) where
  nodes : σ
  snapshot : Option Snapshot := none
  /-- All events, the latest first. -/
  history : List Event := []

namespace World

variable {σ : Type}

/-- Adds an event. -/
def record (w : World σ) (e : Event) : World σ := { w with history := e :: w.history }

/-- All events in the order in which they happened. -/
def events (w : World σ) : List Event := w.history.reverse

/-- The number that the next lease gets: leases are counted from zero. -/
def nextLease (w : World σ) : Nat := (w.history.filterMap Event.acquired?).length

/-- How often someone else was asked for the topology. -/
def looks (w : World σ) : Nat := w.history.count .looked

def served (w : World σ) : Option Snapshot := w.snapshot.filter (·.fresh)

def adopt (w : World σ) (s : Snapshot) : World σ :=
  { w.record (.refreshed s.serial) with snapshot := some s }

def outdate (w : World σ) : World σ :=
  { w.record .invalidated with snapshot := w.snapshot.map Snapshot.stale }

end World

end SlotRouter
