import SlotRouter.Network.Run

/-!
# The router

A `Router` sends commands to the nodes of a cluster that it reaches through a `Network`.

* `Source`: where it takes the topology from: a fixed one, what the nodes report, or what someone
  else knows;
* `Caching`: whether a reported topology is served again before it is invalidated;
* `Router`: the source, the network and the limits.
-/

namespace SlotRouter

inductive Caching
  /-- Until it is invalidated. -/
  | keep
  /-- Every look at the topology fetches it. -/
  | never
  deriving DecidableEq, Repr

inductive Source
  /-- It is known and never changes. -/
  | fixed (topology : Topology)
  /-- Nodes are asked for it, the seeds if no other node is known. -/
  | discovered (seeds : List Node) (caching : Caching)
  /-- Someone else is asked for it, whose answer may depend on all events, the latest first. -/
  | supplied (answer : List Event → Except (Stop ClusterError) Topology)

structure Router (σ : Type) where
  source : Source
  network : Network σ
  /-- How many redirects are followed for one command. -/
  maxRedirects : Nat := 5
  /-- How long a command on several nodes may take, in milliseconds. -/
  commandTimeout : Option Nat := none
  /-- Calls come from where waiting for several nodes is not allowed. -/
  insideRuntime : Bool := false

end SlotRouter
