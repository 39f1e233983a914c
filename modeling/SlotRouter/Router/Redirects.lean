import SlotRouter.Router.Discovery

/-!
# Following redirects

A node that does not serve a slot redirects the command. The router follows at most
`maxRedirects` redirects of one command.

* `Attempt`: what one node did with a command;
* `Router.tryOn`: the exchange on one node, after an `ASKING` if the last redirect asked for it;
* `Router.nodeAt`: the node that a redirect names, after one refresh if need be;
* `Router.heed`, `spend`: a redirect that is followed, and one after which none is left;
* `Router.follow`, `hold`: attempts until one is not redirected or no redirect is left.
-/

namespace SlotRouter

variable {σ α : Type}

inductive Attempt (α : Type)
  | done (value : α)
  | redirected (redirect : Redirect)

namespace Router

/-- Holds an exchange with one node. Errors other than redirects end the run. -/
def tryOn (r : Router σ) (x : Exchange α) (asking : Bool) (node : Node) :
    Run σ ClusterError (Attempt α) := do
  match ← exchangeWith r.network node (if asking then x.asking else x) with
  | .ok a => pure (.done a)
  | .error e =>
    match e.redirect? with
    | some redirect => pure (.redirected redirect)
    | none => .fail e.toClusterError

/-- The node that listens where a redirect points. If the topology does not know it, it is fetched
once more. -/
def nodeAt (r : Router σ) (redirect : Redirect) : Run σ ClusterError Node := do
  let t ← r.topology
  match t.lookupAddress redirect.host redirect.port with
  | .ok n => pure n
  | .error _ => do
    r.invalidate
    let t ← r.topology
    .ofExcept (t.lookupAddress redirect.host redirect.port)

/-- Notes a redirect that is followed. A slot that moved makes the snapshot stale. -/
def heed (r : Router σ) (node : Node) (redirect : Redirect) : Run σ ClusterError Unit := do
  Run.modify (·.record (.redirected node redirect true))
  if redirect.ask then pure () else r.invalidate

/-- No redirect is left. -/
def redirectsSpent (r : Router σ) (redirect : Redirect) : ClusterError :=
  .cause (.tooManyRedirects r.maxRedirects redirect.host redirect.port)

def spend (r : Router σ) (node : Node) (redirect : Redirect) : Run σ ClusterError α := do
  Run.modify (·.record (.redirected node redirect false))
  .fail (r.redirectsSpent redirect)

def follow (r : Router σ) (x : Exchange α) (left : Nat) (asking : Bool) (node : Node) :
    Run σ ClusterError α := do
  match ← r.tryOn x asking node with
  | .done a => pure a
  | .redirected redirect =>
    match left with
    | 0 => r.spend node redirect
    | left + 1 => do
      r.heed node redirect
      let target ← r.nodeAt redirect
      r.follow x left redirect.ask target

def hold (r : Router σ) (x : Exchange α) (node : Node) : Run σ ClusterError α :=
  r.follow x r.maxRedirects false node

end Router

end SlotRouter
