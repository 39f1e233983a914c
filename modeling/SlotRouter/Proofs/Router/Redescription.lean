import SlotRouter.Network.Leases
import SlotRouter.Proofs.Router.SlotMasters
import SlotRouter.Proofs.Topology.Descriptors
import SlotRouter.Router.Operation

/-!
# How a node is described does not matter

* `Router.Alike` : two descriptors mean one node in every topology that the router finds;
* `Redescribed` : two calls that differ only in how their nodes are described;
* `Redescribed.run_eq` : such calls have the same runs, since every call asks the topology for the
  node that its argument means and goes on with that one;
* `redescribed_call` : the same for a topology that does not change;
* `Aliases` : one node by its address and by its id.
-/

namespace SlotRouter

variable {σ α : Type} {r : Router σ}

/-! ## Looks at the topology -/

/-- Whatever topology is found, the descriptors are the same or mean the same node there. -/
def Router.Alike (r : Router σ) (a b : Node) : Prop :=
  ∀ w t v, r.topology w = (.ok t, v) → t.Alike a b

theorem alike_of_fixed {t : Topology} (hfixed : r.source = .fixed t) {a b : Node}
    (h : t.Alike a b) : r.Alike a b := by
  intro w t' v hw
  rw [topology_of_fixed hfixed] at hw
  cases hw
  exact h

/-- What follows a look at the topology matters only for topologies that are found. -/
theorem topology_bind_congr {f g : Topology → Run σ ClusterError α}
    (h : ∀ w t v, r.topology w = (.ok t, v) → f t = g t) :
    (r.topology >>= f) = r.topology >>= g := by
  funext w
  rcases hw : r.topology w with ⟨s | t, v⟩
  · rw [Run.bind_of_error hw, Run.bind_of_error hw]
  · rw [Run.bind_of_ok hw, Run.bind_of_ok hw, h w t v hw]

theorem onNode_eq (x : Exchange α) {a b : Node} (h : r.Alike a b) :
    r.onNode x a = r.onNode x b := by
  refine topology_bind_congr fun w t v hw => ?_
  rw [(h w t v hw).resolve_eq]

theorem askNode_eq (x : Exchange α) {a b : Node} (h : r.Alike a b) :
    r.askNode x a = r.askNode x b := by
  rw [Router.askNode, Router.askNode, onNode_eq x h]

theorem changeSlots_eq (change : SlotChange) (slots : List Nat) {a b : Node} (h : r.Alike a b) :
    r.changeSlots change a slots = r.changeSlots change b slots := by
  rw [Router.changeSlots, Router.changeSlots, askNode_eq _ h]

/-! ## Calls -/

/-- The states differ only in how the other node is described. -/
inductive SlotState.Redescribed (same : Node → Node → Prop) : SlotState → SlotState → Prop
  | importing {a b} : same a b → Redescribed same (.importing a) (.importing b)
  | migrating {a b} : same a b → Redescribed same (.migrating a) (.migrating b)
  | owned {a b} : same a b → Redescribed same (.owned a) (.owned b)
  | stable : Redescribed same .stable .stable

section State

variable {same : Node → Node → Prop} {s s' : SlotState}

theorem SlotState.Redescribed.word_eq (h : s.Redescribed same s') : s.word = s'.word := by
  cases h <;> rfl

theorem SlotState.Redescribed.otherId_eq {t : Topology} (hsame : ∀ a b, same a b → t.Alike a b)
    (h : s.Redescribed same s') : s.otherId t = s'.otherId t := by
  cases h with
  | stable => rfl
  | importing hab => exact congrArg (Except.map some) (hsame _ _ hab).idOf_eq
  | migrating hab => exact congrArg (Except.map some) (hsame _ _ hab).idOf_eq
  | owned hab => exact congrArg (Except.map some) (hsame _ _ hab).idOf_eq

end State

/-- The calls that take a node of the cluster, with two descriptions of each node. -/
inductive Redescribed (same : Node → Node → Prop) : {α : Type} → Operation α → Operation α → Prop
  | onNode {α : Type} (x : Exchange α) {a b} :
      same a b → Redescribed same (.onNode x a) (.onNode x b)
  | askNode {α : Type} (x : Exchange α) {a b} :
      same a b → Redescribed same (.askNode x a) (.askNode x b)
  | replicas {a b} : same a b → Redescribed same (.replicas a) (.replicas b)
  | changeSlots (change slots) {a b} : same a b →
      Redescribed same (.changeSlots change a slots) (.changeSlots change b slots)
  | changeSlotRange (change range) {a b} : same a b →
      Redescribed same (.changeSlotRange change a range) (.changeSlotRange change b range)
  | forget {a b} : same a b → Redescribed same (.forget a) (.forget b)
  | replicate {a b c d} : same a b → same c d →
      Redescribed same (.replicate a c) (.replicate b d)
  | setSlot (slot) {a b s s'} : same a b → SlotState.Redescribed same s s' →
      Redescribed same (.setSlot a slot s) (.setSlot b slot s')

theorem replicas_eq {a b : Node} (h : r.Alike a b) : r.replicas a = r.replicas b := by
  refine topology_bind_congr fun w t v hw => ?_
  rw [(h w t v hw).resolve_eq]

theorem forget_eq {a b : Node} (h : r.Alike a b) : r.forget a = r.forget b := by
  refine topology_bind_congr fun w t v hw => ?_
  rw [(h w t v hw).resolve_eq]

theorem replicate_eq {a b c d : Node} (hmaster : r.Alike a b) (hreplica : r.Alike c d) :
    r.replicate a c = r.replicate b d := by
  refine topology_bind_congr fun w t v hw => ?_
  rw [(hmaster w t v hw).idOf_eq]
  exact congrArg _ (funext fun id => askNode_eq _ hreplica)

section Same

variable {same : Node → Node → Prop} (hsame : ∀ a b, same a b → r.Alike a b)

include hsame

theorem setSlot_eq (slot : Nat) {a b : Node} {s s' : SlotState} (h : same a b)
    (hstate : s.Redescribed same s') : r.setSlot a slot s = r.setSlot b slot s' := by
  refine congrArg _ (funext fun _ => topology_bind_congr fun w t v hw => ?_)
  rw [hstate.otherId_eq fun a b hab => hsame a b hab w t v hw, hstate.word_eq]
  exact congrArg _ (funext fun id => askNode_eq _ (hsame a b h))

theorem Redescribed.run_eq {op op' : Operation α} (h : Redescribed same op op') :
    op.run r = op'.run r := by
  cases h with
  | onNode x hab => exact onNode_eq x (hsame _ _ hab)
  | askNode x hab => exact askNode_eq x (hsame _ _ hab)
  | replicas hab => exact replicas_eq (hsame _ _ hab)
  | changeSlots change slots hab => exact changeSlots_eq change slots (hsame _ _ hab)
  | changeSlotRange change range hab => exact changeSlots_eq change range.slots (hsame _ _ hab)
  | forget hab => exact forget_eq (hsame _ _ hab)
  | replicate hab hcd => exact replicate_eq (hsame _ _ hab) (hsame _ _ hcd)
  | setSlot slot hab hstate => exact setSlot_eq hsame slot hab hstate

end Same

/-! ## A topology that does not change -/

/-- Two calls that describe the same nodes of a fixed topology in different ways end alike and leave
the same world: the nodes received the same commands on the same leases. -/
theorem redescribed_call {t : Topology} (hfixed : r.source = .fixed t) {op op' : Operation α}
    (h : Redescribed t.Alike op op') (w : World σ) : op.run r w = op'.run r w :=
  congrFun (h.run_eq fun _ _ => alike_of_fixed hfixed) w

namespace Aliases

def master : Node where
  host := "10.0.0.1"
  port := 7000
  id := some "a"
  role := some .master

def replica : Node where
  host := "10.0.0.2"
  port := 7001
  id := some "b"
  role := some .replica
  masterId := some "a"

def topology : Topology := .ofNodes [master, replica]

/-- No more than the address. -/
def byAddress : Node where
  host := "10.0.0.1"
  port := 7000

/-- The address is one where nobody listens any more. -/
def byId : Node where
  host := "10.0.0.9"
  port := 7009
  id := some "b"

def router : Router Unit where
  source := .fixed topology
  network := ⟨fun _ => .ok (), fun _ _ _ => (.reply (.ok .okay), ())⟩

def start : World Unit := { nodes := () }

theorem alike_master : topology.Alike byAddress master := .inr ⟨master, by rfl, by rfl⟩

theorem alike_replica : topology.Alike byId replica := .inr ⟨replica, by rfl, by rfl⟩

end Aliases

theorem redescribed_call_aliases :
    (Operation.replicate Aliases.byAddress Aliases.byId).run Aliases.router Aliases.start =
      (Operation.replicate Aliases.master Aliases.replica).run Aliases.router Aliases.start ∧
    receipts ((Operation.replicate Aliases.byAddress Aliases.byId).run Aliases.router
      Aliases.start).2.events =
      [(Aliases.replica, .ofWords ["CLUSTER", "REPLICATE", "a"])] := by
  refine ⟨?_, by decide +kernel⟩
  exact redescribed_call rfl (.replicate Aliases.alike_master Aliases.alike_replica) Aliases.start

end SlotRouter
