import SlotRouter.Proofs.Slot.Table
import SlotRouter.Topology

/-!
# Topologies that answer alike

What is reported about the state of a node, its flags and its link, tells whether the node is active
and nothing else.

* `Node.bare`, `Topology.bare` : a node, and a snapshot, without what was reported about states;
* `ofNodes_bare`, `masters_bare`, `masterForSlot_bare`, `lookup_bare` : what is left out first does
  not change what is found, and is then missing there;
* `Topology.SameAnswers` : two snapshots answer every question alike, states apart;
* `sameAnswers_of_bare`, `sameAnswers_ofNodes` : so do two snapshots of active nodes that are alike,
  states apart.
-/

namespace SlotRouter

/-- The node without its flags and its link state. -/
def Node.bare (n : Node) : Node := { n with flags := [], link := none }

theorem keepFirst_bare (nodes : List Node) :
    keepFirst (nodes.map Node.bare) = (keepFirst nodes).map Node.bare := by
  induction nodes with
  | nil => rfl
  | cons n rest ih =>
    rw [List.map_cons, keepFirst, ih, List.filter_map]
    rfl

theorem keepFirst_sublist (nodes : List Node) : (keepFirst nodes).Sublist nodes := by
  induction nodes with
  | nil => exact List.Sublist.slnil
  | cons n rest ih => exact (List.filter_sublist.trans ih).cons_cons n

namespace Topology

/-- The snapshot without flags and link states. -/
def bare (t : Topology) : Topology := ⟨t.nodes.map Node.bare, List.pairwise_map.2 t.distinct⟩

theorem ofNodes_bare (nodes : List Node) :
    (ofNodes nodes).bare = ofNodes (nodes.map Node.bare) := by
  simp only [bare, ofNodes, keepFirst_bare]

section Views

variable (t : Topology)

/-- A question about a node that does not depend on its state picks the same nodes. -/
theorem filter_bare {p : Node → Bool} (h : ∀ n : Node, p n.bare = p n) :
    t.bare.nodes.filter p = (t.nodes.filter p).map Node.bare := by
  have hp : p ∘ Node.bare = p := funext h
  rw [bare, List.filter_map, hp]

theorem find?_bare {p : Node → Bool} (h : ∀ n : Node, p n.bare = p n) :
    t.bare.nodes.find? p = (t.nodes.find? p).map Node.bare := by
  have hp : p ∘ Node.bare = p := funext h
  rw [bare, List.find?_map, hp]

theorem masters_bare : t.bare.masters = t.masters.map Node.bare :=
  t.filter_bare fun _ => rfl

theorem servingNodes_bare (slot : Nat) :
    t.bare.servingNodes slot = (t.servingNodes slot).map Node.bare :=
  t.filter_bare fun _ => rfl

theorem claims_bare : t.bare.claims = t.claims.map (Prod.map id Node.bare) := by
  unfold claims
  rw [masters_bare, List.flatMap_map, List.map_flatMap]
  simp only [List.map_map]
  rfl

theorem slotTable_bare :
    t.bare.slotTable.claims = t.slotTable.claims.map (Prod.map id Node.bare) := by
  unfold slotTable
  rw [claims_bare, SlotTable.ofClaims_map]

theorem masterForSlot_bare (slot : Nat) :
    t.bare.masterForSlot slot = (t.masterForSlot slot).map Node.bare :=
  SlotTable.owner?_map Node.bare t.slotTable_bare slot

theorem masterForKey_bare (key : Bytes) :
    t.bare.masterForKey key = (t.masterForKey key).map Node.bare := by
  unfold masterForKey
  rw [masterForSlot_bare]
  cases t.masterForSlot (keySlot key) <;> rfl

theorem slotCoverage_bare : t.bare.slotCoverage = t.slotCoverage :=
  SlotTable.coverage_map Node.bare t.slotTable_bare

theorem lookupAddress_bare (host : String) (port : UInt16) :
    t.bare.lookupAddress host port = (t.lookupAddress host port).map Node.bare := by
  unfold lookupAddress
  rw [t.find?_bare fun _ => rfl]
  cases t.nodes.find? fun n => n.host == host && n.port == port <;> rfl

theorem lookupId_bare (id : String) : t.bare.lookupId id = (t.lookupId id).map Node.bare := by
  unfold lookupId
  rw [t.find?_bare fun _ => rfl]
  cases t.nodes.find? (·.id == some id) <;> rfl

theorem lookup_bare (n : Node) : t.bare.lookup n = (t.lookup n).map Node.bare := by
  unfold lookup
  cases n.id with
  | none => exact t.lookupAddress_bare n.host n.port
  | some id =>
    dsimp only
    rw [lookupId_bare, lookupAddress_bare]
    cases t.lookupId id <;> rfl

theorem replicasOf_bare (master : Node) :
    t.bare.replicasOf master = (t.replicasOf master).map (List.map Node.bare) := by
  unfold replicasOf
  rw [lookup_bare]
  cases t.lookup master with
  | error e => rfl
  | ok found =>
    obtain ⟨host, port, id, role, masterId, flags, link, slots⟩ := found
    cases id with
    | none => rfl
    | some id => exact congrArg Except.ok (t.filter_bare fun _ => rfl)

end Views

/-- The two snapshots have the same nodes in the same order and give the same answers, but for flags
and link states of nodes. -/
structure SameAnswers (t u : Topology) : Prop where
  nodes : t.nodes.map Node.bare = u.nodes.map Node.bare
  activeNodes : t.activeNodes.map Node.bare = u.activeNodes.map Node.bare
  masters : t.masters.map Node.bare = u.masters.map Node.bare
  activeMasters : t.activeMasters.map Node.bare = u.activeMasters.map Node.bare
  replicasOf : ∀ n, (t.replicasOf n).map (List.map Node.bare) =
    (u.replicasOf n).map (List.map Node.bare)
  servingNodes : ∀ slot, (t.servingNodes slot).map Node.bare = (u.servingNodes slot).map Node.bare
  masterForSlot : ∀ slot, (t.masterForSlot slot).map Node.bare =
    (u.masterForSlot slot).map Node.bare
  masterForKey : ∀ key, (t.masterForKey key).map Node.bare = (u.masterForKey key).map Node.bare
  lookup : ∀ n, (t.lookup n).map Node.bare = (u.lookup n).map Node.bare
  lookupAddress : ∀ host port, (t.lookupAddress host port).map Node.bare =
    (u.lookupAddress host port).map Node.bare
  lookupId : ∀ id, (t.lookupId id).map Node.bare = (u.lookupId id).map Node.bare
  slotCoverage : t.slotCoverage = u.slotCoverage
  isFullyCovered : t.isFullyCovered = u.isFullyCovered

section Active

variable {t : Topology} (h : ∀ n ∈ t.nodes, n.isActive = true)

include h

theorem activeNodes_eq_nodes : t.activeNodes = t.nodes := List.filter_eq_self.2 h

theorem activeMasters_eq_masters : t.activeMasters = t.masters := by
  apply List.filter_congr
  intro n hn
  rw [h n hn, Bool.and_true]

end Active

/-- Two snapshots of active nodes that are alike but for flags and link states answer alike. -/
theorem sameAnswers_of_bare {t u : Topology} (h : t.bare = u.bare)
    (ht : ∀ n ∈ t.nodes, n.isActive = true) (hu : ∀ n ∈ u.nodes, n.isActive = true) :
    SameAnswers t u := by
  have hnodes : t.nodes.map Node.bare = u.nodes.map Node.bare := congrArg nodes h
  have hmasters : t.masters.map Node.bare = u.masters.map Node.bare := by
    rw [← masters_bare, ← masters_bare, h]
  have hcoverage : t.slotCoverage = u.slotCoverage := by
    rw [← slotCoverage_bare t, ← slotCoverage_bare u, h]
  exact
    { nodes := hnodes
      activeNodes := by rw [activeNodes_eq_nodes ht, activeNodes_eq_nodes hu, hnodes]
      masters := hmasters
      activeMasters := by rw [activeMasters_eq_masters ht, activeMasters_eq_masters hu, hmasters]
      replicasOf := fun n => by rw [← replicasOf_bare, ← replicasOf_bare, h]
      servingNodes := fun slot => by rw [← servingNodes_bare, ← servingNodes_bare, h]
      masterForSlot := fun slot => by rw [← masterForSlot_bare, ← masterForSlot_bare, h]
      masterForKey := fun key => by rw [← masterForKey_bare, ← masterForKey_bare, h]
      lookup := fun n => by rw [← lookup_bare, ← lookup_bare, h]
      lookupAddress := fun host port => by rw [← lookupAddress_bare, ← lookupAddress_bare, h]
      lookupId := fun id => by rw [← lookupId_bare, ← lookupId_bare, h]
      slotCoverage := hcoverage
      isFullyCovered := by rw [isFullyCovered, isFullyCovered, hcoverage] }

/-- The same from the lists of nodes that the snapshots are made of. -/
theorem sameAnswers_ofNodes {nodes others : List Node}
    (h : nodes.map Node.bare = others.map Node.bare) (hnodes : ∀ n ∈ nodes, n.isActive = true)
    (hothers : ∀ n ∈ others, n.isActive = true) : SameAnswers (ofNodes nodes) (ofNodes others) := by
  apply sameAnswers_of_bare
  · rw [ofNodes_bare, ofNodes_bare, h]
  · exact fun n hn => hnodes n ((keepFirst_sublist nodes).subset hn)
  · exact fun n hn => hothers n ((keepFirst_sublist others).subset hn)

end Topology

end SlotRouter
