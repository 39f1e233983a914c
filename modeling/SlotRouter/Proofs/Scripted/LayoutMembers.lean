import SlotRouter.Proofs.Scripted.LayoutReport
import SlotRouter.Proofs.Topology.Descriptors
import SlotRouter.Proofs.Topology.FirstNodes

/-!
# The members of a layout

If no port stands twice in a layout, its topology keeps every node.

* `idOfPort_inj` : ports have different ids;
* `Shard.master`, `Shard.members`, `layoutTopology_eq` : the nodes of a layout, in their order;
* `DistinctPorts` : no port stands twice; then the nodes of the topology are the members
  (`layout_nodes`), no id stands twice (`layout_distinctIds`), and only one shard has a port as its
  primary (`filter_primary`);
* `layout_masters`, `layout_replicasOf` : the views of such a topology.
-/

namespace SlotRouter

namespace Scripted

/-! ## Ids -/

theorem ofDigitChars_zeros (k : Nat) : Nat.ofDigitChars 10 (List.replicate k '0') 0 = 0 := by
  induction k with
  | zero => rfl
  | succ k ih => exact ih

/-- The digits of an id are those of its port, after zeros. -/
theorem ofDigitChars_idOfPort (port : UInt16) :
    Nat.ofDigitChars 10 (idOfPort port).toList 0 = port.toNat := by
  rw [toList_idOfPort, Nat.ofDigitChars_append, ofDigitChars_zeros,
    Nat.ofDigitChars_toDigits (by decide) (by decide)]

theorem idOfPort_inj {p q : UInt16} : idOfPort p = idOfPort q ↔ p = q := by
  constructor
  · intro h
    have hvalue := ofDigitChars_idOfPort p
    rw [h, ofDigitChars_idOfPort] at hvalue
    exact (UInt16.toNat_inj.1 hvalue).symm
  · rintro rfl
    rfl

/-! ## Nodes -/

/-- The slots of a shard; none if they are no range. -/
def Shard.slots (s : Shard) : SlotRange := (SlotRange.ofBounds s.first s.last).toOption.getD .empty

def Shard.master (s : Shard) : Node := masterNode s.primary s.slots

/-- The master and its replicas. -/
def Shard.members (s : Shard) : List Node := s.master :: s.replicas.map (replicaNode s.primary)

/-- The ports of the master and its replicas. -/
def Shard.ports (s : Shard) : List UInt16 := s.primary :: s.replicas

/-- No port stands twice. -/
def DistinctPorts (layout : Layout) : Prop := (layout.flatMap Shard.ports).Nodup

instance (layout : Layout) : Decidable (DistinctPorts layout) :=
  inferInstanceAs (Decidable (List.Nodup _))

theorem Shard.Valid.nodes_eq {s : Shard} (h : s.Valid) : s.nodes = .ok s.members := by
  obtain ⟨nodes, hnodes, -⟩ := Shard.nodes_shown h
  unfold Shard.nodes at hnodes ⊢
  cases hslots : SlotRange.ofBounds s.first s.last with
  | error rejection =>
    rw [hslots] at hnodes
    cases hnodes
  | ok slots =>
    have hshard : s.slots = slots := by
      rw [Shard.slots, hslots]
      rfl
    rw [Shard.members, Shard.master, hshard]
    rfl

theorem mapM_nodes {layout : Layout} (h : ∀ s ∈ layout, s.Valid) :
    layout.mapM Shard.nodes = .ok (layout.map Shard.members) := by
  induction layout with
  | nil => rfl
  | cons s rest ih =>
    obtain ⟨hs, hrest⟩ := List.forall_mem_cons.1 h
    rw [List.mapM_cons, hs.nodes_eq, ih hrest]
    rfl

theorem layoutTopology_eq {layout : Layout} (h : ∀ s ∈ layout, s.Valid) :
    layoutTopology layout = .ok (Topology.ofNodes (layout.flatMap Shard.members)) := by
  rw [layoutTopology, mapM_nodes h, List.flatMap_def]

theorem Shard.map_port_members (s : Shard) : s.members.map (·.port) = s.ports := by
  rw [Shard.members, List.map_cons, List.map_map]
  exact congrArg _ (List.map_id _)

theorem map_port_members (layout : Layout) :
    (layout.flatMap Shard.members).map (·.port) = layout.flatMap Shard.ports := by
  rw [List.map_flatMap]
  exact congrArg (layout.flatMap ·) (funext Shard.map_port_members)

theorem id_of_member {layout : Layout} {n : Node} (h : n ∈ layout.flatMap Shard.members) :
    n.id = some (idOfPort n.port) := by
  obtain ⟨s, -, hn⟩ := List.mem_flatMap.1 h
  rcases List.mem_cons.1 hn with rfl | hn
  · rfl
  · obtain ⟨port, -, rfl⟩ := List.mem_map.1 hn
    rfl

/-! ## Distinct ports -/

section Distinct

variable {layout : Layout} (h : DistinctPorts layout)

include h

theorem distinctAddresses_members : DistinctAddresses (layout.flatMap Shard.members) := by
  have hports : ((layout.flatMap Shard.members).map (·.port)).Nodup := by
    rw [map_port_members]
    exact h
  exact (List.pairwise_map.1 hports).imp fun hne heq => hne (addressText_inj.1 heq).2

/-- No node of the layout is dropped. -/
theorem layout_nodes :
    (Topology.ofNodes (layout.flatMap Shard.members)).nodes = layout.flatMap Shard.members :=
  keepFirst_of_distinct (distinctAddresses_members h)

theorem layout_distinctIds : (Topology.ofNodes (layout.flatMap Shard.members)).DistinctIds := by
  intro a ha b hb id hid hid'
  rw [layout_nodes h] at ha hb
  have hports : ((layout.flatMap Shard.members).map (·.port)).Nodup := by
    rw [map_port_members]
    exact h
  have hids : some (idOfPort a.port) = some (idOfPort b.port) := by
    rw [← id_of_member ha, ← id_of_member hb, hid, hid']
  exact List.inj_on_of_nodup_map hports ha hb (idOfPort_inj.1 (Option.some.inj hids))

/-- Only one shard has this primary. -/
theorem filter_primary {s : Shard} (hs : s ∈ layout) :
    layout.filter (·.primary == s.primary) = [s] := by
  have hdisjoint : layout.Pairwise (·.primary ≠ ·.primary) := by
    refine (List.nodup_flatMap.1 h).2.imp fun hpair heq => ?_
    exact hpair List.mem_cons_self (heq ▸ List.mem_cons_self)
  clear h
  induction hdisjoint with
  | nil => cases hs
  | @cons first rest hfirst _ ih =>
    rcases List.mem_cons.1 hs with rfl | hs
    · have hnone : rest.filter (·.primary == s.primary) = [] :=
        List.filter_eq_nil_iff.2 fun other hother heq => hfirst other hother (beq_iff_eq.1 heq).symm
      rw [List.filter_cons, if_pos (beq_self_eq_true s.primary), hnone]
    · have hne : ¬ (first.primary == s.primary) = true := fun heq => hfirst s hs (beq_iff_eq.1 heq)
      rw [List.filter_cons, if_neg hne, ih hs]

end Distinct

/-! ## Views -/

theorem Shard.filter_isMaster (s : Shard) : s.members.filter (·.isMaster) = [s.master] := by
  have hreplicas : (s.replicas.map (replicaNode s.primary)).filter (·.isMaster) = [] :=
    List.filter_eq_nil_iff.2 (by simp [replicaNode, Node.replicaOf, Node.isMaster])
  rw [Shard.members, List.filter_cons_of_pos rfl, hreplicas]

/-- The replicas of a port among the members of a shard. -/
theorem Shard.filter_replicas (s : Shard) (port : UInt16) :
    s.members.filter (fun n => n.isReplica && n.masterId == some (idOfPort port)) =
      if s.primary == port then s.replicas.map (replicaNode s.primary) else [] := by
  have hsame : ∀ n ∈ s.replicas.map (replicaNode s.primary),
      (n.isReplica && n.masterId == some (idOfPort port)) = (s.primary == port) := by
    intro n hn
    obtain ⟨other, -, rfl⟩ := List.mem_map.1 hn
    show (some (idOfPort s.primary) == some (idOfPort port)) = (s.primary == port)
    rw [Option.some_beq_some, beq_eq_decide, beq_eq_decide]
    exact decide_eq_decide.2 idOfPort_inj
  rw [Shard.members, List.filter_cons_of_neg (by simp [Shard.master, masterNode, Node.isReplica,
    Node.ofAddress]), List.filter_congr hsame]
  split
  · next hport => simp [hport]
  · next hport => simp [hport]

theorem filter_replicas (layout : Layout) (port : UInt16) :
    (layout.flatMap Shard.members).filter
        (fun n => n.isReplica && n.masterId == some (idOfPort port)) =
      (layout.filter (·.primary == port)).flatMap fun s =>
        s.replicas.map (replicaNode s.primary) := by
  induction layout with
  | nil => rfl
  | cons s rest ih =>
    rw [List.flatMap_cons, List.filter_append, ih, s.filter_replicas, List.filter_cons]
    split <;> rfl

section Views

variable {layout : Layout} (h : DistinctPorts layout)

include h

theorem layout_masters :
    (Topology.ofNodes (layout.flatMap Shard.members)).masters = layout.map Shard.master := by
  rw [Topology.masters, layout_nodes h, List.filter_flatMap, List.map_eq_flatMap]
  exact congrArg (layout.flatMap ·) (funext Shard.filter_isMaster)

theorem master_mem {s : Shard} (hs : s ∈ layout) :
    s.master ∈ (Topology.ofNodes (layout.flatMap Shard.members)).nodes := by
  rw [layout_nodes h]
  exact List.mem_flatMap.2 ⟨s, hs, List.mem_cons_self⟩

/-- The replicas that a topology knows of a master are those of its shard. -/
theorem layout_replicasOf {s : Shard} (hs : s ∈ layout) :
    (Topology.ofNodes (layout.flatMap Shard.members)).replicasOf s.master =
      .ok (s.replicas.map (replicaNode s.primary)) := by
  have hlookup : (Topology.ofNodes (layout.flatMap Shard.members)).lookup s.master = .ok s.master :=
    Topology.lookup_of_resolve ((layout_distinctIds h).resolve_eq (master_mem h hs))
  have hreplicas := filter_replicas layout s.primary
  rw [filter_primary h hs, List.flatMap_singleton] at hreplicas
  rw [Topology.replicasOf, hlookup]
  dsimp only
  rw [layout_nodes h]
  exact congrArg Except.ok hreplicas

/-- Nothing is reported about them that would make them inactive. -/
theorem layout_activeMasters :
    (Topology.ofNodes (layout.flatMap Shard.members)).activeMasters = layout.map Shard.master := by
  rw [Topology.activeMasters_eq_masters, layout_masters h]
  intro n hn
  rw [layout_nodes h] at hn
  obtain ⟨s, -, hn⟩ := List.mem_flatMap.1 hn
  rcases List.mem_cons.1 hn with rfl | hn
  · rfl
  · obtain ⟨port, -, rfl⟩ := List.mem_map.1 hn
    rfl

end Views

end Scripted

end SlotRouter
