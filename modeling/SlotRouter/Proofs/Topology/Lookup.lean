import Mathlib.Data.List.Nodup
import SlotRouter.Topology

/-!
# Looking nodes up

* `nodes_nodup`, `eq_of_address` : no member is listed twice, and two members with one address are
  the same node;
* `lookupAddress_ok`, `lookupAddress_error`, `lookupAddress_of_mem` : looking up an address;
* `Topology.namesake`, `resolve_of_mem` : the node that a member is taken for.
-/

namespace SlotRouter

variable {t : Topology}

theorem nodes_nodup (t : Topology) : t.nodes.Nodup :=
  t.distinct.imp fun hne heq => hne (congrArg Node.address heq)

theorem eq_of_address {m n : Node} (hm : m ∈ t.nodes) (hn : n ∈ t.nodes)
    (h : m.address = n.address) : m = n := by
  have hnodup : (t.nodes.map Node.address).Nodup := List.pairwise_map.2 t.distinct
  exact List.inj_on_of_nodup_map hnodup hm hn h

theorem lookupAddress_ok {host : String} {port : UInt16} {n : Node}
    (h : t.lookupAddress host port = .ok n) : n ∈ t.nodes ∧ n.host = host ∧ n.port = port := by
  unfold Topology.lookupAddress at h
  cases hf : t.nodes.find? fun n => n.host == host && n.port == port with
  | none =>
    rw [hf] at h
    cases h
  | some m =>
    rw [hf] at h
    cases h
    have hm := List.find?_some hf
    simp only [Bool.and_eq_true, beq_iff_eq] at hm
    exact ⟨List.mem_of_find?_eq_some hf, hm⟩

theorem lookupAddress_error {host : String} {port : UInt16} {e : ClusterError}
    (h : t.lookupAddress host port = .error e) : e.kind = .clusterStateFailure := by
  unfold Topology.lookupAddress at h
  split at h <;> cases h
  rfl

theorem lookupAddress_of_mem {n : Node} (hn : n ∈ t.nodes) :
    t.lookupAddress n.host n.port = .ok n := by
  unfold Topology.lookupAddress
  cases hf : t.nodes.find? fun m => m.host == n.host && m.port == n.port with
  | none => simpa using List.find?_eq_none.1 hf n hn
  | some m =>
    have haddress := List.find?_some hf
    simp only [Bool.and_eq_true, beq_iff_eq] at haddress
    have hm := List.mem_of_find?_eq_some hf
    have heq : m.address = n.address := by rw [Node.address, haddress.1, haddress.2]; rfl
    obtain rfl := eq_of_address hm hn heq
    rfl

/-- The node that a member is taken for: the first one with its id, if it has one. -/
def Topology.namesake (t : Topology) (n : Node) : Node :=
  match n.id with
  | some id => (t.nodes.find? (·.id == some id)).getD n
  | none => n

theorem namesake_eq {n : Node} (h : ∀ m ∈ t.nodes, m.id = n.id → m = n) : t.namesake n = n := by
  unfold Topology.namesake
  cases hid : n.id with
  | none => rfl
  | some id =>
    dsimp only
    cases hf : t.nodes.find? (·.id == some id) with
    | none => rfl
    | some m =>
      have hm := List.find?_some hf
      exact h m (List.mem_of_find?_eq_some hf) ((beq_iff_eq.1 hm).trans hid.symm)

theorem resolve_of_mem {n : Node} (hn : n ∈ t.nodes) : t.resolve n = .ok (t.namesake n) := by
  unfold Topology.resolve Topology.lookup Topology.namesake
  cases hid : n.id with
  | none =>
    dsimp only
    rw [lookupAddress_of_mem hn]
  | some id =>
    dsimp only
    unfold Topology.lookupId
    cases hf : t.nodes.find? (·.id == some id) with
    | none => simpa [hid] using List.find?_eq_none.1 hf n hn
    | some m => rfl

end SlotRouter
