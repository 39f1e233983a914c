import Mathlib.Data.List.FinRange
import SlotRouter.Proofs.Topology.Candidates
import SlotRouter.Proofs.Topology.Lookup

/-!
# Which nodes a snapshot keeps

Nodes are dropped by the text of their address, and found by host and port.

* `FirstAt`, `firstNodes` : the positions where a host and port stands for the first time, and the
  nodes there, in order; these are kept (`keepFirst_eq_firstNodes`);
* `keepFirst_of_distinct` : nothing is dropped from nodes of different addresses;
* `find?_keepFirst`, `exists_keepFirst` : a question about addresses is answered by the first node,
  whether the later ones were dropped or not;
* `addressAnswer`, `lookupAddress_ofNodes` : so is looking up an address;
* `FirstsOf`, `snapshot_firsts` : what a snapshot keeps of any list of nodes.
-/

namespace SlotRouter

variable {nodes : List Node} {n : Node}

/-! ## Positions -/

/-- No earlier node has the host and port of the node at the position. -/
def FirstAt (nodes : List Node) (i : Fin nodes.length) : Prop :=
  ∀ j < i, ¬ nodes[j].sameAddress nodes[i]

instance (nodes : List Node) : DecidablePred (FirstAt nodes) := fun i =>
  inferInstanceAs (Decidable (∀ j < i, ¬ nodes[j].sameAddress nodes[i]))

/-- The first node of every host and port, in order. -/
def firstNodes (nodes : List Node) : List Node :=
  ((List.finRange nodes.length).filter (FirstAt nodes ·)).map nodes.get

theorem firstAt_zero (n : Node) (rest : List Node) : FirstAt (n :: rest) 0 :=
  fun j hj => absurd hj (Nat.not_lt_zero j)

theorem firstAt_succ (n : Node) {rest : List Node} (i : Fin rest.length) :
    FirstAt (n :: rest) i.succ ↔ FirstAt rest i ∧ rest[i].address ≠ n.address := by
  have hhead : rest[i].address ≠ n.address ↔ ¬ n.sameAddress rest[i] := by
    rw [← address_eq_iff, ne_comm]
  rw [hhead]
  constructor
  · intro h
    exact ⟨fun j hj => h j.succ (Fin.succ_lt_succ_iff.2 hj), h 0 i.succ_pos⟩
  · rintro ⟨hrest, hn⟩ j hj
    cases j using Fin.cases with
    | zero => exact hn
    | succ j => exact hrest j (Fin.succ_lt_succ_iff.1 hj)

theorem firstNodes_cons (n : Node) (rest : List Node) :
    firstNodes (n :: rest) = n :: (firstNodes rest).filter (·.address ≠ n.address) := by
  have hpositions : List.finRange (n :: rest).length =
      0 :: (List.finRange rest.length).map Fin.succ := List.finRange_succ
  have hzero : decide (FirstAt (n :: rest) 0) = true := decide_eq_true (firstAt_zero n rest)
  have hlater : ∀ i : Fin rest.length, decide (FirstAt (n :: rest) i.succ) =
      (decide (rest[i].address ≠ n.address) && decide (FirstAt rest i)) := by
    intro i
    rw [← Bool.decide_and]
    exact decide_eq_decide.2 ((firstAt_succ n i).trans and_comm)
  unfold firstNodes
  rw [hpositions, List.filter_cons, if_pos hzero, List.map_cons, List.filter_map, List.map_map,
    List.filter_map, List.filter_filter]
  exact congrArg (fun p => n :: ((List.finRange rest.length).filter p).map rest.get)
    (funext hlater)

theorem keepFirst_eq_firstNodes (nodes : List Node) : keepFirst nodes = firstNodes nodes := by
  induction nodes with
  | nil => rfl
  | cons n rest ih => rw [keepFirst, ih, firstNodes_cons]

/-- Nothing is dropped from nodes that have different addresses. -/
theorem keepFirst_of_distinct (h : DistinctAddresses nodes) : keepFirst nodes = nodes := by
  induction nodes with
  | nil => rfl
  | cons n rest ih =>
    obtain ⟨hn, hrest⟩ := List.pairwise_cons.1 h
    have hothers : rest.filter (·.address ≠ n.address) = rest :=
      List.filter_eq_self.2 fun m hm => decide_eq_true (hn m hm).symm
    rw [keepFirst, ih hrest, hothers]

/-! ## Questions about addresses -/

/-- What is asked about addresses alone is answered by a first node. -/
theorem find?_keepFirst {p : Node → Bool} (hp : ∀ a b : Node, a.address = b.address → p a = p b)
    (nodes : List Node) : (keepFirst nodes).find? p = nodes.find? p := by
  induction nodes with
  | nil => rfl
  | cons n rest ih =>
    rw [keepFirst, List.find?_cons, List.find?_cons]
    cases hn : p n with
    | true => rfl
    | false =>
      -- a node that fits has another address than `n`, so it was not dropped for it
      have hkept : ∀ m : Node,
          decide (decide (m.address ≠ n.address) = true ∧ p m = true) = p m := by
        intro m
        by_cases haddress : m.address = n.address
        · simp [hp m n haddress, hn]
        · simp [haddress]
      dsimp only
      rw [List.find?_filter, ← ih]
      exact congrArg (List.find? · _) (funext hkept)

/-- Of every address some node is kept. -/
theorem exists_keepFirst (h : n ∈ nodes) : ∃ m ∈ keepFirst nodes, m.address = n.address := by
  have hfind := find?_keepFirst (p := (·.address == n.address)) (fun a b hab => by rw [hab]) nodes
  cases hm : nodes.find? (·.address == n.address) with
  | none => exact absurd (beq_self_eq_true n.address) (List.find?_eq_none.1 hm n h)
  | some m =>
    rw [hm] at hfind
    have haddress := List.find?_some hm
    exact ⟨m, List.mem_of_find?_eq_some hfind, beq_iff_eq.1 haddress⟩

namespace Topology

/-- What is found, or that nothing is, as an answer. -/
def addressAnswer (host : String) (port : UInt16) : Option Node → Except ClusterError Node
  | some n => .ok n
  | none => .error (.cause (.noNodeAt host port))

/-- The node at an address is the first one of the list that has it. -/
theorem lookupAddress_ofNodes (nodes : List Node) (host : String) (port : UInt16) :
    (ofNodes nodes).lookupAddress host port =
      addressAnswer host port (nodes.find? fun n => n.host == host && n.port == port) := by
  have hask : ∀ a b : Node, a.address = b.address →
      (a.host == host && a.port == port) = (b.host == host && b.port == port) := by
    intro a b hab
    obtain ⟨hhost, hport⟩ := Node.sameAddress_iff.1 (address_eq_iff.1 hab)
    rw [hhost, hport]
  exact congrArg (addressAnswer host port) (find?_keepFirst hask nodes)

theorem lookupAddress_ofNodes_error_iff {host : String} {port : UInt16} :
    (∃ e, (ofNodes nodes).lookupAddress host port = .error e) ↔
      ∀ n ∈ nodes, ¬ (n.host = host ∧ n.port = port) := by
  have hnone : (nodes.find? fun n => n.host == host && n.port == port) = none ↔
      ∀ n ∈ nodes, ¬ (n.host = host ∧ n.port = port) := by
    simp only [List.find?_eq_none, Bool.and_eq_true, beq_iff_eq]
  rw [← hnone, lookupAddress_ofNodes]
  cases nodes.find? fun n => n.host == host && n.port == port with
  | none => exact iff_of_true ⟨_, rfl⟩ rfl
  | some n => exact iff_of_false (by rintro ⟨e, ⟨⟩⟩) (Option.some_ne_none n)

/-! ## Snapshots -/

/-- The snapshot has the first node of every host and port that stands in the list. -/
structure FirstsOf (nodes : List Node) (t : Topology) : Prop where
  /-- In order, and no others. -/
  nodes_eq : t.nodes = firstNodes nodes
  /-- Those are kept too where nodes are added one by one and compared by host and port. -/
  added : nodes.foldl addNode [] = t.nodes
  /-- No host and port stands in the snapshot twice. -/
  apart : t.nodes.Pairwise fun a b => ¬ a.sameAddress b
  /-- A snapshot of its nodes has the same nodes. -/
  again : ofNodes t.nodes = t
  found : ∀ n ∈ t.nodes, t.lookupAddress n.host n.port = .ok n
  refused_iff : ∀ host port, (∃ e, t.lookupAddress host port = .error e) ↔
    ∀ n ∈ nodes, ¬ (n.host = host ∧ n.port = port)

/-- Texts of addresses tell nodes apart exactly as hosts and ports do, and a snapshot has one node
for each of them. -/
theorem snapshot_firsts : (∀ a b : Node, a.address = b.address ↔ a.sameAddress b) ∧
    ∀ nodes, FirstsOf nodes (ofNodes nodes) := by
  refine ⟨fun a b => address_eq_iff, fun nodes => ?_⟩
  have hdistinct : DistinctAddresses (keepFirst nodes) := keepFirst_distinct nodes
  exact {
    nodes_eq := keepFirst_eq_firstNodes nodes
    added := by rw [foldl_addNode, newNodes_nil, List.nil_append]; rfl
    apart := hdistinct.imp fun hne hsame => hne (address_eq_iff.2 hsame)
    again := by simp only [ofNodes, keepFirst_of_distinct hdistinct]
    found := fun n hn => lookupAddress_of_mem hn
    refused_iff := fun host port => lookupAddress_ofNodes_error_iff }

/-! A host with a colon in it, and a host and port that differ from it in no other character. -/

namespace Lookalikes

def first : Node := { Node.ofAddress "h:1" 2 with id := some "a1" }

def listed : List Node :=
  [.ofAddress "h" 12, first, { Node.ofAddress "h:1" 2 with id := some "b2" }]

end Lookalikes

theorem snapshot_firsts_lookalikes : Lookalikes.first ∈ (ofNodes Lookalikes.listed).nodes ∧
    (ofNodes Lookalikes.listed).lookupAddress "h:1" 2 = .ok Lookalikes.first := by
  have hfirst : Lookalikes.first ∈ (ofNodes Lookalikes.listed).nodes := by decide +kernel
  exact ⟨hfirst, (snapshot_firsts.2 Lookalikes.listed).found Lookalikes.first hfirst⟩

end Topology

end SlotRouter
