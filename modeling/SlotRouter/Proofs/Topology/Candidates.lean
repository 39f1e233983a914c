import SlotRouter.Router.Discovery

/-!
# Whom to ask for the topology

* `address_eq_iff` : an address text names one host and port, although hosts may hold colons;
* `foldl_addNode` : adding nodes one by one keeps the first node of every new address;
* `nodesToAsk_eq` : the active nodes of the last snapshot, then the seeds that are not among them;
* `nodesToAsk_distinct` : no address stands among them twice.
-/

namespace SlotRouter

/-! ## Addresses -/

theorem toList_addressText (host : String) (port : UInt16) :
    (addressText host port).toList = host.toList ++ ':' :: Nat.toDigits 10 port.toNat := by
  have hport : (toString port).toList = Nat.toDigits 10 port.toNat := Nat.toList_repr
  unfold addressText
  rw [String.toList_append, String.toList_append, hport]
  simp

/-- Read from its end, an address gives the port before the first colon and the host after it. -/
theorem cutFirst_addressText (host : String) (port : UInt16) :
    Text.cutFirst ':' (addressText host port).toList.reverse =
      some ((Nat.toDigits 10 port.toNat).reverse, host.toList.reverse) := by
  have hchars : (addressText host port).toList.reverse =
      (Nat.toDigits 10 port.toNat).reverse ++ ':' :: host.toList.reverse := by
    rw [toList_addressText]
    simp
  rw [hchars]
  apply Text.cutFirst_append
  rw [List.mem_reverse]
  exact Text.notMem_toDigits rfl port.toNat

theorem addressText_inj {h h' : String} {p p' : UInt16} :
    addressText h p = addressText h' p' ↔ h = h' ∧ p = p' := by
  constructor
  · intro heq
    have hcut := cutFirst_addressText h p
    rw [heq, cutFirst_addressText, Option.some.injEq, Prod.mk.injEq, List.reverse_inj,
      List.reverse_inj] at hcut
    have hport : some p' = some p := by
      rw [← port?_toDigits p', hcut.1, port?_toDigits]
    exact ⟨(String.toList_inj.1 hcut.2).symm, (Option.some.inj hport).symm⟩
  · rintro ⟨rfl, rfl⟩
    rfl

theorem address_eq_iff {a b : Node} : a.address = b.address ↔ a.sameAddress b := by
  rw [Node.sameAddress_iff]
  exact addressText_inj

/-! ## Nodes of new addresses -/

/-- The first nodes of the addresses that the known nodes do not have. -/
def newNodes (known nodes : List Node) : List Node :=
  (keepFirst nodes).filter fun n => known.all (·.address ≠ n.address)

theorem newNodes_nil (nodes : List Node) : newNodes [] nodes = keepFirst nodes :=
  List.filter_eq_self.2 fun _ _ => rfl

theorem addNode_eq (known : List Node) (n : Node) :
    addNode known n = if known.all (·.address ≠ n.address) then known ++ [n] else known := by
  have hall : known.all (·.address ≠ n.address) = !known.any (·.sameAddress n) := by
    rw [List.not_any_eq_all_not]
    congr 1
    funext m
    have := @address_eq_iff m n
    by_cases h : m.sameAddress n <;> simp_all
  unfold addNode
  rw [hall]
  cases known.any (·.sameAddress n) <;> rfl

/-- A node of a new address comes first, and the nodes after it must differ from it too. -/
theorem newNodes_cons (known : List Node) (n : Node) (rest : List Node) :
    newNodes known (n :: rest) =
      if known.all (·.address ≠ n.address) then n :: newNodes (known ++ [n]) rest
      else newNodes known rest := by
  have hboth : ∀ m : Node, (known ++ [n]).all (·.address ≠ m.address) =
      (known.all (·.address ≠ m.address) && decide (m.address ≠ n.address)) := by
    intro m
    rw [List.all_append, List.all_cons, List.all_nil, Bool.and_true]
    congr 1
    exact decide_eq_decide.2 ne_comm
  have hlater : (keepFirst rest).filter
        (fun m => known.all (·.address ≠ m.address) && decide (m.address ≠ n.address)) =
      newNodes (known ++ [n]) rest := by
    unfold newNodes
    congr 1
    funext m
    exact (hboth m).symm
  unfold newNodes at hlater ⊢
  rw [keepFirst, List.filter_cons, List.filter_filter, hlater]
  split
  · rfl
  · next hknown =>
    -- some known node has the address of `n`, so differing from the known ones is enough
    congr 1
    funext m
    rw [hboth m]
    cases hm : known.all (·.address ≠ m.address) with
    | false => rfl
    | true =>
      have hne : m.address ≠ n.address := by
        intro heq
        rw [heq] at hm
        exact hknown hm
      simp [hne]

theorem foldl_addNode (known nodes : List Node) :
    nodes.foldl addNode known = known ++ newNodes known nodes := by
  induction nodes generalizing known with
  | nil => exact (List.append_nil known).symm
  | cons n rest ih =>
    rw [List.foldl_cons, addNode_eq, newNodes_cons]
    split
    · rw [ih, List.append_assoc]
      rfl
    · exact ih known

theorem newNodes_distinct {known : List Node} (h : DistinctAddresses known) (nodes : List Node) :
    DistinctAddresses (known ++ newNodes known nodes) := by
  refine List.pairwise_append.2 ⟨h, (keepFirst_distinct nodes).filter _, ?_⟩
  intro m hm n hn
  have hall := (List.mem_filter.1 hn).2
  simpa using List.all_eq_true.1 hall m hm

/-! ## The candidates -/

/-- The nodes of a snapshot that are asked again. -/
def knownNodes (last : Option Snapshot) : List Node := last.elim [] (·.topology.activeNodes)

theorem nodesToAsk_eq (seeds : List Node) (last : Option Snapshot) :
    nodesToAsk seeds last = knownNodes last ++ newNodes (knownNodes last) seeds :=
  foldl_addNode (knownNodes last) seeds

theorem nodesToAsk_distinct (seeds : List Node) (last : Option Snapshot) :
    DistinctAddresses (nodesToAsk seeds last) := by
  rw [nodesToAsk_eq]
  apply newNodes_distinct
  cases last with
  | none => exact List.Pairwise.nil
  | some s => exact s.topology.distinct.filter _

end SlotRouter
