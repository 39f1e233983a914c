import SlotRouter.Proofs.Topology.Lookup

/-!
# Which node a descriptor means

A descriptor may know no more than an address, and what it knows may be out of date.

* `Topology.HasId` : some node has an id;
* `lookup_cases` : a descriptor means a node with its id, or, if no node has it, the node at its
  address; `idOf_ok`, `id_of_idOf_mem` : whose id is found for it;
* `Topology.Mistakes` : a node at the right address has another id; these are the nodes that are
  found although they are not the same (`mistakes_iff`), and under another id (`id_eq_iff`);
* `Topology.Alike` : two descriptors mean one node, and then they are resolved alike;
* `Topology.DistinctIds` : no id stands twice; then members are resolved to themselves, and are the
  same node only if they are equal.
-/

namespace SlotRouter

namespace Topology

variable {t : Topology} {n m : Node} {id : String}

/-! ## By id or by address -/

/-- Some node has the id. -/
def HasId (t : Topology) (id : String) : Prop := ∃ m ∈ t.nodes, m.id = some id

theorem lookupId_ok (h : t.lookupId id = .ok m) : m ∈ t.nodes ∧ m.id = some id := by
  unfold lookupId at h
  cases hf : t.nodes.find? (·.id == some id) with
  | none =>
    rw [hf] at h
    cases h
  | some k =>
    rw [hf] at h
    cases h
    have hid := List.find?_some hf
    exact ⟨List.mem_of_find?_eq_some hf, beq_iff_eq.1 hid⟩

theorem lookupId_error {e : ClusterError} (h : t.lookupId id = .error e) :
    ¬ t.HasId id := by
  unfold lookupId at h
  cases hf : t.nodes.find? (·.id == some id) with
  | some k =>
    rw [hf] at h
    cases h
  | none =>
    rintro ⟨k, hk, hid⟩
    exact List.find?_eq_none.1 hf k hk (beq_iff_eq.2 hid)

theorem lookup_of_unknown (h : ∀ id, n.id = some id → ¬ t.HasId id) :
    t.lookup n = t.lookupAddress n.host n.port := by
  unfold lookup
  cases hid : n.id with
  | none => rfl
  | some id =>
    dsimp only
    cases hl : t.lookupId id with
    | error e => rfl
    | ok k =>
      obtain ⟨hk, hkid⟩ := lookupId_ok hl
      exact absurd ⟨k, hk, hkid⟩ (h id hid)

/-- A descriptor means a node with its id. If there is none, it means the node at its address. -/
theorem lookup_cases (h : t.lookup n = .ok m) :
    m ∈ t.nodes ∧ ((∃ id, n.id = some id ∧ m.id = some id) ∨
      ((∀ id, n.id = some id → ¬ t.HasId id) ∧ n.sameAddress m)) := by
  have haddress : (∀ id, n.id = some id → ¬ t.HasId id) →
      m ∈ t.nodes ∧ n.sameAddress m := by
    intro hunknown
    rw [lookup_of_unknown hunknown] at h
    obtain ⟨hm, hhost, hport⟩ := lookupAddress_ok h
    exact ⟨hm, Node.sameAddress_iff.2 ⟨hhost.symm, hport.symm⟩⟩
  cases hid : n.id with
  | none =>
    have hunknown : ∀ id, n.id = some id → ¬ t.HasId id := by
      rw [hid]
      rintro id ⟨⟩
    obtain ⟨hm, hsame⟩ := haddress hunknown
    exact ⟨hm, .inr ⟨hid ▸ hunknown, hsame⟩⟩
  | some id =>
    cases hl : t.lookupId id with
    | ok k =>
      have hk : t.lookup n = .ok k := by
        unfold lookup
        rw [hid]
        dsimp only
        rw [hl]
      obtain rfl := Except.ok.inj (h.symm.trans hk)
      obtain ⟨hm, hmid⟩ := lookupId_ok hl
      exact ⟨hm, .inl ⟨id, rfl, hmid⟩⟩
    | error e =>
      have hunknown : ∀ other, n.id = some other → ¬ t.HasId other := by
        intro other hother
        obtain rfl := Option.some.inj (hid.symm.trans hother)
        exact lookupId_error hl
      obtain ⟨hm, hsame⟩ := haddress hunknown
      exact ⟨hm, .inr ⟨hid ▸ hunknown, hsame⟩⟩

theorem namesake_id (m : Node) : (t.namesake m).id = m.id := by
  unfold namesake
  cases hid : m.id with
  | none => exact hid
  | some id =>
    dsimp only
    cases hf : t.nodes.find? (·.id == some id) with
    | none => exact hid
    | some k =>
      have hk := List.find?_some hf
      exact beq_iff_eq.1 hk

theorem lookup_of_resolve (h : t.resolve n = .ok m) : t.lookup n = .ok m := by
  unfold resolve at h
  cases hl : t.lookup n with
  | error e =>
    rw [hl] at h
    cases h
  | ok k =>
    rw [hl] at h
    exact h

theorem idOf_ok (h : t.idOf n = .ok id) : ∃ m, t.lookup n = .ok m ∧ m.id = some id := by
  unfold idOf at h
  cases hm : t.resolve n with
  | error e =>
    rw [hm] at h
    cases h
  | ok m =>
    rw [hm] at h
    dsimp only at h
    cases hid : m.id with
    | none =>
      rw [hid] at h
      cases h
    | some given =>
      rw [hid] at h
      cases h
      exact ⟨m, lookup_of_resolve hm, hid⟩

/-- A member has the id of the node that it is taken for. -/
theorem id_of_idOf_mem (hm : m ∈ t.nodes) (h : t.idOf m = .ok id) : m.id = some id := by
  obtain ⟨k, hk, hid⟩ := idOf_ok h
  have hresolve : t.resolve m = .ok k := by rw [resolve, hk]
  rw [resolve_of_mem hm] at hresolve
  obtain rfl := Except.ok.inj hresolve
  rw [← hid, namesake_id]

/-! ## Mistaken nodes -/

/-- No node has the id of the descriptor, and the node at its address has another one. -/
structure Mistakes (t : Topology) (n m : Node) : Prop where
  unknown : ∃ id, n.id = some id ∧ ¬ t.HasId id
  member : m ∈ t.nodes
  sameAddress : n.sameAddress m
  named : m.id.isSome

theorem Mistakes.lookup (h : t.Mistakes n m) : t.lookup n = .ok m := by
  obtain ⟨id, hid, hunknown⟩ := h.unknown
  have hnone : ∀ other, n.id = some other → ¬ t.HasId other := by
    intro other hother
    obtain rfl := Option.some.inj (hid.symm.trans hother)
    exact hunknown
  obtain ⟨hhost, hport⟩ := Node.sameAddress_iff.1 h.sameAddress
  rw [lookup_of_unknown hnone, hhost, hport, lookupAddress_of_mem h.member]

theorem Mistakes.id_ne (h : t.Mistakes n m) : n.id ≠ m.id := by
  obtain ⟨id, hid, hunknown⟩ := h.unknown
  intro heq
  exact hunknown ⟨m, h.member, heq.symm.trans hid⟩

theorem isSameNode_of_id {a b : Node} {i j : String} (ha : a.id = some i) (hb : b.id = some j) :
    a.isSameNode b = true ↔ i = j := by
  unfold Node.isSameNode
  rw [ha, hb]
  exact beq_iff_eq

theorem isSameNode_of_noId {a b : Node} (h : a.id = none ∨ b.id = none) :
    a.isSameNode b = a.sameAddress b := by
  unfold Node.isSameNode
  rcases h with h | h
  · rw [h]
  · rw [h]
    cases a.id <;> rfl

/-- These are the nodes that a descriptor is looked up to although they are not the same node. -/
theorem mistakes_iff : t.Mistakes n m ↔ t.lookup n = .ok m ∧ n.isSameNode m = false := by
  constructor
  · intro h
    refine ⟨h.lookup, Bool.eq_false_iff.2 fun hsame => h.id_ne ?_⟩
    obtain ⟨id, hid, -⟩ := h.unknown
    obtain ⟨other, hother⟩ := Option.isSome_iff_exists.1 h.named
    rw [hid, hother, (isSameNode_of_id hid hother).1 hsame]
  · rintro ⟨hlookup, hdiffers⟩
    have hne : ¬ n.isSameNode m = true := by rw [hdiffers]; exact Bool.false_ne_true
    obtain ⟨hm, ⟨id, hid, hmid⟩ | ⟨hunknown, hsame⟩⟩ := lookup_cases hlookup
    · exact absurd ((isSameNode_of_id hid hmid).2 rfl) hne
    · -- without both ids the addresses would decide, and they are the same
      have hid : n.id ≠ none := fun hnone =>
        hne ((isSameNode_of_noId (.inl hnone)).trans hsame)
      have hmid : m.id ≠ none := fun hnone =>
        hne ((isSameNode_of_noId (.inr hnone)).trans hsame)
      obtain ⟨id, hid⟩ := Option.ne_none_iff_exists'.1 hid
      exact ⟨⟨id, hid, hunknown id hid⟩, hm, hsame, Option.isSome_iff_ne_none.2 hmid⟩

theorem isSameNode_iff (h : t.lookup n = .ok m) : n.isSameNode m = true ↔ ¬ t.Mistakes n m := by
  rw [mistakes_iff, not_and, Bool.not_eq_false]
  exact ⟨fun hsame _ => hsame, fun hsame => hsame h⟩

/-- The id that is found is the one asked for, unless the node is mistaken. -/
theorem id_eq_iff {given : String} (h : t.lookup n = .ok m) (hn : n.id = some given)
    (hm : m.id = some id) : given = id ↔ ¬ t.Mistakes n m := by
  rw [← isSameNode_iff h, isSameNode_of_id hn hm]

/-! ## Descriptors of one node -/

/-- The descriptors are the same, or both mean the same node. -/
def Alike (t : Topology) (a b : Node) : Prop := a = b ∨ ∃ m, t.lookup a = .ok m ∧ t.lookup b = .ok m

theorem Alike.resolve_eq {a b : Node} (h : t.Alike a b) : t.resolve a = t.resolve b := by
  rcases h with rfl | ⟨m, ha, hb⟩
  · rfl
  · rw [resolve, resolve, ha, hb]

theorem Alike.idOf_eq {a b : Node} (h : t.Alike a b) : t.idOf a = t.idOf b := by
  rw [idOf, idOf, h.resolve_eq]

/-! ## Distinct ids -/

/-- No two nodes have one id. -/
def DistinctIds (t : Topology) : Prop :=
  ∀ a ∈ t.nodes, ∀ b ∈ t.nodes, ∀ id, a.id = some id → b.id = some id → a = b

section Distinct

variable (h : t.DistinctIds)

include h

theorem DistinctIds.namesake_eq (hn : n ∈ t.nodes) : t.namesake n = n := by
  cases hid : n.id with
  | none =>
    unfold namesake
    rw [hid]
  | some id =>
    refine SlotRouter.namesake_eq fun m hm heq => ?_
    exact h m hm n hn id (heq.trans hid) hid

theorem DistinctIds.resolve_eq (hn : n ∈ t.nodes) : t.resolve n = .ok n := by
  rw [resolve_of_mem hn, h.namesake_eq hn]

theorem DistinctIds.idOf_eq (hn : n ∈ t.nodes) (hid : n.id = some id) :
    t.idOf n = .ok id := by
  rw [idOf, h.resolve_eq hn]
  dsimp only
  rw [hid]

/-- Members are the same node only if they are equal. -/
theorem DistinctIds.isSameNode_iff (hn : n ∈ t.nodes) (hm : m ∈ t.nodes) :
    n.isSameNode m = true ↔ n = m := by
  constructor
  · intro hsame
    have haddress : n.sameAddress m = true → n = m := by
      intro haddress
      obtain ⟨hhost, hport⟩ := Node.sameAddress_iff.1 haddress
      exact eq_of_address hn hm (by rw [Node.address, Node.address, hhost, hport])
    cases hid : n.id with
    | none => exact haddress ((isSameNode_of_noId (.inl hid)).symm.trans hsame)
    | some id =>
      cases hmid : m.id with
      | none => exact haddress ((isSameNode_of_noId (.inr hmid)).symm.trans hsame)
      | some other =>
        obtain rfl := (isSameNode_of_id hid hmid).1 hsame
        exact h n hn m hm id hid hmid
  · rintro rfl
    cases hid : n.id with
    | none =>
      rw [isSameNode_of_noId (.inl hid)]
      exact n.sameAddress_refl
    | some id => exact (isSameNode_of_id hid hid).2 rfl

end Distinct

end Topology

end SlotRouter
