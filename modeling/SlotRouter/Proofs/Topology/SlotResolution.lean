import SlotRouter.Proofs.Slot.Coverage
import SlotRouter.Proofs.Topology.SlotOwner

/-!
# Resolving slots

What a snapshot says about every slot, for masters whose intervals may have gaps, touch, nest or
overlap in any way.

* `lt_slotCount_of_owner`, `slotCoverage_eq` : only slots that exist have an owner, and the coverage
  counts them;
* `lost_first` : a master that lists a slot and does not own it has lost the first slot of its
  interval to another master;
* `masterForSlot_iff_of_unshared`, `masterForSlot_perm` : if masters do not share slots, who lists a
  slot owns it, in whatever order the nodes come;
* `SlotResolution`, `slot_resolution` : all of it for the snapshot of any list of nodes.
-/

namespace SlotRouter

namespace Topology

variable {t t' : Topology} {n : Node} {slot : Nat}

/-! ## Counting -/

theorem lt_slotCount_of_serves (h : n.serves slot) : slot < slotCount := by
  obtain ⟨i, hi, hhas⟩ := serves_iff.1 h
  have hlast : i.last < slotCount := n.slots.ascending.last_lt hi
  exact Nat.lt_of_le_of_lt hhas.2 hlast

theorem lt_slotCount_of_owner (h : t.masterForSlot slot = some n) : slot < slotCount :=
  lt_slotCount_of_serves (owner_lists h).2

theorem slotCoverage_eq (t : Topology) :
    t.slotCoverage = (List.range slotCount).countP fun slot => (t.masterForSlot slot).isSome := by
  have hsep : Separated t.slotTable.claims := SlotTable.separated_ofClaims t.ordered_claims
  have hord : Ordered t.slotTable.claims := fun c hc =>
    t.ordered_claims c (SlotTable.mem_of_mem_ofClaims hc)
  refine SlotTable.coverage_eq_countP hsep hord fun slot hslot => ?_
  obtain ⟨owner, howner⟩ := Option.isSome_iff_exists.1 hslot
  exact lt_slotCount_of_owner howner

/-! ## Slots that are lost -/

/-- A master that lists a slot and does not own it has lost the first slot of the interval. -/
theorem lost_first (hn : n ∈ t.masters) (h : n.serves slot) (hlost : t.masterForSlot slot ≠ some n) :
    ∃ i ∈ n.slots.intervals, i.Has slot ∧
      ∃ m ∈ t.masters, m ≠ n ∧ t.masterForSlot i.first = some m := by
  obtain ⟨i, hi, hhas⟩ := serves_iff.1 h
  obtain ⟨m, hm⟩ := exists_owner_first hn hi
  have hne : m ≠ n := by
    rintro rfl
    exact hlost ((masterForSlot_iff_first hi hhas).2 hm)
  exact ⟨i, hi, hhas, m, (owner_lists hm).1, hne, hm⟩

/-- If no slot is listed twice, nobody loses a slot. -/
theorem masterForSlot_iff_of_unshared (h : t.Unshared) :
    t.masterForSlot slot = some n ↔ n ∈ t.masters ∧ n.serves slot := by
  constructor
  · exact owner_lists
  · rintro ⟨hn, hserves⟩
    by_contra hlost
    obtain ⟨i, hi, -, m, hm, hne, hfirst⟩ := lost_first hn hserves hlost
    -- the first slot would be listed by both of them
    have hserves' : n.serves i.first := serves_iff.2 ⟨i, hi, has_first hi⟩
    exact hne (h m hm n hn i.first (owner_lists hfirst).2 hserves')

theorem mem_masters_perm (hperm : t'.nodes.Perm t.nodes) : n ∈ t'.masters ↔ n ∈ t.masters := by
  rw [mem_masters, mem_masters, hperm.mem_iff]

theorem unshared_perm (hperm : t'.nodes.Perm t.nodes) (h : t.Unshared) : t'.Unshared := by
  intro m hm n hn slot hserves hserves'
  exact h m ((mem_masters_perm hperm).1 hm) n ((mem_masters_perm hperm).1 hn) slot hserves hserves'

/-- The order of the nodes does not matter if no slot is listed twice. -/
theorem masterForSlot_perm (hperm : t'.nodes.Perm t.nodes) (h : t.Unshared) (slot : Nat) :
    t'.masterForSlot slot = t.masterForSlot slot := by
  apply Option.ext
  intro n
  rw [masterForSlot_iff_of_unshared h, masterForSlot_iff_of_unshared (unshared_perm hperm h),
    mem_masters_perm hperm]

/-! ## Every slot -/

/-- How a snapshot resolves slots. -/
structure SlotResolution (t : Topology) : Prop where
  /-- The owner of a slot is a node of the snapshot, a master, and lists the slot. -/
  sound : ∀ {slot n}, t.masterForSlot slot = some n → n ∈ t.nodes ∧ n.isMaster ∧ n.serves slot
  /-- No slot beyond the last one has an owner, and of the others the coverage counts those that
  have one. -/
  exists_of_owned : ∀ {slot n}, t.masterForSlot slot = some n → slot < slotCount
  coverage : t.slotCoverage =
    (List.range slotCount).countP fun slot => (t.masterForSlot slot).isSome
  /-- Who lists a slot and does not own it has lost the first slot of the interval to another
  master. -/
  lost : ∀ {slot n}, n ∈ t.nodes → n.isMaster → n.serves slot → t.masterForSlot slot ≠ some n →
    ∃ i ∈ n.slots.intervals, i.Has slot ∧
      ∃ m ∈ t.nodes, m.isMaster ∧ m ≠ n ∧ t.masterForSlot i.first = some m
  /-- If no slot is listed by two masters, a slot is owned by the one that lists it. -/
  owner_iff : t.Unshared → ∀ slot n,
    t.masterForSlot slot = some n ↔ n ∈ t.nodes ∧ n.isMaster ∧ n.serves slot
  /-- Then the order of the nodes does not matter. -/
  order : t.Unshared → ∀ t' : Topology, t'.nodes.Perm t.nodes →
    ∀ slot, t'.masterForSlot slot = t.masterForSlot slot

/-- Slots resolve to masters that list them, in every snapshot, and none is lost needlessly. -/
theorem slot_resolution (nodes : List Node) : (ofNodes nodes).SlotResolution where
  sound := by
    intro slot n h
    obtain ⟨hn, hserves⟩ := owner_lists h
    exact ⟨(mem_masters.1 hn).1, (mem_masters.1 hn).2, hserves⟩
  exists_of_owned := lt_slotCount_of_owner
  coverage := slotCoverage_eq _
  lost := by
    intro slot n hn hmaster hserves hlost
    obtain ⟨i, hi, hhas, m, hm, hne, hfirst⟩ :=
      lost_first (mem_masters.2 ⟨hn, hmaster⟩) hserves hlost
    exact ⟨i, hi, hhas, m, (mem_masters.1 hm).1, (mem_masters.1 hm).2, hne, hfirst⟩
  owner_iff := by
    intro h slot n
    rw [masterForSlot_iff_of_unshared h, mem_masters, and_assoc]
  order := by
    intro h t' hperm slot
    exact masterForSlot_perm hperm h slot

end Topology
end SlotRouter
