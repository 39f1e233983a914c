import SlotRouter.Proofs.Slot.Table
import SlotRouter.Topology

/-!
# The owner of a slot and the masters that list it

A slot is looked up in two ways: by the table that settles overlaps (`masterForSlot`), and by the
order of the report (`listedMaster?`).

* `masterForSlot_eq_some_iff`, `owner_lists` : the owner is a master that lists the slot;
* `masterForSlot_iff_first` : a master owns all slots of an interval or none of them;
* `exists_owner_first` : an interval that is lost starts within one that another master owns;
* `agreesAt_iff`, `agreesAt_of_unshared` : when both ways lead to one node.
-/

namespace SlotRouter
namespace Topology

variable {t : Topology} {n : Node} {i : Interval} {slot : Nat}

/-! ## The table -/

theorem mem_masters : n ∈ t.masters ↔ n ∈ t.nodes ∧ n.isMaster := List.mem_filter

theorem mem_claims : (i, n) ∈ t.claims ↔ n ∈ t.masters ∧ i ∈ n.slots.intervals := by
  simp only [claims, List.mem_flatMap, List.mem_map, Prod.mk.injEq]
  constructor
  · rintro ⟨m, hm, j, hj, rfl, rfl⟩
    exact ⟨hm, hj⟩
  · rintro ⟨hn, hi⟩
    exact ⟨n, hn, i, hi, rfl, rfl⟩

theorem ordered_claims (t : Topology) : Ordered t.claims := by
  rintro ⟨i, n⟩ hc
  exact (n.slots.ascending.ordered (mem_claims.1 hc).2).2

theorem serves_iff : n.serves slot ↔ ∃ i ∈ n.slots.intervals, i.Has slot := SlotRange.contains_iff

theorem masterForSlot_eq_some_iff :
    t.masterForSlot slot = some n ↔ ∃ i, (i, n) ∈ t.slotTable.claims ∧ i.Has slot :=
  SlotTable.owner?_eq_some_iff (SlotTable.separated_ofClaims t.ordered_claims)

/-- The owner of a slot is a master that lists it. -/
theorem owner_lists (h : t.masterForSlot slot = some n) : n ∈ t.masters ∧ n.serves slot := by
  obtain ⟨i, hi, hhas⟩ := masterForSlot_eq_some_iff.1 h
  obtain ⟨hn, hmem⟩ := mem_claims.1 (SlotTable.mem_of_mem_ofClaims hi)
  exact ⟨hn, serves_iff.2 ⟨i, hmem, hhas⟩⟩

/-- A master that owns a slot of an interval has a claim for the whole interval. -/
theorem claim_of_owner (hi : i ∈ n.slots.intervals) (hhas : i.Has slot)
    (h : t.masterForSlot slot = some n) : (i, n) ∈ t.slotTable.claims := by
  obtain ⟨j, hj, hhas'⟩ := masterForSlot_eq_some_iff.1 h
  have hmem := (mem_claims.1 (SlotTable.mem_of_mem_ofClaims hj)).2
  obtain rfl := n.slots.ascending.interval_unique hmem hi hhas' hhas
  exact hj

theorem has_first (hi : i ∈ n.slots.intervals) : i.Has i.first :=
  ⟨Nat.le_refl _, (n.slots.ascending.ordered hi).2⟩

/-- A master owns all slots of an interval or none of them. -/
theorem masterForSlot_iff_first (hi : i ∈ n.slots.intervals) (hhas : i.Has slot) :
    t.masterForSlot slot = some n ↔ t.masterForSlot i.first = some n := by
  constructor
  · intro h
    exact masterForSlot_eq_some_iff.2 ⟨i, claim_of_owner hi hhas h, has_first hi⟩
  · intro h
    exact masterForSlot_eq_some_iff.2 ⟨i, claim_of_owner hi (has_first hi) h, hhas⟩

/-- The first slot of an interval of a master always has an owner. -/
theorem exists_owner_first (hn : n ∈ t.masters) (hi : i ∈ n.slots.intervals) :
    ∃ m, t.masterForSlot i.first = some m := by
  rcases SlotTable.ofClaims_covers (mem_claims.2 ⟨hn, hi⟩) with hkept | ⟨⟨j, m⟩, hd, hhas⟩
  · exact ⟨n, masterForSlot_eq_some_iff.2 ⟨i, hkept, has_first hi⟩⟩
  · exact ⟨m, masterForSlot_eq_some_iff.2 ⟨j, hd, hhas⟩⟩

/-! ## The report -/

/-- The first master of the report that lists a slot. -/
def listedMaster? (t : Topology) (slot : Nat) : Option Node :=
  (t.servingNodes slot).find? (·.isMaster)

theorem listedMaster?_mem (h : t.listedMaster? slot = some n) : n ∈ t.masters ∧ n.serves slot := by
  obtain ⟨hnodes, hserves⟩ := List.mem_filter.1 (List.mem_of_find?_eq_some h)
  exact ⟨mem_masters.2 ⟨hnodes, List.find?_some h⟩, hserves⟩

theorem isSome_listedMaster? (hn : n ∈ t.masters) (h : n.serves slot) :
    (t.listedMaster? slot).isSome := by
  obtain ⟨hnodes, hmaster⟩ := mem_masters.1 hn
  exact List.find?_isSome.2 ⟨n, List.mem_filter.2 ⟨hnodes, h⟩, hmaster⟩

/-! ## Agreement -/

/-- Both ways to look a slot up lead to the same node, or to none. -/
def AgreesAt (t : Topology) (slot : Nat) : Prop := t.masterForSlot slot = t.listedMaster? slot

/-- No slot is listed by two masters. -/
def Unshared (t : Topology) : Prop :=
  ∀ m ∈ t.masters, ∀ n ∈ t.masters, ∀ slot, m.serves slot → n.serves slot → m = n

/-- They agree exactly if the first master that lists the slot owns the first slot of its
interval. -/
theorem agreesAt_iff : t.AgreesAt slot ↔ ∀ n, t.listedMaster? slot = some n →
    ∃ i ∈ n.slots.intervals, i.Has slot ∧ t.masterForSlot i.first = some n := by
  unfold AgreesAt
  constructor
  · intro h n hn
    obtain ⟨i, hi, hhas⟩ := serves_iff.1 (listedMaster?_mem hn).2
    exact ⟨i, hi, hhas, (masterForSlot_iff_first hi hhas).1 (h.trans hn)⟩
  · intro h
    cases hl : t.listedMaster? slot with
    | some n =>
      obtain ⟨i, hi, hhas, hfirst⟩ := h n hl
      exact (masterForSlot_iff_first hi hhas).2 hfirst
    | none =>
      cases ho : t.masterForSlot slot with
      | none => rfl
      | some m =>
        obtain ⟨hm, hserves⟩ := owner_lists ho
        have hsome := isSome_listedMaster? hm hserves
        rw [hl] at hsome
        cases hsome

theorem agreesAt_of_unshared (h : t.Unshared) (slot : Nat) : t.AgreesAt slot := by
  refine agreesAt_iff.2 fun n hn => ?_
  obtain ⟨hmaster, hserves⟩ := listedMaster?_mem hn
  obtain ⟨i, hi, hhas⟩ := serves_iff.1 hserves
  -- who owns the first slot of the interval lists it as well
  obtain ⟨m, hm⟩ := exists_owner_first hmaster hi
  obtain ⟨hmaster', hserves'⟩ := owner_lists hm
  obtain rfl := h m hmaster' n hmaster i.first hserves' (serves_iff.2 ⟨i, hi, has_first hi⟩)
  exact ⟨i, hi, hhas, hm⟩

end Topology
end SlotRouter
