import Mathlib.Data.List.Nodup
import SlotRouter.Proofs.Slot.Table

/-!
# How many slots have an owner

The sizes of the claims that hold add up to the number of slots with an owner, since no slot lies in
two of them.

* `Interval.slots` : the slots of an interval, in ascending order;
* `SlotTable.ownedSlots` : the slots of all claims that hold, with `pairwise_ownedSlots` (ascending,
  so each one once), `length_ownedSlots` and `mem_ownedSlots`;
* `coverage_eq_countP` : the coverage is the number of slots that have an owner.
-/

namespace SlotRouter

variable {α : Type}

/-! ## The slots of an interval -/

/-- The slots of an interval, in ascending order. -/
def Interval.slots (i : Interval) : List Nat := List.range' i.first i.size

theorem Interval.mem_slots {i : Interval} (h : i.first ≤ i.last) {slot : Nat} :
    slot ∈ i.slots ↔ i.Has slot := by
  unfold Interval.slots Interval.size Interval.Has
  rw [List.mem_range'_1]
  omega

theorem Interval.length_slots (i : Interval) : i.slots.length = i.size := List.length_range'

theorem Interval.length_flatMap_slots (intervals : List Interval) :
    (intervals.flatMap Interval.slots).length = total (intervals.map Interval.size) := by
  rw [length_flatMap_total]
  simp only [Interval.length_slots]

theorem Interval.pairwise_slots (i : Interval) : i.slots.Pairwise (· < ·) := List.pairwise_lt_range'

/-! ## The slots that have an owner -/

namespace SlotTable

variable {t : SlotTable α}

/-- The slots of all claims that hold. -/
def ownedSlots (t : SlotTable α) : List Nat := t.claims.flatMap fun claim => claim.1.slots

theorem length_ownedSlots (t : SlotTable α) : t.ownedSlots.length = t.coverage := by
  have hslots : t.ownedSlots = (t.claims.map (·.1)).flatMap Interval.slots := by
    rw [List.flatMap_map]
    rfl
  rw [hslots, Interval.length_flatMap_slots, List.map_map]
  rfl

theorem mem_ownedSlots (hsep : Separated t.claims) (hord : Ordered t.claims) {slot : Nat} :
    slot ∈ t.ownedSlots ↔ (t.owner? slot).isSome := by
  rw [Option.isSome_iff_exists]
  unfold ownedSlots
  rw [List.mem_flatMap]
  constructor
  · rintro ⟨⟨i, owner⟩, hmem, hslot⟩
    have hhas : i.Has slot := (Interval.mem_slots (hord _ hmem)).1 hslot
    exact ⟨owner, (owner?_eq_some_iff hsep).2 ⟨i, hmem, hhas⟩⟩
  · rintro ⟨owner, howner⟩
    obtain ⟨i, hmem, hhas⟩ := (owner?_eq_some_iff hsep).1 howner
    exact ⟨(i, owner), hmem, (Interval.mem_slots (hord _ hmem)).2 hhas⟩

/-- The slots come in ascending order, so none comes twice. -/
theorem pairwise_ownedSlots (hsep : Separated t.claims) (hord : Ordered t.claims) :
    t.ownedSlots.Pairwise (· < ·) := by
  unfold ownedSlots
  refine List.pairwise_flatMap.2 ⟨fun claim _ => claim.1.pairwise_slots, ?_⟩
  -- of two claims, the first one ends before the second one starts
  refine hsep.imp_of_mem ?_
  intro c d hc hd hlt x hx y hy
  have hx' : c.1.Has x := (Interval.mem_slots (hord c hc)).1 hx
  have hy' : d.1.Has y := (Interval.mem_slots (hord d hd)).1 hy
  unfold Interval.Has at hx' hy'
  omega

/-- The coverage is the number of slots with an owner, if no claim goes beyond the bound. -/
theorem coverage_eq_countP (hsep : Separated t.claims) (hord : Ordered t.claims) {bound : Nat}
    (hbound : ∀ slot, (t.owner? slot).isSome → slot < bound) :
    t.coverage = (List.range bound).countP fun slot => (t.owner? slot).isSome := by
  rw [← length_ownedSlots, List.countP_eq_length_filter]
  have hnodup : t.ownedSlots.Nodup := (pairwise_ownedSlots hsep hord).imp Nat.ne_of_lt
  have hnodup' : ((List.range bound).filter fun slot => (t.owner? slot).isSome).Nodup :=
    List.nodup_range.filter _
  apply List.Perm.length_eq
  refine (List.perm_ext_iff_of_nodup hnodup hnodup').2 fun slot => ?_
  rw [mem_ownedSlots hsep hord, List.mem_filter, List.mem_range]
  exact ⟨fun h => ⟨hbound slot h, h⟩, fun h => h.2⟩

end SlotTable

end SlotRouter
