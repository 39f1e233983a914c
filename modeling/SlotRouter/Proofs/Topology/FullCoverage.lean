import SlotRouter.Proofs.Topology.SlotResolution

/-!
# What full coverage says about the masters

A snapshot is fully covered if its table gives every slot an owner. The masters may still list a
slot twice, where an interval was dropped from the table that other ones cover.

* `ListedOnce` : every slot is listed by exactly one master;
* `isFullyCovered_iff` : full coverage is that every slot has an owner;
* `listedOnce_iff` : every slot is listed once exactly if the snapshot is fully covered and no slot
  is listed by two masters;
* `Overlap` : two masters list a slot, one of them owns it, and the other one has lost its interval;
* `CoverageTruth`, `coverage_truth` : when full coverage tells that every slot is listed once, for
  the snapshot of any list of nodes;
* `Nested` : a master inside another one goes unnoticed (`not_listedOnce_nested`).
-/

namespace SlotRouter
namespace Topology

variable {t : Topology} {m n : Node} {slot : Nat}

/-- Every slot is listed by exactly one master. -/
def ListedOnce (t : Topology) : Prop :=
  ∀ slot < slotCount, ∃ n ∈ t.masters, n.serves slot ∧ ∀ m ∈ t.masters, m.serves slot → m = n

/-! ## Owners -/

theorem isFullyCovered_iff :
    t.isFullyCovered ↔ ∀ slot < slotCount, ∃ n, t.masterForSlot slot = some n := by
  have hcount : t.slotCoverage = slotCount ↔
      ∀ slot ∈ List.range slotCount, (t.masterForSlot slot).isSome := by
    rw [slotCoverage_eq]
    conv_lhs => rhs; rw [← List.length_range (n := slotCount)]
    exact List.countP_eq_length
  rw [isFullyCovered, beq_iff_eq, hcount]
  simp only [List.mem_range, Option.isSome_iff_exists]

theorem unshared_of_listedOnce (h : t.ListedOnce) : t.Unshared := by
  intro m hm n hn slot hserves hserves'
  obtain ⟨k, -, -, hunique⟩ := h slot (lt_slotCount_of_serves hserves)
  rw [hunique m hm hserves, hunique n hn hserves']

theorem isFullyCovered_of_listedOnce (h : t.ListedOnce) : t.isFullyCovered := by
  refine isFullyCovered_iff.2 fun slot hslot => ?_
  obtain ⟨n, hn, hserves, -⟩ := h slot hslot
  exact ⟨n, (masterForSlot_iff_of_unshared (unshared_of_listedOnce h)).2 ⟨hn, hserves⟩⟩

/-- Every slot is listed once exactly if each has an owner and nobody else lists it. -/
theorem listedOnce_iff : t.ListedOnce ↔ t.isFullyCovered ∧ t.Unshared := by
  constructor
  · intro h
    exact ⟨isFullyCovered_of_listedOnce h, unshared_of_listedOnce h⟩
  · rintro ⟨hfull, hunshared⟩ slot hslot
    obtain ⟨n, hn⟩ := isFullyCovered_iff.1 hfull slot hslot
    obtain ⟨hmaster, hserves⟩ := owner_lists hn
    exact ⟨n, hmaster, hserves, fun m hm hm' => hunshared m hm n hmaster slot hm' hserves⟩

/-! ## Overlaps that are covered -/

/-- The second master lists a slot that the first one owns, and has lost the interval with that
slot to other masters. -/
structure Overlap (t : Topology) (slot : Nat) (m n : Node) : Prop where
  owner : t.masterForSlot slot = some m
  master : n ∈ t.masters
  serves : n.serves slot
  lost : ∃ i ∈ n.slots.intervals, i.Has slot ∧
    ∀ s, i.Has s → ∃ k, t.masterForSlot s = some k ∧ k ≠ n

theorem Overlap.ne (h : t.Overlap slot m n) : m ≠ n := by
  obtain ⟨i, -, hhas, hlost⟩ := h.lost
  obtain ⟨k, hk, hne⟩ := hlost slot hhas
  obtain rfl := Option.some.inj (h.owner.symm.trans hk)
  exact hne

/-- If every slot has an owner, a slot is listed twice only where an interval was dropped that other
masters cover. -/
theorem exists_overlap (hfull : t.isFullyCovered) (h : ¬ t.Unshared) :
    ∃ slot m n, t.Overlap slot m n := by
  unfold Unshared at h
  push Not at h
  obtain ⟨a, ha, b, hb, slot, hserves, hserves', hne⟩ := h
  have howned := isFullyCovered_iff.1 hfull
  obtain ⟨m, hm⟩ := howned slot (lt_slotCount_of_serves hserves)
  -- one of the two does not own the slot
  obtain ⟨n, hn, hn', hlost⟩ : ∃ n ∈ t.masters, n.serves slot ∧ t.masterForSlot slot ≠ some n := by
    by_cases hma : m = a
    · refine ⟨b, hb, hserves', ?_⟩
      rw [hm, hma]
      exact fun heq => hne (Option.some.inj heq)
    · refine ⟨a, ha, hserves, ?_⟩
      rw [hm]
      exact fun heq => hma (Option.some.inj heq)
  obtain ⟨i, hi, hhas⟩ := serves_iff.1 hn'
  refine ⟨slot, m, n, hm, hn, hn', i, hi, hhas, fun s hs => ?_⟩
  -- it owns no slot of the interval then
  obtain ⟨k, hk⟩ := howned s (lt_slotCount_of_serves (serves_iff.2 ⟨i, hi, hs⟩))
  refine ⟨k, hk, ?_⟩
  rintro rfl
  exact hlost ((masterForSlot_iff_first hi hhas).2 ((masterForSlot_iff_first hi hs).1 hk))

/-! ## Every list of nodes -/

/-- What full coverage says about a snapshot. -/
structure CoverageTruth (t : Topology) : Prop where
  full_iff : t.isFullyCovered ↔ ∀ slot < slotCount, ∃ n, t.masterForSlot slot = some n
  /-- Then some master lists each slot. -/
  listed : t.isFullyCovered → ∀ slot < slotCount, ∃ n ∈ t.masters, n.serves slot
  /-- A snapshot whose slots are listed once each is fully covered. -/
  of_listedOnce : t.ListedOnce → t.isFullyCovered
  /-- Full coverage tells that every slot is listed once exactly if masters do not overlap or some
  slot has no owner. -/
  tells_iff : (t.isFullyCovered ↔ t.ListedOnce) ↔
    t.Unshared ∨ ∃ slot < slotCount, t.masterForSlot slot = none
  /-- Where it does not, a master was dropped that others cover. -/
  overlap_iff : t.isFullyCovered ∧ ¬ t.ListedOnce ↔
    t.isFullyCovered ∧ ∃ slot m n, t.Overlap slot m n

theorem tells_listedOnce_iff : (t.isFullyCovered ↔ t.ListedOnce) ↔
    t.Unshared ∨ ∃ slot < slotCount, t.masterForSlot slot = none := by
  have hfull : ¬ t.isFullyCovered ↔ ∃ slot < slotCount, t.masterForSlot slot = none := by
    rw [isFullyCovered_iff]
    push Not
    simp only [Option.eq_none_iff_forall_ne_some]
  rw [← hfull, listedOnce_iff]
  tauto

/-- Full coverage says that every slot has an owner. That every slot is listed by exactly one master
it says only of masters that do not overlap. -/
theorem coverage_truth (nodes : List Node) : (ofNodes nodes).CoverageTruth where
  full_iff := isFullyCovered_iff
  listed := by
    intro h slot hslot
    obtain ⟨n, hn⟩ := isFullyCovered_iff.1 h slot hslot
    exact ⟨n, owner_lists hn⟩
  of_listedOnce := isFullyCovered_of_listedOnce
  tells_iff := tells_listedOnce_iff
  overlap_iff := by
    constructor
    · rintro ⟨hfull, hnot⟩
      refine ⟨hfull, exists_overlap hfull fun hunshared => ?_⟩
      exact hnot (listedOnce_iff.2 ⟨hfull, hunshared⟩)
    · rintro ⟨hfull, slot, m, n, hoverlap⟩
      obtain ⟨hmaster, hserves⟩ := owner_lists hoverlap.owner
      refine ⟨hfull, fun honce => hoverlap.ne ?_⟩
      exact unshared_of_listedOnce honce m hmaster n hoverlap.master slot hserves hoverlap.serves

/-! ## A master inside another one -/

namespace Nested

def outer : Node where
  host := "127.0.0.1"
  port := 7000
  role := some .master
  slots := ⟨[⟨0, 16383⟩], Ascending.whole⟩

def inner : Node where
  host := "127.0.0.1"
  port := 7001
  role := some .master
  slots := ⟨[⟨100, 200⟩], by decide, by decide, by decide, trivial⟩

def topology : Topology := .ofNodes [outer, inner]

theorem claims_slotTable : topology.slotTable.claims = [(⟨0, 16383⟩, outer)] := by
  have hclaims : topology.claims = [(⟨0, 16383⟩, outer), (⟨100, 200⟩, inner)] := by
    decide +kernel
  have hsorted : topology.claims.Pairwise fun a b => a.1.before b.1 := by
    rw [hclaims]
    decide +kernel
  rw [slotTable, SlotTable.ofClaims, List.mergeSort_of_pairwise hsorted, hclaims]
  decide +kernel

end Nested

/-- The inner master is dropped from the table and the outer one covers everything, so nothing tells
that slot 150 is listed by both. -/
theorem not_listedOnce_nested :
    Nested.topology.isFullyCovered = true ∧ ¬ Nested.topology.ListedOnce ∧
    Nested.outer ∈ Nested.topology.masters ∧ Nested.outer.serves 150 ∧
    Nested.inner ∈ Nested.topology.masters ∧ Nested.inner.serves 150 ∧
    Nested.outer ≠ Nested.inner := by
  have houter : Nested.outer ∈ Nested.topology.masters := by decide +kernel
  have hinner : Nested.inner ∈ Nested.topology.masters := by decide +kernel
  have hserves : Nested.outer.serves 150 := by decide +kernel
  have hserves' : Nested.inner.serves 150 := by decide +kernel
  have hne : Nested.outer ≠ Nested.inner := by decide +kernel
  refine ⟨?_, ?_, houter, hserves, hinner, hserves', hne⟩
  · rw [isFullyCovered, slotCoverage, SlotTable.coverage, Nested.claims_slotTable]
    decide +kernel
  · intro honce
    exact hne (unshared_of_listedOnce honce _ houter _ hinner 150 hserves hserves')

end Topology
end SlotRouter
