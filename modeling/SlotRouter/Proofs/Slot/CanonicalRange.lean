import SlotRouter.Proofs.Slot.Coverage

/-!
# The canonical form of a set of slots

Whatever inserts a `SlotRange` was built by, it holds the inserted slots and no others, and it
stores them in the only way there is.

* `Holds` : a slot lies in one of several intervals; `holds_insertInterval` : an insert adds its own
  slots and no others;
* `Ascending.eq_of_holds_iff` : intervals in canonical form are determined by their slots;
* `mergeAll`, `insertInterval_eq_mergeAll` : an insert stores what comes of sorting all intervals
  and merging neighbours;
* `Represents`, `represents_contains` : what the readers of a range say about the slots that it
  stands for;
* `insertAll`, `represents_insertAll`, `represents_ofSlots` : inserts in turn, also rejected ones,
  and lists of slots;
* `slot_range_canonical` : all of it.
-/

namespace SlotRouter

/-! ## The slots of several intervals -/

/-- The slot lies in one of the intervals. -/
def Holds (intervals : List Interval) (slot : Nat) : Prop := ∃ i ∈ intervals, i.Has slot

section Holds

variable {low low' a b slot : Nat} {i j : Interval} {intervals rest others : List Interval}

theorem not_holds_nil : ¬ Holds [] slot := by
  rintro ⟨i, hi, -⟩
  exact List.not_mem_nil hi

theorem holds_cons : Holds (i :: rest) slot ↔ i.Has slot ∨ Holds rest slot := by
  simp [Holds]

theorem holds_append :
    Holds (intervals ++ rest) slot ↔ Holds intervals slot ∨ Holds rest slot := by
  simp [Holds, or_and_right, exists_or]

theorem holds_perm (h : intervals.Perm rest) : Holds intervals slot ↔ Holds rest slot := by
  simp [Holds, h.mem_iff]

theorem Ascending.le_of_holds (h : Ascending low intervals) (hs : Holds intervals slot) :
    low ≤ slot := by
  obtain ⟨i, hi, hhas⟩ := hs
  have hlow : low ≤ i.first := (h.ordered hi).1
  exact Nat.le_trans hlow hhas.1

/-- After the first interval come the slots beyond it. -/
theorem Ascending.holds_rest (h : Ascending low (i :: rest)) :
    Holds rest slot ↔ Holds (i :: rest) slot ∧ i.last < slot := by
  obtain ⟨-, -, -, hrest⟩ := h
  rw [holds_cons]
  constructor
  · intro hs
    have hbeyond : i.last + 2 ≤ slot := hrest.le_of_holds hs
    exact ⟨.inr hs, by omega⟩
  · rintro ⟨hhas | hs, hlast⟩
    · have := hhas.2
      omega
    · exact hs

theorem holds_insertInterval (h : Ascending low intervals) (hab : a ≤ b) :
    Holds (insertInterval a b intervals) slot ↔
      (a ≤ slot ∧ slot ≤ b) ∨ Holds intervals slot := by
  induction intervals generalizing low a b with
  | nil => simp [insertInterval, holds_cons, not_holds_nil, Interval.Has]
  | cons i rest ih =>
    obtain ⟨-, hi, -, hrest⟩ := h
    rw [insertInterval]
    split
    · exact holds_cons
    · split
      · rw [holds_cons, holds_cons, ih hrest hab]
        exact or_left_comm
      · -- the two intervals overlap or touch, so together they are one
        rw [ih hrest (by omega), holds_cons, ← or_assoc]
        refine or_congr_left ?_
        unfold Interval.Has
        omega

/-! ## One form for each set -/

theorem Ascending.holds_first (h : Ascending low (i :: rest)) : Holds (i :: rest) i.first :=
  holds_cons.2 (.inl ⟨Nat.le_refl _, h.2.1⟩)

/-- The first interval starts at the least slot. -/
theorem Ascending.first_le (h : Ascending low (i :: rest)) (h' : Ascending low' (j :: others))
    (hs : ∀ slot, Holds (j :: others) slot → Holds (i :: rest) slot) : i.first ≤ j.first := by
  have hfrom : Ascending i.first (i :: rest) := ⟨Nat.le_refl _, h.2⟩
  exact hfrom.le_of_holds (hs _ h'.holds_first)

/-- The first interval ends before the first slot that is missing. -/
theorem Ascending.last_le (h : Ascending low (i :: rest))
    (hs : ∀ slot, Holds (j :: others) slot → Holds (i :: rest) slot)
    (hfirst : i.first = j.first) : j.last ≤ i.last := by
  by_contra hlast
  have hnext : Holds (j :: others) (i.last + 1) := by
    have := h.2.1
    exact holds_cons.2 (.inl ⟨by omega, by omega⟩)
  have hbeyond : Holds rest (i.last + 1) := h.holds_rest.2 ⟨hs _ hnext, by omega⟩
  have := Ascending.le_of_holds h.2.2.2 hbeyond
  omega

theorem Ascending.eq_of_holds_iff (h : Ascending low intervals) (h' : Ascending low' others)
    (hs : ∀ slot, Holds intervals slot ↔ Holds others slot) : intervals = others := by
  induction intervals generalizing low low' others with
  | nil =>
    cases others with
    | nil => rfl
    | cons j others => exact absurd ((hs _).2 h'.holds_first) not_holds_nil
  | cons i rest ih =>
    cases others with
    | nil => exact absurd ((hs _).1 h.holds_first) not_holds_nil
    | cons j others =>
      have hfirst : i.first = j.first :=
        Nat.le_antisymm (h.first_le h' fun slot => (hs slot).2)
          (h'.first_le h fun slot => (hs slot).1)
      have hlast : i.last = j.last :=
        Nat.le_antisymm (h'.last_le (fun slot => (hs slot).1) hfirst.symm)
          (h.last_le (fun slot => (hs slot).2) hfirst)
      have hrest : rest = others := by
        apply ih h.2.2.2 h'.2.2.2
        intro slot
        rw [h.holds_rest, h'.holds_rest, hs slot, hlast]
      have hij : i = j := by
        cases i
        cases j
        simp_all
      rw [hij, hrest]

/-! ## Sorting and merging -/

/-- Merges an interval with those after it that it overlaps or touches, and these likewise. -/
def mergeFrom (i : Interval) : List Interval → List Interval
  | [] => [i]
  | j :: rest =>
    if j.first ≤ i.last + 1 then mergeFrom ⟨i.first, max i.last j.last⟩ rest
    else i :: mergeFrom j rest

/-- Merges intervals that come in ascending order. -/
def mergeAll : List Interval → List Interval
  | [] => []
  | i :: rest => mergeFrom i rest

/-- The bounds are in order and below the number of slots. -/
def Interval.Valid (i : Interval) : Prop := i.first ≤ i.last ∧ i.last < slotCount

theorem mergeFrom_ascending (hlow : low ≤ i.first) (hi : i.Valid) (hrest : ∀ j ∈ rest, j.Valid) :
    Ascending low (mergeFrom i rest) := by
  induction rest generalizing low i with
  | nil => exact ⟨hlow, hi.1, hi.2, trivial⟩
  | cons j rest ih =>
    obtain ⟨hj, hrest⟩ := List.forall_mem_cons.1 hrest
    unfold Interval.Valid at hi hj
    rw [mergeFrom]
    split
    · exact ih hlow ⟨show i.first ≤ max i.last j.last by omega,
        show max i.last j.last < slotCount by omega⟩ hrest
    · exact ⟨hlow, hi.1, hi.2, ih (show i.last + 2 ≤ j.first by omega) hj hrest⟩

theorem holds_mergeFrom (hsorted : (i :: rest).Pairwise fun i j => i.first ≤ j.first)
    (hi : i.Valid) (hrest : ∀ j ∈ rest, j.Valid) :
    Holds (mergeFrom i rest) slot ↔ Holds (i :: rest) slot := by
  induction rest generalizing i with
  | nil => rfl
  | cons j rest ih =>
    obtain ⟨hfirst, hafter⟩ := List.pairwise_cons.1 hsorted
    obtain ⟨hij, hbefore⟩ := List.forall_mem_cons.1 hfirst
    obtain ⟨hj, hrest⟩ := List.forall_mem_cons.1 hrest
    rw [mergeFrom]
    split
    · unfold Interval.Valid at hi hj
      have hboth : (Interval.mk i.first (max i.last j.last)).Valid :=
        ⟨show i.first ≤ max i.last j.last by omega, show max i.last j.last < slotCount by omega⟩
      have hsorted' : (Interval.mk i.first (max i.last j.last) :: rest).Pairwise
          fun i j => i.first ≤ j.first :=
        List.pairwise_cons.2 ⟨hbefore, (List.pairwise_cons.1 hafter).2⟩
      rw [ih hsorted' hboth hrest, holds_cons, holds_cons, holds_cons, ← or_assoc]
      refine or_congr_left ?_
      unfold Interval.Has
      dsimp only
      omega
    · rw [holds_cons, ih hafter hj hrest, ← holds_cons]

theorem mergeAll_ascending (h : ∀ i ∈ intervals, i.Valid) : Ascending 0 (mergeAll intervals) := by
  cases intervals with
  | nil => trivial
  | cons i rest =>
    obtain ⟨hi, hrest⟩ := List.forall_mem_cons.1 h
    exact mergeFrom_ascending (Nat.zero_le i.first) hi hrest

theorem holds_mergeAll (hsorted : intervals.Pairwise fun i j => i.first ≤ j.first)
    (h : ∀ i ∈ intervals, i.Valid) : Holds (mergeAll intervals) slot ↔ Holds intervals slot := by
  cases intervals with
  | nil => rfl
  | cons i rest =>
    obtain ⟨hi, hrest⟩ := List.forall_mem_cons.1 h
    exact holds_mergeFrom hsorted hi hrest

/-- The intervals with one more, in ascending order of their bounds. -/
def sortedWith (intervals : List Interval) (i : Interval) : List Interval :=
  (intervals ++ [i]).mergeSort Interval.before

/-- An insert stores what comes of adding the interval, sorting and merging. -/
theorem insertInterval_eq_mergeAll (h : Ascending 0 intervals) (hab : (Interval.mk a b).Valid) :
    insertInterval a b intervals = mergeAll (sortedWith intervals ⟨a, b⟩) := by
  have hperm : (sortedWith intervals ⟨a, b⟩).Perm (intervals ++ [⟨a, b⟩]) :=
    List.mergeSort_perm _ Interval.before
  have hsorted : (sortedWith intervals ⟨a, b⟩).Pairwise fun i j => i.first ≤ j.first :=
    (List.pairwise_mergeSort Interval.before_trans Interval.before_total _).imp
      Interval.first_le_of_before
  have hvalid : ∀ i ∈ sortedWith intervals ⟨a, b⟩, i.Valid := by
    intro i hi
    rcases List.mem_append.1 (hperm.mem_iff.1 hi) with hi | hi
    · exact ⟨(h.ordered hi).2, h.last_lt hi⟩
    · rw [List.mem_singleton.1 hi]
      exact hab
  have hinsert : Ascending 0 (insertInterval a b intervals) :=
    insertInterval_ascending h (Nat.zero_le a) hab.1 hab.2
  -- both forms are canonical, so it is enough that they hold the same slots
  apply hinsert.eq_of_holds_iff (mergeAll_ascending hvalid)
  intro slot
  rw [holds_insertInterval h hab.1, holds_mergeAll hsorted hvalid, holds_perm hperm, holds_append,
    holds_cons, or_comm]
  simp [not_holds_nil, Interval.Has]

end Holds

theorem Ascending.separated {low : Nat} {intervals : List Interval} (h : Ascending low intervals) :
    intervals.Pairwise fun i j => i.last + 1 < j.first := by
  induction intervals generalizing low with
  | nil => exact .nil
  | cons i rest ih =>
    obtain ⟨-, -, -, hrest⟩ := h
    refine List.pairwise_cons.2 ⟨fun j hj => ?_, ih hrest⟩
    have hgap : i.last + 2 ≤ j.first := (hrest.ordered hj).1
    omega

namespace SlotRange

variable {r r' : SlotRange} {P : Nat → Prop} {slot : Nat}

/-! ## Reading a range -/

/-- The range stands for the slots with a property: it stores them in ascending intervals, with a
missing slot between two of them, and all its readers agree. -/
structure Represents (r : SlotRange) (P : Nat → Prop) : Prop where
  bounds : ∀ i ∈ r.intervals, i.first ≤ i.last ∧ i.last < slotCount
  separated : r.intervals.Pairwise fun i j => i.last + 1 < j.first
  contains_iff : ∀ slot, r.contains slot ↔ P slot
  mem_slots : ∀ slot, slot ∈ r.slots ↔ P slot
  /-- The slots come in strictly ascending order, so each one once. -/
  ascending : r.slots.Pairwise (· < ·)
  size : r.size = r.slots.length
  isEmpty_iff : r.isEmpty ↔ ∀ slot, ¬ P slot

theorem contains_iff_holds : r.contains slot ↔ Holds r.intervals slot := contains_iff

theorem slots_eq (r : SlotRange) : r.slots = r.intervals.flatMap Interval.slots := by
  apply List.flatMap_congr
  intro i hi
  have hle : i.first ≤ i.last := (r.ascending.ordered hi).2
  unfold Interval.slots Interval.size
  congr 1
  omega

theorem mem_slots_iff : slot ∈ r.slots ↔ r.contains slot := by
  rw [slots_eq, List.mem_flatMap, contains_iff]
  refine exists_congr fun i => and_congr_right fun hi => ?_
  exact Interval.mem_slots (r.ascending.ordered hi).2

theorem pairwise_slots (r : SlotRange) : r.slots.Pairwise (· < ·) := by
  rw [slots_eq, List.pairwise_flatMap]
  refine ⟨fun i _ => i.pairwise_slots, ?_⟩
  -- of two intervals, the first one ends before the second one starts
  apply r.ascending.separated.imp_of_mem
  intro i j hi hj hgap x hx y hy
  have hx' : i.Has x := (Interval.mem_slots (r.ascending.ordered hi).2).1 hx
  have hy' : j.Has y := (Interval.mem_slots (r.ascending.ordered hj).2).1 hy
  unfold Interval.Has at hx' hy'
  omega

theorem size_eq (r : SlotRange) : r.size = r.slots.length := by
  rw [slots_eq, Interval.length_flatMap_slots]
  rfl

theorem isEmpty_iff_not_contains : r.isEmpty ↔ ∀ slot, ¬ r.contains slot := by
  obtain ⟨intervals, h⟩ := r
  cases intervals with
  | nil => simp [isEmpty, contains]
  | cons i rest =>
    have hfirst : Holds (i :: rest) i.first := h.holds_first
    constructor
    · intro hempty
      cases hempty
    · intro hnone
      exact absurd (contains_iff_holds.2 hfirst) (hnone i.first)

/-- Every range stands for the slots that it contains. -/
theorem represents_contains (r : SlotRange) : r.Represents fun slot => r.contains slot where
  bounds _ hi := ⟨(r.ascending.ordered hi).2, r.ascending.last_lt hi⟩
  separated := r.ascending.separated
  contains_iff _ := Iff.rfl
  mem_slots _ := mem_slots_iff
  ascending := r.pairwise_slots
  size := r.size_eq
  isEmpty_iff := isEmpty_iff_not_contains

theorem represents_of_contains (h : ∀ slot, r.contains slot ↔ P slot) : r.Represents P := by
  have hP : (fun slot => r.contains slot = true) = P := funext fun slot => propext (h slot)
  rw [← hP]
  exact r.represents_contains

theorem eq_iff_contains : r = r' ↔ ∀ slot, r.contains slot = r'.contains slot := by
  constructor
  · rintro rfl slot
    rfl
  · intro h
    have hintervals : r.intervals = r'.intervals := by
      apply r.ascending.eq_of_holds_iff r'.ascending
      intro slot
      rw [← contains_iff_holds, ← contains_iff_holds, h slot]
    cases r
    cases r'
    simp_all

/-! ## Inserts -/

theorem insert_of_valid (r : SlotRange) {i : Interval} (h : i.Valid) :
    ∃ r', r.insert i.first i.last = .ok r' ∧
      r'.intervals = insertInterval i.first i.last r.intervals := by
  unfold insert
  rw [dif_neg (Nat.not_lt.2 h.1), dif_neg (Nat.not_le.2 h.2)]
  exact ⟨_, rfl, rfl⟩

theorem insert_of_not_valid (r : SlotRange) {i : Interval} (h : ¬ i.Valid) :
    ∃ e, r.insert i.first i.last = .error e := by
  unfold insert
  by_cases hle : i.last < i.first
  · exact ⟨_, dif_pos hle⟩
  · have hout : slotCount ≤ i.last := by
      unfold Interval.Valid at h
      omega
    rw [dif_neg hle]
    exact ⟨_, dif_pos hout⟩

theorem insert_ok {i : Interval} (h : r.insert i.first i.last = .ok r') :
    i.Valid ∧ r'.intervals = insertInterval i.first i.last r.intervals := by
  have hvalid : i.Valid := by
    by_contra hrejected
    obtain ⟨e, he⟩ := r.insert_of_not_valid hrejected
    rw [he] at h
    cases h
  obtain ⟨r'', hr'', hintervals⟩ := r.insert_of_valid hvalid
  obtain rfl := Except.ok.inj (h.symm.trans hr'')
  exact ⟨hvalid, hintervals⟩

theorem contains_of_insert {i : Interval} (h : r.insert i.first i.last = .ok r') :
    r'.contains slot ↔ r.contains slot ∨ i.Has slot := by
  obtain ⟨hvalid, hintervals⟩ := insert_ok h
  rw [contains_iff_holds, contains_iff_holds, hintervals,
    holds_insertInterval r.ascending hvalid.1]
  exact or_comm

/-- Inserts one after the other. One that is rejected leaves the range as it is. -/
def insertAll (r : SlotRange) (inserts : List Interval) : SlotRange :=
  inserts.foldl (fun r i => (r.insert i.first i.last).toOption.getD r) r

/-- The slot is in one of the inserts that are accepted. -/
def Inserted (inserts : List Interval) (slot : Nat) : Prop := ∃ i ∈ inserts, i.Valid ∧ i.Has slot

section InsertAll

variable {i : Interval} {rest : List Interval}

theorem insertAll_cons_of_ok (h : r.insert i.first i.last = .ok r') :
    r.insertAll (i :: rest) = r'.insertAll rest := by
  unfold insertAll
  rw [List.foldl_cons, h]
  rfl

theorem insertAll_cons_of_error {e : Rejection} (h : r.insert i.first i.last = .error e) :
    r.insertAll (i :: rest) = r.insertAll rest := by
  unfold insertAll
  rw [List.foldl_cons, h]
  rfl

theorem inserted_cons :
    Inserted (i :: rest) slot ↔ (i.Valid ∧ i.Has slot) ∨ Inserted rest slot := by
  simp [Inserted]

end InsertAll

theorem contains_insertAll (r : SlotRange) (inserts : List Interval) :
    (r.insertAll inserts).contains slot ↔ r.contains slot ∨ Inserted inserts slot := by
  induction inserts generalizing r with
  | nil => simp [insertAll, Inserted]
  | cons i rest ih =>
    rw [inserted_cons]
    by_cases h : i.Valid
    · obtain ⟨r', hr', -⟩ := r.insert_of_valid h
      rw [insertAll_cons_of_ok hr', ih, contains_of_insert hr', and_iff_right h, or_assoc]
    · obtain ⟨e, he⟩ := r.insert_of_not_valid h
      rw [insertAll_cons_of_error he, ih]
      simp [h]

theorem represents_insertAll (inserts : List Interval) :
    (empty.insertAll inserts).Represents (Inserted inserts) := by
  apply represents_of_contains
  intro slot
  rw [contains_insertAll]
  simp [empty, contains]

/-! ## Lists of slots -/

/-- The interval of one slot. -/
def single (slot : Nat) : Interval := ⟨slot, slot⟩

theorem single_valid : (single slot).Valid ↔ slot < slotCount := and_iff_right (Nat.le_refl slot)

theorem ofSlots_eq (slots : List Nat) : ofSlots slots =
    (slots.map single).foldlM (fun r i => r.insert i.first i.last) empty := by
  rw [List.foldlM_map]
  rfl

theorem foldlM_insert_of_valid {inserts : List Interval} (h : ∀ i ∈ inserts, i.Valid) :
    inserts.foldlM (fun r i => r.insert i.first i.last) r = .ok (r.insertAll inserts) := by
  induction inserts generalizing r with
  | nil => rfl
  | cons i rest ih =>
    obtain ⟨hi, hrest⟩ := List.forall_mem_cons.1 h
    obtain ⟨r', hr', -⟩ := r.insert_of_valid hi
    rw [List.foldlM_cons, hr', insertAll_cons_of_ok hr']
    exact ih hrest

theorem valid_of_foldlM_insert {inserts : List Interval}
    (h : inserts.foldlM (fun r i => r.insert i.first i.last) r = .ok r') :
    ∀ i ∈ inserts, i.Valid := by
  induction inserts generalizing r with
  | nil => exact List.forall_mem_nil _
  | cons i rest ih =>
    rw [List.foldlM_cons] at h
    rcases hi : r.insert i.first i.last with e | next
    · rw [hi] at h
      cases h
    · rw [hi] at h
      exact List.forall_mem_cons.2 ⟨(insert_ok hi).1, ih h⟩

theorem inserted_singles {slots : List Nat} (h : ∀ slot ∈ slots, slot < slotCount) :
    Inserted (slots.map single) slot ↔ slot ∈ slots := by
  unfold Inserted
  constructor
  · rintro ⟨i, hi, -, hle, hge⟩
    obtain ⟨other, hother, rfl⟩ := List.mem_map.1 hi
    rwa [Nat.le_antisymm hge hle]
  · intro hslot
    have hvalid : (single slot).Valid := single_valid.2 (h slot hslot)
    exact ⟨_, List.mem_map_of_mem hslot, hvalid, Nat.le_refl slot, Nat.le_refl slot⟩

/-- A list of slots gives the range of these slots, unless one of them does not exist. -/
theorem represents_ofSlots (slots : List Nat) :
    ((∃ r, ofSlots slots = .ok r) ↔ ∀ slot ∈ slots, slot < slotCount) ∧
    ∀ r, ofSlots slots = .ok r → r.Represents (· ∈ slots) := by
  have hvalid : (∀ i ∈ slots.map single, i.Valid) ↔ ∀ slot ∈ slots, slot < slotCount := by
    simp only [List.forall_mem_map, single_valid]
  have hlt : ∀ r, ofSlots slots = .ok r → ∀ slot ∈ slots, slot < slotCount := by
    intro r hr
    rw [ofSlots_eq] at hr
    exact hvalid.1 (valid_of_foldlM_insert hr)
  have hok : (∀ slot ∈ slots, slot < slotCount) →
      ofSlots slots = .ok (empty.insertAll (slots.map single)) := by
    intro h
    rw [ofSlots_eq]
    exact foldlM_insert_of_valid (hvalid.2 h)
  refine ⟨⟨fun ⟨r, hr⟩ => hlt r hr, fun h => ⟨_, hok h⟩⟩, fun r hr => ?_⟩
  obtain rfl := Except.ok.inj (hr.symm.trans (hok (hlt r hr)))
  apply represents_of_contains
  intro slot
  rw [(represents_insertAll _).contains_iff, inserted_singles (hlt _ hr)]

/-! ## Every range -/

/-- What an insert comes to. -/
structure Inserts (r : SlotRange) (i : Interval) : Prop where
  accepted_iff : (∃ r', r.insert i.first i.last = .ok r') ↔ i.first ≤ i.last ∧ i.last < slotCount
  /-- An insert that is accepted adds its slots, and sorting and merging gives its intervals. -/
  adds : ∀ r', r.insert i.first i.last = .ok r' →
    r'.intervals = mergeAll (sortedWith r.intervals i) ∧
    r'.Represents fun slot => r.contains slot ∨ (i.first ≤ slot ∧ slot ≤ i.last)
  /-- After one that is rejected, all goes on as if it had not been tried. -/
  keeps : ∀ e rest, r.insert i.first i.last = .error e → r.insertAll (i :: rest) = r.insertAll rest

theorem inserts (r : SlotRange) (i : Interval) : r.Inserts i where
  accepted_iff := by
    constructor
    · rintro ⟨r', hr'⟩
      exact (insert_ok hr').1
    · intro h
      obtain ⟨r', hr', -⟩ := r.insert_of_valid h
      exact ⟨r', hr'⟩
  adds := by
    intro r' h
    obtain ⟨hvalid, hintervals⟩ := insert_ok h
    refine ⟨?_, represents_of_contains fun slot => contains_of_insert h⟩
    rw [hintervals, insertInterval_eq_mergeAll r.ascending hvalid]
  keeps _ _ h := insertAll_cons_of_error h

/-- Ranges are canonical sets of slots: whatever was inserted or listed, in whatever order, they
stand for exactly these slots and store them in the one way there is, so two of them are equal
exactly if they hold the same slots. -/
theorem slot_range_canonical :
    (∀ inserts, (empty.insertAll inserts).Represents (Inserted inserts)) ∧
    (∀ slots, ((∃ r, ofSlots slots = .ok r) ↔ ∀ slot ∈ slots, slot < slotCount) ∧
      ∀ r, ofSlots slots = .ok r → r.Represents (· ∈ slots)) ∧
    (∀ r r' : SlotRange, r = r' ↔ ∀ slot, r.contains slot = r'.contains slot) ∧
    (∀ inserts inserts', empty.insertAll inserts = empty.insertAll inserts' ↔
      ∀ slot, Inserted inserts slot ↔ Inserted inserts' slot) ∧
    ∀ (r : SlotRange) (i : Interval), r.Inserts i := by
  refine ⟨represents_insertAll, represents_ofSlots, fun _ _ => eq_iff_contains, ?_, inserts⟩
  intro inserts inserts'
  rw [eq_iff_contains]
  refine forall_congr' fun slot => ?_
  rw [Bool.eq_iff_iff, (represents_insertAll inserts).contains_iff,
    (represents_insertAll inserts').contains_iff]

/-- Intervals that touch or lie in another one are merged, and a rejected one is left out. -/
example :
    (empty.insertAll [⟨0, 10⟩, ⟨30, 30⟩, ⟨20, 16384⟩, ⟨11, 20⟩, ⟨5, 8⟩]).intervals =
      [⟨0, 20⟩, ⟨30, 30⟩] := by
  decide

end SlotRange

end SlotRouter
