import SlotRouter.Slot.Table

/-!
# Which claims on slots hold

* `Interval.Has` : a slot lies in an interval;
* `Ascending.interval_unique` : two intervals of one set do not share a slot;
* `sweep_separated`, `sweep_subset`, `sweep_covers` : the claims that hold do not overlap, are among
  those that were made, and one that does not hold starts within one that does;
* `owner?_eq_some_iff` : the owner of a slot is the owner of the one claim that holds on it;
* `owner?_of_claim` : a claim holds exactly if its owner owns the first slot of it;
* `ofClaims_map`, `owner?_map`, `coverage_map` : which claims hold depends on the intervals only.
-/

namespace SlotRouter

variable {α : Type}

/-! ## Intervals -/

/-- The slot lies in the interval. -/
def Interval.Has (i : Interval) (slot : Nat) : Prop := i.first ≤ slot ∧ slot ≤ i.last

theorem SlotRange.contains_iff {r : SlotRange} {slot : Nat} :
    r.contains slot ↔ ∃ i ∈ r.intervals, i.Has slot := by
  simp [SlotRange.contains, Interval.Has]

namespace Ascending

variable {low : Nat} {intervals : List Interval} {i j : Interval} {slot : Nat}

/-- One interval of all slots. -/
theorem whole : Ascending 0 [⟨0, 16383⟩] := ⟨by decide, by decide, by decide, trivial⟩

theorem ordered (h : Ascending low intervals) (hi : i ∈ intervals) :
    low ≤ i.first ∧ i.first ≤ i.last := by
  induction intervals generalizing low with
  | nil => cases hi
  | cons j rest ih =>
    obtain ⟨hlow, hj, -, hrest⟩ := h
    rcases List.mem_cons.1 hi with rfl | hi
    · exact ⟨hlow, hj⟩
    · have := ih hrest hi
      omega

theorem last_lt (h : Ascending low intervals) (hi : i ∈ intervals) : i.last < slotCount := by
  induction intervals generalizing low with
  | nil => cases hi
  | cons j rest ih =>
    obtain ⟨-, -, hlast, hrest⟩ := h
    rcases List.mem_cons.1 hi with rfl | hi
    · exact hlast
    · exact ih hrest hi

/-- Two intervals of one set do not share a slot. -/
theorem interval_unique (h : Ascending low intervals) (hi : i ∈ intervals) (hj : j ∈ intervals)
    (hi' : i.Has slot) (hj' : j.Has slot) : i = j := by
  unfold Interval.Has at hi' hj'
  induction intervals generalizing low with
  | nil => cases hi
  | cons k rest ih =>
    obtain ⟨-, -, -, hrest⟩ := h
    rcases List.mem_cons.1 hi with hi | hi <;> rcases List.mem_cons.1 hj with hj | hj
    · rw [hi, hj]
    · have := ordered hrest hj
      subst hi
      omega
    · have := ordered hrest hi
      subst hj
      omega
    · exact ih hrest hi hj

end Ascending

/-! ## Sweeping -/

/-- The first slots of the claims are no later than their last ones. -/
def Ordered (claims : List (Claim α)) : Prop := ∀ c ∈ claims, c.1.first ≤ c.1.last

/-- Each claim ends before the next ones start. -/
def Separated (claims : List (Claim α)) : Prop := claims.Pairwise fun c d => c.1.last < d.1.first

theorem sweep_sublist (covered : Option Nat) (claims : List (Claim α)) :
    (sweep covered claims).Sublist claims := by
  induction claims generalizing covered with
  | nil => cases covered <;> exact .slnil
  | cons c rest ih =>
    cases covered with
    | none => exact (ih _).cons_cons c
    | some last =>
      rw [sweep]
      split
      · exact (ih _).cons c
      · exact (ih _).cons_cons c

theorem sweep_subset {covered : Option Nat} {claims : List (Claim α)} {c : Claim α}
    (h : c ∈ sweep covered claims) : c ∈ claims := (sweep_sublist covered claims).subset h

theorem sweep_after {covered : Nat} {claims : List (Claim α)} (h : Ordered claims) {c : Claim α}
    (hc : c ∈ sweep (some covered) claims) : covered < c.1.first := by
  induction claims generalizing covered with
  | nil => cases hc
  | cons d rest ih =>
    obtain ⟨hd, hrest⟩ := List.forall_mem_cons.1 h
    rw [sweep] at hc
    split at hc
    · exact ih hrest hc
    · rcases List.mem_cons.1 hc with rfl | hc
      · omega
      · have := ih hrest hc
        omega

theorem sweep_separated (covered : Option Nat) {claims : List (Claim α)} (h : Ordered claims) :
    Separated (sweep covered claims) := by
  induction claims generalizing covered with
  | nil => cases covered <;> exact .nil
  | cons c rest ih =>
    obtain ⟨-, hrest⟩ := List.forall_mem_cons.1 h
    have hkept : Separated (c :: sweep (some c.1.last) rest) :=
      List.pairwise_cons.2 ⟨fun d hd => sweep_after hrest hd, ih _ hrest⟩
    cases covered with
    | none => exact hkept
    | some last =>
      rw [sweep]
      split
      · exact ih _ hrest
      · exact hkept

/-- A claim that is dropped starts within what is covered. -/
theorem sweep_covers (covered : Option Nat) {claims : List (Claim α)}
    (h : claims.Pairwise fun c d => c.1.first ≤ d.1.first) {c : Claim α} (hc : c ∈ claims) :
    (∃ last ∈ covered, c.1.first ≤ last) ∨ c ∈ sweep covered claims ∨
      ∃ d ∈ sweep covered claims, d.1.Has c.1.first := by
  induction claims generalizing covered with
  | nil => cases hc
  | cons d rest ih =>
    obtain ⟨hd, hrest⟩ := List.pairwise_cons.1 h
    have hkept : c ∈ d :: sweep (some d.1.last) rest ∨
        ∃ e ∈ d :: sweep (some d.1.last) rest, e.1.Has c.1.first := by
      rcases List.mem_cons.1 hc with rfl | hc
      · exact .inl List.mem_cons_self
      · rcases ih (some d.1.last) hrest hc with ⟨last, hl, hle⟩ | hmem | ⟨e, he, hhas⟩
        · cases hl
          exact .inr ⟨d, List.mem_cons_self, hd c hc, hle⟩
        · exact .inl (List.mem_cons_of_mem d hmem)
        · exact .inr ⟨e, List.mem_cons_of_mem d he, hhas⟩
    cases covered with
    | none => exact .inr hkept
    | some last =>
      rw [sweep]
      split
      · rcases List.mem_cons.1 hc with rfl | hc
        · exact .inl ⟨last, rfl, ‹_›⟩
        · exact ih _ hrest hc
      · exact .inr hkept

/-! ## Tables -/

theorem Interval.before_trans (i j k : Interval) (h : i.before j) (h' : j.before k) :
    i.before k := by
  simp only [Interval.before, Bool.or_eq_true, Bool.and_eq_true, decide_eq_true_eq, beq_iff_eq] at *
  omega

theorem Interval.before_total (i j : Interval) : i.before j || j.before i := by
  simp only [Interval.before, Bool.or_eq_true, Bool.and_eq_true, decide_eq_true_eq, beq_iff_eq]
  omega

theorem Interval.first_le_of_before {i j : Interval} (h : i.before j) : i.first ≤ j.first := by
  simp only [Interval.before, Bool.or_eq_true, Bool.and_eq_true, decide_eq_true_eq, beq_iff_eq] at h
  omega

namespace SlotTable

variable {claims : List (Claim α)} {c : Claim α}

theorem sorted_first (claims : List (Claim α)) :
    (claims.mergeSort fun a b => a.1.before b.1).Pairwise fun c d => c.1.first ≤ d.1.first :=
  (List.pairwise_mergeSort (fun a b c => Interval.before_trans a.1 b.1 c.1)
    (fun a b => Interval.before_total a.1 b.1) claims).imp Interval.first_le_of_before

theorem mem_of_mem_ofClaims (h : c ∈ (ofClaims claims).claims) : c ∈ claims :=
  List.mem_mergeSort.1 (sweep_subset h)

theorem separated_ofClaims (h : Ordered claims) : Separated (ofClaims claims).claims :=
  sweep_separated none fun c hc => h c (List.mem_mergeSort.1 hc)

/-- A claim that does not hold starts within one that does. -/
theorem ofClaims_covers (hc : c ∈ claims) :
    c ∈ (ofClaims claims).claims ∨ ∃ d ∈ (ofClaims claims).claims, d.1.Has c.1.first := by
  rcases sweep_covers none (sorted_first claims) (List.mem_mergeSort.2 hc) with ⟨_, hl, _⟩ | h
  · cases hl
  · exact h

/-- The owner of a slot is the owner of the claim that holds on it. -/
theorem owner?_eq_some_iff {t : SlotTable α} (h : Separated t.claims) {slot : Nat} {owner : α} :
    t.owner? slot = some owner ↔ ∃ i, (i, owner) ∈ t.claims ∧ i.Has slot := by
  obtain ⟨claims⟩ := t
  unfold owner?
  dsimp only at h ⊢
  induction claims with
  | nil => simp
  | cons c rest ih =>
    obtain ⟨hc, hrest⟩ := List.pairwise_cons.1 h
    rw [List.find?_cons]
    by_cases hlast : slot ≤ c.1.last
    · rw [decide_eq_true hlast]
      dsimp only
      constructor
      · intro hif
        split at hif
        · cases hif
          exact ⟨c.1, List.mem_cons_self, ‹_›, hlast⟩
        · cases hif
      · rintro ⟨i, hi, hfirst, hslot⟩
        rcases List.mem_cons.1 hi with rfl | hi
        · rw [if_pos hfirst]
        · -- the claim that was found ends before all others start
          have := hc _ hi
          dsimp only at this
          omega
    · rw [decide_eq_false hlast]
      dsimp only
      rw [ih hrest]
      constructor
      · rintro ⟨i, hi, hhas⟩
        exact ⟨i, List.mem_cons_of_mem c hi, hhas⟩
      · rintro ⟨i, hi, hfirst, hslot⟩
        rcases List.mem_cons.1 hi with rfl | hi
        · exact absurd hslot hlast
        · exact ⟨i, hi, hfirst, hslot⟩

end SlotTable

/-! ## Other owners -/

section Map

variable {β : Type} (f : α → β)

theorem sweep_map (covered : Option Nat) (claims : List (Claim α)) :
    sweep covered (claims.map (Prod.map id f)) = (sweep covered claims).map (Prod.map id f) := by
  induction claims generalizing covered with
  | nil => cases covered <;> rfl
  | cons claim rest ih =>
    cases covered with
    | none => rw [List.map_cons, sweep, sweep, List.map_cons, ← ih]; rfl
    | some covered =>
      rw [List.map_cons, sweep, sweep]
      simp only [Prod.map_fst, id_eq]
      split
      · exact ih (some covered)
      · rw [List.map_cons, ← ih]

namespace SlotTable

/-- Which claims hold does not depend on who makes them. -/
theorem ofClaims_map (claims : List (Claim α)) :
    (ofClaims (claims.map (Prod.map id f))).claims =
      (ofClaims claims).claims.map (Prod.map id f) := by
  have hsort : (claims.mergeSort fun a b => a.1.before b.1).map (Prod.map id f) =
      (claims.map (Prod.map id f)).mergeSort fun a b => a.1.before b.1 :=
    List.map_mergeSort fun _ _ _ _ => rfl
  unfold ofClaims
  dsimp only
  rw [← sweep_map, hsort]

theorem owner?_map {t : SlotTable α} {u : SlotTable β}
    (h : u.claims = t.claims.map (Prod.map id f)) (slot : Nat) :
    u.owner? slot = (t.owner? slot).map f := by
  have hfind : u.claims.find? (fun claim => slot ≤ claim.1.last) =
      (t.claims.find? fun claim => slot ≤ claim.1.last).map (Prod.map id f) := by
    rw [h, List.find?_map]
    rfl
  unfold owner?
  rw [hfind]
  cases t.claims.find? fun claim => slot ≤ claim.1.last with
  | none => rfl
  | some claim =>
    obtain ⟨i, owner⟩ := claim
    simp only [Option.map_some, Prod.map_apply, id_eq]
    split <;> rfl

theorem coverage_map {t : SlotTable α} {u : SlotTable β}
    (h : u.claims = t.claims.map (Prod.map id f)) : u.coverage = t.coverage := by
  unfold coverage
  rw [h, List.map_map]
  rfl

end SlotTable

end Map

end SlotRouter
