import SlotRouter.Count
import SlotRouter.Slot.Key
import SlotRouter.Text.Split

/-!
# Sets of slots

A `SlotRange` is a set of slots, kept as inclusive intervals in ascending order with at least one
missing slot between neighbours. That form is part of the type (`ascending`), so two ranges with
the same slots are equal.

* `Interval`: first and last slot;
* `Ascending low intervals`: the canonical form, with no slot below `low`;
* `SlotRange.ofBounds`, `insert`, `ofSlots`: building, which refuses bounds in the wrong order or
  beyond the last slot (`Rejection`);
* `contains`, `slots`, `size`, `isEmpty`, `text`: reading.
-/

namespace SlotRouter

structure Interval where
  first : Nat
  last : Nat
  deriving DecidableEq, Repr

def Interval.text (i : Interval) : String :=
  if i.first = i.last then toString i.first else toString i.first ++ "-" ++ toString i.last

/-- Intervals in ascending order from `low` on, each with its bounds in order and below
`slotCount`, and with a gap after each. -/
def Ascending (low : Nat) : List Interval → Prop
  | [] => True
  | i :: rest => low ≤ i.first ∧ i.first ≤ i.last ∧ i.last < slotCount ∧ Ascending (i.last + 2) rest

theorem Ascending.mono {low low' : Nat} {intervals : List Interval} (h : Ascending low intervals)
    (hle : low' ≤ low) : Ascending low' intervals := by
  cases intervals with
  | nil => trivial
  | cons i rest => exact ⟨Nat.le_trans hle h.1, h.2⟩

/-- Adds an interval and merges it with all intervals it overlaps or touches. -/
def insertInterval (a b : Nat) : List Interval → List Interval
  | [] => [⟨a, b⟩]
  | i :: rest =>
    if b + 1 < i.first then ⟨a, b⟩ :: i :: rest
    else if i.last + 1 < a then i :: insertInterval a b rest
    else insertInterval (min a i.first) (max b i.last) rest

theorem insertInterval_ascending {low a b : Nat} {intervals : List Interval}
    (h : Ascending low intervals) (hlow : low ≤ a) (hab : a ≤ b) (hb : b < slotCount) :
    Ascending low (insertInterval a b intervals) := by
  induction intervals generalizing low a b with
  | nil => exact ⟨hlow, hab, hb, trivial⟩
  | cons i rest ih =>
    obtain ⟨h1, h2, h3, h4⟩ := h
    rw [insertInterval]
    split
    · exact ⟨hlow, hab, hb, by show b + 2 ≤ i.first; omega, h2, h3, h4⟩
    · split
      · exact ⟨h1, h2, h3, ih h4 (by omega) hab hb⟩
      · exact ih (h4.mono (by omega)) (by omega) (by omega) (by omega)

structure SlotRange where
  intervals : List Interval
  ascending : Ascending 0 intervals
  deriving DecidableEq

namespace SlotRange

instance : Repr SlotRange := ⟨fun r prec => reprPrec r.intervals prec⟩

/-- The set without slots. -/
def empty : SlotRange := ⟨[], trivial⟩

instance : Inhabited SlotRange := ⟨empty⟩

inductive Rejection
  /-- The first slot comes after the last one. -/
  | startAfterEnd
  /-- The last slot does not exist. -/
  | outOfRange (last : Nat)
  deriving DecidableEq, Repr

def insert (r : SlotRange) (first last : Nat) : Except Rejection SlotRange :=
  if h : last < first then .error .startAfterEnd
  else if h' : slotCount ≤ last then .error (.outOfRange last)
  else .ok ⟨insertInterval first last r.intervals,
    insertInterval_ascending r.ascending (Nat.zero_le _) (by omega) (by omega)⟩

def ofBounds (first last : Nat) : Except Rejection SlotRange := empty.insert first last

def ofSlots (slots : List Nat) : Except Rejection SlotRange :=
  slots.foldlM (fun r slot => r.insert slot slot) empty

def contains (r : SlotRange) (slot : Nat) : Bool :=
  r.intervals.any fun i => i.first ≤ slot && slot ≤ i.last

def slots (r : SlotRange) : List Nat :=
  r.intervals.flatMap fun i => List.range' i.first (i.last + 1 - i.first)

def size (r : SlotRange) : Nat := total (r.intervals.map fun i => i.last - i.first + 1)

def isEmpty (r : SlotRange) : Bool := r.intervals.isEmpty

def text (r : SlotRange) : String := Text.join " " (r.intervals.map Interval.text)

end SlotRange

end SlotRouter
