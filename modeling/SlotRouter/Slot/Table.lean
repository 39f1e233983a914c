import SlotRouter.Count
import SlotRouter.Slot.Range

/-!
# Who owns a slot

A table from slots to owners, built from intervals that may overlap.

* `Interval.before`: the order in which intervals claim slots: by first slot, then by last slot;
* `sweep covered claims`: keeps a claim unless it starts within the last kept one, so a kept
  claim is kept whole and a slot never has two owners;
* `SlotTable.ofClaims`: sorts and sweeps; among equal intervals the earlier claim wins;
* `SlotTable.owner?`, `SlotTable.coverage`: reading.
-/

namespace SlotRouter

def Interval.before (i j : Interval) : Bool :=
  i.first < j.first || (i.first == j.first && i.last ≤ j.last)

/-- The number of slots of an interval. -/
def Interval.size (i : Interval) : Nat := i.last - i.first + 1

/-- A claim of an owner on an interval of slots. -/
abbrev Claim (α : Type) := Interval × α

def sweep {α : Type} : Option Nat → List (Claim α) → List (Claim α)
  | _, [] => []
  | none, claim :: rest => claim :: sweep (some claim.1.last) rest
  | some covered, claim :: rest =>
    if claim.1.first ≤ covered then sweep (some covered) rest
    else claim :: sweep (some claim.1.last) rest

/-- The claims that hold, in ascending order. -/
structure SlotTable (α : Type) where
  claims : List (Claim α)

namespace SlotTable

variable {α : Type}

def ofClaims (claims : List (Claim α)) : SlotTable α :=
  ⟨sweep none (claims.mergeSort fun a b => a.1.before b.1)⟩

/-- The owner of a slot: only the first claim that ends at or after the slot can hold it. -/
def owner? (t : SlotTable α) (slot : Nat) : Option α :=
  match t.claims.find? fun claim => slot ≤ claim.1.last with
  | some (i, owner) => if i.first ≤ slot then some owner else none
  | none => none

def coverage (t : SlotTable α) : Nat := total (t.claims.map fun claim => claim.1.size)

end SlotTable

end SlotRouter
