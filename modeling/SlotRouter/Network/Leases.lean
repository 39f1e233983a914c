import SlotRouter.Network.World

/-!
# Bookkeeping of leases

* `acquisitions`, `releases`: the leases taken and given back in a list of events;
* `receipts`: the commands that nodes received;
* `balanced`: every lease was given back once, to the node it was taken from.
-/

namespace SlotRouter

def acquisitions (events : List Event) : List (Node × Nat) := events.filterMap Event.acquired?

def releases (events : List Event) : List (Node × Nat) := events.filterMap Event.released?

def receipts (events : List Event) : List (Node × Command) := events.filterMap Event.received?

/-- The numbers of leases in ascending order. -/
def leaseNumbers (leases : List (Node × Nat)) : List Nat := (leases.map (·.2)).mergeSort

/-- The leases by number. -/
def byNumber (leases : List (Node × Nat)) : List (Node × Nat) :=
  leases.mergeSort fun a b => a.2 ≤ b.2

/-- Lease by lease the same node and number. -/
def sameLeases : List (Node × Nat) → List (Node × Nat) → Bool
  | [], [] => true
  | a :: as, b :: bs => a.1.sameAddress b.1 && a.2 == b.2 && sameLeases as bs
  | _, _ => false

def balanced (events : List Event) : Bool :=
  sameLeases (byNumber (acquisitions events)) (byNumber (releases events))

end SlotRouter
