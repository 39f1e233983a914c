import SlotRouter.Slot.Checksum
import SlotRouter.Text.Split

/-!
# The slot of a key

* `Bytes`: keys and arguments are byte sequences, not texts;
* `slotCount`: the number of hash slots of a cluster;
* `hashTag?`: the part of a key that alone decides its slot, if there is one;
* `keySlot`: the slot that a key maps to (`keySlot_lt`);
* `SameSlot keys`: all keys map to one slot, which holds of no keys.
-/

namespace SlotRouter

abbrev Bytes := List UInt8

def slotCount : Nat := 16384

/-- The bytes between the first opening brace and the first closing brace after it, unless there
are none. -/
def hashTag? (key : Bytes) : Option Bytes := do
  let (_, afterOpen) ← Text.cutFirst 0x7b key
  let (tag, _) ← Text.cutFirst 0x7d afterOpen
  if tag.isEmpty then none else some tag

def keySlot (key : Bytes) : Nat := (checksum ((hashTag? key).getD key)).toNat % slotCount

theorem keySlot_lt (key : Bytes) : keySlot key < slotCount := Nat.mod_lt _ (by decide)

def SameSlot : List Bytes → Prop
  | [] => True
  | key :: keys => ∀ other ∈ keys, keySlot other = keySlot key

instance : DecidablePred SameSlot
  | [] => .isTrue trivial
  | key :: keys => inferInstanceAs (Decidable (∀ other ∈ keys, keySlot other = keySlot key))

end SlotRouter
