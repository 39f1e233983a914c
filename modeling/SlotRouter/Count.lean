/-!
# Bounds and totals of counts

Counts travel as words of 64 bits.

* `wordCount`, `halfWordCount`: how many words there are, and how many of them are negative;
* `total`: the sum of a list of numbers.
-/

namespace SlotRouter

def wordCount : Nat := 0x10000000000000000

def halfWordCount : Nat := 0x8000000000000000

def total : List Nat → Nat
  | [] => 0
  | n :: rest => n + total rest

theorem total_append (a b : List Nat) : total (a ++ b) = total a + total b := by
  induction a with
  | nil => simp [total]
  | cons n rest ih => simp only [List.cons_append, total, ih, Nat.add_assoc]

theorem length_flatMap_total {α β : Type} (f : α → List β) (items : List α) :
    (items.flatMap f).length = total (items.map fun a => (f a).length) := by
  induction items with
  | nil => rfl
  | cons a rest ih => rw [List.flatMap_cons, List.length_append, ih, List.map_cons, total]

end SlotRouter
