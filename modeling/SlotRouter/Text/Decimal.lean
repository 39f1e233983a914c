/-!
# Reading decimal numbers

A number is an optional sign followed by at least one ASCII digit, and nothing else. Numbers
outside the asked-for range are refused, they never wrap.

* `digits? s`: the value of a non-empty run of digits;
* `unsigned? bound s`: a number below `bound`, with an optional plus sign;
* `signed? bound s`: a number of `-bound` to `bound - 1`, with an optional sign.
-/

namespace SlotRouter.Text

def digits? (s : List Char) : Option Nat :=
  if !s.isEmpty && s.all Char.isDigit then some (Nat.ofDigitChars 10 s 0) else none

theorem digits?_toDigits (n : Nat) : digits? (Nat.toDigits 10 n) = some n := by
  have hne : Nat.toDigits 10 n ≠ [] := Nat.toDigits_ne_nil
  have hall : (Nat.toDigits 10 n).all Char.isDigit = true := by
    rw [List.all_eq_true]
    intro c hc
    exact Nat.isDigit_of_mem_toDigits (by decide) (by decide) hc
  rw [digits?, hall, Nat.ofDigitChars_toDigits (by decide) (by decide)]
  simp [hne]

theorem notMem_toDigits {c : Char} (h : c.isDigit = false) (n : Nat) :
    c ∉ Nat.toDigits 10 n := by
  intro hmem
  have hdigit : c.isDigit = true := Nat.isDigit_of_mem_toDigits (by decide) (by decide) hmem
  rw [h] at hdigit
  exact Bool.false_ne_true hdigit

/-- Drops one leading plus sign. -/
def dropPlus : List Char → List Char
  | '+' :: rest => rest
  | s => s

def unsigned? (bound : Nat) (s : List Char) : Option Nat :=
  (digits? (dropPlus s)).filter (· < bound)

theorem dropPlus_toDigits (n : Nat) : dropPlus (Nat.toDigits 10 n) = Nat.toDigits 10 n := by
  cases h : Nat.toDigits 10 n with
  | nil => rfl
  | cons c rest =>
    have hc : c.isDigit = true :=
      Nat.isDigit_of_mem_toDigits (n := n) (b := 10) (by decide) (by decide) (by simp [h])
    unfold dropPlus
    split
    · next heq =>
      obtain ⟨rfl, rfl⟩ := List.cons.inj heq
      exact absurd hc (by decide)
    · rfl

theorem unsigned?_toDigits {bound n : Nat} (h : n < bound) :
    unsigned? bound (Nat.toDigits 10 n) = some n := by
  rw [unsigned?, dropPlus_toDigits, digits?_toDigits]
  simp [h]

theorem isDigit_of_digits? {n : Nat} {s : List Char} (h : digits? s = some n) :
    ∀ c ∈ s, c.isDigit = true := by
  rw [digits?] at h
  split at h
  · next hs => exact List.all_eq_true.1 (Bool.and_eq_true_iff.1 hs).2
  · cases h

/-- Nothing but digits and a plus sign is in the text of a number. -/
theorem notMem_of_unsigned? {bound n : Nat} {s : List Char} {c : Char}
    (h : unsigned? bound s = some n) (hdigit : c.isDigit = false) (hplus : c ≠ '+') : c ∉ s := by
  rw [unsigned?, Option.filter_eq_some_iff] at h
  have hrest : c ∉ dropPlus s := by
    intro hmem
    have hc := isDigit_of_digits? h.1 c hmem
    rw [hdigit] at hc
    exact Bool.false_ne_true hc
  unfold dropPlus at hrest
  split at hrest
  · exact List.not_mem_cons_of_ne_of_not_mem hplus hrest
  · exact hrest

def signed? (bound : Nat) : List Char → Option Int
  | '-' :: rest => ((digits? rest).filter (· ≤ bound)).map fun n => -(n : Int)
  | s => (unsigned? bound s).map fun n => (n : Int)

end SlotRouter.Text
