import SlotRouter.Text.Replace

/-!
# Messages that are the same in every run

The number of a task that panicked and the reason for which nobody gave a connection differ from one
run to the next.

* `taskNumber?`, `refusedWait?`: the parts of a message that differ, with what stands for them;
* `stableText`: a message without them.
-/

namespace SlotRouter

/-- The number of a task that panicked; an `N` stands for it. -/
def taskNumber? (s : List Char) : Option (Nat × List Char) := do
  let rest ← Text.afterStart? "task ".toList s
  let number := rest.takeWhile Char.isDigit
  let _ ← Text.afterStart? " panicked".toList (rest.dropWhile Char.isDigit)
  if number.isEmpty then none
  some ("task  panicked".length + number.length, "task N panicked".toList)

/-- The refusal that ended the wait for a connection; nothing stands for it. -/
def refusedWait? (s : List Char) : Option (Nat × List Char) := do
  let wait := "timed out waiting for connection".toList
  let refusal := ": Connection refused (os error 111)".toList
  let _ ← Text.afterStart? (wait ++ refusal) s
  some (wait.length + refusal.length, wait)

def stableText (s : String) : String :=
  Text.replaceParts (fun s => (taskNumber? s).or (refusedWait? s)) s

end SlotRouter
