/-!
# Replacing parts of a text

* `afterStart? start s`: what follows `start` in a text that begins with it;
* `replaceParts find s`: `s` with the parts that `find` recognises replaced, from left to right.
-/

namespace SlotRouter.Text

def afterStart? : List Char → List Char → Option (List Char)
  | [], s => some s
  | _ :: _, [] => none
  | c :: start, d :: s => if c = d then afterStart? start s else none

/-- A text with its parts replaced; the first `skip` characters belong to a part that is replaced
already. Where a part begins, `find` gives its length and what replaces it. -/
def replaceFrom (find : List Char → Option (Nat × List Char)) : Nat → List Char → List Char
  | _, [] => []
  | skip + 1, _ :: rest => replaceFrom find skip rest
  | 0, c :: rest =>
    match find (c :: rest) with
    | some (length, part) => part ++ replaceFrom find (length - 1) rest
    | none => c :: replaceFrom find 0 rest

def replaceParts (find : List Char → Option (Nat × List Char)) (s : String) : String :=
  String.ofList (replaceFrom find 0 s.toList)

theorem afterStart?_eq_some_iff {start s rest : List Char} :
    afterStart? start s = some rest ↔ s = start ++ rest := by
  induction start generalizing s with
  | nil => simp [afterStart?]
  | cons c start ih =>
    cases s with
    | nil => simp [afterStart?]
    | cons d s =>
      by_cases h : c = d
      · subst h; simp [afterStart?, ih]
      · simp [afterStart?, h, Ne.symm h]

end SlotRouter.Text
