/-!
# Redirects

A node that does not serve a slot names the node that does.

* `Redirect`: whether the slot moved or is only asked for elsewhere, the slot, and where to;
* `Redirect.text`: its text in error messages.
-/

namespace SlotRouter

structure Redirect where
  /-- Only the next request goes there, after an `ASKING`; otherwise the slot moved for good. -/
  ask : Bool
  slot : Nat
  host : String
  port : UInt16
  deriving DecidableEq, Repr

def Redirect.text (r : Redirect) : String :=
  (if r.ask then "ASK" else "MOVED") ++ " redirect of slot " ++ toString r.slot ++ " to " ++
    r.host ++ ":" ++ toString r.port

end SlotRouter
