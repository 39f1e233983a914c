import SlotRouter.Text.Decimal
import SlotRouter.Text.Split

/-!
# Node addresses

An address is `host:port`. The port stands behind the last colon, so hosts may hold colons
themselves; brackets around a host are not part of it.

* `port?`: a port number;
* `bareHost`: a host without its brackets;
* `splitAddress?`: host and port of an address;
* `addressText`: the address of a host and a port, always without brackets.
-/

namespace SlotRouter

def port? (s : List Char) : Option UInt16 := (Text.unsigned? 65536 s).map UInt16.ofNat

theorem port?_toDigits (p : UInt16) : port? (Nat.toDigits 10 p.toNat) = some p := by
  rw [port?, Text.unsigned?_toDigits p.toNat_lt]
  simp

def bareHost (s : List Char) : List Char := Text.stripEnd ']' (Text.stripStart '[' s)

def splitAddress? (s : List Char) : Option (List Char × UInt16) := do
  let (host, port) ← Text.cutLast ':' s
  let host := bareHost host
  if host.isEmpty then none
  let port ← port? port
  some (host, port)

def addressText (host : String) (port : UInt16) : String := host ++ ":" ++ toString port

end SlotRouter
