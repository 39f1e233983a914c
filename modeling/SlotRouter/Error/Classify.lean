import SlotRouter.Address
import SlotRouter.Error.Cluster

/-!
# Classifying errors of a connection

* `ClientError.redirect?`: the redirect that an error reply names, if it names one completely;
* `ClientError.reportedKind`: the kind under which any other error is reported;
* `ClientError.toClusterError`: the error of the router.
-/

namespace SlotRouter

namespace ClientError

/-- Slot and address of the detail of a redirect: the slot is its first word, the address its
second, and further words do not count. -/
def slotAndAddress? (detail : String) : Option (Nat × String × UInt16) :=
  match Text.words detail.toList with
  | slot :: address :: _ => do
    let slot ← Text.unsigned? 65536 slot
    let (host, port) ← splitAddress? address
    some (slot, String.ofList host, port)
  | _ => none

def redirect? : ClientError → Option Redirect
  | described .moved _ (some detail) =>
    (slotAndAddress? detail).map fun (slot, host, port) => ⟨false, slot, host, port⟩
  | described .ask _ (some detail) =>
    (slotAndAddress? detail).map fun (slot, host, port) => ⟨true, slot, host, port⟩
  | _ => none

def reportedKind (e : ClientError) : ErrorKind :=
  match e.kind with
  | .ioError => .connectionFailure
  | .typeError | .parseError => .unexpectedResponse
  | .invalidClientConfig => .illegalArgument
  | .clientError | .crossSlot => .invalidUsage
  | _ => .serverError

def toClusterError (e : ClientError) : ClusterError :=
  match e.redirect? with
  | some redirect => .redirected redirect e
  | none => .client e.reportedKind e

/-- Classifying keeps the redirect of an error. -/
theorem redirect?_toClusterError (e : ClientError) : e.toClusterError.redirect? = e.redirect? := by
  unfold toClusterError
  cases h : e.redirect? <;> rfl

/-- Classifying keeps the error itself. -/
theorem clientError?_toClusterError (e : ClientError) :
    e.toClusterError.clientError? = some e := by
  unfold toClusterError
  cases e.redirect? <;> rfl

end ClientError

end SlotRouter
