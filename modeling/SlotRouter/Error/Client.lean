/-!
# Errors of a single connection

What a connection to one node can report: an error of its own, an error reply of the server, or a
failure of the network.

* `ClientError.Kind`, `IoKind`: the kinds, with their names and usual texts;
* `ClientError`: an error, with `kind`, `text` and `detail`;
* `ClientError.alike`: equality up to texts; network failures are never alike.
-/

namespace SlotRouter

inductive ClientError.Kind
  | responseError
  | parseError
  | authenticationFailed
  | typeError
  | execAbortError
  | busyLoadingError
  | noScriptError
  | invalidClientConfig
  | moved
  | ask
  | tryAgain
  | clusterDown
  | crossSlot
  | masterDown
  | ioError
  | clientError
  | extensionError
  | readOnly
  | masterNameNotFoundBySentinel
  | noValidReplicasFoundBySentinel
  | emptySentinelList
  | notBusy
  | clusterConnectionNotFound
  | noSub
  | resp3NotSupported
  deriving DecidableEq, Repr, Inhabited

namespace ClientError.Kind

/-- The name in error texts. -/
def name : Kind → String
  | responseError => "ResponseError"
  | parseError => "ParseError"
  | authenticationFailed => "AuthenticationFailed"
  | typeError => "TypeError"
  | execAbortError => "ExecAbortError"
  | busyLoadingError => "BusyLoadingError"
  | noScriptError => "NoScriptError"
  | invalidClientConfig => "InvalidClientConfig"
  | moved => "Moved"
  | ask => "Ask"
  | tryAgain => "TryAgain"
  | clusterDown => "ClusterDown"
  | crossSlot => "CrossSlot"
  | masterDown => "MasterDown"
  | ioError => "IoError"
  | clientError => "ClientError"
  | extensionError => "ExtensionError"
  | readOnly => "ReadOnly"
  | masterNameNotFoundBySentinel => "MasterNameNotFoundBySentinel"
  | noValidReplicasFoundBySentinel => "NoValidReplicasFoundBySentinel"
  | emptySentinelList => "EmptySentinelList"
  | notBusy => "NotBusy"
  | clusterConnectionNotFound => "ClusterConnectionNotFound"
  | noSub => "NoSub"
  | resp3NotSupported => "RESP3NotSupported"

/-- All kinds. -/
def all : List Kind :=
  [responseError, parseError, authenticationFailed, typeError, execAbortError, busyLoadingError,
   noScriptError, invalidClientConfig, moved, ask, tryAgain, clusterDown, crossSlot, masterDown,
   ioError, clientError, extensionError, readOnly, masterNameNotFoundBySentinel,
   noValidReplicasFoundBySentinel, emptySentinelList, notBusy, clusterConnectionNotFound, noSub,
   resp3NotSupported]

/-- The kind with a given name. -/
def ofName? (name : String) : Option Kind := all.find? (·.name == name)

end ClientError.Kind

inductive IoKind
  | notFound
  | permissionDenied
  | connectionRefused
  | connectionReset
  | connectionAborted
  | notConnected
  | brokenPipe
  | wouldBlock
  | timedOut
  | unexpectedEof
  | invalidData
  | interrupted
  | other
  deriving DecidableEq, Repr, Inhabited

namespace IoKind

/-- The name of the kind. -/
def name : IoKind → String
  | notFound => "NotFound"
  | permissionDenied => "PermissionDenied"
  | connectionRefused => "ConnectionRefused"
  | connectionReset => "ConnectionReset"
  | connectionAborted => "ConnectionAborted"
  | notConnected => "NotConnected"
  | brokenPipe => "BrokenPipe"
  | wouldBlock => "WouldBlock"
  | timedOut => "TimedOut"
  | unexpectedEof => "UnexpectedEof"
  | invalidData => "InvalidData"
  | interrupted => "Interrupted"
  | other => "Other"

def text : IoKind → String
  | notFound => "entity not found"
  | permissionDenied => "permission denied"
  | connectionRefused => "connection refused"
  | connectionReset => "connection reset"
  | connectionAborted => "connection aborted"
  | notConnected => "not connected"
  | brokenPipe => "broken pipe"
  | wouldBlock => "operation would block"
  | timedOut => "timed out"
  | unexpectedEof => "unexpected end of file"
  | invalidData => "invalid data"
  | interrupted => "operation interrupted"
  | other => "other error"

/-- All kinds. -/
def all : List IoKind :=
  [notFound, permissionDenied, connectionRefused, connectionReset, connectionAborted, notConnected,
   brokenPipe, wouldBlock, timedOut, unexpectedEof, invalidData, interrupted, other]

/-- The kind with a given name. -/
def ofName? (name : String) : Option IoKind := all.find? (·.name == name)

end IoKind

inductive ClientError
  /-- An error of a known kind. -/
  | described (kind : ClientError.Kind) (description : String) (detail : Option String)
  /-- An error reply with a code of its own. -/
  | extension (code detail : String)
  /-- A failure of the network. -/
  | io (kind : IoKind) (text : String)
  deriving DecidableEq, Repr

namespace ClientError

def kind : ClientError → Kind
  | described kind _ _ => kind
  | extension _ _ => .extensionError
  | io _ _ => .ioError

def detail : ClientError → Option String
  | described _ _ detail => detail
  | extension _ detail => some detail
  | io _ _ => none

def text : ClientError → String
  | described kind description none => description ++ "- " ++ kind.name
  | described kind description (some detail) => description ++ " - " ++ kind.name ++ ": " ++ detail
  | extension code detail => code ++ ": " ++ detail
  | io _ text => text

/-- Same form and same kind, or same code; texts do not count. -/
def alike : ClientError → ClientError → Bool
  | described k _ d, described k' _ d' => k == k' && d.isSome == d'.isSome
  | extension code _, extension code' _ => code == code'
  | _, _ => false

theorem alike_comm (a b : ClientError) : a.alike b = b.alike a := by
  cases a <;> cases b <;> simp [alike, Bool.beq_comm]

/-- A network failure with its usual text. -/
def ofIo (kind : IoKind) : ClientError := .io kind kind.text

end ClientError

end SlotRouter
