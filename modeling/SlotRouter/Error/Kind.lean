/-!
# Kinds of cluster errors

Every error of the router carries one of these kinds.

* `ErrorKind.name`: its name in error texts;
* `ErrorKind.category`: its name for display;
* `ErrorKind.IsUsage`: the kinds of calls that were refused as wrong.
-/

namespace SlotRouter

/-- What went wrong, in general. -/
inductive ErrorKind
  /-- The call cannot work against a cluster. -/
  | invalidUsage
  /-- The operation does not exist on a cluster. -/
  | unsupported
  /-- An argument was refused. -/
  | illegalArgument
  /-- The state of the cluster is unknown or inconsistent. -/
  | clusterStateFailure
  /-- A node redirected the command. -/
  | redirect
  /-- A command was redirected more often than allowed. -/
  | tooManyRedirects
  /-- A command on several nodes did not complete in time. -/
  | commandTimeout
  /-- A task ended without a result. -/
  | executionFailure
  /-- The connection to a node failed. -/
  | connectionFailure
  /-- No connection to a node could be had. -/
  | resourceFailure
  /-- A reply does not have the expected form. -/
  | unexpectedResponse
  /-- A node replied with an error. -/
  | serverError
  deriving DecidableEq, Repr, Inhabited

namespace ErrorKind

def name : ErrorKind → String
  | invalidUsage => "InvalidUsage"
  | unsupported => "Unsupported"
  | illegalArgument => "IllegalArgument"
  | clusterStateFailure => "ClusterStateFailure"
  | redirect => "Redirect"
  | tooManyRedirects => "TooManyRedirects"
  | commandTimeout => "CommandTimeout"
  | executionFailure => "ExecutionFailure"
  | connectionFailure => "ConnectionFailure"
  | resourceFailure => "ResourceFailure"
  | unexpectedResponse => "UnexpectedResponse"
  | serverError => "ServerError"

def category : ErrorKind → String
  | invalidUsage => "invalid usage"
  | unsupported => "unsupported in cluster mode"
  | illegalArgument => "illegal argument"
  | clusterStateFailure => "cluster state failure"
  | redirect => "redirect"
  | tooManyRedirects => "too many redirects"
  | commandTimeout => "command timeout"
  | executionFailure => "execution failure"
  | connectionFailure => "connection failure"
  | resourceFailure => "resource failure"
  | unexpectedResponse => "unexpected response"
  | serverError => "server error"

/-- All kinds. -/
def all : List ErrorKind :=
  [invalidUsage, unsupported, illegalArgument, clusterStateFailure, redirect, tooManyRedirects,
   commandTimeout, executionFailure, connectionFailure, resourceFailure, unexpectedResponse,
   serverError]

/-- The kind with a given name. -/
def ofName? (name : String) : Option ErrorKind := all.find? (·.name == name)

def IsUsage (kind : ErrorKind) : Prop :=
  kind = invalidUsage ∨ kind = unsupported ∨ kind = illegalArgument

instance : DecidablePred IsUsage := fun _ => inferInstanceAs (Decidable (_ ∨ _ ∨ _))

end ErrorKind

end SlotRouter
