import SlotRouter.Error.Cause
import SlotRouter.Error.Client
import SlotRouter.Error.Redirect

/-!
# Errors of the router

* `ClusterError`: a cause of the router's own, an error of a connection under the kind it is
  reported as, a redirect, or the failures of several nodes;
* `kind`, `message`, `detail`, `source`: how an error is reported;
* `sameAs`: redirects are compared by where they point, connection errors by kind and form, and
  all others by kind alone.
-/

namespace SlotRouter

inductive ClusterError
  /-- The router gave up by itself. -/
  | cause (cause : Cause)
  /-- A connection failed, reported under the given kind. -/
  | client (kind : ErrorKind) (error : ClientError)
  /-- A node redirected the command. -/
  | redirected (redirect : Redirect) (error : ClientError)
  /-- Several nodes failed, each listed with its address. -/
  | nodeFailures (kind : ErrorKind) (description : String) (failures : List (String × ClusterError))

namespace ClusterError

instance : Inhabited ClusterError := ⟨.cause .noActiveNode⟩

def kind : ClusterError → ErrorKind
  | cause c => c.kind
  | client kind _ => kind
  | redirected _ _ => .redirect
  | nodeFailures kind _ _ => kind

/-- The description, the kind and the detail, if there is one. -/
def headline (description : String) (kind : ErrorKind) : Option String → String
  | none => description ++ " - " ++ kind.name
  | some detail => description ++ " - " ++ kind.name ++ ": " ++ detail

mutual

def message : ClusterError → String
  | cause c => headline c.description c.kind c.detail
  | client kind error => kind.name ++ ": " ++ error.text
  | redirected redirect _ => redirect.text
  | nodeFailures kind description failures =>
    headline description kind none ++ " (" ++ failuresText failures ++ ")"

/-- Each failure after the address of its node. -/
def failuresText : List (String × ClusterError) → String
  | [] => ""
  | [(address, error)] => address ++ ": " ++ message error
  | (address, error) :: rest => address ++ ": " ++ message error ++ "; " ++ failuresText rest

end

def detail : ClusterError → Option String
  | cause c => c.detail
  | client _ error => error.detail
  | redirected _ error => error.detail
  | nodeFailures _ _ _ => none

/-- The redirect of a redirected command. -/
def redirect? : ClusterError → Option Redirect
  | redirected redirect _ => some redirect
  | _ => none

/-- The failures of the single nodes. -/
def failures : ClusterError → List (String × ClusterError)
  | nodeFailures _ _ failures => failures
  | _ => []

/-- The error of the connection, if it came from one. -/
def clientError? : ClusterError → Option ClientError
  | client _ error => some error
  | redirected _ error => some error
  | _ => none

def source : ClusterError → Option String
  | client _ error => some error.text
  | redirected _ error => some error.text
  | nodeFailures _ _ ((_, error) :: _) => some error.message
  | _ => none

/-- The connection to the node failed. -/
def IsConnectionFailure (e : ClusterError) : Prop := e.kind = .connectionFailure

/-- The call itself was refused. -/
def IsUsage (e : ClusterError) : Prop := e.kind.IsUsage

instance : DecidablePred IsConnectionFailure := fun _ => inferInstanceAs (Decidable (_ = _))

instance : DecidablePred IsUsage := fun e => inferInstanceAs (Decidable e.kind.IsUsage)

def sameAs : ClusterError → ClusterError → Bool
  | redirected a _, redirected b _ => a == b
  | client kind a, client kind' b => kind == kind' && a.alike b
  | a, b => a.kind == b.kind

end ClusterError

end SlotRouter
