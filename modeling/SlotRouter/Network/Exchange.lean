import SlotRouter.Network.Run
import SlotRouter.Reply.Decode

/-!
# What is said on one connection

An `Exchange α` is a conversation with one node: commands, each chosen from the replies before it,
and in the end a value or an error, unless it tears the task down. It says nothing about which node
that is.

* `Exchange.query`: one command whose reply is decoded, where an error reply is an error;
* `Exchange.andThen`, `map`, `asking`: longer exchanges;
* `converse`: holds an exchange with a node;
* `withLease`: leases a connection around a run and gives it back however the run ends.
-/

namespace SlotRouter

inductive Exchange (α : Type)
  /-- Ends with a value or an error. -/
  | finish (result : Except ClientError α)
  /-- Sends a command and goes on with the reply, which may hold error replies. -/
  | send (command : Command) (next : Except ClientError Reply → Exchange α)
  /-- Tears the task down with a text. -/
  | collapse (text : String)

namespace Exchange

variable {α β : Type}

def andThen (f : α → Exchange β) : Exchange α → Exchange β
  | finish (.ok a) => f a
  | finish (.error e) => finish (.error e)
  | send command next => send command fun reply => andThen f (next reply)
  | collapse text => collapse text

def map (f : α → β) : Exchange α → Exchange β := andThen fun a => finish (.ok (f a))

/-- The value of a reply to one command. -/
def decoded (decode : Decoder α) (reply : Except ClientError Reply) : Except ClientError α :=
  match reply with
  | .error e => .error e
  | .ok r =>
    match r.raised with
    | .error e => .error e
    | .ok r => decode r

def query (command : Command) (decode : Decoder α) : Exchange α :=
  send command fun reply => finish (decoded decode reply)

/-- The command that opens a slot on the move for the next command. -/
def askingCommand : Command := .ofWords ["ASKING"]

def asking (x : Exchange α) : Exchange α := (query askingCommand Decode.unit).andThen fun _ => x

end Exchange

variable {σ α ε : Type}

/-- Sends a command to a node. -/
def deliver (net : Network σ) (node : Node) (command : Command) :
    Run σ ClientError (Except ClientError Reply) := fun w =>
  let w := w.record (.received node command)
  match net.answer w.nodes node command with
  | (.reply result, nodes) => (.ok result, { w with nodes })
  | (.panic text, nodes) => (.error (.panicked text), { w with nodes })
  | (.hang, nodes) => (.error .hung, { w with nodes })

def converse (net : Network σ) (node : Node) : Exchange α → Run σ ClientError α
  | .finish result => .ofExcept result
  | .send command next => do
    let reply ← deliver net node command
    converse net node (next reply)
  | .collapse text => .panic text

/-- Leases a connection to a node for a run. Errors of the run become values; the lease is given
back before anything else happens, whether the run ended, failed, panicked or hung. -/
def withLease (net : Network σ) (node : Node) (body : Run σ ε α) :
    Run σ ClusterError (Except ε α) := fun w =>
  match net.connect node with
  | .error e => (.error (.failed e), w)
  | .ok () =>
    let lease := w.nextLease
    let (result, w) := body.attempt (w.record (.acquired node lease))
    (result, w.record (.released node lease))

/-- Holds an exchange with a node on a leased connection. -/
def exchangeWith (net : Network σ) (node : Node) (x : Exchange α) :
    Run σ ClusterError (Except ClientError α) :=
  withLease net node (converse net node x)

end SlotRouter
