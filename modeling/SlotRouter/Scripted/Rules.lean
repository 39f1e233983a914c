import SlotRouter.Network.World
import SlotRouter.Scripted.Layout

/-!
# Nodes that follow a script

A script is a list of rules. The first rule that matches a command and is not used up answers it.

* `Action`, `Rule`: what is answered, and to which commands;
* `reportIfAsked`: the report of a layout, for the command that asks for it;
* `perform`: the answer of an action;
* `firstMatch`: the action of the first rule that matches, and the script afterwards;
* `scripted`: the network of a script. Some ports may be unknown to it, others out of connections.
-/

namespace SlotRouter.Scripted

inductive Action
  | reply (reply : Reply)
  | fail (error : ClientError)
  /-- The report of a layout, if the command asks for it. -/
  | report (layout : Layout)
  /-- The replicas of the node in a layout. -/
  | replicas (layout : Layout)
  /-- The id of the node. -/
  | ownId
  /-- An argument of the command, the last one if there are fewer. -/
  | echo (index : Nat)
  | panic (text : String)
  | hang

structure Rule where
  /-- The ports it is for; any if there are none given. -/
  ports : Option (List UInt16)
  /-- How the arguments start. -/
  words : List String
  /-- How often it still answers; without a limit if there is none given. -/
  left : Option Nat
  action : Action

/-- The rules in their order. -/
abbrev Script := List Rule

/-- The rule answers the command on a port. -/
def Rule.matches (rule : Rule) (port : UInt16) (command : Command) : Bool :=
  rule.ports.all (·.contains port) && rule.left != some 0 &&
    rule.words.isPrefixOf command.texts

/-- The rule after it answered. -/
def Rule.used (rule : Rule) : Rule := { rule with left := rule.left.map (· - 1) }

def firstMatch (port : UInt16) (command : Command) : Script → Option (Action × Script)
  | [] => none
  | rule :: rest =>
    if rule.matches port command then some (rule.action, rule.used :: rest)
    else (firstMatch port command rest).map fun (action, rest) => (action, rule :: rest)

/-- The error for a command that the script does not answer. -/
def unexpected (command : Command) : ClientError :=
  .described .clientError "Unexpected command" (some (lossyText command.pack))

def reportIfAsked (layout : Layout) (packed : Bytes) : Option Reply :=
  if occursIn (bytesOf "CLUSTER") packed && occursIn (bytesOf "NODES") packed then
    some (.bulk (bytesOf (nodesReport layout)))
  else none

/-- The text of an argument, the last one if there are fewer. -/
def argumentText (command : Command) (index : Nat) : String :=
  (command.texts[index]?.or command.texts.getLast?).getD ""

def perform (port : UInt16) (command : Command) : Action → Answer
  | .reply r => .reply (.ok r)
  | .fail e => .reply (.error e)
  | .report layout =>
    match reportIfAsked layout command.pack with
    | some r => .reply (.ok r)
    | none => .reply (.error (unexpected command))
  | .replicas layout => .reply (.ok (replicasReply layout port))
  | .ownId => .reply (.ok (.bulk (bytesOf (idOfPort port))))
  | .echo index => .reply (.ok (.bulk (bytesOf (argumentText command index))))
  | .panic text => .panic text
  | .hang => .hang

/-- The answer of a script to a command on a port. -/
def answerOf (script : Script) (port : UInt16) (command : Command) : Answer × Script :=
  match firstMatch port command script with
  | some (action, script) => (perform port command action, script)
  | none => (.reply (.error (unexpected command)), script)

/-- The nodes of a script. Given ports, it knows no others; those that fail have no connection. -/
def scripted (known : Option (List UInt16)) (failing : List UInt16) : Network Script where
  connect node :=
    if !known.all (·.contains node.port) then .error node.unknown
    else if failing.contains node.port then .error (.cause (.poolExhausted node.address))
    else .ok ()
  answer script node command := answerOf script node.port command

end SlotRouter.Scripted
