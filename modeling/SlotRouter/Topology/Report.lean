import SlotRouter.Topology

/-!
# Cluster reports

The text with which a node describes its cluster, one line per node:
`<id> <host:port@busport[,hostname]> <flags> <master id> <ping> <pong> <epoch> <link> <slot> ...`.

* `readAddress`, `readSlot`, `readLine`: the columns of a line;
* `readReport host text`: the nodes of a report made by the node on `host`. A line without a
  usable address is left out, a slot column in brackets is a slot on the move and does not count,
  and the first malformed line decides the error.
-/

namespace SlotRouter

/-- The error of a malformed line. -/
def malformedLine (line : List Char) : ClusterError :=
  .cause (.malformedNodeLine (String.ofList line))

def readAddress (column : List Char) : Option (List Char × UInt16) := do
  let address := match Text.cutFirst '@' column with
    | some (address, _) => address
    | none => column
  let (host, port) ← Text.cutLast ':' address
  let port ← port? port
  some (bareHost host, port)

/-- The known flags of a flag column. -/
def readFlags (column : List Char) : List Flag :=
  (Text.splitOn ',' column).filterMap fun word => Flag.ofWord? (String.ofList word)

/-- The state that a link column names. -/
def readLink (column : List Char) : Option Link :=
  if column = "connected".toList then some .connected
  else if column = "disconnected".toList then some .disconnected
  else none

def readSlot (column : List Char) : Option (Nat × Nat) := do
  let (first, last) := (Text.cutFirst '-' column).getD (column, column)
  let first ← Text.unsigned? 65536 first
  let last ← Text.unsigned? 65536 last
  some (first, last)

/-- Adds the slots of each column of a line to a range. -/
def readSlots (line : List Char) : SlotRange → List (List Char) → Except ClusterError SlotRange
  | slots, [] => .ok slots
  | slots, column :: rest =>
    if column.head? = some '[' then readSlots line slots rest
    else
      match readSlot column with
      | none => .error (malformedLine line)
      | some (first, last) =>
        match slots.insert first last with
        | .ok slots => readSlots line slots rest
        | .error rejection => .error (.cause (.slotBounds rejection))

/-- Role and master id from the flags and the master column. -/
def readRole (flags : List Flag) (masterColumn : List Char) : Option Role × Option String :=
  if masterColumn = ['-'] then
    if flags.contains .replica then (some .replica, none)
    else if flags.contains .master then (some .master, none)
    else (none, none)
  else (some .replica, some (String.ofList masterColumn))

/-- The node of a line, given its columns; none if its address is not usable. -/
def readColumns (answeringHost : String) (line : List Char) :
    List (List Char) → Except ClusterError (Option Node)
  | id :: addressColumn :: flagColumn :: masterColumn :: _ :: _ :: _ :: linkColumn :: slotColumns =>
    match readAddress addressColumn with
    | none => .error (malformedLine line)
    | some (host, port) =>
      let flags := readFlags flagColumn
      let host :=
        if host.isEmpty && flags.contains .myself then answeringHost else String.ofList host
      if host.isEmpty || port == 0 then .ok none
      else
        match readLink linkColumn with
        | none => .error (malformedLine line)
        | some link =>
          match readSlots line .empty slotColumns with
          | .error e => .error e
          | .ok slots =>
            let (role, masterId) := readRole flags masterColumn
            let id := some (String.ofList id)
            .ok (some { host, port, id, role, masterId, flags, link := some link, slots })
  | _ => .error (malformedLine line)

def readLine (answeringHost : String) (line : List Char) : Except ClusterError (Option Node) :=
  readColumns answeringHost line (Text.words line)

/-- The nodes of lines, in order. -/
def readLines (answeringHost : String) : List (List Char) → Except ClusterError (List Node)
  | [] => .ok []
  | line :: rest =>
    match readLine answeringHost line with
    | .error e => .error e
    | .ok node =>
      match readLines answeringHost rest with
      | .error e => .error e
      | .ok nodes => .ok (node.toList ++ nodes)

def readReport (answeringHost : String) (text : String) : Except ClusterError (List Node) :=
  readLines answeringHost (Text.trimmedLines text.toList)

end SlotRouter
