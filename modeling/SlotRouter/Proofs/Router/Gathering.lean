import SlotRouter.Proofs.Router.SameSlot
import SlotRouter.Proofs.Router.TaskIsolation

/-!
# One command for each of several targets

* `Target` : a node with the command that it gets, perhaps for the sake of a key; `masterTargets`,
  `keyTargets` : those of a command for all masters, and of one for each key;
* `Router.Gathers` : every target gets its command, whatever became of the others, and has a result
  that says what became of it (`gathers_of_attempted`, by induction on the targets); nodes receive
  nothing else meanwhile (`Router.Gathers.receivedSince`). That they get it in turn is due to the
  one thread that carries out the tasks of a call;
* `Reading` : what reading results, or values, comes to;
* `Router.Collected` : the targets' results are gathered and read. If everyone answers there is an
  outcome (`fanOut_collected`, `onMasters_collected`, `onEachKey_collected`);
* `Shards` : three masters, of which the second one fails.
-/

namespace SlotRouter

variable {σ α β : Type} {r : Router σ} {t : Topology} {w w' : World σ}

/-! ## Targets -/

/-- A node that gets a command. -/
structure Target where
  node : Node
  key : Option KeyPosition
  command : Command

/-- The task of a target whose reply is read with `decode`. -/
def Target.task (decode : Decoder α) (target : Target) : Task α :=
  ⟨target.node, target.key, .query target.command decode⟩

/-- Every active master gets the command. -/
def masterTargets (t : Topology) (command : Command) : List Target :=
  t.activeMasters.map fun n => ⟨n, none, command⟩

/-- For each key a node gets the command with that key. -/
def keyTargets (node : Bytes → Node) (name : String) (keys : List Bytes) : List Target :=
  keys.zipIdx.map fun entry =>
    ⟨node entry.1, some ⟨entry.2, entry.1⟩, .withArgs [name] [entry.1]⟩

theorem command_masterTargets (t : Topology) (command : Command) :
    ∀ target ∈ masterTargets t command, target.command = command := by
  intro target htarget
  obtain ⟨n, -, rfl⟩ := List.mem_map.1 htarget
  rfl

theorem command_keyTargets (node : Bytes → Node) (name : String) (keys : List Bytes) :
    ∀ target ∈ keyTargets node name keys, ∃ key, target.command = .withArgs [name] [key] := by
  intro target htarget
  obtain ⟨entry, -, rfl⟩ := List.mem_map.1 htarget
  exact ⟨entry.1, rfl⟩

theorem node_masterTargets (t : Topology) (command : Command) :
    (masterTargets t command).map (·.node) = t.activeMasters := by
  rw [masterTargets, List.map_map]
  exact List.map_id _

theorem task_masterTargets (t : Topology) (command : Command) (decode : Decoder α) :
    (masterTargets t command).map (Target.task decode) =
      Router.tasksFor (.query command decode) t.activeMasters := by
  rw [masterTargets, List.map_map]
  rfl

theorem task_keyTargets (node : Bytes → Node) (name : String) (keys : List Bytes)
    (decode : Decoder α) : (keyTargets node name keys).map (Target.task decode) =
      tasksForKeys (fun key => .query (.withArgs [name] [key]) decode) node keys := by
  rw [keyTargets, List.map_map]
  rfl

/-! ## Their results -/

/-- From `w` on, each target in turn gets its command, as one thread gives it to them, and that
leaves `v`. The commands that nodes receive meanwhile are listed too. Several threads would give the
same commands in any order. -/
inductive Router.Gathers (r : Router σ) (decode : Decoder α) :
    List Target → World σ → List (NodeResult α) → List (Node × Command) → World σ → Prop
  | nil {w : World σ} : Gathers r decode [] w [] [] w
  /-- Whether the first command ends with a value, a failure or a panic, that is in its result, and
  the others come after it. -/
  | cons {target rest hops ended value results received} {w v : World σ} :
      r.Delivery target.command target.node w hops ended →
      ended = r.hold (.query target.command decode) target.node w →
      Settles ended.1 value → Gathers r decode rest ended.2 results received v →
      Gathers r decode (target :: rest) w (⟨target.node, target.key, value⟩ :: results)
        (hops.flatMap Hop.receipts ++ received) v

/-- Nodes receive the commands of all targets along their redirects, and nothing else. -/
theorem Router.Gathers.receivedSince {decode : Decoder α} {targets : List Target}
    {results : List (NodeResult α)} {received : List (Node × Command)} {v : World σ}
    (h : r.Gathers decode targets w results received v) : ReceivedSince w v received := by
  induction h with
  | nil => exact (OnlyAsks.refl _).receivedSince
  | cons hdelivery _ _ _ ih => exact hdelivery.received.trans ih

theorem Router.Gathers.nodes {decode : Decoder α} {targets : List Target}
    {results : List (NodeResult α)} {received : List (Node × Command)} {v : World σ}
    (h : r.Gathers decode targets w results received v) :
    results.map (·.node) = targets.map (·.node) := by
  induction h with
  | nil => rfl
  | cons _ _ _ _ ih => rw [List.map_cons, List.map_cons, ih]

theorem gathers_of_attempted {decode : Decoder α} {targets : List Target}
    (hcommands : ∀ target ∈ targets, target.command ≠ nodesCommand)
    {results : List (NodeResult α)}
    (h : r.Attempted (targets.map (Target.task decode)) w results) :
    ∃ received, r.Gathers decode targets w results received
      (r.after (targets.map (Target.task decode)) w) := by
  induction targets generalizing w results with
  | nil =>
    obtain rfl := List.eq_nil_of_length_eq_zero h.length
    exact ⟨[], .nil⟩
  | cons target rest ih =>
    obtain ⟨hcommand, hrest⟩ := List.forall_mem_cons.1 hcommands
    obtain ⟨value, others, rfl, hsettles, hothers⟩ := Router.Attempted.uncons h
    obtain ⟨hops, hdelivery⟩ := hold_delivery hcommand decode r target.node w
    obtain ⟨received, hgathers⟩ := ih hrest hothers
    exact ⟨_, .cons hdelivery rfl hsettles hgathers⟩

/-! ## Reading them -/

/-- Reading something changes nothing and ends, and what it ends with relates to it so. -/
def Reading {ι : Type} (read : ι → Run σ ClusterError β)
    (Reads : ι → Except (Stop ClusterError) β → Prop) : Prop :=
  ∀ a v, ∃ outcome, read a v = (outcome, v) ∧ outcome ≠ .error .hung ∧ Reads a outcome

/-- The results of all targets are gathered and then read. -/
structure Router.Collected (r : Router σ) (decode : Decoder α) (targets : List Target)
    (w : World σ) (Reads : MultiResult α → Except (Stop ClusterError) β → Prop)
    (result : Except (Stop ClusterError) β × World σ) : Prop where
  returns : r.Responsive → result.1 ≠ .error .hung
  outcome : result.1 ≠ .error .hung → ∃ m received,
    r.Gathers decode targets w m.results received result.2 ∧ ReceivedSince w result.2 received ∧
      Reads m result.1

/-- What is said of results may depend on the nodes that were asked. -/
theorem Router.Collected.mono {decode : Decoder α} {targets : List Target}
    {Reads Reads' : MultiResult α → Except (Stop ClusterError) β → Prop}
    {result : Except (Stop ClusterError) β × World σ}
    (h : r.Collected decode targets w Reads result)
    (himp : ∀ m outcome, m.results.map (·.node) = targets.map (·.node) → Reads m outcome →
      Reads' m outcome) : r.Collected decode targets w Reads' result where
  returns := h.returns
  outcome := by
    intro hends
    obtain ⟨m, received, hgathers, hreceived, hreads⟩ := h.outcome hends
    exact ⟨m, received, hgathers, hreceived, himp m _ hgathers.nodes hreads⟩

section Collect

variable (hruntime : r.insideRuntime = false) (htimeout : r.commandTimeout = none)
  {decode : Decoder α} {read : MultiResult α → Run σ ClusterError β}
  {Reads : MultiResult α → Except (Stop ClusterError) β → Prop} (hreads : Reading read Reads)

include hruntime htimeout hreads

theorem fanOut_collected {targets : List Target}
    (hcommands : ∀ target ∈ targets, target.command ≠ nodesCommand) (w : World σ) :
    r.Collected decode targets w Reads
      ((r.fanOut (targets.map (Target.task decode)) >>= read) w) := by
  rcases fanOut_cases hruntime htimeout (targets.map (Target.task decode)) w with
    ⟨m, hfan, hattempted⟩ | ⟨v, hfan, hnot⟩
  · obtain ⟨outcome, hread, hends, hreads⟩ :=
      hreads m (r.after (targets.map (Target.task decode)) w)
    obtain ⟨received, hgathers⟩ := gathers_of_attempted hcommands hattempted
    rw [Run.bind_of_ok hfan, hread]
    exact ⟨fun _ => hends, fun _ => ⟨m, received, hgathers, hgathers.receivedSince, hreads⟩⟩
  · rw [Run.bind_of_error hfan]
    exact ⟨fun hresponsive => absurd hresponsive hnot, fun hends => absurd rfl hends⟩

theorem onMasters_collected (hw : r.topology w = (.ok t, w')) {command : Command}
    (hcommand : command ≠ nodesCommand) :
    r.Collected decode (masterTargets t command) w' Reads
      ((r.onMasters (.query command decode) >>= read) w) := by
  have hfan : r.onMasters (.query command decode) w =
      r.fanOut ((masterTargets t command).map (Target.task decode)) w' := by
    rw [Router.onMasters, Run.bind_of_ok hw, task_masterTargets]
  rw [Run.bind_congr hfan]
  refine fanOut_collected hruntime htimeout hreads ?_ w'
  intro target htarget
  rw [command_masterTargets t command target htarget]
  exact hcommand

theorem onEachKey_collected (hw : r.topology w = (.ok t, w')) {keys : List Bytes}
    {node : Bytes → Node} (hnode : ∀ key ∈ keys, t.masterForSlot (keySlot key) = some (node key))
    {name : String} (hcommands : ∀ key, Command.withArgs [name] [key] ≠ nodesCommand) :
    r.Collected decode (keyTargets node name keys) w' Reads
      ((r.onEachKey (fun key => .query (.withArgs [name] [key]) decode) keys >>= read) w) := by
  rw [Run.bind_congr (onEachKey_apply hw hnode _), ← task_keyTargets]
  refine fanOut_collected hruntime htimeout hreads ?_ w'
  intro target htarget
  obtain ⟨key, hkey⟩ := command_keyTargets node name keys target htarget
  rw [hkey]
  exact hcommands key

end Collect

/-! ## Three masters -/

namespace Shards

def master (port : UInt16) : Node := { host := "10.0.0.1", port, role := some .master }

/-- The second master refuses every command, and the others answer with their port. -/
def network : Network Unit where
  connect _ := .ok ()
  answer _ n _ :=
    (.reply (if n.port = 2 then .error (.ofIo .connectionRefused) else .ok (.int n.port.toNat)), ())

def topology : Topology := .ofNodes [master 1, master 2, master 3]

def router : Router Unit where
  source := .fixed topology
  network := network

def start : World Unit := { nodes := () }

end Shards

end SlotRouter
