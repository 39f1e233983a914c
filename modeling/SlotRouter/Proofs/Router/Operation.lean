import SlotRouter.Proofs.Router.Step
import SlotRouter.Router.Operation

/-!
# Every call takes steps of the router

* `hold_takes` lifted through the ways to choose nodes (`onNode_takes`, `fanOut_takes`, ...);
* `Operation.run_takes` : the run of every call is a sequence of steps of its router, whatever it
  ends with.
-/

namespace SlotRouter
open Relation (ReflTransGen)

variable {σ α β ε : Type} (r : Router σ)

/-- A look at the topology within a run. -/
theorem topology_takes_step : r.topology.Takes r.Step :=
  (topology_takes r).mono fun _ _ => Router.Step.lookup

/-! ## One node -/

theorem onNode_takes (x : Exchange α) (node : Node) : (r.onNode x node).Takes r.Step :=
  (topology_takes_step r).bind fun _ => (Run.Takes.ofExcept _).bind fun _ =>
    (hold_takes r x _).bind fun _ => .value _

theorem askNode_takes (x : Exchange α) (node : Node) : (r.askNode x node).Takes r.Step :=
  (onNode_takes r x node).bind fun _ => .ofExcept _

theorem onKey_takes (x : Exchange α) (key : Bytes) : (r.onKey x key).Takes r.Step :=
  (topology_takes_step r).bind fun _ => (Run.Takes.ofExcept _).bind fun _ => hold_takes r x _

theorem onSlotOf_takes (x : Exchange α) (keys : List Bytes) : (r.onSlotOf x keys).Takes r.Step := by
  refine (Run.Takes.ofExcept _).bind fun slot => (topology_takes_step r).bind fun t => ?_
  cases t.masterForSlot slot with
  | some master => exact hold_takes r x master
  | none => exact .fail _

theorem firstReachable_takes (x : Exchange α) (last : ClusterError) (nodes : List Node) :
    (r.firstReachable x last nodes).Takes r.Step := by
  induction nodes generalizing last with
  | nil => exact .fail last
  | cons n rest ih =>
    refine (hold_takes r x n).attempt.bind fun result => ?_
    cases result with
    | ok a => exact .value _
    | error e =>
      dsimp only
      split
      · exact ih e
      · exact .fail e

theorem onArbitrary_takes (x : Exchange α) : (r.onArbitrary x).Takes r.Step :=
  (topology_takes_step r).bind fun _ => firstReachable_takes r x _ _

theorem askArbitrary_takes (x : Exchange α) : (r.askArbitrary x).Takes r.Step :=
  (onArbitrary_takes r x).bind fun _ => .ofExcept _

/-! ## Several nodes -/

theorem runTask_takes (t : Task α) : (r.runTask t).Takes r.Step := by
  have hsettle : (settle (r.hold t.exchange t.node)).Takes r.Step := by
    refine ((hold_takes r t.exchange t.node).map Except.ok).rescue fun s => ?_
    rcases s with e | text | _
    · exact .value _
    · exact .value _
    · exact .stop _
  exact hsettle.bind fun _ => .value _

theorem runTasks_takes (tasks : List (Task α)) : (r.runTasks tasks).Takes r.Step := by
  induction tasks with
  | nil => exact .value []
  | cons t rest ih => exact (runTask_takes r t).bind fun _ => ih.bind fun _ => .value _

theorem within_takes {R : World σ → World σ → Prop} {m : Run σ ClusterError α}
    (limit : Option Nat) (hm : m.Takes R) : (within limit m).Takes R := by
  refine hm.rescue fun s => ?_
  rcases s with e | text | _
  · exact .stop _
  · exact .stop _
  · cases limit with
    | none => exact .stop _
    | some ms => exact .fail _

theorem fanOut_takes (tasks : List (Task α)) : (r.fanOut tasks).Takes r.Step := by
  rw [Router.fanOut, Router.fanOutWith]
  split
  · exact .fail _
  · exact within_takes r.commandTimeout ((runTasks_takes r tasks).map MultiResult.mk)

theorem onMasters_takes (x : Exchange α) : (r.onMasters x).Takes r.Step :=
  (topology_takes_step r).bind fun _ => fanOut_takes r _

theorem onActive_takes (x : Exchange α) : (r.onActive x).Takes r.Step :=
  (topology_takes_step r).bind fun _ => fanOut_takes r _

theorem onNodes_takes (x : Exchange α) (nodes : List Node) : (r.onNodes x nodes).Takes r.Step :=
  (topology_takes_step r).bind fun _ => (Run.Takes.ofExcept _).bind fun _ => fanOut_takes r _

theorem onEachKey_takes (x : Bytes → Exchange α) (keys : List Bytes) :
    (r.onEachKey x keys).Takes r.Step :=
  (topology_takes_step r).bind fun _ => (Run.Takes.ofExcept _).bind fun _ => fanOut_takes r _

theorem askMasters_takes (x : Exchange α) : (r.askMasters x).Takes r.Step :=
  (onMasters_takes r x).bind fun _ => .ofExcept _

theorem sumCounts_takes {R : World σ → World σ → Prop} (counts : List Nat) :
    (sumCounts counts : Run σ ε Nat).Takes R := by
  rw [sumCounts]
  split
  · exact .value _
  · exact .stop _

/-! ## Commands on keys -/

theorem countExisting_takes (keys : List Bytes) : (r.countExisting keys).Takes r.Step := by
  refine (Run.Takes.ofExcept _).bind fun _ => ?_
  split
  · exact onSlotOf_takes r _ keys
  · exact (onEachKey_takes r _ keys).bind fun _ => (Run.Takes.ofExcept _).bind fun counts =>
      sumCounts_takes counts

theorem delete_takes (keys : List Bytes) : (r.delete keys).Takes r.Step := by
  refine (Run.Takes.ofExcept _).bind fun _ => ?_
  split
  · exact onSlotOf_takes r _ keys
  · exact (onEachKey_takes r _ keys).bind fun _ => (Run.Takes.ofExcept _).bind fun counts =>
      sumCounts_takes counts

theorem getMany_takes (keys : List Bytes) (decode : Decoder α) :
    (r.getMany keys decode).Takes r.Step := by
  refine (Run.Takes.ofExcept _).bind fun _ => ?_
  split
  · exact onSlotOf_takes r _ keys
  · exact (onEachKey_takes r _ keys).bind fun _ => .ofExcept _

theorem keysMatching_takes (pattern : String) (decode : Decoder α) :
    (r.keysMatching pattern decode).Takes r.Step :=
  (onMasters_takes r _).bind fun _ => (Run.Takes.ofExcept _).bind fun _ => .value _

theorem randomKey_takes (decode : Decoder α) : (r.randomKey decode).Takes r.Step :=
  (onMasters_takes r _).bind fun _ => (Run.Takes.ofExcept _).bind fun _ => .value _

/-! ## Administration of the cluster -/

theorem replicas_takes (master : Node) : (r.replicas master).Takes r.Step :=
  (topology_takes_step r).bind fun _ => (Run.Takes.ofExcept _).bind fun _ =>
    (Run.Takes.ofExcept _).bind fun _ => (askNode_takes r _ _).bind fun _ => .ofExcept _

theorem masterOfSlot_takes (slot : Nat) : (r.masterOfSlot slot).Takes r.Step := by
  refine (Run.Takes.ofExcept _).bind fun _ => (topology_takes_step r).bind fun t => ?_
  cases (t.servingNodes slot).find? (·.isMaster) with
  | some master => exact .value master
  | none => exact .fail _

theorem changeSlots_takes (change : SlotChange) (node : Node) (slots : List Nat) :
    (r.changeSlots change node slots).Takes r.Step :=
  (Run.Takes.ofExcept _).bind fun _ => askNode_takes r _ node

theorem forget_takes (node : Node) : (r.forget node).Takes r.Step :=
  (topology_takes_step r).bind fun _ => (Run.Takes.ofExcept _).bind fun _ =>
    (Run.Takes.ofExcept _).bind fun _ => (onNodes_takes r _ _).bind fun _ =>
      (Run.Takes.ofExcept _).bind fun _ => .value _

theorem setSlot_takes (node : Node) (slot : Nat) (state : SlotState) :
    (r.setSlot node slot state).Takes r.Step :=
  (Run.Takes.ofExcept _).bind fun _ => (topology_takes_step r).bind fun _ =>
    (Run.Takes.ofExcept _).bind fun _ => askNode_takes r _ node

/-! ## Commands on servers -/

theorem timestampOf_takes {R : World σ → World σ → Prop} (clock : Nat × Nat) :
    (timestampOf clock : Run σ ε Timestamp).Takes R := by
  rw [timestampOf]
  split
  · exact .value _
  · exact .stop _

theorem ping_takes : r.ping.Takes r.Step := by
  refine (askMasters_takes r _).bind fun answers => ?_
  cases answers with
  | nil => exact .fail _
  | cons answer rest => exact .value answer

theorem onEveryMaster_takes (x : Exchange Unit) : (r.onEveryMaster x).Takes r.Step :=
  (askMasters_takes r x).bind fun _ => .value _

theorem shutdown_takes : r.shutdown.Takes r.Step := by
  refine (onMasters_takes r _).bind fun m => ?_
  cases shutdownFailure? m with
  | some e => exact .fail e
  | none => exact .value ()

theorem shutdownOn_takes (node : Node) : (r.shutdownOn node).Takes r.Step := by
  refine (askNode_takes r _ node).attempt.bind fun result => ?_
  cases result with
  | ok u => exact .value ()
  | error e =>
    dsimp only
    split
    · exact .value ()
    · exact .fail e

/-! ## Every call -/

/-- The run of a call takes steps of its router, whatever it ends with. -/
theorem Operation.run_takes (op : Operation α) : (op.run r).Takes r.Step := by
  cases op with
  | topology => exact topology_takes_step r
  | selectDatabase index => exact .ofExcept _
  | refused feature => exact .fail _
  | slotOfKey key => exact .value _
  | onNode x node => exact onNode_takes r x node
  | onArbitrary x => exact onArbitrary_takes r x
  | onMasters x => exact onMasters_takes r x
  | onActive x => exact onActive_takes r x
  | onNodes x nodes => exact onNodes_takes r x nodes
  | onEachKey x keys => exact onEachKey_takes r x keys
  | askNode x node => exact askNode_takes r x node
  | onKey x key => exact onKey_takes r x key
  | get key decode => exact onKey_takes r _ key
  | set key value => exact onKey_takes r _ key
  | countExisting keys => exact countExisting_takes r keys
  | delete keys => exact delete_takes r keys
  | getMany keys decode => exact getMany_takes r keys decode
  | keysMatching pattern decode => exact keysMatching_takes r pattern decode
  | keysMatchingOn node pattern decode => exact askNode_takes r _ node
  | randomKey decode => exact randomKey_takes r decode
  | rename key newKey => exact onSlotOf_takes r _ _
  | store op target keys => exact (Run.Takes.ofExcept _).bind fun _ => onSlotOf_takes r _ _
  | difference op keys decode => exact onSlotOf_takes r _ keys
  | nodes => exact (topology_takes_step r).bind fun _ => .value _
  | replicas master => exact replicas_takes r master
  | replicaMap => exact (onMasters_takes r _).bind fun _ => .ofExcept _
  | masterOfSlot slot => exact masterOfSlot_takes r slot
  | masterOfKey key => exact masterOfSlot_takes r _
  | clusterInfo => exact askArbitrary_takes r _
  | changeSlots change node slots => exact changeSlots_takes r change node slots
  | changeSlotRange change node range => exact changeSlots_takes r change node _
  | countKeysInSlot slot => exact (masterOfSlot_takes r slot).bind fun _ => askNode_takes r _ _
  | keysInSlot slot count decode =>
    exact (masterOfSlot_takes r slot).bind fun _ => askNode_takes r _ _
  | meet node => exact (askMasters_takes r _).bind fun _ => .value _
  | forget node => exact forget_takes r node
  | replicate master replica =>
    exact (topology_takes_step r).bind fun _ => (Run.Takes.ofExcept _).bind fun _ =>
      askNode_takes r _ replica
  | setSlot node slot state => exact setSlot_takes r node slot state
  | ping => exact ping_takes r
  | pingOn node => exact askNode_takes r _ node
  | databaseSize =>
    exact (onMasters_takes r _).bind fun _ => (Run.Takes.ofExcept _).bind fun counts =>
      sumCounts_takes counts
  | databaseSizeOn node => exact askNode_takes r _ node
  | lastSave => exact (askMasters_takes r _).bind fun _ => .value _
  | lastSaveOn node => exact askNode_takes r _ node
  | time => exact (askArbitrary_takes r _).bind fun clock => timestampOf_takes clock
  | timeOn node => exact (askNode_takes r _ node).bind fun clock => timestampOf_takes clock
  | info extra => exact (onMasters_takes r _).bind fun _ => .ofExcept _
  | infoOn node => exact askNode_takes r _ node
  | configuration pattern => exact (onMasters_takes r _).bind fun _ => .ofExcept _
  | configurationOn node pattern => exact askNode_takes r _ node
  | configure parameter value => exact onEveryMaster_takes r _
  | configureOn node parameter value => exact askNode_takes r _ node
  | maintain m => exact onEveryMaster_takes r _
  | maintainOn node m => exact askNode_takes r _ node
  | shutdown => exact shutdown_takes r
  | shutdownOn node => exact shutdownOn_takes r node

end SlotRouter
