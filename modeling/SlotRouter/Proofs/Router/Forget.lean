import SlotRouter.Proofs.Router.Broadcast
import SlotRouter.Proofs.Router.SlotMasters
import SlotRouter.Proofs.Topology.Descriptors
import SlotRouter.Router.Operation

/-!
# Forgetting a node

* `forgetWith_apply` : the order to forget a node goes to all active masters but that node;
* `Router.Forgets` : what becomes of it;
* `forget_call` : however many threads tell the masters and whichever of them is first, each master
  is told once; one thread, which `Operation.run` has, tells them in the order of the topology;
* `Farewell` : four nodes, of which one is forgotten. Two threads may tell the last master first.
-/

namespace SlotRouter

variable {σ : Type} {r : Router σ} {t : Topology} {w w' : World σ} {threads : Nat}

theorem activeMasters_mem {n : Node} (h : n ∈ t.activeMasters) : n ∈ t.nodes :=
  List.mem_of_mem_filter h

/-- The order to forget a node. -/
def forgetCommand (id : String) : Command := .ofWords ["CLUSTER", "FORGET", id]

/-- Who is told to forget a node. -/
def Topology.others (t : Topology) (f : Node) : List Node := t.activeMasters.filter (· ≠ f)

/-- What becomes of a call that has the node forgotten which the descriptor means. -/
inductive Router.Forgets (r : Router σ) (threads : Nat) (t : Topology) (n : Node) (w : World σ) :
    Except (Stop ClusterError) Unit × World σ → Prop
  /-- It means none. -/
  | unknown {e} : (∀ f, t.lookup n ≠ .ok f) → e.kind = .illegalArgument →
      r.Forgets threads t n w (.error (.failed e), w)
  /-- The node has no id. -/
  | nameless {f e} : t.lookup n = .ok f → f.id = none → e.kind = .clusterStateFailure →
      r.Forgets threads t n w (.error (.failed e), w)
  /-- All active masters but the node itself are told, each of them once. -/
  | sent {f id told outcome w'} : t.lookup n = .ok f → f.id = some id → (t.others f).Nodup →
      r.Broadcast threads (forgetCommand id) (t.others f) told w w' (outcome = .ok ())
        (outcome = .error .hung) →
      r.Forgets threads t n w (outcome, w')

section Distinct

variable (hdistinct : t.DistinctIds)

include hdistinct

/-- The filter of the call leaves out the node itself and no other. -/
theorem filter_isSameNode {f : Node} (hf : f ∈ t.nodes) :
    t.activeMasters.filter (fun master => !master.isSameNode f) = t.others f := by
  refine List.filter_congr fun master hmaster => ?_
  have hiff := hdistinct.isSameNode_iff (activeMasters_mem hmaster) hf
  by_cases heq : master = f
  · rw [hiff.2 heq]
    simp [heq]
  · rw [Bool.eq_false_iff.2 fun hsame => heq (hiff.1 hsame)]
    simp [heq]

/-- The targets are looked up once more, and found to be themselves. -/
theorem onNodesWith_of_members (hw : r.topology w = (.ok t, w')) {nodes : List Node}
    (hnodes : ∀ n ∈ nodes, n ∈ t.nodes) {α : Type} (run : Executor σ α) (x : Exchange α) :
    r.onNodesWith run x nodes w = r.fanOutWith run (Router.tasksFor x nodes) w' := by
  have hself : ∀ n ∈ nodes, t.resolve n = .ok (id n) :=
    fun n hn => hdistinct.resolve_eq (hnodes n hn)
  have hresolve : mapUntilError t.resolve nodes = .ok nodes := by
    rw [mapUntilError_of_forall hself, List.map_id]
  rw [Router.onNodesWith, Run.bind_of_ok hw, Run.bind_ofExcept_ok hresolve]

section Call

variable (hfixed : r.source = .fixed t)

include hfixed

theorem forgetWith_apply {n f : Node} {id : String} (hlookup : t.lookup n = .ok f)
    (hid : f.id = some id) (run : Executor σ Unit) (w : World σ) :
    r.forgetWith run n w =
      (r.fanOutWith run (Router.tasksFor (.query (forgetCommand id) Decode.unit) (t.others f)) >>=
        fun m => (Run.ofExcept m.values >>= fun _ => pure () : Run σ ClusterError Unit)) w := by
  have htopology := topology_of_fixed hfixed w
  have hresolve : t.resolve n = .ok f := by rw [Topology.resolve, hlookup]
  have hmem : f ∈ t.nodes := (Topology.lookup_cases hlookup).1
  have hothers : ∀ n ∈ t.others f, n ∈ t.nodes :=
    fun n hn => activeMasters_mem (List.mem_of_mem_filter hn)
  rw [Router.forgetWith, Run.bind_of_ok htopology, Run.bind_ofExcept_ok hresolve,
    Run.bind_ofExcept_ok (hdistinct.idOf_eq hmem hid), filter_isSameNode hdistinct hmem,
    Run.bind_congr (onNodesWith_of_members hdistinct htopology hothers run _)]
  rfl

theorem forgetWith_forgets (h : r.Unhindered) (hthreads : 0 < threads) {run : Executor σ Unit}
    (hpooled : r.Pooled threads run) (n : Node) (w : World σ) :
    r.Forgets threads t n w (r.forgetWith run n w) := by
  have htopology := topology_of_fixed hfixed w
  cases hlookup : t.lookup n with
  | error e =>
    have hresolve : t.resolve n = .error n.unknown := by rw [Topology.resolve, hlookup]
    have hnone : ∀ f, t.lookup n ≠ .ok f := by
      rw [hlookup]
      rintro f ⟨⟩
    rw [Router.forgetWith, Run.bind_of_ok htopology, hresolve]
    exact .unknown hnone rfl
  | ok f =>
    have hresolve : t.resolve n = .ok f := by rw [Topology.resolve, hlookup]
    have hmem : f ∈ t.nodes := (Topology.lookup_cases hlookup).1
    cases hid : f.id with
    | none =>
      have hnameless : t.idOf f = .error (.cause (.unknownId f.address)) := by
        rw [Topology.idOf, hdistinct.resolve_eq hmem]
        dsimp only
        rw [hid]
      rw [Router.forgetWith, Run.bind_of_ok htopology, Run.bind_ofExcept_ok hresolve, hnameless]
      exact .nameless hlookup hid rfl
    | some id =>
      rw [forgetWith_apply hdistinct hfixed hlookup hid]
      obtain ⟨told, htold⟩ := fanOutWith_broadcast h hthreads hpooled (t.others f) w _ _ rfl
      exact .sent hlookup hid (((nodes_nodup t).filter _).filter _) htold

end Call

end Distinct

/-- In a fixed topology without two nodes of one id, whoever answers what and however the caller
describes the node: it is forgotten by all active masters but itself, or nothing is sent. Threads
may tell the masters in any order; the one thread that calls have keeps the one of the topology. -/
theorem forget_call (hfixed : r.source = .fixed t) (hdistinct : t.DistinctIds)
    (h : r.Unhindered) (n : Node) (w : World σ) :
    (∀ threads run, 0 < threads → r.Pooled threads run →
      r.Forgets threads t n w (r.forgetWith run n w)) ∧
    r.Forgets 1 t n w ((Operation.forget n).run r w) := by
  constructor
  · intro threads run hthreads hpooled
    exact forgetWith_forgets hdistinct hfixed h hthreads hpooled n w
  · exact forgetWith_forgets hdistinct hfixed h Nat.one_pos (pooled_one_iff.2 rfl) n w

namespace Farewell

def node (port : UInt16) (id : String) : Node where
  host := "10.0.0.1"
  port := port
  id := some id
  role := some .master

/-- The link to the last node is down. -/
def topology : Topology :=
  .ofNodes [node 1 "a", node 2 "b", node 3 "c", { node 4 "d" with link := some .disconnected }]

/-- Every node accepts every command. -/
def router : Router Unit where
  source := .fixed topology
  network := ⟨fun _ => .ok (), fun _ _ _ => (.reply (.ok .okay), ())⟩

def start : World Unit := { nodes := () }

/-- The second node, without its id. -/
def leaving : Node where
  host := "10.0.0.1"
  port := 2

theorem distinctIds : topology.DistinctIds := by
  intro a ha b hb id hid hid'
  have hall : ∀ a ∈ topology.nodes, ∀ b ∈ topology.nodes, a.id = b.id → a = b := by decide +kernel
  exact hall a ha b hb (hid.trans hid'.symm)

theorem unhindered : router.Unhindered where
  outside := rfl
  unlimited := rfl
  reachable _ := rfl
  direct := by
    rintro s node command reply e ⟨⟩ ⟨⟩

theorem runTask_eq (command : Command) (n : Node) (w : World Unit) :
    router.runTask (n.task command) w = (.ok ⟨n, none, .ok ()⟩, w.lease n [command] ()) :=
  runTask_of_settles (hold_direct unhindered.direct (fun _ => rfl) rfl) (.value ())

/-- Two threads take both tasks, and the second one is first to reach its node. -/
theorem overtaking (command : Command) (a b : Node) (w : World Unit) :
    router.PoolRun 2 (Router.tasksFor (.query command Decode.unit) [a, b]) w
      (.ok [⟨a, none, .ok ()⟩, ⟨b, none, .ok ()⟩],
        (w.lease b [command] ()).lease a [command] ()) := by
  have hfirst : router.PoolStep 2 ([⟨a.task command, .waiting⟩, ⟨b.task command, .waiting⟩], w)
      ([⟨a.task command, .running⟩, ⟨b.task command, .waiting⟩], w) :=
    @Router.PoolStep.start _ _ router 2 [] [_] _ w (List.forall_mem_nil _)
      (by simp [Pool.busy, Stage.isBusy])
  have hsecond : router.PoolStep 2 ([⟨a.task command, .running⟩, ⟨b.task command, .waiting⟩], w)
      ([⟨a.task command, .running⟩, ⟨b.task command, .running⟩], w) :=
    @Router.PoolStep.start _ _ router 2 [_] [] _ w (List.forall_mem_singleton.2 rfl)
      (by simp [Pool.busy, Stage.isBusy])
  have hthird := @Router.PoolStep.finish _ _ router 2 [⟨a.task command, .running⟩] [] _ w _ _
    (runTask_eq command b w)
  have hfourth := @Router.PoolStep.finish _ _ router 2 []
    [⟨b.task command, .done ⟨b, none, .ok ()⟩⟩] _ _ _ _
    (runTask_eq command a (w.lease b [command] ()))
  refine ⟨_, .head hfirst (.head hsecond (.head hthird (.head hfourth .refl))), ?_, rfl⟩
  exact final_of_isDone (by simp [Stage.isDone]) _

/-- So the third node may hear of it before the first one. -/
theorem exists_overtaking : ∃ run, router.Pooled 2 run ∧ router.forgetWith run leaving start =
    (.ok (), (start.lease (node 3 "c") [forgetCommand "b"] ()).lease (node 1 "a")
      [forgetCommand "b"] ()) := by
  have hlookup : topology.lookup leaving = .ok (node 2 "b") := rfl
  have hothers : topology.others (node 2 "b") = [node 1 "a", node 3 "c"] := by decide +kernel
  obtain ⟨run, hpooled, hrun⟩ :=
    exists_pooled (overtaking (forgetCommand "b") (node 1 "a") (node 3 "c") start)
  refine ⟨run, hpooled, ?_⟩
  rw [forgetWith_apply (r := router) distinctIds rfl hlookup rfl, hothers,
    Run.bind_of_ok (fanOutWith_of_ok rfl hrun)]
  rfl

end Farewell

theorem forget_call_farewell :
    (∃ run, Farewell.router.Pooled 2 run ∧
      Farewell.router.Forgets 2 Farewell.topology Farewell.leaving Farewell.start
        (Farewell.router.forgetWith run Farewell.leaving Farewell.start)) ∧
    Farewell.router.Forgets 1 Farewell.topology Farewell.leaving Farewell.start
      ((Operation.forget Farewell.leaving).run Farewell.router Farewell.start) ∧
    receipts ((Operation.forget Farewell.leaving).run Farewell.router Farewell.start).2.events =
      [(Farewell.node 1 "a", forgetCommand "b"), (Farewell.node 3 "c", forgetCommand "b")] := by
  obtain ⟨hpools, hone⟩ := forget_call (r := Farewell.router) rfl Farewell.distinctIds
    Farewell.unhindered Farewell.leaving Farewell.start
  obtain ⟨run, hpooled, -⟩ := Farewell.exists_overtaking
  exact ⟨⟨run, hpooled, hpools 2 run Nat.two_pos hpooled⟩, hone, by decide +kernel⟩

theorem forget_call_overtaken :
    (∃ run, Farewell.router.Pooled 2 run ∧
      (Farewell.router.forgetWith run Farewell.leaving Farewell.start).1 = .ok () ∧
      receipts (Farewell.router.forgetWith run Farewell.leaving Farewell.start).2.events =
        [(Farewell.node 3 "c", forgetCommand "b"), (Farewell.node 1 "a", forgetCommand "b")]) ∧
    ¬ ∀ threads run, 0 < threads → Farewell.router.Pooled threads run →
      receipts (Farewell.router.forgetWith run Farewell.leaving Farewell.start).2.events =
        (Farewell.topology.others (Farewell.node 2 "b")).map (·, forgetCommand "b") := by
  obtain ⟨run, hpooled, hcall⟩ := Farewell.exists_overtaking
  have hreceipts : receipts (Farewell.router.forgetWith run Farewell.leaving
      Farewell.start).2.events =
      [(Farewell.node 3 "c", forgetCommand "b"), (Farewell.node 1 "a", forgetCommand "b")] := by
    rw [hcall]
    decide +kernel
  refine ⟨⟨run, hpooled, by rw [hcall], hreceipts⟩, fun hordered => ?_⟩
  have hsame := hreceipts.symm.trans (hordered 2 run Nat.two_pos hpooled)
  revert hsame
  decide +kernel

end SlotRouter
