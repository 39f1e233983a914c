import SlotRouter.Proofs.Router.RedirectChain
import SlotRouter.Proofs.Router.SlotMasters
import SlotRouter.Proofs.Router.TaskIsolation
import SlotRouter.Proofs.Router.UsageErrors

/-!
# All targets are found before anything is sent

A call on several keys or nodes looks at the topology once and finds the node of each of them there.
If one of them has none, nothing is sent.

* `Aim` : which node of a topology something is for, and the error if there is none; `Aim.byKey`,
  `Aim.byNode` : the master of a key, and the node that a descriptor means;
* `Aim.Resolves` : what finding a task for every item gives: all tasks, or the error of the first
  item without a node (`resolves_of_each`, by induction on the items);
* `Router.Begun` : which tasks of a call are attempted, and on which nodes (`fanOut_begun`);
* `Router.Spreads` : what becomes of such a call (`onEachKey_spreads`, `onNodes_spreads`), also if
  its results are read (`Router.Spreads.read`);
* `SpreadCall`, `spread_call` : the calls of which all of this holds.
-/

namespace SlotRouter

variable {σ ι κ α β ε : Type} {r : Router σ} {w w' : World σ}

/-! ## Where items are bound for -/

/-- Which node something is for. -/
structure Aim (ι : Type) where
  find : Topology → ι → Option Node
  /-- The error if there is none. -/
  refusal : ι → ClusterError
  kind : ErrorKind
  /-- Two items are bound for the same place. -/
  Together : ι → ι → Prop
  kind_refusal : ∀ item, (refusal item).kind = kind
  find_together : ∀ t {a b}, Together a b → find t a = find t b

namespace Aim

/-- A key is for the master of its slot. -/
def byKey : Aim Bytes where
  find t key := t.masterForSlot (keySlot key)
  refusal key := .cause (.keyWithoutMaster (keySlot key) key)
  kind := .clusterStateFailure
  Together a b := keySlot a = keySlot b
  kind_refusal _ := rfl
  find_together t a b h := by rw [h]

/-- A descriptor is for the node that it means. -/
def byNode : Aim Node where
  find t n := (t.lookup n).toOption
  refusal := Node.unknown
  kind := .illegalArgument
  Together a b := a = b
  kind_refusal _ := rfl
  find_together t a b h := by rw [h]

variable {aim : Aim ι} {t : Topology} {x : ι → Exchange α}

/-- The task of one item: its exchange with the node for it, unless there is none. -/
inductive Meets (aim : Aim ι) (t : Topology) (x : ι → Exchange α) (item : ι) :
    Except ClusterError (Task α) → Prop
  | found {task} : aim.find t item = some task.node → task.exchange = x item →
      Meets aim t x item (.ok task)
  | missing : aim.find t item = none → Meets aim t x item (.error (aim.refusal item))

/-- Each item has a task, for its exchange with the node that the topology gives. -/
structure Found (aim : Aim ι) (t : Topology) (x : ι → Exchange α) (items : List ι)
    (tasks : List (Task α)) : Prop where
  nodes : items.map (aim.find t) = tasks.map fun task => some task.node
  exchanges : items.map x = tasks.map (·.exchange)
  together : ∀ {i j : Nat} {a b : ι} {task other : Task α}, items[i]? = some a →
    items[j]? = some b → tasks[i]? = some task → tasks[j]? = some other → aim.Together a b →
    task.node = other.node

/-- The tasks of all items. -/
inductive Resolves (aim : Aim ι) (t : Topology) (x : ι → Exchange α) (items : List ι) :
    Except ClusterError (List (Task α)) → Prop
  | found {tasks} : aim.Found t x items tasks → Resolves aim t x items (.ok tasks)
  /-- All before some item have a node, and that one has none. -/
  | missing {before item after} : items = before ++ item :: after →
      (∀ earlier ∈ before, ∃ n, aim.find t earlier = some n) → aim.find t item = none →
      Resolves aim t x items (.error (aim.refusal item))

section Nodes

variable {items : List ι} {tasks : List (Task α)}
  (hnodes : items.map (aim.find t) = tasks.map fun task => some task.node)

include hnodes

theorem find_eq_node {i : Nat} {item : ι} {task : Task α} (hitem : items[i]? = some item)
    (htask : tasks[i]? = some task) : aim.find t item = some task.node := by
  have hnode := congrArg (·[i]?) hnodes
  simp only [List.getElem?_map, hitem, htask, Option.map_some] at hnode
  exact Option.some.inj hnode

/-- Items that are bound for the same place go to the same node. -/
theorem Found.of_nodes (hexchanges : items.map x = tasks.map (·.exchange)) :
    aim.Found t x items tasks where
  nodes := hnodes
  exchanges := hexchanges
  together := by
    intro i j a b task other ha hb htask hother htogether
    have hfind := aim.find_together t htogether
    rw [find_eq_node hnodes ha htask, find_eq_node hnodes hb hother] at hfind
    exact Option.some.inj hfind

end Nodes

/-- Finding the tasks one by one, where each entry of a list stands for an item. -/
theorem resolves_of_each {item : κ → ι} {find : κ → Except ClusterError (Task α)}
    (h : ∀ entry, aim.Meets t x (item entry) (find entry)) (entries : List κ) :
    aim.Resolves t x (entries.map item) (mapUntilError find entries) := by
  induction entries with
  | nil => exact .found (.of_nodes rfl rfl)
  | cons entry rest ih =>
    rw [mapUntilError, List.map_cons]
    have hentry := h entry
    generalize find entry = first at hentry
    generalize mapUntilError find rest = others at ih
    cases hentry with
    | missing hnone =>
      have hsplit : item entry :: rest.map item = [] ++ item entry :: rest.map item := rfl
      exact .missing hsplit (List.forall_mem_nil _) hnone
    | @found task hnode hexchange =>
      cases ih with
      | @found tasks hfound =>
        have hcons : aim.Found t x (item entry :: rest.map item) (task :: tasks) := by
          refine .of_nodes ?_ ?_
          · rw [List.map_cons, hnode, hfound.nodes, List.map_cons]
          · rw [List.map_cons, ← hexchange, hfound.exchanges, List.map_cons]
        exact .found hcons
      | @missing before missed after hsplit hbefore hnone =>
        have hcons : item entry :: rest.map item = (item entry :: before) ++ missed :: after := by
          rw [hsplit, List.cons_append]
        exact .missing hcons (List.forall_mem_cons.2 ⟨⟨task.node, hnode⟩, hbefore⟩) hnone

theorem meets_key (t : Topology) (x : Bytes → Exchange α) (entry : Bytes × Nat) :
    byKey.Meets t x entry.1 (Router.taskForKey t x entry) := by
  unfold Router.taskForKey Topology.masterForKey
  cases hmaster : t.masterForSlot (keySlot entry.1) with
  | none => exact .missing hmaster
  | some master => exact .found hmaster rfl

theorem meets_node (t : Topology) (x : Exchange α) (n : Node) :
    byNode.Meets t (fun _ => x) n ((t.resolve n).map fun m => ⟨m, none, x⟩) := by
  have hfind : byNode.find t n = (t.lookup n).toOption := rfl
  unfold Topology.resolve
  cases hlookup : t.lookup n with
  | error e =>
    rw [hlookup] at hfind
    exact .missing hfind
  | ok m =>
    rw [hlookup] at hfind
    exact .found hfind rfl

theorem resolves_keys (t : Topology) (x : Bytes → Exchange α) (keys : List Bytes) :
    byKey.Resolves t x keys (mapUntilError (Router.taskForKey t x) keys.zipIdx) := by
  have h := resolves_of_each (meets_key t x) keys.zipIdx
  rwa [List.zipIdx_map_fst] at h

theorem resolves_nodes (t : Topology) (x : Exchange α) (nodes : List Node) :
    byNode.Resolves t (fun _ => x) nodes
      ((mapUntilError t.resolve nodes).map (Router.tasksFor x)) := by
  have h := resolves_of_each (meets_node t x) nodes
  rw [List.map_id', ← mapUntilError_map] at h
  exact h

end Aim

/-! ## Which tasks are attempted -/

/-- The command of a task first goes to the node of the task, if that can be reached. -/
def Router.StartsAtNode (r : Router σ) (task : Task α) (w : World σ) : Prop :=
  ∃ hops, RedirectChain r task.exchange r.maxRedirects false task.node w hops
      (r.hold task.exchange task.node w) ∧
    (r.network.connect task.node = .ok () →
      ∃ hop rest, hops = hop :: rest ∧ hop.node = task.node ∧ hop.before = w)

theorem hold_startsAtNode (r : Router σ) (task : Task α) (w : World σ) :
    r.StartsAtNode task w := by
  obtain ⟨hops, hchain⟩ := follow_chain r task.exchange r.maxRedirects false task.node w
  refine ⟨hops, hchain, fun hconnect => ?_⟩
  obtain ⟨hop, rest, hhops, hnode, -, hbefore⟩ := hchain.first_of_connected hconnect
  exact ⟨hop, rest, hhops, hnode, hbefore⟩

/-- Of some tasks the first ones are attempted, one after the other, and that leaves `v`. -/
structure Router.Begun (r : Router σ) (tasks : List (Task α)) (w : World σ)
    (begun : List (Task α)) (v : World σ) : Prop where
  first : begun <+: tasks
  after : v = r.after begun w
  /-- None is if the call comes from where it may not wait, and none after one that waits without
  end. Otherwise all are. -/
  all : begun = tasks ∨ (r.insideRuntime = true ∧ begun = []) ∨
    ∃ earlier last, begun = earlier ++ [last] ∧
      (r.hold last.exchange last.node (r.after earlier w)).1 = .error .hung
  starts : ∀ i task, begun[i]? = some task → r.StartsAtNode task (r.after (begun.take i) w)

theorem runTasks_begun (r : Router σ) (tasks : List (Task α)) (w : World σ) :
    ∃ begun, begun <+: tasks ∧ (r.runTasks tasks w).2 = r.after begun w ∧
      (begun = tasks ∨ ∃ earlier last, begun = earlier ++ [last] ∧
        (r.hold last.exchange last.node (r.after earlier w)).1 = .error .hung) := by
  induction tasks generalizing w with
  | nil => exact ⟨[], List.prefix_rfl, rfl, .inl rfl⟩
  | cons task rest ih =>
    rw [Router.runTasks]
    rcases hhold : r.hold task.exchange task.node w with ⟨outcome, v⟩
    have hafter : ∀ tasks, r.after (task :: tasks) w = r.after tasks v := by
      intro tasks
      rw [Router.after_cons, hhold]
    by_cases hhung : outcome = .error .hung
    · subst hhung
      refine ⟨[task], List.prefix_append [task] rest, ?_, .inr ⟨[], task, rfl, ?_⟩⟩
      · rw [Run.bind_of_error (runTask_of_hung hhold), hafter]
        rfl
      · show (r.hold task.exchange task.node w).1 = .error .hung
        rw [hhold]
    · -- however it ended otherwise, the next tasks begin where it left off
      obtain ⟨value, hvalue⟩ := exists_settles hhung
      obtain ⟨begun, hfirst, hworld, hall⟩ := ih v
      have hrest : ((r.runTasks rest >>= fun results =>
          pure (⟨task.node, task.key, value⟩ :: results)) v).2 = (r.runTasks rest v).2 := by
        rcases hrun : r.runTasks rest v with ⟨s | results, v'⟩
        · rw [Run.bind_of_error hrun]
        · rw [Run.bind_of_ok hrun]
          rfl
      refine ⟨task :: begun, List.cons_prefix_cons.2 ⟨rfl, hfirst⟩, ?_, ?_⟩
      · rw [Run.bind_of_ok (runTask_of_settles hhold hvalue), hrest, hworld, hafter]
      · rcases hall with hall | ⟨earlier, last, hsplit, hlast⟩
        · exact .inl (congrArg _ hall)
        · refine .inr ⟨task :: earlier, last, congrArg _ hsplit, ?_⟩
          rw [hafter]
          exact hlast

theorem within_world (limit : Option Nat) (m : Run σ ClusterError α) (w : World σ) :
    (within limit m w).2 = (m w).2 := by
  unfold within Run.rescue
  rcases m w with ⟨(e | text | _) | a, v⟩
  · rfl
  · rfl
  · cases limit <;> rfl
  · rfl

theorem fanOut_begun (r : Router σ) (tasks : List (Task α)) (w : World σ) :
    ∃ begun, r.Begun tasks w begun (r.fanOut tasks w).2 := by
  rw [Router.fanOut, Router.fanOutWith]
  cases hruntime : r.insideRuntime with
  | true => exact ⟨[], List.nil_prefix, rfl, .inr (.inl ⟨hruntime, rfl⟩), by simp⟩
  | false =>
    obtain ⟨begun, hfirst, hworld, hall⟩ := runTasks_begun r tasks w
    refine ⟨begun, hfirst, ?_, hall.imp_right .inr, fun i task _ => hold_startsAtNode r task _⟩
    rw [if_neg Bool.false_ne_true, within_world, ← hworld]
    exact congrArg Prod.snd (Run.map_apply MultiResult.mk (Prod.eta (r.runTasks tasks w)).symm)

/-! ## The whole call -/

/-- What becomes of a call that finds the nodes of all items in the topology. -/
inductive Router.Spreads (r : Router σ) (aim : Aim ι) (x : ι → Exchange α) (items : List ι)
    (w : World σ) : Except (Stop ClusterError) β × World σ → Prop
  /-- There is no topology. -/
  | blind {s v} : r.topology w = (.error s, v) → OnlyAsks w v →
      Spreads r aim x items w (.error s, v)
  /-- The first item without a node decides the error. Nodes were only asked for reports, when the
  topology was looked at. -/
  | refused {t v before item after} : r.topology w = (.ok t, v) → OnlyAsks w v →
      items = before ++ item :: after → (∀ earlier ∈ before, ∃ n, aim.find t earlier = some n) →
      aim.find t item = none →
      Spreads r aim x items w (.error (.failed (aim.refusal item)), v)
  /-- Each item has a node of that one topology, where its command goes first. -/
  | sent {t v tasks begun result} : r.topology w = (.ok t, v) → OnlyAsks w v →
      aim.Found t x items tasks → r.Begun tasks v begun result.2 →
      Spreads r aim x items w result

theorem topology_onlyAsks (r : Router σ) (w : World σ) : OnlyAsks w (r.topology w).2 :=
  onlyAsks_of_lookups (topology_takes r w)

section Spread

variable {aim : Aim ι} {x : ι → Exchange α} {items : List ι}

theorem spreads_of_resolves {find : Topology → Except ClusterError (List (Task α))}
    (h : ∀ t, aim.Resolves t x items (find t)) (w : World σ) :
    r.Spreads aim x items w
      ((r.topology >>= fun t => .ofExcept (find t) >>= fun tasks => r.fanOut tasks) w) := by
  have hasks := topology_onlyAsks r w
  rcases hw : r.topology w with ⟨s | t, v⟩ <;> rw [hw] at hasks
  · rw [Run.bind_of_error hw]
    exact .blind hw hasks
  · rw [Run.bind_of_ok hw]
    have ht := h t
    generalize find t = found at ht
    cases ht with
    | missing hsplit hbefore hnone => exact .refused hw hasks hsplit hbefore hnone
    | @found tasks hfound =>
      obtain ⟨begun, hbegun⟩ := fanOut_begun r tasks v
      exact .sent hw hasks hfound hbegun

/-- The results are read at the end. -/
theorem Router.Spreads.read {m : Run σ ClusterError (MultiResult α)}
    {f : MultiResult α → Run σ ClusterError β} (h : r.Spreads aim x items w (m w))
    (hf : ∀ results v, (f results v).2 = v) : r.Spreads aim x items w ((m >>= f) w) := by
  rcases hm : m w with ⟨s | results, v⟩
  · rw [Run.bind_of_error hm]
    rw [hm] at h
    cases h with
    | blind hw hasks => exact .blind hw hasks
    | refused hw hasks hsplit hbefore hnone => exact .refused hw hasks hsplit hbefore hnone
    | sent hw hasks hfound hbegun => exact .sent hw hasks hfound hbegun
  · rw [Run.bind_of_ok hm]
    rw [hm] at h
    cases h with
    | @sent t v' tasks begun _ hw hasks hfound hbegun =>
      have hread : r.Begun tasks v' begun (f results v).2 := by
        rw [hf]
        exact hbegun
      exact .sent hw hasks hfound hread

end Spread

theorem onEachKey_spreads (r : Router σ) (x : Bytes → Exchange α) (keys : List Bytes)
    (w : World σ) : r.Spreads .byKey x keys w (r.onEachKey x keys w) :=
  spreads_of_resolves (fun t => Aim.resolves_keys t x keys) w

theorem onNodes_spreads (r : Router σ) (x : Exchange α) (nodes : List Node) (w : World σ) :
    r.Spreads .byNode (fun _ => x) nodes w (r.onNodes x nodes w) := by
  have h := spreads_of_resolves (r := r) (fun t => Aim.resolves_nodes t x nodes) w
  simp only [Run.bind_ofExcept_map] at h
  exact h

/-! ## Calls -/

/-- The calls with a task for each of several items: where items are bound for, the exchange of
each, and the items. -/
inductive SpreadCall : {ι α β : Type} → Operation β → Aim ι → (ι → Exchange α) → List ι → Prop
  | onNodes {α : Type} (x : Exchange α) (nodes) :
      SpreadCall (.onNodes x nodes) .byNode (fun _ => x) nodes
  | onEachKey {α : Type} (x : Bytes → Exchange α) (keys) :
      SpreadCall (.onEachKey x keys) .byKey x keys
  | getMany {α : Type} {keys} (decode : Decoder α) : ¬ SameSlot keys →
      SpreadCall (.getMany keys decode) .byKey
        (fun key => .query (.withArgs ["GET"] [key]) decode) keys
  | countExisting {keys} : ¬ SameSlot keys →
      SpreadCall (.countExisting keys) .byKey
        (fun key => .query (.withArgs ["EXISTS"] [key]) Decode.count) keys
  | delete {keys} : ¬ SameSlot keys →
      SpreadCall (.delete keys) .byKey
        (fun key => .query (.withArgs ["DEL"] [key]) Decode.count) keys

theorem ofExcept_world (result : Except ε α) (w : World σ) :
    (Run.ofExcept result w).2 = w := by
  cases result <;> rfl

theorem sumCounts_world (counts : List Nat) (w : World σ) :
    (sumCounts counts w : Except (Stop ε) Nat × World σ).2 = w := by
  unfold sumCounts
  split <;> rfl

theorem sumOf_world (counts : Except ClusterError (List Nat)) (w : World σ) :
    ((Run.ofExcept counts >>= sumCounts : Run σ ClusterError Nat) w).2 = w := by
  cases counts with
  | error e => rfl
  | ok counts => exact sumCounts_world counts w

/-- Keys of several slots are taken one by one. -/
theorem spreads_of_span {keys : List Bytes} (hspan : ¬ SameSlot keys) {x : Bytes → Exchange α}
    {together : Run σ ClusterError β} {read : MultiResult α → Run σ ClusterError β}
    (hread : ∀ results v, (read results v).2 = v) (r : Router σ) (w : World σ) :
    r.Spreads .byKey x keys w ((Run.ofExcept (refuseNoKeys keys) >>= fun _ =>
      if SameSlot keys then together else r.onEachKey x keys >>= read) w) := by
  rw [run_of_span hspan]
  exact (onEachKey_spreads r x keys w).read hread

/-- A call on several keys or nodes looks at the topology once, before anything else. If an item has
no node there, the first such item decides the error and nothing is sent. Otherwise the command of
each item goes first to the node that it has there, whatever became of the items before it. -/
theorem spread_call {op : Operation β} {aim : Aim ι} {x : ι → Exchange α} {items : List ι}
    (h : SpreadCall op aim x items) (r : Router σ) (w : World σ) :
    r.Spreads aim x items w (op.run r w) := by
  cases h with
  | onNodes x nodes => exact onNodes_spreads r x nodes w
  | onEachKey x keys => exact onEachKey_spreads r x keys w
  | getMany decode hspan =>
    exact spreads_of_span hspan (fun results v => ofExcept_world results.inKeyOrder v) r w
  | countExisting hspan =>
    exact spreads_of_span hspan (fun results v => sumOf_world (results.tolerant "EXISTS") v) r w
  | delete hspan =>
    exact spreads_of_span hspan (fun results v => sumOf_world results.values v) r w

namespace Gap

/-- The only master has the first third of the slots. -/
def master : Node where
  host := "10.0.0.1"
  port := 7000
  role := some .master
  slots := ⟨[⟨0, 5460⟩], by decide, by decide, by decide, trivial⟩

def topology : Topology := .ofNodes [master]

def router : Router Unit where
  source := .fixed topology
  network := ⟨fun _ => .ok (), fun _ _ _ => (.reply (.ok (.int 1)), ())⟩

def start : World Unit := { nodes := () }

/-- The first key is in slot 5061, the second one in slot 12182. -/
def keys : List Bytes := [bytesOf "bar", bytesOf "foo"]

def deleteEach (key : Bytes) : Exchange Nat := .query (.withArgs ["DEL"] [key]) Decode.count

theorem masterForSlot_foo : topology.masterForSlot (keySlot (bytesOf "foo")) = none := by
  have hclaims : topology.claims = [(⟨0, 5460⟩, master)] := by decide +kernel
  rw [Topology.masterForSlot, Topology.slotTable, SlotTable.ofClaims, hclaims,
    List.mergeSort_singleton]
  decide +kernel

end Gap

/-- So the first key is not deleted, though its master would have done it. -/
theorem spread_call_gap :
    Gap.router.Spreads .byKey Gap.deleteEach Gap.keys Gap.start
      ((Operation.delete Gap.keys).run Gap.router Gap.start) ∧
    ∃ e, (Operation.delete Gap.keys).run Gap.router Gap.start = (.error (.failed e), Gap.start) ∧
      e.kind = .clusterStateFailure := by
  have hspan : ¬ SameSlot Gap.keys := by decide +kernel
  have hspreads := spread_call (.delete hspan) Gap.router Gap.start
  refine ⟨hspreads, ?_⟩
  generalize (Operation.delete Gap.keys).run Gap.router Gap.start = result at hspreads
  cases hspreads with
  | blind hw _ => cases hw
  | @refused t v before item after hw _ _ _ _ =>
    cases hw
    exact ⟨_, rfl, rfl⟩
  | @sent t v tasks begun _ hw _ hfound _ =>
    cases hw
    have hfoo : some (Gap.topology.masterForSlot (keySlot (bytesOf "foo"))) =
        tasks[1]?.map fun task => some task.node := by
      rw [← List.getElem?_map, ← hfound.nodes]
      rfl
    rw [Gap.masterForSlot_foo] at hfoo
    cases htask : tasks[1]? <;> rw [htask] at hfoo <;> cases hfoo

end SlotRouter
