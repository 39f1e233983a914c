import SlotRouter.Proofs.Router.ArbitraryNode
import SlotRouter.Proofs.Router.QualifiedNames

/-!
# The node in a result

A result names the node where its command went first. Redirects are followed inside the command, so
another node may have answered.

* `Router.Obtains` : a value, the chain of redirects it was obtained through and the hop it was said
  on, with the exact condition under which that hop is on the named node (`hold_obtains`);
* `Router.Credits` : what that means for a result (`onNode_credits`, `onArbitrary_credits`,
  `fanOut_credits`);
* `PropertiesCall.files` : so properties stand under the addresses of the nodes where the command
  went first;
* `results_name_first_nodes` : all of it for every call;
* `Rerouted` : a redirect that is followed (`not_always_named_by_answer`).
-/

namespace SlotRouter

variable {σ α : Type} {r : Router σ} {x : Exchange α} {w v : World σ}

/-! ## Where a value comes from -/

/-- The value was said on the last of these hops, which began on the named node. -/
structure Router.Obtains (r : Router σ) (x : Exchange α) (named : Node) (w : World σ)
    (earlier : List (Hop σ α)) (last : Hop σ α) (a : α) (v : World σ) : Prop where
  chain : RedirectChain r x r.maxRedirects false named w (earlier ++ [last]) (.ok a, v)
  said : last.outcome = .ok a
  /-- The connection of that hop is the last one that was given back. -/
  released : v.events.getLast? = some (.released last.node last.before.nextLease)
  /-- It is the node of that hop exactly if the hop before it, if there is one, was redirected back
  to its address. -/
  named_iff : named.sameAddress last.node ↔ ∀ hop ∈ earlier.getLast?, ∀ redirect,
    hop.redirect? = some redirect → redirect.host = named.host ∧ redirect.port = named.port

/-- If the result is a value, it was obtained in hops that began on the node of the result. -/
def Router.Credits (r : Router σ) (x : Exchange α) (w : World σ) (result : NodeResult α)
    (v : World σ) : Prop :=
  ∀ a, result.value = .ok a → ∃ earlier last, r.Obtains x result.node w earlier last a v

theorem Hop.ok_of_verdict {hop : Hop σ α} {a : α} (h : hop.verdict = .ok a) :
    hop.outcome = .ok a := by
  unfold Hop.verdict at h
  split at h <;> cases h
  assumption

theorem Hop.getLast?_after (hop : Hop σ α) :
    hop.after.events.getLast? = some (.released hop.node hop.before.nextLease) := by
  rw [Hop.after, World.events_lease, bracket, List.append_cons, ← List.append_assoc]
  exact List.getLast?_concat

/-- Only a hop that no redirect ended gives a value. -/
theorem RedirectChain.last_of_ok {left : Nat} {asking : Bool} {node : Node}
    {hops : List (Hop σ α)} {a : α} (h : RedirectChain r x left asking node w hops (.ok a, v)) :
    ∃ earlier last, hops = earlier ++ [last] ∧ last.outcome = .ok a ∧ v = last.after := by
  have hconcluded := h.concluded
  generalize hresult : ((.ok a, v) : Except (Stop ClusterError) α × World σ) = result at hconcluded
  cases hconcluded with
  | unreached _ => cases hresult
  | @ended earlier last _ =>
    obtain ⟨hverdict, hv⟩ := Prod.mk.inj hresult
    exact ⟨earlier, last, rfl, Hop.ok_of_verdict hverdict.symm, hv⟩
  | spent _ _ _ => cases hresult
  | lost _ _ _ _ => cases hresult

/-- The last hop is on the first node exactly if the redirect before it points to its address. -/
theorem RedirectChain.named_iff {left : Nat} {asking : Bool} {named : Node}
    {earlier : List (Hop σ α)} {last : Hop σ α} {result : Except (Stop ClusterError) α × World σ}
    (h : RedirectChain r x left asking named w (earlier ++ [last]) result) :
    named.sameAddress last.node ↔ ∀ hop ∈ earlier.getLast?, ∀ redirect,
      hop.redirect? = some redirect → redirect.host = named.host ∧ redirect.port = named.port := by
  rcases List.eq_nil_or_concat' earlier with rfl | ⟨before, hop, rfl⟩
  · obtain ⟨hnode, -⟩ := h.first last rfl
    rw [hnode]
    exact iff_of_true named.sameAddress_refl (by simp)
  · -- the redirect before the last hop tells the address of its node
    have hled := h.led
    rw [List.append_assoc] at hled
    obtain ⟨redirect, t, hredirect, -, -, -, hhost, hport⟩ :=
      (List.isChain_append_cons_cons.1 hled).2.1
    rw [List.getLast?_concat, Node.sameAddress_iff, hhost, hport]
    constructor
    · rintro ⟨hsame, hsame'⟩ _ ⟨⟩ other hother
      obtain rfl := Option.some.inj (hredirect.symm.trans hother)
      exact ⟨hsame.symm, hsame'.symm⟩
    · intro hall
      obtain ⟨hsame, hsame'⟩ := hall hop rfl redirect hredirect
      exact ⟨hsame.symm, hsame'.symm⟩

theorem hold_obtains {named : Node} {a : α} (h : r.hold x named w = (.ok a, v)) :
    ∃ earlier last, r.Obtains x named w earlier last a v := by
  obtain ⟨hops, hchain⟩ := follow_chain r x r.maxRedirects false named w
  rw [← Router.hold, h] at hchain
  obtain ⟨earlier, last, rfl, hsaid, hv⟩ := hchain.last_of_ok
  refine ⟨earlier, last, hchain, hsaid, ?_, hchain.named_iff⟩
  rw [hv]
  exact last.getLast?_after

theorem credits_of_hold {named : Node} {outcome : Except (Stop ClusterError) α}
    {value : Except ClusterError α} (key : Option KeyPosition)
    (h : r.hold x named w = (outcome, v)) (hvalue : Settles outcome value) :
    r.Credits x w ⟨named, key, value⟩ v := by
  rintro a rfl
  cases hvalue
  exact hold_obtains h

/-! ## One node -/

/-- A sequence of steps gives a value only if each step does. -/
theorem Run.of_bind_ok {ε β : Type} {m : Run σ ε α} {f : α → Run σ ε β} {b : β}
    (h : (m >>= f) w = (.ok b, v)) : ∃ a u, m w = (.ok a, u) ∧ f a u = (.ok b, v) := by
  rcases hm : m w with ⟨s | a, u⟩
  · rw [Run.bind_of_error hm] at h
    cases h
  · rw [Run.bind_of_ok hm] at h
    exact ⟨a, u, rfl, h⟩

theorem Run.of_ofExcept_ok {ε β : Type} {result : Except ε β} {b : β}
    (h : (.ofExcept result : Run σ ε β) w = (.ok b, v)) : result = .ok b ∧ w = v := by
  cases result with
  | error e => cases h
  | ok c =>
    cases h
    exact ⟨rfl, rfl⟩

theorem onNode_credits {node : Node} {result : NodeResult α}
    (h : r.onNode x node w = (.ok result, v)) :
    ∃ t u, r.topology w = (.ok t, u) ∧ t.resolve node = .ok result.node ∧
      result.isOk = true ∧ r.Credits x u result v := by
  rw [Router.onNode] at h
  obtain ⟨t, u, ht, h⟩ := Run.of_bind_ok h
  obtain ⟨target, u', htarget, h⟩ := Run.of_bind_ok h
  obtain ⟨hresolve, rfl⟩ := Run.of_ofExcept_ok htarget
  obtain ⟨a, v', hhold, h⟩ := Run.of_bind_ok h
  cases h
  exact ⟨t, u, ht, hresolve, rfl, credits_of_hold none hhold (.value a)⟩

theorem onArbitrary_credits {result : NodeResult α} (h : r.onArbitrary x w = (.ok result, v)) :
    ∃ t u nobody trials last, r.topology w = (.ok t, u) ∧
      NodeSearch r x nobody t.activeNodes u (trials ++ [last]) (.ok result, v) ∧
      last.node = result.node ∧ result.isOk = true ∧ r.Credits x last.before result v := by
  rw [Router.onArbitrary] at h
  obtain ⟨t, u, ht, h⟩ := Run.of_bind_ok h
  obtain ⟨trials, hsearch⟩ := firstReachable_search r x (.cause .noActiveNode) t.activeNodes u
  rw [h] at hsearch
  have hended := hsearch.ended
  generalize hfinal : ((.ok result, v) : Except (Stop ClusterError) (NodeResult α) × World σ) =
    final at hended
  cases hended with
  | @found earlier last a hlast =>
    cases hfinal
    obtain ⟨hhold, -⟩ := hsearch.made last List.mem_concat_self
    rw [hlast] at hhold
    exact ⟨t, u, _, earlier, last, ht, hsearch, rfl, rfl, credits_of_hold none hhold (.value a)⟩
  | refused _ _ _ => cases hfinal
  | panicked _ _ => cases hfinal
  | hung _ _ => cases hfinal
  | exhausted _ _ _ _ => cases hfinal
  | nobody _ => cases hfinal

/-! ## Several nodes -/

/-- Tasks give results only if the call may wait for them, and none of them waits without end. -/
theorem runTasks_of_fanOut {tasks : List (Task α)} {m : MultiResult α}
    (h : r.fanOut tasks w = (.ok m, v)) : r.runTasks tasks w = (.ok m.results, v) := by
  rw [Router.fanOut, Router.fanOutWith] at h
  split at h
  · cases h
  · unfold within Run.rescue at h
    rcases hrun : r.runTasks tasks w with ⟨s | results, u⟩
    · rw [Run.map_apply MultiResult.mk hrun] at h
      rcases s with e | text | _
      · cases h
      · cases h
      · cases hlimit : r.commandTimeout <;> rw [hlimit] at h <;> cases h
    · rw [Run.map_apply MultiResult.mk hrun] at h
      cases h
      rfl

theorem Router.after_take_succ {tasks : List (Task α)} {i : Nat} {task : Task α}
    (h : tasks[i]? = some task) (w : World σ) :
    r.after (tasks.take (i + 1)) w =
      (r.hold task.exchange task.node (r.after (tasks.take i) w)).2 := by
  rw [List.take_add_one, h, Router.after, List.foldl_append]
  rfl

/-- The results of all tasks, each of which began where those before it left off. -/
structure Router.CreditsEach (r : Router σ) (tasks : List (Task α)) (w : World σ)
    (results : List (NodeResult α)) : Prop where
  nodes : results.map (·.node) = tasks.map (·.node)
  each : ∀ i task result, tasks[i]? = some task → results[i]? = some result →
    r.Credits task.exchange (r.after (tasks.take i) w) result (r.after (tasks.take (i + 1)) w)

theorem fanOut_credits {tasks : List (Task α)} {m : MultiResult α}
    (h : r.fanOut tasks w = (.ok m, v)) :
    v = r.after tasks w ∧ r.CreditsEach tasks w m.results := by
  have hrun := runTasks_of_fanOut h
  rcases runTasks_cases r tasks w with ⟨results, hresults, hattempted⟩ | ⟨u, hhung, -⟩
  · rw [hrun] at hresults
    obtain ⟨⟨⟩, rfl⟩ := Prod.mk.inj hresults
    refine ⟨rfl, hattempted.nodes, fun i task result htask hresult => ?_⟩
    obtain ⟨value, hvalue, hsettles⟩ := hattempted.each i task htask
    obtain rfl := Option.some.inj (hresult.symm.trans hvalue)
    rw [Router.after_take_succ htask]
    exact credits_of_hold task.key (Prod.eta _).symm hsettles
  · rw [hrun] at hhung
    cases hhung

theorem onMasters_credits {m : MultiResult α} (h : r.onMasters x w = (.ok m, v)) :
    ∃ t u, r.topology w = (.ok t, u) ∧ m.results.map (·.node) = t.activeMasters ∧
      r.CreditsEach (Router.tasksFor x t.activeMasters) u m.results := by
  rw [Router.onMasters] at h
  obtain ⟨t, u, ht, h⟩ := Run.of_bind_ok h
  obtain ⟨-, hcredits⟩ := fanOut_credits h
  refine ⟨t, u, ht, ?_, hcredits⟩
  rw [hcredits.nodes, Router.tasksFor, List.map_map]
  exact List.map_id _

/-! ## Properties -/

theorem Talk.reply_of_ok {net : Network σ} {node : Node} {command : Command} {decode : Decoder α}
    {s s' : σ} {commands : List Command} {a : α}
    (h : Talk net node (.query command decode) s commands (.ok a) s') :
    ∃ reply, Exchange.decoded decode (.ok reply) = .ok a := by
  cases h with
  | @reply _ _ reply _ _ _ _ _ _ rest =>
    dsimp only at rest
    cases hdecoded : Exchange.decoded decode reply with
    | error e =>
      rw [hdecoded] at rest
      cases rest
    | ok b =>
      rw [hdecoded] at rest
      cases rest
      cases reply with
      | error e => cases hdecoded
      | ok reply => exact ⟨reply, hdecoded⟩

theorem AskingTalk.of_ok {net : Network σ} {node : Node} {s s' : σ} {commands : List Command}
    {a : α} (h : AskingTalk net node x s commands (.ok a) s') :
    ∃ v rest, Talk net node x v rest (.ok a) s' := by
  cases h with
  | accepted _ _ hrest => exact ⟨_, _, hrest⟩

theorem Hop.Made.talk_of_ok {net : Network σ} {hop : Hop σ α} {a : α} (h : hop.Made net x)
    (hsaid : hop.outcome = .ok a) : ∃ s commands s', Talk net hop.node x s commands (.ok a) s' := by
  cases hasking : hop.asking with
  | false =>
    have hplain := h.plain hasking
    rw [hsaid] at hplain
    exact ⟨_, _, _, hplain⟩
  | true =>
    have hasked := h.asked hasking
    rw [hsaid] at hasked
    obtain ⟨s, rest, htalk⟩ := hasked.of_ok
    exact ⟨s, rest, _, htalk⟩

/-- A value of one command is read of a reply, also after an `ASKING`. -/
theorem Router.Obtains.reply {command : Command} {decode : Decoder α} {named : Node}
    {earlier : List (Hop σ α)} {last : Hop σ α} {a : α}
    (h : r.Obtains (.query command decode) named w earlier last a v) :
    ∃ reply, decode reply = .ok a := by
  have hmade := h.chain.made last List.mem_concat_self
  obtain ⟨s, commands, s', htalk⟩ := hmade.talk_of_ok h.said
  obtain ⟨reply, hreply⟩ := htalk.reply_of_ok
  exact ⟨reply, decode_of_decoded hreply⟩

theorem answers_of_qualifiedAll {m : MultiResult Properties} {whole : Properties}
    (h : qualifiedAll m = .ok whole) :
    ∃ answers : List (Node × Properties), m.results.map NodeResult.answer = answers.map .ok ∧
      whole = .ofList (answers.flatMap fun answer => answer.2.under answer.1) := by
  rw [qualifiedAll_eq_answers] at h
  rcases mapUntilError_cases NodeResult.answer m.results with
    ⟨answers, hall, hanswers⟩ | ⟨_, _, _, e, hfirst, -⟩
  · rw [hall] at h
    cases h
    exact ⟨answers, hanswers, rfl⟩
  · rw [hfirst] at h
    cases h

theorem NodeResult.of_answer {result : NodeResult α} {n : Node} {a : α}
    (h : result.answer = .ok (n, a)) : result.node = n ∧ result.value = .ok a := by
  unfold NodeResult.answer at h
  cases hvalue : result.value with
  | error e =>
    rw [hvalue] at h
    cases h
  | ok b =>
    rw [hvalue] at h
    cases h
    exact ⟨rfl, rfl⟩

/-- The properties of some nodes stand in one map under the addresses of these nodes, where the
command went first. Each part was obtained through a chain of redirects from there. -/
structure Router.Files (r : Router σ) (x : Exchange Properties) (nodes : List Node) (w : World σ)
    (answers : List (Node × Properties)) : Prop where
  named : answers.map (·.1) = nodes
  each : ∀ i n p, answers[i]? = some (n, p) → ∃ earlier last,
    r.Obtains x n (r.after ((Router.tasksFor x nodes).take i) w) earlier last p
      (r.after ((Router.tasksFor x nodes).take (i + 1)) w)

section Properties

variable {op : Operation Properties} {command : Command} {decode : Decoder Properties}
  {Admits : Properties → Prop} {whole : Properties}

theorem files_of_credits {t : Topology} {m : MultiResult Properties} {x : Exchange Properties}
    {answers : List (Node × Properties)} (hnodes : m.results.map (·.node) = t.activeMasters)
    (hcredits : r.CreditsEach (Router.tasksFor x t.activeMasters) w m.results)
    (hanswers : m.results.map NodeResult.answer = answers.map .ok) :
    r.Files x t.activeMasters w answers := by
  -- at each position there is a result exactly if there is an answer, and of the same node
  have heach : ∀ i : Nat, (m.results[i]?).map NodeResult.answer = (answers[i]?).map .ok := by
    intro i
    rw [← List.getElem?_map, ← List.getElem?_map, hanswers]
  constructor
  · rw [← hnodes]
    apply List.ext_getElem?
    intro i
    rw [List.getElem?_map, List.getElem?_map]
    have hi := heach i
    cases hanswer : answers[i]? with
    | none =>
      rw [hanswer, Option.map_none, Option.map_eq_none_iff] at hi
      rw [hi]
      rfl
    | some answer =>
      rw [hanswer] at hi
      obtain ⟨result, hresult, hvalue⟩ := Option.map_eq_some_iff.1 hi
      rw [hresult]
      exact congrArg some (NodeResult.of_answer hvalue).1.symm
  · intro i n p hanswer
    have hi := heach i
    rw [hanswer] at hi
    obtain ⟨result, hresult, hvalue⟩ := Option.map_eq_some_iff.1 hi
    obtain ⟨rfl, hp⟩ := NodeResult.of_answer hvalue
    have htask : (Router.tasksFor x t.activeMasters)[i]? = some ⟨result.node, none, x⟩ := by
      rw [← hnodes, Router.tasksFor, List.map_map, List.getElem?_map, hresult]
      rfl
    exact hcredits.each i _ result htask hresult p hp

theorem PropertiesCall.files (hcall : PropertiesCall op command decode Admits)
    (h : op.run r w = (.ok whole, v)) :
    ∃ t u answers, r.topology w = (.ok t, u) ∧
      r.Files (.query command decode) t.activeMasters u answers ∧
      ((∀ answer ∈ answers, Admits answer.2) → Namespaced answers whole) := by
  rw [hcall.run_eq] at h
  obtain ⟨m, v', hmasters, h⟩ := Run.of_bind_ok h
  obtain ⟨t, u, ht, hnodes, hcredits⟩ := onMasters_credits hmasters
  obtain ⟨answers, hanswers, rfl⟩ := answers_of_qualifiedAll (Run.of_ofExcept_ok h).1
  have hfiles := files_of_credits hnodes hcredits hanswers
  refine ⟨t, u, answers, ht, hfiles, fun hadmits => ?_⟩
  have hdistinct : DistinctAddresses (answers.map (·.1)) := by
    rw [hfiles.named]
    exact t.distinct.filter _
  have hlegible : ∀ answer ∈ answers, answer.2.Distinct ∧ answer.2.ColonFree := by
    intro answer hanswer
    obtain ⟨i, hi⟩ := List.mem_iff_getElem?.1 hanswer
    obtain ⟨earlier, last, hobtains⟩ := hfiles.each i answer.1 answer.2 hi
    obtain ⟨reply, hreply⟩ := hobtains.reply
    obtain ⟨hnames, hcolon⟩ := hcall.legible hreply
    exact ⟨hnames, hcolon (hadmits answer hanswer)⟩
  exact namespaced_ofList hdistinct (fun answer hanswer => (hlegible answer hanswer).1)
    fun answer hanswer => (hlegible answer hanswer).2

end Properties

/-! ## All calls -/

/-- Every result with a value names the node where its command went first: the node that the given
one resolves to, the active node that was reached, or the node of the task. The value was said on
the connection of the last hop, which is one to that node exactly if there was no redirect or the
last one led back to it. So the map of all properties has them under the addresses of the active
masters, wherever redirects led to from there. -/
theorem results_name_first_nodes (r : Router σ) (w v : World σ) :
    (∀ (x : Exchange α) node result, r.onNode x node w = (.ok result, v) →
      ∃ t u, r.topology w = (.ok t, u) ∧ t.resolve node = .ok result.node ∧
        result.isOk = true ∧ r.Credits x u result v) ∧
    (∀ (x : Exchange α) result, r.onArbitrary x w = (.ok result, v) →
      ∃ t u nobody trials last, r.topology w = (.ok t, u) ∧
        NodeSearch r x nobody t.activeNodes u (trials ++ [last]) (.ok result, v) ∧
        last.node = result.node ∧ result.isOk = true ∧ r.Credits x last.before result v) ∧
    (∀ (tasks : List (Task α)) m, r.fanOut tasks w = (.ok m, v) →
      v = r.after tasks w ∧ r.CreditsEach tasks w m.results) ∧
    ∀ extra whole, (Operation.info extra).run r w = (.ok whole, v) →
      ∃ t u answers, r.topology w = (.ok t, u) ∧
        r.Files (infoExchange extra) t.activeMasters u answers ∧ Namespaced answers whole := by
  refine ⟨fun x node result h => onNode_credits h, fun x result h => onArbitrary_credits h,
    fun tasks m h => fanOut_credits h, fun extra whole h => ?_⟩
  obtain ⟨t, u, answers, ht, hfiles, hnames⟩ := PropertiesCall.files (.info extra) h
  rw [infoExchange, Exchange.query_map]
  exact ⟨t, u, answers, ht, hfiles, hnames fun _ _ => trivial⟩

namespace Rerouted

def master (port : UInt16) : Node := { host := "10.0.0.1", port, role := some .master }

/-- The first master answers everything with a `MOVED` to the second one, which has the value. -/
def network : Network Unit where
  connect _ := .ok ()
  answer _ n _ :=
    if n.port = 1 then (.reply (.error (.described .moved "" (some "7629 10.0.0.1:2"))), ())
    else (.reply (.ok (.simple "v")), ())

def router : Router Unit where
  source := .fixed (.ofNodes [master 1, master 2])
  network := network

def get : Exchange String := .query (.withArgs ["GET"] [[0x6b]]) Decode.string

def start : World Unit := { nodes := () }

def left : World Unit := (router.onNode get (master 1) start).2

/-- The result of the call, and what it leaves behind. -/
theorem onNode_master : ∃ result, router.onNode get (master 1) start = (.ok result, left) ∧
    result.node = master 1 ∧ result.value = .ok "v" := by
  have hvalue : (router.onNode get (master 1) start).1.toOption.map
      (fun result => (result.node, result.value?)) = some (master 1, some "v") := by
    decide +kernel
  unfold left
  rcases hrun : router.onNode get (master 1) start with ⟨s | ⟨node, key, e | a⟩, u⟩ <;>
    rw [hrun] at hvalue <;> cases hvalue
  exact ⟨_, rfl, rfl, rfl⟩

theorem last_released : left.events.getLast? = some (.released (master 2) 1) := by
  decide +kernel

end Rerouted

/-- The result names the first master, and the value comes from the second one. -/
theorem results_name_first_nodes_rerouted :
    ∃ earlier last, Rerouted.router.Obtains Rerouted.get (Rerouted.master 1) Rerouted.start earlier
      last "v" Rerouted.left ∧ last.node = Rerouted.master 2 := by
  obtain ⟨result, hrun, hnode, hvalue⟩ := Rerouted.onNode_master
  obtain ⟨t, u, ht, -, -, hcredits⟩ :=
    (results_name_first_nodes Rerouted.router Rerouted.start Rerouted.left).1 _ _ result hrun
  obtain ⟨earlier, last, hobtains⟩ := hcredits "v" hvalue
  cases ht
  rw [hnode] at hobtains
  have hreleased := Option.some.inj (Rerouted.last_released.symm.trans hobtains.released)
  exact ⟨earlier, last, hobtains, (Event.released.inj hreleased).1.symm⟩

/-- So the node in a result need not be the one that gave the value. -/
theorem not_always_named_by_answer :
    ¬ ∀ (r : Router Unit) (x : Exchange String) (node : Node) (w v : World Unit)
      (result : NodeResult String), r.onNode x node w = (.ok result, v) →
      ∀ producer lease, v.events.getLast? = some (.released producer lease) →
        result.node.sameAddress producer = true := by
  intro h
  obtain ⟨result, hrun, hnode, -⟩ := Rerouted.onNode_master
  have hsame := h _ _ _ _ _ _ hrun _ _ Rerouted.last_released
  rw [hnode] at hsame
  exact absurd hsame (by decide)

end SlotRouter
