import SlotRouter.Proofs.Network.Conversation
import SlotRouter.Proofs.Router.TaskResults

/-!
# Every task is attempted

* `Run.Ends` : the run does not wait without end, and the ways to put such runs together;
* `Router.Responsive` : whoever is asked answers; then no command waits without end (`hold_ends`);
* `Router.after` : what tasks leave behind that one thread attempted one after the other;
* `Router.Attempted` : one result for each task, each from an attempt in the state that the tasks
  before it left, whatever became of them;
* `runTasks_cases` : these are the results, unless a task waits without end;
* `fanOut_attempts` : so a call on several nodes gives them, and they can be read.
-/

namespace SlotRouter

variable {σ α β ε ε' : Type}

/-! ## Runs that end -/

/-- The run does not wait without end. -/
def Run.Ends (m : Run σ ε α) : Prop := ∀ w, (m w).1 ≠ .error .hung

section Outcomes

variable {outcome : Except (Stop ε) α} (h : outcome ≠ .error .hung)

include h

theorem caught_ne_hung : (caught outcome : Except (Stop ε') (Except ε α)) ≠ .error .hung := by
  rcases outcome with (e | text | _) | a
  · rintro ⟨⟩
  · rintro ⟨⟩
  · exact absurd rfl h
  · rintro ⟨⟩

theorem relabelled_ne_hung (f : ε → ε') : relabelled f outcome ≠ .error .hung := by
  rcases outcome with (e | text | _) | a
  · rintro ⟨⟩
  · rintro ⟨⟩
  · exact absurd rfl h
  · rintro ⟨⟩

end Outcomes

namespace Run.Ends

theorem value (a : α) : Run.Ends (pure a : Run σ ε α) := by
  rintro w ⟨⟩

theorem fail (e : ε) : Run.Ends (.fail e : Run σ ε α) := by
  rintro w ⟨⟩

theorem ofExcept (x : Except ε α) : Run.Ends (.ofExcept x : Run σ ε α) := by
  cases x with
  | ok a => exact value a
  | error e => exact fail e

theorem read : Run.Ends (.read : Run σ ε (World σ)) := by
  rintro w ⟨⟩

theorem modify (f : World σ → World σ) : Run.Ends (.modify f : Run σ ε Unit) := by
  rintro w ⟨⟩

section Together

variable {m : Run σ ε α}

theorem bind {f : α → Run σ ε β} (hm : m.Ends) (hf : ∀ a, (f a).Ends) : Run.Ends (m >>= f) := by
  intro w
  have hw := hm w
  rcases h : m w with ⟨s | a, w'⟩ <;> rw [h] at hw
  · rw [Run.bind_of_error h]
    rintro ⟨⟩
    exact hw rfl
  · rw [Run.bind_of_ok h]
    exact hf a w'

theorem attempt (hm : m.Ends) : Run.Ends (m.attempt : Run σ ε' (Except ε α)) := by
  intro w
  rw [Run.attempt_apply]
  exact caught_ne_hung (hm w)

theorem mapError (f : ε → ε') (hm : m.Ends) : Run.Ends (m.mapError f) := by
  intro w
  rw [Run.mapError_eq]
  exact relabelled_ne_hung (hm w) f

end Together

end Run.Ends

/-! ## Everyone answers -/

/-- Every node answers every command, and whoever supplies topologies answers too. -/
structure Router.Responsive (r : Router σ) : Prop where
  answers : ∀ s node command, (r.network.answer s node command).1 ≠ .hang
  supplies : ∀ answer events, r.source = .supplied answer → answer events ≠ .error .hung

theorem Talk.ends {net : Network σ} {node : Node} {x : Exchange α} {s s' : σ}
    {commands : List Command} {outcome : Except (Stop ClientError) α}
    (h : Talk net node x s commands outcome s')
    (hnet : ∀ s command, (net.answer s node command).1 ≠ .hang) : outcome ≠ .error .hung := by
  induction h with
  | value a s => rintro ⟨⟩
  | error e s => rintro ⟨⟩
  | collapse text s => rintro ⟨⟩
  | reply _ _ ih => exact ih
  | panic _ => rintro ⟨⟩
  | @hang command _ s s' ha =>
    have hanswer := hnet s command
    rw [ha] at hanswer
    exact absurd rfl hanswer

section Responsive

variable {r : Router σ} (h : r.Responsive)

include h

theorem exchangeWith_ends (node : Node) (x : Exchange α) :
    (exchangeWith r.network node x).Ends := by
  intro w
  cases hc : r.network.connect node with
  | error e =>
    rw [exchangeWith_of_error hc]
    rintro ⟨⟩
  | ok u =>
    obtain ⟨commands, outcome, s, htalk, hx⟩ := exchangeWith_of_ok hc x w
    rw [hx]
    exact caught_ne_hung (htalk.ends fun s command => h.answers s node command)

theorem topologyFrom_ends (node : Node) : (topologyFrom r.network node).Ends := by
  refine (exchangeWith_ends h node _).bind fun result => ?_
  cases result with
  | ok text => exact .ofExcept _
  | error e =>
    refine .bind ?_ fun _ => .fail _
    unfold dismiss
    cases e.redirect? with
    | none => exact .value ()
    | some redirect => exact .modify _

theorem fetchFirst_ends (nodes : List Node) : (fetchFirst r.network nodes).Ends := by
  induction nodes with
  | nil => exact .fail []
  | cons n rest ih =>
    refine (topologyFrom_ends h n).attempt.bind fun result => ?_
    cases result with
    | ok t => exact .value t
    | error e => exact ih.mapError _

theorem snapshot_ends : r.snapshot.Ends := by
  unfold Router.snapshot
  cases hsource : r.source with
  | fixed t => exact .value _
  | discovered seeds caching =>
    refine Run.Ends.read.bind fun w => ?_
    cases w.served with
    | some s => exact .value s
    | none =>
      refine Run.Ends.read.bind fun w => ?_
      exact ((fetchFirst_ends h _).mapError _).bind fun t =>
        (Run.Ends.modify _).bind fun _ => .value _
  | supplied answer =>
    intro w
    have hanswer := h.supplies answer w.history hsource
    unfold consult
    dsimp only
    cases ha : answer w.history with
    | ok t => rintro ⟨⟩
    | error s =>
      rintro ⟨⟩
      exact hanswer ha

theorem topology_ends : r.topology.Ends := (snapshot_ends h).bind fun _ => .value _

omit h in
theorem invalidate_ends (r : Router σ) : r.invalidate.Ends := by
  unfold Router.invalidate
  cases r.source with
  | fixed t => exact .value ()
  | discovered seeds caching => exact .modify _
  | supplied answer => exact .modify _

theorem nodeAt_ends (redirect : Redirect) : (r.nodeAt redirect).Ends := by
  refine (topology_ends h).bind fun t => ?_
  cases t.lookupAddress redirect.host redirect.port with
  | ok n => exact .value n
  | error e =>
    exact (invalidate_ends r).bind fun _ => (topology_ends h).bind fun _ => .ofExcept _

theorem tryOn_ends (x : Exchange α) (asking : Bool) (node : Node) :
    (r.tryOn x asking node).Ends := by
  refine (exchangeWith_ends h node _).bind fun result => ?_
  cases result with
  | ok a => exact .value _
  | error e =>
    dsimp only
    cases e.redirect? with
    | none => exact .fail _
    | some redirect => exact .value _

theorem follow_ends (x : Exchange α) (left : Nat) (asking : Bool) (node : Node) :
    (r.follow x left asking node).Ends := by
  induction left generalizing asking node with
  | zero =>
    rw [Router.follow]
    refine (tryOn_ends h x asking node).bind fun attempt => ?_
    cases attempt with
    | done a => exact .value a
    | redirected redirect => exact (Run.Ends.modify _).bind fun _ => .fail _
  | succ left ih =>
    rw [Router.follow]
    refine (tryOn_ends h x asking node).bind fun attempt => ?_
    cases attempt with
    | done a => exact .value a
    | redirected redirect =>
      have hheed : (r.heed node redirect).Ends := by
        refine (Run.Ends.modify _).bind fun _ => ?_
        split
        · exact .value ()
        · exact invalidate_ends r
      exact hheed.bind fun _ => (nodeAt_ends h redirect).bind fun target => ih redirect.ask target

theorem hold_ends (x : Exchange α) (node : Node) : (r.hold x node).Ends :=
  follow_ends h x r.maxRedirects false node

end Responsive

/-! ## Tasks -/

/-- What tasks leave behind that are attempted one after the other. -/
def Router.after (r : Router σ) (tasks : List (Task α)) (w : World σ) : World σ :=
  tasks.foldl (fun w t => (r.hold t.exchange t.node w).2) w

theorem Router.after_cons (r : Router σ) (t : Task α) (rest : List (Task α)) (w : World σ) :
    r.after (t :: rest) w = r.after rest (r.hold t.exchange t.node w).2 := rfl

/-- There is one result for each task, with its node and key. Each task was attempted in the state
that those before it left, as one thread attempts them, and its result says how that ended. -/
structure Router.Attempted (r : Router σ) (tasks : List (Task α)) (w : World σ)
    (results : List (NodeResult α)) : Prop where
  length : results.length = tasks.length
  each : ∀ i t, tasks[i]? = some t → ∃ value, results[i]? = some ⟨t.node, t.key, value⟩ ∧
    Settles (r.hold t.exchange t.node (r.after (tasks.take i) w)).1 value

theorem Router.Attempted.cons {r : Router σ} {t : Task α} {rest : List (Task α)} {w : World σ}
    {value : Except ClusterError α} {results : List (NodeResult α)}
    (ht : Settles (r.hold t.exchange t.node w).1 value)
    (h : r.Attempted rest (r.hold t.exchange t.node w).2 results) :
    r.Attempted (t :: rest) w (⟨t.node, t.key, value⟩ :: results) where
  length := congrArg (· + 1) h.length
  each := by
    intro i task htask
    cases i with
    | zero =>
      obtain rfl := Option.some.inj htask
      exact ⟨value, rfl, ht⟩
    | succ i => exact h.each i task htask

theorem Router.Attempted.uncons {r : Router σ} {task : Task α} {rest : List (Task α)} {w : World σ}
    {results : List (NodeResult α)} (h : r.Attempted (task :: rest) w results) :
    ∃ value others, results = ⟨task.node, task.key, value⟩ :: others ∧
      Settles (r.hold task.exchange task.node w).1 value ∧
      r.Attempted rest (r.hold task.exchange task.node w).2 others := by
  obtain ⟨value, hfirst, hsettles⟩ := h.each 0 task rfl
  cases results with
  | nil => cases hfirst
  | cons first others =>
    obtain rfl := Option.some.inj hfirst
    refine ⟨value, others, rfl, hsettles, Nat.succ.inj h.length, fun i other hother => ?_⟩
    exact h.each (i + 1) other hother

/-- The run of all tasks. -/
theorem runTasks_cases (r : Router σ) (tasks : List (Task α)) (w : World σ) :
    (∃ results, r.runTasks tasks w = (.ok results, r.after tasks w) ∧
      r.Attempted tasks w results) ∨
    ∃ v, r.runTasks tasks w = (.error .hung, v) ∧ ¬ r.Responsive := by
  induction tasks generalizing w with
  | nil => exact .inl ⟨[], rfl, rfl, by simp⟩
  | cons t rest ih =>
    rw [Router.runTasks]
    rcases ht : r.hold t.exchange t.node w with ⟨outcome, w'⟩
    by_cases hhung : outcome = .error .hung
    · subst hhung
      refine .inr ⟨w', Run.bind_of_error (runTask_of_hung ht) _, ?_⟩
      intro hresponsive
      apply hold_ends hresponsive t.exchange t.node w
      rw [ht]
    · -- however the first task ended, the others start from what it left
      obtain ⟨value, hvalue⟩ := exists_settles hhung
      rw [Run.bind_of_ok (runTask_of_settles ht hvalue)]
      have hafter : r.after (t :: rest) w = r.after rest w' := by
        rw [Router.after_cons, ht]
      rcases ih w' with ⟨results, hrun, hattempted⟩ | ⟨v, hrun, hresponsive⟩
      · rw [Run.bind_of_ok hrun, hafter]
        refine .inl ⟨_, rfl, .cons ?_ ?_⟩
        · rw [ht]
          exact hvalue
        · rw [ht]
          exact hattempted
      · exact .inr ⟨v, Run.bind_of_error hrun _, hresponsive⟩

section FanOut

variable {r : Router σ} (hruntime : r.insideRuntime = false) (htimeout : r.commandTimeout = none)

include hruntime htimeout

theorem fanOut_cases (tasks : List (Task α)) (w : World σ) :
    (∃ m, r.fanOut tasks w = (.ok m, r.after tasks w) ∧ r.Attempted tasks w m.results) ∨
    ∃ v, r.fanOut tasks w = (.error .hung, v) ∧ ¬ r.Responsive := by
  rcases runTasks_cases r tasks w with ⟨results, hrun, hattempted⟩ | ⟨v, hrun, hresponsive⟩
  · exact .inl ⟨⟨results⟩, fanOut_of_ok hruntime hrun, hattempted⟩
  · exact .inr ⟨v, fanOut_of_hung hruntime htimeout hrun, hresponsive⟩

theorem attempted_of_fanOut {tasks : List (Task α)} {w v : World σ} {m : MultiResult α}
    (h : r.fanOut tasks w = (.ok m, v)) : v = r.after tasks w ∧ r.Attempted tasks w m.results := by
  rcases fanOut_cases hruntime htimeout tasks w with ⟨m', hm, hattempted⟩ | ⟨v', hv, -⟩
  · obtain ⟨hmv, rfl⟩ := Prod.mk.inj (h.symm.trans hm)
    cases hmv
    exact ⟨rfl, hattempted⟩
  · obtain ⟨hmv, -⟩ := Prod.mk.inj (h.symm.trans hv)
    cases hmv

/-- A call on several nodes without a time limit attempts every task. If everyone answers, it gives
the results, and if it gives results they are those of all tasks, and can be read. -/
theorem fanOut_attempts (tasks : List (Task α)) (w : World σ) :
    (r.Responsive → ∃ m, r.fanOut tasks w = (.ok m, r.after tasks w)) ∧
    ∀ m v, r.fanOut tasks w = (.ok m, v) →
      v = r.after tasks w ∧ r.Attempted tasks w m.results ∧ m.Legible := by
  constructor
  · intro hresponsive
    rcases fanOut_cases hruntime htimeout tasks w with ⟨m, hm, -⟩ | ⟨v, -, hnot⟩
    · exact ⟨m, hm⟩
    · exact absurd hresponsive hnot
  · intro m v h
    obtain ⟨hv, hattempted⟩ := attempted_of_fanOut hruntime htimeout h
    exact ⟨hv, hattempted, m.legible⟩

end FanOut

namespace Mixed

def node (port : UInt16) : Node := { host := "10.0.0.1", port }

/-- The first node tears tasks down, the second one refuses everything, and others accept it. -/
def network : Network Unit where
  connect _ := .ok ()
  answer _ n _ :=
    if n.port = 1 then (.panic "boom", ())
    else if n.port = 2 then (.reply (.error (.ofIo .connectionRefused)), ())
    else (.reply (.ok .okay), ())

def router : Router Unit where
  source := .fixed (.ofNodes [])
  network := network

def start : World Unit := { nodes := () }

/-- Keys out of order, and one node twice. -/
def tasks : List (Task Unit) :=
  [(1, 2), (3, 0), (2, 1), (1, 3)].map fun (port, position) =>
    ⟨node port, some ⟨position, bytesOf "a"⟩, .query (.ofWords ["TOUCH", "a"]) Decode.unit⟩

theorem responsive : router.Responsive where
  answers := by
    intro s n command
    show (network.answer s n command).1 ≠ .hang
    unfold network
    dsimp only
    split
    · rintro ⟨⟩
    · split <;> rintro ⟨⟩
  supplies := by
    rintro answer events ⟨⟩

end Mixed

theorem fanOut_attempts_mixed :
    ∃ m, Mixed.router.fanOut Mixed.tasks Mixed.start =
        (.ok m, Mixed.router.after Mixed.tasks Mixed.start) ∧
      Mixed.router.Attempted Mixed.tasks Mixed.start m.results ∧ m.Legible := by
  obtain ⟨hreturns, hresults⟩ :=
    fanOut_attempts (r := Mixed.router) rfl rfl Mixed.tasks Mixed.start
  obtain ⟨m, hm⟩ := hreturns Mixed.responsive
  obtain ⟨-, hattempted, hlegible⟩ := hresults m _ hm
  exact ⟨m, hm, hattempted, hlegible⟩

/-! ## Tasks for keys -/

/-- What a result takes from its task is the same in all results as in all tasks. -/
theorem Router.Attempted.map_eq {r : Router σ} {tasks : List (Task α)} {w : World σ}
    {results : List (NodeResult α)} (h : r.Attempted tasks w results) {f : NodeResult α → β}
    {g : Task α → β} (hfg : ∀ (t : Task α) value, f ⟨t.node, t.key, value⟩ = g t) :
    results.map f = tasks.map g := by
  apply List.ext_getElem?
  intro i
  rw [List.getElem?_map, List.getElem?_map]
  cases ht : tasks[i]? with
  | none =>
    have hresult : results[i]? = none := by
      rw [List.getElem?_eq_none_iff, h.length]
      exact List.getElem?_eq_none_iff.1 ht
    rw [hresult]
    rfl
  | some t =>
    obtain ⟨value, hresult, -⟩ := h.each i t ht
    rw [hresult]
    exact congrArg some (hfg t value)

theorem Router.Attempted.nodes {r : Router σ} {tasks : List (Task α)} {w : World σ}
    {results : List (NodeResult α)} (h : r.Attempted tasks w results) :
    results.map (·.node) = tasks.map (·.node) :=
  h.map_eq fun _ _ => rfl

end SlotRouter
