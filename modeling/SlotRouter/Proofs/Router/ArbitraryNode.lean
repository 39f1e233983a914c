import SlotRouter.Proofs.Router.TargetResolution

/-!
# The first node that can be reached

* `Trial` : the exchange was held with one of some nodes, redirects included; `Trial.Made` : that is
  what happened; `Trial.Skipped` : it is left to the next node;
* `SearchEnds` : what the caller gets after the last trial;
* `NodeSearch` : all trials of some nodes, and how one more in front of them is a search too
  (`NodeSearch.cons`);
* `firstReachable_search` : every run over some nodes is a search, by induction on the nodes;
* `arbitrary_node_search` : a whole call is one over the active nodes of the topology.
-/

namespace SlotRouter

variable {σ α : Type}

/-- The exchange was held with a node, and wherever redirects led from there. -/
structure Trial (σ α : Type) where
  node : Node
  before : World σ
  outcome : Except (Stop ClusterError) α
  after : World σ

namespace Trial

/-- The trial is what holding the exchange comes to. -/
structure Made (r : Router σ) (x : Exchange α) (trial : Trial σ α) : Prop where
  held : r.hold x trial.node trial.before = (trial.outcome, trial.after)
  /-- The hops of the command begin on this node. -/
  starts : r.StartsAtNode ⟨trial.node, none, x⟩ trial.before

/-- The node could not be reached, or the one where redirects led to. -/
def Skipped (trial : Trial σ α) : Prop :=
  ∃ e, trial.outcome = .error (.failed e) ∧ e.IsUnreachable

end Trial

/-- What the caller gets after these trials of some nodes, and of no others. -/
inductive SearchEnds (nobody : ClusterError) (nodes : List Node) (w : World σ) :
    List (Trial σ α) → Except (Stop ClusterError) (NodeResult α) × World σ → Prop
  /-- The last trial gave a value. -/
  | found (earlier) {last a} : last.outcome = .ok a →
      SearchEnds nobody nodes w (earlier ++ [last]) (.ok ⟨last.node, none, .ok a⟩, last.after)
  /-- Another node would not do better. -/
  | refused (earlier) {last e} : last.outcome = .error (.failed e) → ¬ e.IsUnreachable →
      SearchEnds nobody nodes w (earlier ++ [last]) (.error (.failed e), last.after)
  | panicked (earlier) {last text} : last.outcome = .error (.panicked text) →
      SearchEnds nobody nodes w (earlier ++ [last]) (.error (.panicked text), last.after)
  | hung (earlier) {last} : last.outcome = .error .hung →
      SearchEnds nobody nodes w (earlier ++ [last]) (.error .hung, last.after)
  /-- All nodes were tried. -/
  | exhausted (earlier) {last e} : (earlier ++ [last]).map Trial.node = nodes →
      last.outcome = .error (.failed e) → e.IsUnreachable →
      SearchEnds nobody nodes w (earlier ++ [last]) (.error (.failed e), last.after)
  /-- There is no node to try. -/
  | nobody : nodes = [] → SearchEnds nobody nodes w [] (.error (.failed nobody), w)

/-- Nodes are tried in turn, from the first one on and each one once, while they are skipped. -/
structure NodeSearch (r : Router σ) (x : Exchange α) (nobody : ClusterError) (nodes : List Node)
    (w : World σ) (trials : List (Trial σ α))
    (result : Except (Stop ClusterError) (NodeResult α) × World σ) : Prop where
  tried : trials.map Trial.node <+: nodes
  made : ∀ trial ∈ trials, trial.Made r x
  first : ∀ trial ∈ trials.head?, trial.before = w
  next : trials.IsChain fun a b => a.Skipped ∧ b.before = a.after
  ended : SearchEnds nobody nodes w trials result

section Search

variable {r : Router σ} {x : Exchange α} {n : Node} {nodes : List Node} {w v : World σ}
  {nobody : ClusterError} {trials : List (Trial σ α)}
  {result : Except (Stop ClusterError) (NodeResult α) × World σ}

theorem Trial.made_of_hold {outcome : Except (Stop ClusterError) α}
    (h : r.hold x n w = (outcome, v)) : Trial.Made r x ⟨n, w, outcome, v⟩ :=
  ⟨h, hold_startsAtNode r ⟨n, none, x⟩ w⟩

/-- One trial that ends the search. -/
theorem NodeSearch.single {outcome : Except (Stop ClusterError) α}
    (h : r.hold x n w = (outcome, v))
    (hended : SearchEnds nobody (n :: nodes) w ([] ++ [⟨n, w, outcome, v⟩]) result) :
    NodeSearch r x nobody (n :: nodes) w [⟨n, w, outcome, v⟩] result where
  tried := List.prefix_append [n] nodes
  made := List.forall_mem_singleton.2 (Trial.made_of_hold h)
  first := by
    rintro _ ⟨⟩
    rfl
  next := List.isChain_singleton _
  ended := hended

/-- In front of a search of the other nodes, a trial that is skipped leaves its error for the case
that there are none. -/
theorem SearchEnds.cons {e : ClusterError} {trial : Trial σ α} (hnode : trial.node = n)
    (houtcome : trial.outcome = .error (.failed e)) (hskipped : e.IsUnreachable)
    (h : SearchEnds e nodes trial.after trials result) :
    SearchEnds nobody (n :: nodes) w (trial :: trials) result := by
  subst hnode
  cases h with
  | found earlier hlast => exact .found (trial :: earlier) hlast
  | refused earlier hlast he => exact .refused (trial :: earlier) hlast he
  | panicked earlier hlast => exact .panicked (trial :: earlier) hlast
  | hung earlier hlast => exact .hung (trial :: earlier) hlast
  | exhausted earlier hall hlast he =>
    exact .exhausted (trial :: earlier) (congrArg (trial.node :: ·) hall) hlast he
  | nobody hnone => exact .exhausted [] (congrArg (trial.node :: ·) hnone.symm) houtcome hskipped

theorem NodeSearch.cons {e : ClusterError} (h : r.hold x n w = (.error (.failed e), v))
    (hskipped : e.IsUnreachable) (hrest : NodeSearch r x e nodes v trials result) :
    NodeSearch r x nobody (n :: nodes) w (⟨n, w, .error (.failed e), v⟩ :: trials) result where
  tried := (List.prefix_cons_inj n).2 hrest.tried
  made := List.forall_mem_cons.2 ⟨Trial.made_of_hold h, hrest.made⟩
  first := by
    rintro _ ⟨⟩
    rfl
  next := List.isChain_cons.2
    ⟨fun trial htrial => ⟨⟨e, rfl, hskipped⟩, hrest.first trial htrial⟩, hrest.next⟩
  ended := .cons rfl rfl hskipped hrest.ended

variable (r x)

theorem firstReachable_search (nobody : ClusterError) (nodes : List Node) (w : World σ) :
    ∃ trials, NodeSearch r x nobody nodes w trials (r.firstReachable x nobody nodes w) := by
  induction nodes generalizing nobody w with
  | nil =>
    have hnone : r.firstReachable x nobody [] w = (.error (.failed nobody), w) := by
      rw [Router.firstReachable]
      rfl
    rw [hnone]
    exact ⟨[], List.nil_prefix, List.forall_mem_nil _, by simp, .nil, .nobody rfl⟩
  | cons n rest ih =>
    have hattempt : ((r.hold x n).attempt : Run σ ClusterError (Except ClusterError α)) w = _ :=
      Run.attempt_apply (r.hold x n) w
    rw [Router.firstReachable]
    rcases hhold : r.hold x n w with ⟨(e | text | _) | a, v⟩ <;> rw [hhold] at hattempt
    · rw [Run.bind_of_ok hattempt]
      dsimp only
      by_cases hskipped : e.IsUnreachable
      · -- the other nodes are searched with this error in case there are none
        obtain ⟨trials, hrest⟩ := ih e v
        rw [if_pos hskipped]
        exact ⟨_, .cons hhold hskipped hrest⟩
      · rw [if_neg hskipped]
        exact ⟨_, .single hhold (.refused [] rfl hskipped)⟩
    · rw [Run.bind_of_error hattempt]
      exact ⟨_, .single hhold (.panicked [] rfl)⟩
    · rw [Run.bind_of_error hattempt]
      exact ⟨_, .single hhold (.hung [] rfl)⟩
    · rw [Run.bind_of_ok hattempt]
      exact ⟨_, .single hhold (.found [] rfl)⟩

end Search

/-- What becomes of a call that may go to any node. -/
inductive Router.AsksSomeone (r : Router σ) (x : Exchange α) (w : World σ) :
    Except (Stop ClusterError) (NodeResult α) × World σ → Prop
  /-- There is no topology. -/
  | blind {s v} : r.topology w = (.error s, v) → OnlyAsks w v → AsksSomeone r x w (.error s, v)
  /-- The active nodes of the topology are tried, none of them twice. To look at the topology, nodes
  were only asked for reports. -/
  | searched {t v nobody trials result} : r.topology w = (.ok t, v) → OnlyAsks w v →
      (trials.map Trial.node).Nodup → nobody.kind = .clusterStateFailure →
      NodeSearch r x nobody t.activeNodes v trials result → AsksSomeone r x w result

/-- A call that may go to any node ends with the first active node that can be reached. Every active
node before it was tried, and no node after it; if none can be reached the last error decides, and
without active nodes nothing is sent. -/
theorem arbitrary_node_search (r : Router σ) (x : Exchange α) (w : World σ) :
    r.AsksSomeone x w (r.onArbitrary x w) := by
  have hasks := topology_onlyAsks r w
  rw [Router.onArbitrary]
  rcases hw : r.topology w with ⟨s | t, v⟩ <;> rw [hw] at hasks
  · rw [Run.bind_of_error hw]
    exact .blind hw hasks
  · rw [Run.bind_of_ok hw]
    obtain ⟨trials, hsearch⟩ := firstReachable_search r x (.cause .noActiveNode) t.activeNodes v
    have hnodup := hsearch.tried.sublist.nodup ((nodes_nodup t).filter _)
    exact .searched hw hasks hnodup rfl hsearch

end SlotRouter
