import Mathlib.Data.List.Perm.Subperm
import SlotRouter.Proofs.Router.Pool
import SlotRouter.Proofs.Router.RedirectChain

/-!
# One command for several nodes

* `Network.Direct` : nobody redirects; then a command goes to one node only (`hold_direct`);
* `Network.answersTo` : how nodes answer a command that reaches one after the other;
* `Router.Told` : some nodes were told between two states of a pool: `told_of_step` for one step,
  `told_of_steps` by induction for all;
* `Router.Broadcast` : what becomes of the command as a whole, however many threads there are and
  whichever of them is first: `poolRun_broadcast` for the tasks, `fanOutWith_broadcast` for a call.
-/

namespace SlotRouter
open Relation (ReflTransGen)

variable {σ : Type} {r : Router σ} {threads : Nat} {command : Command} {w w' : World σ}

/-! ## One node -/

/-- No answer is a redirect. -/
def Network.Direct (net : Network σ) : Prop :=
  ∀ s node command reply e, (net.answer s node command).1 = .reply reply →
    Exchange.decoded Decode.value reply = .error e → e.redirect? = none

/-- The command was carried out. -/
def Answer.Accepts (a : Answer) : Prop := a.outcome Decode.unit = .ok ()

/-- There is no answer. -/
def Answer.isHang : Answer → Bool
  | hang => true
  | _ => false

theorem countP_isHang_eq_zero_iff {answers : List Answer} :
    answers.countP Answer.isHang = 0 ↔ .hang ∉ answers := by
  rw [List.countP_eq_zero]
  constructor
  · exact fun hnone hmem => hnone _ hmem rfl
  · intro hnot a ha hhang
    cases a with
    | hang => exact hnot ha
    | reply result => cases hhang
    | panic text => cases hhang

theorem Answer.Accepts.not_isHang {a : Answer} (h : a.Accepts) : a.isHang = false := by
  cases a with
  | reply result => rfl
  | panic text => rfl
  | hang => cases h

theorem decoded_value_of_unit {reply : Except ClientError Reply} {e : ClientError}
    (h : Exchange.decoded Decode.unit reply = .error e) :
    Exchange.decoded Decode.value reply = .error e := by
  unfold Exchange.decoded at h ⊢
  cases reply with
  | error e' =>
    cases h
    rfl
  | ok reply =>
    dsimp only at h ⊢
    cases hraised : reply.raised with
    | error e' =>
      rw [hraised] at h
      cases h
      rfl
    | ok raised =>
      rw [hraised] at h
      cases h

theorem Network.Direct.redirect?_none {net : Network σ} (h : net.Direct) {s s' : σ} {node : Node}
    {a : Answer} {e : ClientError} (ha : net.answer s node command = (a, s'))
    (he : a.outcome Decode.unit = .error (.failed e)) : e.redirect? = none := by
  cases a with
  | panic text => cases he
  | hang => cases he
  | reply reply =>
    refine h s node command reply e (congrArg Prod.fst ha) (decoded_value_of_unit ?_)
    rw [Answer.outcome] at he
    cases hd : Exchange.decoded Decode.unit reply with
    | ok u =>
      rw [hd] at he
      cases he
    | error e' =>
      rw [hd] at he
      cases he
      rfl

/-- The task of a node. -/
def Node.task (command : Command) (n : Node) : Task Unit :=
  ⟨n, none, .query command Decode.unit⟩

section Direct

variable (hdirect : r.network.Direct) (hc : ∀ node, r.network.connect node = .ok ())

include hdirect hc

/-- How a command ends is decided by the answer of its node. -/
theorem hold_direct {node : Node} {a : Answer} {s : σ}
    (ha : r.network.answer w.nodes node command = (a, s)) :
    r.hold (.query command Decode.unit) node w =
      (relabelled ClientError.toClusterError (a.outcome Decode.unit),
        w.lease node [command] s) := by
  have hx := exchangeWith_query (hc node) ha Decode.unit
  have hnone := fun e => hdirect.redirect?_none (e := e) ha
  generalize a.outcome Decode.unit = outcome at hx hnone
  rcases outcome with (e | text | _) | done
  · exact hold_of_error hx (hnone e rfl)
  · exact hold_of_stop hx
  · exact hold_of_stop hx
  · exact hold_of_value hx

/-- A node without an answer keeps the thread, and others have the task done. -/
theorem runTask_direct {n : Node} {a : Answer} {s : σ}
    (ha : r.network.answer w.nodes n command = (a, s)) :
    (a.isHang ∧ r.runTask (n.task command) w = (.error .hung, w.lease n [command] s)) ∨
    a.isHang = false ∧ ∃ value, ((∃ done, value = .ok done) ↔ a.Accepts) ∧
      r.runTask (n.task command) w = (.ok ⟨n, none, value⟩, w.lease n [command] s) := by
  have hhold := hold_direct hdirect hc ha
  unfold Answer.Accepts
  cases a with
  | hang => exact .inl ⟨rfl, runTask_of_hung hhold⟩
  | panic text =>
    refine .inr ⟨rfl, _, ?_, runTask_of_settles hhold (.panic rfl rfl)⟩
    simp [Answer.outcome]
  | reply reply =>
    rw [Answer.outcome] at hhold ⊢
    cases hdecoded : Exchange.decoded Decode.unit reply with
    | ok done =>
      rw [hdecoded] at hhold
      exact .inr ⟨rfl, _, iff_of_true ⟨done, rfl⟩ rfl, runTask_of_settles hhold (.value done)⟩
    | error e =>
      rw [hdecoded] at hhold
      refine .inr ⟨rfl, _, ?_, runTask_of_settles hhold (.failure _)⟩
      simp [Except.mapError]

end Direct

/-! ## Some of the nodes -/

namespace Network

/-- Nodes are told one after the other, each in the state that those before it left. -/
def answersTo (net : Network σ) (command : Command) : σ → List Node → List Answer
  | _, [] => []
  | s, n :: rest =>
    (net.answer s n command).1 :: net.answersTo command (net.answer s n command).2 rest

/-- The state that they leave. -/
def afterTelling (net : Network σ) (command : Command) (s : σ) (told : List Node) : σ :=
  told.foldl (fun s n => (net.answer s n command).2) s

theorem answersTo_append (net : Network σ) (command : Command) (s : σ) (first rest : List Node) :
    net.answersTo command s (first ++ rest) =
      net.answersTo command s first ++
        net.answersTo command (net.afterTelling command s first) rest := by
  induction first generalizing s with
  | nil => rfl
  | cons n others ih => exact congrArg _ (ih _)

end Network

namespace Stage

variable {α : Type}

/-- Its node does not answer. -/
def isStuck : Stage α → Bool
  | stuck => true
  | _ => false

theorem isStuck_of_isDone {stage : Stage α} (h : stage.isDone) : stage.isStuck = false := by
  cases stage <;> first | rfl | cases h

/-- Its node has been told. -/
def isTold (stage : Stage α) : Bool := stage.isStuck || stage.isDone

end Stage

namespace Pool

/-- The nodes that have been told, in the order of the tasks. -/
def reached (pool : Pool Unit) : List Node :=
  (pool.filter (·.stage.isTold)).map (·.task.node)

/-- The number of threads that wait for a node. -/
def stuck (pool : Pool Unit) : Nat := pool.countP (·.stage.isStuck)

/-- All results so far are values. -/
def Succeeding (pool : Pool Unit) : Prop :=
  ∀ p ∈ pool, ∀ result, p.stage = .done result → ∃ done, result.value = .ok done

section Split

variable {before after : Pool Unit} {p : Progress Unit}

theorem reached_of_told (h : p.stage.isTold) :
    reached (before ++ p :: after) = reached before ++ p.task.node :: reached after := by
  simp [reached, h]

theorem reached_of_not_told (h : p.stage.isTold = false) :
    reached (before ++ p :: after) = reached before ++ reached after := by
  simp [reached, h]

theorem stuck_split : stuck (before ++ p :: after) =
    stuck before + stuck after + if p.stage.isStuck then 1 else 0 := by
  simp only [stuck, List.countP_append, List.countP_cons, Nat.add_assoc]

theorem succeeding_split : Succeeding (before ++ p :: after) ↔
    (Succeeding before ∧ Succeeding after) ∧
      ∀ result, p.stage = .done result → ∃ done, result.value = .ok done := by
  unfold Succeeding
  rw [List.forall_mem_append, List.forall_mem_cons]
  tauto

theorem reached_of_waiting {pool : Pool Unit} (h : ∀ p ∈ pool, p.stage.isWaiting) :
    reached pool = [] := by
  rw [reached, List.map_eq_nil_iff, List.filter_eq_nil_iff]
  intro p hp
  rw [Stage.eq_waiting (h p hp)]
  exact Bool.false_ne_true

theorem stuck_of_waiting {pool : Pool Unit} (h : ∀ p ∈ pool, p.stage.isWaiting) :
    stuck pool = 0 := by
  rw [stuck, List.countP_eq_zero]
  intro p hp
  rw [Stage.eq_waiting (h p hp)]
  exact Bool.false_ne_true

theorem succeeding_of_waiting {pool : Pool Unit} (h : ∀ p ∈ pool, p.stage.isWaiting) :
    Succeeding pool := by
  intro p hp result hdone
  cases (Stage.eq_waiting (h p hp)).symm.trans hdone

end Split

end Pool

/-- Between two states of a pool the nodes of `told` received the command, in this order, and
nobody received anything else. -/
structure Router.Told (r : Router σ) (threads : Nat) (command : Command) (told : List Node)
    (s s' : Pool Unit × World σ) : Prop where
  received : ∃ log, s'.2.events = s.2.events ++ log ∧ receipts log = told.map (·, command)
  nodes : s'.2.nodes = r.network.afterTelling command s.2.nodes told
  reached : s'.1.reached.Perm (s.1.reached ++ told)
  inOrder : threads = 1 → s.1.InOrder → s'.1.InOrder ∧ s'.1.reached = s.1.reached ++ told
  stuck : s'.1.stuck =
    s.1.stuck + (r.network.answersTo command s.2.nodes told).countP Answer.isHang
  succeeding : s'.1.Succeeding ↔ s.1.Succeeding ∧
    ∀ a ∈ r.network.answersTo command s.2.nodes told, a.isHang = false → a.Accepts

theorem Router.Told.refl (s : Pool Unit × World σ) : r.Told threads command [] s s where
  received := ⟨[], (List.append_nil _).symm, rfl⟩
  nodes := rfl
  reached := by rw [List.append_nil]
  inOrder := fun _ h => ⟨h, (List.append_nil _).symm⟩
  stuck := rfl
  succeeding := (and_iff_left (List.forall_mem_nil _)).symm

theorem Router.Told.trans {first rest : List Node} {s m s' : Pool Unit × World σ}
    (h : r.Told threads command first s m) (h' : r.Told threads command rest m s') :
    r.Told threads command (first ++ rest) s s' where
  received := by
    obtain ⟨log, hlog, hfirst⟩ := h.received
    obtain ⟨log', hlog', hrest⟩ := h'.received
    refine ⟨log ++ log', by rw [hlog', hlog, List.append_assoc], ?_⟩
    rw [receipts_append, hfirst, hrest, List.map_append]
  nodes := by
    rw [h'.nodes, h.nodes]
    exact List.foldl_append.symm
  reached := by
    rw [← List.append_assoc]
    exact h'.reached.trans (h.reached.append_right rest)
  inOrder := by
    intro hthreads horder
    obtain ⟨hinner, hfirst⟩ := h.inOrder hthreads horder
    obtain ⟨hlast, hrest⟩ := h'.inOrder hthreads hinner
    exact ⟨hlast, by rw [hrest, hfirst, List.append_assoc]⟩
  stuck := by
    rw [h'.stuck, h.stuck, h.nodes, Network.answersTo_append, List.countP_append, Nat.add_assoc]
  succeeding := by
    rw [h'.succeeding, h.succeeding, h.nodes, Network.answersTo_append, List.forall_mem_append,
      and_assoc]

/-- A task that is carried out tells its node. -/
theorem told_single {n : Node} {a : Answer} {s : σ} {before after : Pool Unit} {stage : Stage Unit}
    (ha : r.network.answer w.nodes n command = (a, s))
    (hkeeps : threads = 1 → Pool.InOrder (before ++ ⟨n.task command, .running⟩ :: after) →
      Pool.InOrder (before ++ ⟨n.task command, stage⟩ :: after))
    (htold : stage.isTold) (hstuck : stage.isStuck = a.isHang)
    (hvalue : (∀ result, stage = .done result → ∃ done, result.value = .ok done) ↔
      (a.isHang = false → a.Accepts)) :
    r.Told threads command [n] (before ++ ⟨n.task command, .running⟩ :: after, w)
      (before ++ ⟨n.task command, stage⟩ :: after, w.lease n [command] s) := by
  have hanswers : r.network.answersTo command w.nodes [n] = [a] := by
    rw [Network.answersTo, ha, Network.answersTo]
  refine ⟨⟨_, w.events_lease n [command] s, receipts_bracket _ _ _⟩, ?_, ?_, ?_, ?_, ?_⟩
  · show s = (r.network.answer w.nodes n command).2
    rw [ha]
  · rw [Pool.reached_of_told htold, Pool.reached_of_not_told rfl, List.append_assoc]
    exact (List.perm_append_singleton n _).symm.append_left _
  · intro hthreads horder
    refine ⟨hkeeps hthreads horder, ?_⟩
    rw [Pool.reached_of_told htold, Pool.reached_of_not_told rfl,
      Pool.reached_of_waiting horder.isWaiting_after, List.append_nil]
    rfl
  · rw [hanswers, Pool.stuck_split, Pool.stuck_split, hstuck, List.countP_singleton]
    rfl
  · rw [hanswers, Pool.succeeding_split, Pool.succeeding_split, hvalue, List.forall_mem_singleton]
    exact and_congr_left fun _ => (and_iff_left (by rintro result ⟨⟩)).symm

/-- All tasks give their nodes the command. -/
def Pool.Orders (command : Command) (pool : Pool Unit) : Prop :=
  ∀ task ∈ pool.map (·.task), ∃ n : Node, task = n.task command

section Steps

variable (hdirect : r.network.Direct) (hc : ∀ node, r.network.connect node = .ok ())
  {s s' : Pool Unit × World σ}

include hdirect hc

theorem told_of_step (h : r.PoolStep threads s s') (horders : Pool.Orders command s.1) :
    ∃ told, r.Told threads command told s s' := by
  have hkeeps : threads = 1 → s.1.InOrder → s'.1.InOrder := by
    rintro rfl horder
    exact (h.resume_eq horder).1
  cases h with
  | @start before after task w hbefore hfree =>
    refine ⟨[], ⟨[], (List.append_nil _).symm, rfl⟩, rfl, ?_, ?_, ?_, ?_⟩
    · rw [Pool.reached_of_not_told rfl, Pool.reached_of_not_told rfl, List.append_nil]
    · intro hthreads horder
      refine ⟨hkeeps hthreads horder, ?_⟩
      rw [Pool.reached_of_not_told rfl, Pool.reached_of_not_told rfl, List.append_nil]
    · rw [Pool.stuck_split, Pool.stuck_split]
      rfl
    · rw [Pool.succeeding_split, Pool.succeeding_split]
      refine Iff.trans ?_ (and_iff_left (List.forall_mem_nil _)).symm
      exact and_congr_right fun _ => iff_of_true (by rintro result ⟨⟩) (by rintro result ⟨⟩)
  | @finish before after task w w' result hrun =>
    obtain ⟨n, rfl⟩ := horders task (by simp)
    rcases ha : r.network.answer w.nodes n command with ⟨a, s⟩
    rcases runTask_direct hdirect hc ha with ⟨-, hhung⟩ | ⟨hanswered, value, hvalue, hdone⟩
    · cases hhung.symm.trans hrun
    · cases hdone.symm.trans hrun
      refine ⟨[n], told_single ha hkeeps rfl hanswered.symm ?_⟩
      rw [← hvalue]
      constructor
      · exact fun hresult _ => hresult _ rfl
      · rintro hdone result ⟨⟩
        exact hdone hanswered
  | @hang before after task w w' hrun =>
    obtain ⟨n, rfl⟩ := horders task (by simp)
    rcases ha : r.network.answer w.nodes n command with ⟨a, s⟩
    rcases runTask_direct hdirect hc ha with ⟨hsilent, hhung⟩ | ⟨-, value, -, hdone⟩
    · cases hhung.symm.trans hrun
      refine ⟨[n], told_single ha hkeeps rfl hsilent.symm ?_⟩
      exact iff_of_true (by rintro result ⟨⟩) fun hanswered => by
        rw [hsilent] at hanswered
        cases hanswered
    · cases hdone.symm.trans hrun

theorem told_of_steps (h : ReflTransGen (r.PoolStep threads) s s')
    (horders : Pool.Orders command s.1) : ∃ told, r.Told threads command told s s' := by
  induction h with
  | refl => exact ⟨[], .refl s⟩
  | @tail m s' hsteps hstep ih =>
    obtain ⟨first, hfirst⟩ := ih
    have hm : Pool.Orders command m.1 := by rwa [Pool.Orders, map_task_of_steps hsteps]
    obtain ⟨rest, hrest⟩ := told_of_step hdirect hc hstep hm
    exact ⟨first ++ rest, hfirst.trans hrest⟩

end Steps

/-! ## Outcomes -/

/-- There are results, and all of them are values. -/
def AllSucceed {α : Type} (outcome : Except (Stop ClusterError) (List (NodeResult α))) : Prop :=
  ∃ results values, outcome = .ok results ∧ MultiResult.allValues results = .ok values

section Outcome

variable {α : Type}

theorem allSucceed_cons (result : NodeResult α)
    (outcome : Except (Stop ClusterError) (List (NodeResult α))) :
    AllSucceed (outcome.map (result :: ·)) ↔ (∃ a, result.value = .ok a) ∧ AllSucceed outcome := by
  constructor
  · rintro ⟨results, values, hresults, hvalues⟩
    cases outcome with
    | error stop => cases hresults
    | ok others =>
      cases hresults
      rw [MultiResult.allValues] at hvalues
      cases hvalue : result.value with
      | error e =>
        rw [hvalue] at hvalues
        cases hvalues
      | ok a =>
        rw [hvalue] at hvalues
        cases hothers : MultiResult.allValues others with
        | error e =>
          rw [hothers] at hvalues
          cases hvalues
        | ok values => exact ⟨⟨a, rfl⟩, others, values, rfl, hothers⟩
  · rintro ⟨⟨a, ha⟩, others, values, rfl, hvalues⟩
    exact ⟨result :: others, a :: values, rfl, by rw [MultiResult.allValues, ha, hvalues]; rfl⟩

theorem outcome_eq_hung_iff {pool : Pool α} :
    pool.outcome = .error .hung ↔ ∃ p ∈ pool, p.stage.isDone = false := by
  induction pool with
  | nil => simp [Pool.outcome]
  | cons p rest ih =>
    obtain ⟨task, stage⟩ := p
    rw [List.exists_mem_cons_iff]
    cases stage with
    | done result =>
      rw [Pool.outcome, ← ih]
      cases Pool.outcome rest with
      | error stop =>
        show Except.error stop = .error .hung ↔ _
        exact (or_iff_right (by rintro ⟨⟩)).symm
      | ok results =>
        exact iff_of_false (by rintro ⟨⟩) (by rintro (⟨⟨⟩⟩ | ⟨⟨⟩⟩))
    | waiting => exact iff_of_true rfl (.inl rfl)
    | running => exact iff_of_true rfl (.inl rfl)
    | stuck => exact iff_of_true rfl (.inl rfl)

end Outcome

theorem allSucceed_outcome_iff {pool : Pool Unit} :
    AllSucceed pool.outcome ↔ (∀ p ∈ pool, p.stage.isDone) ∧ pool.Succeeding := by
  induction pool with
  | nil => exact iff_of_true ⟨[], [], rfl, rfl⟩ ⟨List.forall_mem_nil _, List.forall_mem_nil _⟩
  | cons p rest ih =>
    obtain ⟨task, stage⟩ := p
    rw [List.forall_mem_cons, Pool.Succeeding, List.forall_mem_cons]
    have hstopped : ¬ AllSucceed
        (.error .hung : Except (Stop ClusterError) (List (NodeResult Unit))) := by
      rintro ⟨results, values, hresults, -⟩
      cases hresults
    cases stage with
    | done result =>
      rw [Pool.outcome, allSucceed_cons, ih]
      constructor
      · rintro ⟨hvalue, hdone, hrest⟩
        refine ⟨⟨rfl, hdone⟩, ?_, hrest⟩
        rintro _ ⟨⟩
        exact hvalue
      · rintro ⟨⟨-, hdone⟩, hvalue, hrest⟩
        exact ⟨hvalue result rfl, hdone, hrest⟩
    | waiting => exact iff_of_false hstopped (by rintro ⟨⟨⟨⟩, -⟩, -⟩)
    | running => exact iff_of_false hstopped (by rintro ⟨⟨⟨⟩, -⟩, -⟩)
    | stuck => exact iff_of_false hstopped (by rintro ⟨⟨⟨⟩, -⟩, -⟩)

/-! ## All of the nodes -/

namespace Pool

variable {pool : Pool Unit}

theorem reached_of_isTold (h : ∀ p ∈ pool, p.stage.isTold) :
    pool.reached = pool.map (·.task.node) := by
  rw [reached, List.filter_eq_self.2 h]

theorem InOrder.reached_prefix (h : pool.InOrder) :
    pool.reached <+: pool.map (·.task.node) := by
  induction pool with
  | nil => exact List.prefix_rfl
  | cons p rest ih =>
    obtain ⟨task, stage⟩ := p
    cases stage with
    | done result => exact List.cons_prefix_cons.2 ⟨rfl, ih h⟩
    | stuck =>
      show task.node :: reached rest <+: task.node :: rest.map (·.task.node)
      rw [reached_of_waiting h]
      exact List.prefix_append [task.node] _
    | waiting =>
      show reached rest <+: _
      rw [reached_of_waiting h]
      exact List.nil_prefix
    | running =>
      show reached rest <+: _
      rw [reached_of_waiting h]
      exact List.nil_prefix

end Pool

section Final

variable {pool : Pool Unit} (hfinal : r.PoolFinal threads (pool, w))

include hfinal

/-- If nothing more can happen, the occupied threads wait for nodes. -/
theorem busy_of_final : Pool.busy pool = pool.stuck := by
  refine List.countP_congr fun p hp => ?_
  have hrunning := not_running_of_final hfinal p hp
  cases hstage : p.stage with
  | running => exact absurd hstage hrunning
  | waiting => exact Iff.rfl
  | stuck => exact Iff.rfl
  | done result => exact Iff.rfl

/-- If a thread is left, everybody was told. -/
theorem isTold_of_final (hstuck : pool.stuck < threads) : ∀ p ∈ pool, p.stage.isTold := by
  intro p hp
  cases hstage : p.stage with
  | running => exact absurd hstage (not_running_of_final hfinal p hp)
  | waiting =>
    have hbusy := le_busy_of_final hfinal ⟨p, hp, by rw [hstage]; rfl⟩
    rw [busy_of_final hfinal] at hbusy
    exact absurd hstuck (Nat.not_lt.2 hbusy)
  | stuck => rfl
  | done result => rfl

/-- Tasks are left only if nodes do not answer. -/
theorem isDone_iff_of_final (hthreads : 0 < threads) :
    (∀ p ∈ pool, p.stage.isDone) ↔ pool.stuck = 0 := by
  constructor
  · intro hdone
    rw [Pool.stuck, List.countP_eq_zero]
    intro p hp
    exact Bool.eq_false_iff.1 (Stage.isStuck_of_isDone (hdone p hp))
  · intro hstuck p hp
    have htold := isTold_of_final hfinal (hstuck ▸ hthreads) p hp
    rw [Pool.stuck, List.countP_eq_zero] at hstuck
    exact (Bool.or_eq_true_iff.1 htold).resolve_left (hstuck p hp)

end Final

/-- What becomes of a command that so many threads give to the targets. The nodes of `told` receive
it in this order, and nobody receives anything else. -/
structure Router.Broadcast (r : Router σ) (threads : Nat) (command : Command)
    (targets told : List Node) (w w' : World σ) (succeeds hangs : Prop) : Prop where
  received : ∃ log, w'.events = w.events ++ log ∧ receipts log = told.map (·, command)
  /-- Only targets are told, each of them once, -/
  once : told.Subperm targets
  /-- and all of them, unless every thread waits for a node that does not answer. -/
  complete : (r.network.answersTo command w.nodes told).countP Answer.isHang < threads →
    told.Perm targets
  /-- One thread tells them in their order. -/
  inOrder : threads = 1 → told <+: targets
  succeeds : succeeds ↔ told.Perm targets ∧
    ∀ a ∈ r.network.answersTo command w.nodes told, a.Accepts
  hangs : hangs ↔ Answer.hang ∈ r.network.answersTo command w.nodes told

theorem Router.Broadcast.congr {targets told : List Node} {succeeds hangs succeeds' hangs' : Prop}
    (h : r.Broadcast threads command targets told w w' succeeds hangs)
    (hsucceeds : succeeds' ↔ succeeds) (hhangs : hangs' ↔ hangs) :
    r.Broadcast threads command targets told w w' succeeds' hangs' :=
  { h with succeeds := hsucceeds.trans h.succeeds, hangs := hhangs.trans h.hangs }

theorem poolRun_broadcast (hdirect : r.network.Direct)
    (hc : ∀ node, r.network.connect node = .ok ()) (hthreads : 0 < threads) {targets : List Node}
    {outcome : Except (Stop ClusterError) (List (NodeResult Unit))}
    (h : r.PoolRun threads (Router.tasksFor (.query command Decode.unit) targets) w (outcome, w')) :
    ∃ told, r.Broadcast threads command targets told w w' (AllSucceed outcome)
      (outcome = .error .hung) := by
  obtain ⟨pool, hsteps, hfinal, rfl⟩ := h
  set start := Pool.ofTasks (Router.tasksFor (.query command Decode.unit) targets)
  have hwaits : ∀ p ∈ start, p.stage.isWaiting := isWaiting_ofTasks _
  have horders : Pool.Orders command start := by
    rw [Pool.Orders, map_task_ofTasks]
    intro task htask
    obtain ⟨n, -, rfl⟩ := List.mem_map.1 htask
    exact ⟨n, rfl⟩
  obtain ⟨told, htold⟩ := told_of_steps hdirect hc hsteps horders
  have hnodes : pool.map (·.task.node) = targets := by
    have htasks := map_task_of_steps hsteps
    rw [map_task_ofTasks] at htasks
    have hmap := congrArg (List.map Task.node) htasks
    rwa [List.map_map, Router.tasksFor, List.map_map, List.map_id''] at hmap
    exact fun _ => rfl
  -- nobody had been told when the call began
  have hreached : pool.reached.Perm told := by
    have hreached := htold.reached
    rwa [Pool.reached_of_waiting hwaits] at hreached
  have hstuck : pool.stuck = (r.network.answersTo command w.nodes told).countP Answer.isHang := by
    have hstuck := htold.stuck
    rwa [Pool.stuck_of_waiting hwaits, Nat.zero_add] at hstuck
  have hsucceeding : pool.Succeeding ↔
      ∀ a ∈ r.network.answersTo command w.nodes told, a.isHang = false → a.Accepts :=
    htold.succeeding.trans (and_iff_right (Pool.succeeding_of_waiting hwaits))
  have hcomplete : pool.stuck < threads → told.Perm targets := by
    intro hleft
    rw [← hnodes, ← Pool.reached_of_isTold (isTold_of_final hfinal hleft)]
    exact hreached.symm
  refine ⟨told, htold.received, ?_, hstuck ▸ hcomplete, ?_, ?_, ?_⟩
  · exact ⟨pool.reached, hreached, hnodes ▸ List.filter_sublist.map _⟩
  · intro hthreads
    obtain ⟨horder, htold⟩ := htold.inOrder hthreads (inOrder_of_waiting hwaits)
    rw [Pool.reached_of_waiting hwaits, List.nil_append] at htold
    rw [← htold, ← hnodes]
    exact horder.reached_prefix
  · rw [allSucceed_outcome_iff, isDone_iff_of_final hfinal hthreads, hsucceeding]
    constructor
    · rintro ⟨hnone, haccepts⟩
      refine ⟨hcomplete (hnone ▸ hthreads), fun a ha => haccepts a ha ?_⟩
      rw [hstuck, List.countP_eq_zero] at hnone
      exact Bool.eq_false_iff.2 (hnone a ha)
    · rintro ⟨-, haccepts⟩
      refine ⟨?_, fun a ha _ => haccepts a ha⟩
      rw [hstuck, List.countP_eq_zero]
      exact fun a ha => Bool.eq_false_iff.1 (haccepts a ha).not_isHang
  · have hdone := isDone_iff_of_final hfinal hthreads
    rw [hstuck, countP_isHang_eq_zero_iff] at hdone
    rw [outcome_eq_hung_iff, ← not_iff_not, ← hdone]
    simp

/-! ## A call -/

/-- The call may wait as long as it takes, every node can be reached, and nobody redirects. -/
structure Router.Unhindered (r : Router σ) : Prop where
  outside : r.insideRuntime = false
  unlimited : r.commandTimeout = none
  reachable : ∀ node, r.network.connect node = .ok ()
  direct : r.network.Direct

/-- A call that gives a command to several nodes succeeds if all of them accept it. -/
theorem fanOutWith_broadcast (h : r.Unhindered) (hthreads : 0 < threads) {run : Executor σ Unit}
    (hpooled : r.Pooled threads run) (targets : List Node) (w : World σ) :
    ∀ outcome w', (r.fanOutWith run (Router.tasksFor (.query command Decode.unit) targets) >>=
        fun m => (Run.ofExcept m.values >>= fun _ => pure () : Run σ ClusterError Unit)) w =
          (outcome, w') →
      ∃ told, r.Broadcast threads command targets told w w' (outcome = .ok ())
        (outcome = .error .hung) := by
  intro outcome w' hcall
  have hending := hpooled (Router.tasksFor (.query command Decode.unit) targets) w
  rcases hrun : run (Router.tasksFor (.query command Decode.unit) targets) w with ⟨ending, v⟩
  rw [hrun] at hending
  obtain ⟨told, htold⟩ := poolRun_broadcast h.direct h.reachable hthreads hending
  obtain ⟨pool, -, -, rfl⟩ := hending
  refine ⟨told, ?_⟩
  rcases outcome_cases pool with ⟨results, hresults⟩ | hhung
  · rw [hresults] at hrun htold
    rw [Run.bind_of_ok (fanOutWith_of_ok h.outside hrun)] at hcall
    cases hvalues : (MultiResult.mk results).values with
    | ok values =>
      rw [Run.bind_ofExcept_ok hvalues] at hcall
      cases hcall
      refine htold.congr (iff_of_true rfl ⟨results, values, rfl, hvalues⟩) ?_
      exact iff_of_false (by rintro ⟨⟩) (by rintro ⟨⟩)
    | error e =>
      rw [hvalues] at hcall
      cases hcall
      refine htold.congr (iff_of_false (by rintro ⟨⟩) ?_)
        (iff_of_false (by rintro ⟨⟩) (by rintro ⟨⟩))
      rintro ⟨others, values, hothers, hvalues'⟩
      cases hothers
      cases hvalues.symm.trans hvalues'
  · rw [hhung] at hrun htold
    rw [Run.bind_of_error (fanOutWith_of_hung h.outside h.unlimited hrun)] at hcall
    cases hcall
    refine htold.congr (iff_of_false (by rintro ⟨⟩) ?_) (iff_of_true rfl rfl)
    rintro ⟨results, values, hresults, -⟩
    cases hresults

end SlotRouter
