import Mathlib.Data.List.Forall2
import Mathlib.Logic.Relation
import Mathlib.Tactic.ByContra
import Mathlib.Tactic.Choose
import SlotRouter.Proofs.Router.TaskIsolation

/-!
# Tasks on several threads

`Router.runTasks` carries tasks out on one thread. A pool has several, which take the tasks from one
queue, so that any of the tasks that were taken may be the next to reach its node.

* `Stage`, `Progress` : how far a task has come; `Pool` : the tasks of a call in their order;
* `Router.PoolStep` : what a thread may do next; every step brings a task forward
  (`PoolStep.left_lt`), so no schedule goes on for ever (`exists_poolRun`);
* `Router.PoolRun` : what a schedule may end with. There is one result for each task, in the order
  of the tasks (`poolRun_results`);
* `Router.Pooled` : an executor that does what a pool may do;
* `Router.resume` : what one thread will do from here on, which none of its steps changes
  (`PoolStep.resume_eq`); so a pool with one thread is `Router.runTasks` (`pooled_one_iff`).

A task is carried out in one step here, with all that its node receives. Tasks with one command
show every order in which nodes may be told; the leases of tasks that overlap are not shown.
-/

namespace SlotRouter
open Relation (ReflTransGen)

variable {σ α : Type} {r : Router σ} {threads : Nat}

/-! ## Steps of a pool -/

/-- How far a task has come. -/
inductive Stage (α : Type)
  /-- No thread has taken it. -/
  | waiting
  /-- A thread has taken it. -/
  | running
  /-- Its node does not answer, and the thread waits. -/
  | stuck
  | done (result : NodeResult α)

namespace Stage

def isWaiting : Stage α → Bool
  | waiting => true
  | _ => false

/-- It occupies a thread. -/
def isBusy : Stage α → Bool
  | running | stuck => true
  | _ => false

/-- It has a result. -/
def isDone : Stage α → Bool
  | done _ => true
  | _ => false

/-- How many steps it may still take. -/
def left : Stage α → Nat
  | waiting => 2
  | running => 1
  | _ => 0

theorem eq_waiting {stage : Stage α} (h : stage.isWaiting) : stage = .waiting := by
  cases stage <;> first | rfl | cases h

theorem eq_done {stage : Stage α} (h : stage.isDone) : ∃ result, stage = .done result := by
  cases stage <;> first | exact ⟨_, rfl⟩ | cases h

end Stage

/-- A task, and how far it has come. -/
structure Progress (α : Type) where
  task : Task α
  stage : Stage α

/-- The tasks of a call in their order. -/
abbrev Pool (α : Type) := List (Progress α)

namespace Pool

/-- No task has been taken yet. -/
def ofTasks (tasks : List (Task α)) : Pool α := tasks.map (⟨·, .waiting⟩)

/-- The number of threads that are occupied. -/
def busy (pool : Pool α) : Nat := pool.countP (·.stage.isBusy)

/-- How many steps its tasks may still take. -/
def left (pool : Pool α) : Nat := total (pool.map (·.stage.left))

/-- The results in the order of the tasks, or waiting without end if a task is not done. -/
def outcome : Pool α → Except (Stop ClusterError) (List (NodeResult α))
  | [] => .ok []
  | ⟨_, .done result⟩ :: rest => (outcome rest).map (result :: ·)
  | _ :: _ => .error .hung

end Pool

theorem isWaiting_ofTasks (tasks : List (Task α)) :
    ∀ p ∈ Pool.ofTasks tasks, p.stage.isWaiting := by
  intro p hp
  obtain ⟨task, -, rfl⟩ := List.mem_map.1 hp
  rfl

theorem map_task_ofTasks (tasks : List (Task α)) : (Pool.ofTasks tasks).map (·.task) = tasks := by
  rw [Pool.ofTasks, List.map_map]
  exact List.map_id _

/-- What the threads of a pool may do. -/
inductive Router.PoolStep (r : Router σ) (threads : Nat) :
    Pool α × World σ → Pool α × World σ → Prop
  /-- A free thread takes the first task that waits. -/
  | start {before after : Pool α} {task w} : (∀ p ∈ before, p.stage.isWaiting = false) →
      Pool.busy (before ++ after) < threads →
      PoolStep r threads (before ++ ⟨task, .waiting⟩ :: after, w)
        (before ++ ⟨task, .running⟩ :: after, w)
  /-- A task is carried out, and its thread is free again. -/
  | finish {before after : Pool α} {task w w' result} : r.runTask task w = (.ok result, w') →
      PoolStep r threads (before ++ ⟨task, .running⟩ :: after, w)
        (before ++ ⟨task, .done result⟩ :: after, w')
  /-- A task is told to its node, which does not answer. -/
  | hang {before after : Pool α} {task w w'} : r.runTask task w = (.error .hung, w') →
      PoolStep r threads (before ++ ⟨task, .running⟩ :: after, w)
        (before ++ ⟨task, .stuck⟩ :: after, w')

/-- No thread can do anything more. -/
def Router.PoolFinal (r : Router σ) (threads : Nat) (s : Pool α × World σ) : Prop :=
  ∀ s', ¬ r.PoolStep threads s s'

/-- The tasks may end like this if so many threads carry them out. -/
def Router.PoolRun (r : Router σ) (threads : Nat) (tasks : List (Task α)) (w : World σ)
    (ending : Except (Stop ClusterError) (List (NodeResult α)) × World σ) : Prop :=
  ∃ pool, ReflTransGen (r.PoolStep threads) (Pool.ofTasks tasks, w) (pool, ending.2) ∧
    r.PoolFinal threads (pool, ending.2) ∧ ending.1 = pool.outcome

/-- The executor carries tasks out as so many threads may do. -/
def Router.Pooled (r : Router σ) (threads : Nat) (run : Executor σ α) : Prop :=
  ∀ tasks w, r.PoolRun threads tasks w (run tasks w)

/-! ## Every schedule ends -/

theorem runTask_cases (r : Router σ) (task : Task α) (w : World σ) :
    (∃ result w', r.runTask task w = (.ok result, w')) ∨
    ∃ w', r.runTask task w = (.error .hung, w') := by
  rcases hhold : r.hold task.exchange task.node w with ⟨outcome, w'⟩
  by_cases hhung : outcome = .error .hung
  · subst hhung
    exact .inr ⟨w', runTask_of_hung hhold⟩
  · obtain ⟨value, hvalue⟩ := exists_settles hhung
    exact .inl ⟨_, w', runTask_of_settles hhold hvalue⟩

section Step

variable {s s' : Pool α × World σ}

/-- The tasks stay the same. -/
theorem Router.PoolStep.map_task (h : r.PoolStep threads s s') :
    s'.1.map (·.task) = s.1.map (·.task) := by
  cases h <;> simp

theorem Router.PoolStep.left_lt (h : r.PoolStep threads s s') :
    Pool.left s'.1 < Pool.left s.1 := by
  cases h <;> simp [Pool.left, total_append, total, Stage.left]

theorem map_task_of_steps (h : ReflTransGen (r.PoolStep threads) s s') :
    s'.1.map (·.task) = s.1.map (·.task) := by
  induction h with
  | refl => rfl
  | tail _ hstep ih => exact hstep.map_task.trans ih

end Step

theorem exists_final (r : Router σ) (threads : Nat) (s : Pool α × World σ) :
    ∃ s', ReflTransGen (r.PoolStep threads) s s' ∧ r.PoolFinal threads s' := by
  induction hleft : Pool.left s.1 using Nat.strongRecOn generalizing s with
  | _ left ih =>
    by_cases hstep : ∃ next, r.PoolStep threads s next
    · obtain ⟨next, hnext⟩ := hstep
      obtain ⟨s', hsteps, hfinal⟩ := ih _ (hleft ▸ hnext.left_lt) next rfl
      exact ⟨s', .head hnext hsteps, hfinal⟩
    · exact ⟨s, .refl, not_exists.1 hstep⟩

/-- Whatever the tasks, so many threads end with something. -/
theorem exists_poolRun (r : Router σ) (threads : Nat) (tasks : List (Task α)) (w : World σ) :
    ∃ ending, r.PoolRun threads tasks w ending := by
  obtain ⟨⟨pool, w'⟩, hsteps, hfinal⟩ := exists_final r threads (Pool.ofTasks tasks, w)
  exact ⟨(pool.outcome, w'), pool, hsteps, hfinal, rfl⟩

open Classical in
/-- Every way in which a call may end is the one of some executor. -/
theorem exists_pooled {tasks : List (Task α)} {w : World σ}
    {ending : Except (Stop ClusterError) (List (NodeResult α)) × World σ}
    (h : r.PoolRun threads tasks w ending) :
    ∃ run, r.Pooled threads run ∧ run tasks w = ending := by
  choose other hother using exists_poolRun (α := α) r threads
  refine ⟨fun ts v => if ts = tasks ∧ v = w then ending else other ts v, fun ts v => ?_, ?_⟩
  · dsimp only
    split
    case isTrue heq =>
      obtain ⟨rfl, rfl⟩ := heq
      exact h
    case isFalse => exact hother ts v
  · exact if_pos ⟨rfl, rfl⟩

/-! ## How a schedule ends -/

section Final

variable {pool : Pool α} {w : World σ} (hfinal : r.PoolFinal threads (pool, w))

include hfinal

/-- No thread has a task that it did not carry out. -/
theorem not_running_of_final : ∀ p ∈ pool, p.stage ≠ .running := by
  rintro ⟨task, stage⟩ hp rfl
  obtain ⟨before, after, rfl⟩ := List.append_of_mem hp
  rcases runTask_cases r task w with ⟨result, w', hrun⟩ | ⟨w', hrun⟩
  · exact hfinal _ (.finish hrun)
  · exact hfinal _ (.hang hrun)

/-- Tasks are left over only if all threads are occupied. -/
theorem le_busy_of_final (hwaiting : ∃ p ∈ pool, p.stage.isWaiting) :
    threads ≤ Pool.busy pool := by
  have hfind : (pool.find? (·.stage.isWaiting)).isSome := List.find?_isSome.2 hwaiting
  obtain ⟨⟨task, stage⟩, hfirst⟩ := Option.isSome_iff_exists.1 hfind
  obtain ⟨hstage, before, after, rfl, hbefore⟩ := List.find?_eq_some_iff_append.1 hfirst
  obtain rfl : stage = .waiting := Stage.eq_waiting hstage
  by_contra hlt
  refine hfinal _ (.start (fun p hp => by simpa using hbefore p hp) ?_)
  simpa [Pool.busy, Stage.isBusy] using hlt

end Final

theorem final_of_isDone {pool : Pool α} (h : ∀ p ∈ pool, p.stage.isDone) (w : World σ) :
    r.PoolFinal threads (pool, w) := by
  intro s' hstep
  cases hstep with
  | start _ _ => cases h _ (List.mem_append_right _ List.mem_cons_self)
  | finish _ => cases h _ (List.mem_append_right _ List.mem_cons_self)
  | hang _ => cases h _ (List.mem_append_right _ List.mem_cons_self)

/-- A pool ends with results, or it waits without end. -/
theorem outcome_cases (pool : Pool α) :
    (∃ results, pool.outcome = .ok results) ∨ pool.outcome = .error .hung := by
  induction pool with
  | nil => exact .inl ⟨[], rfl⟩
  | cons p rest ih =>
    obtain ⟨task, stage⟩ := p
    cases stage with
    | done result =>
      rw [Pool.outcome]
      rcases ih with ⟨results, hrest⟩ | hrest
      · exact .inl ⟨result :: results, by rw [hrest]; rfl⟩
      · exact .inr (by rw [hrest]; rfl)
    | waiting => exact .inr rfl
    | running => exact .inr rfl
    | stuck => exact .inr rfl

/-- The result says what became of the task on its node, whenever that was. -/
def Router.TellsOf (r : Router σ) (task : Task α) (result : NodeResult α) : Prop :=
  ∃ w value, result = ⟨task.node, task.key, value⟩ ∧
    Settles (r.hold task.exchange task.node w).1 value

theorem tellsOf_of_runTask {task : Task α} {w w' : World σ} {result : NodeResult α}
    (h : r.runTask task w = (.ok result, w')) : r.TellsOf task result := by
  rcases hhold : r.hold task.exchange task.node w with ⟨outcome, v⟩
  by_cases hhung : outcome = .error .hung
  · subst hhung
    cases (runTask_of_hung hhold).symm.trans h
  · obtain ⟨value, hvalue⟩ := exists_settles hhung
    cases (runTask_of_settles hhold hvalue).symm.trans h
    exact ⟨w, value, rfl, by rwa [hhold]⟩

/-- Every result that there is tells of its task. -/
def Pool.Telling (r : Router σ) (pool : Pool α) : Prop :=
  ∀ p ∈ pool, ∀ result, p.stage = .done result → r.TellsOf p.task result

theorem Router.PoolStep.telling {s s' : Pool α × World σ} (h : r.PoolStep threads s s')
    (hs : Pool.Telling r s.1) : Pool.Telling r s'.1 := by
  unfold Pool.Telling at hs ⊢
  cases h with
  | start _ _ =>
    rw [List.forall_mem_append, List.forall_mem_cons] at hs ⊢
    exact ⟨hs.1, by rintro result ⟨⟩, hs.2.2⟩
  | finish hrun =>
    rw [List.forall_mem_append, List.forall_mem_cons] at hs ⊢
    refine ⟨hs.1, ?_, hs.2.2⟩
    rintro result ⟨⟩
    exact tellsOf_of_runTask hrun
  | hang _ =>
    rw [List.forall_mem_append, List.forall_mem_cons] at hs ⊢
    exact ⟨hs.1, by rintro result ⟨⟩, hs.2.2⟩

theorem telling_of_steps {s s' : Pool α × World σ} (h : ReflTransGen (r.PoolStep threads) s s')
    (hs : Pool.Telling r s.1) : Pool.Telling r s'.1 := by
  induction h with
  | refl => exact hs
  | tail _ hstep ih => exact hstep.telling ih

theorem outcome_results {pool : Pool α} (h : Pool.Telling r pool) {results : List (NodeResult α)}
    (hresults : pool.outcome = .ok results) :
    List.Forall₂ r.TellsOf (pool.map (·.task)) results := by
  induction pool generalizing results with
  | nil =>
    cases hresults
    exact .nil
  | cons p rest ih =>
    obtain ⟨hp, hrest⟩ := List.forall_mem_cons.1 h
    obtain ⟨task, stage⟩ := p
    cases stage with
    | done result =>
      rw [Pool.outcome] at hresults
      cases hothers : Pool.outcome rest with
      | error stop =>
        rw [hothers] at hresults
        cases hresults
      | ok others =>
        rw [hothers] at hresults
        cases hresults
        exact .cons (hp result rfl) (ih hrest hothers)
    | waiting => cases hresults
    | running => cases hresults
    | stuck => cases hresults

/-- However many threads there are and whatever they do first: if there are results, there is one
for each task, in the order of the tasks, and it tells of that task. -/
theorem poolRun_results {tasks : List (Task α)} {w w' : World σ} {results : List (NodeResult α)}
    (h : r.PoolRun threads tasks w (.ok results, w')) : List.Forall₂ r.TellsOf tasks results := by
  obtain ⟨pool, hsteps, -, hresults⟩ := h
  have hstart : Pool.Telling r (Pool.ofTasks tasks) := by
    intro p hp result hdone
    cases (Stage.eq_waiting (isWaiting_ofTasks tasks p hp)).symm.trans hdone
  rw [← map_task_ofTasks tasks, ← map_task_of_steps hsteps]
  exact outcome_results (telling_of_steps hsteps hstart) hresults.symm

/-! ## One thread -/

/-- What the only thread will do from here on. -/
def Router.resume (r : Router σ) : Pool α → Run σ ClusterError (List (NodeResult α))
  | [] => pure []
  | ⟨_, .done result⟩ :: rest => do
    let results ← r.resume rest
    pure (result :: results)
  | ⟨_, .stuck⟩ :: _ => .stop .hung
  | ⟨task, _⟩ :: rest => do
    let result ← r.runTask task
    let results ← r.resume rest
    pure (result :: results)

theorem resume_ofTasks (r : Router σ) (tasks : List (Task α)) :
    r.resume (.ofTasks tasks) = r.runTasks tasks := by
  induction tasks with
  | nil => rfl
  | cons task rest ih =>
    show (r.runTask task >>= fun result => r.resume (.ofTasks rest) >>= _) = _
    rw [ih, Router.runTasks]

theorem resume_append_congr {before pool pool' : Pool α} {w w' : World σ}
    (hdone : ∀ p ∈ before, p.stage.isDone) (h : r.resume pool w = r.resume pool' w') :
    r.resume (before ++ pool) w = r.resume (before ++ pool') w' := by
  induction before with
  | nil => exact h
  | cons p rest ih =>
    obtain ⟨hp, hrest⟩ := List.forall_mem_cons.1 hdone
    obtain ⟨task, stage⟩ := p
    obtain ⟨result, rfl⟩ := Stage.eq_done hp
    exact Run.bind_congr (ih hrest) _

/-- All tasks after the first one that is not done wait. -/
def Pool.InOrder : Pool α → Prop
  | [] => True
  | ⟨_, .done _⟩ :: rest => InOrder rest
  | _ :: rest => ∀ p ∈ rest, p.stage.isWaiting

theorem inOrder_of_waiting {pool : Pool α} (h : ∀ p ∈ pool, p.stage.isWaiting) :
    pool.InOrder := by
  cases pool with
  | nil => trivial
  | cons p rest =>
    obtain ⟨hp, hrest⟩ := List.forall_mem_cons.1 h
    obtain ⟨task, stage⟩ := p
    obtain rfl : stage = .waiting := Stage.eq_waiting hp
    exact hrest

theorem inOrder_append_iff {before rest : Pool α} (hdone : ∀ p ∈ before, p.stage.isDone) :
    Pool.InOrder (before ++ rest) ↔ Pool.InOrder rest := by
  induction before with
  | nil => exact Iff.rfl
  | cons p others ih =>
    obtain ⟨hp, hothers⟩ := List.forall_mem_cons.1 hdone
    obtain ⟨task, stage⟩ := p
    obtain ⟨result, rfl⟩ := Stage.eq_done hp
    exact ih hothers

/-- Nothing but tasks that are done comes before the one that occupies the thread. -/
theorem Pool.InOrder.isDone_before {before after : Pool α} {task : Task α}
    (h : Pool.InOrder (before ++ ⟨task, .running⟩ :: after)) : ∀ p ∈ before, p.stage.isDone := by
  induction before with
  | nil => exact List.forall_mem_nil _
  | cons p rest ih =>
    obtain ⟨other, stage⟩ := p
    have hmem : (⟨task, .running⟩ : Progress α) ∈ rest ++ ⟨task, .running⟩ :: after := by simp
    cases stage with
    | done result => exact List.forall_mem_cons.2 ⟨rfl, ih h⟩
    | waiting => cases h _ hmem
    | running => cases h _ hmem
    | stuck => cases h _ hmem

theorem Pool.InOrder.isWaiting_after {before after : Pool α} {task : Task α}
    (h : Pool.InOrder (before ++ ⟨task, .running⟩ :: after)) : ∀ p ∈ after, p.stage.isWaiting :=
  (inOrder_append_iff h.isDone_before).1 h

/-- The tasks before the first that waits are done if they do not occupy the thread. -/
theorem isDone_of_free {before after : Pool α} (hbefore : ∀ p ∈ before, p.stage.isWaiting = false)
    (hfree : Pool.busy (before ++ after) < 1) : ∀ p ∈ before, p.stage.isDone := by
  intro p hp
  have hbusy : ¬ p.stage.isBusy := by
    rw [Pool.busy, Nat.lt_one_iff, List.countP_eq_zero] at hfree
    exact hfree p (List.mem_append_left _ hp)
  obtain ⟨task, stage⟩ := p
  cases stage with
  | done result => rfl
  | waiting => cases hbefore _ hp
  | running => exact absurd rfl hbusy
  | stuck => exact absurd rfl hbusy

/-- A step of the only thread keeps the order, and what is still to come. -/
theorem Router.PoolStep.resume_eq {s s' : Pool α × World σ} (h : r.PoolStep 1 s s')
    (hs : Pool.InOrder s.1) : Pool.InOrder s'.1 ∧ r.resume s.1 s.2 = r.resume s'.1 s'.2 := by
  cases h with
  | start hbefore hfree =>
    have hdone := isDone_of_free hbefore hfree
    rw [inOrder_append_iff hdone] at hs ⊢
    exact ⟨hs, resume_append_congr hdone rfl⟩
  | @finish before after task w w' result hrun =>
    have hdone := hs.isDone_before
    rw [inOrder_append_iff hdone] at hs ⊢
    have hafter : Pool.InOrder after := inOrder_of_waiting hs
    exact ⟨hafter, resume_append_congr hdone (Run.bind_of_ok hrun _)⟩
  | hang hrun =>
    have hdone := hs.isDone_before
    rw [inOrder_append_iff hdone] at hs ⊢
    exact ⟨hs, resume_append_congr hdone (Run.bind_of_error hrun _)⟩

theorem resume_of_steps {s s' : Pool α × World σ} (h : ReflTransGen (r.PoolStep 1) s s')
    (hs : Pool.InOrder s.1) : Pool.InOrder s'.1 ∧ r.resume s.1 s.2 = r.resume s'.1 s'.2 := by
  induction h with
  | refl => exact ⟨hs, rfl⟩
  | tail _ hstep ih =>
    obtain ⟨hinner, hresume⟩ := ih
    obtain ⟨hlast, hstep⟩ := hstep.resume_eq hinner
    exact ⟨hlast, hresume.trans hstep⟩

/-- A task that is done hinders none of the others. -/
theorem Router.PoolStep.cons_done {s s' : Pool α × World σ} (h : r.PoolStep threads s s')
    (task : Task α) (result : NodeResult α) :
    r.PoolStep threads (⟨task, .done result⟩ :: s.1, s.2) (⟨task, .done result⟩ :: s'.1, s'.2) := by
  cases h with
  | @start before after other w hbefore hfree =>
    refine @PoolStep.start _ _ r threads (⟨task, .done result⟩ :: before) after other w ?_ ?_
    · exact List.forall_mem_cons.2 ⟨rfl, hbefore⟩
    · simpa [Pool.busy, Stage.isBusy] using hfree
  | @finish before after other w w' other_result hrun =>
    exact @PoolStep.finish _ _ r threads (⟨task, .done result⟩ :: before) after other w w' _ hrun
  | @hang before after other w w' hrun =>
    exact @PoolStep.hang _ _ r threads (⟨task, .done result⟩ :: before) after other w w' hrun

/-- When it can do nothing more, nothing is still to come. -/
theorem resume_of_final {pool : Pool α} {w : World σ} (horder : pool.InOrder)
    (hfinal : r.PoolFinal 1 (pool, w)) : r.resume pool w = (pool.outcome, w) := by
  induction pool with
  | nil => rfl
  | cons p rest ih =>
    obtain ⟨task, stage⟩ := p
    cases stage with
    | done result =>
      have hrest := ih horder fun s' hstep => hfinal _ (hstep.cons_done task result)
      rw [Router.resume, Pool.outcome]
      cases houtcome : Pool.outcome rest with
      | error stop => exact Run.bind_of_error (hrest.trans (by rw [houtcome])) _
      | ok results => exact Run.bind_of_ok (hrest.trans (by rw [houtcome])) _
    | waiting =>
      have hbusy : Pool.busy rest < 1 := by
        rw [Pool.busy, Nat.lt_one_iff, List.countP_eq_zero]
        intro p hp
        rw [Stage.eq_waiting (horder p hp)]
        exact Bool.false_ne_true
      exact absurd (.start (List.forall_mem_nil _) hbusy) (hfinal _)
    | running => exact absurd rfl (not_running_of_final hfinal _ List.mem_cons_self)
    | stuck => rfl

theorem poolRun_one_iff {tasks : List (Task α)} {w : World σ}
    {ending : Except (Stop ClusterError) (List (NodeResult α)) × World σ} :
    r.PoolRun 1 tasks w ending ↔ ending = r.runTasks tasks w := by
  have hrun : ∀ ending, r.PoolRun 1 tasks w ending → ending = r.runTasks tasks w := by
    rintro ⟨outcome, w'⟩ ⟨pool, hsteps, hfinal, rfl⟩
    obtain ⟨horder, hresume⟩ :=
      resume_of_steps hsteps (inOrder_of_waiting (isWaiting_ofTasks tasks))
    rw [← resume_ofTasks, hresume, resume_of_final horder hfinal]
  constructor
  · exact hrun ending
  · rintro rfl
    obtain ⟨ending, hending⟩ := exists_poolRun r 1 tasks w
    rwa [← hrun ending hending]

/-- A pool with one thread carries tasks out one after the other. -/
theorem pooled_one_iff {run : Executor σ α} : r.Pooled 1 run ↔ run = r.runTasks := by
  constructor
  · intro h
    funext tasks w
    exact poolRun_one_iff.1 (h tasks w)
  · rintro rfl tasks w
    exact poolRun_one_iff.2 rfl

end SlotRouter
