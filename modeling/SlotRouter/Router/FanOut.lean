import SlotRouter.Router.Redirects
import SlotRouter.Text.Milliseconds
import SlotRouter.Text.Quoted

/-!
# One command on several nodes

* `Task`: an exchange for one node, perhaps for the sake of a key;
* `NodeResult`: what became of a task;
* `MultiResult`: the results of all tasks in their order, and the ways to read them: `values`
  fails with the first failure, `successes` drops failures, `inKeyOrder` sorts by position;
* `Router.runTask`: errors and panics of a task stay in its result;
* `Executor`: a way to carry out the tasks of a call; `Router.runTasks` is the one with one thread,
  where a task starts when the one before it has ended;
* `Router.fanOutWith`, `fanOut`: all tasks within the time limit, by any executor or by one thread.

Every call of the router has its tasks carried out by one thread. Several threads let tasks overlap:
the results still come in the order of the tasks, but nodes receive their commands in any order, and
a node that does not answer keeps one thread waiting and not the others. `Pool` in the proofs says
what they may do, and that one of them does what `runTasks` does.
-/

namespace SlotRouter

variable {σ α : Type}

/-- The key that a task is about, and its position in the list of keys. -/
structure KeyPosition where
  position : Nat
  key : Bytes
  deriving DecidableEq, Repr

structure Task (α : Type) where
  node : Node
  key : Option KeyPosition
  exchange : Exchange α

structure NodeResult (α : Type) where
  node : Node
  key : Option KeyPosition
  value : Except ClusterError α

/-- The failure of a command on one node. -/
def NodeResult.error? (r : NodeResult α) : Option ClusterError :=
  match r.value with
  | .ok _ => none
  | .error e => some e

/-- The value of a command on one node. -/
def NodeResult.value? (r : NodeResult α) : Option α := r.value.toOption

/-- The command succeeded. -/
def NodeResult.isOk (r : NodeResult α) : Bool := r.value.isOk

structure MultiResult (α : Type) where
  results : List (NodeResult α)

namespace MultiResult

/-- The number of results. -/
def size (m : MultiResult α) : Nat := m.results.length

/-- There was no task. -/
def isEmpty (m : MultiResult α) : Bool := m.results.isEmpty

/-- Some task failed. -/
def hasErrors (m : MultiResult α) : Bool := m.results.any (!·.isOk)

/-- The first result on a node. -/
def resultFor? (m : MultiResult α) (node : Node) : Option (NodeResult α) :=
  m.results.find? (·.node.sameAddress node)

/-- The failures with their nodes. -/
def errors (m : MultiResult α) : List (Node × ClusterError) :=
  m.results.filterMap fun r => r.error?.map (r.node, ·)

/-- The values of the results that come before the first failure, or that failure. -/
def allValues : List (NodeResult α) → Except ClusterError (List α)
  | [] => .ok []
  | r :: rest =>
    match r.value with
    | .error e => .error e
    | .ok a => (allValues rest).map (a :: ·)

def values (m : MultiResult α) : Except ClusterError (List α) := allValues m.results

def successes (m : MultiResult α) : List α := m.results.filterMap (·.value?)

/-- A result for an earlier key comes first, a result for no key last. -/
def keyBefore (a b : NodeResult α) : Bool :=
  match a.key, b.key with
  | some k, some l => k.position ≤ l.position
  | none, some _ => false
  | _, none => true

def inKeyOrder (m : MultiResult α) : Except ClusterError (List α) :=
  allValues (m.results.mergeSort keyBefore)

/-- The first value that is present. -/
def firstPresent? (m : MultiResult (Option α)) : Option α := m.successes.findSome? id

end MultiResult

/-- The report of a task that panicked. The `N` stands for the number of the task, which is another
one in every run. -/
def panicReport (text : String) : String := "task N panicked with message " ++ Text.quote text

/-- Makes the error of a run, or its panic, a value. -/
def settle (m : Run σ ClusterError α) : Run σ ClusterError (Except ClusterError α) :=
  (Except.ok <$> m).rescue fun
    | .failed e => pure (.error e)
    | .panicked text => pure (.error (.cause (.taskPanicked (panicReport text))))
    | .hung => .stop .hung

/-- Stops waiting after a number of milliseconds, if there is a limit. -/
def within (limit : Option Nat) (m : Run σ ClusterError α) : Run σ ClusterError α :=
  m.rescue fun
    | .hung =>
      match limit with
      | some ms => .fail (.cause (.timedOut (Text.millisecondsText ms)))
      | none => .stop .hung
    | s => .stop s

/-- A way to carry out the tasks of a call. Their results come in the order of the tasks. -/
abbrev Executor (σ α : Type) := List (Task α) → Run σ ClusterError (List (NodeResult α))

namespace Router

def runTask (r : Router σ) (t : Task α) : Run σ ClusterError (NodeResult α) := do
  let value ← settle (r.hold t.exchange t.node)
  pure ⟨t.node, t.key, value⟩

/-- The executor with one thread: each task runs to its end before the next one starts, and after
one that waits without end no other starts. -/
def runTasks (r : Router σ) : List (Task α) → Run σ ClusterError (List (NodeResult α))
  | [] => pure []
  | t :: rest => do
    let result ← r.runTask t
    let results ← r.runTasks rest
    pure (result :: results)

/-- Has an executor carry out all tasks. Nothing is sent if the call comes from where it may not
wait. -/
def fanOutWith (r : Router σ) (run : Executor σ α) (tasks : List (Task α)) :
    Run σ ClusterError (MultiResult α) :=
  if r.insideRuntime then .fail (.cause .insideRuntime)
  else within r.commandTimeout (MultiResult.mk <$> run tasks)

/-- Carries out all tasks on one thread. -/
def fanOut (r : Router σ) (tasks : List (Task α)) : Run σ ClusterError (MultiResult α) :=
  r.fanOutWith r.runTasks tasks

end Router

end SlotRouter
