import SlotRouter.Proofs.Router.RedirectChain
import SlotRouter.Proofs.Router.SlotMasters
import SlotRouter.Proofs.Router.TaskResults

/-!
# A task for each key

What comes of a command on each of several keys when every master answers. The nodes are only looked
at through a `view`, which each command may change.

* `hold_query`, `hold_of_talk` : one command that is answered;
* `ServesKeys` : whatever the view is, the master of a key answers for it; `valuesFrom` : the values
  of the keys in turn, each from what the ones before it left;
* `Keyed` : the results of tasks for keys, with `Keyed.values`, `Keyed.tolerant` and
  `Keyed.inKeyOrder` for the ways to read them;
* `runTasks_served` : what tasks for keys leave behind, by induction on the keys;
* `onEachKey_served` : the same for the whole call.
-/

namespace SlotRouter

variable {σ α S : Type} {r : Router σ} {t : Topology} {w w' : World σ}

/-! ## One command -/

theorem hold_query {node : Node} {command : Command} {reply : Reply} {s : σ} {a : α}
    {decode : Decoder α} (hc : r.network.connect node = .ok ())
    (ha : r.network.answer w.nodes node command = (.reply (.ok reply), s))
    (hd : Exchange.decoded decode (.ok reply) = .ok a) :
    r.hold (.query command decode) node w = (.ok a, w.lease node [command] s) := by
  have hx := exchangeWith_query hc ha decode
  rw [Answer.outcome, hd] at hx
  exact hold_of_value hx

/-- A command of which is known how it ends, and in what states it leaves the nodes. -/
theorem hold_of_talk {x : Exchange α} {good : σ → Prop} {w : World σ}
    (hc : r.network.connect node = .ok ())
    (h : ∀ commands outcome s', Talk r.network node x w.nodes commands outcome s' →
      outcome = .ok a ∧ good s') :
    ∃ w', r.hold x node w = (.ok a, w') ∧ good w'.nodes := by
  obtain ⟨commands, outcome, s', htalk, hx⟩ := exchangeWith_of_ok hc x w
  obtain ⟨rfl, hgood⟩ := h _ _ _ htalk
  exact ⟨_, hold_of_value hx, hgood⟩

/-! ## One command for each key -/

/-- The values of keys in turn. -/
def valuesFrom (value : S → Bytes → α) (after : S → Bytes → S) : S → List Bytes → List α
  | _, [] => []
  | s, key :: rest => value s key :: valuesFrom value after (after s key) rest

theorem valuesFrom_const (value : S → Bytes → α) (s : S) (keys : List Bytes) :
    valuesFrom value (fun s _ => s) s keys = keys.map (value s) := by
  induction keys with
  | nil => rfl
  | cons key rest ih => rw [valuesFrom, List.map_cons, ih]

/-- Whatever is seen of the nodes, the exchange for a key ends with its value after one command. -/
def ServesKeys (r : Router σ) (view : σ → S) (node : Bytes → Node) (x : Bytes → Exchange α)
    (command : Bytes → Command) (value : S → Bytes → α) (after : S → Bytes → S)
    (keys : List Bytes) : Prop :=
  ∀ key ∈ keys, ∀ w : World σ, ∃ s,
    r.hold (x key) (node key) w =
      (.ok (value (view w.nodes) key), w.lease (node key) [command key] s) ∧
    view s = after (view w.nodes) key

/-- The results of tasks for keys at their positions, with these values. -/
structure Keyed (results : List (NodeResult α)) (entries : List (Bytes × Nat)) (values : List α) :
    Prop where
  values : results.map (·.value) = values.map .ok
  keys : results.map (·.key) = entries.map fun entry => some ⟨entry.2, entry.1⟩

theorem runTasks_served {view : σ → S} {node : Bytes → Node} {x : Bytes → Exchange α}
    {command : Bytes → Command} {value : S → Bytes → α} {after : S → Bytes → S} {keys : List Bytes}
    (h : ServesKeys r view node x command value after keys) (entries : List (Bytes × Nat))
    (hentries : ∀ entry ∈ entries, entry.1 ∈ keys) (w : World σ) :
    ∃ results w' log,
      r.runTasks (entries.map fun entry => ⟨node entry.1, some ⟨entry.2, entry.1⟩, x entry.1⟩) w =
        (.ok results, w') ∧
      Keyed results entries (valuesFrom value after (view w.nodes) (entries.map (·.1))) ∧
      view w'.nodes = (entries.map (·.1)).foldl after (view w.nodes) ∧
      w'.events = w.events ++ log ∧
      receipts log = entries.map fun entry => (node entry.1, command entry.1) := by
  induction entries generalizing w with
  | nil => exact ⟨[], w, [], rfl, ⟨rfl, rfl⟩, rfl, (List.append_nil _).symm, rfl⟩
  | cons entry rest ih =>
    obtain ⟨hentry, hrest⟩ := List.forall_mem_cons.1 hentries
    obtain ⟨s, hhold, hview⟩ := h entry.1 hentry w
    -- the others run against what this key left
    obtain ⟨results, w', log, hrun, hkeyed, hafter, hlog, hreceipts⟩ :=
      ih hrest (w.lease (node entry.1) [command entry.1] s)
    have hnodes : (w.lease (node entry.1) [command entry.1] s).nodes = s := rfl
    rw [hnodes, hview] at hkeyed hafter
    rw [World.events_lease, List.append_assoc] at hlog
    refine ⟨⟨node entry.1, some ⟨entry.2, entry.1⟩, .ok (value (view w.nodes) entry.1)⟩ :: results,
      w', _, ?_, ⟨?_, ?_⟩, hafter, hlog, ?_⟩
    · rw [List.map_cons, Router.runTasks, Run.bind_of_ok (runTask_of_settles hhold (.value _)),
        Run.bind_of_ok hrun]
      rfl
    · rw [List.map_cons, hkeyed.values]
      rfl
    · rw [List.map_cons, hkeyed.keys]
      rfl
    · rw [receipts_append, receipts_bracket, hreceipts]
      rfl

/-- A call on each of several keys looks at the topology and then asks the master of each key. -/
theorem onEachKey_served {view : σ → S} {node : Bytes → Node} {x : Bytes → Exchange α}
    {command : Bytes → Command} {value : S → Bytes → α} {after : S → Bytes → S} {keys : List Bytes}
    (hw : r.topology w = (.ok t, w')) (hruntime : r.insideRuntime = false)
    (hnode : ∀ key ∈ keys, t.masterForSlot (keySlot key) = some (node key))
    (h : ServesKeys r view node x command value after keys) :
    ∃ m v log, r.onEachKey x keys w = (.ok m, v) ∧
      Keyed m.results keys.zipIdx (valuesFrom value after (view w'.nodes) keys) ∧
      view v.nodes = keys.foldl after (view w'.nodes) ∧
      v.events = w'.events ++ log ∧
      receipts log = keys.map fun key => (node key, command key) := by
  obtain ⟨results, v, log, hrun, hkeyed, hview, hlog, hreceipts⟩ :=
    runTasks_served h keys.zipIdx (fun _ => List.fst_mem_of_mem_zipIdx) w'
  rw [List.zipIdx_map_fst] at hkeyed hview
  have hsent : keys.zipIdx.map (fun entry => (node entry.1, command entry.1)) =
      keys.map fun key => (node key, command key) := by
    rw [← List.zipIdx_map_fst 0 keys, List.map_map, List.zipIdx_map_fst]
    rfl
  have hfan : r.fanOut (tasksForKeys x node keys) w' = (.ok ⟨results⟩, v) :=
    fanOut_of_ok hruntime hrun
  exact ⟨⟨results⟩, v, log, by rw [onEachKey_apply hw hnode, hfan], hkeyed, hview, hlog,
    hreceipts.trans hsent⟩

/-! ## Reading the results -/

theorem allValues_of_values {results : List (NodeResult α)} {values : List α}
    (h : results.map (·.value) = values.map .ok) : MultiResult.allValues results = .ok values := by
  rw [allValues_eq]
  exact mapUntilError_of_map h

theorem successes_of_values {results : List (NodeResult α)} {values : List α}
    (h : results.map (·.value) = values.map .ok) :
    (MultiResult.mk results).successes = values := by
  have hsome : results.map NodeResult.value? = values.map some := by
    have htoOption : results.map NodeResult.value? =
        (results.map (·.value)).map Except.toOption := by
      rw [List.map_map]
      rfl
    rw [htoOption, h, List.map_map]
    rfl
  show results.filterMap NodeResult.value? = values
  have hid : results.filterMap NodeResult.value? =
      (results.map NodeResult.value?).filterMap id := by
    rw [List.filterMap_map]
    rfl
  rw [hid, hsome, List.filterMap_map]
  exact List.filterMap_some

namespace Keyed

variable {m : MultiResult α} {entries : List (Bytes × Nat)} {values : List α} {keys : List Bytes}

theorem read_values (h : Keyed m.results entries values) : m.values = .ok values :=
  allValues_of_values h.values

/-- No result is a failure. -/
theorem read_tolerant (h : Keyed m.results entries values) (description : String) :
    m.tolerant description = .ok values := by
  have hsome : (!m.isEmpty && m.results.all (!·.isOk)) = false := by
    obtain ⟨results⟩ := m
    cases results with
    | nil => rfl
    | cons result rest =>
      have hvalues := h.values
      cases values with
      | nil => cases hvalues
      | cons a values =>
        obtain ⟨hvalue, -⟩ := List.cons.inj hvalues
        have hok : result.isOk = true := by
          unfold NodeResult.isOk
          dsimp only at hvalue
          rw [hvalue]
          rfl
        simp [MultiResult.isEmpty, hok]
  unfold MultiResult.tolerant
  rw [hsome, if_neg Bool.false_ne_true]
  exact congrArg Except.ok (successes_of_values h.values)

/-- The results stand in the order of the keys already. -/
theorem read_inKeyOrder (h : Keyed m.results keys.zipIdx values) :
    m.inKeyOrder = .ok values := by
  rw [inKeyOrder_eq_values h.keys]
  exact h.read_values

end Keyed

end SlotRouter
