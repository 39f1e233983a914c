import SlotRouter.Proofs.Router.Step
import SlotRouter.Proofs.Router.TaskResults
import SlotRouter.Proofs.Topology.Lookup
import SlotRouter.Router.Execute

/-!
# Failing before anything is sent

* `Run.FailsEarly R p` : a run that fails took steps of `R` only, or fails with an error that
  satisfies `p`; `Run.Gives P` : the values of a run. Both with the ways to put runs together;
* `Router.LateUsage` : the usage errors that may come after commands, by where they come from;
* `hold_late` : a command fails with no other usage error;
* `askNode_early`, `onKey_early`, ... : neither does a call on one node, once the checks are passed;
* `Scatters` : nor does a call on several nodes or one of its tasks; `values_late`,
  `inKeyOrder_late`, `tolerant_late`, `mapUntilError_late` : nor does reading its results.
-/

namespace SlotRouter
open Relation (ReflTransGen)

variable {σ α β γ ε ε' : Type}

/-! ## Runs that fail early -/

/-- Wherever the run fails, it took steps of `R` only, or the error satisfies the predicate. -/
def Run.FailsEarly (R : World σ → World σ → Prop) (p : ε → Prop) (m : Run σ ε α) : Prop :=
  ∀ w e w', m w = (.error (.failed e), w') → ReflTransGen R w w' ∨ p e

/-- Every value that the run ends with satisfies the predicate. -/
def Run.Gives (P : α → Prop) (m : Run σ ε α) : Prop := ∀ w a w', m w = (.ok a, w') → P a

namespace Run

variable {R : World σ → World σ → Prop} {p : ε → Prop} {P : α → Prop} {m : Run σ ε α}

theorem Gives.value {a : α} (h : P a) : Run.Gives P (pure a : Run σ ε α) := by
  intro w b w' hb
  cases hb
  exact h

theorem Gives.stop (s : Stop ε) : Run.Gives P (.stop s : Run σ ε α) := by
  intro w a w' h
  cases h

theorem Gives.of_gives {Q : β → Prop} {m : Run σ ε β} {f : β → Run σ ε α} (hm : m.Gives Q)
    (hf : ∀ b, Q b → (f b).Gives P) : Run.Gives P (m >>= f) := by
  intro w a w' h
  rcases hw : m w with ⟨s | b, v⟩
  · rw [Run.bind_of_error hw] at h
    cases h
  · rw [Run.bind_of_ok hw] at h
    exact hf b (hm w b v hw) v a w' h

theorem Gives.bind {m : Run σ ε β} {f : β → Run σ ε α} (hf : ∀ b, (f b).Gives P) :
    Run.Gives P (m >>= f) :=
  Gives.of_gives (Q := fun _ => True) (fun _ _ _ _ => trivial) fun b _ => hf b

theorem Gives.rescue {f : Stop ε → Run σ ε' α} (hm : m.Gives P) (hp : m.FailsWith p)
    (hf : ∀ s, (∀ e, s = .failed e → p e) → (f s).Gives P) : (m.rescue f).Gives P := by
  intro w a w' h
  unfold Run.rescue at h
  rcases hw : m w with ⟨s | b, v⟩ <;> rw [hw] at h
  · refine hf s ?_ v a w' h
    rintro e rfl
    exact hp w e v hw
  · cases h
    exact hm w a _ hw

theorem FailsWith.fail {e : ε} (h : p e) : Run.FailsWith p (.fail e : Run σ ε α) := by
  intro w e' w' he
  cases he
  exact h

theorem FailsWith.ofExcept {x : Except ε α} (h : ∀ e, x = .error e → p e) :
    Run.FailsWith p (.ofExcept x : Run σ ε α) := by
  cases x with
  | ok a => exact .value a
  | error e => exact .fail (h e rfl)

/-- What follows fails with errors of values that come before it. -/
theorem FailsWith.bind_of_gives {f : α → Run σ ε β} (hm : m.FailsWith p) (hP : m.Gives P)
    (hf : ∀ a, P a → (f a).FailsWith p) : Run.FailsWith p (m >>= f) := by
  intro w e w' h
  rcases hw : m w with ⟨s | a, v⟩
  · rw [Run.bind_of_error hw] at h
    cases h
    exact hm w e w' hw
  · rw [Run.bind_of_ok hw] at h
    exact hf a (hP w a v hw) v e w' h

theorem gives_attempt (hm : m.FailsWith p) :
    (m.attempt : Run σ ε' (Except ε α)).Gives fun result => ∀ e, result = .error e → p e := by
  intro w result w' h e he
  rw [Run.attempt_apply] at h
  rcases hw : m w with ⟨(e' | text | _) | a, v⟩ <;> rw [hw] at h <;> cases h <;> cases he
  exact hm w e v hw

theorem failsWith_attempt {p : ε' → Prop} (m : Run σ ε α) :
    (m.attempt : Run σ ε' (Except ε α)).FailsWith p := by
  intro w e w' h
  rw [Run.attempt_apply] at h
  rcases hw : m w with ⟨(e' | text | _) | a, v⟩ <;> rw [hw] at h <;> cases h

theorem FailsEarly.of_takes (h : m.Takes R) : m.FailsEarly R p := by
  intro w e w' he
  have hw := h w
  rw [he] at hw
  exact .inl hw

theorem FailsEarly.of_fails (h : m.FailsWith p) : m.FailsEarly R p :=
  fun w e w' he => .inr (h w e w' he)

/-- Steps of `R` may come first. -/
theorem FailsEarly.after {f : α → Run σ ε β} (hm : m.Takes R) (hf : ∀ a, (f a).FailsEarly R p) :
    Run.FailsEarly R p (m >>= f) := by
  intro w e w' h
  have hw := hm w
  rcases hmw : m w with ⟨s | a, v⟩ <;> rw [hmw] at hw
  · rw [Run.bind_of_error hmw] at h
    cases h
    exact .inl hw
  · rw [Run.bind_of_ok hmw] at h
    exact (hf a v e w' h).imp_left hw.trans

/-- What comes last fails with errors of values that come before it. -/
theorem FailsEarly.bind_of_gives {f : α → Run σ ε β} (hm : m.FailsEarly R p) (hP : m.Gives P)
    (hf : ∀ a, P a → (f a).FailsWith p) : Run.FailsEarly R p (m >>= f) := by
  intro w e w' h
  rcases hw : m w with ⟨s | a, v⟩
  · rw [Run.bind_of_error hw] at h
    cases h
    exact hm w e w' hw
  · rw [Run.bind_of_ok hw] at h
    exact .inr (hf a (hP w a v hw) v e w' h)

theorem FailsEarly.bind {f : α → Run σ ε β} (hm : m.FailsEarly R p)
    (hf : ∀ a, (f a).FailsWith p) : Run.FailsEarly R p (m >>= f) :=
  hm.bind_of_gives (P := fun _ => True) (fun _ _ _ _ => trivial) fun a _ => hf a

end Run

/-! ## Usage errors after commands -/

/-- The usage errors that may come after commands: where the call `lists` the replicas that nodes
report, and where it `ends` the masters, it has one more each. -/
inductive Router.LateUsage (r : Router σ) (lists ends : Prop) : ClusterError → Prop
  /-- A node, or the connection to it, answered a command with an error that is reported so. -/
  | answered (e : ClientError) : r.LateUsage lists ends (.client e.reportedKind e)
  /-- There was no connection or no topology to be had, for a reason of that kind. -/
  | brought {e} : r.Brings e → r.LateUsage lists ends e
  /-- A reported replica lists slots that do not exist. -/
  | listed (rejection : SlotRange.Rejection) : lists →
      r.LateUsage lists ends (.cause (.slotBounds rejection))
  /-- The reason why a master was not shut down is passed on under its kind. -/
  | unshut (kind : ErrorKind) (address message : String) : ends →
      r.LateUsage lists ends (.cause (.shutdownFailed kind address message))

/-- The error is no usage error, or one that may come after commands. -/
def Router.Late (r : Router σ) (lists ends : Prop) (e : ClusterError) : Prop :=
  e.IsUsage → r.LateUsage lists ends e

section Late

variable {r : Router σ} {lists ends : Prop} {e : ClusterError}

theorem Router.Late.of_kind (h : ¬ e.kind.IsUsage) : r.Late lists ends e := fun hu => absurd hu h

theorem Router.Late.of_state (h : e.kind = .clusterStateFailure) : r.Late lists ends e :=
  .of_kind (by rw [h]; decide)

/-! ## One command -/

variable (r lists ends)

theorem topology_late : r.topology.FailsWith (r.Late lists ends) := by
  refine (topology_fails r).mono ?_
  rintro e (h | h)
  · exact .of_state h
  · exact fun _ => .brought h

theorem nodeAt_late (redirect : Redirect) : (r.nodeAt redirect).FailsWith (r.Late lists ends) := by
  have hlookup : ∀ t : Topology, ∀ e, t.lookupAddress redirect.host redirect.port = .error e →
      r.Late lists ends e := fun t e h => .of_state (lookupAddress_error h)
  refine (topology_late r lists ends).bind fun t => ?_
  cases t.lookupAddress redirect.host redirect.port with
  | ok n => exact .value n
  | error e =>
    have hinvalidate : r.invalidate.FailsWith (r.Late lists ends) := by
      intro w e w' h
      rw [invalidate_ok] at h
      cases h
    exact hinvalidate.bind fun _ => (topology_late r lists ends).bind fun t =>
      .ofExcept (hlookup t)

theorem tryOn_late (x : Exchange α) (asking : Bool) (node : Node) :
    (r.tryOn x asking node).FailsWith (r.Late lists ends) := by
  have hexchange : ∀ x : Exchange α,
      (exchangeWith r.network node x).FailsWith (r.Late lists ends) := by
    intro x w e w' h
    cases hc : r.network.connect node with
    | error e' =>
      rw [exchangeWith_of_error hc] at h
      cases h
      exact fun _ => .brought (.inl ⟨node, hc⟩)
    | ok u =>
      obtain ⟨commands, outcome, s, -, he⟩ := exchangeWith_of_ok hc x w
      rw [he] at h
      rcases outcome with (e' | text | _) | a <;> cases h
  refine (hexchange _).bind fun result => ?_
  rcases result with e | a
  · dsimp only
    cases hr : e.redirect? with
    | some redirect => exact .value _
    | none =>
      refine .fail fun _ => ?_
      rw [ClientError.toClusterError, hr]
      exact .answered e
  · exact .value _

theorem follow_late (x : Exchange α) (left : Nat) (asking : Bool) (node : Node) :
    (r.follow x left asking node).FailsWith (r.Late lists ends) := by
  induction left generalizing asking node with
  | zero =>
    rw [Router.follow]
    refine (tryOn_late r lists ends x asking node).bind fun attempt => ?_
    cases attempt with
    | done a => exact .value a
    | redirected redirect =>
      have hspent : ¬ ErrorKind.tooManyRedirects.IsUsage := by decide
      exact (Run.FailsWith.modify _).bind fun _ => .fail (.of_kind hspent)
  | succ left ih =>
    rw [Router.follow]
    refine (tryOn_late r lists ends x asking node).bind fun attempt => ?_
    cases attempt with
    | done a => exact .value a
    | redirected redirect =>
      have hheed : (r.heed node redirect).FailsWith (r.Late lists ends) := by
        intro w e w' h
        rw [heed_ok] at h
        cases h
      exact hheed.bind fun _ => (nodeAt_late r lists ends redirect).bind fun target =>
        ih redirect.ask target

theorem hold_late (x : Exchange α) (node : Node) :
    (r.hold x node).FailsWith (r.Late lists ends) :=
  follow_late r lists ends x r.maxRedirects false node

/-! ## One node -/

/-- If the command failed on the node, the error satisfies the predicate. -/
def NodeResult.FailsWith (p : ClusterError → Prop) (result : NodeResult α) : Prop :=
  ∀ e, result.value = .error e → p e

theorem NodeResult.failsWith_of_ok {p : ClusterError → Prop} (node : Node)
    (key : Option KeyPosition) (a : α) : (⟨node, key, .ok a⟩ : NodeResult α).FailsWith p := by
  intro e h
  cases h

theorem onNode_early (x : Exchange α) (node : Node) :
    (r.onNode x node).FailsEarly r.Lookup (r.Late lists ends) :=
  .after (topology_takes r) fun _ => .after (.ofExcept _) fun _ =>
    (Run.FailsEarly.of_fails (hold_late r lists ends x _)).bind fun _ => .value _

/-- The result of a command on one node holds a value, since its error ended the run. -/
theorem onNode_gives {p : ClusterError → Prop} (x : Exchange α) (node : Node) :
    (r.onNode x node).Gives (NodeResult.FailsWith p) :=
  .bind fun _ => .bind fun _ => .bind fun _ => .value (NodeResult.failsWith_of_ok _ _ _)

theorem askNode_early (x : Exchange α) (node : Node) :
    (r.askNode x node).FailsEarly r.Lookup (r.Late lists ends) :=
  (onNode_early r lists ends x node).bind_of_gives (onNode_gives r x node) fun _ h => .ofExcept h

theorem onKey_early (x : Exchange α) (key : Bytes) :
    (r.onKey x key).FailsEarly r.Lookup (r.Late lists ends) :=
  .after (topology_takes r) fun _ => .after (.ofExcept _) fun _ =>
    .of_fails (hold_late r lists ends x _)

theorem onSlotOf_early (x : Exchange α) (keys : List Bytes) :
    (r.onSlotOf x keys).FailsEarly r.Lookup (r.Late lists ends) := by
  refine .after (.ofExcept _) fun slot => .after (topology_takes r) fun t => ?_
  cases t.masterForSlot slot with
  | some master => exact .of_fails (hold_late r lists ends x master)
  | none => exact .of_takes (.fail _)

theorem firstReachable_late (x : Exchange α) {last : ClusterError} (nodes : List Node)
    (h : r.Late lists ends last) :
    (r.firstReachable x last nodes).FailsWith (r.Late lists ends) := by
  induction nodes generalizing last with
  | nil => exact .fail h
  | cons n rest ih =>
    refine (Run.failsWith_attempt _).bind_of_gives
      (Run.gives_attempt (hold_late r lists ends x n)) fun result hresult => ?_
    cases result with
    | ok a => exact .value _
    | error e =>
      dsimp only
      split
      · exact ih (hresult e rfl)
      · exact .fail (hresult e rfl)

theorem firstReachable_gives {p : ClusterError → Prop} (x : Exchange α) (last : ClusterError)
    (nodes : List Node) :
    (r.firstReachable x last nodes).Gives (NodeResult.FailsWith p) := by
  induction nodes generalizing last with
  | nil => exact .stop _
  | cons n rest ih =>
    refine .bind fun result => ?_
    cases result with
    | ok a => exact .value (NodeResult.failsWith_of_ok _ _ _)
    | error e =>
      dsimp only
      split
      · exact ih e
      · exact .stop _

theorem onArbitrary_early (x : Exchange α) :
    (r.onArbitrary x).FailsEarly r.Lookup (r.Late lists ends) :=
  .after (topology_takes r) fun _ =>
    .of_fails (firstReachable_late r lists ends x _ (.of_kind (by decide)))

theorem askArbitrary_early (x : Exchange α) :
    (r.askArbitrary x).FailsEarly r.Lookup (r.Late lists ends) :=
  (onArbitrary_early r lists ends x).bind_of_gives
    (Run.Gives.bind fun _ => firstReachable_gives r x _ _) fun _ h => .ofExcept h

/-! ## Several nodes -/

/-- Every failure among the results is one that may come after commands. -/
def AllLate (m : MultiResult α) : Prop :=
  ∀ result ∈ m.results, result.FailsWith (r.Late lists ends)

theorem settle_gives {m : Run σ ClusterError α} (hm : m.FailsWith (r.Late lists ends)) :
    (settle m).Gives fun value => ∀ e, value = .error e → r.Late lists ends e := by
  have hok : (Except.ok <$> m : Run σ ClusterError (Except ClusterError α)).Gives
      fun value => ∀ e, value = .error e → r.Late lists ends e :=
    .bind fun a => .value fun e h => by cases h
  have hmap : (Except.ok <$> m : Run σ ClusterError (Except ClusterError α)).FailsWith
      (r.Late lists ends) := hm.bind fun a => .value _
  refine hok.rescue hmap fun s hs => ?_
  rcases s with e | text | _
  · refine .value fun e' h => ?_
    cases h
    exact hs e rfl
  · refine .value fun e' h => ?_
    cases h
    have hpanic : ¬ ErrorKind.executionFailure.IsUsage := by decide
    exact .of_kind hpanic
  · exact .stop _

theorem runTask_gives (t : Task α) :
    (r.runTask t).Gives (NodeResult.FailsWith (r.Late lists ends)) :=
  .of_gives (settle_gives r lists ends (hold_late r lists ends t.exchange t.node))
    fun _ h => .value h

theorem runTasks_gives (tasks : List (Task α)) :
    (r.runTasks tasks).Gives fun results => AllLate r lists ends ⟨results⟩ := by
  induction tasks with
  | nil => exact .value fun _ h => by cases h
  | cons t rest ih =>
    exact .of_gives (runTask_gives r lists ends t) fun _ hresult => .of_gives ih fun _ hresults =>
      .value (List.forall_mem_cons.2 ⟨hresult, hresults⟩)

theorem runTasks_fails {p : ClusterError → Prop} (tasks : List (Task α)) :
    (r.runTasks tasks).FailsWith p := by
  have hsettle : ∀ t : Task α, (settle (r.hold t.exchange t.node)).FailsWith p := by
    intro t w e w' h
    unfold settle Run.rescue at h
    split at h
    · cases h
    · next s _ _ =>
      rcases s with e' | text | _ <;> cases h
  induction tasks with
  | nil => exact .value []
  | cons t rest ih =>
    exact ((hsettle t).bind fun _ => .value _).bind fun _ => ih.bind fun _ => .value _

theorem fanOut_early (tasks : List (Task α)) :
    (r.fanOut tasks).FailsEarly r.Lookup (r.Late lists ends) := by
  rw [Router.fanOut, Router.fanOutWith]
  split
  · exact .of_takes (.fail _)
  · refine .of_fails ?_
    have htasks : (MultiResult.mk <$> r.runTasks tasks).FailsWith (r.Late lists ends) :=
      (runTasks_fails r tasks).bind fun _ => .value _
    intro w e w' h
    unfold within Run.rescue at h
    rcases hw : (MultiResult.mk <$> r.runTasks tasks) w with ⟨(e' | text | _) | m, v⟩ <;>
      rw [hw] at h
    · cases h
      exact htasks w e _ hw
    · cases h
    · have htimeout : ¬ ErrorKind.commandTimeout.IsUsage := by decide
      cases hl : r.commandTimeout with
      | none =>
        rw [hl] at h
        cases h
      | some ms =>
        rw [hl] at h
        cases h
        exact .of_kind htimeout
    · cases h

theorem fanOut_gives (tasks : List (Task α)) : (r.fanOut tasks).Gives (AllLate r lists ends) := by
  rw [Router.fanOut, Router.fanOutWith]
  split
  · exact .stop _
  · have htasks : (MultiResult.mk <$> r.runTasks tasks).Gives (AllLate r lists ends) :=
      .of_gives (runTasks_gives r lists ends tasks) fun _ h => .value h
    refine htasks.rescue (p := fun _ => True) (fun _ _ _ _ => trivial) fun s _ => ?_
    rcases s with e | text | _
    · exact .stop _
    · exact .stop _
    · cases r.commandTimeout with
      | none => exact .stop _
      | some ms => exact .stop _

/-- A call on several nodes: it fails early or late, and so does each of its tasks. -/
structure Scatters (m : Run σ ClusterError (MultiResult α)) : Prop where
  early : m.FailsEarly r.Lookup (r.Late lists ends)
  gives : m.Gives (AllLate r lists ends)

variable {r lists ends}

theorem Scatters.fanOut (tasks : List (Task α)) : Scatters r lists ends (r.fanOut tasks) :=
  ⟨fanOut_early r lists ends tasks, fanOut_gives r lists ends tasks⟩

theorem Scatters.after {m : Run σ ClusterError β} {f : β → Run σ ClusterError (MultiResult α)}
    (hm : m.Takes r.Lookup) (hf : ∀ b, Scatters r lists ends (f b)) :
    Scatters r lists ends (m >>= f) :=
  ⟨.after hm fun b => (hf b).early, .bind fun b => (hf b).gives⟩

/-- The results are read at the end. -/
theorem Scatters.read {m : Run σ ClusterError (MultiResult α)} (hm : Scatters r lists ends m)
    {read : MultiResult α → Except ClusterError β}
    (hread : ∀ m, AllLate r lists ends m → ∀ e, read m = .error e → r.Late lists ends e) :
    (m >>= fun m => .ofExcept (read m)).FailsEarly r.Lookup (r.Late lists ends) :=
  hm.early.bind_of_gives hm.gives fun m h => .ofExcept (hread m h)

/-- What is read is worked on. -/
theorem Scatters.read_bind {m : Run σ ClusterError (MultiResult α)} (hm : Scatters r lists ends m)
    {read : MultiResult α → Except ClusterError β} {f : β → Run σ ClusterError ε}
    (hread : ∀ m, AllLate r lists ends m → ∀ e, read m = .error e → r.Late lists ends e)
    (hf : ∀ b, (f b).FailsWith (r.Late lists ends)) :
    (m >>= fun m => .ofExcept (read m) >>= f).FailsEarly r.Lookup (r.Late lists ends) :=
  hm.early.bind_of_gives hm.gives fun m h =>
    (Run.FailsWith.ofExcept (hread m h)).bind hf

variable (r lists ends)

theorem onMasters_scatters (x : Exchange α) : Scatters r lists ends (r.onMasters x) :=
  .after (topology_takes r) fun _ => .fanOut _

theorem onActive_scatters (x : Exchange α) : Scatters r lists ends (r.onActive x) :=
  .after (topology_takes r) fun _ => .fanOut _

theorem onNodes_scatters (x : Exchange α) (nodes : List Node) :
    Scatters r lists ends (r.onNodes x nodes) :=
  .after (topology_takes r) fun _ => .after (.ofExcept _) fun _ => .fanOut _

theorem onEachKey_scatters (x : Bytes → Exchange α) (keys : List Bytes) :
    Scatters r lists ends (r.onEachKey x keys) :=
  .after (topology_takes r) fun _ => .after (.ofExcept _) fun _ => .fanOut _

/-! ## Reading several results -/

variable {r lists ends}

/-- A function of the results fails with an error that it fails with at one of them. -/
theorem mapUntilError_late {f : NodeResult α → Except ClusterError β} {m : MultiResult α}
    (hf : ∀ result, result.FailsWith (r.Late lists ends) →
      ∀ e, f result = .error e → r.Late lists ends e)
    (h : AllLate r lists ends m) {e : ClusterError} (he : mapUntilError f m.results = .error e) :
    r.Late lists ends e := by
  obtain ⟨result, hmem, hresult⟩ := exists_of_mapUntilError he
  exact hf result (h result hmem) e hresult

theorem allValues_late {results : List (NodeResult α)} {e : ClusterError}
    (h : AllLate r lists ends ⟨results⟩) (he : MultiResult.allValues results = .error e) :
    r.Late lists ends e := by
  rw [allValues_eq] at he
  exact mapUntilError_late (m := ⟨results⟩) (fun _ h => h) h he

theorem values_late (m : MultiResult α) (h : AllLate r lists ends m) (e : ClusterError)
    (he : m.values = .error e) : r.Late lists ends e := allValues_late h he

theorem inKeyOrder_late (m : MultiResult α) (h : AllLate r lists ends m) (e : ClusterError)
    (he : m.inKeyOrder = .error e) : r.Late lists ends e := by
  refine allValues_late ?_ he
  intro result hresult
  exact h result ((List.mergeSort_perm _ _).mem_iff.1 hresult)

theorem tolerant_late (description : String) (m : MultiResult α) (_ : AllLate r lists ends m)
    (e : ClusterError) (he : m.tolerant description = .error e) : r.Late lists ends e := by
  unfold MultiResult.tolerant at he
  split at he <;> cases he
  exact .of_state rfl

end Late

end SlotRouter
