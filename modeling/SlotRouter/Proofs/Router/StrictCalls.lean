import SlotRouter.Proofs.Router.Gathering

/-!
# Calls that no master may fail

* `Strict` : what results amount to if none may be a failure: the answers of all nodes, or the first
  failure (`strict_reading`);
* `FirstAnswer`, `Latest`, `Merged`, `Silent` : what the answers of all masters amount to;
* `askMasters_collected`, `qualified_collected` : the two ways in which calls on all masters read;
* `StrictCall`, `strict_call` : the calls that read their results so.
-/

namespace SlotRouter

variable {σ α β γ : Type} {r : Router σ} {t : Topology} {w w' : World σ}

/-! ## Reading results -/

/-- The value of a result with its node, or the failure. -/
def NodeResult.answer (result : NodeResult α) : Except ClusterError (Node × α) :=
  result.value.map (result.node, ·)

/-- What results amount to if none may be a failure, where `Gives` says it of answers. -/
inductive Strict (Gives : List (Node × α) → Except ClusterError β → Prop) (m : MultiResult α) :
    Except (Stop ClusterError) β → Prop
  /-- There are answers only, and they decide. -/
  | all {answers outcome} : m.results.map NodeResult.answer = answers.map .ok →
      Gives answers outcome → Strict Gives m (outcome.mapError .failed)
  /-- The first failure decides. -/
  | failed {before result after e} : m.results = before ++ result :: after →
      (∀ earlier ∈ before, earlier.isOk = true) → result.value = .error e →
      Strict Gives m (.error (.failed e))

/-- The first answer, which there has to be. -/
inductive FirstAnswer : List (Node × α) → Except ClusterError α → Prop
  | answer (node a rest) : FirstAnswer ((node, a) :: rest) (.ok a)
  | none {e : ClusterError} : e.kind = .clusterStateFailure → FirstAnswer [] (.error e)

/-- The largest answer, or zero if there is none. -/
inductive Latest : List (Node × Nat) → Except ClusterError Nat → Prop
  | none : Latest [] (.ok 0)
  | attained {answers latest} : latest ∈ answers.map (·.2) →
      (∀ answer ∈ answers, answer.2 ≤ latest) → Latest answers (.ok latest)

/-- The entries of a node, under its address. -/
def Properties.under (node : Node) (p : Properties) : List (String × String) :=
  p.entries.map fun (name, value) => (node.address ++ "." ++ name, value)

/-- The entries of all nodes in one map. -/
inductive Merged (answers : List (Node × Properties)) : Except ClusterError Properties → Prop
  | all : Merged answers (.ok (.ofList (answers.flatMap fun answer => answer.2.under answer.1)))

/-- That there are answers is all that is known of them. -/
inductive Silent (answers : List (Node × Unit)) : Except ClusterError Unit → Prop
  | all : Silent answers (.ok ())

theorem values_eq_answers (m : MultiResult α) :
    m.values = (mapUntilError NodeResult.answer m.results).map (List.map (·.2)) := by
  have hanswer : (fun result : NodeResult α => result.answer.map (·.2)) = (·.value) := by
    funext result
    unfold NodeResult.answer
    cases result.value <;> rfl
  rw [mapUntilError_map, hanswer, MultiResult.values, allValues_eq]

theorem qualifiedAll_eq_answers (m : MultiResult Properties) :
    qualifiedAll m = (mapUntilError NodeResult.answer m.results).map fun answers =>
      .ofList (answers.flatMap fun answer => answer.2.under answer.1) := by
  have hqualified : qualified = fun result =>
      result.answer.map fun answer => answer.2.under answer.1 := by
    funext result
    unfold qualified NodeResult.answer
    cases result.value <;> rfl
  rw [qualifiedAll, hqualified, ← mapUntilError_map]
  cases mapUntilError NodeResult.answer m.results with
  | error e => rfl
  | ok answers => rw [Except.map, Except.map, Except.map, List.flatMap_def]

theorem NodeResult.isOk_of_answer {result : NodeResult α} {answer : Node × α}
    (h : result.answer = .ok answer) : result.isOk = true := by
  unfold NodeResult.answer at h
  unfold NodeResult.isOk
  cases hvalue : result.value with
  | error e =>
    rw [hvalue] at h
    cases h
  | ok a => rfl

theorem NodeResult.value_of_answer {result : NodeResult α} {e : ClusterError}
    (h : result.answer = .error e) : result.value = .error e := by
  unfold NodeResult.answer at h
  cases hvalue : result.value with
  | error e' =>
    rw [hvalue] at h
    cases h
    rfl
  | ok a =>
    rw [hvalue] at h
    cases h

/-- Reading all answers, where the first failure ends it. -/
theorem strict_reading {Gives : List (Node × α) → Except ClusterError β → Prop}
    {read : MultiResult α → Except ClusterError γ} {of : List (Node × α) → γ}
    {finish : γ → Run σ ClusterError β}
    (hread : ∀ m, read m = (mapUntilError NodeResult.answer m.results).map of)
    (hfinish : ∀ answers v, ∃ outcome,
      finish (of answers) v = (outcome.mapError .failed, v) ∧ Gives answers outcome) :
    Reading (fun m => .ofExcept (read m) >>= finish) (Strict Gives) := by
  intro m v
  have hmap := hread m
  rcases mapUntilError_cases NodeResult.answer m.results with
    ⟨answers, hall, hanswers⟩ | ⟨before, result, after, e, hfirst, hsplit, hbefore, hresult⟩
  · rw [hall] at hmap
    obtain ⟨outcome, hrun, hgives⟩ := hfinish answers v
    have hends : outcome.mapError Stop.failed ≠ .error .hung := by
      cases outcome <;> rintro ⟨⟩
    exact ⟨_, (Run.bind_ofExcept_ok hmap finish v).trans hrun, hends, .all hanswers hgives⟩
  · rw [hfirst] at hmap
    have hstop := Run.bind_of_error (congrFun (congrArg Run.ofExcept hmap) v) finish
    refine ⟨_, hstop, by rintro ⟨⟩, .failed hsplit ?_ (NodeResult.value_of_answer hresult)⟩
    intro earlier hearlier
    obtain ⟨answer, hanswer⟩ := hbefore earlier hearlier
    exact NodeResult.isOk_of_answer hanswer

theorem qualified_reading : Reading
    (fun m => (.ofExcept (qualifiedAll m) : Run σ ClusterError Properties)) (Strict Merged) := by
  have hpure : Reading
      (fun m => (.ofExcept (qualifiedAll m) >>= pure : Run σ ClusterError Properties))
      (Strict Merged) :=
    strict_reading qualifiedAll_eq_answers fun answers v => ⟨.ok _, rfl, .all⟩
  simpa only [Run.bind_pure] using hpure

theorem latest_max (answers : List (Node × Nat)) :
    Latest answers (.ok (((answers.map (·.2)).max?).getD 0)) := by
  cases hmax : (answers.map (·.2)).max? with
  | none =>
    obtain rfl := List.map_eq_nil_iff.1 (List.max?_eq_none_iff.1 hmax)
    exact .none
  | some latest =>
    obtain ⟨hmem, hle⟩ := List.max?_eq_some_iff.1 hmax
    exact .attained hmem fun answer hanswer => hle _ (List.mem_map_of_mem hanswer)

/-! ## Calls -/

/-- The calls that no active master may fail: the command, how its reply is read, and what the
answers amount to. -/
inductive StrictCall : {α β : Type} → Operation β → Command → Decoder α →
    (List (Node × α) → Except ClusterError β → Prop) → Prop
  | ping : StrictCall .ping (.ofWords ["PING"]) Decode.string FirstAnswer
  | lastSave : StrictCall .lastSave (.ofWords ["LASTSAVE"]) Decode.count Latest
  | info (extra) : StrictCall (.info extra) (.ofWords ("INFO" :: extra.toList))
      (fun reply => (Decode.string reply).map readInfo) Merged
  | configuration (pattern) : StrictCall (.configuration pattern)
      (.ofWords ["CONFIG", "GET", pattern]) Decode.properties Merged
  | configure (parameter) (value : Argument) : StrictCall (.configure parameter value)
      (.withArgs ["CONFIG", "SET", parameter] value.args) Decode.unit Silent
  | maintain (m) : StrictCall (.maintain m) (.ofWords m.words) Decode.unit Silent
  | meet (node) : StrictCall (.meet node)
      (.ofWords ["CLUSTER", "MEET", node.host, toString node.port]) Decode.unit Silent

theorem StrictCall.command_ne {op : Operation β} {command : Command} {decode : Decoder α}
    {Gives : List (Node × α) → Except ClusterError β → Prop}
    (h : StrictCall op command decode Gives) : command ≠ nodesCommand := by
  cases h with
  | ping => exact command_ne_nodesCommand (by decide +kernel) _
  | lastSave => exact command_ne_nodesCommand (by decide +kernel) _
  | info extra => exact command_ne_nodesCommand (by decide +kernel) _
  | configuration pattern => exact command_ne_nodesCommand (by decide +kernel) _
  | configure parameter value => exact command_ne_nodesCommand (by decide +kernel) _
  | maintain m => cases m <;> decide +kernel
  | meet node =>
    intro heq
    have hlength := congrArg (fun command => command.args.length) heq
    cases hlength

theorem Exchange.query_map (command : Command) (decode : Decoder α) (f : α → β) :
    (Exchange.query command decode).map f = .query command fun reply => (decode reply).map f := by
  unfold Exchange.map Exchange.query
  rw [Exchange.andThen]
  congr 1
  funext reply
  unfold Exchange.decoded
  rcases reply with e | reply
  · rfl
  · dsimp only
    rcases reply.raised with e | reply
    · rfl
    · dsimp only
      cases decode reply <;> rfl

section Masters

variable (hruntime : r.insideRuntime = false) (htimeout : r.commandTimeout = none)
  (hw : r.topology w = (.ok t, w')) {command : Command} (hcommand : command ≠ nodesCommand)

include hruntime htimeout hw hcommand

theorem askMasters_collected {decode : Decoder α} {finish : List α → Run σ ClusterError β}
    {Gives : List (Node × α) → Except ClusterError β → Prop}
    (hfinish : ∀ answers v, ∃ outcome,
      finish (answers.map (·.2)) v = (outcome.mapError .failed, v) ∧ Gives answers outcome) :
    r.Collected decode (masterTargets t command) w' (Strict Gives)
      ((r.askMasters (.query command decode) >>= finish) w) := by
  rw [Router.askMasters, Run.bind_assoc]
  exact onMasters_collected hruntime htimeout (strict_reading values_eq_answers hfinish) hw hcommand

theorem qualified_collected {decode : Decoder Properties} :
    r.Collected decode (masterTargets t command) w' (Strict Merged)
      ((r.onMasters (.query command decode) >>= fun m => .ofExcept (qualifiedAll m)) w) :=
  onMasters_collected hruntime htimeout qualified_reading hw hcommand

theorem onEveryMaster_collected :
    r.Collected Decode.unit (masterTargets t command) w' (Strict Silent)
      (r.onEveryMaster (.query command Decode.unit) w) :=
  askMasters_collected hruntime htimeout hw hcommand fun _ _ => ⟨.ok (), rfl, .all⟩

end Masters

/-- A call that no active master may fail sends its command to all of them, also after one failed.
It ends with what all answers amount to, or with the failure of the first master that failed. -/
theorem strict_call {op : Operation β} {command : Command} {decode : Decoder α}
    {Gives : List (Node × α) → Except ClusterError β → Prop}
    (h : StrictCall op command decode Gives)
    (hruntime : r.insideRuntime = false) (htimeout : r.commandTimeout = none)
    (hw : r.topology w = (.ok t, w')) :
    r.Collected decode (masterTargets t command) w' (Strict Gives) (op.run r w) := by
  have hcommand := h.command_ne
  cases h with
  | ping =>
    refine askMasters_collected hruntime htimeout hw hcommand fun answers v => ?_
    cases answers with
    | nil => exact ⟨.error (.cause .noActiveMaster), rfl, .none rfl⟩
    | cons answer rest => exact ⟨.ok answer.2, rfl, .answer answer.1 answer.2 rest⟩
  | lastSave =>
    exact askMasters_collected hruntime htimeout hw hcommand fun answers v =>
      ⟨.ok _, rfl, latest_max answers⟩
  | info extra =>
    rw [Operation.run, Router.info, infoExchange, Exchange.query_map]
    exact qualified_collected hruntime htimeout hw hcommand
  | configuration pattern => exact qualified_collected hruntime htimeout hw hcommand
  | configure parameter value => exact onEveryMaster_collected hruntime htimeout hw hcommand
  | maintain m => exact onEveryMaster_collected hruntime htimeout hw hcommand
  | meet node => exact onEveryMaster_collected hruntime htimeout hw hcommand

/-- The third master gets the command, though the second one failed and so does the call. -/
theorem strict_call_shards :
    Shards.router.Collected Decode.count (masterTargets Shards.topology (.ofWords ["LASTSAVE"]))
      Shards.start (Strict Latest) (Operation.lastSave.run Shards.router Shards.start) ∧
    (Operation.lastSave.run Shards.router Shards.start).1.toOption = none ∧
    receipts (Operation.lastSave.run Shards.router Shards.start).2.events =
      [1, 2, 3].map fun port => (Shards.master port, .ofWords ["LASTSAVE"]) :=
  ⟨strict_call .lastSave rfl rfl rfl, by decide +kernel, by decide +kernel⟩

end SlotRouter
