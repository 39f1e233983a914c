import SlotRouter.Proofs.Router.TolerantCalls

/-!
# A key from some master

The call for some key leaves failures out, like other calls, but takes no more than one value.

* `MultiResult.HasAnswer` : some result is no failure;
* `findSome?_of_splits` : the first key among the values is that of the first result with a key;
* `Draws` : what the call amounts to, by the masters and what became of them (`draws_of_tolerated`).
  It succeeds exactly if some master answered, unless there is no master to ask
  (`Draws.only_from_answers_iff`);
* `random_key_call` : that holds of every call;
* `Idle` : a cluster whose only master is failing (`not_draws_only_from_answers`).
-/

namespace SlotRouter

variable {σ α : Type} {r : Router σ} {t : Topology} {w w' : World σ}

/-! ## What the results amount to -/

/-- Some master answered and did not fail. -/
def MultiResult.HasAnswer (m : MultiResult α) : Prop := ∃ result ∈ m.results, result.isOk = true

/-- What becomes of a call for some key. -/
structure Draws (masters : List Node) (m : MultiResult (Option α))
    (outcome : Except (Stop ClusterError) (Option α)) : Prop where
  asked : m.results.map (·.node) = masters
  succeeds_iff : (∃ found, outcome = .ok found) ↔ masters = [] ∨ m.HasAnswer
  /-- It is the key of the first master that has one. -/
  key_iff : ∀ key, outcome = .ok (some key) ↔ ∃ before result after,
    m.results = before ++ result :: after ∧ result.value = .ok (some key) ∧
      ∀ earlier ∈ before, ∀ other, earlier.value ≠ .ok (some other)
  /-- All masters that answered have none. -/
  none_iff : outcome = .ok none ↔ (masters = [] ∨ m.HasAnswer) ∧
    ∀ result ∈ m.results, ∀ other, result.value ≠ .ok (some other)
  /-- The error lists the failures of all masters. -/
  failure : ∀ stop, outcome = .error stop → ∃ failures,
    stop = .failed (.nodeFailures .clusterStateFailure "RANDOMKEY" failures) ∧
      m.results.map (fun result => (result.node.address, result.value)) =
        failures.map fun failure => (failure.1, .error failure.2)

section Draws

variable {masters : List Node} {m : MultiResult (Option α)}
  {outcome : Except (Stop ClusterError) (Option α)}

/-- That some master has to answer for the call to succeed, is true if there is one to ask. -/
theorem Draws.only_from_answers_iff (h : Draws masters m outcome) :
    ((∃ found, outcome = .ok found) ↔ m.HasAnswer) ↔ masters ≠ [] := by
  rw [h.succeeds_iff]
  constructor
  · rintro hiff rfl
    obtain ⟨result, hresult, -⟩ := hiff.1 (.inl rfl)
    rw [List.map_eq_nil_iff.1 h.asked] at hresult
    exact List.not_mem_nil hresult
  · intro hne
    exact or_iff_right hne

/-! ## The first key -/

/-- The key in a result. -/
def NodeResult.found? (result : NodeResult (Option α)) : Option α := result.value?.join

theorem NodeResult.found?_eq_some_iff {result : NodeResult (Option α)} {key : α} :
    result.found? = some key ↔ result.value = .ok (some key) := by
  unfold NodeResult.found? NodeResult.value?
  rcases result.value with e | _ | k <;> simp [Except.toOption]

theorem NodeResult.found?_eq_none_iff {result : NodeResult (Option α)} :
    result.found? = none ↔ ∀ other, result.value ≠ .ok (some other) := by
  rw [Option.eq_none_iff_forall_ne_some]
  exact forall_congr' fun other => not_congr NodeResult.found?_eq_some_iff

theorem findSome?_of_splits {results : List (NodeResult (Option α))} {values : List (Option α)}
    {failures : List (Node × ClusterError)} (h : Splits results values failures) :
    values.findSome? id = results.findSome? NodeResult.found? := by
  induction h with
  | nil => rfl
  | @value result a rest values errors hvalue _ ih =>
    have hfound : result.found? = a := by
      rw [NodeResult.found?, NodeResult.value?, hvalue]
      rfl
    rw [List.findSome?_cons, List.findSome?_cons, hfound, ih]
    rfl
  | @failure result e rest values errors hvalue _ ih =>
    have hfound : result.found? = none := by
      rw [NodeResult.found?, NodeResult.value?, hvalue]
      rfl
    rw [List.findSome?_cons, hfound]
    exact ih

/-! ## Reading the results -/

/-- The first key among values, which may be missing. -/
inductive FirstKey (values : List (Option α)) : Except (Stop ClusterError) (Option α) → Prop
  | first : FirstKey values (.ok (values.findSome? id))

theorem firstKey_reading :
    Reading (fun values => (pure (values.findSome? id) : Run σ ClusterError (Option α)))
      FirstKey :=
  fun _ _ => ⟨_, rfl, by rintro ⟨⟩, .first⟩

section Asked

variable (hasked : m.results.map (·.node) = masters)

include hasked

theorem nobody_asked_iff : masters = [] ↔ m.results = [] := by
  rw [← hasked]
  exact List.map_eq_nil_iff

theorem draws_of_answered {values : List (Option α)} {failures : List (Node × ClusterError)}
    (hanswered : m.results = [] ∨ m.HasAnswer) (hsplits : Splits m.results values failures) :
    Draws masters m (.ok (values.findSome? id)) := by
  rw [← nobody_asked_iff hasked] at hanswered
  rw [findSome?_of_splits hsplits]
  refine ⟨hasked, ⟨fun _ => hanswered, fun _ => ⟨_, rfl⟩⟩, ?_, ?_, ?_⟩
  · intro key
    rw [Except.ok.injEq, List.findSome?_eq_some_iff]
    simp only [NodeResult.found?_eq_some_iff, NodeResult.found?_eq_none_iff]
  · rw [Except.ok.injEq, List.findSome?_eq_none_iff]
    simp only [NodeResult.found?_eq_none_iff]
    exact (and_iff_right hanswered).symm
  · rintro stop ⟨⟩

theorem draws_of_failed {failures : List (String × ClusterError)} (hne : m.results ≠ [])
    (hfailures : m.results.map (fun result => (result.node.address, result.value)) =
      failures.map fun failure => (failure.1, .error failure.2)) :
    Draws masters m
      (.error (.failed (.nodeFailures .clusterStateFailure "RANDOMKEY" failures))) := by
  have hfailed : ∀ result ∈ m.results, ∃ e, result.value = .error e := by
    intro result hresult
    have hmem := List.mem_map_of_mem (f := fun result => (result.node.address, result.value)) hresult
    rw [hfailures] at hmem
    obtain ⟨failure, -, heq⟩ := List.mem_map.1 hmem
    exact ⟨failure.2, (Prod.mk.inj heq).2.symm⟩
  have hnobody : ¬ (masters = [] ∨ m.HasAnswer) := by
    rw [nobody_asked_iff hasked]
    rintro (hnil | ⟨result, hresult, hok⟩)
    · exact hne hnil
    · obtain ⟨e, he⟩ := hfailed result hresult
      rw [NodeResult.isOk, he] at hok
      cases hok
  refine ⟨hasked, ?_, ?_, ?_, ?_⟩
  · constructor
    · rintro ⟨found, ⟨⟩⟩
    · intro hsome
      exact absurd hsome hnobody
  · intro key
    constructor
    · rintro ⟨⟩
    · rintro ⟨before, result, after, hsplit, hvalue, -⟩
      obtain ⟨e, he⟩ := hfailed result (by rw [hsplit]; simp)
      rw [he] at hvalue
      cases hvalue
  · constructor
    · rintro ⟨⟩
    · rintro ⟨hsome, -⟩
      exact absurd hsome hnobody
  · rintro stop ⟨⟩
    exact ⟨failures, rfl, hfailures⟩

theorem draws_of_tolerated (h : Tolerated "RANDOMKEY" FirstKey m outcome) :
    Draws masters m outcome := by
  cases h with
  | answered hanswered hsplits hfirst =>
    cases hfirst
    exact draws_of_answered hasked hanswered hsplits
  | failed hne hfailures => exact draws_of_failed hasked hne hfailures

end Asked

end Draws

/-! ## The call -/

/-- The call for some key sends its command to all active masters and draws from their answers. -/
theorem random_key_call (hruntime : r.insideRuntime = false) (htimeout : r.commandTimeout = none)
    (hw : r.topology w = (.ok t, w')) (decode : Decoder α) :
    r.Collected (Decode.option decode) (masterTargets t (.ofWords ["RANDOMKEY"])) w'
      (Draws t.activeMasters) ((Operation.randomKey decode).run r w) := by
  have hcollected : r.Collected (Decode.option decode) (masterTargets t (.ofWords ["RANDOMKEY"])) w'
      (Tolerated "RANDOMKEY" FirstKey) ((Operation.randomKey decode).run r w) :=
    onMasters_collected hruntime htimeout (tolerant_reading "RANDOMKEY" firstKey_reading) hw
      (command_ne_nodesCommand (by decide +kernel) _)
  refine hcollected.mono fun m outcome hnodes htolerated => ?_
  rw [node_masterTargets] at hnodes
  exact draws_of_tolerated hnodes htolerated

/-- The second master fails, and the key of the first one is taken. -/
theorem random_key_call_shards :
    Shards.router.Collected (Decode.option Decode.string)
      (masterTargets Shards.topology (.ofWords ["RANDOMKEY"])) Shards.start
      (Draws Shards.topology.activeMasters)
      ((Operation.randomKey Decode.string).run Shards.router Shards.start) ∧
    ((Operation.randomKey Decode.string).run Shards.router Shards.start).1.toOption =
      some (some "1") :=
  ⟨random_key_call rfl rfl rfl Decode.string, by decide +kernel⟩

namespace Idle

/-- The node would answer, but it was reported as failing. -/
def node : Node := { host := "127.0.0.1", port := 7000, role := some .master, flags := [.fail] }

def topology : Topology := .ofNodes [node]

def router : Router Unit where
  source := .fixed topology
  network := ⟨fun _ => .ok (), fun _ _ _ => (.reply (.ok (.simple "key")), ())⟩

def start : World Unit := { nodes := () }

end Idle

/-- Where no master is asked the call finds that there is no key. -/
theorem not_draws_only_from_answers :
    ¬ ∀ (m : MultiResult (Option String)) received v, Idle.router.Gathers (Decode.option Decode.string)
        (masterTargets Idle.topology (.ofWords ["RANDOMKEY"])) Idle.start m.results received v →
      ((∃ found, ((Operation.randomKey Decode.string).run Idle.router Idle.start).1 = .ok found) ↔
        m.HasAnswer) := by
  intro h
  have htargets : masterTargets Idle.topology (.ofWords ["RANDOMKEY"]) = [] := by rfl
  rw [htargets] at h
  have hanswer := (h ⟨[]⟩ [] Idle.start .nil).1 ⟨none, rfl⟩
  obtain ⟨result, hresult, -⟩ := hanswer
  exact List.not_mem_nil hresult

end SlotRouter
