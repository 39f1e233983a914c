import SlotRouter.Proofs.Router.Gathering

/-!
# Calls that leave failures out

* `Tolerated` : what results amount to if failures are left out: the values of the others, or a list
  of all failures if there is nothing else (`tolerant_reading`);
* `Summed`, `Joined` : what counts and lists amount to;
* `TolerantCall`, `tolerant_call` : the calls that read their results so.
-/

namespace SlotRouter

variable {σ α β : Type} {r : Router σ} {t : Topology} {w w' : World σ}

/-! ## Reading results -/

/-- What results amount to if failures are left out, where `Gives` says it of values. -/
inductive Tolerated (description : String)
    (Gives : List α → Except (Stop ClusterError) β → Prop) (m : MultiResult α) :
    Except (Stop ClusterError) β → Prop
  /-- There is no result or one that is no failure, and the values decide. -/
  | answered {values failures outcome} :
      m.results = [] ∨ (∃ result ∈ m.results, result.isOk = true) →
      Splits m.results values failures → Gives values outcome →
      Tolerated description Gives m outcome
  /-- There is nothing but failures. The error lists each with the address of its node. -/
  | failed {failures} : m.results ≠ [] →
      m.results.map (fun result => (result.node.address, result.value)) =
        failures.map (fun failure => (failure.1, .error failure.2)) →
      Tolerated description Gives m
        (.error (.failed (.nodeFailures .clusterStateFailure description failures)))

/-- The sum of counts, which is no word of 64 bits if it is too large. -/
inductive Summed (counts : List Nat) : Except (Stop ClusterError) Nat → Prop
  | fits : total counts < wordCount → Summed counts (.ok (total counts))
  | overflows (text) : wordCount ≤ total counts → Summed counts (.error (.panicked text))

/-- Lists one after the other. -/
inductive Joined (lists : List (List α)) : Except (Stop ClusterError) (List α) → Prop
  | all : Joined lists (.ok lists.flatten)

theorem errors_of_all_failed {results : List (NodeResult α)}
    (h : ∀ result ∈ results, result.isOk = false) :
    results.map (fun result => (result.node.address, result.value)) =
      ((MultiResult.mk results).errors.map fun (node, e) => (node.address, e)).map
        fun failure => (failure.1, .error failure.2) := by
  induction results with
  | nil => rfl
  | cons result rest ih =>
    obtain ⟨hresult, hrest⟩ := List.forall_mem_cons.1 h
    unfold MultiResult.errors at ih ⊢
    cases hvalue : result.value with
    | ok a =>
      rw [NodeResult.isOk, hvalue] at hresult
      cases hresult
    | error e =>
      have herror : result.error? = some e := by rw [NodeResult.error?, hvalue]
      simp only [List.map_cons, List.filterMap_cons, herror, Option.map_some, hvalue, ih hrest]

theorem tolerant_of_all_failed {m : MultiResult α} (hne : m.results ≠ [])
    (hall : ∀ result ∈ m.results, result.isOk = false) (description : String) :
    m.tolerant description = .error (.nodeFailures .clusterStateFailure description
      (m.errors.map fun (node, e) => (node.address, e))) := by
  unfold MultiResult.tolerant MultiResult.isEmpty
  rw [if_pos]
  simpa [hne] using hall

theorem tolerant_of_answered {m : MultiResult α}
    (h : m.results = [] ∨ ∃ result ∈ m.results, result.isOk = true) (description : String) :
    m.tolerant description = .ok m.successes := by
  unfold MultiResult.tolerant MultiResult.isEmpty
  rw [if_neg]
  simp only [Bool.and_eq_true, Bool.not_eq_true', List.isEmpty_eq_false_iff, List.all_eq_true,
    Bool.not_eq_true']
  rintro ⟨hne, hall⟩
  obtain ⟨result, hresult, hok⟩ := h.resolve_left hne
  exact Bool.eq_false_iff.1 (hall result hresult) hok

/-- Dropping failures, and then reading the values. -/
theorem tolerant_reading {Gives : List α → Except (Stop ClusterError) β → Prop}
    {finish : List α → Run σ ClusterError β} (description : String)
    (hfinish : Reading finish Gives) :
    Reading (fun m => .ofExcept (m.tolerant description) >>= finish)
      (Tolerated description Gives) := by
  intro m v
  by_cases hanswered : m.results = [] ∨ ∃ result ∈ m.results, result.isOk = true
  · obtain ⟨outcome, hrun, hends, hgives⟩ := hfinish m.successes v
    have htolerant := tolerant_of_answered hanswered description
    have hread := (Run.bind_ofExcept_ok htolerant finish v).trans hrun
    exact ⟨outcome, hread, hends, .answered hanswered (splits_results m.results) hgives⟩
  · obtain ⟨hne, hnone⟩ := not_or.1 hanswered
    have hall : ∀ result ∈ m.results, result.isOk = false := fun result hresult =>
      Bool.eq_false_iff.2 fun hok => hnone ⟨result, hresult, hok⟩
    have htolerant := tolerant_of_all_failed hne hall description
    have hread := Run.bind_of_error (congrFun (congrArg Run.ofExcept htolerant) v) finish
    exact ⟨_, hread, by rintro ⟨⟩, .failed hne (errors_of_all_failed hall)⟩

theorem sumCounts_reading : Reading (sumCounts : List Nat → Run σ ClusterError Nat) Summed := by
  intro counts v
  unfold sumCounts
  split
  · next hfits => exact ⟨_, rfl, by rintro ⟨⟩, .fits hfits⟩
  · next hover => exact ⟨_, rfl, by rintro ⟨⟩, .overflows _ (Nat.le_of_not_lt hover)⟩

theorem flatten_reading : Reading
    (fun lists : List (List α) => (pure lists.flatten : Run σ ClusterError (List α))) Joined :=
  fun _ _ => ⟨_, rfl, by rintro ⟨⟩, .all⟩

/-! ## Calls -/

/-- The calls that leave failures out: who gets which command, how replies are read, how a list of
failures is called, and what the values amount to. -/
inductive TolerantCall (t : Topology) : {α β : Type} → Operation β → List Target → Decoder α →
    String → (List α → Except (Stop ClusterError) β → Prop) → Prop
  | databaseSize : TolerantCall t .databaseSize (masterTargets t (.ofWords ["DBSIZE"])) Decode.count
      "DBSIZE" Summed
  | keysMatching {α : Type} (pattern) (decode : Decoder α) :
      TolerantCall t (.keysMatching pattern decode) (masterTargets t (.ofWords ["KEYS", pattern]))
        (Decode.list decode) "KEYS" Joined
  /-- The keys do not share a slot, and each has a master. -/
  | countExisting {keys} {node : Bytes → Node} : ¬ SameSlot keys →
      (∀ key ∈ keys, t.masterForSlot (keySlot key) = some (node key)) →
      TolerantCall t (.countExisting keys) (keyTargets node "EXISTS" keys) Decode.count "EXISTS"
        Summed

/-- A call that leaves failures out sends its command to all its targets, and the failure of one
only takes away what that one would have given. -/
theorem tolerant_call {op : Operation β} {targets : List Target} {decode : Decoder α}
    {description : String} {Gives : List α → Except (Stop ClusterError) β → Prop}
    (h : TolerantCall t op targets decode description Gives)
    (hruntime : r.insideRuntime = false) (htimeout : r.commandTimeout = none)
    (hw : r.topology w = (.ok t, w')) :
    r.Collected decode targets w' (Tolerated description Gives) (op.run r w) := by
  cases h with
  | databaseSize =>
    exact onMasters_collected hruntime htimeout (tolerant_reading "DBSIZE" sumCounts_reading) hw
      (command_ne_nodesCommand (by decide +kernel) _)
  | keysMatching pattern decode =>
    exact onMasters_collected hruntime htimeout (tolerant_reading "KEYS" flatten_reading) hw
      (command_ne_nodesCommand (by decide +kernel) _)
  | @countExisting keys node hspan hnode =>
    rw [Operation.run, Router.countExisting, run_of_span hspan]
    exact onEachKey_collected hruntime htimeout (tolerant_reading "EXISTS" sumCounts_reading) hw
      hnode fun key => command_ne_nodesCommand (by decide +kernel) _

/-- The second master is left out of the sum. -/
theorem tolerant_call_shards :
    Shards.router.Collected Decode.count (masterTargets Shards.topology (.ofWords ["DBSIZE"]))
      Shards.start (Tolerated "DBSIZE" Summed)
      (Operation.databaseSize.run Shards.router Shards.start) ∧
    (Operation.databaseSize.run Shards.router Shards.start).1.toOption = some 4 :=
  ⟨tolerant_call .databaseSize rfl rfl rfl, by decide +kernel⟩

end SlotRouter
