import SlotRouter.Router.Execute

/-!
# What becomes of tasks, and how it is read

* `Settles` : the value in the result of a task, given how its command ended; only a command that
  waits without end gives none (`settle_of_settles`, `runTask_of_settles`, `fanOut_of_ok`);
* `mapUntilError_cases` : which item decides the error; `mapUntilError_map` : what comes of a
  function of the images; `mapUntilError_of_map` : what comes of items that all have images;
* `Splits` : results taken apart into values and failures, each in their order;
* `Collects` : all values of results, or the first failure;
* `ByPosition` : results in the order of the keys they are for;
* `MultiResult.Legible` : the four ways to read several results are these (`legible`);
* `inKeyOrder_eq_values` : results that stand in the order of their keys already.
-/

namespace SlotRouter

variable {σ α β γ ε : Type}

/-! ## One task -/

/-- How the command of a task ended, and the value that goes into its result. -/
inductive Settles : Except (Stop ClusterError) α → Except ClusterError α → Prop
  | value (a : α) : Settles (.ok a) (.ok a)
  /-- A failure is kept. -/
  | failure (e : ClusterError) : Settles (.error (.failed e)) (.error e)
  /-- A panic is a failure of the execution. -/
  | panic {text e} : e = .cause (.taskPanicked (panicReport text)) → e.kind = .executionFailure →
      Settles (.error (.panicked text)) (.error e)

theorem exists_settles {outcome : Except (Stop ClusterError) α} (h : outcome ≠ .error .hung) :
    ∃ value, Settles outcome value := by
  rcases outcome with (e | text | _) | a
  · exact ⟨_, .failure e⟩
  · exact ⟨_, .panic rfl rfl⟩
  · exact absurd rfl h
  · exact ⟨_, .value a⟩

theorem Run.map_apply {ε β : Type} (f : α → β) {m : Run σ ε α} {w w' : World σ}
    {outcome : Except (Stop ε) α} (hm : m w = (outcome, w')) :
    (f <$> m) w = (outcome.map f, w') := by
  cases outcome with
  | error s => exact Run.bind_of_error hm _
  | ok a => exact Run.bind_of_ok hm _

section Task

variable {w w' : World σ} {outcome : Except (Stop ClusterError) α} {value : Except ClusterError α}

theorem settle_of_settles {m : Run σ ClusterError α} (hm : m w = (outcome, w'))
    (h : Settles outcome value) : settle m w = (.ok value, w') := by
  unfold settle Run.rescue
  rw [Run.map_apply Except.ok hm]
  cases h with
  | value a => rfl
  | failure e => rfl
  | panic he _ =>
    rw [he]
    rfl

theorem settle_of_hung {m : Run σ ClusterError α} (hm : m w = (.error .hung, w')) :
    settle m w = (.error .hung, w') := by
  unfold settle Run.rescue
  rw [Run.map_apply Except.ok hm]
  rfl

theorem runTask_of_settles {r : Router σ} {t : Task α}
    (hhold : r.hold t.exchange t.node w = (outcome, w')) (h : Settles outcome value) :
    r.runTask t w = (.ok ⟨t.node, t.key, value⟩, w') := by
  unfold Router.runTask
  rw [Run.bind_of_ok (settle_of_settles hhold h)]
  rfl

theorem runTask_of_hung {r : Router σ} {t : Task α}
    (hhold : r.hold t.exchange t.node w = (.error .hung, w')) :
    r.runTask t w = (.error .hung, w') := by
  unfold Router.runTask
  rw [Run.bind_of_error (settle_of_hung hhold)]

theorem fanOutWith_of_ok {r : Router σ} {run : Executor σ α} {tasks : List (Task α)}
    {results : List (NodeResult α)} (hruntime : r.insideRuntime = false)
    (h : run tasks w = (.ok results, w')) :
    r.fanOutWith run tasks w = (.ok ⟨results⟩, w') := by
  rw [Router.fanOutWith, hruntime, if_neg Bool.false_ne_true]
  unfold within Run.rescue
  rw [Run.map_apply MultiResult.mk h]
  rfl

theorem fanOutWith_of_hung {r : Router σ} {run : Executor σ α} {tasks : List (Task α)}
    (hruntime : r.insideRuntime = false) (htimeout : r.commandTimeout = none)
    (h : run tasks w = (.error .hung, w')) : r.fanOutWith run tasks w = (.error .hung, w') := by
  rw [Router.fanOutWith, hruntime, htimeout, if_neg Bool.false_ne_true]
  unfold within Run.rescue
  rw [Run.map_apply MultiResult.mk h]
  rfl

theorem fanOut_of_ok {r : Router σ} {tasks : List (Task α)} {results : List (NodeResult α)}
    (hruntime : r.insideRuntime = false) (h : r.runTasks tasks w = (.ok results, w')) :
    r.fanOut tasks w = (.ok ⟨results⟩, w') :=
  fanOutWith_of_ok hruntime h

theorem fanOut_of_hung {r : Router σ} {tasks : List (Task α)}
    (hruntime : r.insideRuntime = false) (htimeout : r.commandTimeout = none)
    (h : r.runTasks tasks w = (.error .hung, w')) : r.fanOut tasks w = (.error .hung, w') :=
  fanOutWith_of_hung hruntime htimeout h

end Task

/-! ## Applying a function until it fails -/

/-- All items are mapped, or the first one that cannot be decides the error. -/
theorem mapUntilError_cases (f : α → Except ε β) (items : List α) :
    (∃ images, mapUntilError f items = .ok images ∧ items.map f = images.map .ok) ∨
    ∃ before a after e, mapUntilError f items = .error e ∧ items = before ++ a :: after ∧
      (∀ b ∈ before, ∃ c, f b = .ok c) ∧ f a = .error e := by
  induction items with
  | nil => exact .inl ⟨[], rfl, rfl⟩
  | cons a rest ih =>
    rw [mapUntilError]
    cases ha : f a with
    | error e => exact .inr ⟨[], a, rest, e, rfl, rfl, List.forall_mem_nil _, ha⟩
    | ok c =>
      rcases ih with ⟨images, hmap, himages⟩ | ⟨before, b, after, e, hmap, rfl, hbefore, hb⟩
      · refine .inl ⟨c :: images, ?_, ?_⟩
        · dsimp only
          rw [hmap]
          rfl
        · rw [List.map_cons, ha, himages, List.map_cons]
      · refine .inr ⟨a :: before, b, after, e, ?_, rfl, ?_, hb⟩
        · dsimp only
          rw [hmap]
          rfl
        · exact List.forall_mem_cons.2 ⟨⟨c, ha⟩, hbefore⟩

theorem mapUntilError_map (f : α → Except ε β) (g : β → γ) (items : List α) :
    (mapUntilError f items).map (List.map g) = mapUntilError (fun a => (f a).map g) items := by
  induction items with
  | nil => rfl
  | cons a rest ih =>
    rw [mapUntilError, mapUntilError, ← ih]
    cases f a with
    | error e => rfl
    | ok b => cases mapUntilError f rest <;> rfl

theorem exists_of_mapUntilError {f : α → Except ε β} {l : List α} {e : ε}
    (h : mapUntilError f l = .error e) : ∃ a ∈ l, f a = .error e := by
  rcases mapUntilError_cases f l with ⟨images, hmap, -⟩ | ⟨before, a, after, e', hmap, rfl, -, ha⟩
  · rw [h] at hmap
    cases hmap
  · rw [h] at hmap
    cases hmap
    exact ⟨a, List.mem_append_right _ List.mem_cons_self, ha⟩

theorem mapUntilError_of_map {f : α → Except ε β} {items : List α} {images : List β}
    (h : items.map f = images.map .ok) : mapUntilError f items = .ok images := by
  rcases mapUntilError_cases f items with
    ⟨others, hmap, hothers⟩ | ⟨before, a, after, e, -, rfl, -, ha⟩
  · rw [hmap, (List.map_inj_right fun _ _ => Except.ok.inj).1 (hothers.symm.trans h)]
  · have hmem : f a ∈ images.map .ok := by
      rw [← h]
      exact List.mem_map_of_mem (List.mem_append_right _ List.mem_cons_self)
    obtain ⟨b, -, hb⟩ := List.mem_map.1 hmem
    rw [ha] at hb
    cases hb

theorem mapUntilError_of_forall {f : α → Except ε β} {g : α → β} {items : List α}
    (h : ∀ a ∈ items, f a = .ok (g a)) : mapUntilError f items = .ok (items.map g) := by
  apply mapUntilError_of_map
  rw [List.map_map]
  exact List.map_congr_left h

/-! ## Reading results -/

/-- Results taken apart, in their order, into values and failures with their nodes. -/
inductive Splits : List (NodeResult α) → List α → List (Node × ClusterError) → Prop
  | nil : Splits [] [] []
  | value {result : NodeResult α} {a rest values errors} : result.value = .ok a →
      Splits rest values errors → Splits (result :: rest) (a :: values) errors
  | failure {result : NodeResult α} {e rest values errors} : result.value = .error e →
      Splits rest values errors → Splits (result :: rest) values ((result.node, e) :: errors)

/-- All values of results in their order, or the first failure. -/
inductive Collects : List (NodeResult α) → Except ClusterError (List α) → Prop
  | all {results values} : results.map (·.value) = values.map .ok → Collects results (.ok values)
  | first {before : List (NodeResult α)} {result e after} :
      (∀ b ∈ before, b.isOk = true) → result.value = .error e →
      Collects (before ++ result :: after) (.error e)

/-- Results sorted by the positions of their keys, with results for no key at the end. Those of one
position keep their order. -/
structure ByPosition (results sorted : List (NodeResult α)) : Prop where
  perm : sorted.Perm results
  ordered : sorted.Pairwise fun a b => MultiResult.keyBefore a b = true
  stable : ∀ a b, MultiResult.keyBefore a b = true → [a, b].Sublist results → [a, b].Sublist sorted

/-- No result is lost or moved by reading several results. -/
structure MultiResult.Legible (m : MultiResult α) : Prop where
  split : Splits m.results m.successes m.errors
  inOrder : Collects m.results m.values
  byKey : ∃ sorted, ByPosition m.results sorted ∧ Collects sorted m.inKeyOrder

theorem splits_results (results : List (NodeResult α)) :
    Splits results (MultiResult.mk results).successes (MultiResult.mk results).errors := by
  unfold MultiResult.successes MultiResult.errors
  induction results with
  | nil => exact .nil
  | cons result rest ih =>
    cases hvalue : result.value with
    | ok a =>
      have hsome : result.value? = some a := by rw [NodeResult.value?, hvalue]; rfl
      have hnone : result.error? = none := by rw [NodeResult.error?, hvalue]
      simp only [List.filterMap_cons, hsome, hnone, Option.map_none]
      exact .value hvalue ih
    | error e =>
      have hnone : result.value? = none := by rw [NodeResult.value?, hvalue]; rfl
      have hsome : result.error? = some e := by rw [NodeResult.error?, hvalue]
      simp only [List.filterMap_cons, hsome, hnone, Option.map_some]
      exact .failure hvalue ih

theorem allValues_eq (results : List (NodeResult α)) :
    MultiResult.allValues results = mapUntilError (·.value) results := by
  induction results with
  | nil => rfl
  | cons result rest ih =>
    rw [MultiResult.allValues, mapUntilError, ih]
    cases result.value <;> rfl

theorem collects_allValues (results : List (NodeResult α)) :
    Collects results (MultiResult.allValues results) := by
  rw [allValues_eq]
  rcases mapUntilError_cases (·.value) results with
    ⟨values, hall, hvalues⟩ | ⟨before, result, after, e, hfirst, rfl, hbefore, hresult⟩
  · rw [hall]
    exact .all hvalues
  · rw [hfirst]
    refine .first ?_ hresult
    intro b hb
    obtain ⟨a, ha⟩ := hbefore b hb
    rw [NodeResult.isOk, ha]
    rfl

theorem keyBefore_trans (a b c : NodeResult α) (hab : MultiResult.keyBefore a b = true)
    (hbc : MultiResult.keyBefore b c = true) : MultiResult.keyBefore a c = true := by
  unfold MultiResult.keyBefore at hab hbc ⊢
  cases hc : c.key with
  | none => cases a.key <;> rfl
  | some l =>
    rw [hc] at hbc
    cases hb : b.key with
    | none =>
      rw [hb] at hbc
      cases hbc
    | some k =>
      rw [hb] at hab hbc
      cases ha : a.key with
      | none =>
        rw [ha] at hab
        cases hab
      | some j =>
        rw [ha] at hab
        exact decide_eq_true (Nat.le_trans (of_decide_eq_true hab) (of_decide_eq_true hbc))

theorem keyBefore_total (a b : NodeResult α) :
    (MultiResult.keyBefore a b || MultiResult.keyBefore b a) = true := by
  unfold MultiResult.keyBefore
  cases a.key <;> cases b.key <;> simp
  omega

theorem byPosition_mergeSort (results : List (NodeResult α)) :
    ByPosition results (results.mergeSort MultiResult.keyBefore) where
  perm := List.mergeSort_perm results _
  ordered := List.pairwise_mergeSort keyBefore_trans keyBefore_total results
  stable := fun _ _ hab hsub => List.pair_sublist_mergeSort keyBefore_trans keyBefore_total hab hsub

/-- However many of the results are failures, they are read so. -/
theorem MultiResult.legible (m : MultiResult α) : m.Legible where
  split := splits_results m.results
  inOrder := collects_allValues m.results
  byKey := ⟨_, byPosition_mergeSort m.results, collects_allValues _⟩

/-- Results for keys that are in the order of the keys already. -/
theorem inKeyOrder_eq_values {m : MultiResult α} {keys : List Bytes}
    (h : m.results.map (·.key) = keys.zipIdx.map fun entry => some ⟨entry.2, entry.1⟩) :
    m.inKeyOrder = m.values := by
  have hpositions : (keys.zipIdx.map (·.2)).Pairwise (· < ·) := by
    rw [List.zipIdx_map_snd]
    exact List.pairwise_lt_range'
  have hkeys : (m.results.map (·.key)).Pairwise fun a b =>
      ∃ k l : KeyPosition, a = some k ∧ b = some l ∧ k.position < l.position := by
    rw [h]
    refine List.pairwise_map.2 ((List.pairwise_map.1 hpositions).imp fun hlt => ?_)
    exact ⟨_, _, rfl, rfl, hlt⟩
  have hsorted : m.results.Pairwise fun a b => MultiResult.keyBefore a b = true := by
    refine (List.pairwise_map.1 hkeys).imp ?_
    rintro a b ⟨k, l, ha, hb, hlt⟩
    unfold MultiResult.keyBefore
    rw [ha, hb]
    exact decide_eq_true (Nat.le_of_lt hlt)
  unfold MultiResult.inKeyOrder
  rw [List.mergeSort_of_pairwise hsorted]
  rfl

end SlotRouter
