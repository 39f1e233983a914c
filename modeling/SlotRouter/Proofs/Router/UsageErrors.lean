import SlotRouter.Proofs.Router.EarlyFailures
import SlotRouter.Proofs.Slot.Table
import SlotRouter.Proofs.Topology.ReportFaults
import SlotRouter.Router.Operation

/-!
# What was sent before a call was refused

A usage error says that the call itself was refused. The checks of the router come before anything
is sent; but an error keeps its kind wherever it comes from.

* `readReplicas_late`, `qualifiedAll_late` : reading what nodes answered;
* `Operation.run_failsEarly` : every call fails before a command is sent, or with an error that is
  no usage error or one of `LateUsage`;
* `OnlyAsks` : no command was received but the one for reports (`onlyAsks_of_lookups`);
* `usage_error_cases` : a usage error after another command is one of `LateUsage`;
* `Refusal` : a command that a node refuses, and one that a node carries out before the next one
  turns out to be unknown (`not_usage_error_before_commands`).
-/

namespace SlotRouter
open Relation (ReflTransGen)

variable {σ α β ε : Type}

section Late

variable {r : Router σ} {lists ends : Prop} {e : ClusterError}

/-! ## Reading answers -/

theorem readReplicas_late (hlists : lists) {master : Node} {lines : List String}
    (h : readReplicas master lines = .error e) : r.Late lists ends e := by
  rcases readLines_error h with hkind | ⟨rejection, rfl⟩
  · refine .of_kind ?_
    rw [hkind]
    decide
  · exact fun _ => .listed rejection hlists

theorem replicaEntry_late (hlists : lists) (result : NodeResult (List String))
    (hresult : result.FailsWith (r.Late lists ends)) (e : ClusterError)
    (h : replicaEntry result = .error e) : r.Late lists ends e := by
  unfold replicaEntry at h
  cases hv : result.value with
  | error e' =>
    rw [hv] at h
    cases h
    exact hresult e hv
  | ok lines =>
    rw [hv] at h
    dsimp only at h
    cases hread : readReplicas result.node lines with
    | error e' =>
      rw [hread] at h
      cases h
      exact readReplicas_late hlists hread
    | ok replicas =>
      rw [hread] at h
      cases h

theorem qualifiedAll_late (m : MultiResult Properties) (hm : AllLate r lists ends m)
    (e : ClusterError) (h : qualifiedAll m = .error e) : r.Late lists ends e := by
  unfold qualifiedAll at h
  cases hentries : mapUntilError qualified m.results with
  | error e' =>
    rw [hentries] at h
    cases h
    refine mapUntilError_late ?_ hm hentries
    intro result hresult e he
    unfold qualified at he
    cases hv : result.value with
    | error e' =>
      rw [hv] at he
      cases he
      exact hresult e hv
    | ok p =>
      rw [hv] at he
      cases he
  | ok entries =>
    rw [hentries] at h
    cases h

/-! ## Every call -/

variable (r)

/-- The call reads reports of replicas. -/
def Operation.ReadsReplicas : Operation α → Prop
  | .replicas _ | .replicaMap => True
  | _ => False

/-- The call shuts all masters down. -/
def Operation.EndsMasters : Operation α → Prop
  | .shutdown => True
  | _ => False

variable (lists ends)

theorem masterOfSlot_takes_lookups (slot : Nat) : (r.masterOfSlot slot).Takes r.Lookup := by
  refine (Run.Takes.ofExcept _).bind fun _ => (topology_takes r).bind fun t => ?_
  cases (t.servingNodes slot).find? (·.isMaster) with
  | some master => exact .value master
  | none => exact .fail _

theorem sumCounts_fails {p : ε → Prop} (counts : List Nat) :
    (sumCounts counts : Run σ ε Nat).FailsWith p := by
  rw [sumCounts]
  split
  · exact .value _
  · intro w e w' h
    cases h

theorem timestampOf_fails {p : ε → Prop} (clock : Nat × Nat) :
    (timestampOf clock : Run σ ε Timestamp).FailsWith p := by
  unfold timestampOf
  dsimp only
  split
  · exact .value _
  · intro w e w' h
    cases h

theorem askMasters_early (x : Exchange α) :
    (r.askMasters x).FailsEarly r.Lookup (r.Late lists ends) :=
  (onMasters_scatters r lists ends x).read values_late

theorem onEveryMaster_early (x : Exchange Unit) :
    (r.onEveryMaster x).FailsEarly r.Lookup (r.Late lists ends) :=
  (askMasters_early r lists ends x).bind fun _ => .value _

theorem changeSlots_early (change : SlotChange) (node : Node) (slots : List Nat) :
    (r.changeSlots change node slots).FailsEarly r.Lookup (r.Late lists ends) :=
  .after (.ofExcept _) fun _ => askNode_early r lists ends _ node

theorem countEach_early (command : String) (keys : List Bytes)
    {read : MultiResult Nat → Except ClusterError (List Nat)}
    (hread : ∀ m, AllLate r lists ends m → ∀ e, read m = .error e → r.Late lists ends e) :
    (r.countEach command keys >>= fun m => .ofExcept (read m) >>= sumCounts).FailsEarly
      r.Lookup (r.Late lists ends) :=
  (onEachKey_scatters r lists ends _ keys).read_bind hread fun counts => sumCounts_fails counts

theorem countExisting_early (keys : List Bytes) :
    (r.countExisting keys).FailsEarly r.Lookup (r.Late lists ends) := by
  refine .after (.ofExcept _) fun _ => ?_
  split
  · exact onSlotOf_early r lists ends _ keys
  · exact countEach_early r lists ends _ keys fun m => tolerant_late "EXISTS" m

theorem delete_early (keys : List Bytes) :
    (r.delete keys).FailsEarly r.Lookup (r.Late lists ends) := by
  refine .after (.ofExcept _) fun _ => ?_
  split
  · exact onSlotOf_early r lists ends _ keys
  · exact countEach_early r lists ends _ keys values_late

theorem getMany_early (keys : List Bytes) (decode : Decoder α) :
    (r.getMany keys decode).FailsEarly r.Lookup (r.Late lists ends) := by
  refine .after (.ofExcept _) fun _ => ?_
  split
  · exact onSlotOf_early r lists ends _ keys
  · exact (onEachKey_scatters r lists ends _ keys).read inKeyOrder_late

theorem replicas_early (hlists : lists) (master : Node) :
    (r.replicas master).FailsEarly r.Lookup (r.Late lists ends) :=
  .after (topology_takes r) fun _ => .after (.ofExcept _) fun _ => .after (.ofExcept _) fun _ =>
    (askNode_early r lists ends _ _).bind fun _ =>
      .ofExcept fun _ h => readReplicas_late hlists h

theorem replicaMap_early (hlists : lists) :
    r.replicaMap.FailsEarly r.Lookup (r.Late lists ends) :=
  (onMasters_scatters r lists ends _).read fun _ hm _ he =>
    mapUntilError_late (replicaEntry_late hlists) hm he

theorem forget_early (node : Node) :
    (r.forget node).FailsEarly r.Lookup (r.Late lists ends) :=
  .after (topology_takes r) fun _ => .after (.ofExcept _) fun _ => .after (.ofExcept _) fun _ =>
    (onNodes_scatters r lists ends _ _).read_bind values_late fun _ => .value _

theorem setSlot_early (node : Node) (slot : Nat) (state : SlotState) :
    (r.setSlot node slot state).FailsEarly r.Lookup (r.Late lists ends) :=
  .after (.ofExcept _) fun _ => .after (topology_takes r) fun _ => .after (.ofExcept _) fun _ =>
    askNode_early r lists ends _ node

theorem ping_early : r.ping.FailsEarly r.Lookup (r.Late lists ends) := by
  refine (askMasters_early r lists ends _).bind fun answers => ?_
  cases answers with
  | nil => exact .fail (.of_state rfl)
  | cons answer rest => exact .value answer

theorem shutdown_early (hends : ends) : r.shutdown.FailsEarly r.Lookup (r.Late lists ends) := by
  have h := onMasters_scatters r lists ends shutdownExchange
  refine h.early.bind fun m => ?_
  cases hf : shutdownFailure? m with
  | none => exact .value ()
  | some e =>
    obtain ⟨⟨node, cause⟩, -, rfl⟩ := Option.map_eq_some_iff.1 hf
    exact .fail fun _ => .unshut _ _ _ hends

theorem shutdownOn_early (node : Node) :
    (r.shutdownOn node).FailsEarly r.Lookup (r.Late lists ends) := by
  intro w e w' h
  have hearly := askNode_early r lists ends shutdownExchange node
  unfold Router.shutdownOn at h
  have hattempt : ((r.askNode shutdownExchange node).attempt :
      Run σ ClusterError (Except ClusterError Unit)) w = _ :=
    Run.attempt_apply (r.askNode shutdownExchange node) w
  rcases hw : r.askNode shutdownExchange node w with ⟨(e' | text | _) | a, v⟩ <;>
    rw [hw] at hattempt
  · rw [Run.bind_of_ok hattempt] at h
    dsimp only at h
    split at h <;> cases h
    exact hearly w e _ hw
  · rw [Run.bind_of_error hattempt] at h
    cases h
  · rw [Run.bind_of_error hattempt] at h
    cases h
  · rw [Run.bind_of_ok hattempt] at h
    cases h

end Late

/-- Where a call fails, it only looked at the topology until then, or its error is none of a usage
that was checked. -/
theorem Operation.run_failsEarly (r : Router σ) (op : Operation α) :
    (op.run r).FailsEarly r.Lookup (r.Late op.ReadsReplicas op.EndsMasters) := by
  cases op with
  | topology => exact .of_takes (topology_takes r)
  | selectDatabase index => exact .of_takes (.ofExcept _)
  | refused feature => exact .of_takes (.fail _)
  | slotOfKey key => exact .of_takes (.value _)
  | onNode x node => exact onNode_early r _ _ x node
  | onArbitrary x => exact onArbitrary_early r _ _ x
  | onMasters x => exact (onMasters_scatters r _ _ x).early
  | onActive x => exact (onActive_scatters r _ _ x).early
  | onNodes x nodes => exact (onNodes_scatters r _ _ x nodes).early
  | onEachKey x keys => exact (onEachKey_scatters r _ _ x keys).early
  | askNode x node => exact askNode_early r _ _ x node
  | onKey x key => exact onKey_early r _ _ x key
  | get key decode => exact onKey_early r _ _ _ key
  | set key value => exact onKey_early r _ _ _ key
  | countExisting keys => exact countExisting_early r _ _ keys
  | delete keys => exact delete_early r _ _ keys
  | getMany keys decode => exact getMany_early r _ _ keys decode
  | keysMatching pattern decode =>
    exact (onMasters_scatters r _ _ _).read_bind (fun m => tolerant_late "KEYS" m) fun _ => .value _
  | keysMatchingOn node pattern decode => exact askNode_early r _ _ _ node
  | randomKey decode =>
    exact (onMasters_scatters r _ _ _).read_bind (fun m => tolerant_late "RANDOMKEY" m) fun _ => .value _
  | rename key newKey => exact onSlotOf_early r _ _ _ _
  | store op target keys => exact .after (.ofExcept _) fun _ => onSlotOf_early r _ _ _ _
  | difference op keys decode => exact onSlotOf_early r _ _ _ keys
  | nodes => exact .of_takes ((topology_takes r).bind fun _ => .value _)
  | replicas master => exact replicas_early r _ _ trivial master
  | replicaMap => exact replicaMap_early r _ _ trivial
  | masterOfSlot slot => exact .of_takes (masterOfSlot_takes_lookups r slot)
  | masterOfKey key => exact .of_takes (masterOfSlot_takes_lookups r _)
  | clusterInfo => exact askArbitrary_early r _ _ _
  | changeSlots change node slots => exact changeSlots_early r _ _ change node slots
  | changeSlotRange change node range => exact changeSlots_early r _ _ change node _
  | countKeysInSlot slot =>
    exact .after (masterOfSlot_takes_lookups r slot) fun _ => askNode_early r _ _ _ _
  | keysInSlot slot count decode =>
    exact .after (masterOfSlot_takes_lookups r slot) fun _ => askNode_early r _ _ _ _
  | meet node => exact (askMasters_early r _ _ _).bind fun _ => .value _
  | forget node => exact forget_early r _ _ node
  | replicate master replica =>
    exact .after (topology_takes r) fun _ => .after (.ofExcept _) fun _ =>
      askNode_early r _ _ _ replica
  | setSlot node slot state => exact setSlot_early r _ _ node slot state
  | ping => exact ping_early r _ _
  | pingOn node => exact askNode_early r _ _ _ node
  | databaseSize =>
    exact (onMasters_scatters r _ _ _).read_bind (fun m => tolerant_late "DBSIZE" m) fun counts =>
      sumCounts_fails counts
  | databaseSizeOn node => exact askNode_early r _ _ _ node
  | lastSave => exact (askMasters_early r _ _ _).bind fun _ => .value _
  | lastSaveOn node => exact askNode_early r _ _ _ node
  | time => exact (askArbitrary_early r _ _ _).bind fun clock => timestampOf_fails clock
  | timeOn node => exact (askNode_early r _ _ _ node).bind fun clock => timestampOf_fails clock
  | info extra => exact (onMasters_scatters r _ _ _).read qualifiedAll_late
  | infoOn node => exact askNode_early r _ _ _ node
  | configuration pattern => exact (onMasters_scatters r _ _ _).read qualifiedAll_late
  | configurationOn node pattern => exact askNode_early r _ _ _ node
  | configure parameter value => exact onEveryMaster_early r _ _ _
  | configureOn node parameter value => exact askNode_early r _ _ _ node
  | maintain m => exact onEveryMaster_early r _ _ _
  | maintainOn node m => exact askNode_early r _ _ _ node
  | shutdown => exact shutdown_early r _ _ trivial
  | shutdownOn node => exact shutdownOn_early r _ _ node

/-! ## The log of a refused call -/

/-- No other command was received between two worlds than the one for reports. -/
def OnlyAsks (w w' : World σ) : Prop :=
  ∃ log, w'.events = w.events ++ log ∧ ∀ receipt ∈ receipts log, receipt.2 = nodesCommand

theorem OnlyAsks.refl (w : World σ) : OnlyAsks w w :=
  ⟨[], (List.append_nil _).symm, by simp [receipts]⟩

theorem OnlyAsks.trans {u v w : World σ} (h : OnlyAsks u v) (h' : OnlyAsks v w) : OnlyAsks u w := by
  obtain ⟨log, hlog, hreceipts⟩ := h
  obtain ⟨log', hlog', hreceipts'⟩ := h'
  refine ⟨log ++ log', by rw [hlog', hlog, List.append_assoc], ?_⟩
  rw [receipts_append]
  exact List.forall_mem_append.2 ⟨hreceipts, hreceipts'⟩

theorem OnlyAsks.of_event {w w' : World σ} {e : Event} (hlog : w'.events = w.events ++ [e])
    (he : e.received? = none) : OnlyAsks w w' := by
  have hnone : receipts [e] = [] := List.filterMap_cons_none he
  exact ⟨[e], hlog, by simp [hnone]⟩

theorem Router.Lookup.onlyAsks {r : Router σ} {w w' : World σ} (h : r.Lookup w w') :
    OnlyAsks w w' := by
  cases h with
  | @asked node w nodes _ =>
    refine ⟨_, w.events_lease node [nodesCommand] nodes, ?_⟩
    rw [receipts_bracket]
    simp
  | dismissed node redirect _ => exact .of_event (w.events_record _) rfl
  | refreshed t _ _ => exact .of_event (w.events_adopt _) rfl
  | outdated w _ => exact .of_event w.events_outdate rfl
  | supplied w _ => exact .of_event (w.events_record _) rfl

theorem onlyAsks_of_lookups {r : Router σ} {w w' : World σ} (h : ReflTransGen r.Lookup w w') :
    OnlyAsks w w' := by
  induction h with
  | refl => exact .refl w
  | tail _ hstep ih => exact ih.trans hstep.onlyAsks

/-- If a call fails with a usage error, no node received another command than the one for reports
since the call began; or the error did not come from a check of the call. -/
theorem usage_error_cases {r : Router σ} {op : Operation α} {w : World σ} {e : ClusterError}
    (hrun : (op.run r w).1 = .error (.failed e)) (husage : e.IsUsage) :
    OnlyAsks w (op.run r w).2 ∨ r.LateUsage op.ReadsReplicas op.EndsMasters e := by
  rcases op.run_failsEarly r w e (op.run r w).2 (Prod.ext hrun rfl) with hlookups | hlate
  · exact .inl (onlyAsks_of_lookups hlookups)
  · exact .inr (hlate husage)

/-! ## Calls that are refused late -/

namespace Refusal

/-- One master owns all slots. -/
def first : Node where
  host := "10.0.0.1"
  port := 1
  role := some .master
  slots := ⟨[⟨0, 16383⟩], Ascending.whole⟩

/-- Another one has none yet. -/
def second : Node := { host := "10.0.0.2", port := 2, role := some .master }

/-- What a node answers to a command whose keys lie in several slots. -/
def crossSlot : ClientError :=
  .described .crossSlot "An error was signalled by the server"
    (some "Keys in request don't hash to the same slot")

def renameCommand : Command := .withArgs ["RENAME"] [[0x62], [0x61]]

/-- There are no connections to the second master. The first one does everything but rename. -/
def network : Network Unit where
  connect n := if n.port = 2 then .error n.unknown else .ok ()
  answer _ _ command :=
    (.reply (if command = renameCommand then .error crossSlot else .ok .okay), ())

def router : Router Unit where
  source := .fixed (.ofNodes [first, second])
  network := network

/-- Renames a key to one of another slot. -/
def move : Operation Unit := .onKey (.query renameCommand Decode.unit) [0x62]

def flush : Operation Unit := .maintain .flushAll

/-- The usage error that a run ended with. -/
def refusal? (outcome : Except (Stop ClusterError) α) : Option ClusterError :=
  match outcome with
  | .error (.failed e) => if e.IsUsage then some e else none
  | _ => none

theorem refusal?_eq_some {outcome : Except (Stop ClusterError) α} {e : ClusterError}
    (h : refusal? outcome = some e) : outcome = .error (.failed e) ∧ e.IsUsage := by
  unfold refusal? at h
  split at h
  · split at h
    · next husage =>
      cases h
      exact ⟨rfl, husage⟩
    · cases h
  · cases h

/-- The node refuses what it received. -/
theorem move_refused : (refusal? (move.run router { nodes := () }).1).map (·.kind) =
      some .invalidUsage ∧
    receipts (move.run router { nodes := () }).2.events = [(first, renameCommand)] := by
  decide +kernel

/-- The first master is empty before the call is refused. -/
theorem flush_refused : (refusal? (flush.run router { nodes := () }).1).map (·.kind) =
      some .illegalArgument ∧
    receipts (flush.run router { nodes := () }).2.events = [(first, .ofWords ["FLUSHALL"])] := by
  decide +kernel

end Refusal

theorem usage_error_cases_flush : ∃ e,
    (Refusal.flush.run Refusal.router { nodes := () }).1 = .error (.failed e) ∧ e.IsUsage ∧
      (OnlyAsks { nodes := () } (Refusal.flush.run Refusal.router { nodes := () }).2 ∨
        Refusal.router.LateUsage Refusal.flush.ReadsReplicas Refusal.flush.EndsMasters e) := by
  obtain ⟨e, he, -⟩ := Option.map_eq_some_iff.1 Refusal.flush_refused.1
  obtain ⟨hrun, husage⟩ := Refusal.refusal?_eq_some he
  exact ⟨e, hrun, husage, usage_error_cases hrun husage⟩

/-- So a usage error does not mean that nothing was sent. -/
theorem not_usage_error_before_commands :
    ¬ ∀ (r : Router Unit) (op : Operation Unit) (w : World Unit) (e : ClusterError),
      (op.run r w).1 = .error (.failed e) → e.IsUsage → OnlyAsks w (op.run r w).2 := by
  intro h
  obtain ⟨e, he, -⟩ := Option.map_eq_some_iff.1 Refusal.move_refused.1
  obtain ⟨hrun, husage⟩ := Refusal.refusal?_eq_some he
  obtain ⟨log, hlog, honly⟩ := h Refusal.router Refusal.move { nodes := () } e hrun husage
  have hevents : (Refusal.move.run Refusal.router { nodes := () }).2.events = log := hlog
  have hreceipts := Refusal.move_refused.2
  rw [hevents] at hreceipts
  have hrename := honly (Refusal.first, Refusal.renameCommand)
    (by rw [hreceipts]; exact List.mem_singleton_self _)
  exact absurd hrename (by decide)

end SlotRouter
