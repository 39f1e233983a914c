import SlotRouter.Proofs.Command.WireForm
import SlotRouter.Proofs.Router.KeyTasks
import SlotRouter.Proofs.Scripted.LayoutMembers
import SlotRouter.Router.Administration
import SlotRouter.Scripted.Rules

/-!
# Three views of the replicas

The replicas of a master can be taken from the topology, asked of the master, or asked of all
masters at once.

* `decoded_text`, `decoded_texts` : texts and lists of texts are read from replies as they are;
* `readReplicas_rows` : the lines with which a master reports its replicas are read as these nodes;
* `runTasks_of_values` : the same exchange with several nodes;
* `Tells` : every node tells its id and its replicas as the layout has them;
* `replicas_told`, `replicaMap_told` : what one master and all masters say;
* `replica_views` : all three views are the same.
-/

namespace SlotRouter

variable {σ α : Type} {r : Router σ}

/-! ## Replies -/

theorem decoded_text (text : String) :
    Exchange.decoded Decode.string (.ok (.bulk (bytesOf text))) = .ok text := by
  have hdecode : Text.Utf8.decode? (bytesOf text) = some text.toList :=
    Text.Utf8.decode?_encode text.toList
  show Decode.string (.bulk (bytesOf text)) = .ok text
  unfold Decode.string Decode.stringOr
  dsimp only [Reply.inner]
  rw [hdecode]
  dsimp only
  rw [String.ofList_toList]

theorem firstErrorOf?_texts (texts : List String) :
    Reply.firstErrorOf? (texts.map fun text => .bulk (bytesOf text)) = none := by
  induction texts with
  | nil => rfl
  | cons text rest ih =>
    rw [List.map_cons, Reply.firstErrorOf?, ih]
    rfl

theorem each_texts (texts : List String) :
    Decode.each Decode.string (texts.map fun text => .bulk (bytesOf text)) = .ok texts := by
  induction texts with
  | nil => rfl
  | cons text rest ih =>
    have htext : Decode.string (.bulk (bytesOf text)) = .ok text := decoded_text text
    rw [List.map_cons, Decode.each, htext, ih]

theorem decoded_texts (texts : List String) :
    Exchange.decoded (Decode.list Decode.string)
      (.ok (.array (texts.map fun text => .bulk (bytesOf text)))) = .ok texts := by
  have hraised : (Reply.array (texts.map fun text => .bulk (bytesOf text))).raised =
      .ok (.array (texts.map fun text => .bulk (bytesOf text))) := by
    rw [Reply.raised, Reply.firstError?, firstErrorOf?_texts]
  unfold Exchange.decoded
  dsimp only
  rw [hraised]
  exact each_texts texts

/-! ## Tasks -/

/-- The same exchange ends in a value on each node, as long as the nodes are in such states. -/
theorem runTasks_of_values {ι : Type} {x : Exchange α} {target : ι → Node} {value : ι → α}
    {good : σ → Prop} {items : List ι}
    (h : ∀ i ∈ items, ∀ w : World σ, good w.nodes →
      ∃ w', r.hold x (target i) w = (.ok (value i), w') ∧ good w'.nodes)
    {w : World σ} (hw : good w.nodes) :
    ∃ w', r.runTasks (Router.tasksFor x (items.map target)) w =
      (.ok (items.map fun i => ⟨target i, none, .ok (value i)⟩), w') := by
  induction items generalizing w with
  | nil => exact ⟨w, rfl⟩
  | cons i rest ih =>
    obtain ⟨hi, hrest⟩ := List.forall_mem_cons.1 h
    obtain ⟨v, hhold, hv⟩ := hi w hw
    obtain ⟨w', hrun⟩ := ih hrest hv
    have htask : r.runTask ⟨target i, none, x⟩ w = (.ok ⟨target i, none, .ok (value i)⟩, v) :=
      runTask_of_settles hhold (.value _)
    refine ⟨w', ?_⟩
    rw [Router.tasksFor] at hrun
    rw [Router.tasksFor, List.map_cons, List.map_cons, Router.runTasks, Run.bind_of_ok htask,
      Run.bind_of_ok hrun]
    rfl

namespace Scripted

/-! ## Lines -/

/-- The lines with which the master of a shard reports its replicas. -/
def Shard.rows (s : Shard) : List String := s.replicas.map (replicaRow s.primary)

/-- The replicas of a shard as these lines describe them. -/
def Shard.reported (s : Shard) : List Node :=
  s.replicas.map fun port => shownAs (replicaNode s.primary port) .replica

/-- Lines with line feeds between them. -/
theorem page_join (lines : List String) :
    Text.Page (lines.map String.toList) (Text.join "\n" lines).toList := by
  induction lines with
  | nil => exact .rest (List.forall_mem_nil _) List.not_mem_nil
  | cons line rest ih =>
    cases rest with
    | nil => exact .last line.toList
    | cons next rest =>
      have hjoin : Text.join "\n" (line :: next :: rest) =
          line ++ "\n" ++ Text.join "\n" (next :: rest) := rfl
      rw [hjoin, String.append_assoc, String.toList_append, String.toList_append]
      exact .ended line.toList ih

section Lines

variable {s : Shard} (h : ∀ port ∈ s.replicas, port ≠ 0)

theorem lineOf_rows (s : Shard) : List.Forall₂ LineOf s.reported (s.rows.map String.toList) := by
  rw [Shard.reported, Shard.rows, List.map_map, List.forall₂_map_left_iff,
    List.forall₂_map_right_iff, List.forall₂_same]
  intro port _
  rw [Function.comp_apply, replicaRow_eq]
  exact lineOf_rowOf (n := replicaNode s.primary port) rfl rfl rfl .nil

include h

theorem reportable_reported : ∀ n ∈ s.reported, n.Reportable := by
  intro n hn
  obtain ⟨port, hport, rfl⟩ := List.mem_map.1 hn
  refine reportable_ofPort rfl (h port hport) rfl ?_
  rintro _ ⟨⟩
  exact ⟨s.primary, rfl⟩

/-- The lines say what they were written for, whoever reports them. -/
theorem readReplicas_rows (master : Node) : readReplicas master s.rows = .ok s.reported := by
  have hasReported : s.reported.map Node.asReported = s.reported := by
    rw [Shard.reported, List.map_map]
    rfl
  rw [readReplicas, readReport, Text.trimmedLines_page (page_join s.rows)
    (clean_lines (lineOf_rows s) (reportable_reported h)),
    readLines_written (lineOf_rows s) (reportable_reported h), hasReported]

end Lines

/-- But for flags and link states these are the replicas of the layout. -/
theorem bare_reported (s : Shard) :
    s.reported.map Node.bare = s.replicas.map (replicaNode s.primary) := by
  rw [Shard.reported, List.map_map]
  rfl

/-- What masters told, each with its own replicas. -/
theorem replicaEntries_rows {shards : List Shard} (h : ∀ s ∈ shards, s.Valid) :
    mapUntilError replicaEntry (shards.map fun s => ⟨s.master, none, .ok s.rows⟩) =
      .ok (shards.map fun s => (s.master, s.reported)) := by
  induction shards with
  | nil => rfl
  | cons s rest ih =>
    obtain ⟨hs, hrest⟩ := List.forall_mem_cons.1 h
    have hentry : replicaEntry ⟨s.master, none, .ok s.rows⟩ = .ok (s.master, s.reported) := by
      show (readReplicas s.master s.rows).map (s.master, ·) = _
      rw [readReplicas_rows hs.replicas]
      rfl
    rw [List.map_cons, mapUntilError, hentry]
    dsimp only
    rw [ih hrest]
    rfl

/-! ## Nodes that know the layout -/

/-- Every node can be reached, and tells its id and its replicas as the layout has them. It does so
in all good states, and stays in them. -/
structure Tells (net : Network σ) (layout : Layout) (good : σ → Prop) : Prop where
  reachable : ∀ node, net.connect node = .ok ()
  ownId : ∀ s node, good s → ∃ s', net.answer s node (.ofWords ["CLUSTER", "MYID"]) =
    (.reply (.ok (.bulk (bytesOf (idOfPort node.port)))), s') ∧ good s'
  replicas : ∀ s node, good s →
    ∃ s', net.answer s node (.ofWords ["CLUSTER", "REPLICAS", idOfPort node.port]) =
      (.reply (.ok (replicasReply layout node.port)), s') ∧ good s'

/-- The exchange that asks a master for its id, and then for the replicas of that id. -/
def ownReplicas : Exchange (List String) :=
  (Exchange.query (.ofWords ["CLUSTER", "MYID"]) Decode.string).andThen replicasExchange

section Told

variable {layout : Layout} (hports : DistinctPorts layout)

include hports

theorem replicasReply_eq {s : Shard} (hs : s ∈ layout) :
    replicasReply layout s.primary = .array (s.rows.map fun row => .bulk (bytesOf row)) := by
  rw [replicasReply, filter_primary hports hs, List.flatMap_singleton, Shard.rows, List.map_map]
  rfl

variable {good : σ → Prop} (htells : Tells r.network layout good)

include htells

theorem talk_replicas {s : Shard} (hs : s ∈ layout) {v v' : σ} (hv : good v)
    {commands : List Command} {outcome : Except (Stop ClientError) (List String)}
    (h : Talk r.network s.master (replicasExchange (idOfPort s.primary)) v commands outcome v') :
    outcome = .ok s.rows ∧ good v' := by
  obtain ⟨u, hanswer, hu⟩ := htells.replicas v s.master hv
  rw [show s.master.port = s.primary from rfl, replicasReply_eq hports hs] at hanswer
  obtain ⟨houtcome, rfl⟩ := h.of_query hanswer (decoded_texts s.rows)
  exact ⟨houtcome, hu⟩

/-- A master that is asked for its replicas by its id. -/
theorem hold_replicas {s : Shard} (hs : s ∈ layout) {w : World σ} (hw : good w.nodes) :
    ∃ w', r.hold (replicasExchange (idOfPort s.primary)) s.master w = (.ok s.rows, w') ∧
      good w'.nodes :=
  hold_of_talk (htells.reachable _) fun _ _ _ h => talk_replicas hports htells hs hw h

theorem hold_ownReplicas {s : Shard} (hs : s ∈ layout) (w : World σ) (hw : good w.nodes) :
    ∃ w', r.hold ownReplicas s.master w = (.ok s.rows, w') ∧ good w'.nodes := by
  refine hold_of_talk (htells.reachable _) fun commands outcome v' h => ?_
  obtain ⟨u, hanswer, hu⟩ := htells.ownId w.nodes s.master hw
  obtain ⟨rest, htalk⟩ := h.after_query hanswer (decoded_text (idOfPort s.primary))
  exact talk_replicas hports htells hs hu htalk

variable {w : World σ} (hw : good w.nodes)
  (hfixed : r.source = .fixed (Topology.ofNodes (layout.flatMap Shard.members)))
  (hvalid : ∀ s ∈ layout, s.Valid)

include hw hfixed hvalid

theorem replicas_told {s : Shard} (hs : s ∈ layout) :
    ∃ w', r.replicas s.master w = (.ok s.reported, w') := by
  have htopology := topology_of_fixed hfixed w
  have hmem := master_mem hports hs
  have hdistinct := layout_distinctIds hports
  have hid : s.master.id = some (idOfPort s.primary) := rfl
  obtain ⟨w', hhold, -⟩ := hold_replicas hports htells hs hw
  have hask := askNode_apply htopology (hdistinct.resolve_eq hmem)
    (replicasExchange (idOfPort s.primary))
  refine ⟨w', ?_⟩
  rw [Router.replicas, Run.bind_of_ok htopology,
    Run.bind_ofExcept_ok (hdistinct.resolve_eq hmem),
    Run.bind_ofExcept_ok (hdistinct.idOf_eq hmem hid), Run.bind_of_ok (hask.trans hhold),
    readReplicas_rows (hvalid s hs).replicas]
  rfl

/-- Every master tells its own replicas. -/
theorem replicaMap_told (hruntime : r.insideRuntime = false) :
    ∃ w', r.replicaMap w = (.ok (layout.map fun s => (s.master, s.reported)), w') := by
  have htopology := topology_of_fixed hfixed w
  have hheld := fun s hs w hw => hold_ownReplicas hports htells (s := s) hs w hw
  obtain ⟨w', hrun⟩ := runTasks_of_values hheld hw
  have hmasters : r.onMasters ownReplicas w =
      (.ok ⟨layout.map fun s => ⟨s.master, none, .ok s.rows⟩⟩, w') := by
    rw [Router.onMasters, Run.bind_of_ok htopology, layout_activeMasters hports]
    exact fanOut_of_ok hruntime hrun
  have hmap : r.replicaMap w = (r.onMasters ownReplicas >>= fun m =>
    .ofExcept (mapUntilError replicaEntry m.results)) w := rfl
  refine ⟨w', ?_⟩
  rw [hmap, Run.bind_of_ok hmasters, replicaEntries_rows hvalid]
  rfl

end Told

/-! ## The three views -/

/-- The topology, a master alone and all masters together tell the same replicas of each master, in
the order of the layout. Nodes that report them add flags and link states. -/
structure ReplicaViews (layout : Layout) (t : Topology) (r : Router σ) (w : World σ) : Prop where
  known : ∀ s ∈ layout, t.replicasOf s.master = .ok (s.replicas.map (replicaNode s.primary))
  asked : ∀ s ∈ layout, ∃ nodes w', r.replicas s.master w = (.ok nodes, w') ∧
    nodes.map Node.bare = s.replicas.map (replicaNode s.primary)
  mapped : ∃ entries w', r.replicaMap w = (.ok entries, w') ∧
    entries.map (·.1) = layout.map Shard.master ∧
    entries.map (fun entry => entry.2.map Node.bare) =
      layout.map fun s => s.replicas.map (replicaNode s.primary)

/-- Whatever layout of existing slots and different ports it is, its topology has exactly the
masters of the layout, and if the nodes tell what the layout says, whoever is asked for the replicas
of a master tells the same. -/
theorem replica_views {layout : Layout} (hvalid : ∀ s ∈ layout, s.Valid)
    (hports : DistinctPorts layout) :
    ∃ t, layoutTopology layout = .ok t ∧ t.masters = layout.map Shard.master ∧
      ∀ (r : Router σ) (good : σ → Prop) (w : World σ), r.source = .fixed t →
        r.insideRuntime = false → Tells r.network layout good → good w.nodes →
        ReplicaViews layout t r w := by
  refine ⟨_, layoutTopology_eq hvalid, layout_masters hports, ?_⟩
  intro r good w hfixed hruntime htells hw
  refine ⟨fun s hs => layout_replicasOf hports hs, fun s hs => ?_, ?_⟩
  · obtain ⟨w', htold⟩ := replicas_told hports htells hw hfixed hvalid hs
    exact ⟨s.reported, w', htold, bare_reported s⟩
  · obtain ⟨w', htold⟩ := replicaMap_told hports htells hw hfixed hvalid hruntime
    refine ⟨_, w', htold, ?_, ?_⟩
    · rw [List.map_map]
      rfl
    · rw [List.map_map]
      exact List.map_congr_left fun s _ => bare_reported s

/-- The nodes answer for themselves, whoever asks and however often. -/
def selfKnowing (layout : Layout) : Script :=
  [⟨none, ["CLUSTER", "MYID"], none, .ownId⟩, ⟨none, ["CLUSTER", "REPLICAS"], none, .replicas layout⟩]

/-- The script of such nodes is never used up. -/
theorem tells_selfKnowing (layout : Layout) :
    Tells (scripted none []) layout (· = selfKnowing layout) where
  reachable _ := rfl
  ownId := by
    rintro s node rfl
    refine ⟨selfKnowing layout, ?_, rfl⟩
    simp [scripted, answerOf, firstMatch, selfKnowing, Rule.matches, Rule.used,
      Command.texts_ofWords, perform]
  replicas := by
    rintro s node rfl
    refine ⟨selfKnowing layout, ?_, rfl⟩
    simp [scripted, answerOf, firstMatch, selfKnowing, Rule.matches, Rule.used,
      Command.texts_ofWords, perform]

theorem replica_views_threeMasters :
    ∃ t, layoutTopology threeMastersWithReplicas = .ok t ∧
      ReplicaViews threeMastersWithReplicas t
        { source := .fixed t, network := scripted none [] }
        { nodes := selfKnowing threeMastersWithReplicas } := by
  have hvalid : ∀ s ∈ threeMastersWithReplicas, s.Valid := by
    intro s hs
    simp only [threeMastersWithReplicas, List.mem_cons, List.not_mem_nil, or_false] at hs
    rcases hs with rfl | rfl | rfl
    · exact ⟨by decide, by simp, by decide, by decide⟩
    · exact ⟨by decide, by simp, by decide, by decide⟩
    · exact ⟨by decide, by simp, by decide, by decide⟩
  have hports : DistinctPorts threeMastersWithReplicas := by decide +kernel
  obtain ⟨t, ht, -, hviews⟩ := replica_views hvalid hports
  exact ⟨t, ht, hviews _ _ _ rfl rfl (tells_selfKnowing _) rfl⟩

end Scripted

end SlotRouter
