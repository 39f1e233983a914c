import SlotRouter.Proofs.Topology.ReportText
import SlotRouter.Proofs.Topology.SameAnswers
import SlotRouter.Scripted.Layout

/-!
# What the report of a layout says

A layout is turned into a topology in two ways: directly, and through the text with which its nodes
report it. Both give the same cluster.

* `Shard.Valid` : the ports and the slots of a shard exist;
* `Shown n line` : the line describes an active node, which is `n` but for its flags and its link;
* `masterRow_shows`, `replicaRow_shows` : the lines of a layout show its nodes;
* `readReport_layout` : so reading the report gives these nodes;
* `layout_report_answers` : and the two topologies answer alike.
-/

namespace SlotRouter.Scripted

/-- The ports and the slots of the shard exist. -/
structure Shard.Valid (s : Shard) : Prop where
  primary : s.primary ≠ 0
  replicas : ∀ port ∈ s.replicas, port ≠ 0
  ordered : s.first ≤ s.last
  inRange : s.last < slotCount

/-- The line describes an active node, which is this one but for its flags and its link state. -/
def Shown (n : Node) (line : List Char) : Prop :=
  ∃ m : Node, LineOf m line ∧ m.Reportable ∧ m.isActive = true ∧ m.asReported.bare = n

/-! ## Lines -/

theorem host_plain : Text.Solid host.toList ∧ '@' ∉ host.toList ∧
    host.toList.head? ≠ some '[' ∧ host.toList.getLast? ≠ some ']' := by
  decide +kernel

section Columns

variable (port : UInt16)

theorem toList_idOfPort : (idOfPort port).toList =
    List.replicate (40 - (Nat.toDigits 10 port.toNat).length) '0' ++ Nat.toDigits 10 port.toNat :=
  String.toList_ofList

theorem isDigit_of_mem_idOfPort {c : Char} (h : c ∈ (idOfPort port).toList) : c.isDigit = true := by
  rw [toList_idOfPort, List.mem_append] at h
  rcases h with h | h
  · rw [List.eq_of_mem_replicate h]
    rfl
  · exact Nat.isDigit_of_mem_toDigits (by decide) (by decide) h

theorem solid_idOfPort : Text.Solid (idOfPort port).toList where
  ne_nil := by
    rw [toList_idOfPort]
    exact List.append_ne_nil_of_right_ne_nil _ Nat.toDigits_ne_nil
  not_blank := fun _ hc => Text.isBlank_of_isDigit (isDigit_of_mem_idOfPort port hc)

theorem idOfPort_ne_dash : idOfPort port ≠ "-" := by
  intro h
  have hdash : '-' ∈ (idOfPort port).toList := by
    rw [h]
    exact List.mem_singleton_self '-'
  exact absurd (isDigit_of_mem_idOfPort port hdash) (by decide)

/-- The address of the node on a port, with the port of its bus. -/
def addressOfPort : List Char :=
  host.toList ++ ':' :: (Nat.toDigits 10 port.toNat ++ '@' :: Nat.toDigits 10 (port.toNat + 10000))

theorem addressColumn_ofPort : AddressColumn host.toList port (addressOfPort port) :=
  .bus .bare (Text.solid_toDigits _)

theorem toList_leadColumns :
    (leadColumns port).toList = (idOfPort port).toList ++ ' ' :: addressOfPort port := by
  have hport : (toString port).toList = Nat.toDigits 10 port.toNat := toList_toString port.toNat
  unfold leadColumns addressOfPort
  simp [hport]

end Columns

/-- The node as its line describes it: with one flag, and connected. -/
def shownAs (n : Node) (flag : Flag) : Node := { n with flags := [flag], link := some .connected }

section Rows

variable {n : Node} {port : UInt16} {flag : Flag} {slots : List (List Char)}

theorem reportable_ofPort (hhost : n.host = host) (hport : n.port ≠ 0)
    (hid : n.id = some (idOfPort port)) (hmaster : ∀ id ∈ n.masterId, ∃ port, id = idOfPort port) :
    (shownAs n flag).Reportable := by
  obtain ⟨hsolid, hat, hopen, hclose⟩ := host_plain
  rw [← hhost] at hsolid hat hopen hclose
  refine ⟨hsolid, hat, hopen, hclose, hport, ?_, ?_⟩
  · intro id h
    obtain rfl : idOfPort port = id := Option.some.inj (hid.symm.trans h)
    exact solid_idOfPort port
  · intro id h
    obtain ⟨port, rfl⟩ := hmaster id h
    exact ⟨solid_idOfPort port, idOfPort_ne_dash port⟩

/-- The line of the node on a port. -/
def rowOf (port : UInt16) (flag : Flag) (masterId : Option String) (slots : List (List Char)) :
    List Char :=
  Text.spaced ((idOfPort port).toList :: addressOfPort port :: flag.word.toList ::
    masterColumn masterId :: ['0'] :: ['0'] :: ['1'] :: Link.connected.word.toList :: slots)

theorem lineOf_rowOf (hhost : n.host = host) (hport : n.port = port)
    (hid : n.id = some (idOfPort port)) (hslots : SlotColumns n.slots.intervals slots) :
    LineOf (shownAs n flag) (rowOf port flag n.masterId slots) := by
  have haddress : AddressColumn n.host.toList n.port (addressOfPort port) := by
    rw [hhost, hport]
    exact addressColumn_ofPort port
  exact ⟨_, .mk hid rfl haddress (.last flag.word_mem_spellings) hslots (Text.solid_toDigits 0)
    (Text.solid_toDigits 0) (Text.solid_toDigits 1), rfl⟩

end Rows

/-- The master on a port. -/
def masterNode (port : UInt16) (slots : SlotRange) : Node :=
  { Node.ofAddress host port with id := some (idOfPort port), role := some .master, slots }

theorem replicaRow_eq (master port : UInt16) :
    (replicaRow master port).toList = rowOf port .replica (some (idOfPort master)) [] := by
  unfold replicaRow rowOf
  simp [toList_leadColumns, Text.spaced, Flag.word, masterColumn, Link.word]

theorem masterRow_eq (s : Shard) :
    s.masterRow.toList = rowOf s.primary .master none
      [Nat.toDigits 10 s.first ++ '-' :: Nat.toDigits 10 s.last] := by
  unfold Shard.masterRow rowOf
  simp [toList_leadColumns, Text.spaced, Flag.word, masterColumn, Link.word]

theorem replicaRow_shows (master : UInt16) {port : UInt16} (h : port ≠ 0) :
    Shown (replicaNode master port) (replicaRow master port).toList := by
  have hmaster : ∀ id ∈ (replicaNode master port).masterId, ∃ port, id = idOfPort port := by
    rintro _ ⟨⟩
    exact ⟨master, rfl⟩
  rw [replicaRow_eq]
  exact ⟨shownAs (replicaNode master port) .replica, lineOf_rowOf rfl rfl rfl .nil,
    reportable_ofPort rfl h rfl hmaster, rfl, rfl⟩

theorem masterRow_shows {s : Shard} {slots : SlotRange} (h : s.primary ≠ 0)
    (hslots : slots.intervals = [⟨s.first, s.last⟩]) :
    Shown (masterNode s.primary slots) s.masterRow.toList := by
  have hmaster : ∀ id ∈ (masterNode s.primary slots).masterId, ∃ port, id = idOfPort port := by
    rintro _ ⟨⟩
  have hcolumns : SlotColumns slots.intervals
      [Nat.toDigits 10 s.first ++ '-' :: Nat.toDigits 10 s.last] := by
    rw [hslots]
    exact .interval .bounds .nil
  rw [masterRow_eq]
  exact ⟨shownAs (masterNode s.primary slots) .master, lineOf_rowOf rfl rfl rfl hcolumns,
    reportable_ofPort rfl h rfl hmaster, rfl, rfl⟩

/-! ## Layouts -/

/-- Every line of a shard shows the node that stands for it. -/
theorem Shard.nodes_shown {s : Shard} (h : s.Valid) :
    ∃ nodes, s.nodes = .ok nodes ∧ List.Forall₂ Shown nodes (s.lines.map String.toList) := by
  have hslots : SlotRange.ofBounds s.first s.last =
      .ok ⟨[⟨s.first, s.last⟩], Nat.zero_le _, h.ordered, h.inRange, trivial⟩ := by
    have hordered := h.ordered
    have hrange := h.inRange
    rw [SlotRange.ofBounds, SlotRange.insert, dif_neg (by omega), dif_neg (by omega)]
    rfl
  refine ⟨_, by rw [Shard.nodes, hslots], ?_⟩
  unfold Shard.lines
  rw [List.map_cons, List.map_map]
  refine .cons (masterRow_shows h.primary rfl) ?_
  rw [List.forall₂_map_left_iff, List.forall₂_map_right_iff, List.forall₂_same]
  intro port hport
  exact replicaRow_shows s.primary (h.replicas port hport)

theorem layout_shown {layout : Layout} (h : ∀ s ∈ layout, s.Valid) :
    ∃ nodes, layout.mapM Shard.nodes = .ok nodes ∧
      List.Forall₂ Shown nodes.flatten ((layout.flatMap Shard.lines).map String.toList) := by
  induction layout with
  | nil => exact ⟨[], rfl, .nil⟩
  | cons s rest ih =>
    obtain ⟨hs, hrest⟩ := List.forall_mem_cons.1 h
    obtain ⟨nodes, hnodes, hshown⟩ := Shard.nodes_shown hs
    obtain ⟨others, hothers, hshown'⟩ := ih hrest
    refine ⟨nodes :: others, ?_, ?_⟩
    · rw [List.mapM_cons, hnodes, hothers]
      rfl
    · rw [List.flatten_cons, List.flatMap_cons, List.map_append]
      exact List.rel_append hshown hshown'

/-- The lines of a layout, each ended by a line feed. -/
theorem page_lines (lines : List String) :
    Text.Page (lines.map String.toList) (Text.join "\n" lines ++ "\n").toList := by
  induction lines with
  | nil =>
    exact .blank (List.forall_mem_nil _) List.not_mem_nil
      (.rest (List.forall_mem_nil _) List.not_mem_nil)
  | cons line rest ih =>
    cases rest with
    | nil =>
      rw [Text.join, String.toList_append]
      exact .ended line.toList (.rest (List.forall_mem_nil _) List.not_mem_nil)
    | cons next rest =>
      have hjoin : Text.join "\n" (line :: next :: rest) =
          line ++ "\n" ++ Text.join "\n" (next :: rest) := rfl
      rw [hjoin, String.append_assoc, String.append_assoc, String.toList_append,
        String.toList_append]
      exact .ended line.toList ih

/-- Lines that show nodes describe nodes that are alike but for flags and link states. -/
theorem exists_lineOf {nodes : List Node} {lines : List (List Char)}
    (h : List.Forall₂ Shown nodes lines) :
    ∃ described, List.Forall₂ LineOf described lines ∧ (∀ m ∈ described, m.Reportable) ∧
      (∀ m ∈ described, m.isActive = true) ∧
      (described.map Node.asReported).map Node.bare = nodes := by
  induction h with
  | nil => exact ⟨[], .nil, List.forall_mem_nil _, List.forall_mem_nil _, rfl⟩
  | cons hshown _ ih =>
    obtain ⟨m, hline, hreportable, hactive, hbare⟩ := hshown
    obtain ⟨described, hlines, hreportable', hactive', hbare'⟩ := ih
    refine ⟨m :: described, .cons hline hlines, List.forall_mem_cons.2 ⟨hreportable, hreportable'⟩,
      List.forall_mem_cons.2 ⟨hactive, hactive'⟩, ?_⟩
    rw [List.map_cons, List.map_cons, hbare, hbare']

/-- The topology that is read from the report of a layout, whoever makes it, and the topology that
is built from the layout answer alike. -/
theorem layout_report_answers (answeringHost : String) {layout : Layout}
    (h : ∀ s ∈ layout, s.Valid) :
    ∃ nodes t, readReport answeringHost (nodesReport layout) = .ok nodes ∧
      layoutTopology layout = .ok t ∧ (Topology.ofNodes nodes).SameAnswers t := by
  obtain ⟨nodes, hnodes, hshown⟩ := layout_shown h
  obtain ⟨described, hlines, hreportable, hactive, hbare⟩ := exists_lineOf hshown
  have hread : readReport answeringHost (nodesReport layout) =
      .ok (described.map Node.asReported) := by
    rw [readReport, nodesReport,
      Text.trimmedLines_page (page_lines _) (clean_lines hlines hreportable)]
    exact readLines_written hlines hreportable answeringHost
  have hbuilt : layoutTopology layout = .ok (Topology.ofNodes nodes.flatten) := by
    rw [layoutTopology, hnodes]
  refine ⟨_, _, hread, hbuilt, Topology.sameAnswers_ofNodes ?_ ?_ ?_⟩
  · -- nodes that are built have no flags and no link state
    rw [← hbare]
    simp only [List.map_map]
    rfl
  · exact List.forall_mem_map.2 hactive
  · rw [← hbare, List.map_map]
    exact List.forall_mem_map.2 fun _ _ => rfl

/-- Two masters on one port with slots in common, and a replica of both. -/
def entangled : Layout := [⟨7000, [7003, 7000], 0, 100⟩, ⟨7000, [7003], 50, 200⟩]

theorem layout_report_answers_entangled :
    ∃ nodes t, readReport "10.0.0.9" (nodesReport entangled) = .ok nodes ∧
      layoutTopology entangled = .ok t ∧ (Topology.ofNodes nodes).SameAnswers t := by
  have hfirst : Shard.Valid ⟨7000, [7003, 7000], 0, 100⟩ :=
    ⟨by decide, by simp, by decide, by decide⟩
  have hsecond : Shard.Valid ⟨7000, [7003], 50, 200⟩ := ⟨by decide, by simp, by decide, by decide⟩
  exact layout_report_answers "10.0.0.9"
    (List.forall_mem_cons.2 ⟨hfirst, List.forall_mem_singleton.2 hsecond⟩)

end SlotRouter.Scripted
