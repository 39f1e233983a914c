import SlotRouter.Proofs.Router.TaskResults
import SlotRouter.Proofs.Topology.Lookup
import SlotRouter.Proofs.Topology.SlotOwner
import SlotRouter.Router.Administration
import SlotRouter.Router.Keys

/-!
# The master of a slot and where commands go

* `masterOfSlot_apply`, `onKey_apply`, `onSlotOf_apply`, `onEachKey_apply`, `askNode_apply` : what
  one look at the topology decides for each call; `run_of_span` : calls that take keys one by one;
* `SlotMasters`, `slot_masters` : how the master that callers are told relates to the nodes that
  commands go to;
* `Shared` : masters that list the same slots are told apart (`not_same_master_shared`).
-/

namespace SlotRouter

variable {σ α β : Type} {r : Router σ} {t : Topology} {w w' : World σ}

/-! ## The first look -/

theorem topology_of_fixed (h : r.source = .fixed t) (w : World σ) : r.topology w = (.ok t, w) := by
  rw [Router.topology, Router.snapshot, h]
  rfl

theorem masterOfSlot_apply (hw : r.topology w = (.ok t, w')) {slot : Nat} (h : slot < slotCount) :
    r.masterOfSlot slot w = (match t.listedMaster? slot with
      | some n => .ok n
      | none => .error (.failed (.cause (.slotWithoutMaster slot))), w') := by
  have hslot : requireSlot slot = .ok () := by rw [requireSlot, if_pos h]
  rw [Router.masterOfSlot, Run.bind_ofExcept_ok hslot, Run.bind_of_ok hw, Topology.listedMaster?]
  cases (t.servingNodes slot).find? (·.isMaster) <;> rfl

theorem masterOfSlot_ok_iff (hw : r.topology w = (.ok t, w')) {slot : Nat} (h : slot < slotCount)
    {n : Node} : r.masterOfSlot slot w = (.ok n, w') ↔ t.listedMaster? slot = some n := by
  rw [masterOfSlot_apply hw h]
  cases t.listedMaster? slot <;> simp

theorem masterForKey_of_owner {key : Bytes} {n : Node}
    (h : t.masterForSlot (keySlot key) = some n) : t.masterForKey key = .ok n := by
  rw [Topology.masterForKey, h]

theorem onKey_apply (hw : r.topology w = (.ok t, w')) {key : Bytes} {n : Node}
    (h : t.masterForSlot (keySlot key) = some n) (x : Exchange α) :
    r.onKey x key w = r.hold x n w' := by
  rw [Router.onKey, Run.bind_of_ok hw, Run.bind_ofExcept_ok (masterForKey_of_owner h)]

theorem commonSlot_of_mem {keys : List Bytes} (h : SameSlot keys) {key : Bytes}
    (hkey : key ∈ keys) : commonSlot keys = .ok (keySlot key) := by
  cases keys with
  | nil => cases hkey
  | cons first rest =>
    rw [commonSlot, if_pos h]
    rcases List.mem_cons.1 hkey with rfl | hrest
    · rfl
    · rw [h key hrest]

theorem onSlotOf_apply (hw : r.topology w = (.ok t, w')) {keys : List Bytes} {slot : Nat}
    (hslot : commonSlot keys = .ok slot) {n : Node} (h : t.masterForSlot slot = some n)
    (x : Exchange α) : r.onSlotOf x keys w = r.hold x n w' := by
  rw [Router.onSlotOf, Run.bind_ofExcept_ok hslot, Run.bind_of_ok hw, h]

theorem refuseNoKeys_ok {keys : List Bytes} (hne : keys ≠ []) : refuseNoKeys keys = .ok () := by
  unfold refuseNoKeys
  rw [if_neg]
  simpa using hne

/-- A call whose keys do not share a slot takes them one by one. -/
theorem run_of_span {keys : List Bytes} (hspan : ¬ SameSlot keys)
    (together apart : Run σ ClusterError β) (w : World σ) :
    (Run.ofExcept (refuseNoKeys keys) >>= fun _ => if SameSlot keys then together else apart) w =
      apart w := by
  have hne : keys ≠ [] := by
    rintro rfl
    exact hspan trivial
  rw [Run.bind_ofExcept_ok (refuseNoKeys_ok hne), if_neg hspan]

/-- The tasks for keys whose masters are known. -/
def tasksForKeys (x : Bytes → Exchange α) (node : Bytes → Node) (keys : List Bytes) :
    List (Task α) :=
  keys.zipIdx.map fun entry => ⟨node entry.1, some ⟨entry.2, entry.1⟩, x entry.1⟩

theorem onEachKey_apply (hw : r.topology w = (.ok t, w')) {keys : List Bytes} {node : Bytes → Node}
    (h : ∀ key ∈ keys, t.masterForSlot (keySlot key) = some (node key)) (x : Bytes → Exchange α) :
    r.onEachKey x keys w = r.fanOut (tasksForKeys x node keys) w' := by
  have htasks :
      mapUntilError (Router.taskForKey t x) keys.zipIdx = .ok (tasksForKeys x node keys) := by
    refine mapUntilError_of_forall fun entry hentry => ?_
    have hkey := h entry.1 (List.fst_mem_of_mem_zipIdx hentry)
    rw [Router.taskForKey, masterForKey_of_owner hkey]
    rfl
  rw [Router.onEachKey, Run.bind_of_ok hw, Run.bind_ofExcept_ok htasks]

/-! ## The second look -/

/-- What a call with a node asks the node that the topology takes it for. -/
theorem askNode_apply (hw : r.topology w = (.ok t, w')) {n m : Node} (h : t.resolve n = .ok m)
    (x : Exchange α) : r.askNode x n w = r.hold x m w' := by
  have hnode : r.onNode x n w =
      (r.hold x m >>= fun value => pure ⟨m, none, .ok value⟩) w' := by
    rw [Router.onNode, Run.bind_of_ok hw, Run.bind_ofExcept_ok h]
  rw [Router.askNode]
  rcases hh : r.hold x m w' with ⟨s | a, v⟩
  · rw [Run.bind_of_error hh] at hnode
    rw [Run.bind_of_error hnode]
  · rw [Run.bind_of_ok hh] at hnode
    rw [Run.bind_of_ok hnode]
    rfl

/-! ## Both ways -/

/-- How the master that callers are told relates to the nodes that commands go to, when a look at
the topology in `w` gives `t`. -/
structure SlotMasters (r : Router σ) (t : Topology) (w w' : World σ) : Prop where
  /-- Callers are told the first master of the report that lists the slot. -/
  told : ∀ {slot n}, slot < slotCount →
    (r.masterOfSlot slot w = (.ok n, w') ↔ t.listedMaster? slot = some n)
  /-- The owner lists the slot too, so they are told some master if there is an owner. -/
  told_of_owner : ∀ {slot n}, slot < slotCount → t.masterForSlot slot = some n →
    n ∈ t.masters ∧ n.serves slot ∧ ∃ m, r.masterOfSlot slot w = (.ok m, w')
  /-- It is the owner, or there is neither, exactly if the first master that lists the slot owns the
  first slot of its interval. -/
  agreesAt_iff : ∀ {slot}, t.AgreesAt slot ↔ ∀ n, t.listedMaster? slot = some n →
    ∃ i ∈ n.slots.intervals, i.Has slot ∧ t.masterForSlot i.first = some n
  /-- So it is for every slot if no slot is listed by two masters. -/
  agreesAt_of_unshared : t.Unshared → ∀ slot, t.AgreesAt slot
  told_iff_owner : ∀ {slot}, slot < slotCount → t.AgreesAt slot → ∀ n,
    (r.masterOfSlot slot w = (.ok n, w') ↔ t.masterForSlot slot = some n)
  onKey : ∀ {key n}, t.AgreesAt (keySlot key) → r.masterOfKey key w = (.ok n, w') →
    ∀ {α} (x : Exchange α), r.onKey x key w = r.hold x n w'
  onSlotOf : ∀ {keys key n}, SameSlot keys → key ∈ keys → t.AgreesAt (keySlot key) →
    r.masterOfKey key w = (.ok n, w') →
    ∀ {α} (x : Exchange α), r.onSlotOf x keys w = r.hold x n w'
  onEachKey : ∀ {keys} {node : Bytes → Node}, (∀ key ∈ keys, t.AgreesAt (keySlot key)) →
    (∀ key ∈ keys, r.masterOfKey key w = (.ok (node key), w')) →
    ∀ {α} (x : Bytes → Exchange α), r.onEachKey x keys w = r.fanOut (tasksForKeys x node keys) w'
  /-- What is in a slot is asked of the master that callers are told, or of its namesake. -/
  inSlot : ∀ {slot n v}, slot < slotCount → r.masterOfSlot slot w = (.ok n, w') →
    r.topology w' = (.ok t, v) →
    r.countKeysInSlot slot w = r.hold
      (.query (.ofWords ["CLUSTER", "COUNTKEYSINSLOT", toString slot]) Decode.count)
      (t.namesake n) v ∧
    ∀ count {α} (decode : Decoder α), r.keysInSlot slot count decode w = r.hold
      (.query (.ofWords ["CLUSTER", "GETKEYSINSLOT", toString slot, toString count])
        (Decode.list decode)) (t.namesake n) v
  namesake : ∀ {n}, (∀ m ∈ t.nodes, m.id = n.id → m = n) → t.namesake n = n

theorem told_iff_owner (hw : r.topology w = (.ok t, w')) {slot : Nat} (h : slot < slotCount)
    (hagrees : t.AgreesAt slot) (n : Node) :
    r.masterOfSlot slot w = (.ok n, w') ↔ t.masterForSlot slot = some n := by
  rw [masterOfSlot_ok_iff hw h, hagrees]

theorem owner_of_masterOfKey (hw : r.topology w = (.ok t, w')) {key : Bytes} {n : Node}
    (hagrees : t.AgreesAt (keySlot key)) (h : r.masterOfKey key w = (.ok n, w')) :
    t.masterForSlot (keySlot key) = some n := (told_iff_owner hw (keySlot_lt key) hagrees n).1 h

/-- One look at the topology settles where callers are told that a slot is served, and where
commands on its keys go. -/
theorem slot_masters (hw : r.topology w = (.ok t, w')) : SlotMasters r t w w' where
  told := fun hslot => masterOfSlot_ok_iff hw hslot
  told_of_owner := by
    intro slot n hslot h
    obtain ⟨hmaster, hserves⟩ := Topology.owner_lists h
    obtain ⟨m, hm⟩ := Option.isSome_iff_exists.1 (Topology.isSome_listedMaster? hmaster hserves)
    exact ⟨hmaster, hserves, m, (masterOfSlot_ok_iff hw hslot).2 hm⟩
  agreesAt_iff := Topology.agreesAt_iff
  agreesAt_of_unshared := Topology.agreesAt_of_unshared
  told_iff_owner := told_iff_owner hw
  onKey := by
    intro key n hagrees h α x
    exact onKey_apply hw (owner_of_masterOfKey hw hagrees h) x
  onSlotOf := by
    intro keys key n hsame hkey hagrees h α x
    exact onSlotOf_apply hw (commonSlot_of_mem hsame hkey) (owner_of_masterOfKey hw hagrees h) x
  onEachKey := by
    intro keys node hagrees h α x
    exact onEachKey_apply hw
      (fun key hkey => owner_of_masterOfKey hw (hagrees key hkey) (h key hkey)) x
  inSlot := by
    intro slot n v hslot h hv
    obtain ⟨hmaster, -⟩ := Topology.listedMaster?_mem ((masterOfSlot_ok_iff hw hslot).1 h)
    have hresolve := resolve_of_mem (Topology.mem_masters.1 hmaster).1
    constructor
    · rw [Router.countKeysInSlot, Run.bind_of_ok h, askNode_apply hv hresolve]
    · intro count α decode
      rw [Router.keysInSlot, Run.bind_of_ok h, askNode_apply hv hresolve]
  namesake := namesake_eq

/-! ## Masters that list the same slots -/

namespace Shared

def master (port : UInt16) (id : String) (slots : SlotRange) : Node where
  host := "10.0.0.1"
  port := port
  id := some id
  role := some .master
  slots := slots

def first : Node := master 1 "a" ⟨[⟨0, 100⟩], by decide, by decide, by decide, trivial⟩

/-- Half of its slots are listed by the first one. -/
def second : Node := master 2 "b" ⟨[⟨50, 200⟩], by decide, by decide, by decide, trivial⟩

/-- Some of its slots are listed by the second one, and its id by the first one. -/
def third : Node := master 3 "a" ⟨[⟨101, 300⟩], by decide, by decide, by decide, trivial⟩

def topology : Topology := .ofNodes [first, second, third]

def router : Router Unit where
  source := .fixed topology
  network := ⟨fun _ => .ok (), fun _ _ _ => (.hang, ())⟩

def start : World Unit := { nodes := () }

theorem topology_start : router.topology start = (.ok topology, start) := rfl

theorem claims_slotTable :
    topology.slotTable.claims = [(⟨0, 100⟩, first), (⟨101, 300⟩, third)] := by
  have hclaims :
      topology.claims = [(⟨0, 100⟩, first), (⟨50, 200⟩, second), (⟨101, 300⟩, third)] := by
    decide +kernel
  have hsorted : topology.claims.Pairwise fun a b => a.1.before b.1 := by
    rw [hclaims]
    decide +kernel
  rw [Topology.slotTable, SlotTable.ofClaims, List.mergeSort_of_pairwise hsorted, hclaims]
  decide +kernel

end Shared

theorem slot_masters_shared : SlotMasters Shared.router Shared.topology Shared.start Shared.start :=
  slot_masters Shared.topology_start

/-- The second master is dropped from the table, so slot 150 is owned by the third one; but callers
are told the second one. What is in slot 250, which only the third one lists, is asked of the first
one. -/
theorem not_same_master_shared :
    Shared.topology.masterForSlot 150 = some Shared.third ∧
    Shared.router.masterOfSlot 150 Shared.start = (.ok Shared.second, Shared.start) ∧
    Shared.second ≠ Shared.third ∧
    Shared.router.masterOfSlot 250 Shared.start = (.ok Shared.third, Shared.start) ∧
    Shared.router.countKeysInSlot 250 Shared.start = Shared.router.hold
      (.query (.ofWords ["CLUSTER", "COUNTKEYSINSLOT", "250"]) Decode.count) Shared.first
      Shared.start ∧
    Shared.first ≠ Shared.third := by
  have htold : Shared.router.masterOfSlot 250 Shared.start = (.ok Shared.third, Shared.start) :=
    (masterOfSlot_ok_iff Shared.topology_start (by decide)).2 (by decide +kernel)
  have hnamesake : Shared.topology.namesake Shared.third = Shared.first := by decide +kernel
  have hresolve := resolve_of_mem (t := Shared.topology) (n := Shared.third) (by decide +kernel)
  rw [hnamesake] at hresolve
  refine ⟨?_, ?_, by decide +kernel, htold, ?_, by decide +kernel⟩
  · rw [Topology.masterForSlot, SlotTable.owner?, Shared.claims_slotTable]
    decide +kernel
  · exact (masterOfSlot_ok_iff Shared.topology_start (by decide)).2 (by decide +kernel)
  · rw [Router.countKeysInSlot, Run.bind_of_ok htold, askNode_apply Shared.topology_start hresolve]
    rfl

end SlotRouter
