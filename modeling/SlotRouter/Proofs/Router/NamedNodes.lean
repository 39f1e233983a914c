import SlotRouter.Proofs.Router.SameSlot
import SlotRouter.Proofs.Router.TargetResolution
import SlotRouter.Proofs.Topology.Descriptors

/-!
# Commands that carry the id of a node

* `OnlyReceives` : which commands nodes received, apart from requests for reports, while a command
  was held with one node or with several (`hold_sends`, `onNodes_sends`);
* `NamingCall` : the calls that send the id of a node which the caller describes;
* `Topology.Names` : a command carries the id of the node that the descriptor means, which is not
  the id of the descriptor exactly if the node is mistaken;
* `descriptor_identity` : which nodes descriptors mean, and which ids are sent for them;
* `Stale` : a descriptor with the id of a node that is gone, and the address of another one
  (`not_always_same_node`).
-/

namespace SlotRouter
open Relation (ReflTransGen)

variable {σ α : Type} {r : Router σ} {p : Command → Prop}

/-! ## What nodes receive -/

/-- Apart from requests for reports, nodes received only such commands. -/
def OnlyReceives (p : Command → Prop) (w w' : World σ) : Prop :=
  ∃ commands, ReceivedSince w w' commands ∧ ∀ receipt ∈ commands, p receipt.2

theorem OnlyAsks.onlyReceives {w w' : World σ} (h : OnlyAsks w w') : OnlyReceives p w w' :=
  ⟨[], h.receivedSince, List.forall_mem_nil _⟩

theorem OnlyReceives.trans {u v w : World σ} (h : OnlyReceives p u v) (h' : OnlyReceives p v w) :
    OnlyReceives p u w := by
  obtain ⟨commands, hreceived, hall⟩ := h
  obtain ⟨commands', hreceived', hall'⟩ := h'
  exact ⟨commands ++ commands', hreceived.trans hreceived', List.forall_mem_append.2 ⟨hall, hall'⟩⟩

theorem OnlyReceives.mono {q : Command → Prop} {w w' : World σ} (hpq : ∀ c, p c → q c)
    (h : OnlyReceives p w w') : OnlyReceives q w w' := by
  obtain ⟨commands, hreceived, hall⟩ := h
  exact ⟨commands, hreceived, fun receipt hreceipt => hpq _ (hall receipt hreceipt)⟩

theorem onlyReceives_of_takes {m : Run σ ClusterError α} (h : m.Takes (OnlyReceives p))
    (w : World σ) : OnlyReceives p w (m w).2 := by
  have hw := h w
  generalize (m w).2 = v at hw ⊢
  induction hw with
  | refl => exact (OnlyAsks.refl w).onlyReceives
  | tail _ hlast ih => exact ih.trans hlast

theorem topology_sends (r : Router σ) : r.topology.Takes (OnlyReceives p) :=
  fun w => .single (topology_onlyAsks r w).onlyReceives

theorem Hop.Sends.mem {command c : Command} {hop : Hop σ α} (h : hop.Sends command)
    (hc : c ∈ hop.commands) : c = command ∨ c = Exchange.askingCommand := by
  unfold Hop.Sends at h
  split at h
  · rcases h with h | h <;> rw [h] at hc
    · exact .inr (List.mem_singleton.1 hc)
    · exact (List.mem_pair.1 hc).symm
  · rw [h] at hc
    exact .inl (List.mem_singleton.1 hc)

section Sends

variable {command : Command} (hcommand : command ≠ nodesCommand)
  (hp : ∀ c, c = command ∨ c = Exchange.askingCommand → p c)

include hcommand hp

theorem hold_sends (r : Router σ) (decode : Decoder α) (node : Node) :
    (r.hold (.query command decode) node).Takes (OnlyReceives p) := by
  intro w
  obtain ⟨hops, hdelivery⟩ := hold_delivery hcommand decode r node w
  refine .single ⟨_, hdelivery.received, fun receipt hreceipt => hp _ ?_⟩
  obtain ⟨hop, hhop, hreceipt⟩ := List.mem_flatMap.1 hreceipt
  obtain ⟨c, hc, rfl⟩ := List.mem_map.1 hreceipt
  exact (hdelivery.each hop hhop).mem hc

theorem askNode_sends (r : Router σ) (decode : Decoder α) (node : Node) :
    (r.askNode (.query command decode) node).Takes (OnlyReceives p) :=
  ((topology_sends r).bind fun _ => (Run.Takes.ofExcept _).bind fun _ =>
    (hold_sends hcommand hp r decode _).bind fun _ => .value _).bind fun _ => .ofExcept _

theorem after_sends (r : Router σ) (decode : Decoder α) {tasks : List (Task α)}
    (htasks : ∀ task ∈ tasks, task.exchange = .query command decode) (w : World σ) :
    OnlyReceives p w (r.after tasks w) := by
  induction tasks generalizing w with
  | nil => exact (OnlyAsks.refl w).onlyReceives
  | cons task rest ih =>
    obtain ⟨htask, hrest⟩ := List.forall_mem_cons.1 htasks
    rw [Router.after_cons, htask]
    exact (onlyReceives_of_takes (hold_sends hcommand hp r decode task.node) w).trans (ih hrest _)

theorem onNodes_sends (r : Router σ) (decode : Decoder α) (nodes : List Node) :
    (r.onNodes (.query command decode) nodes).Takes (OnlyReceives p) := by
  intro w
  refine .single ?_
  have hspreads := onNodes_spreads r (.query command decode) nodes w
  generalize r.onNodes (.query command decode) nodes w = result at hspreads
  cases hspreads with
  | blind _ hasks => exact hasks.onlyReceives
  | refused _ hasks _ _ _ => exact hasks.onlyReceives
  | @sent t v tasks begun _ _ hasks hfound hbegun =>
    have htasks : ∀ task ∈ begun, task.exchange = .query command decode := by
      intro task htask
      have hmem := List.mem_map_of_mem (f := (·.exchange)) (hbegun.first.subset htask)
      rw [← hfound.exchanges] at hmem
      obtain ⟨-, -, hexchange⟩ := List.mem_map.1 hmem
      exact hexchange.symm
    rw [hbegun.after]
    exact hasks.onlyReceives.trans (after_sends hcommand hp r decode htasks v)

end Sends

/-- What comes after a result may depend on where it comes from. -/
theorem Run.Takes.of_ok {β ε : Type} {R : World σ → World σ → Prop} {x : Except ε α}
    {f : α → Run σ ε β} (h : ∀ a, x = .ok a → (f a).Takes R) :
    Run.Takes R (.ofExcept x >>= f) := by
  intro w
  cases hx : x with
  | error e => exact .refl
  | ok a => exact h a hx w

/-! ## Ids in commands -/

/-- The calls that send the id of a node: the node as the caller describes it, and the words before
the id. -/
inductive NamingCall : Operation Unit → Node → List String → Prop
  | forget (n) : NamingCall (.forget n) n ["CLUSTER", "FORGET"]
  | replicate (n replica) : NamingCall (.replicate n replica) n ["CLUSTER", "REPLICATE"]
  | setSlot {n state} (node slot) : state.other? = some n →
      NamingCall (.setSlot node slot state) n ["CLUSTER", "SETSLOT", toString slot, state.word]

/-- Words, and then an id. -/
def idCommand (words : List String) (id : String) : Command := .ofWords (words ++ [id])

/-- The command opens a slot on the move, or it carries the id of the node that the descriptor
means. -/
def Topology.Names (t : Topology) (n : Node) (words : List String) (c : Command) : Prop :=
  c = Exchange.askingCommand ∨
    ∃ m id, t.lookup n = .ok m ∧ m.id = some id ∧ c = idCommand words id

/-- The same with the topology that a call looks at when it begins. -/
def Router.Names (r : Router σ) (w : World σ) (n : Node) (words : List String) (c : Command) :
    Prop :=
  ∃ t v, r.topology w = (.ok t, v) ∧ t.Names n words c

section Naming

variable {n : Node} {words : List String} {id : String}

theorem idCommand_ne (hwords : 2 ≤ words.length) : idCommand words id ≠ nodesCommand := by
  intro heq
  have hlength := congrArg (fun c : Command => c.args.length) heq
  simp [idCommand, Command.ofWords, nodesCommand] at hlength
  omega

theorem names_of_topology {t : Topology} {m : Node} (hm : t.lookup n = .ok m)
    (hid : m.id = some id) (c : Command)
    (hc : c = idCommand words id ∨ c = Exchange.askingCommand) : t.Names n words c :=
  hc.symm.imp_right fun hc => ⟨m, id, hm, hid, hc⟩

/-- What is sent after the topology was looked at may depend on it. -/
theorem names_of_rest {rest : Topology → Run σ ClusterError Unit}
    (h : ∀ t, (rest t).Takes (OnlyReceives (t.Names n words))) (w : World σ) :
    OnlyReceives (r.Names w n words) w ((r.topology >>= rest) w).2 := by
  have hasks := topology_onlyAsks r w
  rcases hw : r.topology w with ⟨s | t, v⟩ <;> rw [hw] at hasks
  · rw [Run.bind_of_error hw]
    exact hasks.onlyReceives
  · rw [Run.bind_of_ok hw]
    exact hasks.onlyReceives.trans
      ((onlyReceives_of_takes (h t) v).mono fun c hc => ⟨t, v, hw, hc⟩)

theorem otherId_ok {t : Topology} {state : SlotState} (hother : state.other? = some n)
    {found : Option String} (h : state.otherId t = .ok found) :
    ∃ id, found = some id ∧ t.idOf n = .ok id := by
  rw [SlotState.otherId, hother] at h
  dsimp only at h
  cases hid : t.idOf n with
  | error e =>
    rw [hid] at h
    cases h
  | ok id =>
    rw [hid] at h
    exact ⟨id, (Except.ok.inj h).symm, rfl⟩

theorem setSlot_sends {state : SlotState} (hother : state.other? = some n) (r : Router σ)
    (node : Node) (slot : Nat) (w : World σ) :
    OnlyReceives (r.Names w n ["CLUSTER", "SETSLOT", toString slot, state.word]) w
      (r.setSlot node slot state w).2 := by
  rw [Router.setSlot]
  cases hslot : requireSlot slot with
  | error e => exact (OnlyAsks.refl w).onlyReceives
  | ok done =>
    refine names_of_rest (fun t => .of_ok fun found hfound => ?_) w
    obtain ⟨id, rfl, hid⟩ := otherId_ok hother hfound
    obtain ⟨m, hlookup, hnamed⟩ := Topology.idOf_ok hid
    have hne : idCommand ["CLUSTER", "SETSLOT", toString slot, state.word] id ≠ nodesCommand :=
      idCommand_ne (by simp)
    exact askNode_sends hne (names_of_topology hlookup hnamed) r Decode.unit node

theorem NamingCall.sends {op : Operation Unit} (h : NamingCall op n words) (r : Router σ)
    (w : World σ) : OnlyReceives (r.Names w n words) w (op.run r w).2 := by
  cases h with
  | forget n =>
    refine names_of_rest (fun t => .of_ok fun forgotten hforgotten => .of_ok fun id hid => ?_) w
    have hlookup := Topology.lookup_of_resolve hforgotten
    have hnamed := Topology.id_of_idOf_mem (Topology.lookup_cases hlookup).1 hid
    have hne : idCommand ["CLUSTER", "FORGET"] id ≠ nodesCommand := idCommand_ne (by decide)
    exact (onNodes_sends hne (names_of_topology hlookup hnamed) r Decode.unit _).bind fun m =>
      (Run.Takes.ofExcept m.values).bind fun _ => .value ()
  | replicate n replica =>
    refine names_of_rest (fun t => .of_ok fun id hid => ?_) w
    obtain ⟨m, hlookup, hnamed⟩ := Topology.idOf_ok hid
    have hne : idCommand ["CLUSTER", "REPLICATE"] id ≠ nodesCommand := idCommand_ne (by decide)
    exact askNode_sends hne (names_of_topology hlookup hnamed) r Decode.unit replica
  | setSlot node slot hother => exact setSlot_sends hother r node slot w

end Naming

/-- A descriptor that means a node is the same node as it, unless it is mistaken. A call that sends
the id of a node which the caller describes looks at the topology first; the ids that it sends
afterwards, whatever nodes answer, are the id of the node that the descriptor means there. This is
the id of the descriptor, if it has one, unless the node is mistaken. -/
theorem descriptor_identity :
    (∀ (t : Topology) (n m : Node),
      t.Mistakes n m ↔ t.lookup n = .ok m ∧ n.isSameNode m = false) ∧
    (∀ (t : Topology) (n m : Node) (given id : String), t.lookup n = .ok m → n.id = some given →
      m.id = some id → (given = id ↔ ¬ t.Mistakes n m)) ∧
    ∀ (op : Operation Unit) (n : Node) (words : List String), NamingCall op n words →
      ∀ (r : Router σ) (w : World σ), OnlyReceives (r.Names w n words) w (op.run r w).2 :=
  ⟨fun _ _ _ => Topology.mistakes_iff, fun _ _ _ _ _ => Topology.id_eq_iff,
    fun _ _ _ h r w => h.sends r w⟩

namespace Stale

def first : Node where
  host := "10.0.0.1"
  port := 7000
  id := some "a"
  role := some .master

def second : Node where
  host := "10.0.0.2"
  port := 7001
  id := some "b"
  role := some .master

/-- It was known by another id when the second node was not there yet. -/
def gone : Node := { second with id := some "x" }

def topology : Topology := .ofNodes [first, second]

/-- Every node accepts every command. -/
def router : Router Unit where
  source := .fixed topology
  network := ⟨fun _ => .ok (), fun _ _ _ => (.reply (.ok .okay), ())⟩

def start : World Unit := { nodes := () }

theorem lookup_gone : topology.lookup gone = .ok second := by rfl

end Stale

/-- The first node is told to forget the second one, since that has the address of the node that is
gone. -/
theorem descriptor_identity_stale :
    Stale.topology.Mistakes Stale.gone Stale.second ∧
    OnlyReceives (Stale.router.Names Stale.start Stale.gone ["CLUSTER", "FORGET"]) Stale.start
      ((Operation.forget Stale.gone).run Stale.router Stale.start).2 ∧
    receipts ((Operation.forget Stale.gone).run Stale.router Stale.start).2.events =
      [(Stale.first, idCommand ["CLUSTER", "FORGET"] "b")] := by
  obtain ⟨hmistakes, -, hsends⟩ := @descriptor_identity Unit
  refine ⟨(hmistakes _ _ _).2 ⟨Stale.lookup_gone, by decide +kernel⟩, ?_, by decide +kernel⟩
  exact hsends _ _ _ (.forget Stale.gone) Stale.router Stale.start

theorem not_always_same_node :
    ¬ ∀ (t : Topology) (n m : Node), t.lookup n = .ok m → n.isSameNode m = true := by
  intro h
  have hsame := h Stale.topology Stale.gone Stale.second Stale.lookup_gone
  have hdiffers : Stale.gone.isSameNode Stale.second = false := by decide +kernel
  rw [hdiffers] at hsame
  exact Bool.false_ne_true hsame

end SlotRouter
