import SlotRouter.Proofs.Router.RedirectChain
import SlotRouter.Proofs.Router.SlotMasters
import SlotRouter.Proofs.Router.UsageErrors

/-!
# Commands whose keys have to share a slot

* `ReceivedSince` : which commands nodes received since some time, apart from requests for reports;
* `receivedSince_of_chain` : while redirects are followed, these are the commands of the hops;
* `SlotCall`, `slotCommand` : the calls that send one command for several keys, and the command;
* `onSlotOf_refused`, `SlotCall.refused` : keys of several slots, and no keys, are refused before
  anything happens;
* `Router.Delivery`, `Router.SlotRun` : what becomes of a call whose keys share a slot;
* `same_slot_call` : every such call is refused or runs so.
-/

namespace SlotRouter
open Relation (ReflTransGen)

variable {σ α : Type} {r : Router σ} {w w' : World σ}

/-! ## What nodes received -/

/-- Between the two worlds nodes received these commands, and else were only asked for reports. -/
def ReceivedSince (w w' : World σ) (commands : List (Node × Command)) : Prop :=
  ∃ log, w'.events = w.events ++ log ∧
    (receipts log).filter (fun receipt => receipt.2 ≠ nodesCommand) = commands

theorem ReceivedSince.trans {u v w : World σ} {a b : List (Node × Command)}
    (h : ReceivedSince u v a) (h' : ReceivedSince v w b) : ReceivedSince u w (a ++ b) := by
  obtain ⟨log, hlog, rfl⟩ := h
  obtain ⟨log', hlog', rfl⟩ := h'
  refine ⟨log ++ log', by rw [hlog', hlog, List.append_assoc], ?_⟩
  rw [receipts_append, List.filter_append]

theorem OnlyAsks.receivedSince (h : OnlyAsks w w') : ReceivedSince w w' [] := by
  obtain ⟨log, hlog, hreports⟩ := h
  refine ⟨log, hlog, List.filter_eq_nil_iff.2 ?_⟩
  intro receipt hreceipt
  simp [hreports receipt hreceipt]

/-- Nothing but reports was asked for after these commands. -/
theorem ReceivedSince.onlyAsks {u v w : World σ} {a : List (Node × Command)}
    (h : ReceivedSince u v a) (h' : OnlyAsks v w) : ReceivedSince u w a := by
  have happend := h.trans h'.receivedSince
  rwa [List.append_nil] at happend

theorem onlyAsks_heed (node : Node) (redirect : Redirect) (w : World σ) :
    OnlyAsks w (r.heed node redirect w).2 := by
  have hrecord : OnlyAsks w (w.record (.redirected node redirect true)) :=
    .of_event (w.events_record _) rfl
  rcases heed_apply r node redirect w with h | h <;> rw [h]
  · exact hrecord
  · exact hrecord.trans (.of_event (World.events_outdate _) rfl)

theorem Router.Sees.onlyAsks {v : World σ} {result : Except (Stop ClusterError) Topology}
    (h : r.Sees v result w) : OnlyAsks v w := by
  obtain ⟨u, hsteps, hu⟩ := h
  have htopology := topology_takes r u
  rw [hu] at htopology
  exact onlyAsks_of_lookups (hsteps.trans htopology)

theorem Router.Strands.onlyAsks {redirect : Redirect} {v : World σ} {s : Stop ClusterError}
    (h : r.Strands redirect v s w) : OnlyAsks v w := by
  cases h with
  | blind hsees => exact hsees.onlyAsks
  | unknown hsees _ => exact hsees.onlyAsks
  | unreached hsees _ _ => exact hsees.onlyAsks

/-! ## Along a chain of redirects -/

/-- The commands of a hop, with the node that received them. -/
def Hop.receipts (hop : Hop σ α) : List (Node × Command) := hop.commands.map fun c => (hop.node, c)

theorem Hop.receivedSince {hop : Hop σ α} (h : nodesCommand ∉ hop.commands) :
    ReceivedSince hop.before hop.after hop.receipts := by
  refine ⟨_, hop.before.events_lease hop.node hop.commands hop.nodes, ?_⟩
  rw [receipts_bracket]
  refine List.filter_eq_self.2 ?_
  intro receipt hreceipt
  obtain ⟨command, hcommand, rfl⟩ := List.mem_map.1 hreceipt
  simp only [decide_eq_true_eq]
  rintro rfl
  exact h hcommand

theorem Router.Leads.onlyAsks {a b : Hop σ α} (h : r.Leads a b) : OnlyAsks a.after b.before := by
  obtain ⟨redirect, t, -, -, hsees, -⟩ := h
  exact (onlyAsks_heed a.node redirect a.after).trans hsees.onlyAsks

/-- From when the first hop began until the last one ended. -/
theorem receivedSince_of_led {earlier : List (Hop σ α)} {last : Hop σ α}
    (hled : (earlier ++ [last]).IsChain r.Leads)
    (hcommands : ∀ hop ∈ earlier ++ [last], nodesCommand ∉ hop.commands) :
    ∀ first ∈ (earlier ++ [last]).head?,
      ReceivedSince first.before last.after ((earlier ++ [last]).flatMap Hop.receipts) := by
  induction earlier with
  | nil =>
    intro first hfirst
    obtain rfl := Option.some.inj hfirst
    rw [List.nil_append, List.flatMap_singleton]
    exact Hop.receivedSince (hcommands last (List.mem_singleton_self last))
  | cons hop rest ih =>
    intro first hfirst
    obtain rfl : hop = first := Option.some.inj hfirst
    rw [List.cons_append] at hled hcommands ⊢
    obtain ⟨hhop, hrest⟩ := List.forall_mem_cons.1 hcommands
    obtain ⟨hnext, hled'⟩ := List.isChain_cons.1 hled
    have hne : rest ++ [last] ≠ [] := List.append_ne_nil_of_right_ne_nil _ (List.cons_ne_nil _ _)
    obtain ⟨next, hhead⟩ := Option.isSome_iff_exists.1 (List.isSome_head?.2 hne)
    have hlink : OnlyAsks hop.after next.before := (hnext next hhead).onlyAsks
    rw [List.flatMap_cons]
    exact ((Hop.receivedSince hhop).onlyAsks hlink).trans (ih hled' hrest next hhead)

/-- Until the caller gets the result, nodes received the commands of the hops and no others. -/
theorem receivedSince_of_chain {x : Exchange α} {left : Nat} {asking : Bool} {node : Node}
    {hops : List (Hop σ α)} {result : Except (Stop ClusterError) α × World σ}
    (h : RedirectChain r x left asking node w hops result)
    (hcommands : ∀ hop ∈ hops, nodesCommand ∉ hop.commands) :
    ReceivedSince w result.2 (hops.flatMap Hop.receipts) := by
  have hled := h.led
  have hfirst := h.first
  have hconcluded := h.concluded
  -- what happens after the last hop
  have hlast : ∀ earlier last, hops = earlier ++ [last] → OnlyAsks last.after result.2 →
      ReceivedSince w result.2 (hops.flatMap Hop.receipts) := by
    rintro earlier last rfl hafter
    have hne : earlier ++ [last] ≠ [] :=
      List.append_ne_nil_of_right_ne_nil _ (List.cons_ne_nil _ _)
    obtain ⟨first, hhead⟩ := Option.isSome_iff_exists.1 (List.isSome_head?.2 hne)
    obtain ⟨-, -, hbefore⟩ := hfirst first hhead
    rw [← hbefore]
    exact (receivedSince_of_led hled hcommands first hhead).onlyAsks hafter
  cases hconcluded with
  | unreached _ => exact (OnlyAsks.refl w).receivedSince
  | @ended earlier last _ => exact hlast earlier last rfl (.refl _)
  | @spent earlier last redirect _ _ =>
    exact hlast earlier last rfl (.of_event (World.events_record _ _) rfl)
  | @lost earlier last redirect s w' _ _ hstrands =>
    exact hlast earlier last rfl ((onlyAsks_heed _ redirect _).trans hstrands.onlyAsks)

/-! ## Calls -/

/-- The calls that send one command for several keys: how the command is called, where its result is
stored, and its other keys. -/
inductive SlotCall : {α : Type} → Operation α → String → Option Bytes → List Bytes → Prop
  | rename (key newKey) : SlotCall (.rename key newKey) "RENAME" none [key, newKey]
  | zunionstore (target keys) :
      SlotCall (.store .sortedUnion target keys) "ZUNIONSTORE" (some target) keys
  | zinterstore (target keys) :
      SlotCall (.store .sortedIntersection target keys) "ZINTERSTORE" (some target) keys
  | sunionstore (target keys) :
      SlotCall (.store .union target keys) "SUNIONSTORE" (some target) keys
  | sinterstore (target keys) :
      SlotCall (.store .intersection target keys) "SINTERSTORE" (some target) keys
  | zdiff {β : Type} (keys) (decode : Decoder β) :
      SlotCall (.difference .sorted keys decode) "ZDIFF" none keys
  | sdiff {β : Type} (keys) (decode : Decoder β) :
      SlotCall (.difference .plain keys decode) "SDIFF" none keys

/-- The commands that want to know the number of their keys. -/
def countingCommands : List String := ["ZUNIONSTORE", "ZINTERSTORE", "ZDIFF"]

/-- A command whose first word is another one does not ask for a report. -/
theorem command_ne_nodesCommand {name : Bytes} (h : name ≠ bytesOf "CLUSTER") (args : List Bytes) :
    Command.mk (name :: args) ≠ nodesCommand := by
  intro heq
  have hargs : name :: args = nodesCommand.args := congrArg Command.args heq
  exact h (List.cons.inj hargs).1

/-- Name, target, number of the other keys if it is wanted, and the other keys. -/
def slotCommand (name : String) (target : Option Bytes) (sources : List Bytes) : Command :=
  ⟨bytesOf name :: (target.toList ++
    ((if name ∈ countingCommands then [Command.number sources.length] else []) ++ sources))⟩

section Refused

variable {keys : List Bytes}

theorem commonSlot_refused (h : keys = [] ∨ ¬ SameSlot keys) :
    ∃ e, commonSlot keys = .error e ∧ e.kind = .invalidUsage := by
  cases keys with
  | nil => exact ⟨_, rfl, rfl⟩
  | cons key rest =>
    have hspan : ¬ SameSlot (key :: rest) := h.resolve_left (List.cons_ne_nil key rest)
    exact ⟨_, by rw [commonSlot, if_neg hspan], rfl⟩

/-- Keys of several slots, and no keys, are refused before anything happens. -/
theorem onSlotOf_refused (h : keys = [] ∨ ¬ SameSlot keys) (x : Exchange α) (w : World σ) :
    ∃ e, r.onSlotOf x keys w = (.error (.failed e), w) ∧ e.kind = .invalidUsage := by
  obtain ⟨e, hslot, hkind⟩ := commonSlot_refused h
  refine ⟨e, ?_, hkind⟩
  rw [Router.onSlotOf, hslot]
  exact Run.bind_of_error rfl _

end Refused

namespace SlotCall

variable {op : Operation α} {name : String} {target : Option Bytes} {sources : List Bytes}

/-- Every such call with keys sends its command to the slot of all its keys. -/
theorem run_eq (h : SlotCall op name target sources) (hsources : sources ≠ []) (r : Router σ) :
    ∃ decode, op.run r =
      r.onSlotOf (.query (slotCommand name target sources) decode) (target.toList ++ sources) := by
  have hkeys : refuseNoKeys sources = .ok () := by
    rw [refuseNoKeys, List.isEmpty_eq_false_iff.2 hsources, if_neg Bool.false_ne_true]
  cases h with
  | rename key newKey => exact ⟨Decode.unit, rfl⟩
  | zdiff keys decode => exact ⟨decode, rfl⟩
  | sdiff keys decode => exact ⟨decode, rfl⟩
  | zunionstore target keys =>
    exact ⟨Decode.count, funext fun w => Run.bind_ofExcept_ok hkeys _ w⟩
  | zinterstore target keys =>
    exact ⟨Decode.count, funext fun w => Run.bind_ofExcept_ok hkeys _ w⟩
  | sunionstore target keys =>
    exact ⟨Decode.count, funext fun w => Run.bind_ofExcept_ok hkeys _ w⟩
  | sinterstore target keys =>
    exact ⟨Decode.count, funext fun w => Run.bind_ofExcept_ok hkeys _ w⟩

theorem refused (h : SlotCall op name target sources)
    (hkeys : sources = [] ∨ ¬ SameSlot (target.toList ++ sources)) (r : Router σ) (w : World σ) :
    ∃ e, op.run r w = (.error (.failed e), w) ∧ e.kind = .invalidUsage := by
  by_cases hsources : sources = []
  · subst hsources
    cases h with
    | zdiff keys decode => exact onSlotOf_refused (.inl rfl) _ w
    | sdiff keys decode => exact onSlotOf_refused (.inl rfl) _ w
    | zunionstore target keys => exact ⟨_, Run.bind_of_error rfl _, rfl⟩
    | zinterstore target keys => exact ⟨_, Run.bind_of_error rfl _, rfl⟩
    | sunionstore target keys => exact ⟨_, Run.bind_of_error rfl _, rfl⟩
    | sinterstore target keys => exact ⟨_, Run.bind_of_error rfl _, rfl⟩
  · obtain ⟨decode, hrun⟩ := h.run_eq hsources r
    rw [hrun]
    exact onSlotOf_refused (.inr (hkeys.resolve_left hsources)) _ w

/-- The command is none that asks for a report. -/
theorem command_ne (h : SlotCall op name target sources) :
    slotCommand name target sources ≠ nodesCommand := by
  refine command_ne_nodesCommand ?_ _
  cases h <;> decide +kernel

end SlotCall

/-! ## Where the command goes -/

/-- The hop sends this command, after an `ASKING` if it is asking, unless that was refused. -/
def Hop.Sends (command : Command) (hop : Hop σ α) : Prop :=
  if hop.asking then
    hop.commands = [Exchange.askingCommand] ∨ hop.commands = [Exchange.askingCommand, command]
  else hop.commands = [command]

theorem Hop.Made.sends {net : Network σ} {command : Command} {decode : Decoder α} {hop : Hop σ α}
    (h : hop.Made net (.query command decode)) : hop.Sends command := by
  unfold Hop.Sends
  cases hasking : hop.asking with
  | false => exact (h.plain hasking).commands_of_query
  | true =>
    have htalk := h.asked hasking
    generalize hop.commands = commands, hop.outcome = outcome at htalk
    cases htalk with
    | refused _ _ => exact .inl rfl
    | panicked _ => exact .inl rfl
    | hung _ => exact .inl rfl
    | accepted _ _ hrest => exact .inr (congrArg _ hrest.commands_of_query)

theorem Hop.Sends.nodesCommand_notMem {command : Command} {hop : Hop σ α} (h : hop.Sends command)
    (hcommand : command ≠ nodesCommand) : nodesCommand ∉ hop.commands := by
  have hasking : nodesCommand ≠ Exchange.askingCommand := by decide +kernel
  unfold Hop.Sends at h
  split at h
  · rcases h with h | h <;> rw [h] <;> simp [hasking, hcommand.symm]
  · rw [h]
    simp [hcommand.symm]

/-- A command is sent to a node and to nobody else but along its redirects. -/
structure Router.Delivery (r : Router σ) (command : Command) (node : Node) (w : World σ)
    (hops : List (Hop σ α)) (result : Except (Stop ClusterError) α × World σ) : Prop where
  chain : ∃ decode, RedirectChain r (.query command decode) r.maxRedirects false node w hops result
  first : r.network.connect node = .ok () →
    ∃ hop rest, hops = hop :: rest ∧ hop.node = node ∧ hop.before = w ∧ hop.commands = [command]
  unreached : ∀ e, r.network.connect node = .error e → hops = [] ∧ result = (.error (.failed e), w)
  each : ∀ hop ∈ hops, hop.Sends command
  received : ReceivedSince w result.2 (hops.flatMap Hop.receipts)

theorem hold_delivery {command : Command} (hcommand : command ≠ nodesCommand) (decode : Decoder α)
    (r : Router σ) (node : Node) (w : World σ) :
    ∃ hops, r.Delivery command node w hops (r.hold (.query command decode) node w) := by
  rcases hconnect : r.network.connect node with e | ⟨⟩
  · -- there is no hop, and nothing is sent
    have hunreached : r.hold (.query command decode) node w = (.error (.failed e), w) :=
      follow_of_stop (tryOn_of_unconnected r hconnect _ false w) r.maxRedirects
    rw [hunreached]
    refine ⟨[], ⟨decode, .unreached r hconnect⟩, ?_, ?_, by simp, (OnlyAsks.refl w).receivedSince⟩
    · rw [hconnect]
      rintro ⟨⟩
    · rw [hconnect]
      rintro e' ⟨⟩
      exact ⟨rfl, rfl⟩
  · obtain ⟨hops, hchain⟩ := follow_chain r (.query command decode) r.maxRedirects false node w
    have hsends : ∀ hop ∈ hops, hop.Sends command := fun hop hhop => (hchain.made hop hhop).sends
    refine ⟨hops, ⟨decode, hchain⟩, ?_, ?_, hsends, ?_⟩
    · intro _
      obtain ⟨hop, rest, rfl, hnode, hasking, hbefore⟩ := hchain.first_of_connected hconnect
      have hsend := hsends hop List.mem_cons_self
      rw [Hop.Sends, hasking, if_neg Bool.false_ne_true] at hsend
      exact ⟨hop, rest, rfl, hnode, hbefore, hsend⟩
    · rw [hconnect]
      rintro e ⟨⟩
    · exact receivedSince_of_chain hchain fun hop hhop =>
        (hsends hop hhop).nodesCommand_notMem hcommand

/-- What becomes of a call that sends one command to the master of a slot. -/
inductive Router.SlotRun (r : Router σ) (slot : Nat) (command : Command) (w : World σ) :
    Except (Stop ClusterError) α × World σ → Prop
  /-- There is no topology. -/
  | blind {s v} : r.topology w = (.error s, v) → r.SlotRun slot command w (.error s, v)
  /-- No master has the slot. -/
  | unserved {t v} : r.topology w = (.ok t, v) → t.masterForSlot slot = none →
      r.SlotRun slot command w (.error (.failed (.cause (.slotWithoutMaster slot))), v)
  /-- The command goes to the master, after the topology was looked at once. -/
  | sent {t v master hops result} : r.topology w = (.ok t, v) →
      t.masterForSlot slot = some master → r.Delivery command master v hops result →
      r.SlotRun slot command w result

theorem onSlotOf_run {keys : List Bytes} {slot : Nat} {command : Command}
    (hslot : commonSlot keys = .ok slot) (hcommand : command ≠ nodesCommand) (decode : Decoder α)
    (r : Router σ) (w : World σ) :
    r.SlotRun slot command w (r.onSlotOf (.query command decode) keys w) := by
  rcases hw : r.topology w with ⟨s | t, v⟩
  · have hrun : r.onSlotOf (.query command decode) keys w = (.error s, v) := by
      rw [Router.onSlotOf, Run.bind_ofExcept_ok hslot, Run.bind_of_error hw]
    rw [hrun]
    exact .blind hw
  · cases hmaster : t.masterForSlot slot with
    | none =>
      have hrun : r.onSlotOf (.query command decode) keys w =
          (.error (.failed (.cause (.slotWithoutMaster slot))), v) := by
        rw [Router.onSlotOf, Run.bind_ofExcept_ok hslot, Run.bind_of_ok hw, hmaster]
        rfl
      rw [hrun]
      exact .unserved hw hmaster
    | some master =>
      obtain ⟨hops, hdelivery⟩ := hold_delivery hcommand decode r master v
      rw [onSlotOf_apply hw hslot hmaster]
      exact .sent hw hmaster hdelivery

/-- A call that sends one command for several keys is refused before anything happens if its keys
lie in several slots or there is none beside the target. Otherwise the topology is looked at once,
and the command goes to the master of the slot of its keys. -/
theorem same_slot_call {op : Operation α} {name : String} {target : Option Bytes}
    {sources : List Bytes} (h : SlotCall op name target sources) (r : Router σ) (w : World σ) :
    (sources = [] ∨ ¬ SameSlot (target.toList ++ sources) →
      ∃ e, op.run r w = (.error (.failed e), w) ∧ e.kind = .invalidUsage) ∧
    (sources ≠ [] → SameSlot (target.toList ++ sources) →
      ∃ slot, (∀ key ∈ target.toList ++ sources, keySlot key = slot) ∧
        r.SlotRun slot (slotCommand name target sources) w (op.run r w)) := by
  refine ⟨fun hkeys => h.refused hkeys r w, fun hsources hsame => ?_⟩
  obtain ⟨decode, hrun⟩ := h.run_eq hsources r
  obtain ⟨key, hkey⟩ := List.exists_mem_of_ne_nil sources hsources
  have hslot : ∀ other ∈ target.toList ++ sources,
      commonSlot (target.toList ++ sources) = .ok (keySlot other) :=
    fun other hother => commonSlot_of_mem hsame hother
  have hcommon := hslot key (List.mem_append_right _ hkey)
  refine ⟨keySlot key, ?_, ?_⟩
  · intro other hother
    exact Except.ok.inj ((hslot other hother).symm.trans hcommon)
  · rw [hrun]
    exact onSlotOf_run hcommon h.command_ne decode r w

namespace Tagged

def master : Node where
  host := "10.0.0.1"
  port := 7000
  role := some .master
  slots := ⟨[⟨0, 16383⟩], Ascending.whole⟩

def router : Router Unit where
  source := .fixed (.ofNodes [master])
  network := ⟨fun _ => .ok (), fun _ _ _ => (.reply (.ok (.int 3)), ())⟩

def start : World Unit := { nodes := () }

/-- Keys with one hash tag share a slot. -/
def tagged (name : String) : Bytes := bytesOf ("\x7buser\x7d:" ++ name)

def union (target : String) (keys : List String) : Operation Nat :=
  .store .sortedUnion (tagged target) (keys.map tagged)

end Tagged

theorem same_slot_call_union :
    (∃ e, (Operation.store .sortedUnion (bytesOf "foo") [bytesOf "foo", bytesOf "bar"]).run
        Tagged.router Tagged.start = (.error (.failed e), Tagged.start) ∧ e.kind = .invalidUsage) ∧
    ∃ slot, (∀ key ∈ ["all", "a", "b"].map Tagged.tagged, keySlot key = slot) ∧
      Tagged.router.SlotRun slot
        ⟨[bytesOf "ZUNIONSTORE", Tagged.tagged "all", Command.number 2, Tagged.tagged "a",
          Tagged.tagged "b"]⟩
        Tagged.start ((Tagged.union "all" ["a", "b"]).run Tagged.router Tagged.start) := by
  have hspan : ¬ SameSlot [bytesOf "foo", bytesOf "foo", bytesOf "bar"] := by decide +kernel
  have hshare : SameSlot (["all", "a", "b"].map Tagged.tagged) := by decide +kernel
  constructor
  · exact (same_slot_call (.zunionstore _ _) Tagged.router Tagged.start).1 (.inr hspan)
  · exact (same_slot_call (.zunionstore _ _) Tagged.router Tagged.start).2
      (List.cons_ne_nil _ _) hshare

end SlotRouter
