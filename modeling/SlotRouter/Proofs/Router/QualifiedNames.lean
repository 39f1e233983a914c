import SlotRouter.Proofs.Info.Entries
import SlotRouter.Proofs.Router.KeyTasks
import SlotRouter.Proofs.Router.StrictCalls
import SlotRouter.Proofs.Text.Columns
import SlotRouter.Proofs.Topology.Candidates

/-!
# Names under addresses

The properties of several nodes go into one map, each name behind the address of its node. Hosts may
hold colons and dots, and names may hold dots.

* `qualifiedName`, `qualifiedName_inj` : such a name tells the address and the name in it, if that
  has no colon: the last colon stands before the port, and the first dot after it ends the port;
* `Namespaced` : a map that holds all entries of several maps under addresses, and no others
  (`namespaced_ofList`);
* `Answered` : nodes that all answer one command, with what is read of their replies
  (`runTasks_answered`, by induction on the nodes);
* `PropertiesCall`, `namespaced_call` : the calls that put the properties of all masters into one
  map lose none of them.
-/

namespace SlotRouter

variable {σ α : Type} {r : Router σ} {t : Topology} {w w' : World σ}

/-! ## Names -/

/-- A name behind the address of a node. -/
def qualifiedName (n : Node) (name : String) : String := n.address ++ "." ++ name

/-- What stands behind the host in the name of a property. -/
def portAndName (n : Node) (name : String) : List Char :=
  Nat.toDigits 10 n.port.toNat ++ '.' :: name.toList

theorem cutLast_qualifiedName (n : Node) {name : String} (h : ':' ∉ name.toList) :
    Text.cutLast ':' (qualifiedName n name).toList =
      some (n.host.toList, portAndName n name) := by
  have hchars : (qualifiedName n name).toList = n.host.toList ++ ':' :: portAndName n name := by
    unfold qualifiedName portAndName Node.address
    rw [String.toList_append, String.toList_append, toList_addressText]
    simp
  have hport : ':' ∉ Nat.toDigits 10 n.port.toNat := Text.notMem_toDigits rfl _
  have hrest : ':' ∉ portAndName n name := by simp [portAndName, hport, h]
  rw [hchars]
  exact Text.cutLast_append _ hrest

theorem cutFirst_portAndName (n : Node) (name : String) :
    Text.cutFirst '.' (portAndName n name) =
      some (Nat.toDigits 10 n.port.toNat, name.toList) :=
  Text.cutFirst_append _ (Text.notMem_toDigits rfl _)

theorem qualifiedName_inj {m n : Node} {k l : String} (hk : ':' ∉ k.toList) (hl : ':' ∉ l.toList)
    (h : qualifiedName m k = qualifiedName n l) : m.address = n.address ∧ k = l := by
  have hlast := cutLast_qualifiedName m hk
  rw [h, cutLast_qualifiedName n hl, Option.some.injEq, Prod.mk.injEq] at hlast
  obtain ⟨hhost, hrest⟩ := hlast
  have hfirst := cutFirst_portAndName m k
  rw [← hrest, cutFirst_portAndName, Option.some.injEq, Prod.mk.injEq] at hfirst
  obtain ⟨hport, hname⟩ := hfirst
  constructor
  · apply String.toList_inj.1
    unfold Node.address
    rw [toList_addressText, toList_addressText, hhost, hport]
  · exact (String.toList_inj.1 hname).symm

/-! ## One map for several nodes -/

/-- The whole map holds what the parts hold, behind the addresses of their nodes. -/
structure Namespaced (parts : List (Node × Properties)) (whole : Properties) : Prop where
  size : whole.size = total (parts.map (·.2.size))
  holds : ∀ part ∈ parts, ∀ name value, part.2.get? name = some value →
    whole.get? (qualifiedName part.1 name) = some value
  only : ∀ full value, whole.get? full = some value → ∃ part ∈ parts, ∃ name,
    part.2.get? name = some value ∧ full = qualifiedName part.1 name
  apart : ∀ a ∈ parts, ∀ b ∈ parts, ∀ k ∈ a.2.names, ∀ l ∈ b.2.names,
    qualifiedName a.1 k = qualifiedName b.1 l → a = b ∧ k = l

theorem Properties.map_fst_under (n : Node) (p : Properties) :
    (p.under n).map (·.1) = p.names.map (qualifiedName n) := by
  unfold Properties.under Properties.names
  rw [List.map_map, List.map_map]
  rfl

theorem Properties.mem_under {n : Node} {p : Properties} {entry : String × String} :
    entry ∈ p.under n ↔
      ∃ name value, (name, value) ∈ p.entries ∧ entry = (qualifiedName n name, value) := by
  unfold Properties.under
  rw [List.mem_map]
  constructor
  · rintro ⟨⟨name, value⟩, hmem, rfl⟩
    exact ⟨name, value, hmem, rfl⟩
  · rintro ⟨name, value, hmem, rfl⟩
    exact ⟨(name, value), hmem, rfl⟩

section Parts

variable {parts : List (Node × Properties)} (hnodes : DistinctAddresses (parts.map (·.1)))
  (hdistinct : ∀ part ∈ parts, part.2.Distinct) (hcolon : ∀ part ∈ parts, part.2.ColonFree)

include hnodes in
theorem part_of_address {a b : Node × Properties} (ha : a ∈ parts) (hb : b ∈ parts)
    (h : a.1.address = b.1.address) : a = b := by
  have hnodup : (parts.map (·.1.address)).Nodup := by
    have haddresses : (parts.map (·.1)).map Node.address = parts.map (·.1.address) := by
      rw [List.map_map]
      rfl
    rw [← haddresses]
    exact List.pairwise_map.2 hnodes
  exact List.inj_on_of_nodup_map hnodup ha hb h

include hcolon in
theorem qualifiedName_of_parts {a b : Node × Properties} (ha : a ∈ parts) (hb : b ∈ parts)
    {k l : String} (hk : k ∈ a.2.names) (hl : l ∈ b.2.names)
    (h : qualifiedName a.1 k = qualifiedName b.1 l) : a.1.address = b.1.address ∧ k = l :=
  qualifiedName_inj (hcolon a ha k hk) (hcolon b hb l hl) h

include hnodes hdistinct hcolon

/-- No name stands twice among the entries of all parts. -/
theorem nodup_flatMap_under :
    ((parts.flatMap fun part => part.2.under part.1).map (·.1)).Nodup := by
  have hnames : (parts.flatMap fun part => part.2.under part.1).map (·.1) =
      parts.flatMap fun part => part.2.names.map (qualifiedName part.1) := by
    rw [List.map_flatMap]
    simp only [Properties.map_fst_under]
  rw [hnames, List.nodup_flatMap]
  constructor
  · intro part hpart
    refine (hdistinct part hpart).map_on fun k hk l hl heq => ?_
    exact (qualifiedName_of_parts hcolon hpart hpart hk hl heq).2
  · refine List.Pairwise.imp_of_mem ?_ (List.pairwise_map.1 hnodes)
    intro a b ha hb hne name hname hname'
    obtain ⟨k, hk, rfl⟩ := List.mem_map.1 hname
    obtain ⟨l, hl, heq⟩ := List.mem_map.1 hname'
    exact hne (qualifiedName_of_parts hcolon ha hb hk hl heq.symm).1

theorem namespaced_ofList :
    Namespaced parts (.ofList (parts.flatMap fun part => part.2.under part.1)) := by
  have hentries := Properties.ofList_of_nodup (nodup_flatMap_under hnodes hdistinct hcolon)
  have hwhole := Properties.ofList_distinct (parts.flatMap fun part => part.2.under part.1)
  refine ⟨?_, ?_, ?_, ?_⟩
  · rw [hentries, Properties.size, length_flatMap_total]
    simp only [Properties.under, List.length_map]
    rfl
  · intro part hpart name value hvalue
    have hmem := (Properties.get?_eq_some_iff (hdistinct part hpart)).1 hvalue
    rw [Properties.get?_eq_some_iff hwhole, hentries]
    exact List.mem_flatMap.2 ⟨part, hpart, Properties.mem_under.2 ⟨name, value, hmem, rfl⟩⟩
  · intro full value hvalue
    rw [Properties.get?_eq_some_iff hwhole, hentries] at hvalue
    obtain ⟨part, hpart, hunder⟩ := List.mem_flatMap.1 hvalue
    obtain ⟨name, value', hmem, heq⟩ := Properties.mem_under.1 hunder
    obtain ⟨rfl, rfl⟩ := Prod.mk.inj heq
    exact ⟨part, hpart, name, (Properties.get?_eq_some_iff (hdistinct part hpart)).2 hmem, rfl⟩
  · intro a ha b hb k hk l hl heq
    obtain ⟨haddress, hname⟩ := qualifiedName_of_parts hcolon ha hb hk hl heq
    exact ⟨part_of_address hnodes ha hb haddress, hname⟩

end Parts

/-! ## Nodes that answer -/

/-- The nodes in turn give connections and answer the command with replies that can be read, each
in the state that the ones before it left. -/
inductive Answered (net : Network σ) (command : Command) (decode : Decoder α) :
    σ → List Node → List (Node × α) → σ → Prop
  | nil (s : σ) : Answered net command decode s [] [] s
  | cons {s node reply s' a nodes answers s''} : net.connect node = .ok () →
      net.answer s node command = (.reply (.ok reply), s') →
      Exchange.decoded decode (.ok reply) = .ok a →
      Answered net command decode s' nodes answers s'' →
      Answered net command decode s (node :: nodes) ((node, a) :: answers) s''

section Answered

variable {net : Network σ} {command : Command} {decode : Decoder α} {s s' : σ} {members : List Node}
  {answers : List (Node × α)}

theorem Answered.nodes (h : Answered net command decode s members answers s') :
    answers.map (·.1) = members := by
  induction h with
  | nil s => rfl
  | cons _ _ _ _ ih => rw [List.map_cons, ih]

theorem decode_of_decoded {reply : Reply} {a : α}
    (h : Exchange.decoded decode (.ok reply) = .ok a) : decode reply = .ok a := by
  cases hfirst : reply.firstError? with
  | some e =>
    have hraised : reply.raised = .error e.toClientError := by rw [Reply.raised, hfirst]
    rw [Exchange.decoded, hraised] at h
    cases h
  | none =>
    have hraised : reply.raised = .ok reply := by rw [Reply.raised, hfirst]
    rw [Exchange.decoded, hraised] at h
    exact h

theorem Answered.decoded (h : Answered net command decode s members answers s') :
    ∀ answer ∈ answers, ∃ reply, decode reply = .ok answer.2 := by
  induction h with
  | nil s => exact List.forall_mem_nil _
  | cons _ _ hdecoded _ ih => exact List.forall_mem_cons.2 ⟨⟨_, decode_of_decoded hdecoded⟩, ih⟩

theorem runTasks_answered (h : Answered r.network command decode s members answers s')
    (w : World σ) (hw : w.nodes = s) :
    ∃ results v, r.runTasks (Router.tasksFor (.query command decode) members) w = (.ok results, v) ∧
      results.map NodeResult.answer = answers.map .ok := by
  induction h generalizing w with
  | nil s => exact ⟨[], w, rfl, rfl⟩
  | @cons s node reply s' a nodes answers s'' hconnect hanswer hdecoded _ ih =>
    rw [← hw] at hanswer
    have hhold := hold_query hconnect hanswer hdecoded
    -- the others answer in the state that this node left
    obtain ⟨results, v, hrun, hresults⟩ := ih (w.lease node [command] s') rfl
    refine ⟨⟨node, none, .ok a⟩ :: results, v, ?_, ?_⟩
    · rw [Router.tasksFor, List.map_cons, Router.runTasks,
        Run.bind_of_ok (runTask_of_settles hhold (.value a)), ← Router.tasksFor,
        Run.bind_of_ok hrun]
      rfl
    · rw [List.map_cons, List.map_cons, hresults]
      rfl

theorem onMasters_answered (hruntime : r.insideRuntime = false) (hw : r.topology w = (.ok t, w'))
    (h : Answered r.network command decode w'.nodes t.activeMasters answers s) :
    ∃ results v, r.onMasters (.query command decode) w = (.ok ⟨results⟩, v) ∧
      results.map NodeResult.answer = answers.map .ok := by
  obtain ⟨results, v, htasks, hresults⟩ := runTasks_answered h w' rfl
  refine ⟨results, v, ?_, hresults⟩
  rw [Router.onMasters, Run.bind_of_ok hw]
  exact fanOut_of_ok hruntime htasks

theorem onMasters_inside (hruntime : r.insideRuntime = true) (hw : r.topology w = (.ok t, w'))
    (x : Exchange α) : r.onMasters x w = (.error (.failed (.cause .insideRuntime)), w') := by
  rw [Router.onMasters, Run.bind_of_ok hw, Router.fanOut, Router.fanOutWith, hruntime, if_pos rfl]
  rfl

end Answered

/-! ## Calls -/

/-- The calls that put the properties of all active masters into one map: the command, how a reply
is read, and which properties keep their names apart. -/
inductive PropertiesCall : Operation Properties → Command → Decoder Properties →
    (Properties → Prop) → Prop
  /-- The names that are read of a report hold no colon anyway. -/
  | info (extra) : PropertiesCall (.info extra) (.ofWords ("INFO" :: extra.toList))
      (fun reply => (Decode.string reply).map readInfo) fun _ => True
  | configuration (pattern) : PropertiesCall (.configuration pattern)
      (.ofWords ["CONFIG", "GET", pattern]) Decode.properties Properties.ColonFree

section Call

variable {op : Operation Properties} {command : Command} {decode : Decoder Properties}
  {Admits : Properties → Prop} (hcall : PropertiesCall op command decode Admits)

include hcall

theorem PropertiesCall.run_eq (r : Router σ) (w : World σ) :
    op.run r w =
      (r.onMasters (.query command decode) >>= fun m => .ofExcept (qualifiedAll m)) w := by
  cases hcall with
  | info extra => rw [Operation.run, Router.info, infoExchange, Exchange.query_map]
  | configuration pattern => rfl

theorem PropertiesCall.legible {reply : Reply} {p : Properties} (h : decode reply = .ok p) :
    p.Distinct ∧ (Admits p → p.ColonFree) := by
  cases hcall with
  | info extra =>
    dsimp only at h
    cases htext : Decode.string reply with
    | error e =>
      rw [htext] at h
      cases h
    | ok text =>
      rw [htext] at h
      cases h
      exact ⟨readInfo_distinct text, fun _ => readInfo_colonFree text⟩
  | configuration pattern =>
    refine ⟨?_, id⟩
    unfold Decode.properties at h
    split at h
    · next entries _ =>
      cases hentries : Decode.eachEntry Decode.string Decode.string entries with
      | error e =>
        rw [hentries] at h
        cases h
      | ok entries =>
        rw [hentries] at h
        cases h
        exact Properties.ofList_distinct entries
    · cases h

theorem PropertiesCall.run_answered (hruntime : r.insideRuntime = false)
    (hw : r.topology w = (.ok t, w')) {answers : List (Node × Properties)} {s : σ}
    (hanswers : Answered r.network command decode w'.nodes t.activeMasters answers s) :
    ∃ v, op.run r w =
      (.ok (.ofList (answers.flatMap fun answer => answer.2.under answer.1)), v) := by
  obtain ⟨results, v, hmasters, hresults⟩ := onMasters_answered hruntime hw hanswers
  have hqualified : qualifiedAll ⟨results⟩ =
      .ok (.ofList (answers.flatMap fun answer => answer.2.under answer.1)) := by
    rw [qualifiedAll_eq_answers, mapUntilError_of_map hresults]
    rfl
  refine ⟨v, ?_⟩
  rw [hcall.run_eq, Run.bind_of_ok hmasters, hqualified]
  rfl

/-- If every active master answers, the call returns one map, in which every property of every
master is found behind the address of its master. -/
theorem namespaced_call (hw : r.topology w = (.ok t, w')) {answers : List (Node × Properties)}
    {s : σ} (hanswers : Answered r.network command decode w'.nodes t.activeMasters answers s)
    (hadmits : ∀ answer ∈ answers, Admits answer.2) :
    answers.map (·.1) = t.activeMasters ∧
    (r.insideRuntime = false → ∃ whole v, op.run r w = (.ok whole, v)) ∧
    ∀ whole v, op.run r w = (.ok whole, v) → Namespaced answers whole := by
  have hnodes : DistinctAddresses (answers.map (·.1)) := by
    rw [hanswers.nodes]
    exact t.distinct.filter _
  have hlegible : ∀ answer ∈ answers, answer.2.Distinct ∧ answer.2.ColonFree := by
    intro answer hanswer
    obtain ⟨reply, hreply⟩ := hanswers.decoded answer hanswer
    obtain ⟨hdistinct, hcolon⟩ := hcall.legible hreply
    exact ⟨hdistinct, hcolon (hadmits answer hanswer)⟩
  refine ⟨hanswers.nodes, ?_, ?_⟩
  · intro hruntime
    obtain ⟨v, hrun⟩ := hcall.run_answered hruntime hw hanswers
    exact ⟨_, v, hrun⟩
  · intro whole v hwhole
    cases hruntime : r.insideRuntime with
    | true =>
      rw [hcall.run_eq, Run.bind_of_error (onMasters_inside hruntime hw _)] at hwhole
      cases hwhole
    | false =>
      obtain ⟨v', hrun⟩ := hcall.run_answered hruntime hw hanswers
      rw [hrun] at hwhole
      cases hwhole
      exact namespaced_ofList hnodes (fun answer hanswer => (hlegible answer hanswer).1)
        fun answer hanswer => (hlegible answer hanswer).2

end Call

namespace Lookalikes

def master (host : String) (port : UInt16) : Node := { host, port, role := some .master }

/-- The host of the second master is the name of a property of the first one. -/
def topology : Topology := .ofNodes [master "10.0.0.1" 1, master "10.0.0.1:1.tcp_port" 2]

/-- Every node tells its port. -/
def network : Network Unit where
  connect _ := .ok ()
  answer _ n _ := (.reply (.ok (.simple ("tcp_port:" ++ toString n.port))), ())

def router : Router Unit where
  source := .fixed topology
  network := network

def start : World Unit := { nodes := () }

def reported (n : Node) : Properties := ⟨[("tcp_port", toString n.port)]⟩

end Lookalikes

/-- The ports of both masters are found. -/
theorem namespaced_call_lookalikes :
    ∃ whole v, (Operation.info none).run Lookalikes.router Lookalikes.start = (.ok whole, v) ∧
      Namespaced (Lookalikes.topology.activeMasters.map fun n => (n, Lookalikes.reported n)) whole ∧
      whole.size = 2 := by
  have hanswers : Answered Lookalikes.network (.ofWords ["INFO"])
      (fun reply => (Decode.string reply).map readInfo) () Lookalikes.topology.activeMasters
      (Lookalikes.topology.activeMasters.map fun n => (n, Lookalikes.reported n)) () :=
    .cons rfl rfl (by decide +kernel) (.cons rfl rfl (by decide +kernel) (.nil ()))
  obtain ⟨-, hreturns, hnames⟩ := namespaced_call (r := Lookalikes.router) (.info none) rfl hanswers
    fun _ _ => trivial
  obtain ⟨whole, v, hrun⟩ := hreturns rfl
  have hwhole := hnames whole v hrun
  exact ⟨whole, v, hrun, hwhole, hwhole.size.trans (by decide +kernel)⟩

end SlotRouter
