import Mathlib.Data.List.Dedup
import SlotRouter.Proofs.Router.KeyTasks
import SlotRouter.Router.Keys

/-!
# Masters that share a store

What the commands on several keys give when all masters answer from one store of values. It makes no
difference whether the keys go out in one command or each on its own.

* `Store` : the value of each key that is present, with `occurrences`, `distinct` and `without`;
* `total_deletions`, `foldl_without` : deleting keys one by one, by induction on the keys;
* `KeyCommand`, `Honest` : what a master answers from the store, and what is left in it;
* `Answers` : a call ends with a value, leaves a store, and sent some commands;
* `answers_from_store` : `getMany`, `countExisting` and `delete` as functions of the store;
* `Halves` : two masters with one half of the slots each.
-/

namespace SlotRouter

/-! ## Stores -/

/-- The value of each key that is present. -/
abbrev Store : Type := Bytes → Option Bytes

namespace Store

variable {s : Store} {key : Bytes} {keys : List Bytes}

def present (s : Store) (key : Bytes) : Bool := (s key).isSome

/-- How many positions hold a key that is present. -/
def occurrences (s : Store) (keys : List Bytes) : Nat := keys.countP s.present

/-- How many keys are present, each counted once. -/
def distinct (s : Store) (keys : List Bytes) : Nat := keys.dedup.countP s.present

/-- The store without these keys. -/
def without (s : Store) (keys : List Bytes) : Store := fun key => if key ∈ keys then none else s key

theorem occurrences_le (s : Store) (keys : List Bytes) : s.occurrences keys ≤ keys.length :=
  List.countP_le_length

theorem distinct_le (s : Store) (keys : List Bytes) : s.distinct keys ≤ keys.length :=
  List.countP_le_length.trans (List.dedup_sublist keys).length_le

theorem occurrences_lt (s : Store) (key : Bytes) : s.occurrences [key] < wordCount :=
  Nat.lt_of_le_of_lt (s.occurrences_le [key]) (show 1 < wordCount by decide)

theorem total_occurrences (s : Store) (keys : List Bytes) :
    total (keys.map fun key => s.occurrences [key]) = s.occurrences keys := by
  induction keys with
  | nil => rfl
  | cons key rest ih =>
    have hcons : s.occurrences (key :: rest) = s.occurrences [key] + s.occurrences rest := by
      unfold occurrences
      rw [List.countP_cons, List.countP_singleton]
      omega
    rw [List.map_cons, total, ih, hcons]

theorem present_without (s : Store) (key other : Bytes) :
    (s.without [key]).present other = (s.present other && decide (other ≠ key)) := by
  unfold present without
  by_cases h : other = key <;> simp [h]

/-- The positions of one key apart from those of the others. -/
theorem countP_present (s : Store) (key : Bytes) (l : List Bytes) :
    l.countP s.present =
      l.countP (s.without [key]).present + if s.present key then l.count key else 0 := by
  induction l with
  | nil => simp
  | cons other l ih =>
    rw [List.countP_cons, List.countP_cons, List.count_cons, ih, present_without]
    by_cases hother : other = key
    · subst hother
      cases s.present other <;> simp
      omega
    · simp only [hother, beq_iff_eq, decide_not, decide_false, Bool.not_false, Bool.and_true,
        if_false, Nat.add_zero]
      omega

/-- A key is counted once, and then it is gone. -/
theorem distinct_cons (s : Store) (key : Bytes) (rest : List Bytes) :
    s.distinct (key :: rest) = s.distinct [key] + (s.without [key]).distinct rest := by
  have hone : s.distinct [key] = if s.present key then 1 else 0 := List.countP_singleton
  have hcount : (key :: rest).dedup.count key = 1 :=
    List.count_eq_one_of_mem (List.nodup_dedup _) (by simp)
  have hrest : (key :: rest).dedup.countP (s.without [key]).present =
      rest.dedup.countP (s.without [key]).present := by
    by_cases hmem : key ∈ rest
    · rw [List.dedup_cons_of_mem hmem]
    · have hgone : (s.without [key]).present key = false := by
        rw [present_without]
        simp
      rw [List.dedup_cons_of_notMem hmem, List.countP_cons_of_neg (by simp [hgone])]
  rw [hone]
  unfold distinct
  rw [countP_present s key, hcount, hrest]
  omega

/-- Deleting keys one by one counts each key that is present once. -/
theorem total_deletions (s : Store) (keys : List Bytes) :
    total (valuesFrom (fun s key => s.distinct [key]) (fun s key => s.without [key]) s keys) =
      s.distinct keys := by
  induction keys generalizing s with
  | nil => rfl
  | cons key rest ih => rw [valuesFrom, total, ih, ← distinct_cons]

theorem foldl_without (s : Store) (keys : List Bytes) :
    keys.foldl (fun s key => s.without [key]) s = s.without keys := by
  induction keys generalizing s with
  | nil =>
    funext key
    simp [without]
  | cons key rest ih =>
    rw [List.foldl_cons, ih]
    funext other
    unfold without
    by_cases hrest : other ∈ rest
    · simp [hrest]
    · by_cases hkey : other = key <;> simp [hrest, hkey]

end Store

/-! ## Honest masters -/

/-- The commands on keys that a master answers from the store. -/
inductive KeyCommand
  | get (key : Bytes)
  | getMany (keys : List Bytes)
  | count (keys : List Bytes)
  | delete (keys : List Bytes)

namespace KeyCommand

def keys : KeyCommand → List Bytes
  | get key => [key]
  | getMany keys | count keys | delete keys => keys

def command : KeyCommand → Command
  | get key => .withArgs ["GET"] [key]
  | getMany keys => .withArgs ["MGET"] keys
  | count keys => .withArgs ["EXISTS"] keys
  | delete keys => .withArgs ["DEL"] keys

/-- The reply with the value of a key. -/
def valueReply (s : Store) (key : Bytes) : Reply := (s key).elim .nil .bulk

def reply (s : Store) : KeyCommand → Reply
  | get key => valueReply s key
  | getMany keys => .array (keys.map (valueReply s))
  | count keys => .int (s.occurrences keys)
  | delete keys => .int (s.distinct keys)

/-- What it leaves in the store. -/
def after (s : Store) : KeyCommand → Store
  | get _ | getMany _ | count _ => s
  | delete keys => s.without keys

end KeyCommand

variable {σ α : Type} {t : Topology}

/-- Masters give connections and answer commands on their keys from one store, which is what `view`
sees of the nodes. -/
structure Honest (net : Network σ) (t : Topology) (view : σ → Store) : Prop where
  reachable : ∀ slot n, t.masterForSlot slot = some n → net.connect n = .ok ()
  answers : ∀ (s : σ) (n : Node) (c : KeyCommand), c.keys ≠ [] →
    (∀ key ∈ c.keys, t.masterForSlot (keySlot key) = some n) →
    ∃ s', net.answer s n c.command = (.reply (.ok (c.reply (view s))), s') ∧
      view s' = c.after (view s)

theorem decoded_value (s : Store) (key : Bytes) :
    Exchange.decoded (Decode.option Decode.bytes) (.ok (KeyCommand.valueReply s key)) =
      .ok (s key) := by
  unfold KeyCommand.valueReply
  cases s key <;> rfl

theorem decoded_values (s : Store) (keys : List Bytes) :
    Exchange.decoded (Decode.list (Decode.option Decode.bytes))
      (.ok (.array (keys.map (KeyCommand.valueReply s)))) = .ok (keys.map s) := by
  have hplain : ∀ keys : List Bytes,
      Reply.firstErrorOf? (keys.map (KeyCommand.valueReply s)) = none := by
    intro keys
    induction keys with
    | nil => rfl
    | cons key rest ih =>
      have hkey : (KeyCommand.valueReply s key).firstError? = none := by
        unfold KeyCommand.valueReply
        cases s key <;> rfl
      rw [List.map_cons, Reply.firstErrorOf?, hkey, ih]
      rfl
  have heach : ∀ keys : List Bytes, Decode.each (Decode.option Decode.bytes)
      (keys.map (KeyCommand.valueReply s)) = .ok (keys.map s) := by
    intro keys
    induction keys with
    | nil => rfl
    | cons key rest ih =>
      have hkey : Decode.option Decode.bytes (KeyCommand.valueReply s key) = .ok (s key) := by
        unfold KeyCommand.valueReply
        cases s key <;> rfl
      rw [List.map_cons, Decode.each, hkey]
      dsimp only
      rw [ih]
      rfl
  have hraised : (Reply.array (keys.map (KeyCommand.valueReply s))).raised =
      .ok (.array (keys.map (KeyCommand.valueReply s))) := by
    rw [Reply.raised, Reply.firstError?, hplain]
  rw [Exchange.decoded, hraised]
  exact heach keys

theorem decoded_count {n : Nat} (h : n < wordCount) :
    Exchange.decoded Decode.count (.ok (.int n)) = .ok n := by
  have hmod : ((n : Int) % (wordCount : Int)).toNat = n := by
    rw [Int.emod_eq_of_lt (Int.natCast_nonneg n) (Int.ofNat_lt.2 h), Int.toNat_natCast]
  show Except.ok ((n : Int) % (wordCount : Int)).toNat = .ok n
  rw [hmod]

section Honest

variable {r : Router σ} {view : σ → Store} {w : World σ}

/-- A command on keys of one master. -/
theorem Honest.hold_apply (h : Honest r.network t view) {c : KeyCommand} (hne : c.keys ≠ [])
    {n : Node} (hn : ∀ key ∈ c.keys, t.masterForSlot (keySlot key) = some n)
    {decode : Decoder α} {a : α}
    (hd : Exchange.decoded decode (.ok (c.reply (view w.nodes))) = .ok a) :
    ∃ s, r.hold (.query c.command decode) n w = (.ok a, w.lease n [c.command] s) ∧
      view s = c.after (view w.nodes) := by
  obtain ⟨s, hanswer, hview⟩ := h.answers w.nodes n c hne hn
  obtain ⟨key, hkey⟩ := List.exists_mem_of_ne_nil _ hne
  have hconnect := h.reachable _ n (hn key hkey)
  exact ⟨s, hold_query hconnect hanswer hd, hview⟩

theorem Honest.servesKeys (h : Honest r.network t view) {node : Bytes → Node} {keys : List Bytes}
    (hnode : ∀ key ∈ keys, t.masterForSlot (keySlot key) = some (node key))
    {c : Bytes → KeyCommand} (hc : ∀ key, (c key).keys = [key]) {decode : Decoder α}
    {value : Store → Bytes → α}
    (hd : ∀ s key, Exchange.decoded decode (.ok ((c key).reply s)) = .ok (value s key)) :
    ServesKeys r view node (fun key => .query (c key).command decode) (fun key => (c key).command)
      value (fun s key => (c key).after s) keys := by
  intro key hkey w
  have hne : (c key).keys ≠ [] := by
    rw [hc]
    exact List.cons_ne_nil _ _
  have hone : ∀ other ∈ (c key).keys, t.masterForSlot (keySlot other) = some (node key) := by
    rw [hc]
    exact fun other hother => List.mem_singleton.1 hother ▸ hnode key hkey
  exact h.hold_apply hne hone (hd (view w.nodes) key)

/-! ## Calls on several keys -/

/-- A call ends with a value and leaves a store. After looking at the topology, which led to `w'`,
it sent these commands. -/
def Answers (view : σ → Store) (w w' : World σ) (m : Run σ ClusterError α) (a : α) (left : Store)
    (sent : List (Node × Command)) : Prop :=
  ∃ v log, m w = (.ok a, v) ∧ view v.nodes = left ∧ v.events = w'.events ++ log ∧
    receipts log = sent

/-- The commands for keys: a single one if they share a slot, and else one for each key. -/
def sentFor (node : Bytes → Node) (many : List Bytes → KeyCommand) (one : Bytes → KeyCommand)
    (keys : List Bytes) : List (Node × Command) :=
  if SameSlot keys then keys.head?.toList.map fun key => (node key, (many keys).command)
  else keys.map fun key => (node key, (one key).command)

/-- What the calls on several keys give, whether the keys share a slot or not. -/
structure AnswersFromStore (r : Router σ) (view : σ → Store) (node : Bytes → Node)
    (keys : List Bytes) (w w' : World σ) : Prop where
  /-- The values of the keys, in their order. -/
  getMany : Answers view w w' (r.getMany keys (Decode.option Decode.bytes))
    (keys.map (view w'.nodes)) (view w'.nodes) (sentFor node .getMany .get keys)
  /-- The number of positions with a key that is present. -/
  countExisting : Answers view w w' (r.countExisting keys)
    ((view w'.nodes).occurrences keys) (view w'.nodes) (sentFor node .count (.count [·]) keys)
  /-- The number of keys that were present, which are gone. -/
  delete : Answers view w w' (r.delete keys)
    ((view w'.nodes).distinct keys) ((view w'.nodes).without keys)
    (sentFor node .delete (.delete [·]) keys)

variable {node : Bytes → Node} {keys : List Bytes} {w' : World σ}

/-- One command for keys that share a slot. -/
theorem Honest.onSlotOf_answers (h : Honest r.network t view)
    (hw : r.topology w = (.ok t, w')) (hne : keys ≠ []) (hsame : SameSlot keys)
    (hnode : ∀ key ∈ keys, t.masterForSlot (keySlot key) = some (node key))
    (many : List Bytes → KeyCommand) (one : Bytes → KeyCommand) (hkeys : (many keys).keys = keys)
    {decode : Decoder α} {a : α}
    (hd : Exchange.decoded decode (.ok ((many keys).reply (view w'.nodes))) = .ok a) :
    Answers view w w' (r.onSlotOf (.query (many keys).command decode) keys) a
      ((many keys).after (view w'.nodes)) (sentFor node many one keys) := by
  obtain ⟨first, rest, rfl⟩ := List.exists_cons_of_ne_nil hne
  have hfirst : first ∈ first :: rest := List.mem_cons_self
  have hmaster : ∀ key ∈ (many (first :: rest)).keys,
      t.masterForSlot (keySlot key) = some (node first) := by
    intro key hkey
    rw [hkeys] at hkey
    have hslot : keySlot key = keySlot first := by
      rcases List.mem_cons.1 hkey with rfl | hrest
      · rfl
      · exact hsame key hrest
    rw [hslot]
    exact hnode first hfirst
  obtain ⟨s, hhold, hview⟩ := h.hold_apply (w := w') (by rw [hkeys]; exact hne) hmaster hd
  have hcall := onSlotOf_apply hw (commonSlot_of_mem hsame hfirst) (hnode first hfirst)
    (.query (many (first :: rest)).command decode)
  refine ⟨_, _, hcall.trans hhold, hview, w'.events_lease _ _ s, ?_⟩
  rw [receipts_bracket, sentFor, if_pos hsame]
  rfl

/-- One command for each key. -/
theorem Honest.onEachKey_answers (h : Honest r.network t view)
    (hw : r.topology w = (.ok t, w')) (hruntime : r.insideRuntime = false)
    (hsame : ¬ SameSlot keys)
    (hnode : ∀ key ∈ keys, t.masterForSlot (keySlot key) = some (node key))
    (many : List Bytes → KeyCommand) (one : Bytes → KeyCommand) (hone : ∀ key, (one key).keys = [key])
    {decode : Decoder α} {value : Store → Bytes → α}
    (hd : ∀ s key, Exchange.decoded decode (.ok ((one key).reply s)) = .ok (value s key)) :
    ∃ m v log, r.onEachKey (fun key => .query (one key).command decode) keys w = (.ok m, v) ∧
      Keyed m.results keys.zipIdx
        (valuesFrom value (fun s key => (one key).after s) (view w'.nodes) keys) ∧
      view v.nodes = keys.foldl (fun s key => (one key).after s) (view w'.nodes) ∧
      v.events = w'.events ++ log ∧ receipts log = sentFor node many one keys := by
  rw [sentFor, if_neg hsame]
  exact onEachKey_served hw hruntime hnode (h.servesKeys hnode hone hd)

theorem sumCounts_ok {ε : Type} {counts : List Nat} (h : total counts < wordCount) (w : World σ) :
    (sumCounts counts : Run σ ε Nat) w = (.ok (total counts), w) := by
  rw [sumCounts, if_pos h]
  rfl

/-! ## Both ways -/

variable (h : Honest r.network t view) (hw : r.topology w = (.ok t, w'))
  (hruntime : r.insideRuntime = false) (hne : keys ≠ [])
  (hnode : ∀ key ∈ keys, t.masterForSlot (keySlot key) = some (node key))

include h hw hruntime hne hnode

theorem getMany_answers : Answers view w w' (r.getMany keys (Decode.option Decode.bytes))
    (keys.map (view w'.nodes)) (view w'.nodes) (sentFor node .getMany .get keys) := by
  unfold Answers Router.getMany
  rw [Run.bind_ofExcept_ok (refuseNoKeys_ok hne)]
  by_cases hsame : SameSlot keys
  · rw [if_pos hsame]
    exact h.onSlotOf_answers hw hne hsame hnode .getMany .get rfl (decoded_values _ keys)
  · obtain ⟨m, v, log, hrun, hkeyed, hview, hlog, hsent⟩ :=
      h.onEachKey_answers hw hruntime hsame hnode .getMany .get (fun _ => rfl) decoded_value
    have hvalues : valuesFrom (fun s key => s key) (fun s key => (KeyCommand.get key).after s)
        (view w'.nodes) keys = keys.map (view w'.nodes) := valuesFrom_const _ _ keys
    rw [hvalues] at hkeyed
    refine ⟨v, log, ?_, hview.trans (List.foldl_fixed keys), hlog, hsent⟩
    rw [if_neg hsame]
    refine (Run.bind_of_ok hrun _).trans ?_
    rw [hkeyed.read_inKeyOrder]
    rfl

variable (hlength : keys.length < wordCount)

include hlength

theorem countExisting_answers : Answers view w w' (r.countExisting keys)
    ((view w'.nodes).occurrences keys) (view w'.nodes) (sentFor node .count (.count [·]) keys) := by
  have hcount : (view w'.nodes).occurrences keys < wordCount :=
    Nat.lt_of_le_of_lt (Store.occurrences_le _ keys) hlength
  unfold Answers Router.countExisting
  rw [Run.bind_ofExcept_ok (refuseNoKeys_ok hne)]
  by_cases hsame : SameSlot keys
  · rw [if_pos hsame]
    exact h.onSlotOf_answers hw hne hsame hnode .count (.count [·]) rfl (decoded_count hcount)
  · obtain ⟨m, v, log, hrun, hkeyed, hview, hlog, hsent⟩ :=
      h.onEachKey_answers hw hruntime hsame hnode .count (.count [·]) (fun _ => rfl)
        fun s key => decoded_count (s.occurrences_lt key)
    have hvalues : valuesFrom (fun s key => s.occurrences [key])
        (fun s key => (KeyCommand.count [key]).after s) (view w'.nodes) keys =
          keys.map fun key => (view w'.nodes).occurrences [key] := valuesFrom_const _ _ keys
    rw [hvalues] at hkeyed
    have htotal := (view w'.nodes).total_occurrences keys
    refine ⟨v, log, ?_, hview.trans (List.foldl_fixed keys), hlog, hsent⟩
    rw [if_neg hsame]
    refine (Run.bind_of_ok hrun _).trans ?_
    rw [Run.bind_ofExcept_ok (hkeyed.read_tolerant "EXISTS"),
      sumCounts_ok (htotal.trans_lt hcount), htotal]

theorem delete_answers : Answers view w w' (r.delete keys)
    ((view w'.nodes).distinct keys) ((view w'.nodes).without keys)
    (sentFor node .delete (.delete [·]) keys) := by
  have hcount : (view w'.nodes).distinct keys < wordCount :=
    Nat.lt_of_le_of_lt (Store.distinct_le _ keys) hlength
  unfold Answers Router.delete
  rw [Run.bind_ofExcept_ok (refuseNoKeys_ok hne)]
  by_cases hsame : SameSlot keys
  · rw [if_pos hsame]
    exact h.onSlotOf_answers hw hne hsame hnode .delete (.delete [·]) rfl (decoded_count hcount)
  · obtain ⟨m, v, log, hrun, hkeyed, hview, hlog, hsent⟩ :=
      h.onEachKey_answers hw hruntime hsame hnode .delete (.delete [·]) (fun _ => rfl)
        fun s key => decoded_count (s.occurrences_lt key)
    have htotal : total (valuesFrom (fun s key => s.distinct [key])
        (fun s key => (KeyCommand.delete [key]).after s) (view w'.nodes) keys) =
          (view w'.nodes).distinct keys := Store.total_deletions _ keys
    refine ⟨v, log, ?_, hview.trans (Store.foldl_without _ keys), hlog, hsent⟩
    rw [if_neg hsame]
    refine (Run.bind_of_ok hrun _).trans ?_
    rw [Run.bind_ofExcept_ok hkeyed.read_values, sumCounts_ok (htotal.trans_lt hcount), htotal]

end Honest

/-- If all masters answer from one store, the calls on several keys give the same values and leave
the same store whether the keys share a slot or not. (The length of a list is a word, so counts of
its positions are not cut off.) -/
theorem answers_from_store {r : Router σ} {view : σ → Store} {node : Bytes → Node}
    {keys : List Bytes} {w w' : World σ} (h : Honest r.network t view)
    (hw : r.topology w = (.ok t, w')) (hruntime : r.insideRuntime = false) (hne : keys ≠ [])
    (hlength : keys.length < wordCount)
    (hnode : ∀ key ∈ keys, t.masterForSlot (keySlot key) = some (node key)) :
    AnswersFromStore r view node keys w w' :=
  ⟨getMany_answers h hw hruntime hne hnode,
    countExisting_answers h hw hruntime hne hnode hlength,
    delete_answers h hw hruntime hne hnode hlength⟩

/-! ## Two masters -/

namespace Halves

def first : Node where
  host := "10.0.0.1"
  port := 1
  role := some .master
  slots := ⟨[⟨0, 8191⟩], by decide, by decide, by decide, trivial⟩

def second : Node where
  host := "10.0.0.2"
  port := 2
  role := some .master
  slots := ⟨[⟨8192, 16383⟩], by decide, by decide, by decide, trivial⟩

def topology : Topology := .ofNodes [first, second]

/-- Any node answers from the store. -/
def answer (s : Store) (command : Command) : Answer × Store :=
  match command.args with
  | [] => (.hang, s)
  | name :: keys =>
    if name = bytesOf "GET" then (.reply (.ok (KeyCommand.valueReply s (keys.headD []))), s)
    else if name = bytesOf "MGET" then
      (.reply (.ok (.array (keys.map (KeyCommand.valueReply s)))), s)
    else if name = bytesOf "EXISTS" then (.reply (.ok (.int (s.occurrences keys))), s)
    else (.reply (.ok (.int (s.distinct keys))), s.without keys)

theorem answer_command (s : Store) (c : KeyCommand) :
    answer s c.command = (.reply (.ok (c.reply s)), c.after s) := by
  cases c <;> rfl

def router : Router Store where
  source := .fixed topology
  network := ⟨fun _ => .ok (), fun s _ command => answer s command⟩

theorem honest : Honest router.network topology id where
  reachable _ _ _ := rfl
  answers s _ c _ _ := ⟨c.after s, answer_command s c, rfl⟩

/-- One key is present. -/
def start : World Store where
  nodes key := if key = [0x61] then some [0x31] else none

/-- It stands twice beside a key of the other master. -/
def keys : List Bytes := [[0x61], [0x62], [0x61]]

def node (key : Bytes) : Node := if keySlot key < 8192 then first else second

theorem claims_slotTable :
    topology.slotTable.claims = [(⟨0, 8191⟩, first), (⟨8192, 16383⟩, second)] := by
  have hclaims : topology.claims = [(⟨0, 8191⟩, first), (⟨8192, 16383⟩, second)] := by
    decide +kernel
  have hsorted : topology.claims.Pairwise fun a b => a.1.before b.1 := by
    rw [hclaims]
    decide +kernel
  rw [Topology.slotTable, SlotTable.ofClaims, List.mergeSort_of_pairwise hsorted, hclaims]
  decide +kernel

theorem masterForSlot_keys :
    ∀ key ∈ keys, topology.masterForSlot (keySlot key) = some (node key) := by
  unfold Topology.masterForSlot SlotTable.owner?
  rw [claims_slotTable]
  decide +kernel

end Halves

theorem answers_from_store_halves :
    AnswersFromStore Halves.router id Halves.node Halves.keys Halves.start Halves.start :=
  answers_from_store Halves.honest rfl rfl (by decide) (by decide) Halves.masterForSlot_keys

end SlotRouter
