import SlotRouter.Network.Exchange
import SlotRouter.Network.Leases

/-!
# Conversations on leased connections

* `Talk net node x` : what is said when the exchange `x` is held with a node, and how it ends, as a
  relation between the nodes before and after (`converse_talk`); `Talk.of_query`,
  `Talk.after_query` : what is known once a reply is known;
* `AskingTalk` : the same after an `ASKING` (`AskingTalk.of_talk`);
* `World.hear`, `World.lease` : the world after a node received commands, and after it did so on a
  lease; `bracket` : the events of a lease (`events_lease`);
* `caught`, `relabelled` : outcomes of runs whose errors become values or other errors;
* `exchangeWith_of_error`, `exchangeWith_of_ok` : an exchange on a leased connection either gets no
  connection and changes nothing, or leaves exactly one bracket behind; `exchangeWith_query` : what
  comes of a single command;
* `receipts_append`, `receipts_bracket` : the commands that nodes received in a log;
* `append_eq_append_cons` : where an event of two logs stands.
-/

namespace SlotRouter

variable {σ α β ε ε' : Type} {net : Network σ} {node : Node}

/-! ## What is said -/

/-- The commands that a node receives in an exchange, the outcome, and the nodes afterwards. -/
inductive Talk (net : Network σ) (node : Node) :
    Exchange α → σ → List Command → Except (Stop ClientError) α → σ → Prop
  | value (a : α) (s : σ) : Talk net node (.finish (.ok a)) s [] (.ok a) s
  | error (e : ClientError) (s : σ) :
      Talk net node (.finish (.error e)) s [] (.error (.failed e)) s
  | collapse (text : String) (s : σ) :
      Talk net node (.collapse text) s [] (.error (.panicked text)) s
  | reply {command next reply s s' commands outcome s''} :
      net.answer s node command = (.reply reply, s') →
      Talk net node (next reply) s' commands outcome s'' →
      Talk net node (.send command next) s (command :: commands) outcome s''
  | panic {command next text s s'} : net.answer s node command = (.panic text, s') →
      Talk net node (.send command next) s [command] (.error (.panicked text)) s'
  | hang {command next s s'} : net.answer s node command = (.hang, s') →
      Talk net node (.send command next) s [command] (.error .hung) s'

/-- `ASKING` and, once the node accepted it, the exchange right after it. -/
inductive AskingTalk (net : Network σ) (node : Node) (x : Exchange α) :
    σ → List Command → Except (Stop ClientError) α → σ → Prop
  | accepted {reply s s' commands outcome s''} :
      net.answer s node Exchange.askingCommand = (.reply reply, s') →
      Exchange.decoded Decode.unit reply = .ok () →
      Talk net node x s' commands outcome s'' →
      AskingTalk net node x s (Exchange.askingCommand :: commands) outcome s''
  | refused {reply e s s'} :
      net.answer s node Exchange.askingCommand = (.reply reply, s') →
      Exchange.decoded Decode.unit reply = .error e →
      AskingTalk net node x s [Exchange.askingCommand] (.error (.failed e)) s'
  | panicked {text s s'} : net.answer s node Exchange.askingCommand = (.panic text, s') →
      AskingTalk net node x s [Exchange.askingCommand] (.error (.panicked text)) s'
  | hung {s s'} : net.answer s node Exchange.askingCommand = (.hang, s') →
      AskingTalk net node x s [Exchange.askingCommand] (.error .hung) s'

theorem AskingTalk.of_talk {x : Exchange α} {s s' : σ} {commands : List Command}
    {outcome : Except (Stop ClientError) α} (h : Talk net node x.asking s commands outcome s') :
    AskingTalk net node x s commands outcome s' := by
  cases h with
  | panic h => exact .panicked h
  | hang h => exact .hung h
  | @reply _ _ reply _ _ _ _ _ h rest =>
    dsimp only at rest
    cases hd : Exchange.decoded Decode.unit reply with
    | ok u =>
      rw [hd] at rest
      exact .accepted h hd rest
    | error e =>
      rw [hd] at rest
      cases rest
      exact .refused h hd

theorem Talk.commands_of_query {command : Command} {decode : Decoder α} {s s' : σ}
    {commands : List Command} {outcome : Except (Stop ClientError) α}
    (h : Talk net node (.query command decode) s commands outcome s') : commands = [command] := by
  cases h with
  | panic h => rfl
  | hang h => rfl
  | @reply _ _ reply _ _ _ _ _ h rest =>
    dsimp only at rest
    generalize Exchange.decoded decode reply = result at rest
    cases rest <;> rfl

section Known

variable {command : Command} {decode : Decoder α} {s s' v : σ} {commands : List Command}
  {reply : Except ClientError Reply} {a : α}

theorem Talk.of_query {outcome : Except (Stop ClientError) α}
    (h : Talk net node (.query command decode) s commands outcome s')
    (ha : net.answer s node command = (.reply reply, v))
    (hd : Exchange.decoded decode reply = .ok a) : outcome = .ok a ∧ s' = v := by
  cases h with
  | panic hanswer => cases ha.symm.trans hanswer
  | hang hanswer => cases ha.symm.trans hanswer
  | reply hanswer rest =>
    cases ha.symm.trans hanswer
    dsimp only at rest
    rw [hd] at rest
    cases rest
    exact ⟨rfl, rfl⟩

theorem Talk.after_query {f : α → Exchange β} {outcome : Except (Stop ClientError) β}
    (h : Talk net node ((Exchange.query command decode).andThen f) s commands outcome s')
    (ha : net.answer s node command = (.reply reply, v))
    (hd : Exchange.decoded decode reply = .ok a) :
    ∃ rest, Talk net node (f a) v rest outcome s' := by
  cases h with
  | panic hanswer => cases ha.symm.trans hanswer
  | hang hanswer => cases ha.symm.trans hanswer
  | reply hanswer rest =>
    cases ha.symm.trans hanswer
    dsimp only at rest
    rw [hd] at rest
    exact ⟨_, rest⟩

end Known

/-! ## What it does to the world -/

/-- A node received commands. -/
def World.hear (w : World σ) (node : Node) (commands : List Command) (nodes : σ) : World σ :=
  { w with nodes, history := (commands.map (.received node)).reverse ++ w.history }

/-- A node received commands on a leased connection. -/
def World.lease (w : World σ) (node : Node) (commands : List Command) (nodes : σ) : World σ :=
  ((w.record (.acquired node w.nextLease)).hear node commands nodes).record
    (.released node w.nextLease)

/-- The events of a lease. -/
def bracket (node : Node) (lease : Nat) (commands : List Command) : List Event :=
  .acquired node lease :: (commands.map (.received node) ++ [.released node lease])

theorem World.hear_hear (w : World σ) (node : Node) (first rest : List Command) (s s' : σ) :
    (w.hear node first s).hear node rest s' = w.hear node (first ++ rest) s' := by
  simp [World.hear]

section Deliver

variable {command : Command} {w : World σ} {s : σ}

theorem deliver_of_reply {reply : Except ClientError Reply}
    (h : net.answer w.nodes node command = (.reply reply, s)) :
    deliver net node command w = (.ok reply, w.hear node [command] s) := by
  unfold deliver
  dsimp only [World.record]
  rw [h]
  rfl

theorem deliver_of_panic {text : String}
    (h : net.answer w.nodes node command = (.panic text, s)) :
    deliver net node command w = (.error (.panicked text), w.hear node [command] s) := by
  unfold deliver
  dsimp only [World.record]
  rw [h]
  rfl

theorem deliver_of_hang (h : net.answer w.nodes node command = (.hang, s)) :
    deliver net node command w = (.error .hung, w.hear node [command] s) := by
  unfold deliver
  dsimp only [World.record]
  rw [h]
  rfl

end Deliver

/-- Every exchange ends, and leaves behind what was said. -/
theorem converse_talk (net : Network σ) (node : Node) (x : Exchange α) (w : World σ) :
    ∃ commands outcome s, Talk net node x w.nodes commands outcome s ∧
      converse net node x w = (outcome, w.hear node commands s) := by
  induction x generalizing w with
  | finish result =>
    cases result with
    | ok a => exact ⟨[], _, _, .value a w.nodes, rfl⟩
    | error e => exact ⟨[], _, _, .error e w.nodes, rfl⟩
  | collapse text => exact ⟨[], _, _, .collapse text w.nodes, rfl⟩
  | send command next ih =>
    rw [converse]
    rcases ha : net.answer w.nodes node command with ⟨reply | text | _, s⟩
    · obtain ⟨commands, outcome, s', ht, hc⟩ := ih reply (w.hear node [command] s)
      rw [Run.bind_of_ok (deliver_of_reply ha), hc, World.hear_hear]
      exact ⟨command :: commands, outcome, s', .reply ha ht, rfl⟩
    · rw [Run.bind_of_error (deliver_of_panic ha)]
      exact ⟨[command], _, s, .panic ha, rfl⟩
    · rw [Run.bind_of_error (deliver_of_hang ha)]
      exact ⟨[command], _, s, .hang ha, rfl⟩

/-- The outcome of a run whose errors were made values. -/
def caught : Except (Stop ε) α → Except (Stop ε') (Except ε α)
  | .ok a => .ok (.ok a)
  | .error (.failed e) => .ok (.error e)
  | .error (.panicked text) => .error (.panicked text)
  | .error .hung => .error .hung

theorem Run.attempt_apply (m : Run σ ε α) (w : World σ) :
    (m.attempt : Run σ ε' (Except ε α)) w = (caught (m w).1, (m w).2) := by
  unfold Run.attempt
  rcases m w with ⟨(⟨⟨e⟩ | text | _⟩ | a), w'⟩ <;> rfl

/-- An outcome under another error. -/
def relabelled (f : ε → ε') : Except (Stop ε) α → Except (Stop ε') α
  | .ok a => .ok a
  | .error (.failed e) => .error (.failed (f e))
  | .error (.panicked text) => .error (.panicked text)
  | .error .hung => .error .hung

theorem Run.mapError_eq (f : ε → ε') (m : Run σ ε α) (w : World σ) :
    m.mapError f w = (relabelled f (m w).1, (m w).2) := by
  unfold Run.mapError
  rcases m w with ⟨(⟨⟨e⟩ | text | _⟩ | a), w'⟩ <;> rfl

theorem exchangeWith_of_error {e : ClusterError} (h : net.connect node = .error e) (x : Exchange α)
    (w : World σ) : exchangeWith net node x w = (.error (.failed e), w) := by
  rw [exchangeWith, withLease, h]

theorem exchangeWith_of_ok (h : net.connect node = .ok ()) (x : Exchange α) (w : World σ) :
    ∃ commands outcome s, Talk net node x w.nodes commands outcome s ∧
      exchangeWith net node x w = (caught outcome, w.lease node commands s) := by
  obtain ⟨commands, outcome, s, ht, hc⟩ :=
    converse_talk net node x (w.record (.acquired node w.nextLease))
  refine ⟨commands, outcome, s, ht, ?_⟩
  rw [exchangeWith, withLease, h]
  dsimp only
  rw [Run.attempt_apply, hc]
  rfl

/-- How a command ends that is answered so. -/
def Answer.outcome (decode : Decoder α) : Answer → Except (Stop ClientError) α
  | .reply result => (Exchange.decoded decode result).mapError .failed
  | .panic text => .error (.panicked text)
  | .hang => .error .hung

/-- One command on a leased connection. -/
theorem exchangeWith_query {command : Command} {w : World σ} {answer : Answer} {s : σ}
    (hc : net.connect node = .ok ()) (ha : net.answer w.nodes node command = (answer, s))
    (decode : Decoder α) : exchangeWith net node (.query command decode) w =
      (caught (answer.outcome decode), w.lease node [command] s) := by
  have hbegin : net.answer (w.record (.acquired node w.nextLease)).nodes node command =
      (answer, s) := ha
  rw [exchangeWith, withLease, hc]
  dsimp only
  rw [Run.attempt_apply, Exchange.query, converse]
  cases answer with
  | reply reply =>
    rw [Run.bind_of_ok (deliver_of_reply hbegin), converse, Answer.outcome]
    cases Exchange.decoded decode reply <;> rfl
  | panic text =>
    rw [Run.bind_of_error (deliver_of_panic hbegin)]
    rfl
  | hang =>
    rw [Run.bind_of_error (deliver_of_hang hbegin)]
    rfl

/-! ## Events -/

@[simp] theorem World.events_record (w : World σ) (e : Event) :
    (w.record e).events = w.events ++ [e] := by
  simp [World.events, World.record]

@[simp] theorem World.events_lease (w : World σ) (node : Node) (commands : List Command) (s : σ) :
    (w.lease node commands s).events = w.events ++ bracket node w.nextLease commands := by
  simp [World.events, World.lease, World.hear, World.record, bracket]

@[simp] theorem World.events_adopt (w : World σ) (s : Snapshot) :
    (w.adopt s).events = w.events ++ [.refreshed s.serial] := by
  simp [World.adopt, World.events, World.record]

@[simp] theorem World.events_outdate (w : World σ) :
    w.outdate.events = w.events ++ [.invalidated] := by
  simp [World.outdate, World.events, World.record]

theorem World.nextLease_eq (w : World σ) : w.nextLease = (acquisitions w.events).length := by
  rw [World.nextLease, acquisitions, World.events, List.filterMap_reverse, List.length_reverse]

theorem receipts_append (a b : List Event) : receipts (a ++ b) = receipts a ++ receipts b :=
  List.filterMap_append

theorem receipts_bracket (node : Node) (lease : Nat) (commands : List Command) :
    receipts (bracket node lease commands) = commands.map fun command => (node, command) := by
  have hcommands : (commands.map (.received node)).filterMap Event.received? =
      commands.map fun command => (node, command) := by
    rw [List.filterMap_map]
    show commands.filterMap (some ∘ fun command => (node, command)) = _
    rw [List.filterMap_eq_map]
  rw [receipts, bracket, List.filterMap_cons_none rfl, List.filterMap_append, hcommands]
  exact List.append_nil _

/-- An event of two logs stands in the first or in the second one. -/
theorem append_eq_append_cons {a b pre post : List β} {e : β}
    (h : a ++ b = pre ++ e :: post) :
    (∃ l, a = pre ++ e :: l ∧ post = l ++ b) ∨ (∃ l, pre = a ++ l ∧ b = l ++ e :: post) := by
  rcases List.append_eq_append_iff.1 h with ⟨l, hpre, hb⟩ | ⟨l, ha, hl⟩
  · exact .inr ⟨l, hpre, hb⟩
  · cases l with
    | nil => exact .inr ⟨[], by simpa using ha.symm, by simpa using hl.symm⟩
    | cons e' l =>
      obtain ⟨rfl, rfl⟩ := List.cons.inj hl
      exact .inl ⟨l, ha, rfl⟩

end SlotRouter
