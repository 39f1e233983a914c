import SlotRouter.Proofs.Network.Conversation
import SlotRouter.Router.Discovery

/-!
# Asking one node after the other

How the topology is fetched: the candidates are asked in turn until one of them gives a report that
lists a node.

* `Asked net n` : what comes of asking one node (`topologyFrom_asked`);
* `Failures net` : nodes that were asked in turn and failed, each with its own error;
* `Polled net nodes` : what comes of asking the nodes in turn, and which of them were asked
  (`fetchFirst_polled`, by induction on the candidates);
* `Consulted net asked` : what the log gains: one command for each node asked that gave a connection;
* `refresh_polled` : the same for a refresh, which keeps what it found and nothing else.
-/

namespace SlotRouter

variable {σ ε ε' : Type} {net : Network σ}

/-! ## One node -/

/-- What comes of asking one node for its report. -/
inductive Asked (net : Network σ) (n : Node) (s : σ) :
    Except (Stop ClusterError) Topology → σ → Prop
  /-- There is no connection to it. -/
  | unreached {e} : net.connect n = .error e → Asked net n s (.error (.failed e)) s
  /-- The reply is an error, or no text. -/
  | refused {reply e s'} : net.connect n = .ok () →
      net.answer s n nodesCommand = (.reply reply, s') →
      Exchange.decoded Decode.string reply = .error e →
      Asked net n s (.error (.failed e.toClusterError)) s'
  /-- The text is no report. -/
  | malformed {reply text e s'} : net.connect n = .ok () →
      net.answer s n nodesCommand = (.reply reply, s') →
      Exchange.decoded Decode.string reply = .ok text → readReport n.host text = .error e →
      Asked net n s (.error (.failed e)) s'
  /-- The report lists no node. -/
  | empty {reply text s'} : net.connect n = .ok () →
      net.answer s n nodesCommand = (.reply reply, s') →
      Exchange.decoded Decode.string reply = .ok text → readReport n.host text = .ok [] →
      Asked net n s (.error (.failed (.cause (.emptyReport n.address)))) s'
  /-- The report lists a node, so the snapshot of the listed nodes is the topology. -/
  | reported {reply text nodes s'} : net.connect n = .ok () →
      net.answer s n nodesCommand = (.reply reply, s') →
      Exchange.decoded Decode.string reply = .ok text → readReport n.host text = .ok nodes →
      nodes ≠ [] → Asked net n s (.ok (.ofNodes nodes)) s'
  /-- The task is torn down. -/
  | panicked {text s'} : net.connect n = .ok () →
      net.answer s n nodesCommand = (.panic text, s') →
      Asked net n s (.error (.panicked text)) s'
  /-- It does not answer. -/
  | hung {s'} : net.connect n = .ok () → net.answer s n nodesCommand = (.hang, s') →
      Asked net n s (.error .hung) s'

/-- The nodes that give a connection receive one command each. -/
def contacts (net : Network σ) (asked : List Node) : List (Node × Command) :=
  (asked.filter fun n => (net.connect n).isOk).map fun n => (n, nodesCommand)

theorem contacts_append (net : Network σ) (asked asked' : List Node) :
    contacts net (asked ++ asked') = contacts net asked ++ contacts net asked' := by
  unfold contacts
  rw [List.filter_append, List.map_append]

/-- The second world is the first one after the nodes were asked. -/
structure Consulted (net : Network σ) (asked : List Node) (w w' : World σ) : Prop where
  snapshot : w'.snapshot = w.snapshot
  log : ∃ log, w'.events = w.events ++ log ∧ receipts log = contacts net asked

theorem Consulted.refl (net : Network σ) (w : World σ) : Consulted net [] w w :=
  ⟨rfl, [], (List.append_nil _).symm, rfl⟩

theorem Consulted.trans {asked asked' : List Node} {u v w : World σ}
    (h : Consulted net asked u v) (h' : Consulted net asked' v w) :
    Consulted net (asked ++ asked') u w := by
  obtain ⟨log, hlog, hreceipts⟩ := h.log
  obtain ⟨log', hlog', hreceipts'⟩ := h'.log
  refine ⟨h'.snapshot.trans h.snapshot, log ++ log', ?_, ?_⟩
  · rw [hlog', hlog, List.append_assoc]
  · rw [receipts_append, hreceipts, hreceipts', contacts_append]

theorem Consulted.unreached {n : Node} {e : ClusterError} (hc : net.connect n = .error e)
    (w : World σ) : Consulted net [n] w w := by
  have hnone : contacts net [n] = [] := by simp [contacts, hc, Except.isOk, Except.toBool]
  exact ⟨rfl, [], (List.append_nil _).symm, by rw [hnone]; rfl⟩

theorem Consulted.lease {n : Node} (hc : net.connect n = .ok ()) (w : World σ) (s : σ) :
    Consulted net [n] w (w.lease n [nodesCommand] s) := by
  refine ⟨rfl, bracket n w.nextLease [nodesCommand], w.events_lease n [nodesCommand] s, ?_⟩
  rw [receipts_bracket]
  simp [contacts, hc, Except.isOk, Except.toBool]

/-- Noting a redirect changes nothing else. -/
theorem dismiss_apply (net : Network σ) (n : Node) (e : ClientError) (w : World σ) :
    ∃ w', (dismiss n e : Run σ ε Unit) w = (.ok (), w') ∧ w'.nodes = w.nodes ∧
      Consulted net [] w w' := by
  unfold dismiss
  cases e.redirect? with
  | none => exact ⟨w, rfl, rfl, .refl net w⟩
  | some redirect =>
    refine ⟨w.record (.redirected n redirect false), rfl, rfl, rfl, _, w.events_record _, ?_⟩
    rfl

theorem topologyFrom_asked (net : Network σ) (n : Node) (w : World σ) :
    Asked net n w.nodes (topologyFrom net n w).1 (topologyFrom net n w).2.nodes ∧
      Consulted net [n] w (topologyFrom net n w).2 := by
  unfold topologyFrom
  cases hc : net.connect n with
  | error e =>
    rw [Run.bind_of_error (exchangeWith_of_error hc _ w)]
    exact ⟨.unreached hc, .unreached hc w⟩
  | ok u =>
    rcases ha : net.answer w.nodes n nodesCommand with ⟨answer, s⟩
    have hlease : Consulted net [n] w (w.lease n [nodesCommand] s) := .lease hc w s
    have hx := exchangeWith_query hc ha Decode.string
    cases answer with
    | panic text =>
      rw [Run.bind_of_error hx]
      exact ⟨.panicked hc ha, hlease⟩
    | hang =>
      rw [Run.bind_of_error hx]
      exact ⟨.hung hc ha, hlease⟩
    | reply reply =>
      cases hd : Exchange.decoded Decode.string reply with
      | error e =>
        rw [Answer.outcome, hd] at hx
        rw [Run.bind_of_ok hx]
        obtain ⟨w', hdismiss, hnodes, hconsulted⟩ :=
          dismiss_apply (ε := ClusterError) net n e (w.lease n [nodesCommand] s)
        dsimp only
        rw [Run.bind_of_ok hdismiss]
        have hasked : Asked net n w.nodes (.error (.failed e.toClusterError)) w'.nodes := by
          rw [hnodes]
          exact .refused hc ha hd
        exact ⟨hasked, hlease.trans hconsulted⟩
      | ok text =>
        rw [Answer.outcome, hd] at hx
        rw [Run.bind_of_ok hx]
        dsimp only
        unfold topologyOfReport
        rcases hreport : readReport n.host text with e | nodes
        · exact ⟨.malformed hc ha hd hreport, hlease⟩
        · cases nodes with
          | nil => exact ⟨.empty hc ha hd hreport, hlease⟩
          | cons m rest => exact ⟨.reported hc ha hd hreport (List.cons_ne_nil m rest), hlease⟩

/-! ## Several nodes -/

/-- Nodes were asked in turn, and each of them failed with the error beside it. -/
inductive Failures (net : Network σ) : σ → List (Node × ClusterError) → σ → Prop
  | nil (s : σ) : Failures net s [] s
  | cons {n e failed s s' s''} : Asked net n s (.error (.failed e)) s' →
      Failures net s' failed s'' → Failures net s ((n, e) :: failed) s''

/-- What comes of asking the nodes in turn, and which of them were asked. The error of all failures
is `fail`. -/
inductive Polled (net : Network σ) (nodes : List Node) (s : σ)
    (fail : List (Node × ClusterError) → ε) : Except (Stop ε) Topology → List Node → σ → Prop
  /-- A node gave a topology, all before it failed, and those after it are not asked. -/
  | found {failed n rest s' t s''} : nodes = failed.map (·.1) ++ n :: rest →
      Failures net s failed s' → Asked net n s' (.ok t) s'' →
      Polled net nodes s fail (.ok t) (failed.map (·.1) ++ [n]) s''
  /-- All nodes failed. -/
  | exhausted {failed s'} : nodes = failed.map (·.1) → Failures net s failed s' →
      Polled net nodes s fail (.error (.failed (fail failed))) nodes s'
  /-- Asking a node tore the task down. -/
  | panicked {failed n rest s' text s''} : nodes = failed.map (·.1) ++ n :: rest →
      Failures net s failed s' → Asked net n s' (.error (.panicked text)) s'' →
      Polled net nodes s fail (.error (.panicked text)) (failed.map (·.1) ++ [n]) s''
  /-- A node does not answer. -/
  | hung {failed n rest s' s''} : nodes = failed.map (·.1) ++ n :: rest →
      Failures net s failed s' → Asked net n s' (.error .hung) s'' →
      Polled net nodes s fail (.error .hung) (failed.map (·.1) ++ [n]) s''

/-- The failures of nodes that were asked in vain, under their addresses. -/
def failureList (failed : List (Node × ClusterError)) : List (String × ClusterError) :=
  failed.map fun f => (f.1.address, f.2)

variable {nodes asked : List Node} {s s' : σ} {fail : List (Node × ClusterError) → ε}
  {outcome : Except (Stop ε) Topology}

theorem Polled.relabel (f : ε → ε') (h : Polled net nodes s fail outcome asked s') :
    Polled net nodes s (f ∘ fail) (relabelled f outcome) asked s' := by
  cases h with
  | found hnodes hfailed hasked => exact .found hnodes hfailed hasked
  | exhausted hnodes hfailed => exact .exhausted hnodes hfailed
  | panicked hnodes hfailed hasked => exact .panicked hnodes hfailed hasked
  | hung hnodes hfailed hasked => exact .hung hnodes hfailed hasked

/-- Where a topology was found, some node received the command. -/
theorem Polled.contacts_ne_nil {t : Topology} (h : Polled net nodes s fail (.ok t) asked s') :
    contacts net asked ≠ [] := by
  cases h with
  | @found failed n _ _ _ _ _ _ hasked =>
    cases hasked with
    | reported hc _ _ _ _ =>
      rw [contacts_append]
      simp [contacts, hc, Except.isOk, Except.toBool]

/-- A node that fails is put in front of what comes of the others. -/
theorem Polled.cons {n : Node} {e : ClusterError} {s₀ : σ}
    {outcome : Except (Stop (List (String × ClusterError))) Topology}
    (hasked : Asked net n s₀ (.error (.failed e)) s)
    (h : Polled net nodes s failureList outcome asked s') :
    Polled net (n :: nodes) s₀ failureList (relabelled ((n.address, e) :: ·) outcome) (n :: asked)
      s' := by
  cases h with
  | found hnodes hfailed hlast =>
    exact .found (congrArg (n :: ·) hnodes) (.cons hasked hfailed) hlast
  | exhausted hnodes hfailed => exact .exhausted (congrArg (n :: ·) hnodes) (.cons hasked hfailed)
  | panicked hnodes hfailed hlast =>
    exact .panicked (congrArg (n :: ·) hnodes) (.cons hasked hfailed) hlast
  | hung hnodes hfailed hlast =>
    exact .hung (congrArg (n :: ·) hnodes) (.cons hasked hfailed) hlast

theorem fetchFirst_polled (net : Network σ) (nodes : List Node) (w : World σ) :
    ∃ asked, Polled net nodes w.nodes failureList (fetchFirst net nodes w).1 asked
        (fetchFirst net nodes w).2.nodes ∧
      Consulted net asked w (fetchFirst net nodes w).2 := by
  induction nodes generalizing w with
  | nil => exact ⟨[], .exhausted rfl (.nil _), .refl net w⟩
  | cons n rest ih =>
    obtain ⟨hasked, hconsulted⟩ := topologyFrom_asked net n w
    have hattempt : ((topologyFrom net n).attempt :
        Run σ (List (String × ClusterError)) (Except ClusterError Topology)) w = _ :=
      Run.attempt_apply (topologyFrom net n) w
    have hfirst : n :: rest = ([] : List (Node × ClusterError)).map (·.1) ++ n :: rest := rfl
    rw [fetchFirst]
    rcases h : topologyFrom net n w with ⟨(e | text | _) | t, w'⟩ <;>
      rw [h] at hasked hconsulted hattempt
    · rw [Run.bind_of_ok hattempt]
      dsimp only
      rw [Run.mapError_eq]
      obtain ⟨asked, hpolled, hconsulted'⟩ := ih w'
      exact ⟨n :: asked, hpolled.cons hasked, hconsulted.trans hconsulted'⟩
    · rw [Run.bind_of_error hattempt]
      exact ⟨[n], .panicked hfirst (.nil _) hasked, hconsulted⟩
    · rw [Run.bind_of_error hattempt]
      exact ⟨[n], .hung hfirst (.nil _) hasked, hconsulted⟩
    · rw [Run.bind_of_ok hattempt]
      exact ⟨[n], .found hfirst (.nil _) hasked, hconsulted⟩

/-! ## A refresh -/

/-- What a refresh leaves in the snapshot: what it found, or what was there before. -/
def keptBy (last : Option Snapshot) :
    Except (Stop ClusterError) Snapshot → Option Snapshot
  | .ok s => some s
  | .error _ => last

theorem refresh_polled (net : Network σ) (seeds : List Node) (caching : Caching) (w : World σ) :
    ∃ asked log,
      Polled net (nodesToAsk seeds w.snapshot) w.nodes (retrievalFailure ∘ failureList)
        ((refresh net seeds caching w).1.map (·.topology)) asked
        (refresh net seeds caching w).2.nodes ∧
      (refresh net seeds caching w).2.events = w.events ++ log ∧
      receipts log = contacts net asked ∧
      (refresh net seeds caching w).2.snapshot =
        keptBy w.snapshot (refresh net seeds caching w).1 ∧
      ∀ s, (refresh net seeds caching w).1 = .ok s → s.fresh = decide (caching = .keep) := by
  obtain ⟨asked, hpolled, hconsulted⟩ := fetchFirst_polled net (nodesToAsk seeds w.snapshot) w
  obtain ⟨log, hlog, hreceipts⟩ := hconsulted.log
  have hfetch := Run.mapError_eq retrievalFailure (fetchFirst net (nodesToAsk seeds w.snapshot)) w
  have hrelabelled := hpolled.relabel retrievalFailure
  rw [refresh, Run.bind_read]
  rcases houtcome : relabelled retrievalFailure
    (fetchFirst net (nodesToAsk seeds w.snapshot) w).1 with stop | t
  · rw [houtcome] at hfetch hrelabelled
    rw [Run.bind_of_error hfetch]
    exact ⟨asked, log, hrelabelled, hlog, hreceipts, hconsulted.snapshot, by simp⟩
  · rw [houtcome] at hfetch hrelabelled
    rw [Run.bind_of_ok hfetch, Run.bind_modify, Run.pure_apply]
    refine ⟨asked, log ++ [.refreshed (w.snapshot.elim 0 (·.serial + 1))], hrelabelled, ?_, ?_, rfl,
      ?_⟩
    · rw [World.events_adopt, hlog, List.append_assoc]
    · rw [receipts_append, hreceipts]
      exact List.append_nil _
    · intro s hs
      cases hs
      rfl

end SlotRouter
