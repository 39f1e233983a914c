import Mathlib.Data.List.Chain
import SlotRouter.Proofs.Router.Step
import SlotRouter.Proofs.Topology.Lookup

/-!
# Commands follow the chain of their redirects

* `Hop` : one node was tried; `Hop.Made` : the exchange was held with it on one leased connection,
  right after an `ASKING` on the same connection if the hop is asking;
* `Router.Leads` : the redirect that ended one hop points to the next one;
* `Router.Concludes` : what the caller gets after the last hop;
* `RedirectChain` : all of it for one command, with what the log says about it, and how it grows by
  one hop (`RedirectChain.cons`);
* `follow_chain` : every run is such a chain, by induction on the redirects left;
* `hold_redirect_chain` : for a whole command, with the exact condition for giving up.
-/

namespace SlotRouter
open Relation (ReflTransGen)

variable {σ α : Type}

/-! ## Hops -/

/-- One node was tried. -/
structure Hop (σ α : Type) where
  node : Node
  /-- The last redirect asked for an `ASKING`. -/
  asking : Bool
  /-- The world when the connection was leased. -/
  before : World σ
  commands : List Command
  outcome : Except (Stop ClientError) α
  /-- The nodes when the connection was given back. -/
  nodes : σ

namespace Hop

/-- The world when the connection was given back. -/
def after (h : Hop σ α) : World σ := h.before.lease h.node h.commands h.nodes

/-- The redirect that ended the hop. -/
def redirect? (h : Hop σ α) : Option Redirect :=
  match h.outcome with
  | .error (.failed e) => e.redirect?
  | _ => none

/-- What the caller gets if the hop is the last one and no redirect ended it. -/
def verdict (h : Hop σ α) : Except (Stop ClusterError) α :=
  match h.outcome with
  | .ok a => .ok a
  | .error (.failed e) => .error (.failed e.toClusterError)
  | .error (.panicked text) => .error (.panicked text)
  | .error .hung => .error .hung

/-- The hop is what happens when an exchange is held on one connection to its node. -/
structure Made (net : Network σ) (x : Exchange α) (h : Hop σ α) : Prop where
  connected : net.connect h.node = .ok ()
  plain : h.asking = false → Talk net h.node x h.before.nodes h.commands h.outcome h.nodes
  asked : h.asking = true → AskingTalk net h.node x h.before.nodes h.commands h.outcome h.nodes

end Hop

/-! ## From hop to hop -/

/-- Looking for the topology, in steps of `Lookup` only, ends with a look at it. -/
def Router.Sees (r : Router σ) (v : World σ) (result : Except (Stop ClusterError) Topology)
    (w : World σ) : Prop :=
  ∃ u, ReflTransGen r.Lookup v u ∧ r.topology u = (result, w)

/-- The first hop ended in a redirect, and the second one goes where it points. -/
def Router.Leads (r : Router σ) (a b : Hop σ α) : Prop :=
  ∃ redirect t, a.redirect? = some redirect ∧ b.asking = redirect.ask ∧
    r.Sees (r.heed a.node redirect a.after).2 (.ok t) b.before ∧
    b.node ∈ t.nodes ∧ b.node.host = redirect.host ∧ b.node.port = redirect.port

/-- A redirect is followed, but not to a connection. -/
inductive Router.Strands (r : Router σ) (redirect : Redirect) (v : World σ) :
    Stop ClusterError → World σ → Prop
  /-- There is no topology. -/
  | blind {s w} : r.Sees v (.error s) w → r.Strands redirect v s w
  /-- The topology does not know the node. -/
  | unknown {t e w} : r.Sees v (.ok t) w →
      t.lookupAddress redirect.host redirect.port = .error e → r.Strands redirect v (.failed e) w
  /-- There is no connection to the node. -/
  | unreached {t n e w} : r.Sees v (.ok t) w →
      t.lookupAddress redirect.host redirect.port = .ok n → r.network.connect n = .error e →
      r.Strands redirect v (.failed e) w

/-- What the caller gets after these hops, when `left` redirects were to be followed. -/
inductive Router.Concludes (r : Router σ) (left : Nat) (node : Node) (w : World σ) :
    List (Hop σ α) → Except (Stop ClusterError) α × World σ → Prop
  /-- There was no connection to the first node. -/
  | unreached {e} : r.network.connect node = .error e →
      r.Concludes left node w [] (.error (.failed e), w)
  /-- No redirect ended the last hop. -/
  | ended (earlier) {last} : last.redirect? = none →
      r.Concludes left node w (earlier ++ [last]) (last.verdict, last.after)
  /-- All redirects are spent. -/
  | spent (earlier) {last redirect} : earlier.length = left → last.redirect? = some redirect →
      r.Concludes left node w (earlier ++ [last]) (.error (.failed (r.redirectsSpent redirect)),
        last.after.record (.redirected last.node redirect false))
  /-- The last redirect leads nowhere. -/
  | lost (earlier) {last redirect s w'} : earlier.length < left → last.redirect? = some redirect →
      r.Strands redirect (r.heed last.node redirect last.after).2 s w' →
      r.Concludes left node w (earlier ++ [last]) (.error s, w')

/-- The hops of a command, when `left` redirects are to be followed, and what the caller gets. -/
structure RedirectChain (r : Router σ) (x : Exchange α) (left : Nat) (asking : Bool) (node : Node)
    (w : World σ) (hops : List (Hop σ α)) (result : Except (Stop ClusterError) α × World σ) :
    Prop where
  length_le : hops.length ≤ left + 1
  made : ∀ h ∈ hops, h.Made r.network x
  first : ∀ h ∈ hops.head?, h.node = node ∧ h.asking = asking ∧ h.before = w
  led : hops.IsChain r.Leads
  concluded : r.Concludes left node w hops result
  log_prefix : w.events <+: result.2.events
  /-- The redirect of a hop is in the log, and the one that is not followed is the last possible. -/
  logged : ∀ {i hop redirect}, hops[i]? = some hop → hop.redirect? = some redirect →
    .redirected hop.node redirect (i < left) ∈ result.2.events

variable {r : Router σ}

theorem Router.Sees.log_prefix {v w : World σ} {result : Except (Stop ClusterError) Topology}
    (h : r.Sees v result w) : v.events <+: w.events := by
  obtain ⟨u, hsteps, hu⟩ := h
  have htopology := topology_takes r u
  rw [hu] at htopology
  exact log_prefix_of_lookups (hsteps.trans htopology)

theorem Router.Strands.log_prefix {redirect : Redirect} {v w : World σ} {s : Stop ClusterError}
    (h : r.Strands redirect v s w) : v.events <+: w.events := by
  cases h with
  | blind hsees => exact hsees.log_prefix
  | unknown hsees _ => exact hsees.log_prefix
  | unreached hsees _ _ => exact hsees.log_prefix

theorem Hop.log_prefix (hop : Hop σ α) : hop.before.events <+: hop.after.events := by
  rw [Hop.after, World.events_lease]
  exact List.prefix_append _ _

/-- The log of a hop that was redirected, once the redirect is followed. -/
theorem Hop.heed_log_prefix (hop : Hop σ α) (redirect : Redirect) :
    hop.before.events <+: (r.heed hop.node redirect hop.after).2.events ∧
      .redirected hop.node redirect true ∈ (r.heed hop.node redirect hop.after).2.events := by
  have hlog := SlotRouter.heed_log_prefix r hop.node redirect hop.after
  constructor
  · exact hop.log_prefix.trans ((List.prefix_append _ _).trans hlog)
  · exact hlog.subset (by simp)

/-- After one more hop that was redirected, the conclusion is the same. -/
theorem Router.Concludes.cons {left : Nat} {node target : Node} {w v v' : World σ}
    {hop : Hop σ α} {hops : List (Hop σ α)} {result : Except (Stop ClusterError) α × World σ}
    {redirect : Redirect} {t : Topology} (hredirect : hop.redirect? = some redirect)
    (hv : (r.heed hop.node redirect hop.after).2 = v) (hsees : r.Sees v (.ok t) v')
    (htarget : t.lookupAddress redirect.host redirect.port = .ok target)
    (h : r.Concludes left target v' hops result) :
    r.Concludes (left + 1) node w (hop :: hops) result := by
  cases h with
  | unreached he =>
    rw [← hv] at hsees
    exact .lost [] (Nat.succ_pos left) hredirect (.unreached hsees htarget he)
  | ended earlier hlast => exact .ended (hop :: earlier) hlast
  | spent earlier hlength hlast => exact .spent (hop :: earlier) (congrArg (· + 1) hlength) hlast
  | lost earlier hlength hlast hs =>
    exact .lost (hop :: earlier) (Nat.succ_lt_succ hlength) hlast hs

/-- A hop that was redirected, in front of the chain from where the redirect points. -/
theorem RedirectChain.cons {x : Exchange α} {left : Nat} {node target : Node} {w v v' : World σ}
    {asking : Bool} {hop : Hop σ α} {hops : List (Hop σ α)}
    {result : Except (Stop ClusterError) α × World σ} {redirect : Redirect} {t : Topology}
    (hmade : hop.Made r.network x)
    (hfirst : hop.node = node ∧ hop.asking = asking ∧ hop.before = w)
    (hredirect : hop.redirect? = some redirect)
    (hv : (r.heed hop.node redirect hop.after).2 = v) (hsees : r.Sees v (.ok t) v')
    (htarget : t.lookupAddress redirect.host redirect.port = .ok target)
    (h : RedirectChain r x left redirect.ask target v' hops result) :
    RedirectChain r x (left + 1) asking node w (hop :: hops) result where
  length_le := Nat.succ_le_succ h.length_le
  made := by
    intro m hm
    rcases List.mem_cons.1 hm with rfl | hm
    · exact hmade
    · exact h.made m hm
  first := by
    intro m hm
    obtain rfl := Option.some.inj hm
    exact hfirst
  led := by
    refine List.isChain_cons.2 ⟨?_, h.led⟩
    intro m hm
    -- the first hop of the rest is where the redirect points, so it is linked to the new one
    obtain ⟨hnode, hasking, hbefore⟩ := h.first m hm
    obtain ⟨hmem, hhost, hport⟩ := lookupAddress_ok htarget
    rw [← hv, ← hbefore] at hsees
    rw [← hnode] at hmem hhost hport
    exact ⟨redirect, t, hredirect, hasking, hsees, hmem, hhost, hport⟩
  concluded := h.concluded.cons hredirect hv hsees htarget
  log_prefix := by
    rw [← hfirst.2.2]
    rw [← hv] at hsees
    exact (hop.heed_log_prefix redirect).1.trans (hsees.log_prefix.trans h.log_prefix)
  logged := by
    intro i m rd hm hrd
    cases i with
    | zero =>
      obtain rfl := Option.some.inj hm
      obtain rfl := Option.some.inj (hredirect.symm.trans hrd)
      rw [← hv] at hsees
      rw [decide_eq_true left.succ_pos]
      exact (hsees.log_prefix.trans h.log_prefix).subset (hop.heed_log_prefix redirect).2
    | succ i =>
      have hfollowed : decide (i + 1 < left + 1) = decide (i < left) :=
        decide_eq_decide.2 Nat.succ_lt_succ_iff
      rw [hfollowed]
      exact h.logged hm hrd

/-! ## One hop -/

variable (r)

theorem tryOn_of_unconnected {node : Node} {e : ClusterError}
    (h : r.network.connect node = .error e) (x : Exchange α) (asking : Bool) (w : World σ) :
    r.tryOn x asking node w = (.error (.failed e), w) := by
  rw [Router.tryOn, Run.bind_of_error (exchangeWith_of_error h _ w)]

/-- A node that gives a connection is tried in one hop. -/
theorem tryOn_of_connected {node : Node} (h : r.network.connect node = .ok ()) (x : Exchange α)
    (asking : Bool) (w : World σ) :
    ∃ hop : Hop σ α, hop.Made r.network x ∧
      (hop.node = node ∧ hop.asking = asking ∧ hop.before = w) ∧
      r.tryOn x asking node w =
        (match hop.redirect? with
          | some redirect => .ok (.redirected redirect)
          | none => hop.verdict.map .done, hop.after) := by
  obtain ⟨commands, outcome, s, ht, he⟩ :=
    exchangeWith_of_ok h (if asking then x.asking else x) w
  refine ⟨⟨node, asking, w, commands, outcome, s⟩, ⟨h, ?_, ?_⟩, ⟨rfl, rfl, rfl⟩, ?_⟩
  · rintro rfl
    exact ht
  · rintro rfl
    exact .of_talk ht
  · rw [Router.tryOn]
    rcases outcome with (e | text | _) | a
    · rw [Run.bind_of_ok he]
      dsimp only [Hop.redirect?, Hop.verdict, Hop.after]
      rw [ClientError.toClusterError]
      cases e.redirect? <;> rfl
    · rw [Run.bind_of_error he]
      rfl
    · rw [Run.bind_of_error he]
      rfl
    · rw [Run.bind_of_ok he]
      rfl

/-- The node that a redirect names, or why there is none. -/
theorem nodeAt_sees (redirect : Redirect) (v : World σ) :
    (∃ t n w, r.nodeAt redirect v = (.ok n, w) ∧ r.Sees v (.ok t) w ∧
      t.lookupAddress redirect.host redirect.port = .ok n) ∨
    ∃ s w, r.nodeAt redirect v = (.error s, w) ∧ r.Strands redirect v s w := by
  rw [Router.nodeAt]
  rcases ht : r.topology v with ⟨s | t, w⟩
  · rw [Run.bind_of_error ht]
    exact .inr ⟨s, w, rfl, .blind ⟨v, .refl, ht⟩⟩
  rw [Run.bind_of_ok ht]
  cases hl : t.lookupAddress redirect.host redirect.port with
  | ok n => exact .inl ⟨t, n, w, rfl, ⟨v, .refl, ht⟩, hl⟩
  | error e =>
    -- the second look, after the snapshot became stale, is the one that counts
    have hsteps : ReflTransGen r.Lookup v (r.invalidate w).2 := by
      have htopology := topology_takes r v
      rw [ht] at htopology
      exact htopology.trans (invalidate_takes r w)
    dsimp only
    rw [Run.bind_of_ok (invalidate_ok r w)]
    rcases ht' : r.topology (r.invalidate w).2 with ⟨s | t', w'⟩
    · rw [Run.bind_of_error ht']
      exact .inr ⟨s, w', rfl, .blind ⟨_, hsteps, ht'⟩⟩
    rw [Run.bind_of_ok ht']
    cases hl' : t'.lookupAddress redirect.host redirect.port with
    | ok n => exact .inl ⟨t', n, w', rfl, ⟨_, hsteps, ht'⟩, hl'⟩
    | error e' => exact .inr ⟨.failed e', w', rfl, .unknown ⟨_, hsteps, ht'⟩ hl'⟩

/-! ## The chain -/

section Follow

variable {r} {x : Exchange α} {asking : Bool} {node : Node} {w w' : World σ}

theorem follow_of_stop {s : Stop ClusterError} (h : r.tryOn x asking node w = (.error s, w'))
    (left : Nat) : r.follow x left asking node w = (.error s, w') := by
  cases left <;> rw [Router.follow, Run.bind_of_error h]

theorem follow_of_done {a : α} (h : r.tryOn x asking node w = (.ok (.done a), w')) (left : Nat) :
    r.follow x left asking node w = (.ok a, w') := by
  cases left <;> rw [Router.follow, Run.bind_of_ok h] <;> rfl

theorem follow_of_verdict {hop : Hop σ α}
    (h : r.tryOn x asking node w = (hop.verdict.map .done, hop.after)) (left : Nat) :
    r.follow x left asking node w = (hop.verdict, hop.after) := by
  cases hv : hop.verdict with
  | error s => rw [follow_of_stop (h.trans (by rw [hv]; rfl))]
  | ok a => rw [follow_of_done (h.trans (by rw [hv]; rfl))]

theorem follow_of_spent {redirect : Redirect}
    (h : r.tryOn x asking node w = (.ok (.redirected redirect), w')) :
    r.follow x 0 asking node w = (.error (.failed (r.redirectsSpent redirect)),
      w'.record (.redirected node redirect false)) := by
  rw [Router.follow, Run.bind_of_ok h]
  rfl

theorem follow_of_redirected {redirect : Redirect}
    (h : r.tryOn x asking node w = (.ok (.redirected redirect), w')) (left : Nat) :
    r.follow x (left + 1) asking node w =
      (r.nodeAt redirect >>= fun target => r.follow x left redirect.ask target)
        (r.heed node redirect w').2 := by
  rw [Router.follow, Run.bind_of_ok h]
  exact Run.bind_of_ok (heed_ok r node redirect w') _

/-! A command that no redirect ends is over after its first exchange. -/

theorem hold_of_value {a : α} (h : exchangeWith r.network node x w = (.ok (.ok a), w')) :
    r.hold x node w = (.ok a, w') := by
  refine follow_of_done ?_ r.maxRedirects
  rw [Router.tryOn, if_neg Bool.false_ne_true, Run.bind_of_ok h]
  rfl

theorem hold_of_error {e : ClientError}
    (h : exchangeWith r.network node x w = (.ok (.error e), w')) (he : e.redirect? = none) :
    r.hold x node w = (.error (.failed e.toClusterError), w') := by
  refine follow_of_stop ?_ r.maxRedirects
  rw [Router.tryOn, if_neg Bool.false_ne_true, Run.bind_of_ok h]
  dsimp only
  rw [he]
  rfl

theorem hold_of_stop {s : Stop ClusterError} (h : exchangeWith r.network node x w = (.error s, w')) :
    r.hold x node w = (.error s, w') := by
  refine follow_of_stop ?_ r.maxRedirects
  rw [Router.tryOn, if_neg Bool.false_ne_true, Run.bind_of_error h]

end Follow

/-- A chain of one hop that ends the command. -/
theorem RedirectChain.single {x : Exchange α} {left : Nat} {node : Node} {w : World σ}
    {asking : Bool} {hop : Hop σ α} {result : Except (Stop ClusterError) α × World σ}
    (hmade : hop.Made r.network x)
    (hfirst : hop.node = node ∧ hop.asking = asking ∧ hop.before = w)
    (h : r.Concludes left node w [hop] result) (hlog : hop.before.events <+: result.2.events)
    (hlogged : ∀ redirect, hop.redirect? = some redirect →
      .redirected hop.node redirect (0 < left) ∈ result.2.events) :
    RedirectChain r x left asking node w [hop] result where
  length_le := Nat.succ_le_succ left.zero_le
  made := by
    intro m hm
    obtain rfl := List.mem_singleton.1 hm
    exact hmade
  first := by
    intro m hm
    obtain rfl := Option.some.inj hm
    exact hfirst
  led := .singleton hop
  concluded := h
  log_prefix := by
    rw [← hfirst.2.2]
    exact hlog
  logged := by
    intro i m redirect hm hredirect
    cases i with
    | zero =>
      obtain rfl := Option.some.inj hm
      exact hlogged redirect hredirect
    | succ i => cases hm

theorem RedirectChain.unreached {x : Exchange α} {left : Nat} {node : Node} {w : World σ}
    {asking : Bool} {e : ClusterError} (h : r.network.connect node = .error e) :
    RedirectChain r x left asking node w [] (.error (.failed e), w) where
  length_le := Nat.zero_le _
  made := by simp
  first := by simp
  led := .nil
  concluded := .unreached h
  log_prefix := List.prefix_rfl
  logged := by simp

/-- Whatever is left, the first hop ends the command unless it is redirected. -/
theorem follow_first (x : Exchange α) (left : Nat) (asking : Bool) (node : Node) (w : World σ) :
    (∃ hops, RedirectChain r x left asking node w hops (r.follow x left asking node w)) ∨
    ∃ (hop : Hop σ α) (redirect : Redirect), hop.Made r.network x ∧
      (hop.node = node ∧ hop.asking = asking ∧ hop.before = w) ∧
      hop.redirect? = some redirect ∧
      r.tryOn x asking node w = (.ok (.redirected redirect), hop.after) := by
  rcases hc : r.network.connect node with e | ⟨⟩
  · rw [follow_of_stop (tryOn_of_unconnected r hc x asking w)]
    exact .inl ⟨[], .unreached r hc⟩
  obtain ⟨hop, hmade, hfirst, htry⟩ := tryOn_of_connected r hc x asking w
  cases hr : hop.redirect? with
  | none =>
    rw [hr] at htry
    rw [follow_of_verdict htry]
    exact .inl ⟨[hop], .single r hmade hfirst (.ended [] hr) hop.log_prefix (by simp [hr])⟩
  | some redirect =>
    rw [hr] at htry
    exact .inr ⟨hop, redirect, hmade, hfirst, hr, htry⟩

/-- Every run is the chain of its redirects. -/
theorem follow_chain (x : Exchange α) (left : Nat) (asking : Bool) (node : Node) (w : World σ) :
    ∃ hops, RedirectChain r x left asking node w hops (r.follow x left asking node w) := by
  induction left generalizing asking node w with
  | zero =>
    rcases follow_first r x 0 asking node w with h | ⟨hop, redirect, hmade, hfirst, hr, htry⟩
    · exact h
    · rw [follow_of_spent htry, ← hfirst.1]
      refine ⟨[hop], .single r hmade ⟨rfl, hfirst.2⟩ (.spent [] rfl hr) ?_ ?_⟩
      · rw [World.events_record]
        exact hop.log_prefix.trans (List.prefix_append _ _)
      · intro redirect' hr'
        obtain rfl := Option.some.inj (hr.symm.trans hr')
        rw [World.events_record]
        exact List.mem_append_right _ (List.mem_singleton_self _)
  | succ left ih =>
    rcases follow_first r x (left + 1) asking node w
      with h | ⟨hop, redirect, hmade, hfirst, hr, htry⟩
    · exact h
    rw [follow_of_redirected htry, ← hfirst.1]
    rcases nodeAt_sees r redirect (r.heed hop.node redirect hop.after).2
      with ⟨t, n, w', hn, hsees, hlookup⟩ | ⟨s, w', hn, hstrands⟩
    · obtain ⟨hops, hchain⟩ := ih redirect.ask n w'
      rw [Run.bind_of_ok hn]
      exact ⟨hop :: hops, hchain.cons hmade ⟨rfl, hfirst.2⟩ hr rfl hsees hlookup⟩
    · rw [Run.bind_of_error hn]
      obtain ⟨hlog, hheeded⟩ := hop.heed_log_prefix (r := r) redirect
      refine ⟨[hop], .single r hmade ⟨rfl, hfirst.2⟩ (.lost [] left.succ_pos hr hstrands) ?_ ?_⟩
      · exact hlog.trans hstrands.log_prefix
      · intro redirect' hr'
        obtain rfl := Option.some.inj (hr.symm.trans hr')
        rw [decide_eq_true left.succ_pos]
        exact hstrands.log_prefix.subset hheeded

/-! ## Giving up -/

variable {r}

/-- An error that ends the last hop for good has another kind. -/
theorem Hop.verdict_kind {hop : Hop σ α} {e : ClusterError} (hr : hop.redirect? = none)
    (h : hop.verdict = .error (.failed e)) : e.kind ≠ .tooManyRedirects := by
  obtain ⟨node, asking, before, commands, (e' | text | _) | a, nodes⟩ := hop <;> cases h
  have hr' : e'.redirect? = none := hr
  rw [ClientError.toClusterError, hr', ClusterError.kind, ClientError.reportedKind]
  cases e'.kind <;> simp

theorem Router.Strands.kind {redirect : Redirect} {v w : World σ} {e : ClusterError}
    (h : r.Strands redirect v (.failed e) w) : e.kind = .clusterStateFailure ∨ r.Brings e := by
  cases h with
  | blind hsees =>
    obtain ⟨u, -, hu⟩ := hsees
    exact topology_fails r u e w hu
  | unknown _ hlookup => exact .inl (lookupAddress_error hlookup)
  | unreached _ _ hconnect => exact .inr (.inl ⟨_, hconnect⟩)

theorem exists_of_isChain {β : Type} {R : β → β → Prop} {earlier : List β} {last b : β}
    (h : (earlier ++ [last]).IsChain R) (hb : b ∈ earlier) : ∃ c, R b c := by
  induction earlier with
  | nil => cases hb
  | cons a rest ih =>
    rw [List.cons_append, List.isChain_cons] at h
    rcases List.mem_cons.1 hb with rfl | hb
    · cases rest with
      | nil => exact ⟨last, h.1 last rfl⟩
      | cons c rest => exact ⟨c, h.1 c rfl⟩
    · exact ih h.2 hb

namespace RedirectChain

variable {x : Exchange α} {left : Nat} {asking : Bool} {node : Node} {w : World σ}
  {hops : List (Hop σ α)} {result : Except (Stop ClusterError) α × World σ}

/-- Only without a connection to the first node there is no hop. -/
theorem unconnected (h : RedirectChain r x left asking node w [] result) :
    ∃ e, r.network.connect node = .error e := by
  have hconcluded := h.concluded
  have hne : ∀ (earlier : List (Hop σ α)) last, earlier ++ [last] ≠ [] := by simp
  generalize hhops : ([] : List (Hop σ α)) = hops at hconcluded
  cases hconcluded with
  | unreached hconnect => exact ⟨_, hconnect⟩
  | ended earlier _ => exact absurd hhops.symm (hne earlier _)
  | spent earlier _ _ => exact absurd hhops.symm (hne earlier _)
  | lost earlier _ _ _ => exact absurd hhops.symm (hne earlier _)

theorem first_of_connected (h : RedirectChain r x left asking node w hops result)
    (hconnect : r.network.connect node = .ok ()) :
    ∃ hop rest, hops = hop :: rest ∧ hop.node = node ∧ hop.asking = asking ∧ hop.before = w := by
  cases hops with
  | nil =>
    obtain ⟨e, he⟩ := h.unconnected
    rw [hconnect] at he
    cases he
  | cons hop rest =>
    obtain ⟨hnode, hasking, hbefore⟩ := h.first hop rfl
    exact ⟨hop, rest, rfl, hnode, hasking, hbefore⟩

/-- All hops before the last one were redirected. -/
theorem redirected {earlier : List (Hop σ α)} {last hop : Hop σ α}
    (h : RedirectChain r x left asking node w (earlier ++ [last]) result) (hhop : hop ∈ earlier) :
    hop.redirect?.isSome := by
  obtain ⟨next, redirect, t, hredirect, -⟩ := exists_of_isChain h.led hhop
  rw [hredirect]
  rfl

/-- Giving up takes all redirects. -/
theorem all_of_tooManyRedirects {e : ClusterError}
    (h : RedirectChain r x left asking node w hops result) (he : result.1 = .error (.failed e))
    (hkind : e.kind = .tooManyRedirects) :
    (hops.length = left + 1 ∧ ∀ hop ∈ hops, hop.redirect?.isSome) ∨ r.Brings e := by
  have hconcluded := h.concluded
  cases hconcluded with
  | unreached hconnect =>
    cases he
    exact .inr (.inl ⟨node, hconnect⟩)
  | ended earlier hlast => exact absurd hkind (Hop.verdict_kind hlast he)
  | spent earlier hlength hlast =>
    refine .inl ⟨by simp [hlength], ?_⟩
    intro hop hhop
    rcases List.mem_append.1 hhop with hhop | hhop
    · exact h.redirected hhop
    · rw [List.mem_singleton.1 hhop, hlast]
      rfl
  | lost earlier _ _ hstrands =>
    cases he
    rcases hstrands.kind with hother | hbrings
    · rw [hkind] at hother
      cases hother
    · exact .inr hbrings

/-- When all redirects were taken and the last hop was redirected too, the router gives up. -/
theorem tooManyRedirects_of_all (h : RedirectChain r x left asking node w hops result)
    (hlength : hops.length = left + 1) (hall : ∀ hop ∈ hops, hop.redirect?.isSome) :
    ∃ last redirect, hops.getLast? = some last ∧ last.redirect? = some redirect ∧
      result.1 = .error (.failed (r.redirectsSpent redirect)) := by
  have hconcluded := h.concluded
  cases hconcluded with
  | unreached _ => cases hlength
  | ended earlier hlast =>
    have hsome := hall _ (List.mem_append_right earlier (List.mem_singleton_self _))
    rw [hlast] at hsome
    cases hsome
  | @spent earlier last redirect _ hlast =>
    exact ⟨last, redirect, List.getLast?_concat, hlast, rfl⟩
  | lost earlier hless _ _ =>
    rw [List.length_append, List.length_singleton] at hlength
    omega

end RedirectChain

/-- A command takes at most one hop more than there are redirects to follow. The hops are the chain
of its redirects, and the caller gets what the last one gave. It is told of too many redirects
exactly when all hops were made and redirected, or when someone else brings that error. -/
theorem hold_redirect_chain (r : Router σ) (x : Exchange α) (node : Node) (w : World σ) :
    ∃ hops, RedirectChain r x r.maxRedirects false node w hops (r.hold x node w) ∧
      (∀ e, (r.hold x node w).1 = .error (.failed e) → e.kind = .tooManyRedirects →
        (hops.length = r.maxRedirects + 1 ∧ ∀ hop ∈ hops, hop.redirect?.isSome) ∨ r.Brings e) ∧
      (hops.length = r.maxRedirects + 1 → (∀ hop ∈ hops, hop.redirect?.isSome) →
        ∃ last redirect, hops.getLast? = some last ∧ last.redirect? = some redirect ∧
          (r.hold x node w).1 = .error (.failed (r.redirectsSpent redirect))) := by
  obtain ⟨hops, h⟩ := follow_chain r x r.maxRedirects false node w
  exact ⟨hops, h, fun e he hkind => h.all_of_tooManyRedirects he hkind, h.tooManyRedirects_of_all⟩

end SlotRouter
